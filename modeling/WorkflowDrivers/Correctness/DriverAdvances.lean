import WorkflowDrivers.Correctness.DriverPolicy

/-!
# `Correctness.DriverAdvances` — the drivers' edges against the policy tables

The drivers look the signal of an edge up in their own tables, the phase policies list the signals of a phase
in other ones. An advance passes its policy exactly when the policy lists its signal
(`validate_advanceDecision`), so the question is one of the tables: every edge of the project driver is listed,
and every edge of the task driver but one, the rescope edge out of the review repair loop.
-/

namespace WorkflowDrivers
open Lib StrEnum

/-! ## When an advance is allowed -/

section
variable {kind : DriverKind} {policy : PhasePolicy} {decisionId decidedAt fromPhase toPhase : String}

theorem advanceDecision_allowed {signal : ProgressSignal}
    {authorization : Option DriverAuthorizationEvidence} :
    PolicyAllows kind policy (advanceDecision decisionId decidedAt fromPhase toPhase (some signal) authorization)
      ↔ signal ∈ policy.allowedSignals := by
  rw [policyAllows_plain_iff rfl rfl]
  constructor
  · rintro ⟨hsignal, -, -⟩
    exact hsignal signal rfl
  · intro hlisted
    refine ⟨?_, ?_, WorkflowDecision.not_stalled_of_signal rfl⟩
    · intro s hs
      obtain rfl : signal = s := Option.some.inj hs
      exact hlisted
    · exact fun outcome h => absurd h (Option.not_mem_none outcome)

/-- An advance passes the policy of its source phase exactly when the policy lists its signal. -/
theorem validate_advanceDecision {signal : ProgressSignal}
    {authorization : Option DriverAuthorizationEvidence}
    (hpolicy : templatePhasePolicy? kind fromPhase = some policy) :
    validateDecisionAgainstPhasePolicy kind
        (advanceDecision decisionId decidedAt fromPhase toPhase (some signal) authorization)
      = .ok (advanceDecision decisionId decidedAt fromPhase toPhase (some signal) authorization)
      ↔ signal ∈ policy.allowedSignals := by
  rw [validate_iff_allows hpolicy]
  exact advanceDecision_allowed

/-- Being done passes where the policy lists the signal, if there is one, and the outcome. -/
theorem validate_doneDecision {signal : Option ProgressSignal} {evidenceRefs : List EvidenceRef}
    (hpolicy : templatePhasePolicy? kind fromPhase = some policy)
    (hsignal : ∀ s ∈ signal, s ∈ policy.allowedSignals) (hdone : .done ∈ policy.terminalOutcomes) :
    validateDecisionAgainstPhasePolicy kind
        (doneDecision decisionId decidedAt fromPhase toPhase signal evidenceRefs)
      = .ok (doneDecision decisionId decidedAt fromPhase toPhase signal evidenceRefs) := by
  rw [validate_iff_allows hpolicy, policyAllows_plain_iff rfl rfl]
  refine ⟨hsignal, ?_, WorkflowDecision.not_stalled_of_terminal rfl⟩
  intro outcome h
  obtain rfl : TerminalOutcome.done = outcome := Option.some.inj h
  exact hdone

end

/-! ## Comparing the tables -/

/-- The policies list the signal of every edge of the project driver. -/
theorem project_edge_listed : ∀ entry ∈ projectTransitionSignals,
    entry.2 ∈ (projectPhasePolicies entry.1.1).allowedSignals := by decide

/-- The policies list the signal of every edge of the task driver but the rescope edge. -/
theorem task_edge_listed_iff : ∀ entry ∈ taskTransitionSignals,
    (entry.2 ∈ (taskPhasePolicies entry.1.1).allowedSignals ↔ entry.1 ≠ (.fixingReview, .rescopeRequested)) := by
  decide

/-- The final phases list DONE, and the signal with which they lead there. -/
theorem done_phase_listed : ∀ phase ∈ [ProjectIntakePhase.finalReport, .done],
    .done ∈ (projectPhasePolicies phase).terminalOutcomes
      ∧ ∀ s ∈ projectTransitionSignals.lookup (phase, .done),
          s ∈ (projectPhasePolicies phase).allowedSignals := by decide

/-- The rescope edge is taken out of the repair loop when its limit is reached. -/
theorem rescope_edge_iff {state : TaskState} (hb : state.blocker = none) :
    (state.phase, nextTaskPhase state) = (.fixingReview, .rescopeRequested)
      ↔ state.phase = .fixingReview ∧ state.maxReviewLoops ≤ state.reviewLoopCount := by
  rw [Prod.mk.injEq]
  constructor
  · rintro ⟨hphase, hnext⟩
    refine ⟨hphase, ?_⟩
    rw [nextTaskPhase, hb, hphase] at hnext
    by_contra hloops
    simp [hloops] at hnext
  · rintro ⟨hphase, hloops⟩
    refine ⟨hphase, ?_⟩
    rw [nextTaskPhase, hb, hphase]
    exact if_pos hloops

/-! ## The drivers -/

section
variable {d : WorkflowDecision}

/-- An advance of the project driver passes its policy. -/
theorem project_advance_legal [UnicodeData] {state : ProjectState} {args : ProjectTransitionArgs}
    (hd : decideNextProjectTransition state args = .ok d) (hmaterial : d.materialProgress = true)
    (hblocker : d.blockerToRecord = none) : validateDecisionAgainstPhasePolicy .softwareProject d = .ok d := by
  obtain ⟨result, hresult, hmove⟩ := decideNextProjectTransition_returned hd
  cases hmove with
  | blockedNeedsWait hb hw => cases hresult
  | needsWait hb hdone hw => cases hresult
  | gateBlocked hgate hne => exact absurd hblocker (emitted_blocker hresult)
  | blocked hgate hb hne => exact absurd hblocker (emitted_blocker hresult)
  | doneBlocked hb hdone hproof => exact absurd hblocker (emitted_blocker hresult)
  | reviewBlocked hb hphase => exact absurd hblocker (emitted_blocker hresult)
  | blockedWait hb hsame hw => exact absurd hmaterial (emitted_wait hresult)
  | reviewWait hb hphase hw => exact absurd hmaterial (emitted_wait hresult)
  | wait hb hdone hsame hw => exact absurd hmaterial (emitted_wait hresult)
  | done hb hdone hproof =>
      obtain ⟨rfl, -⟩ := emit_eq_ok.mp hresult.symm
      have hphase : state.phase ∈ [ProjectIntakePhase.finalReport, .done] := by
        simpa using (nextProjectPhase_eq_done hb).mp hdone
      obtain ⟨hterminal, hsignal⟩ := done_phase_listed state.phase hphase
      exact validate_doneDecision (templatePhasePolicy?_project state.phase) hsignal hterminal
  | advance hgate hb hdone hne hsignal hplain hto =>
      obtain ⟨rfl, -⟩ := emit_eq_ok.mp hresult.symm
      exact (validate_advanceDecision (templatePhasePolicy?_project state.phase)).mpr
        (project_edge_listed _ (mem_of_lookup_eq_some hsignal))

/-- An advance of the task driver passes its policy exactly when it does not take the rescope edge. -/
theorem task_advance_legal_iff {state : TaskState} {args : TransitionArgs}
    (hd : decideNextTaskTransition state args = .ok d) (hmaterial : d.materialProgress = true)
    (hblocker : d.blockerToRecord = none) :
    validateDecisionAgainstPhasePolicy .softwareTask d = .ok d
      ↔ ¬(state.phase = .fixingReview ∧ state.maxReviewLoops ≤ state.reviewLoopCount) := by
  obtain ⟨result, hresult, hmove⟩ := decideNextTaskTransition_returned hd
  cases hmove with
  | blockedNeedsWait hb hw => cases hresult
  | needsWait hb hw => cases hresult
  | blocked hb hne => exact absurd hblocker (emitted_blocker hresult)
  | reviewBlocked hb hphase => exact absurd hblocker (emitted_blocker hresult)
  | blockedWait hb hsame hw => exact absurd hmaterial (emitted_wait hresult)
  | reviewWait hb hphase hw => exact absurd hmaterial (emitted_wait hresult)
  | wait hb hsame hw => exact absurd hmaterial (emitted_wait hresult)
  | advance hb hne hsignal hplain hto =>
      obtain ⟨rfl, -⟩ := emit_eq_ok.mp hresult.symm
      rw [validate_advanceDecision (templatePhasePolicy?_task state.phase),
        task_edge_listed_iff _ (mem_of_lookup_eq_some hsignal), ne_eq, rescope_edge_iff hb]

end

/-- **Which advances are legal.** Every advance of the project driver passes the phase policy; one of the task
    driver passes exactly when it is not the rescope out of the review repair loop at its limit. -/
theorem advance_legal_iff [UnicodeData] :
    (∀ (state : ProjectState) (args : ProjectTransitionArgs) (d : WorkflowDecision),
      decideNextProjectTransition state args = .ok d → d.materialProgress = true → d.blockerToRecord = none →
      validateDecisionAgainstPhasePolicy .softwareProject d = .ok d)
    ∧ (∀ (state : TaskState) (args : TransitionArgs) (d : WorkflowDecision),
      decideNextTaskTransition state args = .ok d → d.materialProgress = true → d.blockerToRecord = none →
      (validateDecisionAgainstPhasePolicy .softwareTask d = .ok d
        ↔ ¬(state.phase = .fixingReview ∧ state.maxReviewLoops ≤ state.reviewLoopCount))) :=
  ⟨fun _ _ _ hd hmaterial hblocker => project_advance_legal hd hmaterial hblocker,
    fun _ _ _ hd hmaterial hblocker => task_advance_legal_iff hd hmaterial hblocker⟩

/-- The findings of a first review are repaired. -/
theorem advance_legal_iff_repair :
    validateDecisionAgainstPhasePolicy .softwareTask
        (advanceDecision "T-1:FIXING_REVIEW:to:IMPLEMENTING" "T1" "FIXING_REVIEW" "IMPLEMENTING"
          (some .reviewFindingsAccepted) none)
      = .ok (advanceDecision "T-1:FIXING_REVIEW:to:IMPLEMENTING" "T1" "FIXING_REVIEW" "IMPLEMENTING"
          (some .reviewFindingsAccepted) none) :=
  ((@advance_legal_iff asciiOnly).2 { id := "T-1", phase := .fixingReview, reviewLoopCount := 1 }
    { decidedAt := "T1" } _ (by decide +kernel) rfl rfl).mpr (by decide)

/-- **The rescope of the task driver is rejected by its own policy**: at the limit of the repair loop it asks for
    a rescope, which the policy of that phase does not list. -/
theorem advance_not_always_legal :
    ¬((∀ (state : ProjectState) (args : ProjectTransitionArgs) (d : WorkflowDecision),
        @decideNextProjectTransition asciiOnly state args = .ok d → d.materialProgress = true →
        d.blockerToRecord = none → validateDecisionAgainstPhasePolicy .softwareProject d = .ok d)
      ∧ (∀ (state : TaskState) (args : TransitionArgs) (d : WorkflowDecision),
        decideNextTaskTransition state args = .ok d → d.materialProgress = true → d.blockerToRecord = none →
        validateDecisionAgainstPhasePolicy .softwareTask d = .ok d)) := by
  rintro ⟨-, htask⟩
  have hlegal := htask { id := "T-1", phase := .fixingReview, reviewLoopCount := 3 } { decidedAt := "T1" }
    (advanceDecision "T-1:FIXING_REVIEW:to:RESCOPE_REQUESTED" "T1" "FIXING_REVIEW" "RESCOPE_REQUESTED"
      (some .taskRescopeRequested) none)
    (by decide +kernel) rfl rfl
  exact absurd hlegal (by decide +kernel)

end WorkflowDrivers
