import WorkflowDrivers.Correctness.PolicyOutcomes
import WorkflowDrivers.Correctness.DriverRuns

/-!
# `Correctness.WaitEscalation` — what a wait promises can be kept

A wait names what is to happen when its threshold passes: another try, a blocker for one of the owners, or a
failure. The policy checks that against the phase the wait is started in, and then the record may sit in another
phase. The drivers start waits where they are, or on the way from the review request into the review wait, and on
both sides of that edge the policies agree. So in a run whose waits are started like this, a record never holds a
wait that is to fail, and the blocker a wait promises can be recorded from wherever the record is.
-/

namespace WorkflowDrivers
open Lib StrEnum

/-! ## Where waits are started -/

/-- A wait without a blocker stays in its phase, or takes the edge into the review wait. -/
def WaitsInPlace (d : WorkflowDecision) : Prop :=
  d.waitToStart.isSome = true → d.blockerToRecord = none →
    d.toPhase = d.fromPhase ∨ (d.fromPhase = "REVIEW_REQUESTED" ∧ d.toPhase = "REVIEW_WAIT")

/-- A decision that starts no wait. -/
theorem waitsInPlace_of_none {d : WorkflowDecision} (h : d.waitToStart = none) : WaitsInPlace d := by
  intro hsome
  rw [h] at hsome
  cases hsome

/-- A decision that records a blocker. -/
theorem waitsInPlace_of_blocker {d : WorkflowDecision} (h : d.blockerToRecord ≠ none) : WaitsInPlace d :=
  fun _ hnone => absurd hnone h

/-- The task driver starts its waits in place. -/
theorem task_waitsInPlace {state : TaskState} {args : TransitionArgs} {d : WorkflowDecision}
    (hd : decideNextTaskTransition state args = .ok d) : WaitsInPlace d := by
  obtain ⟨result, hresult, hmove⟩ := decideNextTaskTransition_returned hd
  cases hmove with
  | blockedNeedsWait hb hw => cases hresult
  | needsWait hb hw => cases hresult
  | blockedWait | blocked | reviewBlocked =>
      obtain ⟨rfl, -⟩ := emit_eq_ok.mp hresult.symm
      exact waitsInPlace_of_blocker (Option.some_ne_none _)
  | reviewWait hb hphase hw =>
      obtain ⟨rfl, -⟩ := emit_eq_ok.mp hresult.symm
      exact fun _ _ => Or.inr ⟨congrArg value hphase, rfl⟩
  | wait hb hsame hw =>
      obtain ⟨rfl, -⟩ := emit_eq_ok.mp hresult.symm
      exact fun _ _ => Or.inl rfl
  | advance hb hne hsignal hplain hto =>
      obtain ⟨rfl, -⟩ := emit_eq_ok.mp hresult.symm
      exact waitsInPlace_of_none rfl

/-- The project driver does so too. -/
theorem project_waitsInPlace [UnicodeData] {state : ProjectState} {args : ProjectTransitionArgs}
    {d : WorkflowDecision} (hd : decideNextProjectTransition state args = .ok d) : WaitsInPlace d := by
  obtain ⟨result, hresult, hmove⟩ := decideNextProjectTransition_returned hd
  cases hmove with
  | blockedNeedsWait hb hw => cases hresult
  | needsWait hb hdone hw => cases hresult
  | gateBlocked | blockedWait | blocked | doneBlocked | reviewBlocked =>
      obtain ⟨rfl, -⟩ := emit_eq_ok.mp hresult.symm
      exact waitsInPlace_of_blocker (Option.some_ne_none _)
  | reviewWait hb hphase hw =>
      obtain ⟨rfl, -⟩ := emit_eq_ok.mp hresult.symm
      exact fun _ _ => Or.inr ⟨congrArg value hphase, rfl⟩
  | wait hb hdone hsame hw =>
      obtain ⟨rfl, -⟩ := emit_eq_ok.mp hresult.symm
      exact fun _ _ => Or.inl rfl
  | done | advance =>
      obtain ⟨rfl, -⟩ := emit_eq_ok.mp hresult.symm
      exact waitsInPlace_of_none rfl

/-! ## The tables -/

/-- Where a project can wait it cannot fail. -/
theorem project_waits_cannot_fail : ∀ phase ∈ members (α := ProjectIntakePhase),
    (projectPhasePolicies phase).waitSignals ≠ [] → .failed ∉ (projectPhasePolicies phase).terminalOutcomes := by
  decide

/-- Where a task can wait it cannot fail. -/
theorem task_waits_cannot_fail : ∀ phase ∈ members (α := TaskPhase),
    (taskPhasePolicies phase).waitSignals ≠ [] → .failed ∉ (taskPhasePolicies phase).terminalOutcomes := by
  decide

section
variable {kind : DriverKind} {policy : PhasePolicy} {phase : String}

theorem waits_cannot_fail (hpolicy : templatePhasePolicy? kind phase = some policy) (hwaits : policy.waitSignals ≠ []) :
    .failed ∉ policy.terminalOutcomes := by
  cases kind with
  | softwareProject =>
      obtain ⟨p, -, rfl⟩ := Option.map_eq_some_iff.mp hpolicy
      exact project_waits_cannot_fail p (mem_members p) hwaits
  | softwareTask =>
      obtain ⟨p, -, rfl⟩ := Option.map_eq_some_iff.mp hpolicy
      exact task_waits_cannot_fail p (mem_members p) hwaits

/-- The two ends of the review edge have the same owners. -/
theorem review_edge_owners (hpolicy : templatePhasePolicy? kind "REVIEW_REQUESTED" = some policy) :
    ∃ next, templatePhasePolicy? kind "REVIEW_WAIT" = some next
      ∧ next.blockerOwnerRoles = policy.blockerOwnerRoles := by
  cases kind with
  | softwareProject =>
      obtain rfl := Option.some.inj ((templatePhasePolicy?_project .reviewRequested).symm.trans hpolicy)
      exact ⟨_, templatePhasePolicy?_project .reviewWait, rfl⟩
  | softwareTask =>
      obtain rfl := Option.some.inj ((templatePhasePolicy?_task .reviewRequested).symm.trans hpolicy)
      exact ⟨_, templatePhasePolicy?_task .reviewWait, rfl⟩

end

/-! ## The invariant -/

/-- A wait whose promise can be kept in a phase: it does not fail the workflow, and the owner it escalates to can be
    asked there. -/
structure CanKeep (kind : DriverKind) (phase : String) (wait : WaitPolicy) : Prop where
  noFailure : wait.thresholdResponse ≠ .failed
  owner : isBlockedPhase (value wait.thresholdResponse) = true →
    ∃ policy, templatePhasePolicy? kind phase = some policy
      ∧ escalationOwner wait.thresholdResponse ∈ policy.blockerOwnerRoles

/-- Every wait a record holds. -/
def WaitsKept (kind : DriverKind) (record : WorkflowStateRecord) : Prop :=
  ∀ wait ∈ record.wait, CanKeep kind record.phase wait

section
variable {kind : DriverKind} {record next : WorkflowStateRecord} {d : ValidDecision}

/-- A wait that the policy lets start can be kept where it is started. -/
theorem canKeep_of_allowed {policy : PhasePolicy} {phase : String} {decision : WorkflowDecision} {wait : WaitPolicy}
    (hpolicy : templatePhasePolicy? kind phase = some policy) (hallowed : PolicyAllows kind policy decision)
    (hwait : decision.waitToStart = some wait) : CanKeep kind phase wait := by
  have hthreshold : ThresholdAllowed policy wait := hallowed.threshold wait hwait
  have hlists : signalIn policy.waitSignals decision.progressSignal = true :=
    hallowed.waitAllowed (by rw [hwait]; rfl)
  refine ⟨?_, fun hblocked => ⟨policy, hpolicy, hthreshold.escalate hblocked⟩⟩
  intro hfail
  have hwaits : policy.waitSignals ≠ [] := by
    intro hnone
    rw [hnone] at hlists
    cases hs : decision.progressSignal with
    | none =>
        rw [hs] at hlists
        cases hlists
    | some signal =>
        rw [hs] at hlists
        cases hlists
  exact waits_cannot_fail hpolicy hwaits (hthreshold.fail hfail)

/-- **Step lemma.** A decision that waits in place keeps the invariant. -/
theorem policyStep_waitsKept (hkept : WaitsKept kind record) (hplace : WaitsInPlace d.toWorkflowDecision)
    (hstep : policyStep kind record d = .ok next) : WaitsKept kind next := by
  obtain ⟨⟨policy, hpolicy, hallowed⟩, haccepts, rfl⟩ := policyStep_eq_ok.mp hstep
  rw [haccepts.fromPhase] at hpolicy
  intro wait hwait
  rw [Option.mem_def, nextState_wait, nextWait] at hwait
  rw [nextState_phase]
  split_ifs at hwait with hblocker hstarts hmoved
  · -- a wait is started, and no blocker is recorded
    have hnone : d.blockerToRecord = none := Option.not_isSome_iff_eq_none.mp hblocker
    have hkeeps : CanKeep kind record.phase wait := canKeep_of_allowed hpolicy hallowed hwait
    rcases hplace hstarts hnone with hsame | ⟨hfrom, hto⟩
    · rw [hsame, haccepts.fromPhase]
      exact hkeeps
    · rw [← haccepts.fromPhase, hfrom] at hkeeps hpolicy
      rw [hto]
      refine ⟨hkeeps.noFailure, fun hblocked => ?_⟩
      obtain ⟨p, hp, howner⟩ := hkeeps.owner hblocked
      obtain ⟨q, hq, hsame⟩ := review_edge_owners hp
      exact ⟨q, hq, hsame ▸ howner⟩
  · -- the wait of the record stays, and so does the phase
    rw [not_not.mp hmoved]
    exact hkept wait hwait

/-- **The promise can be kept**: the blocker can be recorded, and the record is in the phase the wait named. -/
theorem CanKeep.escalates {wait : WaitPolicy} (h : CanKeep kind record.phase wait)
    (hblocked : isBlockedPhase (value wait.thresholdResponse) = true) :
    ∃ d after, policyStep kind record d = .ok after ∧ after.phase = value wait.thresholdResponse
      ∧ after.blocker.map Blocker.ownerRole = some (escalationOwner wait.thresholdResponse) := by
  obtain ⟨policy, hpolicy, howner⟩ := h.owner hblocked
  obtain ⟨hknown, -, -⟩ := firstPhase_open kind
  obtain ⟨d, after, hstep, hphase, hblocker⟩ := policyStep_block hpolicy howner hknown
  refine ⟨d, after, hstep, ?_, by rw [hblocker]; rfl⟩
  rw [hphase]
  -- the owner of an escalation has the blocked phase of the response
  cases hresponse : wait.thresholdResponse with
  | blockedNeedsElLe => rfl
  | blockedNeedsZoEl => rfl
  | retryScheduled =>
      rw [hresponse] at hblocked
      exact absurd hblocked (by decide)
  | failed => exact absurd hresponse h.noFailure

end

/-- **Held waits can be kept.** In every policy-checked run from a record without a wait, whose waits are started in
    place, a wait that is held does not fail the workflow, and if it promises a blocker, the blocker of that owner
    can be recorded, in the phase the wait names. What either driver returns starts its waits in place. -/
theorem held_waits_escalate [UnicodeData] :
    (∀ (kind : DriverKind) (initial final : WorkflowStateRecord) (decisions : List ValidDecision) (wait : WaitPolicy),
      initial.wait = none → (∀ d ∈ decisions, WaitsInPlace d.toWorkflowDecision) →
      replay (policyStep kind) initial decisions = .ok final → final.wait = some wait →
      wait.thresholdResponse ≠ .failed
      ∧ (isBlockedPhase (value wait.thresholdResponse) = true →
          ∃ d after, policyStep kind final d = .ok after ∧ after.phase = value wait.thresholdResponse
            ∧ after.blocker.map Blocker.ownerRole = some (escalationOwner wait.thresholdResponse)))
    ∧ (∀ state args d, decideNextTaskTransition state args = .ok d → WaitsInPlace d)
    ∧ (∀ state args d, decideNextProjectTransition state args = .ok d → WaitsInPlace d) := by
  refine ⟨?_, fun state args d hd => task_waitsInPlace hd, fun state args d hd => project_waitsInPlace hd⟩
  intro kind initial final decisions wait hnone hplace hrun hwait
  have hinitial : WaitsKept kind initial := by
    intro w hw
    rw [hnone] at hw
    cases hw
  have hfinal : WaitsKept kind final :=
    replay_invariant_of (fun s d t hs hd hstep => policyStep_waitsKept hs hd hstep) hinitial hplace hrun
  have hkeeps : CanKeep kind final.phase wait := hfinal wait hwait
  exact ⟨hkeeps.noFailure, hkeeps.escalates⟩

/-- The start of a review wait. -/
def exampleReviewBegins : ValidDecision where
  toWorkflowDecision := waitDecision "D-1" "T1" "REVIEW_REQUESTED" "REVIEW_WAIT" exampleWait none
  valid := waitDecision_valid fun h => absurd h (by decide)

/-- The record that waits for its review. -/
def exampleWaitingRecord : WorkflowStateRecord :=
  nextState (exampleRecord "REVIEW_REQUESTED" none) exampleReviewBegins.toWorkflowDecision

theorem held_waits_escalate_review : ∃ d after,
    policyStep .softwareProject exampleWaitingRecord d = .ok after ∧ after.phase = "BLOCKED_NEEDS_EL_LE" := by
  have hplace : ∀ d ∈ [exampleReviewBegins], WaitsInPlace d.toWorkflowDecision := by
    intro d hd
    obtain rfl := List.mem_singleton.mp hd
    exact fun _ _ => Or.inr ⟨rfl, rfl⟩
  obtain ⟨d, after, hstep, hphase, -⟩ := ((@held_waits_escalate asciiOnly).1 .softwareProject
    (exampleRecord "REVIEW_REQUESTED" none) exampleWaitingRecord [exampleReviewBegins] exampleWait rfl hplace
    (by decide +kernel) rfl).2 (by decide)
  exact ⟨d, after, hstep, hphase⟩

end WorkflowDrivers
