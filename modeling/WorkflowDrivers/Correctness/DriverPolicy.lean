import WorkflowDrivers.Workflows.ProjectDriver
import WorkflowDrivers.Workflows.TaskDriver

/-!
# `Correctness.DriverPolicy` — the drivers against their own phase policies

The drivers build blockers in three places, the phase policies are tables written by hand. A blocker decision
is allowed exactly when its owner, its recorded source phase and its resume phases are
(`blockerDecision_allowed`); the rest is a comparison of the drivers' edges with the tables.
-/

namespace WorkflowDrivers
open Lib StrEnum

/-! ## When a blocker decision is allowed -/

/-- The policy's conditions on a blocker that is routed by its owner. -/
structure BlockerLegal (kind : DriverKind) (policy : PhasePolicy) (fromPhase : String) (blocker : Blocker) :
    Prop where
  owner : blocker.ownerRole ∈ policy.blockerOwnerRoles
  sourcePhase : blocker.resumeTarget.blockedPhase = fromPhase
  resumeKnown : ∀ phase ∈ blocker.advertisedPhases, phase ∈ knownResumeTargets kind

section
variable {kind : DriverKind} {policy : PhasePolicy} {decisionId decidedAt fromPhase : String}
  {blocker : Blocker}

theorem blockerDecision_allowed :
    PolicyAllows kind policy
        (blockerDecision decisionId decidedAt fromPhase (templateBlockedPhaseFor blocker.ownerRole) blocker)
      ↔ BlockerLegal kind policy fromPhase blocker := by
  constructor
  · intro h
    obtain ⟨howner, -, hsource, hresume⟩ := h.blocker blocker rfl
    exact ⟨howner, hsource, hresume⟩
  · rintro ⟨howner, hsource, hresume⟩
    exact
      { waitAllowed := nofun
        signalAllowed := by
          rintro signal ⟨⟩
          exact Or.inr ⟨by decide, rfl⟩
        threshold := nofun
        blocker := by
          rintro b ⟨⟩
          exact ⟨howner, rfl, hsource, hresume⟩
        terminal := nofun
        notStalled := WorkflowDecision.not_stalled_of_signal rfl }

/-- A blocker decision passes the policy of its source phase exactly when its blocker is legal there. -/
theorem validate_blockerDecision (hpolicy : templatePhasePolicy? kind fromPhase = some policy) :
    validateDecisionAgainstPhasePolicy kind
        (blockerDecision decisionId decidedAt fromPhase (templateBlockedPhaseFor blocker.ownerRole) blocker)
      = .ok (blockerDecision decisionId decidedAt fromPhase (templateBlockedPhaseFor blocker.ownerRole) blocker)
      ↔ BlockerLegal kind policy fromPhase blocker := by
  rw [validate_iff_allows hpolicy]
  exact blockerDecision_allowed

end

/-! ## The blockers the drivers build -/

/-- The phases whose built blockers the project policies reject: the review request, whose blocker records the
    next phase instead of the source phase, and the final phases, which admit no blocker at all. -/
def rejectedBlockerPhases : List ProjectIntakePhase := [.reviewRequested, .finalReport, .done]

/-- A transition gate only fails on the way into an implementation or review phase. -/
theorem gate_fails_next [UnicodeData] {project : ProjectState} {nextPhase : ProjectIntakePhase}
    {candidateTarget : Option TargetSurface} {driverAuthorization : Option DriverAuthorizationEvidence}
    {driverTestMode : Bool}
    (h : (checkProjectTransitionGate project nextPhase candidateTarget driverAuthorization driverTestMode).ok
      = false) :
    nextPhase ∈ gatedImplementationPhases ∨ nextPhase ∈ driverAuthorizedProgressPhases := by
  by_contra hnot
  obtain ⟨hgated, hauthorized⟩ := not_or.mp hnot
  have himplementation : implementationFailures project nextPhase candidateTarget = (.approved, []) := by
    unfold implementationFailures
    exact if_neg (fun hc => hgated hc.2)
  have hauthorization :
      authorizationFailures project nextPhase driverAuthorization driverTestMode = [] := by
    unfold authorizationFailures
    exact if_neg (fun hc => hauthorized hc.2)
  rw [checkProjectTransitionGate, himplementation, hauthorization] at h
  simp at h

/-- The edges into those phases start where the policy admits both owners of a gate blocker. -/
theorem gated_edge_owners : ∀ edge ∈ projectTransitionSignals.map Prod.fst,
    edge.2 ∈ gatedImplementationPhases ∨ edge.2 ∈ driverAuthorizedProgressPhases →
      edge.1 ∉ rejectedBlockerPhases
        ∧ ∀ role ∈ processOrHumanBlocker, role ∈ (projectPhasePolicies edge.1).blockerOwnerRoles := by
  decide

/-- A gate's blocker is owned by the process steward or the human approver. -/
theorem blockerForTransitionGate_role (projectId : String) (fromPhase nextPhase : ProjectIntakePhase)
    (status : ProposalGateStatus) (failures : List String) :
    (blockerForTransitionGate projectId fromPhase nextPhase status failures).ownerRole
      ∈ processOrHumanBlocker := by
  rw [blockerForTransitionGate_ownerRole]
  split_ifs
  · decide
  · decide

/-- The blocker of a failed transition gate, as the policies see it. -/
theorem blockerForTransitionGate_legal {projectId : String} {fromPhase nextPhase : ProjectIntakePhase}
    {status : ProposalGateStatus} {failures : List String}
    (howners : ∀ role ∈ processOrHumanBlocker, role ∈ (projectPhasePolicies fromPhase).blockerOwnerRoles) :
    BlockerLegal .softwareProject (projectPhasePolicies fromPhase) (value fromPhase)
      (blockerForTransitionGate projectId fromPhase nextPhase status failures) where
  owner := howners _ (blockerForTransitionGate_role projectId fromPhase nextPhase status failures)
  sourcePhase := rfl
  resumeKnown := by
    have hphases : (blockerForTransitionGate projectId fromPhase nextPhase status failures).advertisedPhases
        = [value ProjectIntakePhase.planReview, value ProjectIntakePhase.planReview,
            value ProjectIntakePhase.planRethink] := rfl
    rw [hphases]
    decide

/-- The blocker of the DONE gate is never legal: the final phases admit no owner. -/
theorem doneGateBlocker_illegal {state : ProjectState} (hb : state.blocker = none)
    (hdone : nextProjectPhase state = .done) (failures : List String) :
    state.phase ∈ rejectedBlockerPhases
      ∧ ¬BlockerLegal .softwareProject (projectPhasePolicies state.phase) (value state.phase)
        (doneGateBlocker state failures) := by
  have hphase : state.phase = .finalReport ∨ state.phase = .done := (nextProjectPhase_eq_done hb).mp hdone
  have hnone : (projectPhasePolicies state.phase).blockerOwnerRoles = [] := by
    rcases hphase with h | h <;> rw [h] <;> rfl
  constructor
  · rcases hphase with h | h <;> rw [h] <;> decide
  · intro hlegal
    have howner := hlegal.owner
    rw [hnone] at howner
    exact absurd howner List.not_mem_nil

/-- The blocker of a review trigger is never legal in the review request: it records the review wait as the
    blocked phase. -/
theorem reviewTriggerBlocker_illegal {kind : DriverKind} {policy : PhasePolicy}
    {trigger : ReviewTriggerVerification} {blockedPhase sourcePhase requested : String}
    (hne : blockedPhase ≠ sourcePhase) :
    ¬BlockerLegal kind policy sourcePhase (reviewTriggerBlocker trigger blockedPhase requested) :=
  fun hlegal => absurd hlegal.sourcePhase hne

/-- A blocker that the project driver built is routed by its owner, and is legal exactly when it was not built in
    a rejected phase. -/
theorem project_built_blocker [UnicodeData] {state : ProjectState} {args : ProjectTransitionArgs}
    {d : WorkflowDecision} (hb : state.blocker = none) (hd : decideNextProjectTransition state args = .ok d)
    (hblocker : d.blockerToRecord ≠ none) :
    ∃ decisionId blocker,
      d = blockerDecision decisionId args.decidedAt (value state.phase)
        (templateBlockedPhaseFor blocker.ownerRole) blocker
      ∧ (BlockerLegal .softwareProject (projectPhasePolicies state.phase) (value state.phase) blocker
          ↔ state.phase ∉ rejectedBlockerPhases) := by
  obtain ⟨result, hresult, hmove⟩ := decideNextProjectTransition_returned hd
  cases hmove with
  | blockedNeedsWait hsome hw => cases hresult
  | needsWait _ hdone hw => cases hresult
  | blockedWait hsome hsame hw => exact absurd hsome (by simp [hb])
  | blocked hgate hsome hne => exact absurd hsome (by simp [hb])
  | done _ hdone hproof =>
      obtain ⟨rfl, -⟩ := emit_eq_ok.mp hresult.symm
      exact absurd rfl hblocker
  | reviewWait _ hphase hw =>
      obtain ⟨rfl, -⟩ := emit_eq_ok.mp hresult.symm
      exact absurd rfl hblocker
  | wait _ hdone hsame hw =>
      obtain ⟨rfl, -⟩ := emit_eq_ok.mp hresult.symm
      exact absurd rfl hblocker
  | advance hgate _ hdone hne hsignal hplain hto =>
      obtain ⟨rfl, -⟩ := emit_eq_ok.mp hresult.symm
      exact absurd rfl hblocker
  | gateBlocked hgate hne =>
      obtain ⟨rfl, -⟩ := emit_eq_ok.mp hresult.symm
      obtain ⟨haccepted, howners⟩ :=
        gated_edge_owners _ (nextProjectPhase_entry hb hne) (gate_fails_next hgate)
      rw [value_projectBlockedPhaseFor]
      exact ⟨_, _, rfl, iff_of_true (blockerForTransitionGate_legal howners) haccepted⟩
  | doneBlocked _ hdone hproof =>
      obtain ⟨rfl, -⟩ := emit_eq_ok.mp hresult.symm
      obtain ⟨hrejected, hillegal⟩ := doneGateBlocker_illegal hb hdone (checkAcceptanceProof state).failures
      exact ⟨_, _, rfl, iff_of_false hillegal (not_not_intro hrejected)⟩
  | reviewBlocked _ hphase =>
      obtain ⟨rfl, -⟩ := emit_eq_ok.mp hresult.symm
      rw [value_projectBlockedPhaseFor, hphase]
      have hne : value ProjectIntakePhase.reviewWait ≠ value ProjectIntakePhase.reviewRequested := by decide
      exact ⟨_, _, rfl, iff_of_false (reviewTriggerBlocker_illegal hne) (by decide)⟩

/-- A blocker that the task driver built is the one of a review trigger, and not legal. -/
theorem task_built_blocker {state : TaskState} {args : TransitionArgs} {d : WorkflowDecision}
    (hb : state.blocker = none) (hd : decideNextTaskTransition state args = .ok d)
    (hblocker : d.blockerToRecord ≠ none) :
    ∃ decisionId blocker,
      d = blockerDecision decisionId args.decidedAt (value state.phase)
        (templateBlockedPhaseFor blocker.ownerRole) blocker
      ∧ (BlockerLegal .softwareTask (taskPhasePolicies state.phase) (value state.phase) blocker
          ↔ state.phase ≠ .reviewRequested) := by
  obtain ⟨result, hresult, hmove⟩ := decideNextTaskTransition_returned hd
  cases hmove with
  | blockedNeedsWait hsome hw => cases hresult
  | needsWait _ hw => cases hresult
  | blockedWait hsome hsame hw => exact absurd hsome (by simp [hb])
  | blocked hsome hne => exact absurd hsome (by simp [hb])
  | reviewWait _ hphase hw =>
      obtain ⟨rfl, -⟩ := emit_eq_ok.mp hresult.symm
      exact absurd rfl hblocker
  | wait _ hsame hw =>
      obtain ⟨rfl, -⟩ := emit_eq_ok.mp hresult.symm
      exact absurd rfl hblocker
  | advance _ hne hsignal hplain hto =>
      obtain ⟨rfl, -⟩ := emit_eq_ok.mp hresult.symm
      exact absurd rfl hblocker
  | reviewBlocked _ hphase =>
      obtain ⟨rfl, -⟩ := emit_eq_ok.mp hresult.symm
      rw [value_taskBlockedPhaseFor, hphase]
      have hne : value TaskPhase.reviewWait ≠ value TaskPhase.reviewRequested := by decide
      exact ⟨_, _, rfl, iff_of_false (reviewTriggerBlocker_illegal hne) (not_not_intro rfl)⟩

/-- **Which built blockers are legal.** A blocker that the project driver built passes the phase policy exactly
    when it was not built in a rejected phase, and one that the task driver built exactly when it was not built
    in the review request. -/
theorem built_blocker_legal_iff [UnicodeData] :
    (∀ (state : ProjectState) (args : ProjectTransitionArgs) (d : WorkflowDecision),
      state.blocker = none → decideNextProjectTransition state args = .ok d → d.blockerToRecord ≠ none →
      (validateDecisionAgainstPhasePolicy .softwareProject d = .ok d ↔ state.phase ∉ rejectedBlockerPhases))
    ∧ (∀ (state : TaskState) (args : TransitionArgs) (d : WorkflowDecision),
      state.blocker = none → decideNextTaskTransition state args = .ok d → d.blockerToRecord ≠ none →
      (validateDecisionAgainstPhasePolicy .softwareTask d = .ok d ↔ state.phase ≠ .reviewRequested)) := by
  constructor
  · intro state args d hb hd hblocker
    obtain ⟨decisionId, blocker, rfl, hlegal⟩ := project_built_blocker hb hd hblocker
    rw [validate_blockerDecision (templatePhasePolicy?_project state.phase), hlegal]
  · intro state args d hb hd hblocker
    obtain ⟨decisionId, blocker, rfl, hlegal⟩ := task_built_blocker hb hd hblocker
    rw [validate_blockerDecision (templatePhasePolicy?_task state.phase), hlegal]

/-- The decision of a planned project that has no approved target yet. -/
def exampleGateBlocked : WorkflowDecision :=
  blockerDecision "P-1:PLAN_REVIEW:v2-transition-gate-blocked" "T1" "PLAN_REVIEW" "BLOCKED_NEEDS_ZO_EL"
    (blockerForTransitionGate "P-1" .planReview .taskBreakdown .requiredMissing
      ["proposal approval must produce an approved target binding"])

theorem built_blocker_legal_iff_planReview :
    validateDecisionAgainstPhasePolicy .softwareProject exampleGateBlocked = .ok exampleGateBlocked :=
  ((@built_blocker_legal_iff asciiOnly).1
    { id := "P-1", phase := .planReview, proposalRequired := true } { decidedAt := "T1" } exampleGateBlocked
    rfl (by decide +kernel) (by decide)).mpr (by decide)

/-- A review request that was only noticed. -/
def weakTrigger : ReviewTriggerVerification where
  targetReviewer := "reviewer"
  prUrl := "pr"
  state := .weakNotificationOnly
  resumeCondition := "formal review request"

/-- The built blockers are not all legal: the review trigger's blocker names the next phase as the blocked
    one, and the policy of the review request rejects it. -/
theorem built_blocker_not_always_legal :
    ¬((∀ (state : ProjectState) (args : ProjectTransitionArgs) (d : WorkflowDecision),
        state.blocker = none → @decideNextProjectTransition asciiOnly state args = .ok d →
        d.blockerToRecord ≠ none → validateDecisionAgainstPhasePolicy .softwareProject d = .ok d)
      ∧ (∀ (state : TaskState) (args : TransitionArgs) (d : WorkflowDecision),
        state.blocker = none → decideNextTaskTransition state args = .ok d → d.blockerToRecord ≠ none →
        validateDecisionAgainstPhasePolicy .softwareTask d = .ok d)) := by
  rintro ⟨hproject, -⟩
  have hlegal := hproject { id := "P-1", phase := .reviewRequested }
    { decidedAt := "T1", reviewTrigger := some weakTrigger }
    (blockerDecision "P-1:REVIEW_REQUESTED:review-trigger-blocked" "T1" "REVIEW_REQUESTED"
      "BLOCKED_NEEDS_EL_LE" (projectBlockerForReviewTrigger weakTrigger .reviewWait))
    rfl (by decide +kernel) (by decide)
  exact absurd hlegal (by decide +kernel)

end WorkflowDrivers
