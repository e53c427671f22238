import WorkflowDrivers.Correctness.BlockedStates
import WorkflowDrivers.Correctness.DriverAdvances

/-!
# `Correctness.ResumeTargets` — which resume targets can be taken

A recorded blocker names a phase to resume in and a list of decision options, and the status view shows the former.
The policy lets both name any phase of the driver and any terminal outcome. What can be taken from the blocked phase
is decided elsewhere: the engine asks that a step out of it takes one of the options, the policy of the blocked
phases lists cancellation as their only outcome. So the options can be taken, the phase that is shown only if it is
one of them, and of the outcomes only the cancellation.
-/

namespace WorkflowDrivers
open Lib StrEnum

/-! ## The two ways out -/

/-- The material `BLOCKER_RESOLVED` decision. -/
def resolveDecision (decisionId decidedAt fromPhase toPhase : String) : WorkflowDecision :=
  advanceDecision decisionId decidedAt fromPhase toPhase (some .blockerResolved) none

/-- The decision that ends the workflow in the phase named by the outcome. -/
def terminalDecision (decisionId decidedAt fromPhase : String) (materialProgress : Bool)
    (outcome : TerminalOutcome) : WorkflowDecision where
  decisionId
  decidedAt
  fromPhase
  toPhase := value outcome
  materialProgress
  terminalOutcome := some outcome

/-- A valid decision that the phase policy and the engine accept. -/
structure CanTake (kind : DriverKind) (record : WorkflowStateRecord) (d : WorkflowDecision) : Prop where
  valid : d.RunInvariant
  policy : validateDecisionAgainstPhasePolicy kind d = .ok d
  applied : ∃ next, applyDecision record d = .ok next

/-- A phase that a blocked record advertises: the one the status view shows, or one of the options'. -/
def Advertises (record : WorkflowStateRecord) (phase : String) : Prop :=
  (∃ summary ∈ (statusOf record).blocker, summary.resumePhaseIfUnblocked = phase)
    ∨ ∃ blocker ∈ record.blocker, ∃ option ∈ blocker.resumeTarget.decisionOptions, option.resultingPhase = phase

/-! ## Resolving the blocker -/

section
variable {kind : DriverKind} {record : WorkflowStateRecord} {blocker : Blocker}
  {decisionId decidedAt phase : String}

/-- The policy of the blocked phases lists the resolution, whatever phase it names. -/
theorem resolveDecision_policy (hphase : record.phase = templateBlockedPhaseFor blocker.ownerRole) :
    validateDecisionAgainstPhasePolicy kind (resolveDecision decisionId decidedAt record.phase phase)
      = .ok (resolveDecision decisionId decidedAt record.phase phase) := by
  rw [hphase]
  refine (validate_advanceDecision (templatePhasePolicy?_blocked kind blocker.ownerRole)).mpr ?_
  simp [PhasePolicy.allowedSignals, blockedPhasePolicy]

/-- The engine applies a decision out of the blocked phases exactly when it takes an option. -/
theorem applyDecision_resolve (hblocked : isBlockedPhase record.phase = true) (hopen : isBlockedPhase phase = false)
    (hb : record.blocker = some blocker) :
    (∃ next, applyDecision record (resolveDecision decisionId decidedAt record.phase phase) = .ok next) ↔
      ∃ option ∈ blocker.resumeTarget.decisionOptions, option.resultingPhase = phase := by
  simp only [applyDecision_eq_ok, exists_and_left, exists_eq, and_true]
  constructor
  · intro haccepts
    obtain ⟨held, hheld, hoption⟩ := haccepts.leaving hblocked hopen rfl
    obtain rfl : blocker = held := Option.some.inj (hb.symm.trans hheld)
    exact hoption
  · rintro ⟨option, hoption, hphase⟩
    exact
      { fromPhase := rfl
        blockedRecords := fun hto => absurd (hopen.symm.trans hto) Bool.noConfusion
        resumeOption := fun _ => ⟨blocker, hb, List.mem_map.mpr ⟨option, hoption, hphase⟩⟩
        atMostOneActivity := Nat.zero_le 1 }

/-! ## Ending the workflow -/

variable {materialProgress : Bool} {outcome : TerminalOutcome}

/-- The phase named by an outcome is one the outcome may be recorded in. -/
theorem value_mem_terminalPhases (outcome : TerminalOutcome) : value outcome ∈ terminalPhasesByOutcome outcome := by
  cases outcome <;> decide

theorem terminalDecision_valid {fromPhase : String} :
    (terminalDecision decisionId decidedAt fromPhase materialProgress outcome).RunInvariant where
  atMostOneActivity := Nat.zero_le 1
  samePhaseRecords _ _ _ := rfl
  waitSignalHasPolicy hs := absurd hs Bool.false_ne_true
  waitSignalNotMaterial hs := absurd hs Bool.false_ne_true
  signalIsMaterial hs := absurd hs Bool.false_ne_true
  materialNamesEffect _ := rfl
  terminalAlone _ := ⟨rfl, rfl, rfl⟩
  terminalPhase := by
    rintro o ⟨⟩
    exact value_mem_terminalPhases outcome
  blockedRecords := by
    have hopen := terminalPhase_not_blocked outcome _ (value_mem_terminalPhases outcome)
    rintro (hto | hs)
    · exact absurd (hopen.symm.trans hto) Bool.noConfusion
    · exact absurd hs Bool.false_ne_true

/-- A policy lets a workflow end exactly with the outcomes it lists. -/
theorem validate_terminalDecision {policy : PhasePolicy} {fromPhase : String}
    (hpolicy : templatePhasePolicy? kind fromPhase = some policy) :
    validateDecisionAgainstPhasePolicy kind
        (terminalDecision decisionId decidedAt fromPhase materialProgress outcome)
      = .ok (terminalDecision decisionId decidedAt fromPhase materialProgress outcome)
      ↔ outcome ∈ policy.terminalOutcomes := by
  rw [validate_iff_allows hpolicy, policyAllows_plain_iff rfl rfl]
  constructor
  · rintro ⟨-, hterminal, -⟩
    exact hterminal outcome rfl
  · intro hlisted
    refine ⟨?_, ?_, WorkflowDecision.not_stalled_of_terminal rfl⟩
    · exact fun signal h => absurd h (Option.not_mem_none signal)
    · intro o h
      obtain rfl : outcome = o := Option.some.inj h
      exact hlisted

/-- The engine lets a workflow end from anywhere. -/
theorem applyDecision_terminal :
    ∃ next, applyDecision record
      (terminalDecision decisionId decidedAt record.phase materialProgress outcome) = .ok next := by
  have hopen := terminalPhase_not_blocked outcome _ (value_mem_terminalPhases outcome)
  refine ⟨_, applyDecision_eq_ok.mpr ⟨?_, rfl⟩⟩
  exact
    { fromPhase := rfl
      blockedRecords := fun hto => absurd (hopen.symm.trans hto) Bool.noConfusion
      resumeOption := by
        intro hleave
        simp [leavingBlockedNonterminal, terminalDecision] at hleave
      atMostOneActivity := Nat.zero_le 1 }

end

/-! ## The resume targets -/

/-- **Which resume targets can be taken.** For a record in a blocked phase with the blocker that an accepted
    decision recorded, and any phase that is not blocked: the `BLOCKER_RESOLVED` decision to it can be taken exactly
    when it is the phase of a decision option; and where it names a terminal outcome, the decision that ends the
    workflow with this outcome can be taken exactly for a cancellation. -/
theorem resume_target_taken_iff (kind : DriverKind) (record : WorkflowStateRecord) (blocker : Blocker)
    (recording : WorkflowDecision) (hrecorded : RecordedBlocker kind record.phase blocker recording)
    (hb : record.blocker = some blocker) (decisionId decidedAt phase : String)
    (hopen : isBlockedPhase phase = false) :
    (CanTake kind record (resolveDecision decisionId decidedAt record.phase phase) ↔
      ∃ option ∈ blocker.resumeTarget.decisionOptions, option.resultingPhase = phase)
    ∧ ∀ (materialProgress : Bool) (outcome : TerminalOutcome), value outcome = phase →
      (CanTake kind record (terminalDecision decisionId decidedAt record.phase materialProgress outcome) ↔
        outcome = .cancelled) := by
  have hphase := hrecorded.phase_eq
  have hblocked : isBlockedPhase record.phase = true := by
    rw [hphase]
    exact isBlockedPhase_templateBlockedPhaseFor blocker.ownerRole
  constructor
  · rw [← applyDecision_resolve hblocked hopen hb]
    have hplain : IsPlainSignal .blockerResolved := by decide
    exact ⟨fun h => h.applied, fun h => ⟨advanceDecision_valid hplain hopen, resolveDecision_policy hphase, h⟩⟩
  · intro materialProgress outcome _
    have hpolicy : templatePhasePolicy? kind record.phase = some (blockedPhasePolicy record.phase) := by
      rw [hphase]
      exact templatePhasePolicy?_blocked kind blocker.ownerRole
    have hlisted : outcome ∈ (blockedPhasePolicy record.phase).terminalOutcomes ↔ outcome = .cancelled :=
      List.mem_singleton
    rw [← hlisted, ← validate_terminalDecision hpolicy]
    exact ⟨fun h => h.policy, fun h => ⟨terminalDecision_valid, h, applyDecision_terminal⟩⟩

theorem resume_target_taken_planReview :
    CanTake .softwareProject (exampleRecord "BLOCKED_NEEDS_ZO_EL" (some exampleBlocker))
      (resolveDecision "D-2" "T2" "BLOCKED_NEEDS_ZO_EL" "PLAN_REVIEW") :=
  (resume_target_taken_iff .softwareProject (exampleRecord "BLOCKED_NEEDS_ZO_EL" (some exampleBlocker))
    exampleBlocker exampleBlocking.toWorkflowDecision ⟨by decide +kernel, rfl, rfl⟩ rfl "D-2" "T2" "PLAN_REVIEW"
    (by decide)).1.mpr ⟨_, List.mem_singleton_self _, rfl⟩

/-- A blocker that shows a phase that is none of its options. -/
def exampleDeadEnd : Blocker :=
  { exampleBlocker with
    resumeTarget :=
      { exampleBlocker.resumeTarget with
        decisionOptions := [{ decision := "rejected", resultingPhase := "PLANNING", notes := "" }] } }

/-- Not every advertised phase can be taken: the engine rejects the resolution that goes where the status view
    says. -/
theorem resume_target_not_always_taken :
    ¬∀ (kind : DriverKind) (record : WorkflowStateRecord) (blocker : Blocker) (recording : WorkflowDecision),
      RecordedBlocker kind record.phase blocker recording → record.blocker = some blocker →
      ∀ decisionId decidedAt phase, Advertises record phase → isBlockedPhase phase = false →
        CanTake kind record (resolveDecision decisionId decidedAt record.phase phase)
        ∨ ∃ materialProgress outcome, value outcome = phase
          ∧ CanTake kind record (terminalDecision decisionId decidedAt record.phase materialProgress outcome) := by
  intro h
  have hrecorded : RecordedBlocker .softwareProject "BLOCKED_NEEDS_ZO_EL" exampleDeadEnd
      { exampleBlocking.toWorkflowDecision with blockerToRecord := some exampleDeadEnd } :=
    ⟨by decide +kernel, rfl, rfl⟩
  rcases h .softwareProject (exampleRecord "BLOCKED_NEEDS_ZO_EL" (some exampleDeadEnd)) exampleDeadEnd _ hrecorded
    rfl "D-2" "T2" "PLAN_REVIEW" (Or.inl ⟨_, rfl, rfl⟩) (by decide) with
    htaken | ⟨materialProgress, outcome, hvalue, -⟩
  · obtain ⟨next, happly⟩ := htaken.applied
    have hrejected : applyDecision (exampleRecord "BLOCKED_NEEDS_ZO_EL" (some exampleDeadEnd))
        (resolveDecision "D-2" "T2" "BLOCKED_NEEDS_ZO_EL" "PLAN_REVIEW") = .error .resumeNotAnOption := by
      decide +kernel
    exact absurd (happly.symm.trans hrejected) nofun
  · cases outcome <;> exact absurd hvalue (by decide)

end WorkflowDrivers
