import WorkflowDrivers.Policies.Templates
import WorkflowDrivers.Store.Status

/-!
# `Correctness.BlockedStates` — blocked states of policy-checked runs

A policy-checked run takes valid decisions, each accepted by the phase policy of its driver kind and then by
`applyDecision`. The invariant ties the three layers together: the model's validator supplies a blocker for a
blocked phase, the policy routes it by its owner, and the update sets and clears blocker and wait. One step is
two cases, whether the decision records a blocker or not; runs follow by the invariant rule of replays.
-/

namespace WorkflowDrivers
open Lib StrEnum

/-! ## Policy-checked runs -/

inductive StepError
  | policy (error : PolicyError)
  | replay (error : ReplayError)
  deriving DecidableEq

/-- One step of a policy-checked run. -/
def policyStep (kind : DriverKind) (state : WorkflowStateRecord) (decision : ValidDecision) :
    Except StepError WorkflowStateRecord :=
  match validateDecisionAgainstPhasePolicy kind decision.toWorkflowDecision with
  | .error e => .error (.policy e)
  | .ok d =>
      match applyDecision state d with
      | .error e => .error (.replay e)
      | .ok next => .ok next

/-- **Inversion.** What a policy-checked step can do. -/
theorem policyStep_eq_ok {kind : DriverKind} {state next : WorkflowStateRecord} {d : ValidDecision} :
    policyStep kind state d = .ok next ↔
      (∃ policy, templatePhasePolicy? kind d.fromPhase = some policy
        ∧ PolicyAllows kind policy d.toWorkflowDecision)
      ∧ Accepts state d.toWorkflowDecision ∧ next = nextState state d.toWorkflowDecision := by
  unfold policyStep
  rw [← applyDecision_eq_ok]
  constructor
  · intro h
    cases hpolicy : validateDecisionAgainstPhasePolicy kind d.toWorkflowDecision with
    | error e => simp [hpolicy] at h
    | ok d' =>
        obtain ⟨rfl, hallowed⟩ := validateDecisionAgainstPhasePolicy_eq_ok.mp hpolicy
        rw [hpolicy] at h
        cases happly : applyDecision state d.toWorkflowDecision with
        | error e => simp [happly] at h
        | ok s => exact ⟨hallowed, by simpa [happly] using h⟩
  · rintro ⟨hallowed, happly⟩
    rw [validateDecisionAgainstPhasePolicy_eq_ok.mpr ⟨rfl, hallowed⟩]
    simp [happly]

/-! ## The invariant -/

/-- **The blocked-state invariant.** -/
structure BlockedInvariant (state : WorkflowStateRecord) : Prop where
  recorded : state.blocker.isSome = true ↔ isBlockedPhase state.phase = true
  humanOwner : ∀ blocker ∈ state.blocker,
    (state.phase = "BLOCKED_NEEDS_ZO_EL" ↔ blocker.ownerRole = .humanApprover)
  otherOwner : ∀ blocker ∈ state.blocker,
    blocker.ownerRole ≠ .humanApprover → state.phase = "BLOCKED_NEEDS_EL_LE"
  noWait : isBlockedPhase state.phase = true → state.wait = none

/-- A record in the phase its blocker is routed to, without a wait. -/
theorem BlockedInvariant.of_routed {state : WorkflowStateRecord} {blocker : Blocker}
    (hblocker : state.blocker = some blocker) (hphase : state.phase = templateBlockedPhaseFor blocker.ownerRole)
    (hwait : state.wait = none) : BlockedInvariant state where
  recorded := by simp [hblocker, hphase]
  humanOwner b hb := by
    obtain rfl : blocker = b := Option.some.inj (hblocker.symm.trans hb)
    rw [hphase, templateBlockedPhaseFor]
    split_ifs with h
    · simp [h]
    · simp [h]
  otherOwner b hb hother := by
    obtain rfl : blocker = b := Option.some.inj (hblocker.symm.trans hb)
    rw [hphase, templateBlockedPhaseFor, if_neg hother]
  noWait _ := hwait

/-- A record outside the blocked phases, without a blocker. -/
theorem BlockedInvariant.of_unblocked {state : WorkflowStateRecord} (hblocker : state.blocker = none)
    (hphase : isBlockedPhase state.phase = false) : BlockedInvariant state where
  recorded := by simp [hblocker, hphase]
  humanOwner := by simp [hblocker]
  otherOwner := by simp [hblocker]
  noWait h := absurd h (by simp [hphase])

/-- The human action card is shown exactly in the human's blocked phase. -/
theorem BlockedInvariant.humanAction {state : WorkflowStateRecord} (h : BlockedInvariant state) :
    (statusOf state).humanActionRequired.isSome = true ↔ state.phase = "BLOCKED_NEEDS_ZO_EL" := by
  rw [statusOf, humanActionRequired_isSome]
  constructor
  · rintro ⟨b, hb, hhuman⟩
    exact (h.humanOwner b hb).mpr hhuman
  · intro hphase
    have hsome : state.blocker.isSome = true := h.recorded.mpr (hphase ▸ by decide)
    obtain ⟨b, hb⟩ := Option.isSome_iff_exists.mp hsome
    exact ⟨b, hb, (h.humanOwner b hb).mp hphase⟩

/-! ## One step -/

section
variable {kind : DriverKind} {state next : WorkflowStateRecord} {d : ValidDecision}

/-- A decision without a blocker leaves a record without one, outside the blocked phases. -/
theorem step_without_blocker (hinv : BlockedInvariant state) (hnone : d.blockerToRecord = none) :
    (nextState state d.toWorkflowDecision).blocker = none ∧ isBlockedPhase d.toPhase = false := by
  have hto : isBlockedPhase d.toPhase = false :=
    Bool.eq_false_iff.mpr fun hb => d.valid.blockedRecords (Or.inl hb) hnone
  refine ⟨?_, hto⟩
  rw [nextState_blocker, nextBlocker, hnone, if_neg (by simp)]
  split_ifs with hclears
  · rfl
  · -- not cleared: the record was not blocked before either, so it had no blocker
    have hphase : isBlockedPhase state.phase = false := by
      rw [Bool.eq_false_iff]
      intro hb
      exact hclears (by simp [clearsBlocker, hb, hto])
    rw [← Option.not_isSome_iff_eq_none, hinv.recorded, hphase]
    exact Bool.false_ne_true

/-- **Step lemma.** A policy-checked step keeps the invariant. -/
theorem policyStep_keeps (hinv : BlockedInvariant state) (h : policyStep kind state d = .ok next) :
    BlockedInvariant next := by
  obtain ⟨⟨policy, -, hallowed⟩, -, rfl⟩ := policyStep_eq_ok.mp h
  cases hblocker : d.blockerToRecord with
  | some blocker =>
      obtain ⟨hrecorded, hwait⟩ := nextState_of_blocker state hblocker
      refine BlockedInvariant.of_routed hrecorded ?_ hwait
      rw [nextState_phase]
      exact (hallowed.blocker blocker hblocker).route
  | none =>
      obtain ⟨hnone, hto⟩ := step_without_blocker hinv hblocker
      exact BlockedInvariant.of_unblocked hnone (by rw [nextState_phase]; exact hto)

/-- **The steps from a blocked phase**: to the phase of an option of the record's blocker, to a cancellation, or to the
    blocked phase of the owner of a new blocker, which the decision records and which names the phase before. -/
inductive BlockedExit (state : WorkflowStateRecord) (d : WorkflowDecision) (next : WorkflowStateRecord) : Prop
  | resumed (blocker : Blocker) (hblocker : blocker ∈ state.blocker) (option : ResumeDecisionOption)
      (hoption : option ∈ blocker.resumeTarget.decisionOptions) (hphase : option.resultingPhase = next.phase)
  | cancelled (houtcome : d.terminalOutcome = some .cancelled)
  | escalated (blocker : Blocker) (hrecords : d.blockerToRecord = some blocker) (hblocker : next.blocker = some blocker)
      (hphase : next.phase = templateBlockedPhaseFor blocker.ownerRole)
      (hsource : blocker.resumeTarget.blockedPhase = state.phase)

/-- A policy-checked step from a blocked phase takes one of them. -/
theorem policyStep_from_blocked (hblocked : isBlockedPhase state.phase = true)
    (h : policyStep kind state d = .ok next) : BlockedExit state d.toWorkflowDecision next := by
  obtain ⟨⟨policy, hpolicy, hallowed⟩, haccepts, rfl⟩ := policyStep_eq_ok.mp h
  cases hrecords : d.blockerToRecord with
  | some blocker =>
      have hblocker := hallowed.blocker blocker hrecords
      refine .escalated blocker hrecords (nextState_of_blocker state hrecords).1 ?_ ?_
      · rw [nextState_phase]
        exact hblocker.route
      · rw [hblocker.sourcePhase, haccepts.fromPhase]
  | none =>
      cases hterminal : d.terminalOutcome with
      | none =>
          have hto : isBlockedPhase d.toPhase = false :=
            Bool.eq_false_iff.mpr fun hto => haccepts.blockedRecords hto hrecords
          obtain ⟨blocker, hblocker, option, hoption, hphase⟩ := haccepts.leaving hblocked hto hterminal
          exact .resumed blocker hblocker option hoption (by rw [nextState_phase, hphase])
      | some outcome =>
          refine .cancelled ?_
          rw [haccepts.fromPhase] at hpolicy
          have houtcome := hallowed.terminal outcome hterminal
          rw [blocked_policy_eq hpolicy hblocked] at houtcome
          rw [hterminal, List.mem_singleton.mp houtcome]

end

/-! ## Recorded blockers -/

/-- A blocker that an accepted decision recorded on its way into `phase`. -/
structure RecordedBlocker (kind : DriverKind) (phase : String) (blocker : Blocker)
    (recording : WorkflowDecision) : Prop where
  accepted : validateDecisionAgainstPhasePolicy kind recording = .ok recording
  records : recording.blockerToRecord = some blocker
  toPhase : recording.toPhase = phase

section
variable {kind : DriverKind} {phase : String} {blocker : Blocker} {recording : WorkflowDecision}

/-- What the policy asked for when the blocker was recorded. -/
theorem RecordedBlocker.allowed (h : RecordedBlocker kind phase blocker recording) :
    ∃ policy, BlockerAllowed kind policy recording blocker := by
  obtain ⟨-, policy, -, hallowed⟩ := validateDecisionAgainstPhasePolicy_eq_ok.mp h.accepted
  exact ⟨policy, hallowed.blocker blocker h.records⟩

/-- A recorded blocker is in the phase of its owner. -/
theorem RecordedBlocker.phase_eq (h : RecordedBlocker kind phase blocker recording) :
    phase = templateBlockedPhaseFor blocker.ownerRole := by
  obtain ⟨policy, hallowed⟩ := h.allowed
  rw [← h.toPhase, hallowed.route]

/-- A recorded blocker names the phase it was recorded from. -/
theorem RecordedBlocker.blockedPhase_eq (h : RecordedBlocker kind phase blocker recording) :
    blocker.resumeTarget.blockedPhase = recording.fromPhase := by
  obtain ⟨policy, hallowed⟩ := h.allowed
  exact hallowed.sourcePhase

/-- A blocker that was recorded from a phase that is not blocked names that phase. -/
theorem RecordedBlocker.source_ne (h : RecordedBlocker kind phase blocker recording)
    (hopen : isBlockedPhase recording.fromPhase = false) :
    blocker.resumeTarget.blockedPhase ≠ templateBlockedPhaseFor blocker.ownerRole := by
  intro hsame
  rw [← h.blockedPhase_eq, hsame, isBlockedPhase_templateBlockedPhaseFor] at hopen
  exact absurd hopen Bool.noConfusion

end

/-! ## Runs -/

/-- **Blocked states of policy-checked runs.** In every record such a run reaches the invariant holds, the
    human action card is shown exactly in the human's blocked phase, and the next step from a blocked phase goes to
    the phase of an option of the record's blocker, or cancels, or records a new blocker and goes to the blocked
    phase of its owner. -/
theorem policyRun_blocked (kind : DriverKind) (initial state : WorkflowStateRecord)
    (decisions : List ValidDecision) (hinitial : BlockedInvariant initial)
    (hrun : replay (policyStep kind) initial decisions = .ok state) :
    BlockedInvariant state
    ∧ ((statusOf state).humanActionRequired.isSome = true ↔ state.phase = "BLOCKED_NEEDS_ZO_EL")
    ∧ ∀ (d : ValidDecision) (next : WorkflowStateRecord), policyStep kind state d = .ok next →
        isBlockedPhase state.phase = true → BlockedExit state d.toWorkflowDecision next := by
  have hinv : BlockedInvariant state :=
    replay_invariant (fun _ _ _ hi h => policyStep_keeps hi h) hinitial hrun
  exact ⟨hinv, hinv.humanAction, fun d next h hblocked => policyStep_from_blocked hblocked h⟩

/-- A blocker for the human approver, recorded while planning. -/
def exampleBlocker : Blocker where
  reason := "scope is unclear"
  category := .humanAuthority
  ownerRole := .humanApprover
  requiredDecision := "choose a scope"
  resumeTarget :=
    { blockedPhase := "PLANNING"
      resumePhaseIfUnblocked := "PLAN_REVIEW"
      decisionOptions := [{ decision := "chosen", resultingPhase := "PLAN_REVIEW", notes := "" }] }

def exampleBlocking : ValidDecision where
  decisionId := "D-1"
  decidedAt := "T1"
  fromPhase := "PLANNING"
  toPhase := "BLOCKED_NEEDS_ZO_EL"
  materialProgress := true
  progressSignal := some .blockerCreated
  blockerToRecord := some exampleBlocker
  valid := WorkflowDecision.validate_eq_ok.mp (by decide)

theorem policyRun_blocked_planning :
    BlockedInvariant (nextState (exampleRecord "PLANNING" none) exampleBlocking.toWorkflowDecision) :=
  (policyRun_blocked .softwareProject (exampleRecord "PLANNING" none)
    (nextState (exampleRecord "PLANNING" none) exampleBlocking.toWorkflowDecision) [exampleBlocking]
    (BlockedInvariant.of_unblocked rfl (by decide)) (by decide +kernel)).1

/-- A blocker of the process steward, recorded while planning. -/
def exampleStewardBlocking : ValidDecision where
  decisionId := "D-1"
  decidedAt := "T1"
  fromPhase := "PLANNING"
  toPhase := "BLOCKED_NEEDS_EL_LE"
  materialProgress := true
  progressSignal := some .blockerCreated
  blockerToRecord := some { exampleBlocker with ownerRole := .processSteward }
  valid := WorkflowDecision.validate_eq_ok.mp (by decide)

/-- The steward hands it on to the human approver. -/
def exampleEscalating : ValidDecision where
  decisionId := "D-2"
  decidedAt := "T2"
  fromPhase := "BLOCKED_NEEDS_EL_LE"
  toPhase := "BLOCKED_NEEDS_ZO_EL"
  materialProgress := true
  progressSignal := some .blockerEscalated
  blockerToRecord := some
    { exampleBlocker with
      resumeTarget := { exampleBlocker.resumeTarget with blockedPhase := "BLOCKED_NEEDS_EL_LE" } }
  valid := WorkflowDecision.validate_eq_ok.mp (by decide)

/-- **An escalation is a third way out**: it goes to no option's phase and cancels nothing. -/
theorem policyRun_blocked_escalated :
    ¬∀ (kind : DriverKind) (initial state : WorkflowStateRecord) (decisions : List ValidDecision),
      BlockedInvariant initial → replay (policyStep kind) initial decisions = .ok state →
      ∀ (d : ValidDecision) (next : WorkflowStateRecord), policyStep kind state d = .ok next →
        isBlockedPhase state.phase = true → next.phase ≠ state.phase →
        (∃ blocker ∈ state.blocker, ∃ option ∈ blocker.resumeTarget.decisionOptions,
          option.resultingPhase = next.phase) ∨ d.terminalOutcome = some .cancelled := by
  intro hall
  let blocked := nextState (exampleRecord "PLANNING" none) exampleStewardBlocking.toWorkflowDecision
  have hrun : replay (policyStep .softwareProject) (exampleRecord "PLANNING" none) [exampleStewardBlocking]
      = .ok blocked := by decide +kernel
  have hstep : policyStep .softwareProject blocked exampleEscalating
      = .ok (nextState blocked exampleEscalating.toWorkflowDecision) := by decide +kernel
  rcases hall .softwareProject _ _ _ (BlockedInvariant.of_unblocked rfl (by decide)) hrun _ _ hstep
    (by decide +kernel) (by decide +kernel) with ⟨blocker, hblocker, option, hoption, hphase⟩ | houtcome
  · obtain rfl : { exampleBlocker with ownerRole := .processSteward } = blocker := Option.some.inj hblocker
    obtain rfl := List.mem_singleton.mp hoption
    exact absurd hphase (by decide +kernel)
  · cases houtcome

end WorkflowDrivers
