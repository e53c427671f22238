import WorkflowDrivers.Correctness.BlockedStates
import WorkflowDrivers.Workflows.ProjectDriver
import WorkflowDrivers.Workflows.TaskDriver

/-!
# `Correctness.BlockedWaits` — waiting on in a blocked phase

A blocker is recorded on the way into a blocked phase, and the policy asks that it names the phase it was
recorded from. Each later tick of a blocked driver starts a wait and records the same blocker again, now from
the blocked phase. The policy counts every decision that leads to a blocked phase as a new blocker, so it
rejects these, whatever the driver, the blocker and the wait.
-/

namespace WorkflowDrivers
open Lib StrEnum

/-! ## The wait of a blocked driver -/

section
variable {kind : DriverKind} {decisionId decidedAt : String} {wait : WaitPolicy} {blocker : Blocker}

/-- A blocked phase admits every wait that does not fail the workflow. -/
theorem blockedPhasePolicy_threshold {phase : String} (h : wait.thresholdResponse ≠ .failed) :
    ThresholdAllowed (blockedPhasePolicy phase) wait where
  fail hfail := absurd hfail h
  escalate _ := mem_members _

/-- **The policy's answer to a blocked wait.** A blocker that was recorded from another phase is turned down as
    a new blocker that does not record its source phase; all checks before that one pass. -/
theorem validate_blockedWait (hthreshold : wait.thresholdResponse ≠ .failed)
    (hsource : blocker.resumeTarget.blockedPhase ≠ templateBlockedPhaseFor blocker.ownerRole) :
    validateDecisionAgainstPhasePolicy kind
        (waitDecision decisionId decidedAt (templateBlockedPhaseFor blocker.ownerRole)
          (templateBlockedPhaseFor blocker.ownerRole) wait (some blocker))
      = .error .sourcePhaseNotRecorded := by
  generalize hd : waitDecision decisionId decidedAt (templateBlockedPhaseFor blocker.ownerRole)
    (templateBlockedPhaseFor blocker.ownerRole) wait (some blocker) = d
  have hpolicy : phasePolicyFor kind d.fromPhase
      = .ok (blockedPhasePolicy (templateBlockedPhaseFor blocker.ownerRole)) := by
    rw [phasePolicyFor_eq_ok, ← hd]
    exact templatePhasePolicy?_blocked kind blocker.ownerRole
  have hwait : checkWaitAllowed (blockedPhasePolicy (templateBlockedPhaseFor blocker.ownerRole)) d = .ok () := by
    rw [checkWaitAllowed_eq_ok, ← hd]
    exact fun _ => rfl
  have hsignal :
      checkSignalAllowed kind (blockedPhasePolicy (templateBlockedPhaseFor blocker.ownerRole)) d = .ok () := by
    rw [checkSignalAllowed_eq_ok, ← hd]
    rintro signal ⟨⟩
    exact Or.inl (by simp [PhasePolicy.allowedSignals, blockedPhasePolicy, controlledWait])
  have hescalate :
      checkWaitThreshold (blockedPhasePolicy (templateBlockedPhaseFor blocker.ownerRole)) d = .ok () := by
    rw [checkWaitThreshold_eq_ok, ← hd]
    rintro w ⟨⟩
    exact blockedPhasePolicy_threshold hthreshold
  have hblocker : checkBlocker kind (blockedPhasePolicy (templateBlockedPhaseFor blocker.ownerRole)) d
      = .error .sourcePhaseNotRecorded := by
    have howner : blocker.ownerRole
        ∈ (blockedPhasePolicy (templateBlockedPhaseFor blocker.ownerRole)).blockerOwnerRoles := mem_members _
    rw [← hd]
    -- owner and route pass; leading to a blocked phase makes it a new blocker
    simp [checkBlocker, waitDecision, howner, hsource]
  rw [validateDecisionAgainstPhasePolicy, hpolicy]
  simp only [bind, Except.bind, hwait, hsignal, hescalate, hblocker]

end

/-! ## The drivers -/

/-- A blocked project in the phase of its blocker waits on and records the blocker again. -/
theorem project_blockedWait [UnicodeData] {state : ProjectState} {args : ProjectTransitionArgs}
    {blocker : Blocker} {wait : WaitPolicy} (hb : state.blocker = some blocker) (hw : args.waitToStart = some wait)
    (hphase : value state.phase = templateBlockedPhaseFor blocker.ownerRole) :
    ∃ decisionId, decideNextProjectTransition state args =
      .ok (waitDecision decisionId args.decidedAt (templateBlockedPhaseFor blocker.ownerRole)
        (templateBlockedPhaseFor blocker.ownerRole) wait (some blocker)) := by
  have hsame : nextProjectPhase state = state.phase := by
    have hnext : nextProjectPhase state = projectBlockedPhaseFor blocker.ownerRole := by
      rw [nextProjectPhase, hb]
    rw [hnext, ← value_inj, value_projectBlockedPhaseFor, hphase]
  have hmove := decideNextProjectTransition_move state args
  generalize decideNextProjectTransition state args = result at hmove
  cases hmove with
  | gateBlocked hgate hne => exact absurd hsame hne
  | blocked hgate hsome hne => exact absurd hsame hne
  | blockedNeedsWait hsome hnone => exact absurd (hw.symm.trans hnone) (Option.some_ne_none _)
  | doneBlocked hnone hdone hproof => exact absurd (hb.symm.trans hnone) (Option.some_ne_none _)
  | done hnone hdone hproof => exact absurd (hb.symm.trans hnone) (Option.some_ne_none _)
  | reviewBlocked hnone hreview => exact absurd (hb.symm.trans hnone) (Option.some_ne_none _)
  | needsWait hnone hdone hwait => exact absurd (hb.symm.trans hnone) (Option.some_ne_none _)
  | reviewWait hnone hreview hwait => exact absurd (hb.symm.trans hnone) (Option.some_ne_none _)
  | wait hnone hdone _ hwait => exact absurd (hb.symm.trans hnone) (Option.some_ne_none _)
  | advance hgate hnone hdone hne hsignal hplain hto => exact absurd hsame hne
  | blockedWait hsome _ hwait =>
      obtain rfl := Option.some.inj (hb.symm.trans hsome)
      obtain rfl := Option.some.inj (hw.symm.trans hwait)
      rw [value_projectBlockedPhaseFor, hphase]
      exact ⟨_, emit_of_valid (waitDecision_valid fun _ => Option.some_ne_none _)⟩

/-- A blocked task in the phase of its blocker waits on and records the blocker again. -/
theorem task_blockedWait {state : TaskState} {args : TransitionArgs} {blocker : Blocker} {wait : WaitPolicy}
    (hb : state.blocker = some blocker) (hw : args.waitToStart = some wait)
    (hphase : value state.phase = templateBlockedPhaseFor blocker.ownerRole) :
    ∃ decisionId, decideNextTaskTransition state args =
      .ok (waitDecision decisionId args.decidedAt (templateBlockedPhaseFor blocker.ownerRole)
        (templateBlockedPhaseFor blocker.ownerRole) wait (some blocker)) := by
  have hsame : nextTaskPhase state = state.phase := by
    have hnext : nextTaskPhase state = taskBlockedPhaseFor blocker.ownerRole := by rw [nextTaskPhase, hb]
    rw [hnext, ← value_inj, value_taskBlockedPhaseFor, hphase]
  have hmove := decideNextTaskTransition_move state args
  generalize decideNextTaskTransition state args = result at hmove
  cases hmove with
  | blocked hsome hne => exact absurd hsame hne
  | blockedNeedsWait hsome hnone => exact absurd (hw.symm.trans hnone) (Option.some_ne_none _)
  | reviewBlocked hnone hreview => exact absurd (hb.symm.trans hnone) (Option.some_ne_none _)
  | needsWait hnone hwait => exact absurd (hb.symm.trans hnone) (Option.some_ne_none _)
  | reviewWait hnone hreview hwait => exact absurd (hb.symm.trans hnone) (Option.some_ne_none _)
  | wait hnone _ hwait => exact absurd (hb.symm.trans hnone) (Option.some_ne_none _)
  | advance hnone hne hsignal hplain hto => exact absurd hsame hne
  | blockedWait hsome _ hwait =>
      obtain rfl := Option.some.inj (hb.symm.trans hsome)
      obtain rfl := Option.some.inj (hw.symm.trans hwait)
      rw [value_taskBlockedPhaseFor, hphase]
      exact ⟨_, emit_of_valid (waitDecision_valid fun _ => Option.some_ne_none _)⟩

/-- **No blocked wait is legal.** In a blocked phase whose blocker was recorded, with the policy's approval, from
    a phase that is not blocked, both drivers emit the wait with the same blocker, and the policy rejects it. -/
theorem blockedWait_rejected [UnicodeData] :
    (∀ (state : ProjectState) (args : ProjectTransitionArgs) (blocker : Blocker) (wait : WaitPolicy)
        (recording : WorkflowDecision),
      RecordedBlocker .softwareProject (value state.phase) blocker recording →
      isBlockedPhase recording.fromPhase = false →
      state.blocker = some blocker → args.waitToStart = some wait → wait.thresholdResponse ≠ .failed →
      ∃ d, decideNextProjectTransition state args = .ok d ∧ d.progressSignal = some .waitTimerStarted
        ∧ d.fromPhase = value state.phase ∧ d.toPhase = value state.phase ∧ d.blockerToRecord = some blocker
        ∧ validateDecisionAgainstPhasePolicy .softwareProject d = .error .sourcePhaseNotRecorded)
    ∧ (∀ (state : TaskState) (args : TransitionArgs) (blocker : Blocker) (wait : WaitPolicy)
        (recording : WorkflowDecision),
      RecordedBlocker .softwareTask (value state.phase) blocker recording →
      isBlockedPhase recording.fromPhase = false →
      state.blocker = some blocker → args.waitToStart = some wait → wait.thresholdResponse ≠ .failed →
      ∃ d, decideNextTaskTransition state args = .ok d ∧ d.progressSignal = some .waitTimerStarted
        ∧ d.fromPhase = value state.phase ∧ d.toPhase = value state.phase ∧ d.blockerToRecord = some blocker
        ∧ validateDecisionAgainstPhasePolicy .softwareTask d = .error .sourcePhaseNotRecorded) := by
  constructor
  · intro state args blocker wait recording hrecorded hopen hb hw hthreshold
    obtain ⟨decisionId, hd⟩ := project_blockedWait hb hw hrecorded.phase_eq
    rw [hrecorded.phase_eq]
    exact ⟨_, hd, rfl, rfl, rfl, rfl, validate_blockedWait hthreshold (hrecorded.source_ne hopen)⟩
  · intro state args blocker wait recording hrecorded hopen hb hw hthreshold
    obtain ⟨decisionId, hd⟩ := task_blockedWait hb hw hrecorded.phase_eq
    rw [hrecorded.phase_eq]
    exact ⟨_, hd, rfl, rfl, rfl, rfl, validate_blockedWait hthreshold (hrecorded.source_ne hopen)⟩

/-- A wait that escalates to the process steward. -/
def exampleWait : WaitPolicy where
  awaitedSignal := "scope decision"
  startedAt := "T2"
  thresholdAt := "T3"
  retryPolicy := "none"
  thresholdResponse := .blockedNeedsElLe

/-- The project that was blocked while planning. -/
def exampleBlockedPlanning : ProjectState where
  id := "P-1"
  phase := .blockedNeedsZoEl
  blocker := some exampleBlocker

theorem exampleBlocking_recorded :
    RecordedBlocker .softwareProject "BLOCKED_NEEDS_ZO_EL" exampleBlocker exampleBlocking.toWorkflowDecision :=
  ⟨by decide +kernel, rfl, rfl⟩

theorem blockedWait_rejected_planning :
    ∃ d, @decideNextProjectTransition asciiOnly exampleBlockedPlanning
        { decidedAt := "T2", waitToStart := some exampleWait } = .ok d
      ∧ validateDecisionAgainstPhasePolicy .softwareProject d = .error .sourcePhaseNotRecorded := by
  obtain ⟨d, hd, -, -, -, -, hrejected⟩ := (@blockedWait_rejected asciiOnly).1 exampleBlockedPlanning
    { decidedAt := "T2", waitToStart := some exampleWait } exampleBlocker exampleWait
    exampleBlocking.toWorkflowDecision exampleBlocking_recorded (by decide) rfl rfl (by decide)
  exact ⟨d, hd, hrejected⟩

/-- A blocked driver cannot keep waiting: the wait of the blocked project is not accepted. -/
theorem blockedWait_not_accepted :
    ¬((∀ (state : ProjectState) (args : ProjectTransitionArgs) (blocker : Blocker) (wait : WaitPolicy)
        (recording d : WorkflowDecision),
        RecordedBlocker .softwareProject (value state.phase) blocker recording →
        isBlockedPhase recording.fromPhase = false →
        state.blocker = some blocker → args.waitToStart = some wait → wait.thresholdResponse ≠ .failed →
        @decideNextProjectTransition asciiOnly state args = .ok d →
        validateDecisionAgainstPhasePolicy .softwareProject d = .ok d)
      ∧ (∀ (state : TaskState) (args : TransitionArgs) (blocker : Blocker) (wait : WaitPolicy)
        (recording d : WorkflowDecision),
        RecordedBlocker .softwareTask (value state.phase) blocker recording →
        isBlockedPhase recording.fromPhase = false →
        state.blocker = some blocker → args.waitToStart = some wait → wait.thresholdResponse ≠ .failed →
        decideNextTaskTransition state args = .ok d →
        validateDecisionAgainstPhasePolicy .softwareTask d = .ok d)) := by
  rintro ⟨hproject, -⟩
  have haccepted := hproject exampleBlockedPlanning { decidedAt := "T2", waitToStart := some exampleWait }
    exampleBlocker exampleWait exampleBlocking.toWorkflowDecision
    (waitDecision "P-1:BLOCKED_NEEDS_ZO_EL:blocked-wait" "T2" "BLOCKED_NEEDS_ZO_EL" "BLOCKED_NEEDS_ZO_EL"
      exampleWait (some exampleBlocker))
    exampleBlocking_recorded (by decide) rfl rfl (by decide) (by decide +kernel)
  exact absurd haccepted (by decide +kernel)

end WorkflowDrivers
