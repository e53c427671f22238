import WorkflowDrivers.Correctness.BlockedWaits
import WorkflowDrivers.Correctness.TerminalStates

/-!
# `Correctness.PendingWaits` — the waits a decision loses and the waits it leaves over

The wait of a record is written by two stages in a row: the first starts a wait or, when the phase changes,
drops the old one; the second drops whatever is there when a blocker is recorded. So a decision that starts a
wait and records a blocker loses the wait, and those are the decisions of a blocked driver that waits on. And a
decision that ends the workflow clears the blocker and the activity, but the wait only by changing the phase.
-/

namespace WorkflowDrivers
open Lib StrEnum

section
variable {state next : WorkflowStateRecord} {d : ValidDecision} {wait : WaitPolicy} {outcome : TerminalOutcome}

/-! ## Starting a wait -/

/-- **Step lemma.** A wait that is started is recorded exactly when no blocker is recorded with it. -/
theorem started_wait_recorded_iff (hwait : d.waitToStart = some wait) (h : applyValid state d = .ok next) :
    next.wait = some wait ↔ d.blockerToRecord = none := by
  obtain ⟨-, rfl⟩ := applyValid_eq_ok.mp h
  rw [nextState_wait, nextWait]
  cases hb : d.blockerToRecord with
  | none => simp [hwait]
  | some blocker => simp

/-! ## Ending the workflow -/

/-- The wait after a terminal decision: nothing starts one, and only a change of phase drops the old one. -/
theorem terminal_wait_eq_none_iff (hterminal : d.terminalOutcome = some outcome)
    (h : applyValid state d = .ok next) : next.wait = none ↔ state.wait = none ∨ d.toPhase ≠ state.phase := by
  obtain ⟨-, rfl⟩ := applyValid_eq_ok.mp h
  obtain ⟨-, hnowait, hnoblocker⟩ := d.valid.terminalAlone (by rw [hterminal]; rfl)
  rw [nextState_wait, nextWait, hnoblocker, hnowait]
  by_cases hphase : d.toPhase = state.phase
  · simp [hphase]
  · simp [hphase]

end

/-! ## The blocked waits of the drivers -/

/-- A decision that starts a wait and records a blocker leaves no wait, on whatever record it is applied. -/
theorem waitDecision_blocked_drops {record next : WorkflowStateRecord} {wait : WaitPolicy} {blocker : Blocker}
    {decisionId decidedAt fromPhase toPhase : String}
    (h : applyDecision record (waitDecision decisionId decidedAt fromPhase toPhase wait (some blocker)) = .ok next) :
    next.wait = none := by
  obtain ⟨-, rfl⟩ := applyDecision_eq_ok.mp h
  exact (nextState_of_blocker record rfl).2

/-- **When a started wait is recorded.** Of every valid decision that starts a wait: it is the wait of the
    resulting record exactly when the decision records no blocker. The blocked waits of the two drivers record
    one, so whatever record they are applied to, the wait they demanded is gone. -/
theorem wait_recorded_iff [UnicodeData] :
    (∀ (state next : WorkflowStateRecord) (d : ValidDecision) (wait : WaitPolicy),
      d.waitToStart = some wait → applyValid state d = .ok next →
      (next.wait = some wait ↔ d.blockerToRecord = none))
    ∧ (∀ (state : ProjectState) (args : ProjectTransitionArgs) (blocker : Blocker) (wait : WaitPolicy),
      state.blocker = some blocker → args.waitToStart = some wait →
      value state.phase = templateBlockedPhaseFor blocker.ownerRole →
      ∃ d, decideNextProjectTransition state args = .ok d ∧ d.waitToStart = some wait
        ∧ ∀ record next, applyDecision record d = .ok next → next.wait = none)
    ∧ (∀ (state : TaskState) (args : TransitionArgs) (blocker : Blocker) (wait : WaitPolicy),
      state.blocker = some blocker → args.waitToStart = some wait →
      value state.phase = templateBlockedPhaseFor blocker.ownerRole →
      ∃ d, decideNextTaskTransition state args = .ok d ∧ d.waitToStart = some wait
        ∧ ∀ record next, applyDecision record d = .ok next → next.wait = none) := by
  refine ⟨fun state next d wait hwait h => started_wait_recorded_iff hwait h, ?_, ?_⟩
  · intro state args blocker wait hb hw hphase
    obtain ⟨decisionId, hd⟩ := project_blockedWait hb hw hphase
    exact ⟨_, hd, rfl, fun record next h => waitDecision_blocked_drops h⟩
  · intro state args blocker wait hb hw hphase
    obtain ⟨decisionId, hd⟩ := task_blockedWait hb hw hphase
    exact ⟨_, hd, rfl, fun record next h => waitDecision_blocked_drops h⟩

/-- The wait of a blocked project, as the driver emits it. -/
def exampleBlockedWait : ValidDecision where
  toWorkflowDecision := waitDecision "P-1:BLOCKED_NEEDS_ZO_EL:blocked-wait" "T2" "BLOCKED_NEEDS_ZO_EL"
    "BLOCKED_NEEDS_ZO_EL" exampleWait (some exampleBlocker)
  valid := waitDecision_valid fun _ => Option.some_ne_none _

/-- A wait for the review, in the phase of the review. -/
def exampleReviewWait : ValidDecision where
  toWorkflowDecision := waitDecision "D-1" "T1" "REVIEW_WAIT" "REVIEW_WAIT" exampleWait none
  valid := waitDecision_valid fun h => absurd h (by decide)

theorem wait_recorded_iff_reviewWait :
    (nextState (exampleRecord "REVIEW_WAIT" none) exampleReviewWait.toWorkflowDecision).wait = some exampleWait :=
  ((@wait_recorded_iff asciiOnly).1 (exampleRecord "REVIEW_WAIT" none) _ exampleReviewWait exampleWait rfl
    (by decide +kernel)).mpr rfl

/-- A controlled wait is not durable: the blocked project's wait is emitted, applied, and not recorded. -/
theorem wait_not_durable :
    ¬((∀ (state next : WorkflowStateRecord) (d : ValidDecision) (wait : WaitPolicy),
        d.waitToStart = some wait → applyValid state d = .ok next → next.wait = some wait)
      ∧ (∀ (state : ProjectState) (args : ProjectTransitionArgs) (wait : WaitPolicy) (d : WorkflowDecision)
          (record next : WorkflowStateRecord), state.blocker.isSome = true →
        @decideNextProjectTransition asciiOnly state args = .ok d → d.waitToStart = some wait →
        applyDecision record d = .ok next → next.wait = some wait)) := by
  rintro ⟨-, hproject⟩
  have hwait := hproject exampleBlockedPlanning { decidedAt := "T2", waitToStart := some exampleWait } exampleWait
    exampleBlockedWait.toWorkflowDecision (exampleRecord "BLOCKED_NEEDS_ZO_EL" (some exampleBlocker))
    (nextState (exampleRecord "BLOCKED_NEEDS_ZO_EL" (some exampleBlocker)) exampleBlockedWait.toWorkflowDecision)
    rfl (by decide +kernel) rfl (by decide +kernel)
  exact absurd hwait (by decide +kernel)

/-! ## What is left pending by a terminal decision -/

/-- **What a terminal decision leaves pending.** No blocker and no current activity; and no wait exactly when
    none was pending or the decision changes the phase. -/
theorem terminal_step_settles_iff (state next : WorkflowStateRecord) (d : ValidDecision)
    (hterminal : d.terminalOutcome.isSome = true) (h : applyValid state d = .ok next) :
    (next.wait = none ∧ next.blocker = none ∧ next.currentActivity = none)
      ↔ (state.wait = none ∨ d.toPhase ≠ state.phase) := by
  obtain ⟨outcome, houtcome⟩ := Option.isSome_iff_exists.mp hterminal
  have hfinished : Finished next outcome := finished_of_terminal h houtcome
  rw [← terminal_wait_eq_none_iff houtcome h]
  exact ⟨fun hnone => hnone.1, fun hwait => ⟨hwait, hfinished.blocker, hfinished.currentActivity⟩⟩

theorem terminal_step_settles_iff_finalReport :
    exampleFinished.wait = none ∧ exampleFinished.blocker = none ∧ exampleFinished.currentActivity = none :=
  (terminal_step_settles_iff (exampleRecord "FINAL_REPORT" none) exampleFinished exampleFinish rfl
    (by decide +kernel)).mpr (Or.inl rfl)

/-- A task whose completion is to be confirmed: the wait goes along into the terminal phase. -/
def exampleAwaitConfirmation : ValidDecision where
  toWorkflowDecision := waitDecision "D-1" "T1" "REVIEW_WAIT" "COMPLETE" exampleWait none
  valid := waitDecision_valid fun h => absurd h (by decide)

/-- The outcome of a task that is already in its terminal phase. -/
def exampleComplete : ValidDecision where
  decisionId := "D-2"
  decidedAt := "T2"
  fromPhase := "COMPLETE"
  toPhase := "COMPLETE"
  materialProgress := true
  progressSignal := some .taskCompleted
  terminalOutcome := some .done
  valid := WorkflowDecision.validate_eq_ok.mp (by decide)

/-- The record of a task that waits in its terminal phase. -/
def exampleAwaiting : WorkflowStateRecord :=
  nextState { exampleRecord "REVIEW_WAIT" none with driverKind := .softwareTask }
    exampleAwaitConfirmation.toWorkflowDecision

/-- A terminal decision may leave a wait: the task in its terminal phase is done and still waits. -/
theorem terminal_step_leaves_wait :
    ¬∀ (state next : WorkflowStateRecord) (d : ValidDecision), d.terminalOutcome.isSome = true →
      applyValid state d = .ok next →
      next.wait = none ∧ next.blocker = none ∧ next.currentActivity = none := by
  intro h
  have hnone := h exampleAwaiting (nextState exampleAwaiting exampleComplete.toWorkflowDecision) exampleComplete rfl
    (by decide +kernel)
  exact absurd hnone.1 (by decide +kernel)

end WorkflowDrivers
