import WorkflowDrivers.Correctness.BlockedStates
import WorkflowDrivers.Correctness.TerminalStates

/-!
# `Correctness.EngineBlockers` — blockers under the engine's own checks

The store applies any valid decision that `applyDecision` accepts, with no phase policy in between. What that
alone guarantees about blockers is a law of a single step, `BlockerStep`, whatever the signal and wherever the
decision leads; since it needs no invariant, it holds of every step of every run, and so a run cannot leave a
blocked phase past the blocker that was recorded on the way in.
-/

namespace WorkflowDrivers
open Lib

/-! ## One step -/

/-- **What a step does to the blocker**: into a blocked phase it holds the decision's own blocker; out of the
    blocked phases it ends the workflow or takes an option of the blocker that is held, and leaves none behind
    that it does not record itself. -/
structure BlockerStep (state : WorkflowStateRecord) (d : WorkflowDecision) (next : WorkflowStateRecord) :
    Prop where
  recorded : isBlockedPhase next.phase = true → next.blocker = d.blockerToRecord ∧ d.blockerToRecord ≠ none
  resumes : isBlockedPhase state.phase = true → isBlockedPhase next.phase = false →
    d.terminalOutcome.isSome = true ∨ ∃ blocker ∈ state.blocker,
      ∃ option ∈ blocker.resumeTarget.decisionOptions, option.resultingPhase = next.phase
  cleared : isBlockedPhase state.phase = true → isBlockedPhase next.phase = false →
    d.blockerToRecord = none → next.blocker = none

section
variable {state next : WorkflowStateRecord} {d : ValidDecision}

/-- **Step lemma.** -/
theorem applyValid_blockerStep (h : applyValid state d = .ok next) :
    BlockerStep state d.toWorkflowDecision next := by
  obtain ⟨haccepts, rfl⟩ := applyValid_eq_ok.mp h
  refine ⟨?_, ?_, ?_⟩
  · intro hto
    rw [nextState_phase] at hto
    have hrecords : d.blockerToRecord ≠ none := haccepts.blockedRecords hto
    obtain ⟨blocker, hb⟩ := Option.ne_none_iff_exists'.mp hrecords
    exact ⟨(nextState_of_blocker state hb).1.trans hb.symm, hrecords⟩
  · intro hfrom hto
    rw [nextState_phase] at hto ⊢
    cases hterminal : d.terminalOutcome with
    | some outcome => exact Or.inl rfl
    | none => exact Or.inr (haccepts.leaving hfrom hto hterminal)
  · intro hfrom hto hnone
    rw [nextState_phase] at hto
    rw [nextState_blocker]
    exact nextBlocker_of_leaving hfrom hto hnone

end

/-! ## Runs -/

/-- **Recorded blockers cannot be bypassed.** Every decision of an accepted run of valid decisions, from any
    initial record, takes the record that its predecessors lead to, to the next one as `BlockerStep` says; and
    when the record was brought into a blocked phase by the decision before, the blocker whose options bind it is
    the one that this decision recorded. -/
theorem run_blockers_not_bypassed (initial final : WorkflowStateRecord) (decisions : List ValidDecision)
    (hrun : replay applyValid initial decisions = .ok final) (before after : List ValidDecision)
    (d : ValidDecision) (hsplit : decisions = before ++ d :: after) :
    ∃ state next, replay applyValid initial before = .ok state ∧ applyValid state d = .ok next
      ∧ BlockerStep state d.toWorkflowDecision next
      ∧ ∀ earlier recording, before = earlier ++ [recording] → isBlockedPhase state.phase = true →
          state.phase = recording.toPhase ∧ state.blocker = recording.blockerToRecord
          ∧ recording.blockerToRecord ≠ none := by
  rw [hsplit] at hrun
  obtain ⟨state, next, hbefore, hstep, -⟩ := replay_middle.mp hrun
  refine ⟨state, next, hbefore, hstep, applyValid_blockerStep hstep, ?_⟩
  rintro earlier recording rfl hblocked
  obtain ⟨previous, -, hrecording⟩ := replay_concat.mp hbefore
  obtain ⟨hheld, hrecords⟩ := (applyValid_blockerStep hrecording).recorded hblocked
  obtain ⟨-, rfl⟩ := applyValid_eq_ok.mp hrecording
  exact ⟨nextState_phase _ _, hheld, hrecords⟩

/-- The human approver has chosen: the plan is reviewed. -/
def exampleResolved : ValidDecision where
  decisionId := "D-2"
  decidedAt := "T2"
  fromPhase := "BLOCKED_NEEDS_ZO_EL"
  toPhase := "PLAN_REVIEW"
  materialProgress := true
  progressSignal := some .blockerResolved
  valid := WorkflowDecision.validate_eq_ok.mp (by decide)

/-- The record of the project that was blocked while planning. -/
def exampleBlockedRecord : WorkflowStateRecord :=
  nextState (exampleRecord "PLANNING" none) exampleBlocking.toWorkflowDecision

theorem run_blockers_not_bypassed_planning :
    ∃ state next, replay applyValid (exampleRecord "PLANNING" none) [exampleBlocking] = .ok state
      ∧ applyValid state exampleResolved = .ok next
      ∧ BlockerStep state exampleResolved.toWorkflowDecision next := by
  obtain ⟨state, next, hbefore, hstep, hlaw, -⟩ := run_blockers_not_bypassed (exampleRecord "PLANNING" none)
    (nextState exampleBlockedRecord exampleResolved.toWorkflowDecision) [exampleBlocking, exampleResolved]
    (by decide +kernel) [exampleBlocking] [] exampleResolved rfl
  exact ⟨state, next, hbefore, hstep, hlaw⟩

end WorkflowDrivers
