import WorkflowDrivers.Store.History

/-!
# `Correctness.StoreRuns` — the store over sequences of completed calls

Starting from an empty directory, the files are at every moment the picture of a history. The incremental path
(load the snapshot, apply one decision, overwrite the snapshot) and the path from scratch (fold over the log)
therefore agree, since a history carries the proof that its decisions lead to its state.
-/

namespace WorkflowDrivers
open Lib

/-! ## Sequences of calls -/

/-- The directory after a sequence of calls, completed or rejected. -/
def runCalls : StoreFiles → List StoreCall → StoreFiles
  | files, [] => files
  | files, call :: rest => runCalls (call.run files).1 rest

/-- The calls of a sequence that returned normally, in order. -/
def acceptedCalls : StoreFiles → List StoreCall → List StoreCall
  | _, [] => []
  | files, call :: rest =>
      match (call.run files).2 with
      | .ok _ => call :: acceptedCalls (call.run files).1 rest
      | .error _ => acceptedCalls (call.run files).1 rest

/-- What accepted calls have recorded since the last initialization among them. -/
structure Recorded where
  seed : Option WorkflowStateRecord := none
  decisions : List WorkflowDecision := []
  events : List WorkflowEvent := []

/-- One more accepted call; an initialization starts over. -/
def Recorded.add (recorded : Recorded) : StoreCall → Recorded
  | .initializeStore state _ => { seed := some state, decisions := [], events := [] }
  | .appendEvent event => { recorded with events := recorded.events ++ [event] }
  | .appendDecision decision => { recorded with decisions := recorded.decisions ++ [decision] }
  | .replay => recorded

def recordedBy (accepted : List StoreCall) : Recorded := accepted.foldl Recorded.add {}

/-- What a history has recorded. -/
def recordedIn : Option History → Recorded
  | none => {}
  | some h => { seed := some h.seed, decisions := h.decisions, events := h.events }

/-! ## One call -/

/-- A call the abstract store does not reject records itself. -/
theorem recordedIn_advance {call : StoreCall} {history : Option History} (h : call.rejection history = none) :
    recordedIn (call.advance history) = (recordedIn history).add call := by
  cases call with
  | initializeStore state overwrite =>
      simp only [StoreCall.rejection] at h
      split_ifs at h with hkeep
      rw [StoreCall.advance, if_neg hkeep]
      rfl
  | appendEvent event =>
      cases history with
      | none => simp [StoreCall.rejection] at h
      | some hist => rfl
  | appendDecision decision =>
      cases history with
      | none => simp [StoreCall.rejection] at h
      | some hist =>
          cases happly : applyDecision hist.state decision with
          | error error => simp [StoreCall.rejection, happly] at h
          | ok next =>
              rw [advance_accepted happly]
              rfl
  | replay => rfl

/-- A call that raises leaves the picture of a history as it was. -/
theorem rejected_unchanged {call : StoreCall} {history : Option History} {error : StoreError}
    (h : (call.run (picture history)).2 = .error error) : (call.run (picture history)).1 = picture history := by
  obtain ⟨hfiles, herror⟩ := run_picture call history
  rw [hfiles, advance_rejected ((herror error).mp h)]

/-! ## Runs -/

/-- **Run lemma.** From the picture of a history every sequence of calls leads to the picture of a history, and
    that one has recorded exactly what the accepted calls add. -/
theorem runCalls_picture (calls : List StoreCall) (history : Option History) :
    ∃ history', runCalls (picture history) calls = picture history'
      ∧ recordedIn history' = (acceptedCalls (picture history) calls).foldl Recorded.add (recordedIn history) := by
  induction calls generalizing history with
  | nil => exact ⟨history, rfl, rfl⟩
  | cons call rest ih =>
      obtain ⟨hfiles, herror⟩ := run_picture call history
      obtain ⟨history', hrun, hrecorded⟩ := ih (call.advance history)
      refine ⟨history', by rw [runCalls, hfiles, hrun], ?_⟩
      rw [hrecorded, acceptedCalls, hfiles]
      -- a returned call records itself, a raised one leaves the history where it is
      cases hresult : (call.run (picture history)).2 with
      | ok answer =>
          have haccepted : call.rejection history = none := by
            cases hreject : call.rejection history with
            | none => rfl
            | some error => exact absurd (hresult.symm.trans ((herror error).mpr hreject)) (by simp)
          simp only [List.foldl_cons, recordedIn_advance haccepted]
      | error error => rw [advance_rejected ((herror error).mp hresult)]

/-- **The store follows its history.** After every sequence of calls on an empty directory, if the store is
    initialized: replaying the decision log from the initial state succeeds and gives the snapshot, and the
    logs hold exactly what the accepted calls have recorded since the last accepted initialization. And any
    next call that raises leaves the four files as they were. -/
theorem store_follows_history (calls : List StoreCall) :
    ((runCalls {} calls).initialState.isSome = true →
      ∃ initial state decisions events,
        runCalls {} calls =
          { initialState := some initial, events := some events, decisions := some decisions
            currentState := some state }
        ∧ replayDecisions initial decisions = .ok state
        ∧ decisions = (recordedBy (acceptedCalls {} calls)).decisions
        ∧ events = (recordedBy (acceptedCalls {} calls)).events
        ∧ some initial = (recordedBy (acceptedCalls {} calls)).seed)
    ∧ ∀ (call : StoreCall) (error : StoreError), (call.run (runCalls {} calls)).2 = .error error →
        (call.run (runCalls {} calls)).1 = runCalls {} calls := by
  obtain ⟨history, hrun, hrecorded⟩ := runCalls_picture calls none
  have hempty : picture none = {} := rfl
  rw [hempty] at hrun hrecorded
  change recordedIn history = recordedBy (acceptedCalls {} calls) at hrecorded
  rw [hrun, ← hrecorded]
  constructor
  · intro hinitialized
    cases history with
    | none => exact absurd hinitialized (by simp [picture])
    | some h => exact ⟨h.seed, h.state, h.decisions, h.events, rfl, h.replays, rfl, rfl, rfl⟩
  · intro call error herror
    exact rejected_unchanged herror

/-- A store is created, takes a decision, rejects the same decision again, and is replayed. -/
def exampleCalls : List StoreCall :=
  [.initializeStore (exampleRecord "PROJECT_INTAKE_ASSIGNED" none) false, .appendDecision examplePlanned,
   .appendDecision examplePlanned, .replay]

theorem store_follows_history_planned :
    ∃ initial state, (runCalls {} exampleCalls).initialState = some initial
      ∧ (runCalls {} exampleCalls).currentState = some state
      ∧ replayDecisions initial [examplePlanned] = .ok state := by
  obtain ⟨initial, state, decisions, events, hrun, hreplay, hdecisions, -⟩ :=
    (store_follows_history exampleCalls).1 (by decide)
  rw [hrun]
  have hplanned : decisions = [examplePlanned] := hdecisions.trans (by decide +kernel)
  exact ⟨initial, state, rfl, rfl, hplanned ▸ hreplay⟩

end WorkflowDrivers
