import WorkflowDrivers.Store.Files

/-!
# `Store.History` — what the store is for

A store keeps the history of one workflow: the seed, the decisions taken since, the events, and the state they
lead to. `History` carries the proof that the decisions lead there, so a history that does not replay cannot be
built. The store is then a machine over an optional history, with one operation for each call; the four files
are a picture of it (`picture`), and `run_picture` says that running a call on the picture is the operation.
-/

namespace WorkflowDrivers
open Lib

/-! ## Histories -/

/-- The history of an initialized store. -/
structure History where
  seed : WorkflowStateRecord
  decisions : List WorkflowDecision
  events : List WorkflowEvent
  state : WorkflowStateRecord
  replays : replayDecisions seed decisions = .ok state

namespace History

/-- A fresh history. -/
def start (seed : WorkflowStateRecord) : History where
  seed
  decisions := []
  events := []
  state := seed
  replays := rfl

/-- One more event. -/
def addEvent (h : History) (event : WorkflowEvent) : History := { h with events := h.events ++ [event] }

/-- One more decision, which the current state accepts. -/
def addDecision (h : History) (decision : WorkflowDecision) (next : WorkflowStateRecord)
    (happly : applyDecision h.state decision = .ok next) : History where
  seed := h.seed
  decisions := h.decisions ++ [decision]
  events := h.events
  state := next
  replays := replay_concat.mpr ⟨h.state, h.replays, happly⟩

end History

/-! ## The abstract store -/

/-- What a call does to the history: nothing when it is rejected. -/
def StoreCall.advance (history : Option History) : StoreCall → Option History
  | .initializeStore state overwrite =>
      if history.isSome && !overwrite then history else some (History.start state)
  | .appendEvent event => history.map (fun h => h.addEvent event)
  | .appendDecision decision =>
      match history with
      | none => none
      | some h =>
          match happly : applyDecision h.state decision with
          | .error _ => some h
          | .ok next => some (h.addDecision decision next happly)
  | .replay => history

theorem advance_accepted {h : History} {decision : WorkflowDecision} {next : WorkflowStateRecord}
    (happly : applyDecision h.state decision = .ok next) :
    (StoreCall.appendDecision decision).advance (some h) = some (h.addDecision decision next happly) := by
  simp only [StoreCall.advance]
  split
  · next error herror =>
      rw [happly] at herror
      cases herror
  · next other hother =>
      obtain rfl : next = other := Except.ok.inj (happly.symm.trans hother)
      rfl

theorem advance_refused {h : History} {decision : WorkflowDecision} {error : ReplayError}
    (happly : applyDecision h.state decision = .error error) :
    (StoreCall.appendDecision decision).advance (some h) = some h := by
  simp only [StoreCall.advance]
  split
  · rfl
  · next other hother =>
      rw [happly] at hother
      cases hother

/-- Why the abstract store rejects a call, if it does. -/
def StoreCall.rejection (history : Option History) : StoreCall → Option StoreError
  | .initializeStore _ overwrite => if history.isSome && !overwrite then some .alreadyInitialized else none
  | .appendEvent _ => if history.isSome then none else some .notInitialized
  | .appendDecision decision =>
      match history with
      | none => some .notInitialized
      | some h =>
          match applyDecision h.state decision with
          | .error error => some (.replay error)
          | .ok _ => none
  | .replay => if history.isSome then none else some (.missingFile "initial_state.json")

/-! ## The files are a picture of the history -/

/-- The four files of a store with this history. -/
def picture : Option History → StoreFiles
  | none => {}
  | some h =>
      { initialState := some h.seed, events := some h.events, decisions := some h.decisions
        currentState := some h.state }

/-- **Refinement.** Running a call on the picture of a history gives the picture of the advanced history, and
    the call is rejected exactly when the abstract store rejects it, for the same reason. -/
theorem run_picture (call : StoreCall) (history : Option History) :
    (call.run (picture history)).1 = picture (call.advance history)
      ∧ ∀ error, (call.run (picture history)).2 = .error error ↔ call.rejection history = some error := by
  cases call with
  | initializeStore state overwrite =>
      rw [run_initializeStore]
      cases history with
      | none => simp [picture, StoreCall.advance, StoreCall.rejection, History.start]
      | some h =>
          cases overwrite with
          | true => simp [picture, StoreCall.advance, StoreCall.rejection, History.start]
          | false => simp [picture, StoreCall.advance, StoreCall.rejection, eq_comm]
  | appendEvent event =>
      rw [run_appendEvent]
      cases history with
      | none => simp [picture, StoreCall.advance, StoreCall.rejection, eq_comm]
      | some h => simp [picture, StoreCall.advance, StoreCall.rejection, History.addEvent]
  | appendDecision decision =>
      rw [run_appendDecision]
      cases history with
      | none => simp [picture, StoreCall.advance, StoreCall.rejection, eq_comm]
      | some h =>
          -- the snapshot of the picture is the history's state, so both sides apply the same decision to it
          cases happly : applyDecision h.state decision with
          | error error =>
              rw [advance_refused happly]
              simp [picture, StoreCall.rejection, happly, eq_comm]
          | ok next =>
              rw [advance_accepted happly]
              simp [picture, StoreCall.rejection, happly, History.addDecision]
  | replay =>
      rw [run_replay]
      cases history with
      | none => simp [picture, StoreCall.advance, StoreCall.rejection, eq_comm]
      | some h => simp [picture, StoreCall.advance, StoreCall.rejection, h.replays]

/-- A rejected call changes nothing. -/
theorem advance_rejected {call : StoreCall} {history : Option History} {error : StoreError}
    (h : call.rejection history = some error) : call.advance history = history := by
  cases call with
  | initializeStore state overwrite =>
      simp only [StoreCall.rejection, StoreCall.advance] at h ⊢
      split_ifs at h ⊢ with hkeep
      rfl
  | appendEvent event =>
      cases history with
      | none => rfl
      | some h' => simp [StoreCall.rejection] at h
  | appendDecision decision =>
      cases history with
      | none => rfl
      | some h' =>
          cases happly : applyDecision h'.state decision with
          | error error => exact advance_refused happly
          | ok next => simp [StoreCall.rejection, happly] at h
  | replay => rfl

end WorkflowDrivers
