import WorkflowDrivers.Lib.Program
import WorkflowDrivers.Policies.Replay

/-!
# `Store.Files` — the JSON store over its four files

A store is its directory: four files, each present or absent, with the records they hold. That a written record
is read back as the same record is the level of this module; `Store.Log` looks at the text. Every operation is
a program over the directory, with its reads and writes in the source's order, so that it can be run to the end
or cut off between two writes.
-/

namespace WorkflowDrivers
open Lib

/-! ## The directory -/

/-- The logs as the lists of their records: what a directory holds whose lines are all read back (`Store.TextFiles`
    has the texts, of which that need not be so). -/
structure StoreFiles where
  initialState : Option WorkflowStateRecord := none
  events : Option (List WorkflowEvent) := none
  decisions : Option (List WorkflowDecision) := none
  currentState : Option WorkflowStateRecord := none

/-- Why an operation raised. -/
inductive StoreError
  | alreadyInitialized
  | notInitialized
  | missingFile (name : String)
  | replay (error : ReplayError)
  deriving DecidableEq

abbrev StoreProg (α : Type) := Prog StoreFiles StoreError α

namespace JsonWorkflowStore

/-! ## Reading and writing one file -/

def loadInitialState : StoreProg WorkflowStateRecord := do
  let files ← Prog.get
  match files.initialState with
  | some state => pure state
  | none => Prog.throw (.missingFile "initial_state.json")

def loadCurrentState : StoreProg WorkflowStateRecord := do
  let files ← Prog.get
  match files.currentState with
  | some state => pure state
  | none => Prog.throw (.missingFile "current_state.json")

/-- A missing log reads as an empty one. -/
def iterDecisions : StoreProg (List WorkflowDecision) := do
  let files ← Prog.get
  pure (files.decisions.getD [])

def iterEvents : StoreProg (List WorkflowEvent) := do
  let files ← Prog.get
  pure (files.events.getD [])

def writeInitialState (state : WorkflowStateRecord) : StoreProg Unit :=
  Prog.modify (fun files => { files with initialState := some state })

def writeCurrentState (state : WorkflowStateRecord) : StoreProg Unit :=
  Prog.modify (fun files => { files with currentState := some state })

def truncateEvents : StoreProg Unit := Prog.modify (fun files => { files with events := some [] })

def truncateDecisions : StoreProg Unit := Prog.modify (fun files => { files with decisions := some [] })

/-- `_append_jsonl` to the event log; opening for append creates a missing file. -/
def appendEventLine (event : WorkflowEvent) : StoreProg Unit :=
  Prog.modify (fun files => { files with events := some (files.events.getD [] ++ [event]) })

/-- `_append_jsonl` to the decision log. -/
def appendDecisionLine (decision : WorkflowDecision) : StoreProg Unit :=
  Prog.modify (fun files => { files with decisions := some (files.decisions.getD [] ++ [decision]) })

/-! ## The operations -/

/-- `_require_initialized`. -/
def requireInitialized : StoreProg Unit := do
  let files ← Prog.get
  if files.initialState.isNone then Prog.throw .notInitialized else pure ()

/-- `initialize`: create a new store with an initial state. -/
def initializeStore (state : WorkflowStateRecord) (overwrite : Bool) : StoreProg WorkflowStateRecord := do
  let files ← Prog.get
  if files.initialState.isSome && !overwrite then Prog.throw .alreadyInitialized
  else
    writeInitialState state
    truncateEvents
    truncateDecisions
    writeCurrentState state
    pure state

def appendEvent (event : WorkflowEvent) : StoreProg WorkflowEvent := do
  requireInitialized
  appendEventLine event
  pure event

/-- A rejected decision raises out of `apply_decision`. -/
def liftReplay (result : Except ReplayError WorkflowStateRecord) : StoreProg WorkflowStateRecord :=
  match result with
  | .ok state => pure state
  | .error error => Prog.throw (.replay error)

/-- Append a decision and update the derived current-state snapshot. -/
def appendDecision (decision : WorkflowDecision) : StoreProg WorkflowStateRecord := do
  requireInitialized
  let current ← loadCurrentState
  let updated ← liftReplay (applyDecision current decision)
  appendDecisionLine decision
  writeCurrentState updated
  pure updated

/-- Replay all persisted decisions from the initial state and refresh the snapshot. -/
def replay : StoreProg WorkflowStateRecord := do
  let initial ← loadInitialState
  let decisions ← iterDecisions
  let replayed ← liftReplay (replayDecisions initial decisions)
  writeCurrentState replayed
  pure replayed

end JsonWorkflowStore

/-! ## Calls -/

/-- A call of one of the four operations that write. -/
inductive StoreCall
  | initializeStore (state : WorkflowStateRecord) (overwrite : Bool)
  | appendEvent (event : WorkflowEvent)
  | appendDecision (decision : WorkflowDecision)
  | replay

/-- What a call returns. -/
inductive StoreAnswer
  | state (state : WorkflowStateRecord)
  | event (event : WorkflowEvent)

/-- The program of a call. -/
def StoreCall.program : StoreCall → StoreProg StoreAnswer
  | .initializeStore state overwrite => do
      let state ← JsonWorkflowStore.initializeStore state overwrite
      pure (.state state)
  | .appendEvent event => do
      let event ← JsonWorkflowStore.appendEvent event
      pure (.event event)
  | .appendDecision decision => do
      let state ← JsonWorkflowStore.appendDecision decision
      pure (.state state)
  | .replay => do
      let state ← JsonWorkflowStore.replay
      pure (.state state)

/-- The directory and the answer after a completed call. -/
def StoreCall.run (call : StoreCall) (files : StoreFiles) : StoreFiles × Except StoreError StoreAnswer :=
  call.program.run files

/-! ## What each call does -/

section
open JsonWorkflowStore
variable (files : StoreFiles)

/-- Initializing writes all four files, unless it would overwrite an initialized store unasked. -/
theorem run_initializeStore (state : WorkflowStateRecord) (overwrite : Bool) :
    (StoreCall.initializeStore state overwrite).run files =
      if files.initialState.isSome && !overwrite then (files, .error .alreadyInitialized)
      else
        ({ initialState := some state, events := some [], decisions := some [], currentState := some state },
          .ok (.state state)) := by
  obtain ⟨initialState, events, decisions, currentState⟩ := files
  cases initialState with
  | none => rfl
  | some initial => cases overwrite <;> rfl

theorem run_appendEvent (event : WorkflowEvent) :
    (StoreCall.appendEvent event).run files =
      if files.initialState.isNone then (files, .error .notInitialized)
      else ({ files with events := some (files.events.getD [] ++ [event]) }, .ok (.event event)) := by
  obtain ⟨initialState, events, decisions, currentState⟩ := files
  cases initialState <;> rfl

/-- Appending a decision needs an initialized store and a snapshot that accepts it; then the log gets the
    decision and the snapshot the next state. -/
theorem run_appendDecision (decision : WorkflowDecision) :
    (StoreCall.appendDecision decision).run files =
      match files.initialState, files.currentState with
      | none, _ => (files, .error .notInitialized)
      | some _, none => (files, .error (.missingFile "current_state.json"))
      | some _, some current =>
          match applyDecision current decision with
          | .error error => (files, .error (.replay error))
          | .ok updated =>
              ({ files with decisions := some (files.decisions.getD [] ++ [decision])
                            currentState := some updated }, .ok (.state updated)) := by
  obtain ⟨initialState, events, decisions, currentState⟩ := files
  cases initialState with
  | none => rfl
  | some initial =>
      cases currentState with
      | none => rfl
      | some current =>
          cases h : applyDecision current decision with
          | error error =>
              simp [StoreCall.run, StoreCall.program, appendDecision, requireInitialized, loadCurrentState,
                liftReplay, h]
          | ok updated =>
              simp [StoreCall.run, StoreCall.program, appendDecision, requireInitialized, loadCurrentState,
                liftReplay, appendDecisionLine, writeCurrentState, h]

/-- Replaying needs an initial state that accepts the log; it writes only the snapshot. -/
theorem run_replay :
    StoreCall.replay.run files =
      match files.initialState with
      | none => (files, .error (.missingFile "initial_state.json"))
      | some initial =>
          match replayDecisions initial (files.decisions.getD []) with
          | .error error => (files, .error (.replay error))
          | .ok replayed => ({ files with currentState := some replayed }, .ok (.state replayed)) := by
  obtain ⟨initialState, events, decisions, currentState⟩ := files
  cases initialState with
  | none => rfl
  | some initial =>
      cases h : replayDecisions initial (decisions.getD []) with
      | error error =>
          simp [StoreCall.run, StoreCall.program, JsonWorkflowStore.replay, loadInitialState, iterDecisions,
            liftReplay, h]
      | ok replayed =>
          simp [StoreCall.run, StoreCall.program, JsonWorkflowStore.replay, loadInitialState, iterDecisions,
            liftReplay, writeCurrentState, h]

end

/-- **The effects of a call**: it raises and writes nothing, or it returns after all its writes. -/
inductive StoreEffect (files : StoreFiles) : StoreCall → StoreFiles × Except StoreError StoreAnswer → Prop
  | raised {call : StoreCall} {error : StoreError} : StoreEffect files call (files, .error error)
  | initialized {state : WorkflowStateRecord} {overwrite : Bool} :
      StoreEffect files (.initializeStore state overwrite)
        ({ initialState := some state, events := some [], decisions := some [], currentState := some state },
          .ok (.state state))
  | eventAppended {event : WorkflowEvent} :
      StoreEffect files (.appendEvent event)
        ({ files with events := some (files.events.getD [] ++ [event]) }, .ok (.event event))
  | decisionAppended {decision : WorkflowDecision} {initial current updated : WorkflowStateRecord}
      (hinitial : files.initialState = some initial) (hcurrent : files.currentState = some current)
      (happly : applyDecision current decision = .ok updated) :
      StoreEffect files (.appendDecision decision)
        ({ files with decisions := some (files.decisions.getD [] ++ [decision])
                      currentState := some updated }, .ok (.state updated))
  | replayed {initial state : WorkflowStateRecord} (hinitial : files.initialState = some initial)
      (hreplay : replayDecisions initial (files.decisions.getD []) = .ok state) :
      StoreEffect files .replay ({ files with currentState := some state }, .ok (.state state))

/-- **Inversion.** Every call has one of the effects. -/
theorem run_effects (files : StoreFiles) (call : StoreCall) : StoreEffect files call (call.run files) := by
  cases call with
  | initializeStore state overwrite =>
      rw [run_initializeStore]
      split_ifs
      · exact .raised
      · exact .initialized
  | appendEvent event =>
      rw [run_appendEvent]
      split_ifs
      · exact .raised
      · exact .eventAppended
  | appendDecision decision =>
      rw [run_appendDecision]
      cases hinitial : files.initialState with
      | none => exact .raised
      | some initial =>
          cases hcurrent : files.currentState with
          | none => exact .raised
          | some current =>
              simp only
              cases happly : applyDecision current decision with
              | error error => exact .raised
              | ok updated =>
                  have heffect := StoreEffect.decisionAppended hinitial hcurrent happly
                  rwa [hinitial] at heffect
  | replay =>
      rw [run_replay]
      cases hinitial : files.initialState with
      | none => exact .raised
      | some initial =>
          simp only
          cases hreplay : replayDecisions initial (files.decisions.getD []) with
          | error error => exact .raised
          | ok replayed =>
              have heffect := StoreEffect.replayed hinitial hreplay
              rwa [hinitial] at heffect

end WorkflowDrivers
