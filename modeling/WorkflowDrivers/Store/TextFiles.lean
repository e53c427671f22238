import WorkflowDrivers.Lib.LineLog
import WorkflowDrivers.Lib.Refine
import WorkflowDrivers.Store.Files
import WorkflowDrivers.Store.Log

/-!
# `Store.TextFiles` — the store with its logs as texts

`Store.Files` takes the logs as lists of records. Here they are the texts that are in the files: an append writes a
line, and a replay parses what is there. The two snapshots stay records, for they are written and read as a whole.
-/

namespace WorkflowDrivers
open Lib

/-- The four files of a store directory, the logs as texts. -/
structure TextFiles where
  initialState : Option WorkflowStateRecord := none
  events : Option (List Char) := none
  decisions : Option (List Char) := none
  currentState : Option WorkflowStateRecord := none
  deriving DecidableEq

/-- Why an operation raised: as the store of records does, or because a line of the decision log is not read. -/
inductive TextError
  | store (error : StoreError)
  | log (error : LogError)
  deriving DecidableEq

abbrev TextProg (α : Type) := Prog TextFiles TextError α

namespace TextStore

/-! ## Reading and writing one file -/

def loadInitialState : TextProg WorkflowStateRecord := do
  let files ← Prog.get
  match files.initialState with
  | some state => pure state
  | none => Prog.throw (.store (.missingFile "initial_state.json"))

def loadCurrentState : TextProg WorkflowStateRecord := do
  let files ← Prog.get
  match files.currentState with
  | some state => pure state
  | none => Prog.throw (.store (.missingFile "current_state.json"))

/-- `iter_decisions`, with the parser and the validator of the other packages. -/
def iterDecisions {Obj : Type} (loads : List Char → Except String Obj)
    (validate : Obj → Except String WorkflowDecision) : TextProg (List WorkflowDecision) := do
  let files ← Prog.get
  match JsonlLog.iterDecisions loads validate files.decisions with
  | .ok decisions => pure decisions
  | .error error => Prog.throw (.log error)

def writeInitialState (state : WorkflowStateRecord) : TextProg Unit :=
  Prog.modify (fun files => { files with initialState := some state })

def writeCurrentState (state : WorkflowStateRecord) : TextProg Unit :=
  Prog.modify (fun files => { files with currentState := some state })

def truncateEvents : TextProg Unit := Prog.modify (fun files => { files with events := some [] })

def truncateDecisions : TextProg Unit := Prog.modify (fun files => { files with decisions := some [] })

def appendEventLine (event : WorkflowEvent) : TextProg Unit :=
  Prog.modify (fun files => { files with events := JsonlLog.appendJsonl files.events event })

def appendDecisionLine (decision : WorkflowDecision) : TextProg Unit :=
  Prog.modify (fun files => { files with decisions := JsonlLog.appendJsonl files.decisions decision })

/-! ## The operations -/

def requireInitialized : TextProg Unit := do
  let files ← Prog.get
  if files.initialState.isNone then Prog.throw (.store .notInitialized) else pure ()

def initializeStore (state : WorkflowStateRecord) (overwrite : Bool) : TextProg WorkflowStateRecord := do
  let files ← Prog.get
  if files.initialState.isSome && !overwrite then Prog.throw (.store .alreadyInitialized)
  else
    writeInitialState state
    truncateEvents
    truncateDecisions
    writeCurrentState state
    pure state

def appendEvent (event : WorkflowEvent) : TextProg WorkflowEvent := do
  requireInitialized
  appendEventLine event
  pure event

def liftReplay (result : Except ReplayError WorkflowStateRecord) : TextProg WorkflowStateRecord :=
  match result with
  | .ok state => pure state
  | .error error => Prog.throw (.store (.replay error))

def appendDecision (decision : WorkflowDecision) : TextProg WorkflowStateRecord := do
  requireInitialized
  let current ← loadCurrentState
  let updated ← liftReplay (applyDecision current decision)
  appendDecisionLine decision
  writeCurrentState updated
  pure updated

def replay {Obj : Type} (loads : List Char → Except String Obj) (validate : Obj → Except String WorkflowDecision) :
    TextProg WorkflowStateRecord := do
  let initial ← loadInitialState
  let decisions ← iterDecisions loads validate
  let replayed ← liftReplay (replayDecisions initial decisions)
  writeCurrentState replayed
  pure replayed

/-- The program of a call. -/
def program {Obj : Type} (loads : List Char → Except String Obj) (validate : Obj → Except String WorkflowDecision) :
    StoreCall → TextProg StoreAnswer
  | .initializeStore state overwrite => do
      let state ← initializeStore state overwrite
      pure (.state state)
  | .appendEvent event => do
      let event ← appendEvent event
      pure (.event event)
  | .appendDecision decision => do
      let state ← appendDecision decision
      pure (.state state)
  | .replay => do
      let state ← replay loads validate
      pure (.state state)

end TextStore

/-! ## What the texts stand for -/

/-- The text of a log of records. -/
def logOf {α : Type} [Dump α] (records : List α) : List Char := logText (records.map JsonlLog.recordText)

/-- **The texts stand for the records** as far as decisions and snapshots go, the decision log in the sense of
    `log`. -/
structure Decided (log : Option (List Char) → Option (List WorkflowDecision) → Prop) (text : TextFiles)
    (files : StoreFiles) : Prop where
  initialState : text.initialState = files.initialState
  decisions : log text.decisions files.decisions
  currentState : text.currentState = files.currentState

/-- They do so in all four files. -/
structure Represents (log : Option (List Char) → Option (List WorkflowDecision) → Prop) (text : TextFiles)
    (files : StoreFiles) : Prop extends Decided log text files where
  events : text.events = files.events.map logOf

/-- A failure of the store of records, in the store of texts. -/
inductive StoreFailure : TextError → StoreError → Prop
  | raised (error : StoreError) : StoreFailure (.store error) error

/-- One record more in a log. -/
theorem appendJsonl_logOf {α : Type} [Dump α] (records : Option (List α)) (record : α) :
    JsonlLog.appendJsonl (records.map logOf) record = some (logOf (records.getD [] ++ [record])) := by
  cases records with
  | none => simp [JsonlLog.appendJsonl, logOf, logText]
  | some records => simp [JsonlLog.appendJsonl, logOf, logText]

namespace TextStore

/-! ## In step with the store of records -/

section
variable {log : Option (List Char) → Option (List WorkflowDecision) → Prop} {rel : TextFiles → StoreFiles → Prop}

theorem requireInitialized_refines (hrel : ∀ text files, rel text files → Decided log text files) :
    Refines rel StoreFailure requireInitialized JsonWorkflowStore.requireInitialized := by
  refine refines_look fun text files hrep => ?_
  rw [(hrel text files hrep).initialState]
  split_ifs
  · exact refines_throw (.raised _)
  · exact refines_pure ()

theorem loadCurrentState_refines (hrel : ∀ text files, rel text files → Decided log text files) :
    Refines rel StoreFailure loadCurrentState JsonWorkflowStore.loadCurrentState := by
  refine refines_look fun text files hrep => ?_
  rw [(hrel text files hrep).currentState]
  cases files.currentState with
  | none => exact refines_throw (.raised _)
  | some state => exact refines_pure state

theorem loadInitialState_refines (hrel : ∀ text files, rel text files → Decided log text files) :
    Refines rel StoreFailure loadInitialState JsonWorkflowStore.loadInitialState := by
  refine refines_look fun text files hrep => ?_
  rw [(hrel text files hrep).initialState]
  cases files.initialState with
  | none => exact refines_throw (.raised _)
  | some state => exact refines_pure state

theorem liftReplay_refines (result : Except ReplayError WorkflowStateRecord) :
    Refines rel StoreFailure (liftReplay result) (JsonWorkflowStore.liftReplay result) := by
  cases result with
  | ok state => exact refines_pure state
  | error error => exact refines_throw (.raised _)

/-- An append looks at the initial state and the snapshot only, so that it goes on over every log its decision can
    extend. -/
theorem appendDecision_refines {decision : WorkflowDecision}
    (hrel : ∀ text files, rel text files → Decided log text files)
    (hline : ∀ text files, rel text files →
      rel { text with decisions := JsonlLog.appendJsonl text.decisions decision }
        { files with decisions := some (files.decisions.getD [] ++ [decision]) })
    (hsnapshot : ∀ state text files, rel text files →
      rel { text with currentState := some state } { files with currentState := some state }) :
    Refines rel StoreFailure (appendDecision decision) (JsonWorkflowStore.appendDecision decision) := by
  refine (requireInitialized_refines hrel).bind fun _ => ?_
  refine (loadCurrentState_refines hrel).bind fun current => ?_
  refine (liftReplay_refines _).bind fun updated => ?_
  refine Refines.bind (refines_modify hline) fun _ => ?_
  exact Refines.bind (refines_modify (hsnapshot updated)) fun _ => refines_pure updated

end

section
variable {log : Option (List Char) → Option (List WorkflowDecision) → Prop}

/-- A decision that the log can be extended by. -/
theorem appendDecision_decided {decision : WorkflowDecision}
    (hextends : ∀ text records, log text records →
      log (JsonlLog.appendJsonl text decision) (some (records.getD [] ++ [decision]))) :
    Refines (Decided log) StoreFailure (appendDecision decision) (JsonWorkflowStore.appendDecision decision) :=
  appendDecision_refines (fun _ _ hrep => hrep) (fun _ _ hrep => { hrep with decisions := hextends _ _ hrep.decisions })
    fun _ _ _ hrep => { hrep with currentState := rfl }

theorem appendDecision_represents {decision : WorkflowDecision}
    (hextends : ∀ text records, log text records →
      log (JsonlLog.appendJsonl text decision) (some (records.getD [] ++ [decision]))) :
    Refines (Represents log) StoreFailure (appendDecision decision) (JsonWorkflowStore.appendDecision decision) :=
  appendDecision_refines (fun _ _ hrep => hrep.toDecided)
    (fun _ _ hrep => { hrep with decisions := hextends _ _ hrep.decisions })
    fun _ _ _ hrep => { hrep with currentState := rfl }

theorem writeCurrentState_refines (state : WorkflowStateRecord) :
    Refines (Represents log) StoreFailure (writeCurrentState state) (JsonWorkflowStore.writeCurrentState state) :=
  refines_modify fun _ _ hrep => { hrep with currentState := rfl }

theorem appendEvent_refines (event : WorkflowEvent) :
    Refines (Represents log) StoreFailure (appendEvent event) (JsonWorkflowStore.appendEvent event) := by
  refine (requireInitialized_refines fun _ _ hrep => hrep.toDecided).bind fun _ => ?_
  refine Refines.bind (refines_modify fun text files hrep => ?_) fun _ => refines_pure event
  refine { hrep with events := ?_ }
  rw [hrep.events, appendJsonl_logOf]
  rfl

/-- A log that may begin empty. -/
theorem initializeStore_refines (hempty : log (some []) (some [])) (state : WorkflowStateRecord) (overwrite : Bool) :
    Refines (Represents log) StoreFailure (initializeStore state overwrite)
      (JsonWorkflowStore.initializeStore state overwrite) := by
  refine refines_look fun text files hrep => ?_
  rw [hrep.initialState]
  split_ifs
  · exact refines_throw (.raised _)
  · refine Refines.bind (refines_modify fun _ _ hrep => { hrep with initialState := rfl }) fun _ => ?_
    refine Refines.bind (refines_modify fun _ _ hrep => { hrep with events := rfl }) fun _ => ?_
    refine Refines.bind (refines_modify fun _ _ hrep => { hrep with decisions := hempty }) fun _ => ?_
    exact (writeCurrentState_refines state).bind fun _ => refines_pure state

/-- A log that is read as its records. -/
theorem replay_refines {Obj : Type} {loads : List Char → Except String Obj}
    {validate : Obj → Except String WorkflowDecision}
    (hreads : ∀ text records, log text records → JsonlLog.iterDecisions loads validate text = .ok (records.getD [])) :
    Refines (Represents log) StoreFailure (replay loads validate) JsonWorkflowStore.replay := by
  have hdecisions : Refines (Represents log) StoreFailure (iterDecisions loads validate)
      JsonWorkflowStore.iterDecisions := by
    refine refines_look fun text files hrep => ?_
    rw [hreads _ _ hrep.decisions]
    exact refines_pure _
  refine (loadInitialState_refines fun _ _ hrep => hrep.toDecided).bind fun initial => ?_
  refine hdecisions.bind fun decisions => ?_
  refine (liftReplay_refines _).bind fun replayed => ?_
  exact (writeCurrentState_refines replayed).bind fun _ => refines_pure replayed

end

end TextStore
end WorkflowDrivers
