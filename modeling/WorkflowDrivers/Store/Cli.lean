import WorkflowDrivers.Store.Files
import WorkflowDrivers.Store.Status
import WorkflowDrivers.Lib.Cells

/-!
# `Store.Cli` — the command line

Each command of `main` reads the model file it names, makes one call on the store and prints what the call returned;
nothing is caught, so a file that does not validate and a call that raises end the command. Parsing the arguments and
validating a model file are code of other packages: a command carries its store directory and what reading its file
comes to.
-/

namespace WorkflowDrivers
open Lib

/-- `status()`: load the snapshot and summarise it. -/
def JsonWorkflowStore.status : StoreProg WorkflowStatus := do
  let state ← loadCurrentState
  pure (statusOf state)

namespace Cli

/-- The parsed arguments; `store` is the directory, and a model file is what `_read_model` makes of it. -/
inductive Command (Dir : Type)
  | init (store : Dir) (state : Except String WorkflowStateRecord) (overwrite : Bool)
  | appendEvent (store : Dir) (event : Except String WorkflowEvent)
  | appendDecision (store : Dir) (decision : Except String WorkflowDecision)
  | replay (store : Dir)
  | status (store : Dir)

def Command.store {Dir : Type} : Command Dir → Dir
  | .init store _ _ | .appendEvent store _ | .appendDecision store _ | .replay store | .status store => store

/-- Why a command ended with a traceback. -/
inductive CliError
  | unreadableModel (message : String)
  | store (error : StoreError)
  deriving DecidableEq

/-- The model `_print_model` is given. -/
inductive Printed
  | answer (answer : StoreAnswer)
  | status (status : WorkflowStatus)

/-- What a store operation leaves and what is printed of it. -/
def printing {A : Type} (print : A → Printed) (result : StoreFiles × Except StoreError A) :
    StoreFiles × Except CliError Printed :=
  (result.1,
    match result.2 with
    | .ok a => .ok (print a)
    | .error error => .error (.store error))

/-- A command that names a model file reads it before it touches the store. -/
def withModel {α : Type} (files : StoreFiles) (model : Except String α)
    (run : α → StoreFiles × Except CliError Printed) : StoreFiles × Except CliError Printed :=
  match model with
  | .error message => (files, .error (.unreadableModel message))
  | .ok a => run a

/-- The branches of `main`, on the directory of the command's store. -/
def runOn {Dir : Type} (files : StoreFiles) : Command Dir → StoreFiles × Except CliError Printed
  | .init _ state overwrite =>
      withModel files state (fun state =>
        printing (fun state => .answer (.state state)) ((JsonWorkflowStore.initializeStore state overwrite).run files))
  | .appendEvent _ event =>
      withModel files event (fun event =>
        printing (fun event => .answer (.event event)) ((JsonWorkflowStore.appendEvent event).run files))
  | .appendDecision _ decision =>
      withModel files decision (fun decision =>
        printing (fun state => .answer (.state state)) ((JsonWorkflowStore.appendDecision decision).run files))
  | .replay _ => printing (fun state => .answer (.state state)) (JsonWorkflowStore.replay.run files)
  | .status _ => printing .status (JsonWorkflowStore.status.run files)

/-- `main`: one command on a disk of stores. -/
def main {Dir : Type} [DecidableEq Dir] (disk : Dir → StoreFiles) (command : Command Dir) :
    Except CliError Printed × (Dir → StoreFiles) :=
  ((runOn (disk command.store) command).2,
    Function.update disk command.store (runOn (disk command.store) command).1)

/-! ## Commands and calls -/

/-- The call a command makes once its model file is read. -/
def Command.call? {Dir : Type} : Command Dir → Option StoreCall
  | .init _ state overwrite => state.toOption.map (fun state => .initializeStore state overwrite)
  | .appendEvent _ event => event.toOption.map .appendEvent
  | .appendDecision _ decision => decision.toOption.map .appendDecision
  | .replay _ => some .replay
  | .status _ => none

section
variable {Dir : Type} {files : StoreFiles}

theorem printing_answer {A : Type} (f : A → StoreAnswer) (p : StoreProg A) :
    printing (fun a => .answer (f a)) (p.run files) = printing .answer ((p >>= fun a => pure (f a)).run files) := by
  rw [Prog.run_bind]
  obtain ⟨files', result⟩ := p.run files
  cases result <;> rfl

/-- A command with a call runs the call and prints its answer. -/
theorem runOn_call {command : Command Dir} {call : StoreCall} (h : command.call? = some call) :
    runOn files command = printing .answer (call.run files) := by
  cases command with
  | init store state overwrite =>
      cases state with
      | error message => cases h
      | ok state =>
          obtain rfl := Option.some.inj h
          exact printing_answer StoreAnswer.state _
  | appendEvent store event =>
      cases event with
      | error message => cases h
      | ok event =>
          obtain rfl := Option.some.inj h
          exact printing_answer StoreAnswer.event _
  | appendDecision store decision =>
      cases decision with
      | error message => cases h
      | ok decision =>
          obtain rfl := Option.some.inj h
          exact printing_answer StoreAnswer.state _
  | replay store =>
      obtain rfl := Option.some.inj h
      exact printing_answer StoreAnswer.state _
  | status store => cases h

/-- A command without a call leaves the store alone: its file cannot be read, or it is `status`. -/
theorem runOn_no_call {command : Command Dir} (h : command.call? = none) : (runOn files command).1 = files := by
  cases command with
  | init store state overwrite =>
      cases state with
      | error message => rfl
      | ok state => cases h
  | appendEvent store event =>
      cases event with
      | error message => rfl
      | ok event => cases h
  | appendDecision store decision =>
      cases decision with
      | error message => rfl
      | ok decision => cases h
  | replay store => cases h
  | status store =>
      obtain ⟨initialState, events, decisions, currentState⟩ := files
      cases currentState <;> rfl

end

/-- **The commands work on their own stores**: what one prints and leaves is decided by the directory it names. -/
theorem main_cellwise {Dir : Type} [DecidableEq Dir] :
    CellWise main Command.store (fun (disk : Dir → StoreFiles) store => disk store) where
  answer := by
    intro disk disk' command hsame
    show (runOn (disk command.store) command).2 = (runOn (disk' command.store) command).2
    rw [hsame]
  write := by
    intro disk disk' command hsame
    show Function.update _ _ _ command.store = Function.update _ _ _ command.store
    rw [Function.update_self, Function.update_self, hsame]
  frame disk command store hne := Function.update_of_ne hne ..

end Cli
end WorkflowDrivers
