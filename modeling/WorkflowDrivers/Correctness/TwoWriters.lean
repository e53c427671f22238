import WorkflowDrivers.Lib.Interleave
import WorkflowDrivers.Correctness.StoreCrashes

/-!
# `Correctness.TwoWriters` — two appends on one directory

Two processes, cron and the command line, call `append_decision` on the same store. Each call checks, reads the
snapshot, writes the log line and writes the snapshot, and the turns of the two may come in any order: there is no
lock. The log never loses or invents a line. Whether it still leads to the snapshot is decided by when the
snapshots are read: if one call raises, the other one is alone (`alone_run`); if one call is over before the other
reads, they are two appends in a row; and if both read the same snapshot and both return, the two log lines start
from the same phase, which the replay of the second does not accept when the first one left it.

All this is decided by the records, and proved of them first; with decisions that are read back, the calls on the
texts go in step with those on the records under every schedule (`ConsistentStore.writers`).
-/

namespace WorkflowDrivers
open Lib

/-! ## The two calls -/

inductive Writer
  | cron
  | cli
  deriving DecidableEq

def Writer.other : Writer → Writer
  | .cron => .cli
  | .cli => .cron

theorem Writer.other_ne (writer : Writer) : writer.other ≠ writer := by cases writer <;> decide

@[simp] theorem Writer.other_other (writer : Writer) : writer.other.other = writer := by cases writer <;> rfl

theorem Writer.eq_or (writer i : Writer) : i = writer ∨ i = writer.other := by
  cases writer <;> cases i <;> decide

/-- The two `append_decision` calls after the turns of a schedule: what is left of each program, and the files. -/
def runWriters (decision : Writer → WorkflowDecision) (text : TextFiles) (schedule : List Writer) :
    Shared Writer (TextProg WorkflowStateRecord) TextFiles :=
  interleave (fun _ => Prog.turn)
    { process := fun writer => TextStore.appendDecision (decision writer), medium := text } schedule

/-- The same calls in the store of records. -/
def runRecordWriters (decision : Writer → WorkflowDecision) (files : StoreFiles) (schedule : List Writer) :
    Shared Writer (StoreProg WorkflowStateRecord) StoreFiles :=
  interleave (fun _ => Prog.turn)
    { process := fun writer => JsonWorkflowStore.appendDecision (decision writer), medium := files } schedule

section
variable {F E : Type}

/-- The decisions of the calls that returned. -/
def returnedDecisions (decision : Writer → WorkflowDecision) (answer : Writer → Except E WorkflowStateRecord) :
    List WorkflowDecision :=
  ([.cron, .cli].filter (fun writer => (answer writer).isOk)).map decision

/-- One call was over before the other had taken more than its check, that is, before it read the snapshot. -/
def Serial (calls : List Writer → Shared Writer (Prog F E WorkflowStateRecord) F) (schedule : List Writer) : Prop :=
  ∃ writer before after, schedule = before ++ after
    ∧ ((calls before).process writer).answer?.isSome
    ∧ before.count writer.other ≤ 1

end

/-! ## The stages of a call -/

/-- How far an `append_decision` call has come. -/
inductive AppendStage
  | start
  | checked
  | accepted (updated : WorkflowStateRecord)
  | logged (updated : WorkflowStateRecord)
  | returned (updated : WorkflowStateRecord)
  | raised (error : StoreError)

namespace AppendStage

/-- What is left of the program. -/
def program (decision : WorkflowDecision) : AppendStage → StoreProg WorkflowStateRecord
  | .start => JsonWorkflowStore.appendDecision decision
  | .checked => do
      let current ← JsonWorkflowStore.loadCurrentState
      let updated ← JsonWorkflowStore.liftReplay (applyDecision current decision)
      JsonWorkflowStore.appendDecisionLine decision
      JsonWorkflowStore.writeCurrentState updated
      pure updated
  | .accepted updated => do
      JsonWorkflowStore.appendDecisionLine decision
      JsonWorkflowStore.writeCurrentState updated
      pure updated
  | .logged updated => do
      JsonWorkflowStore.writeCurrentState updated
      pure updated
  | .returned updated => pure updated
  | .raised error => Prog.throw error

/-- The next stage, and the files after the turn. -/
def step (decision : WorkflowDecision) : AppendStage → StoreFiles → AppendStage × StoreFiles
  | .start, files => (if files.initialState.isNone then .raised .notInitialized else .checked, files)
  | .checked, files =>
      match files.currentState with
      | none => (.raised (.missingFile "current_state.json"), files)
      | some current =>
          match applyDecision current decision with
          | .error error => (.raised (.replay error), files)
          | .ok updated => (.accepted updated, files)
  | .accepted updated, files =>
      (.logged updated, { files with decisions := some (files.decisions.getD [] ++ [decision]) })
  | .logged updated, files => (.returned updated, { files with currentState := some updated })
  | .returned updated, files => (.returned updated, files)
  | .raised error, files => (.raised error, files)

/-- **A turn of the program is a step of the stage.** -/
theorem program_turn (decision : WorkflowDecision) (stage : AppendStage) (files : StoreFiles) :
    (stage.program decision).turn files
      = ((stage.step decision files).1.program decision, (stage.step decision files).2) := by
  cases stage with
  | start =>
      obtain ⟨initialState, events, decisions, currentState⟩ := files
      cases initialState <;> rfl
  | checked =>
      obtain ⟨initialState, events, decisions, currentState⟩ := files
      cases currentState with
      | none => rfl
      | some current =>
          simp only [step]
          cases happly : applyDecision current decision with
          | error error =>
              show (Prog.bind (JsonWorkflowStore.liftReplay (applyDecision current decision)) _, _) = _
              rw [happly]
              rfl
          | ok updated =>
              show (Prog.bind (JsonWorkflowStore.liftReplay (applyDecision current decision)) _, _) = _
              rw [happly]
              rfl
  | accepted updated => rfl
  | logged updated => rfl
  | returned updated => rfl
  | raised error => rfl

/-- What is left comes to the same as before the turn. -/
theorem run_step (decision : WorkflowDecision) (stage : AppendStage) (files : StoreFiles) :
    ((stage.step decision files).1.program decision).run (stage.step decision files).2
      = (stage.program decision).run files := by
  have hturn := Prog.run_turn (stage.program decision) files
  rwa [program_turn] at hturn

/-- The snapshot was looked at (or the call raised before). -/
def hasRead : AppendStage → Bool
  | .start => false
  | .checked => false
  | _ => true

/-- The line is in the log. -/
def hasLogged : AppendStage → Bool
  | .logged _ => true
  | .returned _ => true
  | _ => false

/-- The snapshot accepted the decision. -/
def hasPassed : AppendStage → Bool
  | .accepted _ => true
  | .logged _ => true
  | .returned _ => true
  | _ => false

/-- What a call that is over has come to. -/
def answer? : AppendStage → Option (Except StoreError WorkflowStateRecord)
  | .returned updated => some (.ok updated)
  | .raised error => some (.error error)
  | _ => none

theorem program_answer (decision : WorkflowDecision) (stage : AppendStage) :
    (stage.program decision).answer? = stage.answer? := by cases stage <;> rfl

/-- A call that has not read comes, in a store with an initial state, to what it comes to from its start. -/
theorem run_unread {decision : WorkflowDecision} {stage : AppendStage} {files : StoreFiles}
    (hinitial : files.initialState ≠ none) (hunread : stage.hasRead = false) :
    (stage.program decision).run files = (JsonWorkflowStore.appendDecision decision).run files := by
  cases stage with
  | start => rfl
  | checked =>
      have hrun := run_step decision .start files
      rwa [step, if_neg (by rwa [Option.isNone_iff_eq_none])] at hrun
  | _ => cases hunread

theorem unlogged_of_unread {stage : AppendStage} (h : stage.hasRead = false) : stage.hasLogged = false := by
  cases stage with
  | start => rfl
  | checked => rfl
  | _ => cases h

/-- The line of a call that is over is in the log exactly when it returned. -/
theorem logged_of_answer {stage : AppendStage} {answer : Except StoreError WorkflowStateRecord}
    (h : stage.answer? = some answer) : stage.hasLogged = answer.isOk := by
  cases stage with
  | returned updated =>
      obtain rfl := Option.some.inj h
      rfl
  | raised error =>
      obtain rfl := Option.some.inj h
      rfl
  | _ => cases h

theorem passed_of_logged {stage : AppendStage} (h : stage.hasLogged = true) : stage.hasPassed = true := by
  cases stage with
  | logged updated => rfl
  | returned updated => rfl
  | _ => cases h

theorem read_of_answered {stage : AppendStage} (h : stage.answer?.isSome) : stage.hasRead = true := by
  cases stage with
  | returned updated => rfl
  | raised error => rfl
  | _ => cases h

/-- **What a turn can do**: the stage and the files after it. -/
inductive Effect (decision : WorkflowDecision) (files : StoreFiles) :
    AppendStage → AppendStage → StoreFiles → Prop
  | check (hinitial : files.initialState ≠ none) : Effect decision files .start .checked files
  | refuse (hinitial : files.initialState = none) {error : StoreError} :
      Effect decision files .start (.raised error) files
  | accept {current updated : WorkflowStateRecord} (hcurrent : files.currentState = some current)
      (happly : applyDecision current decision = .ok updated) :
      Effect decision files .checked (.accepted updated) files
  | reject {error : StoreError} : Effect decision files .checked (.raised error) files
  | log {updated : WorkflowStateRecord} :
      Effect decision files (.accepted updated) (.logged updated)
        { files with decisions := some (files.decisions.getD [] ++ [decision]) }
  | save {updated : WorkflowStateRecord} :
      Effect decision files (.logged updated) (.returned updated) { files with currentState := some updated }
  | stay {stage : AppendStage} (hanswer : stage.answer?.isSome) : Effect decision files stage stage files

theorem step_effect (decision : WorkflowDecision) (stage : AppendStage) (files : StoreFiles) :
    Effect decision files stage (stage.step decision files).1 (stage.step decision files).2 := by
  cases stage with
  | start =>
      rw [step]
      cases hinitial : files.initialState with
      | none => exact .refuse hinitial
      | some initial => exact .check (by rw [hinitial]; exact Option.some_ne_none _)
  | checked =>
      rw [step]
      cases hcurrent : files.currentState with
      | none => exact .reject
      | some current =>
          simp only
          cases happly : applyDecision current decision with
          | error error => exact .reject
          | ok updated => exact .accept hcurrent happly
  | accepted updated => exact .log
  | logged updated => exact .save
  | returned updated => exact .stay rfl
  | raised error => exact .stay rfl

/-- The turns a call in a store with an initial state has taken to come to this stage. -/
def Taken : AppendStage → Nat → Prop
  | .start, turns => turns = 0
  | .checked, turns => turns = 1
  | _, turns => 2 ≤ turns

/-- The second turn reads. -/
theorem Taken.hasRead_iff {stage : AppendStage} {turns : Nat} (h : stage.Taken turns) :
    stage.hasRead = true ↔ 2 ≤ turns := by
  cases stage <;> simp_all [Taken, hasRead]

section
variable {decision : WorkflowDecision} {stage next : AppendStage} {files after : StoreFiles}

theorem Effect.initialState (h : Effect decision files stage next after) :
    after.initialState = files.initialState := by cases h <;> rfl

/-- A turn that leaves its call without a log line came from such a call, and wrote nothing. -/
theorem Effect.quiet (h : Effect decision files stage next after) (hquiet : next.hasLogged = false) :
    stage.hasLogged = false ∧ after = files := by
  cases h with
  | stay hanswer => exact ⟨hquiet, rfl⟩
  | log => cases hquiet
  | save => cases hquiet
  | check hinitial => exact ⟨rfl, rfl⟩
  | refuse hinitial => exact ⟨rfl, rfl⟩
  | accept hcurrent happly => exact ⟨rfl, rfl⟩
  | reject => exact ⟨rfl, rfl⟩

/-- A turn writes the line of its call, or leaves the log as it was. -/
theorem Effect.log_or (h : Effect decision files stage next after) :
    (stage.hasLogged = false ∧ next.hasLogged = true
        ∧ after.decisions.getD [] = files.decisions.getD [] ++ [decision])
      ∨ (next.hasLogged = stage.hasLogged ∧ after.decisions = files.decisions) := by
  cases h with
  | log => exact .inl ⟨rfl, rfl, rfl⟩
  | _ => exact .inr ⟨rfl, rfl⟩

theorem Effect.taken (h : Effect decision files stage next after) (hinitial : files.initialState ≠ none)
    {turns : Nat} (hturns : stage.Taken turns) : next.Taken (turns + 1) := by
  cases h with
  | check _ => exact congrArg (· + 1) hturns
  | refuse hnone => exact absurd hnone hinitial
  | accept _ _ => exact (congrArg (· + 1) hturns).ge
  | reject => exact (congrArg (· + 1) hturns).ge
  | log => exact Nat.le_succ_of_le hturns
  | save => exact Nat.le_succ_of_le hturns
  | stay hanswer =>
      cases stage with
      | returned updated => exact Nat.le_succ_of_le hturns
      | raised error => exact Nat.le_succ_of_le hturns
      | _ => cases hanswer

/-- A snapshot accepts a decision only when it is read. -/
theorem Effect.passed (h : Effect decision files stage next after) (hpassed : next.hasPassed = true) :
    stage.hasPassed = true ∨ (stage.hasRead = false
      ∧ ∃ current updated, files.currentState = some current ∧ applyDecision current decision = .ok updated) := by
  cases h with
  | accept hcurrent happly => exact .inr ⟨rfl, _, _, hcurrent, happly⟩
  | stay _ => exact .inl hpassed
  | log => exact .inl rfl
  | save => exact .inl rfl
  | _ => cases hpassed

theorem Effect.read (h : Effect decision files stage next after) (hread : stage.hasRead = true) :
    next.hasRead = true := by
  cases h with
  | check _ => cases hread
  | stay _ => exact hread
  | _ => rfl

/-- The snapshot is written by the last turn of a call. -/
theorem Effect.snapshot_or (h : Effect decision files stage next after) :
    after.currentState = files.currentState ∨ next.answer?.isSome := by
  cases h with
  | save => exact .inr rfl
  | _ => exact .inl rfl

/-- A call that is over takes idle turns. -/
theorem Effect.idle (h : Effect decision files stage next after) (hanswer : stage.answer?.isSome) :
    next = stage ∧ after = files := by
  cases h with
  | stay hanswer => exact ⟨rfl, rfl⟩
  | _ => cases hanswer

end

end AppendStage

/-- Two calls in progress. -/
abbrev Calls := Shared Writer AppendStage StoreFiles

/-- A turn of one of them. -/
abbrev Calls.turnOf (decision : Writer → WorkflowDecision) (c : Calls) (i : Writer) : Calls :=
  c.turn (fun writer => AppendStage.step (decision writer)) i

/-- Both calls before their first turn. -/
def callsBegun (files : StoreFiles) : Calls where
  process := fun _ => .start
  medium := files

/-- The two calls as stages. -/
def runStages (decision : Writer → WorkflowDecision) (files : StoreFiles) (schedule : List Writer) : Calls :=
  interleave (fun writer => AppendStage.step (decision writer)) (callsBegun files) schedule

theorem runStages_append (decision : Writer → WorkflowDecision) (files : StoreFiles) (before after : List Writer) :
    runStages decision files (before ++ after)
      = interleave (fun writer => AppendStage.step (decision writer)) (runStages decision files before) after :=
  interleave_append before after

/-- **The stages describe the programs**, under every schedule. -/
theorem runRecordWriters_eq (decision : Writer → WorkflowDecision) (files : StoreFiles) (schedule : List Writer) :
    runRecordWriters decision files schedule
      = { process := fun writer => ((runStages decision files schedule).process writer).program (decision writer)
          medium := (runStages decision files schedule).medium } := by
  exact interleave_map (fun writer stage => AppendStage.program (decision writer) stage)
    (fun writer stage files => AppendStage.program_turn (decision writer) stage files) (callsBegun files) schedule

section
variable (decision : Writer → WorkflowDecision) (files : StoreFiles)

/-- A turn of one call has one of the effects, and leaves the other call where it was. -/
theorem turnOf_effect (c : Calls) (i : Writer) :
    AppendStage.Effect (decision i) c.medium (c.process i) ((c.turnOf decision i).process i)
        (c.turnOf decision i).medium
      ∧ (c.turnOf decision i).process i.other = c.process i.other := by
  refine ⟨?_, turn_process_ne i.other_ne⟩
  rw [turn_process_self]
  exact AppendStage.step_effect (decision i) (c.process i) c.medium

/-- What holds at first and after one more turn holds under every schedule. -/
theorem runStages_rec (inv : List Writer → Calls → Prop) (hbegun : inv [] (callsBegun files))
    (hturn : ∀ schedule i, inv schedule (runStages decision files schedule) →
      inv (schedule ++ [i]) ((runStages decision files schedule).turnOf decision i))
    (schedule : List Writer) : inv schedule (runStages decision files schedule) :=
  interleave_rec inv hbegun hturn schedule

/-! ## What holds under every schedule -/

/-- No turn writes the initial state. -/
theorem runStages_initialState (schedule : List Writer) :
    (runStages decision files schedule).medium.initialState = files.initialState :=
  interleave_invariant (fun c => c.medium.initialState = files.initialState)
    (fun c i hc => (turnOf_effect decision c i).1.initialState.trans hc) rfl schedule

/-- The turns taken tell how far a call has come. -/
theorem runStages_taken {initial : WorkflowStateRecord} (hinitial : files.initialState = some initial)
    (schedule : List Writer) (writer : Writer) :
    ((runStages decision files schedule).process writer).Taken (schedule.count writer) := by
  refine runStages_rec decision files (fun schedule c => (c.process writer).Taken (schedule.count writer)) ?_ ?_
    schedule
  · exact rfl
  · intro schedule i ih
    rw [List.count_append]
    by_cases hi : writer = i
    · subst hi
      have hfiles : (runStages decision files schedule).medium.initialState ≠ none := by
        rw [runStages_initialState, hinitial]
        exact Option.some_ne_none _
      rw [List.count_singleton_self]
      exact (turnOf_effect decision (runStages decision files schedule) writer).1.taken hfiles ih
    · rw [turn_process_ne hi, List.count_singleton, beq_false_of_ne (Ne.symm hi)]
      exact ih

/-- The decisions whose lines are in the log. -/
def loggedDecisions (c : Calls) : List WorkflowDecision :=
  ([.cron, .cli].filter (fun writer => (c.process writer).hasLogged)).map decision

/-- A log line of `i` adds its decision to those in the log. -/
theorem loggedDecisions_log {c d : Calls} {i : Writer} (hother : d.process i.other = c.process i.other)
    (hbefore : (c.process i).hasLogged = false) (hafter : (d.process i).hasLogged = true) :
    (loggedDecisions decision c ++ [decision i]).Perm (loggedDecisions decision d) := by
  cases i with
  | cron =>
      rw [Writer.other] at hother
      by_cases hlogged : (c.process .cli).hasLogged = true
      · simpa [loggedDecisions, hother, hbefore, hafter, hlogged] using List.Perm.swap _ _ _
      · simp [loggedDecisions, hother, hbefore, hafter, hlogged]
  | cli =>
      rw [Writer.other] at hother
      by_cases hlogged : (c.process .cron).hasLogged = true
      · simp [loggedDecisions, hother, hbefore, hafter, hlogged]
      · simp [loggedDecisions, hother, hbefore, hafter, hlogged]

/-- Other turns add none. -/
theorem loggedDecisions_same {c d : Calls} {i : Writer} (hother : d.process i.other = c.process i.other)
    (hsame : (d.process i).hasLogged = (c.process i).hasLogged) :
    loggedDecisions decision d = loggedDecisions decision c := by
  have hall : ∀ writer, (d.process writer).hasLogged = (c.process writer).hasLogged := by
    intro writer
    rcases i.eq_or writer with rfl | rfl
    · exact hsame
    · rw [hother]
  rw [loggedDecisions, loggedDecisions]
  simp only [hall]

/-- **No line is lost or invented**: the log is the old one and the lines of the calls that have written theirs. -/
theorem runStages_log (schedule : List Writer) :
    ∃ added, (runStages decision files schedule).medium.decisions.getD [] = files.decisions.getD [] ++ added
      ∧ added.Perm (loggedDecisions decision (runStages decision files schedule)) := by
  refine interleave_invariant (fun c : Calls => ∃ added,
    c.medium.decisions.getD [] = files.decisions.getD [] ++ added ∧ added.Perm (loggedDecisions decision c))
    ?_ ⟨[], (List.append_nil _).symm, .refl _⟩ schedule
  rintro c i ⟨added, hlog, hperm⟩
  obtain ⟨heffect, hother⟩ := turnOf_effect decision c i
  rcases heffect.log_or with ⟨hbefore, hafter, hline⟩ | ⟨hsame, hline⟩
  · refine ⟨added ++ [decision i], ?_, ?_⟩
    · rw [hline, hlog, List.append_assoc]
    · exact (hperm.append_right [decision i]).trans (loggedDecisions_log decision hother hbefore hafter)
  · refine ⟨added, ?_, ?_⟩
    · rw [hline, hlog]
    · rw [loggedDecisions_same decision hother hsame]
      exact hperm

end

section
variable {decision : Writer → WorkflowDecision} {files : StoreFiles}

/-! ## One call writes nothing -/

/-- While one call has not written its line, the other one will come to what it would come to alone. -/
theorem alone_run (writer : Writer) (schedule : List Writer)
    (hquiet : ((runStages decision files schedule).process writer).hasLogged = false) :
    (((runStages decision files schedule).process writer.other).program (decision writer.other)).run
        (runStages decision files schedule).medium
      = (JsonWorkflowStore.appendDecision (decision writer.other)).run files := by
  refine interleave_invariant (fun c : Calls => (c.process writer).hasLogged = false →
    ((c.process writer.other).program (decision writer.other)).run c.medium
      = (JsonWorkflowStore.appendDecision (decision writer.other)).run files) ?_ (fun _ => rfl) schedule hquiet
  intro c i ih hquiet
  rcases writer.eq_or i with rfl | rfl
  · -- the quiet call's turn wrote nothing
    obtain ⟨heffect, hother⟩ := turnOf_effect decision c i
    obtain ⟨hbefore, hmedium⟩ := heffect.quiet hquiet
    rw [hother, hmedium]
    exact ih hbefore
  · rw [turn_process_ne writer.other_ne.symm] at hquiet
    rw [turn_process_self, ← ih hquiet]
    exact AppendStage.run_step ..

/-- A call that ends alone leaves the files of its run from the start. -/
theorem alone_medium {writer : Writer} {schedule : List Writer}
    (hquiet : ((runStages decision files schedule).process writer).hasLogged = false)
    (hanswer : ((runStages decision files schedule).process writer.other).answer?.isSome) :
    (runStages decision files schedule).medium
      = ((JsonWorkflowStore.appendDecision (decision writer.other)).run files).1 := by
  obtain ⟨answer, hanswer⟩ := Option.isSome_iff_exists.mp hanswer
  rw [← alone_run writer schedule hquiet, Prog.run_of_answer ((AppendStage.program_answer ..).trans hanswer)]

/-- An append keeps log and snapshot together, whether it returns or raises. -/
theorem append_consistent (hconsistent : Consistent files) (decision : WorkflowDecision) :
    Consistent ((JsonWorkflowStore.appendDecision decision).run files).1 := by
  have hcall : ((StoreCall.appendDecision decision).program.run files).1
      = ((JsonWorkflowStore.appendDecision decision).run files).1 := by
    rw [StoreCall.program, Prog.run_bind]
    rcases (JsonWorkflowStore.appendDecision decision).run files with ⟨after, error | state⟩ <;> rfl
  have hfresh : staleAfterCall StoreCall.program StoreCall.mends files false (.appendDecision decision) = false := by
    rw [staleAfterCall]
    cases ((StoreCall.appendDecision decision).program.run files).2 <;> rfl
  rw [← hcall]
  exact store_mending.call_keeps (fun _ => hconsistent) hfresh

/-- **One call raises**: the other one was alone, and log and snapshot stay together. -/
theorem raised_consistent (hconsistent : Consistent files) {schedule : List Writer} {writer : Writer}
    {error : StoreError}
    (hraised : ((runStages decision files schedule).process writer).answer? = some (.error error))
    (hover : ((runStages decision files schedule).process writer.other).answer?.isSome) :
    Consistent (runStages decision files schedule).medium := by
  have hquiet : ((runStages decision files schedule).process writer).hasLogged = false := by
    rw [AppendStage.logged_of_answer hraised]
    rfl
  rw [alone_medium hquiet hover]
  exact append_consistent hconsistent _

/-! ## One call is over before the other reads -/

/-- Once a call is over, the other one comes to what it would come to from there. -/
theorem run_after_end {writer : Writer} {before : List Writer}
    (hover : ((runStages decision files before).process writer).answer?.isSome) (after : List Writer) :
    (((runStages decision files (before ++ after)).process writer.other).program (decision writer.other)).run
        (runStages decision files (before ++ after)).medium
      = (((runStages decision files before).process writer.other).program (decision writer.other)).run
        (runStages decision files before).medium := by
  rw [runStages_append]
  generalize runStages decision files before = c at hover ⊢
  refine (interleave_invariant (fun d : Calls => (d.process writer).answer?.isSome ∧
    ((d.process writer.other).program (decision writer.other)).run d.medium
      = ((c.process writer.other).program (decision writer.other)).run c.medium) ?_ ⟨hover, rfl⟩ after).2
  rintro d i ⟨hover, hrun⟩
  obtain ⟨heffect, hother⟩ := turnOf_effect decision d i
  rcases writer.eq_or i with rfl | rfl
  · obtain ⟨hstage, hmedium⟩ := heffect.idle hover
    rw [hstage, hother, hmedium]
    exact ⟨hover, hrun⟩
  · rw [turn_process_self, ← hrun, turn_process_ne writer.other_ne.symm]
    exact ⟨hover, AppendStage.run_step ..⟩

/-- **Two appends in a row** leave log and snapshot together. -/
theorem serial_consistent {initial : WorkflowStateRecord} (hinitial : files.initialState = some initial)
    (hconsistent : Consistent files) {schedule : List Writer}
    (hserial : Serial (runRecordWriters decision files) schedule)
    (hanswer : ∀ writer, ((runStages decision files schedule).process writer).answer?.isSome) :
    Consistent (runStages decision files schedule).medium := by
  obtain ⟨writer, before, after, rfl, hover, hcount⟩ := hserial
  rw [runRecordWriters_eq, AppendStage.program_answer] at hover
  have hunread : ((runStages decision files before).process writer.other).hasRead = false := by
    rw [Bool.eq_false_iff, Ne, (runStages_taken decision files hinitial before writer.other).hasRead_iff]
    omega
  -- the first call was alone up to its end
  have hfirst : Consistent (runStages decision files before).medium := by
    rw [alone_medium (AppendStage.unlogged_of_unread hunread) (by rwa [Writer.other_other])]
    exact append_consistent hconsistent _
  -- the second one starts from there
  have hsome : (runStages decision files before).medium.initialState ≠ none := by
    rw [runStages_initialState, hinitial]
    exact Option.some_ne_none _
  obtain ⟨answer, hend⟩ := Option.isSome_iff_exists.mp (hanswer writer.other)
  have hrun := run_after_end hover after
  rw [AppendStage.run_unread hsome hunread,
    Prog.run_of_answer ((AppendStage.program_answer ..).trans hend)] at hrun
  have hmedium : (runStages decision files (before ++ after)).medium
      = ((JsonWorkflowStore.appendDecision (decision writer.other)).run
          (runStages decision files before).medium).1 := congrArg Prod.fst hrun
  rw [hmedium]
  exact append_consistent hfirst _

/-! ## Both read the same snapshot -/

/-- Every decision that passed was accepted by the snapshot of the start, which is in place until both have read. -/
structure SameSnapshot (decision : Writer → WorkflowDecision) (files : StoreFiles) (c : Calls) : Prop where
  passed : ∀ writer, (c.process writer).hasPassed = true →
    ∃ current updated, files.currentState = some current ∧ applyDecision current (decision writer) = .ok updated
  snapshot : c.medium.currentState = files.currentState ∨ ∀ writer, (c.process writer).hasRead = true

/-- A turn keeps this, unless it is the last of its call and the other one has not read. -/
theorem SameSnapshot.turnOf {c : Calls} {i : Writer} (hsame : SameSnapshot decision files c)
    (hover : ((c.turnOf decision i).process i).answer?.isSome → (c.process i.other).hasRead = true) :
    SameSnapshot decision files (c.turnOf decision i) := by
  obtain ⟨heffect, hother⟩ := turnOf_effect decision c i
  refine { passed := ?_, snapshot := ?_ }
  · intro writer hpassed
    rcases i.eq_or writer with rfl | rfl
    · rcases heffect.passed hpassed with hbefore | ⟨hunread, current, updated, hcurrent, happly⟩
      · exact hsame.passed writer hbefore
      · -- the call reads in this turn, so the snapshot of the start is still in place
        rcases hsame.snapshot with hsnapshot | hread
        · exact ⟨current, updated, hsnapshot ▸ hcurrent, happly⟩
        · rw [hread writer] at hunread
          cases hunread
    · rw [hother] at hpassed
      exact hsame.passed _ hpassed
  · have hall : (c.process i.other).hasRead = true → ((c.turnOf decision i).process i).hasRead = true →
        ∀ writer, ((c.turnOf decision i).process writer).hasRead = true := by
      intro hread hreads writer
      rcases i.eq_or writer with rfl | rfl
      · exact hreads
      · rwa [hother]
    rcases heffect.snapshot_or with hkept | hlast
    · rw [hkept]
      rcases hsame.snapshot with hsnapshot | hread
      · exact .inl hsnapshot
      · exact .inr (hall (hread _) (heffect.read (hread i)))
    · exact .inr (hall (hover hlast) (AppendStage.read_of_answered hlast))

/-- **If no call is over before the other one reads, both read the same snapshot.** -/
theorem serial_or_sameSnapshot {initial : WorkflowStateRecord} (hinitial : files.initialState = some initial)
    (schedule : List Writer) :
    Serial (runRecordWriters decision files) schedule
      ∨ SameSnapshot decision files (runStages decision files schedule) := by
  refine runStages_rec decision files
    (fun schedule c => Serial (runRecordWriters decision files) schedule ∨ SameSnapshot decision files c) ?_ ?_ schedule
  · exact .inr { passed := fun _ h => (by cases h), snapshot := .inl rfl }
  rintro schedule i (⟨writer, before, after, rfl, hover, hcount⟩ | hsame)
  · exact .inl ⟨writer, before, after ++ [i], List.append_assoc .., hover, hcount⟩
  by_cases hserial : Serial (runRecordWriters decision files) (schedule ++ [i])
  · exact .inl hserial
  refine .inr (hsame.turnOf (fun hover => ?_))
  -- were the other call still to read, the schedule would be serial with this turn
  by_contra hunread
  have htaken := runStages_taken decision files hinitial schedule i.other
  rw [htaken.hasRead_iff] at hunread
  refine hserial ⟨i, schedule ++ [i], [], (List.append_nil _).symm, ?_, ?_⟩
  · rw [runRecordWriters_eq, AppendStage.program_answer, runStages_append]
    exact hover
  · rw [List.count_append, List.count_singleton, beq_false_of_ne i.other_ne.symm]
    simp only [Bool.false_eq_true, if_false]
    omega

/-- **Two decisions that both leave the phase of the same snapshot** do not replay one after the other. -/
theorem sameSnapshot_not_replays (hconsistent : Consistent files) {c : Calls}
    (hsame : SameSnapshot decision files c) (hinitial : c.medium.initialState = files.initialState)
    (hreturned : ∀ writer, (c.process writer).hasPassed = true)
    {added : List WorkflowDecision} (hlog : c.medium.decisions.getD [] = files.decisions.getD [] ++ added)
    (hadded : added.Perm [decision .cron, decision .cli])
    (hchanges : ∀ writer, (decision writer).toPhase ≠ (decision writer).fromPhase) :
    ¬SnapshotReplays c.medium := by
  rintro ⟨initial, final, hinit, -, hreplay⟩
  obtain ⟨current, hcurrent, hbefore⟩ := hconsistent initial (hinitial.symm.trans hinit)
  rw [hlog] at hreplay
  obtain ⟨logged, hlogged, hrest⟩ := replay_append.mp hreplay
  obtain rfl : current = logged := Except.ok.inj (hbefore.symm.trans hlogged)
  have hfrom : ∀ writer, (decision writer).fromPhase = current.phase := by
    intro writer
    obtain ⟨state, updated, hstate, happly⟩ := hsame.passed writer (hreturned writer)
    obtain rfl : current = state := Option.some.inj (hcurrent.symm.trans hstate)
    exact applyDecision_phase happly
  have hmem : ∀ d ∈ added, ∃ writer, d = decision writer := by
    intro d hd
    rcases List.mem_pair.mp (hadded.mem_iff.mp hd) with rfl | rfl
    · exact ⟨.cron, rfl⟩
    · exact ⟨.cli, rfl⟩
  obtain ⟨x, y, rfl⟩ := List.length_eq_two.mp hadded.length_eq
  obtain ⟨middle, hx, hrest⟩ := replay_cons_ok.mp hrest
  obtain ⟨last, hy, -⟩ := replay_cons_ok.mp hrest
  obtain ⟨first, rfl⟩ := hmem x (by simp)
  obtain ⟨second, rfl⟩ := hmem y (by simp)
  -- the second line starts where the first one started, but the first one went elsewhere
  apply hchanges first
  calc (decision first).toPhase = middle.phase := by rw [(applyDecision_eq_ok.mp hx).2, nextState_phase]
    _ = (decision second).fromPhase := (applyDecision_phase hy).symm
    _ = (decision first).fromPhase := by rw [hfrom, hfrom]

end

/-! ## The outcome -/

/-- The outcome in the store of records. -/
theorem record_writers_outcome {files : StoreFiles} {initial : WorkflowStateRecord}
    (hinitial : files.initialState = some initial) (hconsistent : Consistent files)
    (decision : Writer → WorkflowDecision) (schedule : List Writer)
    (answer : Writer → Except StoreError WorkflowStateRecord)
    (hanswer : ∀ writer, ((runRecordWriters decision files schedule).process writer).answer? = some (answer writer)) :
    let after := (runRecordWriters decision files schedule).medium
    (∃ added, after.decisions.getD [] = files.decisions.getD [] ++ added
        ∧ added.Perm (returnedDecisions decision answer))
      ∧ ((∃ writer error, answer writer = .error error) ∨ Serial (runRecordWriters decision files) schedule →
          SnapshotReplays after)
      ∧ ((∀ writer, (decision writer).toPhase ≠ (decision writer).fromPhase) → SnapshotReplays after →
          (∃ writer error, answer writer = .error error) ∨ Serial (runRecordWriters decision files) schedule) := by
  simp only [runRecordWriters_eq, AppendStage.program_answer] at hanswer ⊢
  have hstays := runStages_initialState decision files schedule
  have hover : ∀ writer, ((runStages decision files schedule).process writer).answer?.isSome := by
    intro writer
    rw [hanswer writer]
    rfl
  have hlogged : ∀ writer, ((runStages decision files schedule).process writer).hasLogged = (answer writer).isOk :=
    fun writer => AppendStage.logged_of_answer (hanswer writer)
  obtain ⟨added, hlog, hperm⟩ := runStages_log decision files schedule
  have hlines : added.Perm (returnedDecisions decision answer) := by
    rw [returnedDecisions]
    simpa only [loggedDecisions, hlogged] using hperm
  refine ⟨⟨added, hlog, hlines⟩, ?_, ?_⟩
  · intro hcase
    have hafter : Consistent (runStages decision files schedule).medium := by
      rcases hcase with ⟨writer, error, herror⟩ | hserial
      · exact raised_consistent hconsistent ((hanswer writer).trans (congrArg some herror)) (hover _)
      · exact serial_consistent hinitial hconsistent hserial hover
    obtain ⟨current, hcurrent, hreplay⟩ := hafter initial (hstays.trans hinitial)
    exact ⟨initial, current, hstays.trans hinitial, hcurrent, hreplay⟩
  · intro hchanges hreplays
    by_contra hneither
    rw [not_or] at hneither
    have hok : ∀ writer, (answer writer).isOk = true := by
      intro writer
      cases hresult : answer writer with
      | error error => exact absurd ⟨writer, error, hresult⟩ hneither.1
      | ok updated => rfl
    have hsame := (serial_or_sameSnapshot hinitial schedule).resolve_left hneither.2
    have hboth : returnedDecisions decision answer = [decision .cron, decision .cli] := by
      simp [returnedDecisions, hok]
    refine sameSnapshot_not_replays hconsistent hsame hstays ?_ hlog (hboth ▸ hlines) hchanges hreplays
    exact fun writer => AppendStage.passed_of_logged ((hlogged writer).trans (hok writer))

/-! ## On the texts -/

/-- An initialized store whose log, of decisions that are read back, leads to the snapshot. -/
structure ConsistentStore {Obj : Type} (loads : List Char → Except String Obj)
    (validate : Obj → Except String WorkflowDecision) (text : TextFiles) (initial current : WorkflowStateRecord)
    (decisions : Option (List WorkflowDecision)) : Prop where
  initialState : text.initialState = some initial
  currentState : text.currentState = some current
  log : WholeLog loads validate text.decisions decisions
  replays : replayDecisions initial (decisions.getD []) = .ok current

section
variable {Obj : Type} {loads : List Char → Except String Obj} {validate : Obj → Except String WorkflowDecision}
  {text : TextFiles} {initial current : WorkflowStateRecord} {decisions : Option (List WorkflowDecision)}

/-- The records of such a store, whatever its event log is. -/
def recordsOf (initial current : WorkflowStateRecord) (decisions : Option (List WorkflowDecision)) : StoreFiles :=
  { initialState := some initial, decisions, currentState := some current }

theorem ConsistentStore.consistent (h : ConsistentStore loads validate text initial current decisions) :
    Consistent (recordsOf initial current decisions) := by
  intro initial' hinitial
  obtain rfl : initial = initial' := Option.some.inj hinitial
  exact ⟨current, rfl, h.replays⟩

/-- **The calls on the texts go in step with those on the records**, under every schedule. -/
theorem ConsistentStore.writers (h : ConsistentStore loads validate text initial current decisions)
    {decision : Writer → WorkflowDecision} (hreadable : ∀ writer, Readable loads validate (decision writer))
    (schedule : List Writer) :
    (∀ writer, Refines (Decided (WholeLog loads validate)) StoreFailure
      ((runWriters decision text schedule).process writer)
      ((runRecordWriters decision (recordsOf initial current decisions) schedule).process writer))
    ∧ Decided (WholeLog loads validate) (runWriters decision text schedule).medium
      (runRecordWriters decision (recordsOf initial current decisions) schedule).medium := by
  refine interleave_refines ?_ ?_ schedule
  · exact fun writer => TextStore.appendDecision_decided (WholeLog.extends (hreadable writer))
  · exact { initialState := h.initialState, decisions := h.log, currentState := h.currentState }

theorem ConsistentStore.serial_iff (h : ConsistentStore loads validate text initial current decisions)
    {decision : Writer → WorkflowDecision} (hreadable : ∀ writer, Readable loads validate (decision writer))
    (schedule : List Writer) :
    Serial (runWriters decision text) schedule
      ↔ Serial (runRecordWriters decision (recordsOf initial current decisions)) schedule := by
  have hover : ∀ before writer, ((runWriters decision text before).process writer).answer?.isSome
      = ((runRecordWriters decision (recordsOf initial current decisions) before).process writer).answer?.isSome :=
    fun before writer => ((h.writers hreadable before).1 writer).isSome_answer
  unfold Serial
  simp only [hover]

/-- The texts of two logs, one behind the other. -/
theorem logOf_append {α : Type} [Dump α] (records more : List α) :
    logOf (records ++ more) = logOf records ++ logOf more := by
  simp [logOf, logText]

theorem WholeLog.text_eq {file : Option (List Char)} {records : Option (List WorkflowDecision)}
    (h : WholeLog loads validate file records) : file.getD [] = logOf (records.getD []) := by
  obtain ⟨rfl, -⟩ := h
  cases records <;> rfl

/-- **What two appends on one store come to**, in whatever order their turns come, with decisions that are read back:
    the log gets exactly the lines of the calls that return. If one call raises, or is over before the other one
    reads, the log gives the snapshot. If both decisions change the phase, it does so in no other case. -/
theorem two_writers_outcome (hstore : ConsistentStore loads validate text initial current decisions)
    (decision : Writer → WorkflowDecision) (hreadable : ∀ writer, Readable loads validate (decision writer))
    (schedule : List Writer) (answer : Writer → Except TextError WorkflowStateRecord)
    (hanswer : ∀ writer, ((runWriters decision text schedule).process writer).answer? = some (answer writer)) :
    let after := (runWriters decision text schedule).medium
    (∃ added, after.decisions.getD [] = text.decisions.getD [] ++ logOf added
        ∧ JsonlLog.iterDecisions loads validate after.decisions = .ok (decisions.getD [] ++ added)
        ∧ added.Perm (returnedDecisions decision answer))
      ∧ ((∃ writer error, answer writer = .error error) ∨ Serial (runWriters decision text) schedule →
          LogGivesSnapshot loads validate after)
      ∧ ((∀ writer, (decision writer).toPhase ≠ (decision writer).fromPhase) → LogGivesSnapshot loads validate after →
          (∃ writer error, answer writer = .error error) ∨ Serial (runWriters decision text) schedule) := by
  intro after
  obtain ⟨hstep, hmedium⟩ := hstore.writers hreadable schedule
  -- the calls on the records are over, too, with the same answers
  have hanswers : ∀ writer, ∃ record,
      ((runRecordWriters decision (recordsOf initial current decisions) schedule).process writer).answer?
        = some record ∧ Agrees StoreFailure (answer writer) record := fun writer =>
    (hstep writer).answer_of (hanswer writer)
  choose record hrecord hagrees using hanswers
  have hreturned : returnedDecisions decision record = returnedDecisions decision answer := by
    simp only [returnedDecisions, fun writer => (hagrees writer).isOk_eq]
  have hraised : (∃ writer error, answer writer = .error error) ↔ ∃ writer error, record writer = .error error :=
    exists_congr fun writer => (hagrees writer).error_iff
  obtain ⟨⟨added, hlog, hadded⟩, hgives, honly⟩ :=
    record_writers_outcome (rfl : (recordsOf initial current decisions).initialState = some initial)
      hstore.consistent decision schedule record hrecord
  rw [logGivesSnapshot_iff hmedium, hraised, hstore.serial_iff hreadable]
  refine ⟨⟨added, ?_, ?_, hreturned ▸ hadded⟩, hgives, honly⟩
  · rw [hmedium.decisions.text_eq, hlog, logOf_append, hstore.log.text_eq]
    rfl
  · rw [WholeLog.reads _ _ hmedium.decisions, hlog]
    rfl

end

def exampleStore : TextFiles where
  initialState := some exampleSeed
  events := some []
  decisions := some []
  currentState := some exampleSeed

theorem exampleStore_consistent :
    ConsistentStore exampleReads .ok exampleStore exampleSeed exampleSeed (some []) where
  initialState := rfl
  currentState := rfl
  log := ⟨rfl, fun _ hd => absurd hd List.not_mem_nil⟩
  replays := rfl

/-- Cron plans, then the command line asks for the review. -/
def exampleTicks : Writer → WorkflowDecision
  | .cron => examplePlanned
  | .cli => examplePlanReview

theorem exampleTicks_readable : ∀ writer, Readable exampleReads .ok (exampleTicks writer)
  | .cron => exampleReads_planned
  | .cli => exampleReads_planReview

def exampleAnswers : Writer → Except TextError WorkflowStateRecord
  | .cron => .ok (nextState exampleSeed examplePlanned)
  | .cli => .ok (nextState (nextState exampleSeed examplePlanned) examplePlanReview)

/-- The command line's check falls between the turns of cron, its read does not. -/
def exampleSchedule : List Writer := [.cron, .cli, .cron, .cron, .cron, .cli, .cli, .cli]

theorem two_writers_outcome_serial :
    LogGivesSnapshot exampleReads .ok (runWriters exampleTicks exampleStore exampleSchedule).medium := by
  refine (two_writers_outcome exampleStore_consistent exampleTicks exampleTicks_readable exampleSchedule
    exampleAnswers ?_).2.1 (.inr ?_)
  · rintro (_ | _) <;> decide +kernel
  · exact ⟨.cron, [.cron, .cli, .cron, .cron, .cron], [.cli, .cli, .cli], rfl, by decide +kernel, by decide⟩

/-- **Two ticks that read the same snapshot fork the history**: both return, and the log no longer replays. -/
theorem two_writers_fork :
    ¬∀ (text : TextFiles) (initial current : WorkflowStateRecord) (decisions : Option (List WorkflowDecision)),
      ConsistentStore exampleReads .ok text initial current decisions →
      ∀ decision : Writer → WorkflowDecision, (∀ writer, Readable exampleReads .ok (decision writer)) →
        ∀ (schedule : List Writer) (answer : Writer → Except TextError WorkflowStateRecord),
        (∀ writer, ((runWriters decision text schedule).process writer).answer? = some (answer writer)) →
        LogGivesSnapshot exampleReads .ok (runWriters decision text schedule).medium
          ∧ ∃ added, JsonlLog.iterDecisions exampleReads .ok (runWriters decision text schedule).medium.decisions
              = .ok (decisions.getD [] ++ added)
            ∧ added.Perm (returnedDecisions decision answer) := by
  intro hall
  let schedule : List Writer := [.cron, .cron, .cli, .cli, .cron, .cron, .cli, .cli]
  have hanswer : ∀ writer, ((runWriters (fun _ => examplePlanned) exampleStore schedule).process writer).answer?
      = some (.ok (nextState exampleSeed examplePlanned)) := by
    rintro (_ | _) <;> decide +kernel
  obtain ⟨hgives, -⟩ := hall exampleStore exampleSeed exampleSeed (some []) exampleStore_consistent
    (fun _ => examplePlanned) (fun _ => exampleReads_planned) schedule _ hanswer
  rw [logGivesSnapshot_iff (exampleStore_consistent.writers (fun _ => exampleReads_planned) schedule).2] at hgives
  obtain ⟨initial, current, hinitial, -, hreplay⟩ := hgives
  let files := (runRecordWriters (fun _ => examplePlanned) (recordsOf exampleSeed exampleSeed (some []))
    schedule).medium
  have hseed : files.initialState = some exampleSeed := by decide +kernel
  have hlog : files.decisions.getD [] = [examplePlanned, examplePlanned] := by decide +kernel
  have hrejected : replayDecisions exampleSeed [examplePlanned, examplePlanned]
      = .error (.phaseMismatch "PROJECT_INTAKE_ASSIGNED" "PLANNING") := by decide +kernel
  obtain rfl := Option.some.inj (hseed.symm.trans hinitial)
  rw [hlog, hrejected] at hreplay
  cases hreplay

end WorkflowDrivers
