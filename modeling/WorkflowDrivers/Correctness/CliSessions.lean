import WorkflowDrivers.Store.Cli
import WorkflowDrivers.Correctness.StoreRuns

/-!
# `Correctness.CliSessions` — sessions of the command line

A session is a sequence of commands on a disk of stores, some of which fail. Every store of the disk stays the picture
of a history, so a session can be read off the commands that succeeded: they alone decide what `status` tells about
a store (`cli_status_tells`), the other commands may be left out (`cli_session_pruned`), and a command may be run
again after it succeeded unless it appends an event or stays in its phase (`cli_retries`).
-/

namespace WorkflowDrivers
open Lib Cli

variable {Dir : Type} [DecidableEq Dir]

/-- A disk whose stores have these histories. -/
def diskOf (histories : Dir → Option History) : Dir → StoreFiles := fun store => picture (histories store)

/-- What a session printed, beside its commands. -/
abbrev Transcript (Dir : Type) := List (Command Dir × Except CliError Printed)

/-- The calls of the commands on one store that succeeded. -/
def succeededCalls (store : Dir) (transcript : Transcript Dir) : List StoreCall :=
  transcript.filterMap (fun entry =>
    if entry.1.store = store ∧ entry.2.isOk = true then entry.1.call? else none)

/-- What the commands that succeeded on a store have recorded since its last initialization. -/
def toldBy (store : Dir) (transcript : Transcript Dir) : Recorded := recordedBy (succeededCalls store transcript)

/-- A command that succeeded and is meant to write history. -/
def writesHistory : Command Dir × Except CliError Printed → Bool
  | (.init .., printed) | (.appendEvent .., printed) | (.appendDecision .., printed) => printed.isOk
  | (.replay _, _) | (.status _, _) => false

/-- A command that may be run again: all but the appends of events and of decisions that stay in their phase. -/
def Cli.Command.retrySafe : Command Dir → Bool
  | .appendEvent .. => false
  | .appendDecision _ (.ok decision) => decision.fromPhase != decision.toPhase
  | _ => true

/-! ## One command -/

section
variable {histories : Dir → Option History}

/-- A command leaves a disk of histories: at most that of its store has advanced, by its call. -/
theorem main_diskOf (command : Command Dir) :
    (main (diskOf histories) command).2
      = diskOf (Function.update histories command.store
          (match command.call? with
            | none => histories command.store
            | some call => call.advance (histories command.store))) := by
  have hfiles : (runOn (picture (histories command.store)) command).1
      = picture (match command.call? with
          | none => histories command.store
          | some call => call.advance (histories command.store)) := by
    cases hcall : command.call? with
    | none => exact runOn_no_call hcall
    | some call =>
        rw [runOn_call hcall]
        exact (run_picture call _).1
  show Function.update (diskOf histories) command.store (runOn (picture (histories command.store)) command).1 = _
  rw [hfiles]
  funext store
  by_cases hstore : store = command.store
  · subst hstore
    rw [Function.update_self, diskOf, Function.update_self]
  · rw [Function.update_of_ne hstore, diskOf, diskOf, Function.update_of_ne hstore]

/-- A command with a call succeeds exactly when the history does not reject the call. -/
theorem main_isOk {command : Command Dir} {call : StoreCall} (hcall : command.call? = some call) :
    (main (diskOf histories) command).1.isOk = true ↔ call.rejection (histories command.store) = none := by
  obtain ⟨-, herror⟩ := run_picture call (histories command.store)
  show (runOn (picture (histories command.store)) command).2.isOk = true ↔ _
  rw [runOn_call hcall, printing]
  cases hresult : (call.run (picture (histories command.store))).2 with
  | ok answer =>
      have hnone : call.rejection (histories command.store) = none := by
        cases hreject : call.rejection (histories command.store) with
        | none => rfl
        | some error => exact absurd (hresult.symm.trans ((herror error).mpr hreject)) (by simp)
      simp [hnone, Except.isOk, Except.toBool]
  | error error =>
      have hreject := (herror error).mp hresult
      simp [hreject, Except.isOk, Except.toBool]

/-- A command that does not advance its store's history leaves the disk as it was. -/
theorem main_unchanged {command : Command Dir}
    (h : ∀ call ∈ command.call?, call.advance (histories command.store) = histories command.store) :
    (main (diskOf histories) command).2 = diskOf histories := by
  have hsame : (match command.call? with
      | none => histories command.store
      | some call => call.advance (histories command.store)) = histories command.store := by
    cases hcall : command.call? with
    | none => rfl
    | some call => exact h call hcall
  rw [main_diskOf, hsame, Function.update_eq_self]

/-- A command that does not write history leaves the disk as it was. -/
theorem main_idle {command : Command Dir}
    (h : writesHistory (command, (main (diskOf histories) command).1) = false) :
    (main (diskOf histories) command).2 = diskOf histories := by
  apply main_unchanged
  intro call hcall
  -- a failed call is rejected, a replay advances nothing
  have hfailed : (main (diskOf histories) command).1.isOk = false →
      call.advance (histories command.store) = histories command.store := by
    intro hok
    cases hreject : call.rejection (histories command.store) with
    | none =>
        rw [(main_isOk hcall).mpr hreject] at hok
        cases hok
    | some error => exact advance_rejected hreject
  cases command with
  | init store state overwrite => exact hfailed h
  | appendEvent store event => exact hfailed h
  | appendDecision store decision => exact hfailed h
  | replay store =>
      obtain rfl := Option.some.inj hcall
      rfl
  | status store => cases hcall

end

/-! ## Whole sessions -/

/-- Every session on a disk of histories ends on one. -/
theorem main_keeps_histories (disk : Dir → StoreFiles) (command : Command Dir)
    (h : ∃ histories, disk = diskOf histories) : ∃ histories, (main disk command).2 = diskOf histories := by
  obtain ⟨histories, rfl⟩ := h
  exact ⟨_, main_diskOf command⟩

/-- **Run lemma.** After a session every store has the history it had, advanced by the calls that succeeded on it. -/
theorem session_histories (commands : List (Command Dir)) (histories : Dir → Option History) :
    ∃ histories', finalState main (diskOf histories) commands = diskOf histories'
      ∧ ∀ store, recordedIn (histories' store)
          = (succeededCalls store (trace main (diskOf histories) commands)).foldl Recorded.add
              (recordedIn (histories store)) := by
  induction commands generalizing histories with
  | nil => exact ⟨histories, rfl, fun _ => rfl⟩
  | cons command rest ih =>
      rw [finalState, trace, main_diskOf]
      obtain ⟨histories', hfinal, hrecorded⟩ := ih _
      refine ⟨histories', hfinal, fun store => ?_⟩
      rw [hrecorded store]
      by_cases hstore : store = command.store
      · subst hstore
        rw [Function.update_self, succeededCalls, succeededCalls]
        cases hcall : command.call? with
        | none => simp [hcall]
        | some call =>
            -- what succeeded is recorded, what failed has advanced nothing
            cases hreject : call.rejection (histories command.store) with
            | none =>
                have hok := (main_isOk hcall).mpr hreject
                simp [hcall, hok, recordedIn_advance hreject]
            | some error =>
                have hfailed : ¬ (main (diskOf histories) command).1.isOk = true := by
                  rw [main_isOk hcall, hreject]
                  simp
                simp [hfailed, advance_rejected hreject]
      · have hother : ¬ command.store = store := fun h => hstore h.symm
        rw [Function.update_of_ne hstore, succeededCalls, succeededCalls]
        simp [hother]

/-- **`status` tells the session.** What `status` prints for a store after a session is decided by the commands that
    succeeded on it: before its first initialization the snapshot is missing, afterwards `status` summarises the
    record that the appended decisions lead to from the state of the last initialization, and `replay` prints that
    record. -/
theorem cli_status_tells (commands : List (Command Dir)) (store : Dir) :
    ((toldBy store (trace main (fun _ => {}) commands)).seed = none →
        (main (finalState main (fun _ => {}) commands) (.status store)).1
          = .error (.store (.missingFile "current_state.json")))
      ∧ ∀ seed ∈ (toldBy store (trace main (fun _ => {}) commands)).seed, ∃ state,
        replayDecisions seed (toldBy store (trace main (fun _ => {}) commands)).decisions = .ok state
        ∧ (main (finalState main (fun _ => {}) commands) (.status store)).1 = .ok (.status (statusOf state))
        ∧ (main (finalState main (fun _ => {}) commands) (.replay store)).1 = .ok (.answer (.state state)) := by
  have hempty : (fun _ => {} : Dir → StoreFiles) = diskOf (fun _ => none) := rfl
  obtain ⟨histories, hfinal, hrecorded⟩ := session_histories commands (fun _ : Dir => (none : Option History))
  rw [hempty, hfinal]
  have hstore : toldBy store (trace main (diskOf fun _ => none) commands) = recordedIn (histories store) :=
    (hrecorded store).symm
  rw [hstore]
  have hdisk : diskOf histories store = picture (histories store) := rfl
  cases hhistory : histories store with
  | none =>
      rw [hhistory] at hdisk
      refine ⟨fun _ => ?_, fun seed hseed => absurd hseed (by simp [recordedIn])⟩
      show (runOn (diskOf histories store) (.status store)).2 = _
      rw [hdisk]
      rfl
  | some h =>
      rw [hhistory] at hdisk
      refine ⟨fun hnone => absurd hnone (by simp [recordedIn]), ?_⟩
      intro seed hseed
      obtain rfl := Option.some.inj hseed
      refine ⟨h.state, h.replays, ?_, ?_⟩
      · show (runOn (diskOf histories store) (.status store)).2 = _
        rw [hdisk]
        rfl
      · have hcall : Command.call? (.replay store) = some StoreCall.replay := rfl
        show (runOn (diskOf histories store) (.replay store)).2 = _
        rw [hdisk, runOn_call hcall, run_replay]
        simp [printing, picture, h.replays]

/-- **A session without its idle commands.** Leave out of a session all commands that failed, all replays and all
    looks at the status: the other ones print the same, and the disk ends the same. -/
theorem cli_session_pruned (histories : Dir → Option History) (commands : List (Command Dir)) :
    trace main (diskOf histories) (((trace main (diskOf histories) commands).filter writesHistory).map Prod.fst)
        = (trace main (diskOf histories) commands).filter writesHistory
      ∧ finalState main (diskOf histories)
          (((trace main (diskOf histories) commands).filter writesHistory).map Prod.fst)
        = finalState main (diskOf histories) commands := by
  refine trace_prune (fun disk => ∃ histories, disk = diskOf histories) main_keeps_histories ?_
    ⟨histories, rfl⟩ commands
  rintro disk command ⟨histories, rfl⟩ hidle
  exact main_idle hidle

/-! ## Running a command again -/

/-- The same for calls. -/
def StoreCall.retrySafe : StoreCall → Bool
  | .appendEvent _ => false
  | .appendDecision decision => decision.fromPhase != decision.toPhase
  | _ => true

omit [DecidableEq Dir] in
theorem retrySafe_call {command : Command Dir} {call : StoreCall} (hcall : command.call? = some call) :
    call.retrySafe = command.retrySafe := by
  cases command with
  | init store state overwrite =>
      cases state with
      | error message => cases hcall
      | ok state =>
          obtain rfl := Option.some.inj hcall
          rfl
  | appendEvent store event =>
      cases event with
      | error message => cases hcall
      | ok event =>
          obtain rfl := Option.some.inj hcall
          rfl
  | appendDecision store decision =>
      cases decision with
      | error message => cases hcall
      | ok decision =>
          obtain rfl := Option.some.inj hcall
          rfl
  | replay store =>
      obtain rfl := Option.some.inj hcall
      rfl
  | status store => cases hcall

/-- A decision that left its phase is not accepted from where it led. -/
theorem applyDecision_again {state next : WorkflowStateRecord} {decision : WorkflowDecision}
    (hmoves : decision.fromPhase ≠ decision.toPhase) (happly : applyDecision state decision = .ok next) :
    applyDecision next decision = .error (.phaseMismatch decision.fromPhase decision.toPhase) := by
  obtain ⟨-, rfl⟩ := applyDecision_eq_ok.mp happly
  rw [applyDecision, nextState_phase, if_pos hmoves]

/-- A decision that stayed in its phase is accepted again. -/
theorem applyDecision_stays {state next : WorkflowStateRecord} {decision : WorkflowDecision}
    (hstays : decision.fromPhase = decision.toPhase) (happly : applyDecision state decision = .ok next) :
    ∃ after, applyDecision next decision = .ok after := by
  obtain ⟨haccepts, rfl⟩ := applyDecision_eq_ok.mp happly
  refine ⟨_, applyDecision_eq_ok.mpr ⟨?_, rfl⟩⟩
  refine ⟨by rw [nextState_phase, hstays], haccepts.blockedRecords, ?_, haccepts.atMostOneActivity⟩
  -- it cannot leave the blocked phases
  intro hleave
  rw [leavingBlockedNonterminal, nextState_phase] at hleave
  cases hblocked : isBlockedPhase decision.toPhase with
  | true => simp [hblocked] at hleave
  | false => simp [hblocked] at hleave

/-- **A call that may be run again advances nothing the second time.** -/
theorem advance_again {call : StoreCall} (hsafe : call.retrySafe = true) (history : Option History) :
    call.advance (call.advance history) = call.advance history := by
  cases call with
  | initializeStore state overwrite =>
      cases history with
      | none => cases overwrite <;> rfl
      | some h => cases overwrite <;> rfl
  | appendEvent event => cases hsafe
  | appendDecision decision =>
      have hmoves : decision.fromPhase ≠ decision.toPhase := by simpa [StoreCall.retrySafe] using hsafe
      cases history with
      | none => rfl
      | some h =>
          cases happly : applyDecision h.state decision with
          | error error => rw [advance_refused happly, advance_refused happly]
          | ok next =>
              rw [advance_accepted happly]
              exact advance_refused (applyDecision_again hmoves happly)
  | replay => rfl

/-- An append that is not retry safe is recorded a second time. -/
theorem advance_twice {call : StoreCall} (htwice : call.retrySafe = false) {history : Option History}
    (haccepted : call.rejection history = none) :
    picture (call.advance (call.advance history)) ≠ picture (call.advance history) := by
  cases call with
  | initializeStore state overwrite => cases htwice
  | appendEvent event =>
      cases history with
      | none => simp [StoreCall.rejection] at haccepted
      | some h =>
          intro hsame
          have hevents := congrArg (fun files => (files.events.getD []).length) hsame
          simp [StoreCall.advance, picture, History.addEvent] at hevents
  | appendDecision decision =>
      have hstays : decision.fromPhase = decision.toPhase := by simpa [StoreCall.retrySafe] using htwice
      cases history with
      | none => simp [StoreCall.rejection] at haccepted
      | some h =>
          cases happly : applyDecision h.state decision with
          | error error => simp [StoreCall.rejection, happly] at haccepted
          | ok next =>
              obtain ⟨after, hafter⟩ := applyDecision_stays hstays happly
              have hagain : applyDecision (h.addDecision decision next happly).state decision = .ok after := hafter
              rw [advance_accepted happly, advance_accepted hagain]
              intro hsame
              have hdecisions := congrArg (fun files => (files.decisions.getD []).length) hsame
              simp [picture, History.addDecision] at hdecisions
  | replay => cases htwice

/-- The second run of a command, on the disk the first one left. -/
theorem main_again (histories : Dir → Option History) (command : Command Dir) :
    (command.retrySafe = true →
        (main (main (diskOf histories) command).2 command).2 = (main (diskOf histories) command).2)
      ∧ (command.retrySafe = false → (main (diskOf histories) command).1.isOk = true →
        (main (main (diskOf histories) command).2 command).2 ≠ (main (diskOf histories) command).2) := by
  rw [main_diskOf]
  cases hcall : command.call? with
  | none =>
      refine ⟨fun _ => ?_, fun htwice hok => ?_⟩
      · apply main_unchanged
        intro call hmem
        rw [hcall] at hmem
        cases hmem
      · -- without a call there is nothing unsafe that could succeed
        cases command with
        | init store state overwrite => cases htwice
        | appendEvent store event =>
            cases event with
            | error message => cases hok
            | ok event => cases hcall
        | appendDecision store decision =>
            cases decision with
            | error message => cases hok
            | ok decision => cases hcall
        | replay store => cases hcall
        | status store => cases htwice
  | some call =>
      refine ⟨fun hsafe => ?_, fun htwice hok hsame => ?_⟩
      · apply main_unchanged
        intro call' hmem
        obtain rfl : call = call' := Option.some.inj (hcall.symm.trans hmem)
        rw [Function.update_self]
        exact advance_again ((retrySafe_call hcall).trans hsafe) _
      · have haccepted := (main_isOk hcall).mp hok
        have hstore := congrFun hsame command.store
        rw [main_diskOf, hcall] at hstore
        simp only [diskOf, Function.update_self] at hstore
        exact advance_twice ((retrySafe_call hcall).trans htwice) haccepted hstore

/-- **Commands that may be run again.** A command that succeeded may be run again without a change exactly when it is
    not an event append and not a decision append that stays in its phase; and a session in which commands of that
    kind are run any number of times in a row ends with the disk of the session that runs each once. -/
theorem cli_retries (histories : Dir → Option History) :
    (∀ command, (main (diskOf histories) command).1.isOk = true →
        ((main (main (diskOf histories) command).2 command).2 = (main (diskOf histories) command).2
          ↔ command.retrySafe = true))
      ∧ ∀ times : List (Command Dir × Nat), (∀ e ∈ times, e.2 = 0 ∨ e.1.retrySafe = true) →
        finalState main (diskOf histories) (times.flatMap (fun e => List.replicate (e.2 + 1) e.1))
          = finalState main (diskOf histories) (times.map Prod.fst) := by
  constructor
  · intro command hok
    obtain ⟨hsafe, htwice⟩ := main_again histories command
    constructor
    · intro hsame
      cases hretry : command.retrySafe with
      | true => rfl
      | false => exact absurd hsame (htwice hretry hok)
    · exact hsafe
  · intro times htimes
    refine finalState_repeat (fun disk => ∃ histories, disk = diskOf histories)
      (fun command => command.retrySafe = true) main_keeps_histories ?_ ⟨histories, rfl⟩ times htimes
    rintro disk command ⟨histories, rfl⟩ hsafe
    exact (main_again histories command).1 hsafe

/-! ## A session on two stores -/

/-- A project is initialized and planned; the plan is appended twice, and the other store is not there. -/
def exampleSession : List (Command Bool) :=
  [.init true (.ok (exampleRecord "PROJECT_INTAKE_ASSIGNED" none)) false, .appendDecision true (.ok examplePlanned),
   .appendDecision true (.ok examplePlanned), .status false]

theorem cli_status_tells_planned : ∃ state,
    replayDecisions (exampleRecord "PROJECT_INTAKE_ASSIGNED" none) [examplePlanned] = .ok state
      ∧ (main (finalState main (fun _ => {}) exampleSession) (.status true)).1 = .ok (.status (statusOf state))
      ∧ (main (finalState main (fun _ => {}) exampleSession) (.status false)).1
          = .error (.store (.missingFile "current_state.json")) := by
  have htold : (toldBy true (trace main (fun _ => {}) exampleSession)).seed
      = some (exampleRecord "PROJECT_INTAKE_ASSIGNED" none) := by decide +kernel
  have hplanned : (toldBy true (trace main (fun _ => {}) exampleSession)).decisions = [examplePlanned] := by
    decide +kernel
  obtain ⟨state, hreplay, hstatus, -⟩ := (cli_status_tells exampleSession true).2 _ htold
  rw [hplanned] at hreplay
  exact ⟨state, hreplay, hstatus, (cli_status_tells exampleSession false).1 (by decide +kernel)⟩

theorem cli_retries_planned :
    finalState main (diskOf fun _ : Bool => none)
        ([(.init true (.ok (exampleRecord "PROJECT_INTAKE_ASSIGNED" none)) false, 1),
          (.appendDecision true (.ok examplePlanned), 2)].flatMap (fun e => List.replicate (e.2 + 1) e.1))
      = finalState main (diskOf fun _ => none)
        ([(.init true (.ok (exampleRecord "PROJECT_INTAKE_ASSIGNED" none)) false, 1),
          (.appendDecision true (.ok examplePlanned), 2)].map Prod.fst) := by
  apply (cli_retries _).2
  intro e he
  simp only [List.mem_cons, List.not_mem_nil, or_false] at he
  obtain rfl | rfl := he
  · exact .inr rfl
  · exact .inr (by decide)

end WorkflowDrivers
