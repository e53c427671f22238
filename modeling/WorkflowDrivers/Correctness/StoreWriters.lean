import WorkflowDrivers.Lib.Writers
import WorkflowDrivers.Correctness.EventReplays

/-!
# `Correctness.StoreWriters` — one decision writer among any number of event writers

Any number of processes work on one initialized store, each making its calls one after the other and going on when
one raises. Their file accesses interleave in any way, without a lock. One of them may append decisions, replay and
append events; all the others only append events. Then nothing goes wrong: the decision log and the snapshot are what
the one process would have made alone, no event is lost or written twice, and the whole is a sequence of completed
calls, with the answers each process got.

Two facts carry it. What an event append writes does not show in what the other operations read (`recordView`), and
an event append is a single write at the end of the event log (`eventLog`).
-/

namespace WorkflowDrivers
open Lib

/-! ## Processes that make calls -/

/-- What a call answers. -/
abbrev CallAnswer := Except StoreError StoreAnswer

/-- A process that makes one call after another; a raised call is an answer like another one. -/
def callingProcess (calls : List StoreCall) : Prog StoreFiles Empty (List CallAnswer) :=
  Prog.inTurn (calls.map StoreCall.program)

/-- The answers to a sequence of calls. -/
def callAnswers : StoreFiles → List StoreCall → List CallAnswer
  | _, [] => []
  | files, call :: rest => (call.run files).2 :: callAnswers (call.run files).1 rest

/-- The processes after the file accesses of a schedule: what is left of each program, and the files. -/
def runProcesses {ι : Type} [DecidableEq ι] (calls : ι → List StoreCall) (files : StoreFiles) (schedule : List ι) :
    Shared ι (Prog StoreFiles Empty (List CallAnswer)) StoreFiles :=
  interleave (fun _ => Prog.turn) { process := fun i => callingProcess (calls i), medium := files } schedule

/-- The answers one process gets when the calls of all are made one at a time, in this order. -/
def answersTo {ι : Type} [DecidableEq ι] (i : ι) : StoreFiles → List (ι × StoreCall) → List CallAnswer
  | _, [] => []
  | files, (j, call) :: rest =>
      if j = i then (call.run files).2 :: answersTo i (call.run files).1 rest
      else answersTo i (call.run files).1 rest

theorem run_callingProcess (calls : List StoreCall) (files : StoreFiles) :
    (callingProcess calls).run files = (runCalls files calls, .ok (callAnswers files calls)) := by
  induction calls generalizing files with
  | nil => rfl
  | cons call rest ih =>
      show (Prog.bind (Prog.attempt call.program)
        (fun answer => callingProcess rest >>= fun answers => pure (answer :: answers))).run files = _
      rw [Prog.run_attempt_bind, Prog.run_bind, ih]
      rfl

/-! ## Two views of the directory -/

/-- What the decision operations read: everything but the event log. -/
def recordView (files : StoreFiles) :
    Option WorkflowStateRecord × Option (List WorkflowDecision) × Option WorkflowStateRecord :=
  (files.initialState, files.decisions, files.currentState)

/-- What the event appends read and write. -/
def eventView (files : StoreFiles) : Option WorkflowStateRecord × Option (List WorkflowEvent) :=
  (files.initialState, files.events)

/-- The events on record. -/
def eventLog (files : StoreFiles) : List WorkflowEvent := files.events.getD []

/-- The store is initialized and has its event log. -/
def Ready (files : StoreFiles) : Prop := files.initialState.isSome = true ∧ files.events.isSome = true

/-- The event a call adds to the log of an initialized store. -/
def StoreCall.addedEvent : StoreCall → Option WorkflowEvent
  | .appendEvent event => some event
  | _ => none

/-- Every call but an initialization. -/
def StoreCall.isUpdate : StoreCall → Bool
  | .initializeStore .. => false
  | _ => true

section
open JsonWorkflowStore

section
variable {V : Type} {view : StoreFiles → V}

theorem requireInitialized_hidden : requireInitialized.Hidden view := by
  rintro ⟨initialState, events, decisions, currentState⟩
  cases initialState <;> trivial

theorem loadCurrentState_hidden : loadCurrentState.Hidden view := by
  rintro ⟨initialState, events, decisions, currentState⟩
  cases currentState <;> trivial

theorem loadInitialState_hidden : loadInitialState.Hidden view := by
  rintro ⟨initialState, events, decisions, currentState⟩
  cases initialState <;> trivial

theorem liftReplay_hidden (result : Except ReplayError WorkflowStateRecord) : (liftReplay result).Hidden view := by
  cases result <;> trivial

/-- A decision append is hidden from a view without decision log and snapshot. -/
theorem appendDecision_hidden (hdecisions : ∀ files decisions, view { files with decisions } = view files)
    (hcurrent : ∀ files currentState, view { files with currentState } = view files) (decision : WorkflowDecision) :
    (StoreCall.appendDecision decision).program.Hidden view := by
  refine Prog.Hidden.bind (Prog.Hidden.bind requireInitialized_hidden fun _ => ?_) fun _ => trivial
  refine Prog.Hidden.bind loadCurrentState_hidden fun current => ?_
  refine Prog.Hidden.bind (liftReplay_hidden _) fun updated => ?_
  exact ⟨fun files => hdecisions files _, fun files => hcurrent files _, trivial⟩

/-- A replay is hidden from a view without snapshot. -/
theorem replay_hidden (hcurrent : ∀ files currentState, view { files with currentState } = view files) :
    StoreCall.replay.program.Hidden view := by
  refine Prog.Hidden.bind (Prog.Hidden.bind loadInitialState_hidden fun initial => ?_) fun _ => trivial
  refine Prog.Hidden.bind (fun _ => trivial) fun decisions => ?_
  refine Prog.Hidden.bind (liftReplay_hidden _) fun replayed => ?_
  exact ⟨fun files => hcurrent files _, trivial⟩

/-- An event append is hidden from a view without event log. -/
theorem appendEvent_hidden (hevents : ∀ files events, view { files with events } = view files)
    (event : WorkflowEvent) : (StoreCall.appendEvent event).program.Hidden view := by
  refine Prog.Hidden.bind (Prog.Hidden.bind requireInitialized_hidden fun _ => ?_) fun _ => trivial
  exact ⟨fun files => hevents files _, trivial⟩

end

/-- No call but an initialization shows in the initial state. -/
theorem program_hidden_initial {call : StoreCall} (h : call.isUpdate = true) :
    call.program.Hidden StoreFiles.initialState := by
  cases call with
  | initializeStore state overwrite => cases h
  | appendEvent event => exact appendEvent_hidden (fun _ _ => rfl) event
  | appendDecision decision => exact appendDecision_hidden (fun _ _ => rfl) (fun _ _ => rfl) decision
  | replay => exact replay_hidden (fun _ _ => rfl)

/-- A look that does not depend on the event log stays within the record view. -/
theorem look_within {A : Type} {k : StoreFiles → StoreProg A}
    (hlook : ∀ files events, k { files with events } = k files) (hk : ∀ files, (k files).Within recordView) :
    (Prog.get >>= k).Within recordView := by
  refine ⟨?_, hk⟩
  rintro ⟨initialState, events, decisions, currentState⟩ files' hview
  simp only [recordView, Prod.mk.injEq] at hview
  obtain ⟨rfl, rfl, rfl⟩ := hview
  exact hlook files' events

theorem requireInitialized_within : requireInitialized.Within recordView := by
  refine look_within (fun files events => rfl) ?_
  rintro ⟨initialState, events, decisions, currentState⟩
  cases initialState <;> trivial

theorem loadCurrentState_within : loadCurrentState.Within recordView := by
  refine look_within (fun files events => rfl) ?_
  rintro ⟨initialState, events, decisions, currentState⟩
  cases currentState <;> trivial

theorem loadInitialState_within : loadInitialState.Within recordView := by
  refine look_within (fun files events => rfl) ?_
  rintro ⟨initialState, events, decisions, currentState⟩
  cases initialState <;> trivial

theorem liftReplay_within (result : Except ReplayError WorkflowStateRecord) :
    (liftReplay result).Within recordView := by
  cases result <;> trivial

/-- A write that leaves the event log alone, or touches nothing else, stays within the record view. -/
theorem modify_within {w : StoreFiles → StoreFiles}
    (hwrite : ∀ files events, recordView (w { files with events }) = recordView (w files)) :
    (Prog.modify w : StoreProg Unit).Within recordView := by
  refine ⟨?_, trivial⟩
  rintro ⟨initialState, events, decisions, currentState⟩ files' hview
  simp only [recordView, Prod.mk.injEq] at hview
  obtain ⟨rfl, rfl, rfl⟩ := hview
  exact hwrite files' events

/-- **Every call but an initialization stays within the record view.** -/
theorem program_within {call : StoreCall} (h : call.isUpdate = true) : call.program.Within recordView := by
  cases call with
  | initializeStore state overwrite => cases h
  | appendEvent event =>
      refine Prog.Within.bind (Prog.Within.bind requireInitialized_within fun _ => ?_) fun _ => trivial
      exact Prog.Within.bind (modify_within fun _ _ => rfl) fun _ => trivial
  | appendDecision decision =>
      refine Prog.Within.bind (Prog.Within.bind requireInitialized_within fun _ => ?_) fun _ => trivial
      refine Prog.Within.bind loadCurrentState_within fun current => ?_
      refine Prog.Within.bind (liftReplay_within _) fun updated => ?_
      refine Prog.Within.bind (modify_within fun _ _ => rfl) fun _ => ?_
      exact Prog.Within.bind (modify_within fun _ _ => rfl) fun _ => trivial
  | replay =>
      refine Prog.Within.bind (Prog.Within.bind loadInitialState_within fun initial => ?_) fun _ => trivial
      refine Prog.Within.bind (look_within (fun _ _ => rfl) fun _ => trivial) fun decisions => ?_
      refine Prog.Within.bind (liftReplay_within _) fun replayed => ?_
      exact Prog.Within.bind (modify_within fun _ _ => rfl) fun _ => trivial

/-- **Every call but an initialization adds its event**, if it has one, to the log of a store that is ready. -/
theorem program_emits {call : StoreCall} (h : call.isUpdate = true) :
    call.program.Emits Ready eventLog call.addedEvent.toList := by
  have hsilent : ∀ {p : StoreProg StoreAnswer}, p.Hidden eventView → p.Emits Ready eventLog [] := by
    intro p hp
    refine Prog.emits_of_hidden hp ?_ ?_
    · rintro files files' hview ⟨hinitial, hevents⟩
      simp only [eventView, Prod.mk.injEq] at hview
      exact ⟨hview.1 ▸ hinitial, hview.2 ▸ hevents⟩
    · intro files files' hview
      simp only [eventView, Prod.mk.injEq] at hview
      rw [eventLog, eventLog, hview.2]
  cases call with
  | initializeStore state overwrite => cases h
  | appendDecision decision => exact hsilent (appendDecision_hidden (fun _ _ => rfl) (fun _ _ => rfl) decision)
  | replay => exact hsilent (replay_hidden (fun _ _ => rfl))
  | appendEvent event =>
      refine .look ?_
      rintro ⟨initialState, events, decisions, currentState⟩ ⟨hinitial, hevents⟩
      obtain ⟨initial, rfl⟩ := Option.isSome_iff_exists.mp hinitial
      exact .entry (fun _ hok => ⟨hok.1, rfl⟩) (fun _ _ => rfl) (.done _)

/-- What adds an event is an append of it. -/
theorem addedEvent_ne_none {call : StoreCall} (h : call.addedEvent ≠ none) :
    ∃ event, call = .appendEvent event := by
  cases call with
  | appendEvent event => exact ⟨event, rfl⟩
  | initializeStore state overwrite => exact absurd rfl h
  | appendDecision decision => exact absurd rfl h
  | replay => exact absurd rfl h

theorem isUpdate_of_addedEvent {call : StoreCall} (h : call.addedEvent ≠ none) : call.isUpdate = true := by
  obtain ⟨event, rfl⟩ := addedEvent_ne_none h
  rfl

/-- An event append looks at the initial state only. -/
theorem appendEvent_within_initial (event : WorkflowEvent) :
    (StoreCall.appendEvent event).program.Within StoreFiles.initialState := by
  refine ⟨?_, ?_⟩
  · rintro ⟨initialState, events, decisions, currentState⟩ files' hview
    obtain rfl : initialState = files'.initialState := hview
    rfl
  · rintro ⟨initialState, events, decisions, currentState⟩
    cases initialState with
    | none => trivial
    | some initial => exact ⟨fun _ _ hview => hview, trivial⟩

end

/-! ## Calls made one at a time -/

/-- **Serial runs.** When the calls of all processes are made one at a time, the view of one process and its answers
    are what they would be alone, if its calls stay within the view and the others are hidden from it. -/
theorem serial_alone {ι V : Type} [DecidableEq ι] {view : StoreFiles → V} {i : ι} {order : List (ι × StoreCall)}
    (hself : ∀ call ∈ ofWriter i order, call.program.Within view)
    (hothers : ∀ entry ∈ order, entry.1 ≠ i → entry.2.program.Hidden view) {files files' : StoreFiles}
    (hview : view files = view files') :
    view (runCalls files (order.map Prod.snd)) = view (runCalls files' (ofWriter i order))
      ∧ answersTo i files order = callAnswers files' (ofWriter i order) := by
  induction order generalizing files files' with
  | nil => exact ⟨hview, rfl⟩
  | cons entry order ih =>
      obtain ⟨j, call⟩ := entry
      have hrest : ∀ entry ∈ order, entry.1 ≠ i → entry.2.program.Hidden view :=
        fun entry hentry => hothers entry (List.mem_cons_of_mem _ hentry)
      rw [List.map_cons, runCalls, answersTo]
      by_cases hj : j = i
      · subst hj
        rw [ofWriter_cons_self] at hself ⊢
        obtain ⟨hnext, hanswer⟩ := (hself call List.mem_cons_self).run_congr hview
        obtain ⟨hfiles, hanswers⟩ := ih (fun call hcall => hself call (List.mem_cons_of_mem _ hcall)) hrest hnext
        refine ⟨hfiles, ?_⟩
        rw [if_pos rfl, callAnswers]
        exact congrArg₂ List.cons hanswer hanswers
      · rw [ofWriter_cons_ne hj] at hself ⊢
        rw [if_neg hj]
        have hhidden := (hothers (j, call) List.mem_cons_self hj).run_view files
        exact ih hself hrest (hhidden.trans hview)

/-- Calls on a store that is ready add their events in their order. -/
theorem runCalls_eventLog {calls : List StoreCall} (hcalls : ∀ call ∈ calls, call.isUpdate = true)
    {files : StoreFiles} (hready : Ready files) :
    Ready (runCalls files calls)
      ∧ eventLog (runCalls files calls) = eventLog files ++ calls.filterMap StoreCall.addedEvent := by
  induction calls generalizing files with
  | nil => exact ⟨hready, (List.append_nil _).symm⟩
  | cons call rest ih =>
      obtain ⟨hnext, hadded⟩ := (program_emits (hcalls call List.mem_cons_self)).run hready
      obtain ⟨hend, hlog⟩ := ih (fun call hcall => hcalls call (List.mem_cons_of_mem _ hcall)) hnext
      refine ⟨hend, hlog.trans ?_⟩
      rw [hadded, List.append_assoc, Prog.filterMap_cons_toList]

/-- The two views and the readiness are the whole directory. -/
theorem files_ext {files files' : StoreFiles} (hrecord : recordView files = recordView files')
    (hready : Ready files) (hready' : Ready files') (hlog : eventLog files = eventLog files') : files = files' := by
  obtain ⟨initialState, events, decisions, currentState⟩ := files
  obtain ⟨initialState', events', decisions', currentState'⟩ := files'
  obtain ⟨es, rfl⟩ := Option.isSome_iff_exists.mp hready.2
  obtain ⟨es', rfl⟩ := Option.isSome_iff_exists.mp hready'.2
  simp only [recordView, Prod.mk.injEq] at hrecord
  obtain ⟨rfl, rfl, rfl⟩ := hrecord
  obtain rfl : es = es' := hlog
  rfl

/-! ## Under a schedule -/

theorem callingProcess_within {V : Type} {view : StoreFiles → V} {calls : List StoreCall}
    (h : ∀ call ∈ calls, call.program.Within view) : (callingProcess calls).Within view := by
  apply Prog.within_inTurn
  intro p hp
  obtain ⟨call, hcall, rfl⟩ := List.mem_map.mp hp
  exact h call hcall

theorem callingProcess_hidden {V : Type} {view : StoreFiles → V} {calls : List StoreCall}
    (h : ∀ call ∈ calls, call.program.Hidden view) : (callingProcess calls).Hidden view := by
  apply Prog.hidden_inTurn
  intro p hp
  obtain ⟨call, hcall, rfl⟩ := List.mem_map.mp hp
  exact h call hcall

section
variable {ι : Type} [DecidableEq ι] {calls : ι → List StoreCall} {files : StoreFiles}

/-- **Concurrent runs and serial ones.** A process whose calls stay within a view the others are hidden from comes to
    the same answers and the same view whether the calls of all interleave or are made one at a time in an order. -/
theorem process_serial {V : Type} {view : StoreFiles → V} {i : ι} {order : List (ι × StoreCall)} {schedule : List ι}
    (horder : ∀ i, ofWriter i order = calls i) (hself : ∀ call ∈ calls i, call.program.Within view)
    (hothers : ∀ j, j ≠ i → ∀ call ∈ calls j, call.program.Hidden view)
    (hover : ((runProcesses calls files schedule).process i).answer?.isSome = true) :
    view (runProcesses calls files schedule).medium = view (runCalls files (order.map Prod.snd))
      ∧ ((runProcesses calls files schedule).process i).answer? = some (.ok (answersTo i files order)) := by
  obtain ⟨answer, hanswer⟩ := Option.isSome_iff_exists.mp hover
  have hconcurrent := interleave_alone (callingProcess_within hself)
    (fun j hj => callingProcess_hidden (hothers j hj)) schedule hanswer
  rw [run_callingProcess] at hconcurrent
  obtain ⟨hview, rfl⟩ := hconcurrent
  have hordered : ∀ entry ∈ order, entry.1 ≠ i → entry.2.program.Hidden view := by
    intro entry hentry hne
    refine hothers entry.1 hne entry.2 ?_
    rw [← horder entry.1]
    exact mem_ofWriter.mpr hentry
  obtain ⟨hserial, hanswers⟩ := serial_alone (by rw [horder i]; exact hself) hordered (rfl : view files = view files)
  rw [horder i] at hserial hanswers
  exact ⟨hview.trans hserial.symm, by rw [hanswer, hanswers]⟩

/-- The processes add their events to the log, and each has the rest of them still to add. -/
theorem added_events (hupdates : ∀ i, ∀ call ∈ calls i, call.isUpdate = true) (hready : Ready files)
    (schedule : List ι) :
    Ready (runProcesses calls files schedule).medium
      ∧ ∃ added : List (ι × WorkflowEvent),
        eventLog (runProcesses calls files schedule).medium = eventLog files ++ added.map Prod.snd
        ∧ ∀ i, ofWriter i added <+: (calls i).filterMap StoreCall.addedEvent
          ∧ (((runProcesses calls files schedule).process i).answer?.isSome = true →
              ofWriter i added = (calls i).filterMap StoreCall.addedEvent) := by
  have hemits : ∀ i, (callingProcess (calls i)).Emits Ready eventLog
      ((calls i).filterMap StoreCall.addedEvent) :=
    fun i => Prog.emits_inTurn (fun call hcall => program_emits (hupdates i call hcall))
  obtain ⟨added, hlogged⟩ := interleave_emits
    (c := { process := fun i => callingProcess (calls i), medium := files }) hready hemits schedule
  refine ⟨hlogged.fit, added, hlogged.log_eq, fun i => ?_⟩
  obtain ⟨later, hsplit, hrest⟩ := hlogged.rest i
  refine ⟨⟨later, hsplit.symm⟩, fun hover => ?_⟩
  obtain ⟨answer, hanswer⟩ := Option.isSome_iff_exists.mp hover
  rw [hsplit, hrest.of_answer hanswer, List.append_nil]

/-- **No event is lost or written twice.** Whatever the processes of an initialized store do beside initializing it
    again, after any number of file accesses in any order the event log has grown by the events that the processes
    append, those of each process in its order and each once; of a process that is over, all of them. -/
theorem events_never_lost (hupdates : ∀ i, ∀ call ∈ calls i, call.isUpdate = true) (hready : Ready files)
    (schedule : List ι) :
    ∃ added : List (ι × WorkflowEvent),
      eventLog (runProcesses calls files schedule).medium = eventLog files ++ added.map Prod.snd
      ∧ ∀ i, ofWriter i added <+: (calls i).filterMap StoreCall.addedEvent
        ∧ (((runProcesses calls files schedule).process i).answer?.isSome = true →
            ofWriter i added = (calls i).filterMap StoreCall.addedEvent) :=
  (added_events hupdates hready schedule).2

/-- **One decision writer is safe.** On an initialized store let one process make any calls but initializations and
    all others append events only. Once all are over, the directory is what their calls make of it one at a time, in
    an order that keeps each process's calls in theirs, and every process got the answers of that order. -/
theorem one_decision_writer_serial {w : ι} (hwriter : ∀ call ∈ calls w, call.isUpdate = true)
    (hothers : ∀ i, i ≠ w → ∀ call ∈ calls i, call.addedEvent ≠ none) (hready : Ready files) (schedule : List ι)
    (hover : ∀ i, ((runProcesses calls files schedule).process i).answer?.isSome = true) :
    ∃ order : List (ι × StoreCall), (∀ i, ofWriter i order = calls i)
      ∧ (runProcesses calls files schedule).medium = runCalls files (order.map Prod.snd)
      ∧ ∀ i, ((runProcesses calls files schedule).process i).answer? = some (.ok (answersTo i files order)) := by
  have hupdates : ∀ i, ∀ call ∈ calls i, call.isUpdate = true := by
    intro i call hcall
    by_cases hi : i = w
    · subst hi
      exact hwriter call hcall
    · exact isUpdate_of_addedEvent (hothers i hi call hcall)
  -- the order is that of the event log, with the other calls of the one writer put where they belong
  obtain ⟨hend, added, hlog, heach⟩ := added_events hupdates hready schedule
  have hentries : ∀ i, ofWriter i added = (calls i).filterMap StoreCall.addedEvent := fun i => (heach i).2 (hover i)
  obtain ⟨order, horder, hadded⟩ := exists_order StoreCall.addedEvent w added calls hothers hentries
  have hwithin : ∀ call ∈ calls w, call.program.Within recordView :=
    fun call hcall => program_within (hwriter call hcall)
  have hevent : ∀ j, j ≠ w → ∀ call ∈ calls j, call.program.Hidden recordView := by
    intro j hj call hcall
    obtain ⟨event, rfl⟩ := addedEvent_ne_none (hothers j hj call hcall)
    exact appendEvent_hidden (fun _ _ => rfl) event
  obtain ⟨hrecord, hanswersw⟩ := process_serial horder hwithin hevent (hover w)
  refine ⟨order, horder, ?_, fun i => ?_⟩
  · have hcalls : ∀ call ∈ order.map Prod.snd, call.isUpdate = true := by
      intro call hcall
      obtain ⟨⟨i, call⟩, hentry, rfl⟩ := List.mem_map.mp hcall
      exact hupdates i call (horder i ▸ mem_ofWriter.mpr hentry)
    obtain ⟨hready', hlog'⟩ := runCalls_eventLog hcalls hready
    refine files_ext hrecord hend hready' (hlog.trans ?_)
    rw [hlog', ← hadded, List.map_filterMap, List.filterMap_map]
    simp [Function.comp_def]
  · by_cases hi : i = w
    · subst hi
      exact hanswersw
    · -- an event append looks at the initial state only, and no call changes that
      have hinitial : ∀ call ∈ calls i, call.program.Within StoreFiles.initialState := by
        intro call hcall
        obtain ⟨event, rfl⟩ := addedEvent_ne_none (hothers i hi call hcall)
        exact appendEvent_within_initial event
      exact (process_serial horder hinitial
        (fun j _ call hcall => program_hidden_initial (hupdates j call hcall)) (hover i)).2

end

/-! ## An event in the middle of a decision -/

/-- One process appends a decision and replays, another one appends an event. -/
def exampleProcesses : Bool → List StoreCall
  | true => [.appendDecision examplePlanned, .replay]
  | false => [.appendEvent (examplePlanEvent "e1")]

/-- The event is checked before and written after the decision's log line. -/
def exampleAccesses : List Bool := [true, false, true, true, false, true, true, true, true]

def exampleReady : StoreFiles := picture (some (History.start (exampleRecord "PROJECT_INTAKE_ASSIGNED" none)))

theorem events_never_lost_planned : ∃ added : List (Bool × WorkflowEvent),
    eventLog (runProcesses exampleProcesses exampleReady exampleAccesses).medium = added.map Prod.snd
      ∧ ofWriter false added = [examplePlanEvent "e1"] := by
  have hupdates : ∀ i, ∀ call ∈ exampleProcesses i, call.isUpdate = true := by
    intro i
    cases i <;> decide
  obtain ⟨added, hlog, heach⟩ := events_never_lost hupdates (⟨rfl, rfl⟩ : Ready exampleReady) exampleAccesses
  exact ⟨added, hlog, (heach false).2 (by decide +kernel)⟩

theorem one_decision_writer_serial_planned : ∃ order : List (Bool × StoreCall),
    ofWriter true order = [.appendDecision examplePlanned, .replay]
      ∧ (runProcesses exampleProcesses exampleReady exampleAccesses).medium
          = runCalls exampleReady (order.map Prod.snd) := by
  have hwriter : ∀ call ∈ exampleProcesses true, call.isUpdate = true := by decide
  have hothers : ∀ i, i ≠ true → ∀ call ∈ exampleProcesses i, call.addedEvent ≠ none := by
    intro i hi
    cases i with
    | true => exact absurd rfl hi
    | false => decide
  have hover : ∀ i, ((runProcesses exampleProcesses exampleReady exampleAccesses).process i).answer?.isSome = true := by
    intro i
    cases i <;> decide +kernel
  obtain ⟨order, horder, hmedium, -⟩ :=
    one_decision_writer_serial hwriter hothers (⟨rfl, rfl⟩ : Ready exampleReady) exampleAccesses hover
  exact ⟨order, horder true, hmedium⟩

end WorkflowDrivers
