import WorkflowDrivers.Policies.EventReplay
import WorkflowDrivers.Correctness.ReplayForm
import WorkflowDrivers.Correctness.TextLogs

/-!
# `Correctness.EventReplays` — events, decisions and the store tell the same story

There are three ways to the current record of a workflow: replay its events through the decision function, replay
the decisions that were taken on them, or feed both to a store, event by event, restarting in between. They lead to
the same record. The first two are one driven run; the third keeps the store at the picture of a history whose
state is the record of the run (`ticks_picture`), and its texts with it, as long as the decisions are read back.
-/

namespace WorkflowDrivers
open Lib

section
variable {E : Type} {decide : WorkflowStateRecord → WorkflowEvent → Except E WorkflowDecision}
  {initial record final : WorkflowStateRecord} {events : List WorkflowEvent} {decisions : List WorkflowDecision}

/-! ## Events and decisions -/

/-- Where an event replay fails: the decision function raises on an event, or its decision is rejected. -/
def FailsOn (decide : WorkflowStateRecord → WorkflowEvent → Except E WorkflowDecision)
    (record : WorkflowStateRecord) (event : WorkflowEvent) (error : E ⊕ ReplayError) : Prop :=
  (∃ e, decide record event = .error e ∧ error = .inl e)
    ∨ ∃ decision e, decide record event = .ok decision ∧ applyDecision record decision = .error e ∧ error = .inr e

theorem decidedStep_eq_error {event : WorkflowEvent} {error : E ⊕ ReplayError} :
    decidedStep decide applyDecision record event = .error error ↔ FailsOn decide record event error := by
  unfold decidedStep FailsOn
  cases hdecided : decide record event with
  | error e => simp [eq_comm]
  | ok decision => cases happly : applyDecision record decision <;> simp [happly, eq_comm]

/-- **What `replay_events` does.** It returns a record exactly when there is a run over the events that ends there;
    a run has one decision for each event, its decisions replay to the same record, and there is no other run. It
    raises exactly when the run over some first events comes to an event that fails, with that failure. -/
theorem event_replay_traced (decide : WorkflowStateRecord → WorkflowEvent → Except E WorkflowDecision)
    (initial : WorkflowStateRecord) (events : List WorkflowEvent) :
    (∀ final, replayEvents initial events decide = .ok final ↔
      ∃ decisions, EventRun decide initial events decisions final)
    ∧ (∀ decisions final, EventRun decide initial events decisions final →
        decisions.length = events.length ∧ replayDecisions initial decisions = .ok final
          ∧ ∀ decisions' final', EventRun decide initial events decisions' final' →
              decisions' = decisions ∧ final' = final)
    ∧ (∀ error, replayEvents initial events decide = .error error ↔
        ∃ before event after decisions record, events = before ++ event :: after
          ∧ EventRun decide initial before decisions record ∧ FailsOn decide record event error) := by
  refine ⟨fun final => replay_decidedStep, ?_, ?_⟩
  · intro decisions final hrun
    exact ⟨hrun.length_eq, hrun.replay, fun _ _ hother => hother.unique hrun⟩
  · intro error
    rw [replayEvents, replay_eq_error]
    constructor
    · rintro ⟨before, event, after, record, hsplit, hbefore, hfails⟩
      obtain ⟨decisions, hrun⟩ := replay_decidedStep.mp hbefore
      exact ⟨before, event, after, decisions, record, hsplit, hrun, decidedStep_eq_error.mp hfails⟩
    · rintro ⟨before, event, after, decisions, record, hsplit, hrun, hfails⟩
      exact ⟨before, event, after, record, hsplit, replay_decidedStep.mpr ⟨decisions, hrun⟩,
        decidedStep_eq_error.mpr hfails⟩

/-! ## The digest of a replay -/

/-- **The evidence digest is a replay check.** The digest of a replayed record is that of the initial record followed
    by those of the decisions, and two replays from one record have the same digest exactly when their decisions
    brought the same evidence in the same order. -/
theorem evidence_digest_of_replay (initial : WorkflowStateRecord) (decisions decisions' : List WorkflowDecision)
    (final final' : WorkflowStateRecord) (hrun : replayDecisions initial decisions = .ok final)
    (hrun' : replayDecisions initial decisions' = .ok final') :
    evidenceDigest final.evidenceRefs = evidenceDigest initial.evidenceRefs
        ++ decisions.flatMap (fun decision => evidenceDigest decision.evidenceRefs)
      ∧ (evidenceDigest final.evidenceRefs = evidenceDigest final'.evidenceRefs ↔
          decisions.flatMap WorkflowDecision.evidenceRefs = decisions'.flatMap WorkflowDecision.evidenceRefs) := by
  have hrefs := replay_evidenceRefs hrun
  have hrefs' := replay_evidenceRefs hrun'
  constructor
  · rw [hrefs, evidenceDigest_append, evidenceDigest_flatMap]
  · rw [evidenceDigest_injective.eq_iff, hrefs, hrefs', List.append_cancel_left_eq]

/-! ## Feeding the store -/

/-- The calls that feed a store: each event is appended, then the decision taken on it. -/
def tickCalls (events : List WorkflowEvent) (decisions : List WorkflowDecision) : List StoreCall :=
  (events.zip decisions).flatMap (fun tick => [.appendEvent tick.1, .appendDecision tick.2])

theorem runCalls_append (files : StoreFiles) (first second : List StoreCall) :
    runCalls files (first ++ second) = runCalls (runCalls files first) second := by
  induction first generalizing files with
  | nil => rfl
  | cons call rest ih => exact ih _

/-- **Run lemma.** The ticks of an event run lead the picture of a history to the picture of one whose state is the
    record of the run, with the events and decisions added to its logs. -/
theorem ticks_picture (hrun : EventRun decide initial events decisions final) (h : History)
    (hstate : h.state = initial) :
    ∃ h' : History, runCalls (picture (some h)) (tickCalls events decisions) = picture (some h')
      ∧ h'.seed = h.seed ∧ h'.events = h.events ++ events ∧ h'.decisions = h.decisions ++ decisions
      ∧ h'.state = final := by
  induction hrun generalizing h with
  | nil s => exact ⟨h, rfl, rfl, (List.append_nil _).symm, (List.append_nil _).symm, hstate⟩
  | @cons s m t event rest decision decisions hdecided hstep hrest ih =>
      have happly : applyDecision (h.addEvent event).state decision = .ok m := by
        rw [← hstep, ← hstate]
        rfl
      obtain ⟨h', hcalls, hseed, hevents, hdecisions, hfinal⟩ :=
        ih ((h.addEvent event).addDecision decision m happly) rfl
      refine ⟨h', ?_, hseed, ?_, ?_, hfinal⟩
      · -- the two calls of the tick advance the history, and the rest is the run from there
        have hcons : tickCalls (event :: rest) (decision :: decisions)
            = .appendEvent event :: .appendDecision decision :: tickCalls rest decisions := rfl
        have hevent : (StoreCall.appendEvent event).advance (some h) = some (h.addEvent event) := rfl
        rw [hcons, runCalls, runCalls, (run_picture _ _).1, hevent, (run_picture _ _).1, advance_accepted happly,
          hcalls]
      · rw [hevents]
        exact List.append_assoc ..
      · rw [hdecisions]
        exact List.append_assoc ..

/-- The records of a store that is fed event by event and restarted on the way. -/
theorem ticks_restart {first second : List WorkflowDecision} {middle : WorkflowStateRecord}
    {before after : List WorkflowEvent} (h : History) (hfirst : EventRun decide h.state before first middle)
    (hsecond : EventRun decide middle after second final) :
    runCalls (picture (some h)) (tickCalls before first ++ .replay :: tickCalls after second) =
      { initialState := some h.seed
        events := some (h.events ++ before ++ after)
        decisions := some (h.decisions ++ first ++ second)
        currentState := some final } := by
  obtain ⟨h₁, hcalls₁, hseed₁, hevents₁, hdecisions₁, hstate₁⟩ := ticks_picture hfirst h rfl
  obtain ⟨h₂, hcalls₂, hseed₂, hevents₂, hdecisions₂, hstate₂⟩ := ticks_picture hsecond h₁ hstate₁
  -- the restart finds the picture of a history, which a replay leaves as it is
  have hrestart : runCalls (picture (some h₁)) (.replay :: tickCalls after second) = picture (some h₂) := by
    rw [runCalls, (run_picture .replay (some h₁)).1]
    exact hcalls₂
  rw [runCalls_append, hcalls₁, hrestart, picture, hseed₂, hevents₂, hdecisions₂, hstate₂, hseed₁, hevents₁,
    hdecisions₁]

/-- The decision of a tick is one of those taken. -/
theorem decision_of_tickCalls {call : StoreCall} {decision : WorkflowDecision}
    (hcall : call ∈ tickCalls events decisions) (heq : call = .appendDecision decision) : decision ∈ decisions := by
  subst heq
  obtain ⟨tick, htick, hmem⟩ := List.mem_flatMap.mp hcall
  rcases List.mem_pair.mp hmem with hevent | hdecision
  · cases hevent
  · cases hdecision
    exact (List.of_mem_zip htick).2

/-- **A store that is fed event by event holds what the event replay returns**, also when it is restarted on the way:
    if replaying all the events from the store's state succeeds, then so do its two halves, and where the decisions
    taken are read back as they were written, a process that takes the first events, stops, replays the log and takes
    the rest leaves the store with exactly these events and decisions and with the record of the uninterrupted
    replay. -/
theorem event_replay_through_store {Obj : Type} (loads : List Char → Except String Obj)
    (validate : Obj → Except String WorkflowDecision)
    (decide : WorkflowStateRecord → WorkflowEvent → Except E WorkflowDecision) (h : History) (text : TextFiles)
    (hstore : Represents (WholeLog loads validate) text (picture (some h))) (before after : List WorkflowEvent)
    (final : WorkflowStateRecord) (hreplay : replayEvents h.state (before ++ after) decide = .ok final)
    (hreadable : ∀ decisions, EventRun decide h.state (before ++ after) decisions final →
      ∀ decision ∈ decisions, Readable loads validate decision) :
    ∃ first second middle, EventRun decide h.state before first middle ∧ EventRun decide middle after second final
      ∧ Represents (WholeLog loads validate)
          (session (TextStore.program loads validate) text
            (tickCalls before first ++ .replay :: tickCalls after second)).1
          { initialState := some h.seed
            events := some (h.events ++ before ++ after)
            decisions := some (h.decisions ++ first ++ second)
            currentState := some final } := by
  obtain ⟨decisions, hrun⟩ := replay_decidedStep.mp hreplay
  obtain ⟨first, second, middle, rfl, hfirst, hsecond⟩ := driven_append.mp hrun
  refine ⟨first, second, middle, hfirst, hsecond, ?_⟩
  have hdecisions := hreadable _ hrun
  have hcalls : ∀ call ∈ tickCalls before first ++ .replay :: tickCalls after second,
      call.Readable loads validate := by
    intro call hcall
    cases call with
    | initializeStore | appendEvent | replay => trivial
    | appendDecision decision =>
        refine hdecisions decision ?_
        rcases List.mem_append.mp hcall with hcall | hcall
        · exact List.mem_append_left _ (decision_of_tickCalls hcall rfl)
        · rcases List.mem_cons.mp hcall with hreplay | hcall
          · cases hreplay
          · exact List.mem_append_right _ (decision_of_tickCalls hcall rfl)
  have hafter := (Refines.session (fun call hcall => program_refines (hcalls call hcall)) hstore).1
  rwa [session_files, ticks_restart h hfirst hsecond] at hafter

end

/-! ## A planned project -/

/-- The decision that files the plan an event brings. -/
def filedPlan (phase : String) (event : WorkflowEvent) : WorkflowDecision where
  decisionId := "decision-for-" ++ event.eventId
  decidedAt := event.emittedAt
  fromPhase := phase
  toPhase := "PLAN_REVIEW"
  materialProgress := true
  progressSignal := some .planCreated
  evidenceRefs := [{ type := .plan, uri := "plan:" ++ event.eventId }]

def decidePlan (record : WorkflowStateRecord) (event : WorkflowEvent) : Except Unit WorkflowDecision :=
  .ok (filedPlan record.phase event)

/-- An event with a plan. -/
def examplePlanEvent (eventId : String) : WorkflowEvent where
  eventId
  type := "plan_created"
  emittedAt := "T0"
  sourceRole := .projectIntakeOwner
  correlationId := "W-1"

/-- Two plans, filed one after the other. -/
def examplePlanDecisions : List WorkflowDecision :=
  [filedPlan "PLANNING" (examplePlanEvent "e1"), filedPlan "PLAN_REVIEW" (examplePlanEvent "e2")]

theorem examplePlan_run : ∃ final,
    EventRun decidePlan (exampleRecord "PLANNING" none) [examplePlanEvent "e1", examplePlanEvent "e2"]
        examplePlanDecisions final
      ∧ final.phase = "PLAN_REVIEW"
      ∧ examplePlanDecisions.flatMap (fun decision => evidenceDigest decision.evidenceRefs)
          = [("plan", "plan:e1", none), ("plan", "plan:e2", none)] :=
  ⟨_, .cons rfl rfl (.cons rfl rfl (.nil _)), rfl, rfl⟩

theorem event_replay_traced_planned : ∃ final,
    replayEvents (exampleRecord "PLANNING" none) [examplePlanEvent "e1", examplePlanEvent "e2"] decidePlan = .ok final
      ∧ final.phase = "PLAN_REVIEW" := by
  obtain ⟨final, hrun, hphase, -⟩ := examplePlan_run
  exact ⟨final, ((event_replay_traced decidePlan _ _).1 final).mpr ⟨_, hrun⟩, hphase⟩

theorem evidence_digest_of_replay_planned : ∃ decisions final,
    replayDecisions (exampleRecord "PLANNING" none) decisions = .ok final
      ∧ evidenceDigest final.evidenceRefs = [("plan", "plan:e1", none), ("plan", "plan:e2", none)] := by
  obtain ⟨final, hrun, -, hdigest⟩ := examplePlan_run
  have hfinal := (evidence_digest_of_replay _ _ _ _ _ hrun.replay hrun.replay).1
  rw [hdigest] at hfinal
  exact ⟨examplePlanDecisions, final, hrun.replay, hfinal⟩

theorem examplePlanDecisions_readable :
    ∀ decision ∈ examplePlanDecisions, Readable (readsLines examplePlanDecisions) .ok decision := by
  intro decision hdecision
  rcases List.mem_pair.mp hdecision with rfl | rfl
  · exact readsLines_readable (by decide +kernel) (by decide +kernel)
  · exact readsLines_readable (by decide +kernel) (by decide +kernel)

/-- The texts of a new store. -/
def exampleNewStore (seed : WorkflowStateRecord) : TextFiles where
  initialState := some seed
  events := some []
  decisions := some []
  currentState := some seed

theorem exampleNewStore_represents (seed : WorkflowStateRecord) :
    Represents (WholeLog (readsLines examplePlanDecisions) .ok) (exampleNewStore seed)
      (picture (some (History.start seed))) where
  initialState := rfl
  events := rfl
  decisions := ⟨rfl, fun _ hd => absurd hd List.not_mem_nil⟩
  currentState := rfl

/-- The log of the fed store is read as the two decisions. -/
theorem event_replay_through_store_planned : ∃ first second,
    JsonlLog.iterDecisions (readsLines examplePlanDecisions) .ok
        (session (TextStore.program (readsLines examplePlanDecisions) .ok)
          (exampleNewStore (exampleRecord "PLANNING" none))
          (tickCalls [examplePlanEvent "e1"] first ++ .replay :: tickCalls [examplePlanEvent "e2"] second)).1.decisions
      = .ok (first ++ second) := by
  obtain ⟨final, hrun, -, -⟩ := examplePlan_run
  have hreplay : replayEvents (exampleRecord "PLANNING" none) ([examplePlanEvent "e1"] ++ [examplePlanEvent "e2"])
      decidePlan = .ok final := replay_decidedStep.mpr ⟨_, hrun⟩
  have hreadable : ∀ decisions, EventRun decidePlan (exampleRecord "PLANNING" none)
      ([examplePlanEvent "e1"] ++ [examplePlanEvent "e2"]) decisions final →
      ∀ decision ∈ decisions, Readable (readsLines examplePlanDecisions) .ok decision := by
    intro decisions hother
    rw [(hother.unique hrun).1]
    exact examplePlanDecisions_readable
  obtain ⟨first, second, middle, -, -, hstore⟩ :=
    event_replay_through_store (readsLines examplePlanDecisions) .ok decidePlan
      (History.start (exampleRecord "PLANNING" none)) (exampleNewStore (exampleRecord "PLANNING" none))
      (exampleNewStore_represents _) [examplePlanEvent "e1"] [examplePlanEvent "e2"] final hreplay hreadable
  exact ⟨first, second, WholeLog.reads _ _ hstore.decisions⟩

end WorkflowDrivers
