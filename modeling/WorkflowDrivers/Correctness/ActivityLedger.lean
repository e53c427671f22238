import WorkflowDrivers.Correctness.StoreKeys

/-!
# `Correctness.ActivityLedger` — what the runner's two maps are for

The runner keeps an envelope and a signature for a key. What it needs to know is less: the request that succeeded
first for the key. `serve` is the runner that is told just that, and the maps are shown to say it (`Remembers`), so
that a call does what its key's first success says, at any point of any history. This decides for every call
whether a handler is called, and for ticks of workflows whether the store is read.
-/

namespace WorkflowDrivers
open Lib StrEnum

variable {World : Type}

/-! ## The runner that is told -/

/-- What a caller and the world see of a call. -/
structure Reply (World : Type) where
  result : Except RunError ActivityResultEnvelope
  world : World
  invoked : Bool := false

def Attempt.reply (attempt : Attempt World) : Reply World :=
  { result := attempt.result, world := attempt.world, invoked := attempt.invoked }

instance (attempt : Attempt World) : Decidable attempt.Succeeded :=
  match hresult : attempt.result with
  | .ok envelope =>
      decidable_of_iff (envelope.status = .succeeded) (by simp [Attempt.Succeeded, hresult])
  | .error _ => isFalse (by simp [Attempt.Succeeded, hresult])

/-- An answer of a handler, checked against the request. -/
def judged (request : ActivityRequest) : Except String ActivityResultEnvelope → Except RunError ActivityResultEnvelope
  | .error message => .error (.handlerRaised message)
  | .ok envelope =>
      match validateResultMatchesRequest request envelope with
      | .error message => .error (.valueError message)
      | .ok () => .ok envelope

instance (a b : ActivityRequest) : Decidable (SameRequest a b) :=
  inferInstanceAs (Decidable (b = { a with activityId := b.activityId }))

/-- **A call by the first success of its key.** Without one the handler is called; after one it is not, and the
    answer names the activity that succeeded. -/
def LocalActivityRunner.serve [UnicodeData] (runner : LocalActivityRunner World) (first : Option ActivityRequest)
    (world : World) (request : ActivityRequest) : Reply World :=
  match first with
  | some first =>
      let (timestamp, world) := runner.clock world
      let output := previousActivityOutput first.activityId
      if SameRequest first request then
        { result := .ok (ownEnvelope request .skippedDuplicate timestamp output none), world }
      else
        { result := .ok (ownEnvelope request .failed timestamp output
            (some ("idempotency key collision: request does not match " ++ "previously completed activity")))
          world }
  | none =>
      match runner.handlers request.activityType with
      | none =>
          let (timestamp, world) := runner.clock world
          { result := .ok (ownEnvelope request .failed timestamp []
              (some ("no local activity handler registered for " ++ pyRepr request.activityType)))
            world }
      | some handler =>
          let (answer, world) := handler request world
          { result := judged request answer, world, invoked := true }

/-! ## The first success -/

/-- The first of some calls that succeeded for a key. -/
def firstSuccess (calls : List (RunCall World)) (key : String) : Option ActivityRequest :=
  (calls.find? fun call => call.attempt.Succeeded ∧ call.request.idempotencyKey = key).map RunCall.request

/-- It is one of the calls, and no call before it succeeded for the key. -/
theorem firstSuccess_eq_some {calls : List (RunCall World)} {key : String} {first : ActivityRequest}
    (h : firstSuccess calls key = some first) :
    ∃ before call after, calls = before ++ call :: after ∧ call.request = first ∧ call.attempt.Succeeded
      ∧ first.idempotencyKey = key
      ∧ ∀ e ∈ before, e.attempt.Succeeded → e.request.idempotencyKey ≠ key := by
  obtain ⟨call, hfind, rfl⟩ := Option.map_eq_some_iff.mp h
  obtain ⟨hcall, before, after, rfl, hbefore⟩ := List.find?_eq_some_iff_append.mp hfind
  obtain ⟨hsuccess, hkey⟩ := of_decide_eq_true hcall
  refine ⟨before, call, after, rfl, rfl, hsuccess, hkey, ?_⟩
  intro e he hsucceeded heq
  have hnot := hbefore e he
  simp [hsucceeded, heq] at hnot

theorem firstSuccess_eq_none {calls : List (RunCall World)} {key : String} :
    firstSuccess calls key = none ↔ ∀ e ∈ calls, e.attempt.Succeeded → e.request.idempotencyKey ≠ key := by
  simp [firstSuccess]

/-- One call more. -/
theorem firstSuccess_concat (calls : List (RunCall World)) (call : RunCall World) (key : String) :
    firstSuccess (calls ++ [call]) key
      = (firstSuccess calls key).or
          (if call.attempt.Succeeded ∧ call.request.idempotencyKey = key then some call.request else none) := by
  unfold firstSuccess
  rw [List.find?_append, Option.map_or]
  congr 1
  by_cases h : call.attempt.Succeeded ∧ call.request.idempotencyKey = key
  · rw [if_pos h, List.find?_cons_of_pos (by simpa using h)]
    rfl
  · rw [if_neg h, List.find?_cons_of_neg (by simpa using h)]
    rfl

/-! ## The maps say it -/

/-- The maps hold the successes `first`: the envelope of each, and its signature. -/
structure Remembers (maps : RunnerMaps) (first : String → Option ActivityRequest) : Prop where
  completed : ∀ key, (maps.completed key).map ActivityResultEnvelope.activityId
    = (first key).map ActivityRequest.activityId
  signatures : ∀ key, maps.signatures key = (first key).map requestSignature

/-- A fresh runner remembers nothing. -/
theorem remembers_fresh : Remembers {} (firstSuccess ([] : List (RunCall World))) where
  completed _ := rfl
  signatures _ := rfl

section
variable [UnicodeData] {runner : LocalActivityRunner World} {maps : RunnerMaps}
  {first : String → Option ActivityRequest}

/-- What a call does is what the first success of its key says. -/
theorem Remembers.reply (h : Remembers maps first) (world : World) (request : ActivityRequest) :
    (runner.run maps world request).reply = runner.serve (first request.idempotencyKey) world request := by
  have hcompleted := h.completed request.idempotencyKey
  have hsignature := h.signatures request.idempotencyKey
  unfold LocalActivityRunner.run LocalActivityRunner.serve
  cases hfirst : first request.idempotencyKey with
  | some success =>
      rw [hfirst] at hcompleted hsignature
      obtain ⟨previous, hprevious, hid⟩ := Option.map_eq_some_iff.mp hcompleted
      rw [Option.map_some] at hsignature
      simp only [hprevious, hsignature, hid]
      -- the signatures tell the two requests apart
      by_cases hsame : SameRequest success request
      · rw [if_neg (not_not.mpr (requestSignature_eq_iff.mpr hsame).symm), if_pos hsame]
        rfl
      · rw [if_pos (fun heq => hsame (requestSignature_eq_iff.mp heq.symm)), if_neg hsame]
        rfl
  | none =>
      rw [hfirst] at hcompleted
      simp only [Option.map_eq_none_iff.mp hcompleted]
      cases runner.handlers request.activityType with
      | none => rfl
      | some handler =>
          simp only
          rcases handler request world with ⟨message | envelope, world'⟩
          · rfl
          · simp only [judged]
            cases validateResultMatchesRequest request envelope with
            | error message => rfl
            | ok u => rfl

omit [UnicodeData] in
/-- A remembered success settles its key. -/
theorem Remembers.settled (h : Remembers maps first) {success : ActivityRequest}
    (hfirst : first success.idempotencyKey = some success) : Settled maps success := by
  have hcompleted := h.completed success.idempotencyKey
  have hsignature := h.signatures success.idempotencyKey
  rw [hfirst] at hcompleted hsignature
  exact
    { completed := Option.map_eq_some_iff.mp hcompleted
      signature := hsignature }

omit [UnicodeData] in
/-- So a key has one success. -/
theorem Remembers.fresh {past : List (RunCall World)} {call : RunCall World} (h : Remembers maps (firstSuccess past))
    (heffect : RunEffect maps call.request call.attempt) (hsuccess : call.attempt.Succeeded) :
    firstSuccess past call.request.idempotencyKey = none := by
  by_contra hsome
  obtain ⟨success, hfirst⟩ := Option.ne_none_iff_exists'.mp hsome
  obtain ⟨-, -, -, -, -, -, hkey, -⟩ := firstSuccess_eq_some hfirst
  rw [← hkey] at hfirst
  exact ((h.settled hfirst).answered hkey heffect).not_succeeded hsuccess

omit [UnicodeData] in
/-- **Step lemma.** After a call the maps remember one success more, if it is one. -/
theorem Remembers.next {past : List (RunCall World)} (h : Remembers maps (firstSuccess past)) (call : RunCall World)
    (heffect : RunEffect maps call.request call.attempt) :
    Remembers call.attempt.maps (firstSuccess (past ++ [call])) := by
  by_cases hsuccess : call.attempt.Succeeded
  · obtain ⟨⟨envelope, hcompleted, hid⟩, hsignature⟩ := heffect.settles hsuccess
    -- the key of the call holds it now, and the other keys what they held
    have hown : firstSuccess (past ++ [call]) call.request.idempotencyKey = some call.request := by
      rw [firstSuccess_concat, h.fresh heffect hsuccess, Option.none_or, if_pos ⟨hsuccess, rfl⟩]
    have hother : ∀ key, key ≠ call.request.idempotencyKey →
        firstSuccess (past ++ [call]) key = firstSuccess past key := by
      intro key hne
      rw [firstSuccess_concat, if_neg (fun h => hne h.2.symm), Option.or_none]
    constructor
    · intro key
      by_cases hkey : key = call.request.idempotencyKey
      · rw [hkey, hcompleted, hown, Option.map_some, Option.map_some, hid]
      · rw [(heffect.frame hkey).1, hother key hkey]
        exact h.completed key
    · intro key
      by_cases hkey : key = call.request.idempotencyKey
      · rw [hkey, hsignature, hown, Option.map_some]
      · rw [(heffect.frame hkey).2, hother key hkey]
        exact h.signatures key
  · have hsame : firstSuccess (past ++ [call]) = firstSuccess past := by
      funext key
      rw [firstSuccess_concat, if_neg (fun h => hsuccess h.1), Option.or_none]
    rw [heffect.unchanged hsuccess, hsame]
    exact h

/-- The world some calls leave. -/
def worldAfter (world : World) (calls : List (RunCall World)) : World :=
  calls.foldl (fun _ call => call.attempt.world) world

/-- **Run lemma.** A call of a history that goes on from `past` does what the first success of its key says. -/
theorem Remembers.history {requests : List ActivityRequest} {world : World} {past earlier later : List (RunCall World)}
    {call : RunCall World} (h : Remembers maps (firstSuccess past))
    (hhistory : runner.history maps world requests = earlier ++ call :: later) :
    call.attempt.reply
      = runner.serve (firstSuccess (past ++ earlier) call.request.idempotencyKey) (worldAfter world earlier)
          call.request := by
  induction requests generalizing maps world past earlier with
  | nil => cases earlier <;> cases hhistory
  | cons request rest ih =>
      rw [LocalActivityRunner.history] at hhistory
      cases earlier with
      | nil =>
          obtain ⟨rfl, -⟩ := List.cons.inj hhistory
          rw [List.append_nil]
          exact h.reply world request
      | cons e earlier =>
          obtain ⟨rfl, hrest⟩ := List.cons.inj hhistory
          have hnext := h.next { request, before := maps, attempt := runner.run maps world request }
            (run_effect runner maps world request)
          rw [ih hnext hrest, List.append_assoc, List.singleton_append]
          rfl

/-! ## Every call of a fresh runner -/

/-- After a success no call for its key succeeds. -/
theorem serve_not_succeeded {success request : ActivityRequest} {world : World} {attempt : Attempt World}
    (h : attempt.reply = runner.serve (some success) world request) : ¬attempt.Succeeded := by
  rintro ⟨envelope, hresult, hstatus⟩
  have hreply : (runner.serve (some success) world request).result = .ok envelope := h ▸ hresult
  unfold LocalActivityRunner.serve at hreply
  simp only at hreply
  split_ifs at hreply
  · cases hreply
    cases hstatus
  · cases hreply
    cases hstatus

variable {requests : List ActivityRequest} {world : World} {earlier later : List (RunCall World)} {call : RunCall World}

/-- Every success of a fresh runner is the first of its key. -/
theorem firstSuccess_of_mem (hhistory : runner.history {} world requests = earlier ++ later) {e : RunCall World}
    (he : e ∈ earlier) (hsuccess : e.attempt.Succeeded) :
    firstSuccess earlier e.request.idempotencyKey = some e.request := by
  obtain ⟨before, after, rfl⟩ := List.append_of_mem he
  rw [List.append_assoc, List.cons_append] at hhistory
  have hreply := remembers_fresh.history hhistory
  rw [List.nil_append] at hreply
  cases hfirst : firstSuccess before e.request.idempotencyKey with
  | some success =>
      rw [hfirst] at hreply
      exact absurd hsuccess (serve_not_succeeded hreply)
  | none =>
      have hnone := Option.map_eq_none_iff.mp hfirst
      rw [firstSuccess, List.find?_append, hnone, Option.none_or, List.find?_cons_of_pos (by simpa using hsuccess)]
      rfl

omit [UnicodeData] in
theorem SameRequest.key {a b : ActivityRequest} (h : SameRequest a b) : b.idempotencyKey = a.idempotencyKey := by
  have hb : b = { a with activityId := b.activityId } := h
  rw [hb]

/-- **The run lemma for a fresh runner.** -/
theorem history_served (hhistory : runner.history {} world requests = earlier ++ call :: later) :
    call.attempt.reply
      = runner.serve (firstSuccess earlier call.request.idempotencyKey) (worldAfter world earlier) call.request := by
  have hreply := remembers_fresh.history hhistory
  rwa [List.nil_append] at hreply

/-- A handler is called as long as there was no success. -/
theorem history_invoked_iff (hhistory : runner.history {} world requests = earlier ++ call :: later) :
    call.attempt.invoked = true ↔ (runner.handlers call.request.activityType).isSome = true
      ∧ ∀ e ∈ earlier, e.attempt.Succeeded → e.request.idempotencyKey ≠ call.request.idempotencyKey := by
  have hreply := history_served hhistory
  have hinvoked : call.attempt.invoked = (call.attempt.reply).invoked := rfl
  rw [hinvoked, hreply, ← firstSuccess_eq_none]
  unfold LocalActivityRunner.serve
  cases firstSuccess earlier call.request.idempotencyKey with
  | some first =>
      by_cases hsame : SameRequest first call.request
      · simp [hsame]
      · simp [hsame]
  | none =>
      cases runner.handlers call.request.activityType with
      | none => simp
      | some handler => simp

/-- A call is skipped after a success of its request. -/
theorem history_skipped_iff (hhistory : runner.history {} world requests = earlier ++ call :: later) :
    call.attempt.Skipped ↔ ∃ e ∈ earlier, e.attempt.Succeeded ∧ SameRequest e.request call.request := by
  have hreply := history_served hhistory
  have hskipped : call.attempt.Skipped ↔ call.attempt.reply.invoked = false
      ∧ ∃ envelope, call.attempt.reply.result = .ok envelope ∧ envelope.status = .skippedDuplicate := Iff.rfl
  have hfirst : call.attempt.Skipped ↔ ∃ first,
      firstSuccess earlier call.request.idempotencyKey = some first ∧ SameRequest first call.request := by
    rw [hskipped, hreply]
    unfold LocalActivityRunner.serve
    cases firstSuccess earlier call.request.idempotencyKey with
    | some first =>
        by_cases hsame : SameRequest first call.request
        · simp [hsame, ownEnvelope]
        · simp [hsame, ownEnvelope]
    | none =>
        cases runner.handlers call.request.activityType with
        | none => simp [ownEnvelope]
        | some handler => simp
  rw [hfirst]
  constructor
  · rintro ⟨first, hsome, hsame⟩
    obtain ⟨before, e, after, rfl, rfl, hsuccess, -, -⟩ := firstSuccess_eq_some hsome
    exact ⟨e, List.mem_append_right _ List.mem_cons_self, hsuccess, hsame⟩
  · rintro ⟨e, he, hsuccess, hsame⟩
    rw [hsame.key]
    exact ⟨e.request, firstSuccess_of_mem hhistory he hsuccess, hsame⟩

end

/-- **The runner keeps the first success of every key, and that decides every call.** At any point of any history of
    a fresh runner a call does what the runner does that is told the first success of the call's key. It calls a
    handler exactly when there is one and no call before it succeeded for its key, and it is skipped exactly when
    one of them did so with the same request. -/
theorem runner_keeps_first_success [UnicodeData] (runner : LocalActivityRunner World) (requests : List ActivityRequest)
    (world : World) (earlier later : List (RunCall World)) (call : RunCall World)
    (hhistory : runner.history {} world requests = earlier ++ call :: later) :
    call.attempt.reply
      = runner.serve (firstSuccess earlier call.request.idempotencyKey) (worldAfter world earlier) call.request
    ∧ (call.attempt.invoked = true ↔ (runner.handlers call.request.activityType).isSome = true
        ∧ ∀ e ∈ earlier, e.attempt.Succeeded → e.request.idempotencyKey ≠ call.request.idempotencyKey)
    ∧ (call.attempt.Skipped ↔ ∃ e ∈ earlier, e.attempt.Succeeded ∧ SameRequest e.request call.request) :=
  ⟨history_served hhistory, history_invoked_iff hhistory, history_skipped_iff hhistory⟩

theorem runner_keeps_first_success_skips : ∃ first second : RunCall Unit,
    @LocalActivityRunner.history Unit asciiOnly exampleRunner {} ()
        [exampleRequest "A-1" "K-1", exampleRequest "A-2" "K-1"] = [first] ++ second :: []
      ∧ second.attempt.Skipped := by
  refine ⟨_, _, rfl, ?_⟩
  refine (@runner_keeps_first_success Unit asciiOnly exampleRunner
    [exampleRequest "A-1" "K-1", exampleRequest "A-2" "K-1"] () [_] [] _ rfl).2.2.mpr ⟨_, List.mem_cons_self, ?_, ?_⟩
  · exact ⟨_, rfl, rfl⟩
  · rfl

/-! ## Ticks of workflows -/

/-- What a worker is scheduled to do by some ticks of workflows. -/
def scheduledBy [UnicodeData] (ticks : List (TemporalWorkflowCommand × String)) : List ActivityRequest :=
  ticks.flatMap fun tick =>
    match planRun tick.1 tick.2 with
    | .ok result => result.scheduledActivities
    | .error _ => []

/-- A request to read the store for a command. -/
def ReadsFor (command : TemporalWorkflowCommand) (request : ActivityRequest) : Prop :=
  ∃ action : StoreAction, value action = command.action ∧ request = storeActivityRequest command action

/-- A worker is scheduled to read stores, and nothing else. -/
theorem scheduledBy_reads [UnicodeData] {ticks : List (TemporalWorkflowCommand × String)} {request : ActivityRequest}
    (h : request ∈ scheduledBy ticks) : ∃ tick ∈ ticks, ReadsFor tick.1 request := by
  obtain ⟨tick, htick, hrequest⟩ := List.mem_flatMap.mp h
  cases hplan : planRun tick.1 tick.2 with
  | error message => simp [hplan] at hrequest
  | ok result =>
      obtain ⟨action, haction, hscheduled⟩ := planRun_eq_ok hplan
      rw [hplan] at hrequest
      simp only [hscheduled, List.mem_singleton] at hrequest
      exact ⟨tick, htick, action, haction, hrequest⟩

theorem history_requests [UnicodeData] (runner : LocalActivityRunner World) (maps : RunnerMaps) (world : World)
    (requests : List ActivityRequest) : (runner.history maps world requests).map RunCall.request = requests := by
  induction requests generalizing maps world with
  | nil => rfl
  | cons request rest ih =>
      rw [LocalActivityRunner.history, List.map_cons]
      exact congrArg (List.cons request) (ih _ _)

/-- Two reads have one key when they are for one command, or for commands that collide. -/
theorem ReadsFor.key_iff {a b : TemporalWorkflowCommand} {first second : ActivityRequest} (ha : ReadsFor a first)
    (hb : ReadsFor b second) : first.idempotencyKey = second.idempotencyKey ↔ KeysCollide a b ∨ ¬Differ a b := by
  obtain ⟨p, hp, rfl⟩ := ha
  obtain ⟨q, hq, rfl⟩ := hb
  exact storeKeys_eq_iff hp hq

/-- They are one request when their actions are one, too. -/
theorem ReadsFor.same_iff {a b : TemporalWorkflowCommand} {first second : ActivityRequest} (ha : ReadsFor a first)
    (hb : ReadsFor b second) :
    SameRequest first second ↔ a.action = b.action ∧ (KeysCollide a b ∨ ¬Differ a b) := by
  rw [← ha.key_iff hb]
  constructor
  · intro hsame
    have hkey := hsame.key.symm
    obtain ⟨p, hp, rfl⟩ := ha
    obtain ⟨q, hq, rfl⟩ := hb
    obtain rfl := (sameRequest_store_iff hkey).mp hsame
    exact ⟨hp.symm.trans hq, hkey⟩
  · rintro ⟨haction, hkey⟩
    obtain ⟨p, hp, rfl⟩ := ha
    obtain ⟨q, hq, rfl⟩ := hb
    exact (sameRequest_store_iff hkey).mpr (value_inj.mp (hp.trans (haction.trans hq.symm)))

/-- **A worker reads the store of a workflow until that succeeds, and never again.** In every history of a fresh
    runner that does what some ticks of workflows schedule, each call reads the store for the command of a tick. It
    is passed to the handler, if there is one, exactly when no call before it succeeded for the same command or for
    one that collides with it, and it is skipped exactly when one of them did, for the same action. -/
theorem workflow_ticks_read_once [UnicodeData] (runner : LocalActivityRunner World)
    (ticks : List (TemporalWorkflowCommand × String)) (world : World) (earlier later : List (RunCall World))
    (call : RunCall World) (hhistory : runner.history {} world (scheduledBy ticks) = earlier ++ call :: later) :
    (∃ tick ∈ ticks, ReadsFor tick.1 call.request)
    ∧ ∀ command, ReadsFor command call.request →
      (call.attempt.invoked = true ↔ (runner.handlers call.request.activityType).isSome = true
        ∧ ∀ e ∈ earlier, e.attempt.Succeeded → ∀ other, ReadsFor other e.request →
            Differ other command ∧ ¬KeysCollide other command)
      ∧ (call.attempt.Skipped ↔ ∃ e ∈ earlier, e.attempt.Succeeded
        ∧ ∃ other, ReadsFor other e.request ∧ other.action = command.action
          ∧ (KeysCollide other command ∨ ¬Differ other command)) := by
  have hreads : ∀ c ∈ earlier ++ call :: later, ∃ tick ∈ ticks, ReadsFor tick.1 c.request := by
    intro c hc
    rw [← hhistory] at hc
    have hrequest := List.mem_map_of_mem (f := RunCall.request) hc
    rw [history_requests] at hrequest
    exact scheduledBy_reads hrequest
  refine ⟨hreads call (List.mem_append_right _ List.mem_cons_self), ?_⟩
  intro command hcommand
  constructor
  · rw [history_invoked_iff hhistory]
    refine and_congr_right fun _ => ?_
    constructor
    · intro hother e he hsuccess other hread
      have hkey := hother e he hsuccess
      rw [Ne, hread.key_iff hcommand, not_or, not_not] at hkey
      exact hkey.symm
    · intro hother e he hsuccess hkey
      obtain ⟨tick, -, hread⟩ := hreads e (List.mem_append_left _ he)
      obtain ⟨hdiffer, hcollide⟩ := hother e he hsuccess tick.1 hread
      rcases (hread.key_iff hcommand).mp hkey with hcollides | hsame
      · exact hcollide hcollides
      · exact hsame hdiffer
  · rw [history_skipped_iff hhistory]
    constructor
    · rintro ⟨e, he, hsuccess, hsame⟩
      obtain ⟨tick, -, hread⟩ := hreads e (List.mem_append_left _ he)
      exact ⟨e, he, hsuccess, tick.1, hread, (hread.same_iff hcommand).mp hsame⟩
    · rintro ⟨e, he, hsuccess, other, hread, hboth⟩
      exact ⟨e, he, hsuccess, (hread.same_iff hcommand).mpr hboth⟩

/-- Two ticks of one workflow. -/
def exampleWorkflowTicks : List (TemporalWorkflowCommand × String) :=
  [({ workflowId := "W-1", storeRootUri := "file:///tmp/W-1" }, "T1"),
   ({ workflowId := "W-1", storeRootUri := "file:///tmp/W-1" }, "T2")]

theorem workflow_ticks_read_once_twice : ∃ first second : RunCall Unit,
    @LocalActivityRunner.history Unit asciiOnly obligingRunner {} () (@scheduledBy asciiOnly exampleWorkflowTicks)
        = [first] ++ second :: [] ∧ second.attempt.Skipped := by
  refine ⟨_, _, rfl, ?_⟩
  refine ((@workflow_ticks_read_once Unit asciiOnly obligingRunner exampleWorkflowTicks () [_] [] _ rfl).2
    { workflowId := "W-1", storeRootUri := "file:///tmp/W-1" } ⟨.replayStatus, rfl, rfl⟩).2.mpr
    ⟨_, List.mem_cons_self, ?_, { workflowId := "W-1", storeRootUri := "file:///tmp/W-1" }, ⟨.replayStatus, rfl, rfl⟩,
      rfl, Or.inr ?_⟩
  · exact ⟨_, rfl, rfl⟩
  · simp [Differ]

end WorkflowDrivers
