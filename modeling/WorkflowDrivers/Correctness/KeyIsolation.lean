import WorkflowDrivers.Activities.Runner
import WorkflowDrivers.Lib.Cells

/-!
# `Correctness.KeyIsolation` — idempotency keys do not interfere

The runner's two maps are a family of cells, one for each idempotency key. With handlers that are functions of the
request and a constant clock a call reads and writes only the cell of its own key, so the runner is a cellwise
machine, and what the requests of one key get does not depend on the other traffic.
-/

namespace WorkflowDrivers
open Lib

variable {World : Type}

/-- The handlers are functions of the request, and the clock is constant: neither answer depends on the world. -/
structure LocalActivityRunner.Deterministic (runner : LocalActivityRunner World) : Prop where
  handlers : ∀ activityType, ∀ handler ∈ runner.handlers activityType, ∀ request world world',
    (handler request world).1 = (handler request world').1
  clock : ∀ world world', (runner.clock world).1 = (runner.clock world').1

/-- The results of a history: for each call the request and what it got. -/
def results (history : List (RunCall World)) : List (ActivityRequest × Except RunError ActivityResultEnvelope) :=
  history.map fun call => (call.request, call.attempt.result)

/-- The results of the requests with one key. -/
def resultsFor (key : String) (history : List (RunCall World)) :
    List (ActivityRequest × Except RunError ActivityResultEnvelope) :=
  (results history).filter fun result => result.1.idempotencyKey = key

/-! ## The runner as a machine -/

/-- One call, as a step of a machine. -/
def LocalActivityRunner.step [UnicodeData] (runner : LocalActivityRunner World) (state : RunnerMaps × World)
    (request : ActivityRequest) : Except RunError ActivityResultEnvelope × (RunnerMaps × World) :=
  let attempt := runner.run state.1 state.2 request
  (attempt.result, attempt.maps, attempt.world)

/-- What the two maps hold for a key. -/
def runnerCell (state : RunnerMaps × World) (key : String) : Option ActivityResultEnvelope × Option String :=
  (state.1.completed key, state.1.signatures key)

section
variable [UnicodeData] {runner : LocalActivityRunner World}

theorem results_history (maps : RunnerMaps) (world : World) (requests : List ActivityRequest) :
    results (runner.history maps world requests) = trace runner.step (maps, world) requests := by
  induction requests generalizing maps world with
  | nil => rfl
  | cons request rest ih =>
      rw [LocalActivityRunner.history, trace, results, List.map_cons]
      exact congrArg (List.cons _) (ih _ _)

omit [UnicodeData] in
/-- A call leaves the cells of the other keys alone. -/
theorem RunEffect.frame {maps : RunnerMaps} {request : ActivityRequest} {attempt : Attempt World} {key : String}
    (h : RunEffect maps request attempt) (hkey : key ≠ request.idempotencyKey) :
    attempt.maps.completed key = maps.completed key ∧ attempt.maps.signatures key = maps.signatures key := by
  cases h with
  | succeeded hcompleted hanswers hstatus =>
      exact ⟨Function.update_of_ne hkey .., Function.update_of_ne hkey ..⟩
  | keyError | collision | duplicate | noHandler | raised | notSucceeded => exact ⟨rfl, rfl⟩

/-- **What a call does is decided by the cell of its key**: its result, and what the cell holds afterwards. -/
theorem run_decided_by_cell (hdet : runner.Deterministic) {maps maps' : RunnerMaps} (world world' : World)
    {request : ActivityRequest}
    (hcompleted : maps.completed request.idempotencyKey = maps'.completed request.idempotencyKey)
    (hsignature : maps.signatures request.idempotencyKey = maps'.signatures request.idempotencyKey) :
    let attempt := runner.run maps world request
    let attempt' := runner.run maps' world' request
    attempt.result = attempt'.result
      ∧ attempt.maps.completed request.idempotencyKey = attempt'.maps.completed request.idempotencyKey
      ∧ attempt.maps.signatures request.idempotencyKey = attempt'.maps.signatures request.idempotencyKey := by
  unfold LocalActivityRunner.run
  rw [← hcompleted, ← hsignature]
  cases hknown : maps.completed request.idempotencyKey with
  | some previous =>
      -- a remembered key: the signatures decide, and the clock is constant
      simp only [hdet.clock world world']
      cases maps.signatures request.idempotencyKey with
      | none => exact ⟨rfl, hcompleted, hsignature⟩
      | some signature =>
          simp only
          split_ifs
          · exact ⟨rfl, hcompleted, hsignature⟩
          · exact ⟨rfl, hcompleted, hsignature⟩
  | none =>
      cases hhandler : runner.handlers request.activityType with
      | none =>
          refine ⟨?_, hcompleted, hsignature⟩
          simp only [hdet.clock world world']
      | some handler =>
          have hsame := hdet.handlers request.activityType handler hhandler request world world'
          simp only
          rcases hanswer : handler request world with ⟨outcome, next⟩
          rcases hanswer' : handler request world' with ⟨outcome', next'⟩
          rw [hanswer, hanswer'] at hsame
          obtain rfl : outcome = outcome' := hsame
          cases outcome with
          | error message => exact ⟨rfl, hcompleted, hsignature⟩
          | ok envelope =>
              simp only
              cases validateResultMatchesRequest request envelope with
              | error message => exact ⟨rfl, hcompleted, hsignature⟩
              | ok u =>
                  -- only a success is written, to the cell of the key
                  by_cases hstatus : envelope.status = .succeeded
                  · simp [hstatus]
                  · simp [hstatus, hcompleted, hsignature]

/-- **The runner is a cellwise machine.** -/
theorem runner_cellWise (hdet : runner.Deterministic) :
    CellWise runner.step ActivityRequest.idempotencyKey runnerCell where
  answer := by
    rintro ⟨maps, world⟩ ⟨maps', world'⟩ request hcell
    obtain ⟨hcompleted, hsignature⟩ := Prod.mk.inj hcell
    exact (run_decided_by_cell hdet world world' hcompleted hsignature).1
  write := by
    rintro ⟨maps, world⟩ ⟨maps', world'⟩ request hcell
    obtain ⟨hcompleted, hsignature⟩ := Prod.mk.inj hcell
    obtain ⟨-, hcompleted', hsignature'⟩ := run_decided_by_cell hdet world world' hcompleted hsignature
    exact Prod.ext hcompleted' hsignature'
  frame := by
    rintro ⟨maps, world⟩ request key hkey
    obtain ⟨hcompleted, hsignature⟩ := (run_effect runner maps world request).frame hkey
    exact Prod.ext hcompleted hsignature

end

/-- **Idempotency keys do not interfere.** For every runner with such handlers and clock: in every sequence of
    requests the results of those with one key are the results of these requests alone, in their order, on a fresh
    runner; and a sequence with the same requests for every key, in the order they have there, has the same
    results, key by key and altogether. Swapping neighbours with different keys gives such a sequence. -/
theorem keys_do_not_interfere [UnicodeData] (runner : LocalActivityRunner World) (hdet : runner.Deterministic) :
    (∀ (requests : List ActivityRequest) (world world' : World) (key : String),
      resultsFor key (runner.history {} world requests)
        = results (runner.history {} world' (requests.filter fun request => request.idempotencyKey = key)))
    ∧ (∀ (requests reordered : List ActivityRequest) (world : World),
      (∀ key, requests.filter (fun request => request.idempotencyKey = key)
        = reordered.filter fun request => request.idempotencyKey = key) →
      (∀ key, resultsFor key (runner.history {} world requests)
        = resultsFor key (runner.history {} world reordered))
      ∧ (results (runner.history {} world requests)).Perm (results (runner.history {} world reordered)))
    ∧ (∀ (before after : List ActivityRequest) (a b : ActivityRequest), a.idempotencyKey ≠ b.idempotencyKey →
      ∀ key, (before ++ a :: b :: after).filter (fun request => request.idempotencyKey = key)
        = (before ++ b :: a :: after).filter fun request => request.idempotencyKey = key) := by
  have hcells : CellWise runner.step ActivityRequest.idempotencyKey runnerCell := runner_cellWise hdet
  refine ⟨?_, ?_, fun before after a b hne key => filter_key_swap hne before after key⟩
  · intro requests world world' key
    rw [resultsFor, results_history, results_history]
    have hfresh : runnerCell (({}, world) : RunnerMaps × World) key = runnerCell ({}, world') key := rfl
    exact hcells.trace_filter hfresh requests
  · intro requests reordered world hsame
    refine ⟨?_, ?_⟩
    · intro key
      rw [resultsFor, resultsFor, results_history, results_history]
      exact hcells.trace_reorder hsame key
    · rw [results_history, results_history]
      exact hcells.trace_perm hsame

/-- A runner whose handler answers every request of one type with success, and whose clock stands still. -/
def exampleRunner : LocalActivityRunner Unit where
  handlers activityType :=
    if activityType = "report" then
      some fun request world =>
        (.ok { activityId := request.activityId, activityType := request.activityType
               idempotencyKey := request.idempotencyKey, role := request.role, status := .succeeded
               startedAt := "T1", finishedAt := "T1" }, world)
    else none
  clock world := ("T1", world)

theorem exampleRunner_deterministic : exampleRunner.Deterministic where
  handlers _ _ _ _ _ _ := rfl
  clock _ _ := rfl

def exampleRequest (activityId idempotencyKey : String) : ActivityRequest where
  activityId
  activityType := "report"
  role := .developer
  purpose := "report the status"
  acceptanceCriteria := ["reported"]
  idempotencyKey
  timeoutPolicy := { startToClose := "30s", scheduleToClose := "2m" }
  retryPolicy := { maxAttempts := 3, backoff := "none" }
  onFailure := { rescopeAllowed := false, blockerOwnerRole := .processSteward }

theorem keys_do_not_interfere_two :
    resultsFor "K-1" (@LocalActivityRunner.history Unit asciiOnly exampleRunner {} ()
        [exampleRequest "A-1" "K-1", exampleRequest "A-2" "K-2", exampleRequest "A-3" "K-1"])
      = results (@LocalActivityRunner.history Unit asciiOnly exampleRunner {} ()
        [exampleRequest "A-1" "K-1", exampleRequest "A-3" "K-1"]) :=
  (@keys_do_not_interfere Unit asciiOnly exampleRunner exampleRunner_deterministic).1
    [exampleRequest "A-1" "K-1", exampleRequest "A-2" "K-2", exampleRequest "A-3" "K-1"] () () "K-1"

end WorkflowDrivers
