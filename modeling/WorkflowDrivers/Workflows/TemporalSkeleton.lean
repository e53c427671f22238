import WorkflowDrivers.Activities.Runner
import WorkflowDrivers.Store.Status

/-!
# `Workflows.TemporalSkeleton` — the store activity of a workflow command

The skeleton plans one activity for a command and runs none. A command that was built past its validation may name
any action, so the action is a string and the tables are looked up, with the error for an action they lack.
-/

namespace WorkflowDrivers
open Lib StrEnum

/-! ## Translation -/

/-- The actions of a command. -/
inductive StoreAction
  | status | replayStatus
  deriving DecidableEq, Repr

instance : StrEnum StoreAction where
  members := [.status, .replayStatus]
  value
    | .status => "status"
    | .replayStatus => "replay_status"
  find_value action := by cases action <;> decide

/-- Input for the Temporal-compatible workflow shim. -/
structure TemporalWorkflowCommand where
  workflowId : String
  storeRootUri : String
  action : String := "replay_status"
  correlationId : Option String := none

/-- `STORE_ACTIVITY_TYPES`. -/
def storeActivityTypes : StoreAction → String
  | .status => "workflow_store.status"
  | .replayStatus => "workflow_store.replay_status"

/-- `STORE_ACTIVITY_ACCEPTANCE`. -/
def storeActivityAcceptance : StoreAction → List String
  | .status =>
      ["Read the current durable workflow snapshot without mutating workflow history.",
       "Return a status envelope with phase, next trigger, blocker, and evidence refs."]
  | .replayStatus =>
      ["Replay persisted workflow decisions from the durable store.",
       "Return a status envelope with phase, next trigger, blocker, and evidence refs."]

/-- The request for an action the tables have. -/
def storeActivityRequest (command : TemporalWorkflowCommand) (action : StoreAction) : ActivityRequest where
  activityId := command.workflowId ++ ":store:" ++ command.action
  activityType := storeActivityTypes action
  role := .processSteward
  purpose := "Produce the durable workflow status used to decide the next trigger, wait, "
    ++ "blocker, or terminal outcome."
  acceptanceCriteria := storeActivityAcceptance action
  allowedSideEffects := [.command]
  requiredEvidence := [value EvidenceType.adapterRecord]
  idempotencyKey := command.workflowId ++ ":store:" ++ command.action ++ ":" ++ command.storeRootUri
  timeoutPolicy := { startToClose := "30s", scheduleToClose := "2m" }
  retryPolicy := { maxAttempts := 3, backoff := "exponential:1s" }
  onFailure := { rescopeAllowed := false, blockerOwnerRole := .processSteward }

/-- Build the single adapter-neutral store activity for a Temporal workflow tick. `requested_at` is taken and not
    used. -/
def buildStoreActivityRequest [UnicodeData] (command : TemporalWorkflowCommand) (_requestedAt : String) :
    Except String ActivityRequest :=
  match parse? (α := StoreAction) command.action with
  | none => .error ("unsupported Temporal workflow command action: " ++ pyRepr command.action)
  | some action => .ok (storeActivityRequest command action)

/-- Planned side effects and optional status returned by the skeleton. -/
structure TemporalWorkflowResult where
  workflowId : String
  runtimeBackend : String := "temporal-compatible"
  scheduledActivities : List ActivityRequest := []
  status : Option WorkflowStatus := none
  notes : List String := []

/-- `DurableWorkflowTemporalSkeleton.plan_run`. -/
def planRun [UnicodeData] (command : TemporalWorkflowCommand) (requestedAt : String) :
    Except String TemporalWorkflowResult := do
  let request ← buildStoreActivityRequest command requestedAt
  return {
    workflowId := command.workflowId
    scheduledActivities := [request]
    notes := ["Skeleton only plans adapter-neutral activity requests; workers own IO and durable side effects."] }

/-- `DurableWorkflowTemporalSkeleton.run`, awaited. -/
def temporalRun [UnicodeData] (command : TemporalWorkflowCommand) : Except String TemporalWorkflowResult :=
  planRun command "temporal-workflow-clock"

/-! ## What is built -/

/-- **Inversion.** A request is built exactly for the actions of the tables. -/
theorem buildStoreActivityRequest_eq_ok [UnicodeData] {command : TemporalWorkflowCommand} {requestedAt : String}
    {request : ActivityRequest} : buildStoreActivityRequest command requestedAt = .ok request ↔
      ∃ action : StoreAction, value action = command.action ∧ request = storeActivityRequest command action := by
  unfold buildStoreActivityRequest
  cases h : parse? (α := StoreAction) command.action with
  | none =>
      refine iff_of_false (by simp) ?_
      rintro ⟨action, haction, -⟩
      rw [← haction, parse?_value] at h
      cases h
  | some action =>
      have haction : value action = command.action := parse?_eq_some.mp h
      constructor
      · intro hbuild
        exact ⟨action, haction, (Except.ok.inj hbuild).symm⟩
      · rintro ⟨other, hother, rfl⟩
        rw [value_inj.mp (hother.trans haction.symm)]

/-- A plan schedules the one store activity of its command, whenever it is asked for. -/
theorem planRun_eq_ok [UnicodeData] {command : TemporalWorkflowCommand} {requestedAt : String}
    {result : TemporalWorkflowResult} (h : planRun command requestedAt = .ok result) :
    ∃ action : StoreAction, value action = command.action
      ∧ result.scheduledActivities = [storeActivityRequest command action] := by
  unfold planRun at h
  cases hbuild : buildStoreActivityRequest command requestedAt with
  | error message =>
      rw [hbuild] at h
      cases h
  | ok request =>
      rw [hbuild] at h
      cases h
      obtain ⟨action, haction, rfl⟩ := buildStoreActivityRequest_eq_ok.mp hbuild
      exact ⟨action, haction, rfl⟩

end WorkflowDrivers
