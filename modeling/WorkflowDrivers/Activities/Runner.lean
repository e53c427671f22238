import Mathlib.Logic.Function.Basic
import WorkflowDrivers.Models.Dump

/-!
# `Activities.Runner` — the local activity runner

Handlers and clock are arbitrary: they act on a world of any type, may answer with any envelope, and may raise.
The runner itself owns two maps and nothing else. `run` is translated branch by branch; beside the result it
records whether a handler was called, which the source does not return but every statement about side effects
is about. `RunEffect` is the inversion of `run`: what one call can do to maps, handler and result.
-/

namespace WorkflowDrivers
open Lib StrEnum

/-! ## Envelopes -/

/-- `ActivityResultEnvelope.enforce_result_shape`. -/
def ActivityResultEnvelope.enforceResultShape (envelope : ActivityResultEnvelope) :
    Except String ActivityResultEnvelope :=
  if envelope.status = .failed ∧ (envelope.error = none ∨ envelope.error = some "") then
    .error "failed activity results require error"
  else if envelope.status ≠ .failed ∧ envelope.error ≠ none then
    .error "only failed activity results may carry error"
  else if envelope.status = .skippedDuplicate ∧ envelope.evidenceRefs ≠ [] then
    .error "duplicate-skip results must not claim new evidence"
  else .ok envelope

/-- An envelope the runner writes itself: the request's identity, one timestamp, no evidence. -/
def ownEnvelope (request : ActivityRequest) (status : ActivityStatus) (timestamp : String)
    (output : List (String × Json)) (error : Option String) : ActivityResultEnvelope where
  activityId := request.activityId
  activityType := request.activityType
  idempotencyKey := request.idempotencyKey
  role := request.role
  status
  startedAt := timestamp
  finishedAt := timestamp
  output
  error

/-! ## The runner -/

/-- Why a call raised. -/
inductive RunError
  | keyError (key : String)
  | handlerRaised (message : String)
  | valueError (message : String)
  deriving DecidableEq

/-- A handler acts on the world and returns an envelope or raises. It leaves the request as it is: `run` signs the
    request object once the handler is done, and is handed here the one it got. -/
abbrev ActivityHandler (World : Type) :=
  ActivityRequest → World → Except String ActivityResultEnvelope × World

structure LocalActivityRunner (World : Type) where
  handlers : String → Option (ActivityHandler World)
  clock : World → String × World

/-- `_completed_by_idempotency_key` and `_request_signature_by_idempotency_key`. -/
structure RunnerMaps where
  completed : String → Option ActivityResultEnvelope := fun _ => none
  signatures : String → Option String := fun _ => none

/-- What a call leaves behind. -/
structure Attempt (World : Type) where
  result : Except RunError ActivityResultEnvelope
  maps : RunnerMaps
  world : World
  invoked : Bool := false

/-- `_request_signature`: the text of the request without its activity id. -/
def requestSignature (request : ActivityRequest) : String := (Json.obj request.stableFields).dumps

/-- `_validate_result_matches_request`. -/
def validateResultMatchesRequest (request : ActivityRequest) (result : ActivityResultEnvelope) :
    Except String Unit :=
  if result.activityId ≠ request.activityId then
    .error "activity result activity_id does not match request"
  else if result.activityType ≠ request.activityType then
    .error "activity result activity_type does not match request"
  else if result.idempotencyKey ≠ request.idempotencyKey then
    .error "activity result idempotency_key does not match request"
  else if result.role ≠ request.role then .error "activity result role does not match request"
  else if result.status = .succeeded ∧ result.evidenceRefs.length < request.requiredEvidence.length then
    .error "successful activity result is missing required evidence refs"
  else .ok ()

/-- The output of a duplicate's envelope. -/
def previousActivityOutput (activityId : String) : List (String × Json) :=
  [("previous_activity_id", .str activityId)]

variable {World : Type}

def LocalActivityRunner.run [UnicodeData] (runner : LocalActivityRunner World) (maps : RunnerMaps)
    (world : World) (request : ActivityRequest) : Attempt World :=
  match maps.completed request.idempotencyKey with
  | some previous =>
      -- a success is remembered for the key: whatever comes, no handler is called
      let (timestamp, world) := runner.clock world
      match maps.signatures request.idempotencyKey with
      | none => { result := .error (.keyError request.idempotencyKey), maps, world }
      | some previousSignature =>
          if requestSignature request ≠ previousSignature then
            { result := .ok (ownEnvelope request .failed timestamp (previousActivityOutput previous.activityId)
                (some ("idempotency key collision: request does not match "
                  ++ "previously completed activity")))
              maps, world }
          else
            { result := .ok (ownEnvelope request .skippedDuplicate timestamp
                (previousActivityOutput previous.activityId) none)
              maps, world }
  | none =>
      match runner.handlers request.activityType with
      | none =>
          let (timestamp, world) := runner.clock world
          { result := .ok (ownEnvelope request .failed timestamp []
              (some ("no local activity handler registered for " ++ pyRepr request.activityType)))
            maps, world }
      | some handler =>
          match handler request world with
          | (.error message, world) => { result := .error (.handlerRaised message), maps, world, invoked := true }
          | (.ok result, world) =>
              match validateResultMatchesRequest request result with
              | .error message => { result := .error (.valueError message), maps, world, invoked := true }
              | .ok () =>
                  -- only a success is remembered
                  let maps :=
                    if result.status = .succeeded then
                      { completed := Function.update maps.completed request.idempotencyKey (some result)
                        signatures := Function.update maps.signatures request.idempotencyKey
                          (some (requestSignature request)) }
                    else maps
                  { result := .ok result, maps, world, invoked := true }

/-! ## Histories -/

/-- One call of a history: the request, the maps it found, and what it left. -/
structure RunCall (World : Type) where
  request : ActivityRequest
  before : RunnerMaps
  attempt : Attempt World

/-- The calls for a sequence of requests, each on the maps and the world the one before left. -/
def LocalActivityRunner.history [UnicodeData] (runner : LocalActivityRunner World) :
    RunnerMaps → World → List ActivityRequest → List (RunCall World)
  | _, _, [] => []
  | maps, world, request :: rest =>
      let attempt := runner.run maps world request
      { request, before := maps, attempt } :: history runner attempt.maps attempt.world rest

/-! ## What one call can do -/

/-- Two requests that agree in every field but the activity id. -/
def SameRequest (a b : ActivityRequest) : Prop := b = { a with activityId := b.activityId }

theorem requestSignature_eq_iff {a b : ActivityRequest} :
    requestSignature a = requestSignature b ↔ SameRequest a b := by
  unfold requestSignature SameRequest
  rw [Json.dumps_injective.eq_iff, Json.obj.injEq, ActivityRequest.stableFields_inj]

theorem validateResultMatchesRequest_ok {request : ActivityRequest} {result : ActivityResultEnvelope}
    (h : validateResultMatchesRequest request result = .ok ()) :
    result.activityId = request.activityId ∧ result.activityType = request.activityType
      ∧ result.idempotencyKey = request.idempotencyKey ∧ result.role = request.role := by
  unfold validateResultMatchesRequest at h
  split_ifs at h with hid htype hkey hrole
  exact ⟨not_not.mp hid, not_not.mp htype, not_not.mp hkey, not_not.mp hrole⟩

/-- An envelope that answers a request. -/
structure Answers (request : ActivityRequest) (envelope : ActivityResultEnvelope) : Prop where
  activityId : envelope.activityId = request.activityId
  activityType : envelope.activityType = request.activityType
  idempotencyKey : envelope.idempotencyKey = request.idempotencyKey
  role : envelope.role = request.role

/-- The envelopes the runner writes itself have the shape the model asks for. -/
theorem ownEnvelope_shape (request : ActivityRequest) (timestamp : String) (output : List (String × Json)) :
    (ownEnvelope request .skippedDuplicate timestamp output none).enforceResultShape
        = .ok (ownEnvelope request .skippedDuplicate timestamp output none)
      ∧ ∀ error, error ≠ "" → (ownEnvelope request .failed timestamp output (some error)).enforceResultShape
        = .ok (ownEnvelope request .failed timestamp output (some error)) := by
  constructor
  · rfl
  · intro error herror
    simp [ActivityResultEnvelope.enforceResultShape, ownEnvelope, herror]

/-- **The effects of one call**, by what the maps know of its key. -/
inductive RunEffect (maps : RunnerMaps) (request : ActivityRequest) : Attempt World → Prop
  | keyError {previous : ActivityResultEnvelope} {world : World}
      (hcompleted : maps.completed request.idempotencyKey = some previous)
      (hsignature : maps.signatures request.idempotencyKey = none) :
      RunEffect maps request { result := .error (.keyError request.idempotencyKey), maps, world }
  | collision {previous : ActivityResultEnvelope} {signature timestamp error : String} {world : World}
      (hcompleted : maps.completed request.idempotencyKey = some previous)
      (hsignature : maps.signatures request.idempotencyKey = some signature)
      (hne : requestSignature request ≠ signature) :
      RunEffect maps request
        { result := .ok (ownEnvelope request .failed timestamp (previousActivityOutput previous.activityId)
            (some error))
          maps, world }
  | duplicate {previous : ActivityResultEnvelope} {timestamp : String} {world : World}
      (hcompleted : maps.completed request.idempotencyKey = some previous)
      (hsignature : maps.signatures request.idempotencyKey = some (requestSignature request)) :
      RunEffect maps request
        { result := .ok (ownEnvelope request .skippedDuplicate timestamp
            (previousActivityOutput previous.activityId) none)
          maps, world }
  | noHandler {timestamp error : String} {world : World}
      (hcompleted : maps.completed request.idempotencyKey = none) :
      RunEffect maps request
        { result := .ok (ownEnvelope request .failed timestamp [] (some error)), maps, world }
  | raised {error : RunError} {world : World} (hcompleted : maps.completed request.idempotencyKey = none)
      (herror : ∀ key, error ≠ .keyError key) :
      RunEffect maps request { result := .error error, maps, world, invoked := true }
  | notSucceeded {envelope : ActivityResultEnvelope} {world : World}
      (hcompleted : maps.completed request.idempotencyKey = none) (hanswers : Answers request envelope)
      (hstatus : envelope.status ≠ .succeeded) :
      RunEffect maps request { result := .ok envelope, maps, world, invoked := true }
  | succeeded {envelope : ActivityResultEnvelope} {world : World}
      (hcompleted : maps.completed request.idempotencyKey = none) (hanswers : Answers request envelope)
      (hstatus : envelope.status = .succeeded) :
      RunEffect maps request
        { result := .ok envelope
          maps :=
            { completed := Function.update maps.completed request.idempotencyKey (some envelope)
              signatures := Function.update maps.signatures request.idempotencyKey
                (some (requestSignature request)) }
          world, invoked := true }

/-- **Inversion.** Every call has one of the effects. -/
theorem run_effect [UnicodeData] (runner : LocalActivityRunner World) (maps : RunnerMaps) (world : World)
    (request : ActivityRequest) : RunEffect maps request (runner.run maps world request) := by
  unfold LocalActivityRunner.run
  cases hcompleted : maps.completed request.idempotencyKey with
  | some previous =>
      simp only
      cases hsignature : maps.signatures request.idempotencyKey with
      | none => exact .keyError hcompleted hsignature
      | some signature =>
          simp only
          split_ifs with hne
          · exact .collision hcompleted hsignature hne
          · rw [← not_not.mp hne] at hsignature
            exact .duplicate hcompleted hsignature
  | none =>
      simp only
      cases runner.handlers request.activityType with
      | none => exact .noHandler hcompleted
      | some handler =>
          -- the handler raises, or its envelope is checked, and only a checked success reaches the maps
          simp only
          rcases handler request world with ⟨message | result, world'⟩
          · exact .raised hcompleted nofun
          · simp only
            cases hvalid : validateResultMatchesRequest request result with
            | error message => exact .raised hcompleted nofun
            | ok u =>
                obtain ⟨hid, htype, hkey, hrole⟩ := validateResultMatchesRequest_ok hvalid
                have hanswers : Answers request result := ⟨hid, htype, hkey, hrole⟩
                simp only
                split_ifs with hstatus
                · exact .succeeded hcompleted hanswers hstatus
                · exact .notSucceeded hcompleted hanswers hstatus

end WorkflowDrivers
