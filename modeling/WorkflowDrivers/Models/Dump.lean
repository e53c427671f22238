import WorkflowDrivers.Models.Decision

/-!
# `Models.Dump` — `model_dump_json` of the persisted records

`Dump` gives a type its JSON form, `model_dump_json` is the text of that form. Fields are dumped in the order
of their declaration, a missing optional value as `null`, an enumeration member by its string. `LawfulDump`
says that nothing is lost: different values have different forms, and none of them is `null`, so that the
form of an optional value can be told apart too.
-/

namespace WorkflowDrivers
open Lib

/-! ## The class -/

class Dump (α : Type) where
  dump : α → Json

export Dump (dump)

/-- A form that loses nothing and is never `null`. -/
class LawfulDump (α : Type) [Dump α] : Prop where
  dump_injective : Function.Injective (dump (α := α))
  dump_ne_null : ∀ a : α, dump a ≠ .null

instance : Dump String := ⟨.str⟩
instance : Dump Bool := ⟨.bool⟩
instance : Dump Int := ⟨fun i => .num (.ofInt i)⟩

instance {α : Type} [Dump α] : Dump (Option α) where
  dump
    | none => .null
    | some a => dump a

instance {α : Type} [Dump α] : Dump (List α) := ⟨fun items => .arr (items.map dump)⟩

instance (priority := low) {α : Type} [StrEnum α] : Dump α := ⟨fun a => .str (StrEnum.value a)⟩

instance : LawfulDump String := ⟨fun _ _ h => Json.str.inj h, fun _ => nofun⟩
instance : LawfulDump Bool := ⟨fun _ _ h => Json.bool.inj h, fun _ => nofun⟩
instance : LawfulDump Int := ⟨fun _ _ h => NumLit.ofInt_injective (Json.num.inj h), fun _ => nofun⟩

instance {α : Type} [Dump α] [LawfulDump α] : LawfulDump (List α) where
  dump_injective _ _ h := List.map_injective_iff.mpr LawfulDump.dump_injective (Json.arr.inj h)
  dump_ne_null _ := nofun

instance {α : Type} [StrEnum α] : LawfulDump α :=
  ⟨fun _ _ h => StrEnum.value_injective (Json.str.inj h), fun _ => nofun⟩

@[simp] theorem dump_inj {α : Type} [Dump α] [LawfulDump α] {a b : α} : dump a = dump b ↔ a = b :=
  LawfulDump.dump_injective.eq_iff

@[simp] theorem dump_option_inj {α : Type} [Dump α] [LawfulDump α] {a b : Option α} :
    dump a = dump b ↔ a = b := by
  constructor
  · intro h
    cases a with
    | none =>
        cases b with
        | none => rfl
        | some b => exact absurd h.symm (LawfulDump.dump_ne_null b)
    | some a =>
        cases b with
        | none => exact absurd h (LawfulDump.dump_ne_null a)
        | some b => exact congrArg some (LawfulDump.dump_injective h)
  · exact fun h => h ▸ rfl

/-! ## The records -/

instance : Dump EvidenceRef where
  dump ref := .obj [("type", dump ref.type), ("uri", dump ref.uri), ("digest", dump ref.digest)]

instance : Dump TimeoutPolicy where
  dump policy :=
    .obj [("start_to_close", dump policy.startToClose), ("schedule_to_close", dump policy.scheduleToClose)]

instance : Dump RetryPolicy where
  dump policy := .obj [("max_attempts", dump policy.maxAttempts), ("backoff", dump policy.backoff)]

instance : Dump ActivityFailurePolicy where
  dump policy :=
    .obj [("rescope_allowed", dump policy.rescopeAllowed), ("blocker_owner_role", dump policy.blockerOwnerRole)]

/-- The fields of a request but the first one, `activity_id`. -/
def ActivityRequest.stableFields (request : ActivityRequest) : List (String × Json) :=
  [("activity_type", dump request.activityType),
   ("role", dump request.role),
   ("purpose", dump request.purpose),
   ("input_refs", dump request.inputRefs),
   ("acceptance_criteria", dump request.acceptanceCriteria),
   ("allowed_side_effects", dump request.allowedSideEffects),
   ("required_evidence", dump request.requiredEvidence),
   ("idempotency_key", dump request.idempotencyKey),
   ("timeout_policy", dump request.timeoutPolicy),
   ("retry_policy", dump request.retryPolicy),
   ("on_failure", dump request.onFailure)]

instance : Dump ActivityRequest where
  dump request := .obj (("activity_id", dump request.activityId) :: request.stableFields)

instance : Dump WaitPolicy where
  dump wait :=
    .obj [("awaited_signal", dump wait.awaitedSignal),
          ("started_at", dump wait.startedAt),
          ("threshold_at", dump wait.thresholdAt),
          ("retry_policy", dump wait.retryPolicy),
          ("threshold_response", dump wait.thresholdResponse)]

instance : Dump ResumeDecisionOption where
  dump option :=
    .obj [("decision", dump option.decision), ("resulting_phase", dump option.resultingPhase),
          ("notes", dump option.notes)]

instance : Dump ResumeTarget where
  dump target :=
    .obj [("blocked_phase", dump target.blockedPhase),
          ("resume_phase_if_unblocked", dump target.resumePhaseIfUnblocked),
          ("resume_activity", dump target.resumeActivity),
          ("decision_options", dump target.decisionOptions)]

instance : Dump Blocker where
  dump blocker :=
    .obj [("reason", dump blocker.reason),
          ("category", dump blocker.category),
          ("owner_role", dump blocker.ownerRole),
          ("required_decision", dump blocker.requiredDecision),
          ("resume_target", dump blocker.resumeTarget),
          ("owner", dump blocker.owner),
          ("intake_outcome_preserved", dump blocker.intakeOutcomePreserved),
          ("evidence_refs", dump blocker.evidenceRefs)]

instance : Dump DriverAuthorizationEvidence where
  dump authorization :=
    .obj [("workflow_decision_id", dump authorization.workflowDecisionId),
          ("activity_id", dump authorization.activityId),
          ("binding_version", dump authorization.bindingVersion),
          ("authorized_by_role", dump authorization.authorizedByRole),
          ("supervisor_intervention", dump authorization.supervisorIntervention)]

instance : Dump WorkflowDecision where
  dump d :=
    .obj [("decision_id", dump d.decisionId),
          ("decided_at", dump d.decidedAt),
          ("from_phase", dump d.fromPhase),
          ("to_phase", dump d.toPhase),
          ("material_progress", dump d.materialProgress),
          ("progress_signal", dump d.progressSignal),
          ("activities_to_schedule", dump d.activitiesToSchedule),
          ("wait_to_start", dump d.waitToStart),
          ("blocker_to_record", dump d.blockerToRecord),
          ("evidence_refs", dump d.evidenceRefs),
          ("driver_authorization", dump d.driverAuthorization),
          ("terminal_outcome", dump d.terminalOutcome)]

instance : Dump WorkflowEvent where
  dump event :=
    .obj [("event_id", dump event.eventId),
          ("type", dump event.type),
          ("emitted_at", dump event.emittedAt),
          ("source_role", dump event.sourceRole),
          ("correlation_id", dump event.correlationId),
          ("causation_id", dump event.causationId),
          ("payload", .obj event.payload)]

/-! ## A request is known by its form -/

theorem dump_evidenceRef (ref : EvidenceRef) :
    dump ref = .obj [("type", dump ref.type), ("uri", dump ref.uri), ("digest", dump ref.digest)] := rfl

instance : LawfulDump EvidenceRef where
  dump_injective := by
    rintro ⟨t, u, d⟩ ⟨t', u', d'⟩ h
    simpa [dump_evidenceRef] using h
  dump_ne_null _ := nofun

theorem dump_timeoutPolicy (policy : TimeoutPolicy) :
    dump policy = .obj [("start_to_close", dump policy.startToClose),
      ("schedule_to_close", dump policy.scheduleToClose)] := rfl

instance : LawfulDump TimeoutPolicy where
  dump_injective := by
    rintro ⟨s, c⟩ ⟨s', c'⟩ h
    simpa [dump_timeoutPolicy] using h
  dump_ne_null _ := nofun

theorem dump_retryPolicy (policy : RetryPolicy) :
    dump policy = .obj [("max_attempts", dump policy.maxAttempts), ("backoff", dump policy.backoff)] := rfl

instance : LawfulDump RetryPolicy where
  dump_injective := by
    rintro ⟨m, b⟩ ⟨m', b'⟩ h
    simpa [dump_retryPolicy] using h
  dump_ne_null _ := nofun

theorem dump_failurePolicy (policy : ActivityFailurePolicy) :
    dump policy = .obj [("rescope_allowed", dump policy.rescopeAllowed),
      ("blocker_owner_role", dump policy.blockerOwnerRole)] := rfl

instance : LawfulDump ActivityFailurePolicy where
  dump_injective := by
    rintro ⟨r, o⟩ ⟨r', o'⟩ h
    simpa [dump_failurePolicy] using h
  dump_ne_null _ := nofun

/-- **The stable fields determine the request but for its activity id.** -/
theorem ActivityRequest.stableFields_inj {a b : ActivityRequest} :
    a.stableFields = b.stableFields ↔ b = { a with activityId := b.activityId } := by
  cases a
  cases b
  simp only [stableFields, List.cons.injEq, Prod.mk.injEq, dump_inj, true_and, and_true,
    ActivityRequest.mk.injEq]
  constructor
  · rintro ⟨rfl, rfl, rfl, rfl, rfl, rfl, rfl, rfl, rfl, rfl, rfl⟩
    exact ⟨rfl, rfl, rfl, rfl, rfl, rfl, rfl, rfl, rfl, rfl, rfl⟩
  · rintro ⟨rfl, rfl, rfl, rfl, rfl, rfl, rfl, rfl, rfl, rfl, rfl⟩
    exact ⟨rfl, rfl, rfl, rfl, rfl, rfl, rfl, rfl, rfl, rfl, rfl⟩

end WorkflowDrivers
