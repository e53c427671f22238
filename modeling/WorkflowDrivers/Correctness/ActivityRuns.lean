import Mathlib.Data.List.Pairwise
import WorkflowDrivers.Activities.Runner

/-!
# `Correctness.ActivityRuns` — at most one accepted success per idempotency key

A success settles its key: both maps know it, under the signature of the request. What has to be shown is that
nothing unsettles a key (`Settled.keeps`), and that every later call for a settled key is answered from the
maps (`Settled.answered`). Histories follow by induction on the requests.
-/

namespace WorkflowDrivers
open Lib

variable {World : Type}

/-! ## Single calls -/

/-- A call returned `SUCCEEDED`. -/
def Attempt.Succeeded (attempt : Attempt World) : Prop :=
  ∃ envelope, attempt.result = .ok envelope ∧ envelope.status = .succeeded

/-- The two maps know the same keys. -/
def SameKeys (maps : RunnerMaps) : Prop :=
  ∀ key, (maps.completed key).isSome = true ↔ (maps.signatures key).isSome = true

/-- The key of a request is settled: the maps hold its success under its signature. -/
structure Settled (maps : RunnerMaps) (request : ActivityRequest) : Prop where
  completed : ∃ envelope, maps.completed request.idempotencyKey = some envelope
    ∧ envelope.activityId = request.activityId
  signature : maps.signatures request.idempotencyKey = some (requestSignature request)

/-- **The answer to a repeated key**: no handler runs, and the envelope names the first activity; it is a skip
    without evidence for the same request, and a failure for any other. -/
def AnsweredAsDuplicate (first : ActivityRequest) (request : ActivityRequest) (attempt : Attempt World) : Prop :=
  attempt.invoked = false ∧ ∃ envelope, attempt.result = .ok envelope
    ∧ envelope.output = previousActivityOutput first.activityId
    ∧ (SameRequest first request → envelope.status = .skippedDuplicate ∧ envelope.evidenceRefs = [])
    ∧ (¬SameRequest first request → envelope.status = .failed)

theorem AnsweredAsDuplicate.not_succeeded {first request : ActivityRequest} {attempt : Attempt World}
    (h : AnsweredAsDuplicate first request attempt) : ¬attempt.Succeeded := by
  obtain ⟨-, envelope, hresult, -, hsame, hother⟩ := h
  rintro ⟨success, hsuccess, hstatus⟩
  obtain rfl : envelope = success := Except.ok.inj (hresult.symm.trans hsuccess)
  by_cases hrequest : SameRequest first request
  · rw [(hsame hrequest).1] at hstatus
    cases hstatus
  · rw [hother hrequest] at hstatus
    cases hstatus

section
variable {maps : RunnerMaps} {request : ActivityRequest} {attempt : Attempt World}

theorem ownEnvelope_answers (request : ActivityRequest) (status : ActivityStatus) (timestamp : String)
    (output : List (String × Json)) (error : Option String) :
    Answers request (ownEnvelope request status timestamp output error) := ⟨rfl, rfl, rfl, rfl⟩

/-- Every returned envelope carries the identity of the request. -/
theorem RunEffect.answers (h : RunEffect maps request attempt) :
    ∀ envelope, attempt.result = .ok envelope → Answers request envelope := by
  intro envelope hresult
  cases h with
  | keyError hcompleted hsignature => cases hresult
  | raised hcompleted herror => cases hresult
  | collision hcompleted hsignature hne =>
      cases hresult
      exact ownEnvelope_answers ..
  | duplicate hcompleted hsignature =>
      cases hresult
      exact ownEnvelope_answers ..
  | noHandler hcompleted =>
      cases hresult
      exact ownEnvelope_answers ..
  | notSucceeded hcompleted hanswers hstatus =>
      cases hresult
      exact hanswers
  | succeeded hcompleted hanswers hstatus =>
      cases hresult
      exact hanswers

/-- A call that does not succeed leaves both maps as they were. -/
theorem RunEffect.unchanged (h : RunEffect maps request attempt) (hnot : ¬attempt.Succeeded) :
    attempt.maps = maps := by
  cases h with
  | succeeded hcompleted hanswers hstatus => exact absurd ⟨_, rfl, hstatus⟩ hnot
  | keyError | collision | duplicate | noHandler | raised | notSucceeded => rfl

/-- The signature lookup does not fail while the maps know the same keys. -/
theorem RunEffect.no_keyError (h : RunEffect maps request attempt) (hkeys : SameKeys maps) :
    ∀ key, attempt.result ≠ .error (.keyError key) := by
  intro key hresult
  cases h with
  | keyError hcompleted hsignature =>
      have hsome := (hkeys request.idempotencyKey).mp (by rw [hcompleted]; rfl)
      rw [hsignature] at hsome
      exact absurd hsome (by decide)
  | raised hcompleted herror => exact herror key (Except.error.inj hresult)
  | collision | duplicate | noHandler | notSucceeded | succeeded => cases hresult

/-- A call keeps the keys of the two maps the same. -/
theorem RunEffect.sameKeys (h : RunEffect maps request attempt) (hkeys : SameKeys maps) :
    SameKeys attempt.maps := by
  cases h with
  | succeeded hcompleted hanswers hstatus =>
      intro key
      by_cases hkey : key = request.idempotencyKey
      · subst hkey
        simp
      · simpa [Function.update_of_ne hkey] using hkeys key
  | keyError | collision | duplicate | noHandler | raised | notSucceeded => exact hkeys

/-- A success settles the key of its request. -/
theorem RunEffect.settles (h : RunEffect maps request attempt) (hsuccess : attempt.Succeeded) :
    Settled attempt.maps request := by
  obtain ⟨success, hresult, hstatus⟩ := hsuccess
  cases h with
  | succeeded hcompleted hanswers _ =>
      exact
        { completed := ⟨_, Function.update_self .., hanswers.activityId⟩
          signature := Function.update_self .. }
  | keyError hcompleted hsignature => cases hresult
  | raised hcompleted herror => cases hresult
  | collision hcompleted hsignature hne =>
      cases hresult
      cases hstatus
  | duplicate hcompleted hsignature =>
      cases hresult
      cases hstatus
  | noHandler hcompleted =>
      cases hresult
      cases hstatus
  | notSucceeded hcompleted hanswers hnot =>
      cases hresult
      exact absurd hstatus hnot

/-- **Step lemma.** No call unsettles a key. -/
theorem Settled.keeps {first : ActivityRequest} (hsettled : Settled maps first)
    (h : RunEffect maps request attempt) : Settled attempt.maps first := by
  cases h with
  | succeeded hcompleted hanswers hstatus =>
      -- only a key that is not settled yet is written
      obtain ⟨⟨envelope, henvelope, hid⟩, hsignature⟩ := hsettled
      have hkey : first.idempotencyKey ≠ request.idempotencyKey := by
        intro he
        rw [he, hcompleted] at henvelope
        cases henvelope
      exact
        { completed := ⟨envelope, (Function.update_of_ne hkey ..).trans henvelope, hid⟩
          signature := (Function.update_of_ne hkey ..).trans hsignature }
  | keyError | collision | duplicate | noHandler | raised | notSucceeded => exact hsettled

/-- A call for a settled key is answered from the maps. -/
theorem Settled.answered {first : ActivityRequest} (hsettled : Settled maps first)
    (hkey : first.idempotencyKey = request.idempotencyKey) (h : RunEffect maps request attempt) :
    AnsweredAsDuplicate first request attempt := by
  obtain ⟨⟨envelope, henvelope, hid⟩, hsigned⟩ := hsettled
  rw [hkey] at henvelope hsigned
  -- the maps know the key, so only the branches of a remembered success are left
  cases h with
  | keyError hcompleted hsignature =>
      rw [hsignature] at hsigned
      cases hsigned
  | collision hcompleted hsignature hne =>
      obtain rfl := Option.some.inj (hcompleted.symm.trans henvelope)
      obtain rfl := Option.some.inj (hsignature.symm.trans hsigned)
      refine ⟨rfl, _, rfl, by rw [← hid]; rfl, fun hsame => ?_, fun _ => rfl⟩
      exact absurd (requestSignature_eq_iff.mpr hsame).symm hne
  | duplicate hcompleted hsignature =>
      obtain rfl := Option.some.inj (hcompleted.symm.trans henvelope)
      have hsame := requestSignature_eq_iff.mp (Option.some.inj (hsigned.symm.trans hsignature))
      exact ⟨rfl, _, rfl, by rw [← hid]; rfl, fun _ => ⟨rfl, rfl⟩, fun hnot => absurd hsame hnot⟩
  | noHandler hcompleted | raised hcompleted | notSucceeded hcompleted | succeeded hcompleted =>
      rw [hcompleted] at henvelope
      cases henvelope

end

/-! ## Histories -/

/-- What holds of every call of a history by itself. -/
structure CallFacts (call : RunCall World) : Prop where
  answers : ∀ envelope, call.attempt.result = .ok envelope → Answers call.request envelope
  unchanged : ¬call.attempt.Succeeded → call.attempt.maps = call.before
  sameKeysBefore : SameKeys call.before
  sameKeysAfter : SameKeys call.attempt.maps
  noKeyError : ∀ key, call.attempt.result ≠ .error (.keyError key)

section
variable [UnicodeData] (runner : LocalActivityRunner World)

theorem history_facts (requests : List ActivityRequest) (maps : RunnerMaps) (world : World)
    (hkeys : SameKeys maps) : ∀ call ∈ runner.history maps world requests, CallFacts call := by
  induction requests generalizing maps world with
  | nil => exact fun call hcall => absurd hcall List.not_mem_nil
  | cons request rest ih =>
      have heffect := run_effect runner maps world request
      intro call hcall
      rcases List.mem_cons.mp hcall with rfl | hcall
      · exact ⟨heffect.answers, heffect.unchanged, hkeys, heffect.sameKeys hkeys, heffect.no_keyError hkeys⟩
      · exact ih _ _ (heffect.sameKeys hkeys) call hcall

/-- Once a key is settled, every later call for it is answered as a duplicate. -/
theorem history_answered {first : ActivityRequest} (requests : List ActivityRequest) (maps : RunnerMaps)
    (world : World) (hsettled : Settled maps first) :
    ∀ call ∈ runner.history maps world requests, first.idempotencyKey = call.request.idempotencyKey →
      AnsweredAsDuplicate first call.request call.attempt := by
  induction requests generalizing maps world with
  | nil => exact fun call hcall => absurd hcall List.not_mem_nil
  | cons request rest ih =>
      have heffect := run_effect runner maps world request
      intro call hcall hkey
      rcases List.mem_cons.mp hcall with rfl | hcall
      · exact hsettled.answered hkey heffect
      · exact ih _ _ (hsettled.keeps heffect) call hcall hkey

/-- After a success, the calls for its key are duplicates. -/
theorem history_pairwise (requests : List ActivityRequest) (maps : RunnerMaps) (world : World) :
    (runner.history maps world requests).Pairwise (fun earlier later =>
      earlier.attempt.Succeeded → earlier.request.idempotencyKey = later.request.idempotencyKey →
        AnsweredAsDuplicate earlier.request later.request later.attempt) := by
  induction requests generalizing maps world with
  | nil => exact List.Pairwise.nil
  | cons request rest ih =>
      refine List.Pairwise.cons (fun later hlater hsuccess hkey => ?_) (ih _ _)
      -- the first call settles its key, and the rest of the history runs on the maps it left
      have hsettled := (run_effect runner maps world request).settles hsuccess
      exact history_answered runner rest _ _ hsettled later hlater hkey

/-- **At most one accepted success per idempotency key.** In every history of a fresh runner: of two calls for
    one key at most one succeeds; after a success every later call for its key is answered as a duplicate of
    it; and every call keeps the runner's books. -/
theorem runner_at_most_one_success (requests : List ActivityRequest) (world : World) :
    (runner.history {} world requests).Pairwise (fun earlier later =>
        earlier.request.idempotencyKey = later.request.idempotencyKey →
          ¬(earlier.attempt.Succeeded ∧ later.attempt.Succeeded))
    ∧ (runner.history {} world requests).Pairwise (fun earlier later =>
        earlier.attempt.Succeeded → earlier.request.idempotencyKey = later.request.idempotencyKey →
          AnsweredAsDuplicate earlier.request later.request later.attempt)
    ∧ ∀ call ∈ runner.history {} world requests, CallFacts call := by
  have hduplicates := history_pairwise runner requests {} world
  refine ⟨hduplicates.imp ?_, hduplicates, history_facts runner requests {} world ?_⟩
  · intro earlier later hanswered hkey hboth
    exact (hanswered hboth.1 hkey).not_succeeded hboth.2
  · exact fun key => Iff.rfl

end

end WorkflowDrivers
