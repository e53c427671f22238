import WorkflowDrivers.Correctness.ActivityRuns
import WorkflowDrivers.Correctness.KeyIsolation
import WorkflowDrivers.Workflows.TemporalSkeleton

/-!
# `Correctness.StoreKeys` — which commands share an idempotency key

The key of a store activity is the workflow id, the action and the store's address, joined with separators that
may occur inside them. What is proved here is exactly when two commands get one key: one workflow id is the other
one, its separator and action, and a rest, with which the address of the other begins. The runner tells two
requests with one key apart by everything but the activity id, which here is the action alone.
-/

namespace WorkflowDrivers
open Lib StrEnum

/-! ## Splitting a key -/

/-- The part of a key between the workflow id and the last separator. -/
def storeMark (action : StoreAction) : List Char := (":store:" ++ value action).toList

/-- **No part of a mark begins like a mark**: cut anywhere inside, what is left does not agree with the beginning
    of a mark as far as both go. -/
theorem mark_no_overlap (action : StoreAction) : ∀ k < (storeMark action).length, 0 < k →
    ¬(":sto".toList <+: (storeMark action).drop k) ∧ ¬((storeMark action).drop k <+: ":sto".toList) := by
  cases action <;> decide

theorem mark_begins (action : StoreAction) : ":sto".toList <+: storeMark action := by
  cases action <;> decide

/-- Behind equal workflow ids, action and address can be read off. -/
theorem mark_inj {p q : StoreAction} {x y : List Char} (h : storeMark p ++ ':' :: x = storeMark q ++ ':' :: y) :
    p = q ∧ x = y := by
  have hpq : p = q := by
    cases p <;> cases q <;> first | rfl | exact absurd (congrArg (List.take 8) h) (by simp [storeMark, value])
  subst hpq
  exact ⟨rfl, List.cons.inj (List.append_cancel_left h) |>.2⟩

/-- One workflow id goes on inside the other's key: it does so behind the mark. -/
theorem key_extends {p q : StoreAction} {t x y : List Char}
    (h : storeMark p ++ ':' :: x = t ++ (storeMark q ++ ':' :: y)) :
    (t = [] ∧ p = q ∧ x = y) ∨ ∃ r, t = storeMark p ++ r ∧ ':' :: x = r ++ (storeMark q ++ ':' :: y) := by
  rcases List.append_eq_append_iff.mp h with ⟨r, ht, hx⟩ | ⟨r, hmark, hrest⟩
  · exact Or.inr ⟨r, ht, hx⟩
  · cases t with
    | nil =>
        rw [List.nil_append] at h
        exact Or.inl ⟨rfl, mark_inj h⟩
    | cons c t =>
        cases r with
        | nil =>
            -- the id ends where the mark ends
            rw [List.append_nil] at hmark
            exact Or.inr ⟨[], by rw [hmark, List.append_nil], hrest.symm⟩
        | cons e r =>
            -- the id ends inside the mark, so what is left of it begins the other mark
            have hdrop : (storeMark p).drop (c :: t).length = e :: r := by rw [hmark, List.drop_left]
            have hlt : (c :: t).length < (storeMark p).length := by
              rw [hmark]
              simp
            obtain ⟨hnot, hnot'⟩ := mark_no_overlap p _ hlt (Nat.succ_pos _)
            rw [hdrop] at hnot hnot'
            have hbegins : ":sto".toList <+: (e :: r) ++ ':' :: x :=
              hrest ▸ (mark_begins q).trans (List.prefix_append _ _)
            rcases List.prefix_or_prefix_of_prefix hbegins (List.prefix_append (e :: r) _) with hp | hp
            · exact absurd hp hnot
            · exact absurd hp hnot'

/-! ## Commands with one key -/

/-- The workflow id of `b` is the one of `a`, its separator and action, and a rest with which, behind the last
    separator, the address of `a` begins; the address goes on with the separator, action and address of `b`. -/
def KeyExtends (a b : TemporalWorkflowCommand) : Prop :=
  ∃ rest, b.workflowId = a.workflowId ++ ":store:" ++ a.action ++ rest
    ∧ ":" ++ a.storeRootUri = rest ++ ":store:" ++ b.action ++ ":" ++ b.storeRootUri

/-- **Two commands collide.** -/
def KeysCollide (a b : TemporalWorkflowCommand) : Prop := KeyExtends a b ∨ KeyExtends b a

/-- Commands that differ in what a key is made of. -/
def Differ (a b : TemporalWorkflowCommand) : Prop :=
  a.workflowId ≠ b.workflowId ∨ a.storeRootUri ≠ b.storeRootUri ∨ a.action ≠ b.action

section
variable {a b : TemporalWorkflowCommand} {p q : StoreAction}

theorem storeKey_toList (command : TemporalWorkflowCommand) {action : StoreAction}
    (haction : value action = command.action) :
    (storeActivityRequest command action).idempotencyKey.toList
      = command.workflowId.toList ++ (storeMark action ++ ':' :: command.storeRootUri.toList) := by
  simp [storeActivityRequest, storeMark, haction]

theorem keyExtends_iff (hp : value p = a.action) (hq : value q = b.action) :
    KeyExtends a b ↔ ∃ r, b.workflowId.toList = a.workflowId.toList ++ (storeMark p ++ r)
      ∧ ':' :: a.storeRootUri.toList = r ++ (storeMark q ++ ':' :: b.storeRootUri.toList) := by
  constructor
  · rintro ⟨rest, hid, haddress⟩
    have hchars := congrArg String.toList haddress
    refine ⟨rest.toList, ?_, ?_⟩
    · rw [hid, ← hp]
      simp [storeMark]
    · rw [← hq] at hchars
      simpa [storeMark] using hchars
  · rintro ⟨r, hid, haddress⟩
    refine ⟨String.ofList r, String.toList_inj.mp ?_, String.toList_inj.mp ?_⟩
    · rw [hid, ← hp]
      simp [storeMark]
    · rw [← hq]
      simpa [storeMark] using haddress

/-- **When two keys are equal**: the commands collide, or have the three parts in common. -/
theorem storeKeys_eq_iff (hp : value p = a.action) (hq : value q = b.action) :
    (storeActivityRequest a p).idempotencyKey = (storeActivityRequest b q).idempotencyKey ↔
      KeysCollide a b ∨ ¬Differ a b := by
  have hsame : ¬Differ a b ↔ a.workflowId = b.workflowId ∧ a.storeRootUri = b.storeRootUri ∧ p = q := by
    rw [Differ, ← hp, ← hq, not_or, not_or, not_not, not_not, not_not, value_inj]
  rw [← String.toList_inj, storeKey_toList a hp, storeKey_toList b hq, KeysCollide, keyExtends_iff hp hq,
    keyExtends_iff hq hp, hsame]
  constructor
  · intro h
    -- one of the workflow ids is a prefix of the other
    rcases List.append_eq_append_iff.mp h with ⟨t, hid, hrest⟩ | ⟨t, hid, hrest⟩
    · rcases key_extends hrest with ⟨rfl, hpq, hxy⟩ | ⟨r, rfl, haddress⟩
      · rw [List.append_nil, String.toList_inj] at hid
        exact Or.inr ⟨hid.symm, String.toList_inj.mp hxy, hpq⟩
      · exact Or.inl (Or.inl ⟨r, hid, haddress⟩)
    · rcases key_extends hrest with ⟨rfl, hpq, hxy⟩ | ⟨r, rfl, haddress⟩
      · rw [List.append_nil, String.toList_inj] at hid
        exact Or.inr ⟨hid, (String.toList_inj.mp hxy).symm, hpq.symm⟩
      · exact Or.inl (Or.inr ⟨r, hid, haddress⟩)
  · rintro ((⟨r, hid, haddress⟩ | ⟨r, hid, haddress⟩) | ⟨hid, haddress, rfl⟩)
    · rw [hid, haddress]
      simp only [List.append_assoc]
    · rw [hid, haddress]
      simp only [List.append_assoc]
    · rw [hid, haddress]

end

/-! ## One runner for both -/

section
variable [UnicodeData]

/-- A call is answered as a duplicate by the runner itself. -/
def Attempt.Skipped {World : Type} (attempt : Attempt World) : Prop :=
  attempt.invoked = false ∧ ∃ envelope, attempt.result = .ok envelope ∧ envelope.status = .skippedDuplicate

/-- The success of `first` does not make a runner that remembers nothing for the key of `second` skip it. -/
def NeverSkips (first second : ActivityRequest) : Prop :=
  ∀ (World : Type) (runner : LocalActivityRunner World) (maps : RunnerMaps) (world later : World),
    maps.completed second.idempotencyKey = none → (runner.run maps world first).Succeeded →
    ¬(runner.run (runner.run maps world first).maps later second).Skipped

/-- Requests with different keys do not skip each other: nothing is remembered for the second one. -/
theorem neverSkips_of_ne {first second : ActivityRequest} (hne : second.idempotencyKey ≠ first.idempotencyKey) :
    NeverSkips first second := by
  rintro World runner maps world later hfresh - ⟨hinvoked, envelope, hresult, hstatus⟩
  obtain ⟨hcompleted, -⟩ := (run_effect runner maps world first).frame hne
  rw [hfresh] at hcompleted
  have heffect := run_effect runner (runner.run maps world first).maps later second
  generalize runner.run (runner.run maps world first).maps later second = attempt at *
  cases heffect with
  | keyError hknown | collision hknown | duplicate hknown => exact absurd (hcompleted.symm.trans hknown) nofun
  | raised | notSucceeded | succeeded => cases hinvoked
  | noHandler =>
      cases hresult
      cases hstatus

/-- A runner that answers every request with success. -/
def obligingRunner : LocalActivityRunner Unit where
  handlers _ := some fun request world =>
    (.ok { activityId := request.activityId, activityType := request.activityType
           idempotencyKey := request.idempotencyKey, role := request.role, status := .succeeded
           startedAt := "T1", finishedAt := "T1"
           evidenceRefs := request.requiredEvidence.map fun _ => { type := .adapterRecord, uri := "record" } }, world)
  clock world := ("T1", world)

theorem obligingRunner_succeeds (request : ActivityRequest) : (obligingRunner.run {} () request).Succeeded := by
  simp [Attempt.Succeeded, LocalActivityRunner.run, obligingRunner, validateResultMatchesRequest]

/-- Of two requests with one key, the second is never skipped exactly when it is another request. -/
theorem neverSkips_iff_of_eq {first second : ActivityRequest} (hkey : first.idempotencyKey = second.idempotencyKey) :
    NeverSkips first second ↔ ¬SameRequest first second := by
  have hanswered : ∀ {World : Type} (runner : LocalActivityRunner World) (maps : RunnerMaps) (world later : World),
      (runner.run maps world first).Succeeded →
      AnsweredAsDuplicate first second (runner.run (runner.run maps world first).maps later second) :=
    fun runner maps world later hsuccess =>
      ((run_effect runner maps world first).settles hsuccess).answered hkey (run_effect runner _ later second)
  constructor
  · intro hnever hsame
    have hsuccess := obligingRunner_succeeds first
    obtain ⟨hinvoked, envelope, hresult, -, hskipped, -⟩ := hanswered obligingRunner {} () () hsuccess
    exact hnever Unit obligingRunner {} () () rfl hsuccess ⟨hinvoked, envelope, hresult, (hskipped hsame).1⟩
  · rintro hother World runner maps world later - hsuccess ⟨-, skip, hskip, hstatus⟩
    obtain ⟨-, envelope, hresult, -, -, hfailed⟩ := hanswered runner maps world later hsuccess
    obtain rfl : skip = envelope := Except.ok.inj (hskip.symm.trans hresult)
    rw [hfailed hother] at hstatus
    cases hstatus

end

/-- Two store requests with one key differ, but for the activity id, exactly in the action. -/
theorem sameRequest_store_iff {a b : TemporalWorkflowCommand} {p q : StoreAction}
    (hkey : (storeActivityRequest a p).idempotencyKey = (storeActivityRequest b q).idempotencyKey) :
    SameRequest (storeActivityRequest a p) (storeActivityRequest b q) ↔ p = q := by
  have hother : ∀ p q : StoreAction, storeActivityTypes p = storeActivityTypes q → p = q := by
    intro p q
    cases p <;> cases q <;> decide
  constructor
  · intro hsame
    exact (hother q p (congrArg ActivityRequest.activityType hsame)).symm
  · rintro rfl
    simp only [SameRequest, storeActivityRequest] at hkey ⊢
    rw [hkey]

/-- **When the store activities of two commands keep apart.** For commands that differ in workflow id, address or
    action: the keys differ, and the success of one never makes the other a duplicate, exactly when the commands
    do not collide; and a success makes the other a duplicate exactly when they collide with one action. -/
theorem store_keys_apart_iff [UnicodeData] (a b : TemporalWorkflowCommand) (requestedA requestedB : String)
    (first second : ActivityRequest) (ha : buildStoreActivityRequest a requestedA = .ok first)
    (hb : buildStoreActivityRequest b requestedB = .ok second) (hdiffer : Differ a b) :
    ((first.idempotencyKey ≠ second.idempotencyKey ∧ NeverSkips first second) ↔ ¬KeysCollide a b)
    ∧ (NeverSkips first second ↔ ¬(KeysCollide a b ∧ a.action = b.action)) := by
  obtain ⟨p, hp, rfl⟩ := buildStoreActivityRequest_eq_ok.mp ha
  obtain ⟨q, hq, rfl⟩ := buildStoreActivityRequest_eq_ok.mp hb
  have hkeys : (storeActivityRequest a p).idempotencyKey = (storeActivityRequest b q).idempotencyKey ↔
      KeysCollide a b := by
    rw [storeKeys_eq_iff hp hq]
    exact or_iff_left (not_not.mpr hdiffer)
  by_cases hcollide : KeysCollide a b
  · have hkey := hkeys.mpr hcollide
    refine ⟨iff_of_false (fun h => h.1 hkey) (not_not.mpr hcollide), ?_⟩
    rw [neverSkips_iff_of_eq hkey, sameRequest_store_iff hkey, ← hp, ← hq, value_inj]
    simp [hcollide]
  · have hne := fun hkey => hcollide (hkeys.mp hkey)
    have hnever : NeverSkips (storeActivityRequest a p) (storeActivityRequest b q) :=
      neverSkips_of_ne (Ne.symm hne)
    exact ⟨iff_of_true ⟨hne, hnever⟩ hcollide, iff_of_true hnever (fun h => hcollide h.1)⟩

theorem store_keys_apart_iff_two :
    @NeverSkips asciiOnly
      (storeActivityRequest { workflowId := "W-1", storeRootUri := "file:///tmp/W-1" } .replayStatus)
      (storeActivityRequest { workflowId := "W-1", storeRootUri := "file:///tmp/W-1", action := "status" } .status) :=
  (@store_keys_apart_iff asciiOnly { workflowId := "W-1", storeRootUri := "file:///tmp/W-1" }
    { workflowId := "W-1", storeRootUri := "file:///tmp/W-1", action := "status" } "T1" "T1" _ _
    (by rfl) (by rfl) (Or.inr (Or.inr (by decide)))).2.mpr (fun h => absurd h.2 (by decide))

/-- A workflow whose store has the separator in its address. -/
def exampleNestedAddress : TemporalWorkflowCommand where
  workflowId := "W"
  storeRootUri := "db:store:status:S"
  action := "status"

/-- A workflow that has the separator in its id. -/
def exampleNestedId : TemporalWorkflowCommand where
  workflowId := "W:store:status:db"
  storeRootUri := "S"
  action := "status"

/-- Store activities of different commands may share a key, and then the second one is skipped. -/
theorem store_keys_shared :
    ¬∀ (a b : TemporalWorkflowCommand) (first second : ActivityRequest),
      @buildStoreActivityRequest asciiOnly a "T1" = .ok first →
      @buildStoreActivityRequest asciiOnly b "T1" = .ok second →
      Differ a b → first.idempotencyKey ≠ second.idempotencyKey ∧ @NeverSkips asciiOnly first second := by
  intro h
  have hapart := h exampleNestedAddress exampleNestedId (storeActivityRequest exampleNestedAddress .status)
    (storeActivityRequest exampleNestedId .status) (by rfl) (by rfl) (Or.inl (by decide))
  exact hapart.1 (by decide +kernel)

end WorkflowDrivers
