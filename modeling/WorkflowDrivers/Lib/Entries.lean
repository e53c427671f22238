import WorkflowDrivers.Lib.Text

/-!
# `Lib.Entries` — lists up to order and repetition

Two lists have the same entries when every entry of one has its like in the other; what counts as alike is a
parameter, so that entries may hold such lists themselves. A test over the entries, an existential or a universal
one, does not tell two such lists apart, nor does the test for emptiness; and a sorted difference is the same.
-/

namespace Lib

variable {α β : Type}

/-- Each entry of either list has its like in the other. -/
structure SameEntries (alike : α → β → Prop) (as : List α) (bs : List β) : Prop where
  forth : ∀ a ∈ as, ∃ b ∈ bs, alike a b
  back : ∀ b ∈ bs, ∃ a ∈ as, alike a b

/-- The same entries, in any order and any number of times. -/
abbrev SameElements (as bs : List α) : Prop := SameEntries Eq as bs

theorem sameEntries_refl {alike : α → α → Prop} (h : ∀ a, alike a a) (as : List α) : SameEntries alike as as :=
  ⟨fun a ha => ⟨a, ha, h a⟩, fun a ha => ⟨a, ha, h a⟩⟩

section
variable {alike : α → β → Prop} {as : List α} {bs : List β} {p : α → Prop} {q : β → Prop}

theorem SameEntries.nil_iff (h : SameEntries alike as bs) : as = [] ↔ bs = [] := by
  simp only [List.eq_nil_iff_forall_not_mem]
  constructor
  · intro has b hb
    obtain ⟨a, ha, -⟩ := h.back b hb
    exact has a ha
  · intro hbs a ha
    obtain ⟨b, hb, -⟩ := h.forth a ha
    exact hbs b hb

/-- **Existential tests** do not depend on order and repetition. -/
theorem SameEntries.exists_iff (h : SameEntries alike as bs) (hpq : ∀ a b, alike a b → (p a ↔ q b)) :
    (∃ a ∈ as, p a) ↔ ∃ b ∈ bs, q b := by
  constructor
  · rintro ⟨a, ha, hp⟩
    obtain ⟨b, hb, hab⟩ := h.forth a ha
    exact ⟨b, hb, (hpq a b hab).mp hp⟩
  · rintro ⟨b, hb, hq⟩
    obtain ⟨a, ha, hab⟩ := h.back b hb
    exact ⟨a, ha, (hpq a b hab).mpr hq⟩

/-- **Universal tests** do not either. -/
theorem SameEntries.forall_iff (h : SameEntries alike as bs) (hpq : ∀ a b, alike a b → (p a ↔ q b)) :
    (∀ a ∈ as, p a) ↔ ∀ b ∈ bs, q b := by
  constructor
  · intro hall b hb
    obtain ⟨a, ha, hab⟩ := h.back b hb
    exact (hpq a b hab).mp (hall a ha)
  · intro hall a ha
    obtain ⟨b, hb, hab⟩ := h.forth a ha
    exact (hpq a b hab).mpr (hall b hb)

theorem SameEntries.isEmpty_eq (h : SameEntries alike as bs) : as.isEmpty = bs.isEmpty := by
  rw [Bool.eq_iff_iff, List.isEmpty_iff, List.isEmpty_iff]
  exact h.nil_iff

theorem SameEntries.any_eq {f : α → Bool} {g : β → Bool} (h : SameEntries alike as bs)
    (hfg : ∀ a b, alike a b → f a = g b) : as.any f = bs.any g := by
  rw [Bool.eq_iff_iff, List.any_eq_true, List.any_eq_true]
  apply h.exists_iff
  intro a b hab
  rw [hfg a b hab]

theorem SameEntries.append {as' : List α} {bs' : List β} (h : SameEntries alike as bs)
    (h' : SameEntries alike as' bs') : SameEntries alike (as ++ as') (bs ++ bs') := by
  constructor
  · intro a ha
    rcases List.mem_append.mp ha with ha | ha
    · obtain ⟨b, hb, hab⟩ := h.forth a ha
      exact ⟨b, List.mem_append_left _ hb, hab⟩
    · obtain ⟨b, hb, hab⟩ := h'.forth a ha
      exact ⟨b, List.mem_append_right _ hb, hab⟩
  · intro b hb
    rcases List.mem_append.mp hb with hb | hb
    · obtain ⟨a, ha, hab⟩ := h.back b hb
      exact ⟨a, List.mem_append_left _ ha, hab⟩
    · obtain ⟨a, ha, hab⟩ := h'.back b hb
      exact ⟨a, List.mem_append_right _ ha, hab⟩

/-- Two options that are alike are both empty or both filled. -/
theorem rel_cases {x : Option α} {y : Option β} (h : Option.Rel alike x y) :
    (x = none ∧ y = none) ∨ ∃ a b, x = some a ∧ y = some b ∧ alike a b := by
  cases h with
  | none => exact Or.inl ⟨rfl, rfl⟩
  | some hab => exact Or.inr ⟨_, _, rfl, rfl, hab⟩

theorem rel_exists_iff {x : Option α} {y : Option β} (h : Option.Rel alike x y)
    (hpq : ∀ a b, alike a b → (p a ↔ q b)) : (∃ a ∈ x, p a) ↔ ∃ b ∈ y, q b := by
  rcases rel_cases h with ⟨rfl, rfl⟩ | ⟨a, b, rfl, rfl, hab⟩
  · simp
  · simpa using hpq a b hab

/-- An optional entry, read as a list. -/
theorem sameEntries_toList {x : Option α} {y : Option β} (h : Option.Rel alike x y) :
    SameEntries alike x.toList y.toList := by
  rcases rel_cases h with ⟨rfl, rfl⟩ | ⟨a, b, rfl, rfl, hab⟩
  · exact ⟨by simp, by simp⟩
  · exact ⟨by simpa using hab, by simpa using hab⟩

end

theorem SameEntries.mem_iff {as bs : List α} (h : SameElements as bs) (x : α) : x ∈ as ↔ x ∈ bs := by
  have hexists : (∃ a ∈ as, a = x) ↔ ∃ b ∈ bs, b = x :=
    h.exists_iff fun a b hab => by rw [hab]
  simpa using hexists

/-- **The sorted difference** only depends on the entries. -/
theorem sortedDifference_congr {left left' right right' : List String} (hleft : SameElements left left')
    (hright : SameElements right right') : sortedDifference left right = sortedDifference left' right' := by
  unfold sortedDifference
  have hperm : ((left.filter (fun s => !right.contains s)).dedup).Perm
      ((left'.filter (fun s => !right'.contains s)).dedup) := by
    rw [List.perm_ext_iff_of_nodup (List.nodup_dedup _) (List.nodup_dedup _)]
    intro s
    simp [hleft.mem_iff s, hright.mem_iff s]
  -- two sorted lists with the same entries are equal
  apply List.Perm.eq_of_pairwise' (r := (· ≤ ·)) (List.pairwise_insertionSort _ _) (List.pairwise_insertionSort _ _)
  exact (List.perm_insertionSort _ _).trans (hperm.trans (List.perm_insertionSort _ _).symm)

/-! ## More entries -/

/-- **Entries are kept**: each has its like on the other side, which may hold more. The sides are lists or options. -/
def KeepsEntries {γ δ : Type} [Membership α γ] [Membership β δ] (alike : α → β → Prop) (as : γ) (bs : δ) : Prop :=
  ∀ a ∈ as, ∃ b ∈ bs, alike a b

theorem keepsEntries_of_rel {alike : α → β → Prop} {x : Option α} {y : Option β} (h : Option.Rel alike x y) :
    KeepsEntries alike x y := by
  intro a ha
  rcases rel_cases h with ⟨rfl, -⟩ | ⟨a', b, rfl, rfl, hab⟩
  · cases ha
  · obtain rfl : a' = a := Option.some.inj ha
    exact ⟨b, rfl, hab⟩

/-- What two lists share, longer lists share. -/
theorem shared_mono {as as' bs bs' : List α} (has : as ⊆ as') (hbs : bs ⊆ bs') (h : ∃ x ∈ as, x ∈ bs) :
    ∃ x ∈ as', x ∈ bs' := by
  obtain ⟨x, hleft, hright⟩ := h
  exact ⟨x, has hleft, hbs hright⟩

theorem ne_nil_of_subset {as bs : List α} (h : as ⊆ bs) (hne : as ≠ []) : bs ≠ [] := by
  rintro rfl
  exact hne (List.eq_nil_of_subset_nil h)

end Lib
