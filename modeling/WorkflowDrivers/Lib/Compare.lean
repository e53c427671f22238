import Mathlib.Data.List.Forall2

/-!
# `Lib.Compare` — comparing records field by field

Two records are compared over a list of fields. A comparison may answer yes or no, or explain itself with a text
for each field it objects to; `differing`, the fields on which the records differ, is what all of them are about.
A search that explains its failure against one reference is right when the reference is among the records that
are searched (`search_explained`).
-/

namespace Lib

variable {φ ρ ν β : Type}

/-- The fields on which two records differ. -/
def differing [DecidableEq ν] (fields : List φ) (get : ρ → φ → ν) (a b : ρ) : List φ :=
  fields.filter (fun field => get a field ≠ get b field)

section
variable [DecidableEq ν] {fields : List φ} {get : ρ → φ → ν} {a b : ρ}

theorem differing_eq_nil : differing fields get a b = [] ↔ ∀ field ∈ fields, get a field = get b field := by
  simp [differing, List.filter_eq_nil_iff]

/-- **Explanations.** If a field is reported, with one text about it, exactly when the records differ on it, then
    the texts explain the differing fields one by one, in their order. -/
theorem explain_differing {report : φ → List β} {about : φ → β → Prop}
    (hsame : ∀ field, get a field = get b field → report field = [])
    (hdiffer : ∀ field, get a field ≠ get b field → ∃ text, report field = [text] ∧ about field text) :
    List.Forall₂ about (differing fields get a b) (fields.flatMap report) := by
  induction fields with
  | nil => exact List.Forall₂.nil
  | cons field fields ih =>
      rw [List.flatMap_cons]
      by_cases heq : get a field = get b field
      · have hskip : differing (field :: fields) get a b = differing fields get a b := by simp [differing, heq]
        rw [hskip, hsame field heq, List.nil_append]
        exact ih
      · have hkeep : differing (field :: fields) get a b = field :: differing fields get a b := by
          simp [differing, heq]
        obtain ⟨text, htext, habout⟩ := hdiffer field heq
        rw [hkeep, htext, List.singleton_append]
        exact List.Forall₂.cons habout ih

end

/-- **Searching with an explanation.** A search that explains its failure against a reference reports nothing
    exactly when it finds something, provided that the reference is one of the records that are searched. -/
theorem search_explained {found : ρ → Bool} {explanation : List β} {records : List ρ} {reference : ρ}
    (hreference : reference ∈ records) (hexplained : explanation = [] → found reference = true) :
    (if records.any found then [] else explanation) = [] ↔ ∃ record ∈ records, found record = true := by
  rw [← List.any_eq_true]
  by_cases hany : records.any found = true
  · rw [if_pos hany]
    exact iff_of_true rfl hany
  · rw [if_neg hany]
    refine iff_of_false ?_ hany
    intro hnil
    exact hany (List.any_eq_true.mpr ⟨reference, hreference, hexplained hnil⟩)

end Lib
