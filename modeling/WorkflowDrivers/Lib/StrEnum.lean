import Mathlib.Data.List.Basic

/-!
# `Lib.StrEnum` — enumerations that are persisted by a string value

A string enumeration is a finite type whose members are written to disk, compared and looked up by a
string. The class records the members, their strings, and the one fact every client needs: searching the
members for a member's own string finds that member again. Injectivity of the strings and the
specification of the parser both follow from it, once and for every enumeration.
-/

namespace Lib

/-- A finite type whose members are named by pairwise different strings. `find_value` is the
    well-formedness of the table: the string of `a` belongs to `a` and to no earlier member. -/
class StrEnum (α : Type) where
  members : List α
  value : α → String
  find_value : ∀ a, members.find? (fun b => value b == value a) = some a

namespace StrEnum

variable {α : Type} [StrEnum α]

/-- The member a string names, if any. -/
def parse? (s : String) : Option α := (members (α := α)).find? (fun a => value a == s)

@[simp] theorem parse?_value (a : α) : parse? (value a) = some a := find_value a

/-- Two members with one string are one member. -/
theorem value_injective : Function.Injective (value (α := α)) := by
  intro a b h
  have ha : parse? (value a) = some a := parse?_value a
  rw [h, parse?_value] at ha
  exact (Option.some.inj ha).symm

@[simp] theorem value_inj {a b : α} : value a = value b ↔ a = b :=
  ⟨fun h => value_injective h, fun h => h ▸ rfl⟩

/-- **The parser's specification**: a string parses to `a` exactly when it is the string of `a`. -/
theorem parse?_eq_some {s : String} {a : α} : parse? s = some a ↔ value a = s := by
  constructor
  · intro h
    simpa using List.find?_some h
  · intro h
    rw [← h, parse?_value]

/-- Every member is listed. -/
theorem mem_members (a : α) : a ∈ members := List.mem_of_find?_eq_some (find_value a)

/-- A string parses exactly when it is the string of a member. -/
theorem parse?_isSome {s : String} : (parse? (α := α) s).isSome = true ↔ s ∈ members.map (value (α := α)) := by
  rw [Option.isSome_iff_exists, List.mem_map]
  constructor
  · rintro ⟨a, h⟩
    exact ⟨a, mem_members a, parse?_eq_some.mp h⟩
  · rintro ⟨a, -, h⟩
    exact ⟨a, parse?_eq_some.mpr h⟩

end StrEnum
end Lib
