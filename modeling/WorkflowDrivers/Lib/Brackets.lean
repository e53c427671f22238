import WorkflowDrivers.Lib.Json
import WorkflowDrivers.Lib.Text

/-!
# `Lib.Brackets` — reading a JSON text for its brackets and quotes alone

`Scan` is how far a text has got: how many brackets are open, and whether it is inside a string, behind a backslash,
or behind a value that was closed. It knows less than a parser, and every text a parser accepts leaves it where a
value may end (`Accepts`). What a writer cut short, and what was written behind it, does not:

* `scan_render` — a value that is written whole leaves a scan where it was, behind a value;
* `scan_cut` — an object cut short leaves a bracket open;
* `not_accepts_glued` — and no object written behind it closes it.
-/

namespace Lib

/-- What a scan knows of the text behind it; the number is that of the open brackets. -/
inductive Scan
  | outside (depth : Nat)
  | inString (depth : Nat)
  | escaped (depth : Nat)
  | closed (depth : Nat)
  | broken
  deriving DecidableEq

namespace Scan

/-- A closing bracket. -/
def leave : Nat → Scan
  | 0 => .broken
  | depth + 1 => .closed depth

/-- One character more. -/
def step : Scan → Char → Scan
  | .outside depth, c =>
      if c = '{' ∨ c = '[' then .outside (depth + 1)
      else if c = '}' ∨ c = ']' then leave depth
      else if c = '"' then .inString depth
      else .outside depth
  | .inString depth, c =>
      if c = '"' then .closed depth
      else if c = '\\' then .escaped depth
      else .inString depth
  | .escaped depth, _ => .inString depth
  -- behind a closed value comes white space, a closing bracket, or inside brackets what separates values
  | .closed depth, c =>
      if c = '}' ∨ c = ']' then leave depth
      else if depth ≠ 0 ∧ (c = ',' ∨ c = ':') then .outside depth
      else if isSpace c then .closed depth
      else .broken
  | .broken, _ => .broken

/-- A text more. -/
def along (s : Scan) (text : List Char) : Scan := text.foldl step s

@[simp] theorem along_nil (s : Scan) : s.along [] = s := rfl

@[simp] theorem along_cons (s : Scan) (c : Char) (text : List Char) : s.along (c :: text) = (s.step c).along text := rfl

@[simp] theorem along_append (s : Scan) (a b : List Char) : s.along (a ++ b) = (s.along a).along b :=
  List.foldl_append ..

/-- Where a value may end: no bracket or string is open. -/
def Accepts (s : Scan) : Prop := s = .outside 0 ∨ s = .closed 0

instance (s : Scan) : Decidable s.Accepts := inferInstanceAs (Decidable (_ ∨ _))

theorem along_broken (text : List Char) : Scan.broken.along text = .broken := by
  induction text with
  | nil => rfl
  | cons c text ih => exact ih

/-! ## What is written whole -/

/-- The characters of a string stay inside it. -/
theorem along_escapeChar (depth : Nat) (c : Char) : (Scan.inString depth).along (escapeChar c) = .inString depth := by
  unfold escapeChar
  split_ifs with hquote hbackslash hcontrol
  · rfl
  · rfl
  · have hescapes : ∀ n < 0x20, (Scan.inString depth).along (escapeControl n) = .inString depth := by
      intro n hn
      interval_cases n <;> rfl
    exact hescapes c.toNat hcontrol
  · simp [step, hquote, hbackslash]

theorem along_escape (depth : Nat) (s : List Char) : (Scan.inString depth).along (escape s) = .inString depth := by
  induction s with
  | nil => rfl
  | cons c s ih =>
      rw [escape, List.flatMap_cons, along_append, along_escapeChar]
      exact ih

theorem along_renderString (depth : Nat) (s : String) :
    (Scan.outside depth).along (renderString s) = .closed depth := by
  have hopens : (Scan.outside depth).step '"' = .inString depth := rfl
  rw [renderString, along_cons, hopens, along_append, along_escape]
  rfl

/-- A number stays outside. -/
theorem along_numChars (depth : Nat) {text : List Char} (h : ∀ c ∈ text, isNumChar c = true) :
    (Scan.outside depth).along text = .outside depth := by
  induction text with
  | nil => rfl
  | cons c text ih =>
      have hc := h c List.mem_cons_self
      have hne : ∀ special, isNumChar special = false → c ≠ special := by
        rintro special hspecial rfl
        rw [hspecial] at hc
        cases hc
      have hstep : (Scan.outside depth).step c = .outside depth := by
        simp [step, hne '{' (by decide), hne '[' (by decide), hne '}' (by decide), hne ']' (by decide),
          hne '"' (by decide)]
      rw [along_cons, hstep]
      exact ih fun d hd => h d (List.mem_cons_of_mem _ hd)

/-- Behind a value, or where one may begin. -/
def Between (depth : Nat) (s : Scan) : Prop := s = .outside depth ∨ s = .closed depth

/-- A bracket is closed behind its items. -/
theorem Between.close {depth : Nat} {s : Scan} (h : Between (depth + 1) s) :
    s.step '}' = .closed depth ∧ s.step ']' = .closed depth := by
  rcases h with rfl | rfl
  · exact ⟨rfl, rfl⟩
  · exact ⟨rfl, rfl⟩

/-- A comma begins the next item. -/
theorem Between.comma {depth : Nat} {s : Scan} (h : Between (depth + 1) s) : s.step ',' = .outside (depth + 1) := by
  rcases h with rfl | rfl
  · rfl
  · rfl

mutual

/-- **A value that is written whole leaves a scan where it was**, behind a value. -/
theorem scan_render (j : Json) (depth : Nat) : Between depth ((Scan.outside depth).along j.render) := by
  cases j with
  | null => exact Or.inl rfl
  | bool b =>
      cases b
      · exact Or.inl rfl
      · exact Or.inl rfl
  | num n =>
      rw [Json.render, along_numChars depth n.chars]
      exact Or.inl rfl
  | str s =>
      rw [Json.render, along_renderString]
      exact Or.inr rfl
  | arr items =>
      have hopens : (Scan.outside depth).step '[' = .outside (depth + 1) := rfl
      rw [Json.render, along_cons, hopens, along_append]
      exact Or.inr (scan_items items depth).2.close.2
  | obj fields =>
      have hopens : (Scan.outside depth).step '{' = .outside (depth + 1) := rfl
      rw [Json.render, along_cons, hopens, along_append]
      exact Or.inr (scan_fields fields depth).2.close.1

/-- The items of an array, with their commas and without the first one. -/
theorem scan_items (items : List Json) (depth : Nat) :
    (∀ s, Between (depth + 1) s → Between (depth + 1) (s.along (Json.renderItems items)))
    ∧ Between (depth + 1) ((Scan.outside (depth + 1)).along (Json.renderItems items).tail) := by
  cases items with
  | nil => exact ⟨fun s hs => hs, Or.inl rfl⟩
  | cons j rest =>
      have htail : Between (depth + 1) ((Scan.outside (depth + 1)).along (j.render ++ Json.renderItems rest)) := by
        rw [along_append]
        exact (scan_items rest depth).1 _ (scan_render j (depth + 1))
      refine ⟨?_, htail⟩
      intro s hs
      rw [Json.renderItems, along_cons, hs.comma]
      exact htail

/-- The fields of an object, likewise. -/
theorem scan_fields (fields : List (String × Json)) (depth : Nat) :
    (∀ s, Between (depth + 1) s → Between (depth + 1) (s.along (Json.renderFields fields)))
    ∧ Between (depth + 1) ((Scan.outside (depth + 1)).along (Json.renderFields fields).tail) := by
  cases fields with
  | nil => exact ⟨fun s hs => hs, Or.inl rfl⟩
  | cons field rest =>
      obtain ⟨k, v⟩ := field
      have hcolon : (Scan.closed (depth + 1)).step ':' = .outside (depth + 1) := rfl
      have htail : Between (depth + 1)
          ((Scan.outside (depth + 1)).along (renderString k ++ (':' :: (v.render ++ Json.renderFields rest)))) := by
        rw [along_append, along_renderString, along_cons, hcolon, along_append]
        exact (scan_fields rest depth).1 _ (scan_render v (depth + 1))
      refine ⟨?_, htail⟩
      intro s hs
      rw [Json.renderFields, along_cons, hs.comma]
      exact htail

end

/-- An object that is written whole is closed. -/
theorem along_object (fields : List (String × Json)) (depth : Nat) :
    (Scan.outside depth).along (Json.obj fields).render = .closed depth := by
  have hopens : (Scan.outside depth).step '{' = .outside (depth + 1) := rfl
  rw [Json.render, along_cons, hopens, along_append]
  exact (scan_fields fields depth).2.close.1

/-! ## What is cut short -/

/-- Not before the first bracket: what is read outside or in a string is read inside brackets. -/
def Begun : Scan → Prop
  | .outside depth | .inString depth | .escaped depth => depth ≠ 0
  | .closed _ | .broken => True

theorem begun_leave (depth : Nat) : Begun (leave depth) := by
  cases depth with
  | zero => trivial
  | succ depth => trivial

/-- **Step lemma.** A scan does not go back before the first bracket. -/
theorem Begun.step {s : Scan} (h : Begun s) (c : Char) : Begun (s.step c) := by
  cases s with
  | outside depth =>
      rw [Scan.step]
      split_ifs
      · exact Nat.succ_ne_zero depth
      · exact begun_leave depth
      · exact h
      · exact h
  | inString depth =>
      rw [Scan.step]
      split_ifs
      · trivial
      · exact h
      · exact h
  | escaped depth => exact h
  | closed depth =>
      rw [Scan.step]
      split_ifs with _ hseparates
      · exact begun_leave depth
      · exact hseparates.1
      · trivial
      · trivial
  | broken => trivial

theorem Begun.along {s : Scan} (h : Begun s) (text : List Char) : Begun (s.along text) := by
  induction text generalizing s with
  | nil => exact h
  | cons c text ih => exact ih (h.step c)

/-- Behind the last bracket there is white space only. -/
theorem space_of_along_closed {text : List Char} (h : (Scan.closed 0).along text = .closed 0) :
    ∀ c ∈ text, isSpace c = true := by
  induction text with
  | nil => exact fun _ hc => absurd hc List.not_mem_nil
  | cons c text ih =>
      rw [along_cons] at h
      have hspace : (Scan.closed 0).step c = .closed 0 ∧ isSpace c = true := by
        rw [step] at h ⊢
        split_ifs at h ⊢ with hcloses hseparates hs
        · exact absurd ((along_broken text).symm.trans h) nofun
        · exact absurd rfl hseparates.1
        · exact ⟨rfl, hs⟩
        · exact absurd ((along_broken text).symm.trans h) nofun
      rw [hspace.1] at h
      intro d hd
      rcases List.mem_cons.mp hd with rfl | hd
      · exact hspace.2
      · exact ih h d hd

/-- A bracket or a string is open. -/
def Unfinished : Scan → Prop
  | .outside depth | .inString depth | .escaped depth | .closed depth => depth ≠ 0
  | .broken => False

/-- **An object that is cut short is unfinished.** -/
theorem scan_cut {fields : List (String × Json)} {written rest : List Char}
    (h : (Json.obj fields).render = written ++ rest) (hwritten : written ≠ []) (hrest : rest ≠ []) :
    Unfinished ((Scan.outside 0).along written) := by
  have hwhole : ((Scan.outside 0).along written).along rest = .closed 0 := by
    rw [← along_append, ← h]
    exact along_object fields 0
  have hbegun : Begun ((Scan.outside 0).along written) := by
    obtain ⟨c, text, rfl⟩ := List.exists_cons_of_ne_nil hwritten
    rw [Json.render, List.cons_append] at h
    obtain rfl : '{' = c := (List.cons.inj h).1
    have hopens : (Scan.outside 0).step '{' = .outside 1 := rfl
    have hone : Begun (.outside 1) := Nat.one_ne_zero
    rw [along_cons, hopens]
    exact hone.along text
  generalize (Scan.outside 0).along written = s at hwhole hbegun ⊢
  cases s with
  | outside depth => exact hbegun
  | inString depth => exact hbegun
  | escaped depth => exact hbegun
  | broken => exact absurd ((along_broken rest).symm.trans hwhole) nofun
  | closed depth =>
      -- behind the last bracket there is no other one, and the rest ends with one
      rintro rfl
      obtain ⟨init, last, rfl⟩ := (List.eq_nil_or_concat rest).resolve_left hrest
      rw [List.concat_eq_append] at h hwhole
      have hlast : '}' = last := by
        have hends := congrArg List.getLast? h
        rw [Json.render, ← List.cons_append, List.getLast?_concat, ← List.append_assoc, List.getLast?_concat] at hends
        exact Option.some.inj hends
      have hspace := space_of_along_closed hwhole last (List.mem_append_right _ List.mem_cons_self)
      rw [← hlast] at hspace
      exact absurd hspace (by decide)

/-! ## What is written behind it -/

/-- A character that no value may be followed by, and that is written as it is. -/
def Plain (c : Char) : Prop := isSpace c = false ∧ c ∉ ['}', ']', ',', ':', '"', '\\'] ∧ 0x20 ≤ c.toNat

instance : DecidablePred Plain := fun _ => inferInstanceAs (Decidable (_ ∧ _ ∧ _))

/-- An object whose first field name begins with such a character. -/
def Named (fields : List (String × Json)) : Prop :=
  ∃ name value rest c letters, fields = (name, value) :: rest ∧ name.toList = c :: letters ∧ Plain c

/-- It breaks a scan that takes its first quote for a closing one. -/
theorem along_named {fields : List (String × Json)} (h : Named fields) (depth : Nat) :
    (Scan.inString depth).along (Json.obj fields).render = .broken := by
  obtain ⟨name, value, rest, c, letters, rfl, hname, hspace, hspecial, hcontrol⟩ := h
  simp only [List.mem_cons, List.not_mem_nil, or_false, not_or] at hspecial
  obtain ⟨hbrace, hbracket, hcomma, hcolon, hquote, hbackslash⟩ := hspecial
  have hescape : escapeChar c = [c] := by
    unfold escapeChar
    rw [if_neg hquote, if_neg hbackslash, if_neg (Nat.not_lt.mpr hcontrol)]
  have hbreaks : (Scan.closed depth).step c = .broken := by
    simp [step, hbrace, hbracket, hcomma, hcolon, hspace]
  have hinside : (Scan.inString depth).step '{' = .inString depth := rfl
  have hcloses : (Scan.inString depth).step '"' = .closed depth := rfl
  rw [Json.render, Json.renderFields, List.tail_cons, renderString, hname, escape, List.flatMap_cons, hescape,
    along_cons, hinside, List.cons_append, List.cons_append, along_cons, hcloses, List.singleton_append,
    List.cons_append, List.cons_append, List.cons_append, along_cons, hbreaks, along_broken]

/-- **No object that is written behind it closes what was cut short**, and none is read behind a whole one. -/
theorem not_accepts_glued {s : Scan} {fields : List (String × Json)} (hs : Unfinished s ∨ s = .closed 0)
    (h : Named fields) : ¬Accepts (s.along (Json.obj fields).render) := by
  have hopens : ∀ depth, (Scan.closed depth).along (Json.obj fields).render = .broken := by
    intro depth
    have hbroken : (Scan.closed depth).step '{' = .broken := by
      have hspace : isSpace '{' = false := by decide
      simp [step, hspace]
    rw [Json.render, along_cons, hbroken, along_broken]
  have hnot : ¬Accepts .broken := by decide
  cases s with
  | outside depth =>
      rw [along_object]
      rcases hs with hdepth | hclosed
      · rintro (houtside | hclosed)
        · cases houtside
        · exact hdepth (Scan.closed.inj hclosed)
      · cases hclosed
  | inString depth =>
      rw [along_named h]
      exact hnot
  | escaped depth =>
      -- the bracket ends the escape, and the first quote the string
      have hends : (Scan.escaped depth).along (Json.obj fields).render
          = (Scan.inString depth).along (Json.obj fields).render := by
        rw [Json.render, along_cons, along_cons]
        rfl
      rw [hends, along_named h]
      exact hnot
  | closed depth =>
      rw [hopens]
      exact hnot
  | broken =>
      rw [along_broken]
      exact hnot

end Scan
end Lib
