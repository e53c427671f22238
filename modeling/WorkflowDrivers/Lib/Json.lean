import Mathlib.Data.List.Basic
import Mathlib.Tactic.IntervalCases

/-!
# `Lib.Json` — JSON values, their compact text, and its unique readability

The writer is the one a strict serializer uses: no blanks between tokens, and inside a string only the
quote, the backslash and the control characters below U+0020 are escaped, every other character being
written as it is. Two facts about the text are what clients need:

* `Json.render_cancel` — the text is **uniquely readable**: a value followed by something that cannot
  extend a number is determined by the characters, and so is what follows it. `Json.dumps_injective` is the
  special case of an empty rest;
* `Json.mem_render` — a character outside ASCII occurs in the text exactly when it occurs in one of the
  strings of the value; and no control character occurs at all (`Json.control_free`).
-/

namespace Lib

/-! ## Number literals -/

/-- The characters a number literal is made of. -/
def isNumChar (c : Char) : Bool :=
  c.isDigit || c == '-' || c == '+' || c == '.' || c == 'e' || c == 'E'

/-- A number, carried as the literal it is printed by: not empty, and of number characters only. -/
structure NumLit where
  text : List Char
  text_ne : text ≠ []
  chars : ∀ c ∈ text, isNumChar c = true
  deriving DecidableEq

/-- The decimal text of an integer. -/
def decimal : Int → List Char
  | .ofNat n => Nat.toDigits 10 n
  | .negSucc n => '-' :: Nat.toDigits 10 (n + 1)

theorem isNumChar_of_mem_toDigits {n : Nat} {c : Char} (h : c ∈ Nat.toDigits 10 n) : isNumChar c = true := by
  simp [isNumChar, Nat.isDigit_of_mem_toDigits (by decide) (by decide) h]

theorem toDigits_injective {m n : Nat} (h : Nat.toDigits 10 m = Nat.toDigits 10 n) : m = n := by
  rw [← Nat.ofDigitChars_ten_toDigits (n := m), h, Nat.ofDigitChars_ten_toDigits]

theorem decimal_injective {i j : Int} (h : decimal i = decimal j) : i = j := by
  have no_minus : ∀ n : Nat, ∀ l, Nat.toDigits 10 n ≠ '-' :: l := by
    intro n l hl
    have hm : '-' ∈ Nat.toDigits 10 n := by rw [hl]; exact List.mem_cons_self
    exact absurd (Nat.isDigit_of_mem_toDigits (by decide) (by decide) hm) (by decide)
  cases i with
  | ofNat m =>
      cases j with
      | ofNat n => exact congrArg Int.ofNat (toDigits_injective h)
      | negSucc n => exact absurd h (no_minus m _)
  | negSucc m =>
      cases j with
      | ofNat n => exact absurd h.symm (no_minus n _)
      | negSucc n =>
          have hd : m + 1 = n + 1 := toDigits_injective (List.cons.inj h).2
          rw [Nat.add_right_cancel hd]

/-- An integer as a number literal. -/
def NumLit.ofInt (i : Int) : NumLit where
  text := decimal i
  text_ne := by
    cases i with
    | ofNat n => exact Nat.toDigits_ne_nil
    | negSucc n => exact List.cons_ne_nil _ _
  chars := by
    intro c hc
    cases i with
    | ofNat n => exact isNumChar_of_mem_toDigits hc
    | negSucc n =>
        rcases List.mem_cons.mp hc with rfl | hc
        · decide
        · exact isNumChar_of_mem_toDigits hc

theorem NumLit.ofInt_injective {i j : Int} (h : NumLit.ofInt i = NumLit.ofInt j) : i = j :=
  decimal_injective (congrArg NumLit.text h)

/-- What may follow a number without extending it: nothing, or a character that is not a number's. -/
def Delimited (s : List Char) : Prop := ∀ c ∈ s.head?, isNumChar c = false

@[simp] theorem delimited_nil : Delimited [] := by simp [Delimited]

@[simp] theorem delimited_cons {c : Char} {s : List Char} : Delimited (c :: s) ↔ isNumChar c = false := by
  simp [Delimited]

/-- A literal is read back from a text by taking its number characters. -/
theorem NumLit.takeWhile_append (n : NumLit) {s : List Char} (hs : Delimited s) :
    (n.text ++ s).takeWhile isNumChar = n.text := by
  rw [List.takeWhile_append_of_pos n.chars]
  cases s with
  | nil => simp
  | cons c s => simp [delimited_cons.mp hs]

theorem NumLit.cancel {m n : NumLit} {s t : List Char} (h : m.text ++ s = n.text ++ t)
    (hs : Delimited s) (ht : Delimited t) : m = n ∧ s = t := by
  have htext : m.text = n.text := by rw [← m.takeWhile_append hs, h, n.takeWhile_append ht]
  refine ⟨?_, List.append_cancel_left (htext ▸ h)⟩
  cases m
  cases n
  cases htext
  rfl

/-! ## Strings -/

/-- The escape of a control character: the short form where there is one, `\u00XX` otherwise. -/
def escapeControl (n : Nat) : List Char :=
  if n = 8 then ['\\', 'b']
  else if n = 9 then ['\\', 't']
  else if n = 10 then ['\\', 'n']
  else if n = 12 then ['\\', 'f']
  else if n = 13 then ['\\', 'r']
  else ['\\', 'u', '0', '0', Nat.digitChar (n / 16), Nat.digitChar (n % 16)]

/-- One character of a string as it is written between the quotes. -/
def escapeChar (c : Char) : List Char :=
  if c = '"' then ['\\', '"']
  else if c = '\\' then ['\\', '\\']
  else if c.toNat < 0x20 then escapeControl c.toNat
  else [c]

/-- The characters of a string as they are written between the quotes. -/
def escape (s : List Char) : List Char := s.flatMap escapeChar

/-- The value of a lower-case hexadecimal digit. -/
def hexValue (c : Char) : Nat := "0123456789abcdef".toList.findIdx (· == c)

/-- Read one written character back: the left inverse of `escapeChar` on the head of a text. -/
def unescapeChar : List Char → Option (Char × List Char)
  | '\\' :: 'u' :: '0' :: '0' :: a :: b :: r => some (Char.ofNat (16 * hexValue a + hexValue b), r)
  | '\\' :: 'b' :: r => some ('\x08', r)
  | '\\' :: 't' :: r => some ('\t', r)
  | '\\' :: 'n' :: r => some ('\n', r)
  | '\\' :: 'f' :: r => some ('\x0c', r)
  | '\\' :: 'r' :: r => some ('\r', r)
  | '\\' :: c :: r => some (c, r)
  | c :: r => some (c, r)
  | [] => none

theorem unescapeChar_control {n : Nat} (hn : n < 0x20) (r : List Char) :
    unescapeChar (escapeControl n ++ r) = some (Char.ofNat n, r) := by
  interval_cases n <;> rfl

theorem unescapeChar_escapeChar (c : Char) (r : List Char) :
    unescapeChar (escapeChar c ++ r) = some (c, r) := by
  unfold escapeChar
  split
  · next h => subst h; rfl
  · next hq =>
      split
      · next h => subst h; rfl
      · next hb =>
          split
          · next hc =>
              rw [unescapeChar_control hc]
              simp
          · next hc =>
              -- a character written as it is: no escape pattern of the reader matches it
              simp [unescapeChar, hb]

/-- The written characters form a prefix code. -/
theorem escapeChar_cancel {c d : Char} {r s : List Char}
    (h : escapeChar c ++ r = escapeChar d ++ s) : c = d ∧ r = s := by
  have hread := unescapeChar_escapeChar c r
  rw [h, unescapeChar_escapeChar d s] at hread
  simp only [Option.some.injEq, Prod.mk.injEq] at hread
  exact ⟨hread.1.symm, hread.2.symm⟩

/-- A written character is never the closing quote. -/
theorem escapeChar_append_ne_quote (c : Char) (r s : List Char) : escapeChar c ++ r ≠ '"' :: s := by
  intro h
  have hread := unescapeChar_escapeChar c r
  rw [h] at hread
  obtain ⟨rfl, rfl⟩ := Prod.mk.inj (Option.some.inj hread)
  simp [escapeChar] at h

/-- A string ends at its closing quote: the characters determine it and what follows. -/
theorem escape_cancel {a b r s : List Char} (h : escape a ++ '"' :: r = escape b ++ '"' :: s) :
    a = b ∧ r = s := by
  induction a generalizing b with
  | nil =>
      cases b with
      | nil => exact ⟨rfl, (List.cons.inj h).2⟩
      | cons d b =>
          simp only [escape, List.flatMap_cons, List.append_assoc] at h
          exact absurd h.symm (escapeChar_append_ne_quote d _ _)
  | cons c a ih =>
      cases b with
      | nil =>
          simp only [escape, List.flatMap_cons, List.append_assoc] at h
          exact absurd h (escapeChar_append_ne_quote c _ _)
      | cons d b =>
          simp only [escape, List.flatMap_cons, List.append_assoc] at h
          obtain ⟨rfl, hrest⟩ := escapeChar_cancel h
          obtain ⟨rfl, rfl⟩ := ih hrest
          exact ⟨rfl, rfl⟩

/-- The escape of a control character has only visible ASCII characters. -/
theorem mem_escapeControl {n : Nat} (hn : n < 0x20) {y : Char} (h : y ∈ escapeControl n) :
    y.toNat < 0x80 ∧ 0x20 ≤ y.toNat := by
  have hall : ∀ n < 0x20, (escapeControl n).all (fun y => y.toNat < 0x80 && 0x20 ≤ y.toNat) = true := by
    decide
  simpa using List.all_eq_true.mp (hall n hn) y h

/-- What a written character is made of: itself, when it is not ASCII; printable ASCII otherwise. -/
theorem mem_escapeChar {c x : Char} (h : x ∈ escapeChar c) :
    (x = c ∨ x.toNat < 0x80) ∧ 0x20 ≤ x.toNat := by
  unfold escapeChar at h
  split at h
  · simp only [List.mem_cons, List.not_mem_nil, or_false] at h
    rcases h with rfl | rfl <;> exact ⟨Or.inr (by decide), by decide⟩
  · split at h
    · simp only [List.mem_cons, List.not_mem_nil, or_false] at h
      rcases h with rfl | rfl <;> exact ⟨Or.inr (by decide), by decide⟩
    · split at h
      · next hc =>
          obtain ⟨hascii, hvisible⟩ := mem_escapeControl hc h
          exact ⟨Or.inr hascii, hvisible⟩
      · next hc =>
          rw [List.mem_singleton.mp h]
          exact ⟨Or.inl rfl, Nat.not_lt.mp hc⟩

theorem self_mem_escapeChar {c : Char} (hc : 0x80 ≤ c.toNat) : c ∈ escapeChar c := by
  have hq : c ≠ '"' := by rintro rfl; exact absurd hc (by decide)
  have hb : c ≠ '\\' := by rintro rfl; exact absurd hc (by decide)
  have hn : ¬c.toNat < 0x20 := by omega
  simp [escapeChar, hq, hb, hn]

/-- Outside ASCII the written text has the characters of the string. -/
theorem mem_escape {s : List Char} {x : Char} (hx : 0x80 ≤ x.toNat) : x ∈ escape s ↔ x ∈ s := by
  simp only [escape, List.mem_flatMap]
  constructor
  · rintro ⟨c, hc, hmem⟩
    rcases (mem_escapeChar hmem).1 with rfl | hlt
    · exact hc
    · omega
  · intro h
    exact ⟨x, h, self_mem_escapeChar hx⟩

/-- A string value as it is written: quoted and escaped. -/
def renderString (s : String) : List Char := '"' :: (escape s.toList ++ ['"'])

theorem renderString_cancel {a b : String} {s t : List Char}
    (h : renderString a ++ s = renderString b ++ t) : a = b ∧ s = t := by
  simp only [renderString, List.cons_append, List.append_assoc, List.cons.injEq, true_and,
    List.nil_append] at h
  obtain ⟨hab, hst⟩ := escape_cancel h
  exact ⟨String.toList_injective hab, hst⟩

/-! ## Values -/

inductive Json where
  | null
  | bool (b : Bool)
  | num (n : NumLit)
  | str (s : String)
  | arr (items : List Json)
  | obj (fields : List (String × Json))

namespace Json

mutual

/-- The compact text of a value. -/
def render : Json → List Char
  | .null => ['n', 'u', 'l', 'l']
  | .bool true => ['t', 'r', 'u', 'e']
  | .bool false => ['f', 'a', 'l', 's', 'e']
  | .num n => n.text
  | .str s => renderString s
  | .arr items => '[' :: ((renderItems items).tail ++ [']'])
  | .obj fields => '{' :: ((renderFields fields).tail ++ ['}'])

/-- The items of an array, each behind a comma; the array drops the first one. -/
def renderItems : List Json → List Char
  | [] => []
  | j :: rest => ',' :: (render j ++ renderItems rest)

/-- The fields of an object, each behind a comma; the object drops the first one. -/
def renderFields : List (String × Json) → List Char
  | [] => []
  | (k, v) :: rest => ',' :: (renderString k ++ (':' :: (render v ++ renderFields rest)))

end

/-- The compact text as a string. -/
def dumps (j : Json) : String := String.ofList j.render

/-- The constructor of a value, as a number. -/
def kind : Json → Nat
  | .null => 0
  | .bool _ => 1
  | .num _ => 2
  | .str _ => 3
  | .arr _ => 4
  | .obj _ => 5

/-- The constructor a text starting with `c` must have been written from. -/
def kindOfHead : Char → Nat
  | 'n' => 0
  | 't' => 1
  | 'f' => 1
  | '"' => 3
  | '[' => 4
  | '{' => 5
  | _ => 2

theorem kindOfHead_numChar {c : Char} (h : isNumChar c = true) : kindOfHead c = 2 := by
  unfold kindOfHead
  split <;> first | rfl | exact absurd h (by decide)

/-- The first character of the text tells the constructor, and never closes an array. -/
theorem render_head (j : Json) : ∃ c l, j.render = c :: l ∧ kindOfHead c = j.kind ∧ c ≠ ']' := by
  cases j with
  | null => exact ⟨'n', ['u', 'l', 'l'], by simp [render], rfl, by decide⟩
  | bool b =>
      cases b with
      | true => exact ⟨'t', ['r', 'u', 'e'], by simp [render], rfl, by decide⟩
      | false => exact ⟨'f', ['a', 'l', 's', 'e'], by simp [render], rfl, by decide⟩
  | num n =>
      obtain ⟨c, l, hcl⟩ := List.exists_cons_of_ne_nil n.text_ne
      have hc : isNumChar c = true := n.chars c (hcl ▸ List.mem_cons_self)
      refine ⟨c, l, by simp [render, hcl], kindOfHead_numChar hc, ?_⟩
      rintro rfl
      exact absurd hc (by decide)
  | str s => exact ⟨'"', escape s.toList ++ ['"'], by simp [render, renderString], rfl, by decide⟩
  | arr items => exact ⟨'[', (renderItems items).tail ++ [']'], by simp [render], rfl, by decide⟩
  | obj fields => exact ⟨'{', (renderFields fields).tail ++ ['}'], by simp [render], rfl, by decide⟩

theorem kind_eq_of_render {j k : Json} {s t : List Char} (h : j.render ++ s = k.render ++ t) :
    j.kind = k.kind := by
  obtain ⟨c, l, hj, hc, -⟩ := render_head j
  obtain ⟨d, m, hk, hd, -⟩ := render_head k
  rw [hj, hk, List.cons_append, List.cons_append] at h
  rw [← hc, ← hd, (List.cons.inj h).1]

/-! ## Unique readability

By induction on the first value. Items and fields are compared with their leading comma still on, which
makes the lists uniform; the containers restore the comma that they dropped before they use it. -/

/-- The inside of a container before its first comma is dropped: nothing, or a comma and an item that
    does not start with the closing bracket. -/
def Started (close : Char) (a : List Char) : Prop := a = [] ∨ ∃ c l, a = ',' :: c :: l ∧ c ≠ close

theorem renderItems_started (items : List Json) : Started ']' (renderItems items) := by
  cases items with
  | nil => exact Or.inl (by simp [renderItems])
  | cons j rest =>
      obtain ⟨c, l, hj, -, hc⟩ := render_head j
      exact Or.inr ⟨c, l ++ renderItems rest, by simp [renderItems, hj], hc⟩

theorem renderFields_started (fields : List (String × Json)) : Started '}' (renderFields fields) := by
  cases fields with
  | nil => exact Or.inl (by simp [renderFields])
  | cons f rest =>
      obtain ⟨k, v⟩ := f
      exact Or.inr ⟨'"', _, by simp only [renderFields, renderString, List.cons_append]; rfl, by decide⟩

/-- Containers with equal texts both have the comma to put back, or both have none. -/
theorem Started.restore_comma {close : Char} {a b s t : List Char} (ha : Started close a)
    (hb : Started close b) (h : a.tail ++ close :: s = b.tail ++ close :: t) :
    a ++ close :: s = b ++ close :: t := by
  rcases ha with rfl | ⟨c, l, rfl, hc⟩
  · rcases hb with rfl | ⟨d, m, rfl, hd⟩
    · simpa using h
    · exact absurd (List.cons.inj h).1.symm hd
  · rcases hb with rfl | ⟨d, m, rfl, hd⟩
    · exact absurd (List.cons.inj h).1 hc
    · simpa using h

/-- Behind an item stands the comma of the next one or the closing bracket. -/
theorem renderItems_delimited (items : List Json) (s : List Char) :
    Delimited (renderItems items ++ ']' :: s) := by
  cases items with
  | nil => simp [renderItems]; decide
  | cons j rest => simp [renderItems]; decide

theorem renderFields_delimited (fields : List (String × Json)) (s : List Char) :
    Delimited (renderFields fields ++ '}' :: s) := by
  cases fields with
  | nil => simp [renderFields]; decide
  | cons f rest =>
      obtain ⟨k, v⟩ := f
      simp [renderFields]; decide

mutual

/-- **Unique readability.** The text of a value followed by something that cannot extend a number
    determines both the value and what follows. -/
theorem render_cancel (j k : Json) {s t : List Char} (h : j.render ++ s = k.render ++ t)
    (hs : Delimited s) (ht : Delimited t) : j = k ∧ s = t := by
  have hkind : j.kind = k.kind := kind_eq_of_render h
  cases j with
  | null =>
      cases k <;> simp [kind] at hkind
      exact ⟨rfl, by simpa [render] using h⟩
  | bool b =>
      cases k <;> simp [kind] at hkind
      next c => cases b <;> cases c <;> simp_all [render]
  | num m =>
      cases k <;> simp [kind] at hkind
      next n =>
        simp only [render] at h
        obtain ⟨rfl, rfl⟩ := NumLit.cancel h hs ht
        exact ⟨rfl, rfl⟩
  | str a =>
      cases k <;> simp [kind] at hkind
      next b =>
        simp only [render] at h
        obtain ⟨rfl, rfl⟩ := renderString_cancel h
        exact ⟨rfl, rfl⟩
  | arr xs =>
      cases k <;> simp [kind] at hkind
      next ys =>
        simp only [render, List.cons_append, List.append_assoc, List.nil_append, List.cons.injEq,
          true_and] at h
        obtain ⟨rfl, rfl⟩ := renderItems_cancel xs ys
          ((renderItems_started xs).restore_comma (renderItems_started ys) h)
        exact ⟨rfl, rfl⟩
  | obj fs =>
      cases k <;> simp [kind] at hkind
      next gs =>
        simp only [render, List.cons_append, List.append_assoc, List.nil_append, List.cons.injEq,
          true_and] at h
        obtain ⟨rfl, rfl⟩ := renderFields_cancel fs gs
          ((renderFields_started fs).restore_comma (renderFields_started gs) h)
        exact ⟨rfl, rfl⟩

theorem renderItems_cancel (xs ys : List Json) {s t : List Char}
    (h : renderItems xs ++ ']' :: s = renderItems ys ++ ']' :: t) : xs = ys ∧ s = t := by
  cases xs with
  | nil =>
      cases ys with
      | nil => exact ⟨rfl, by simpa [renderItems] using h⟩
      | cons k ys => simp [renderItems] at h
  | cons j xs =>
      cases ys with
      | nil => simp [renderItems] at h
      | cons k ys =>
          simp only [renderItems, List.cons_append, List.append_assoc, List.cons.injEq, true_and] at h
          obtain ⟨rfl, hrest⟩ := render_cancel j k h (renderItems_delimited xs s)
            (renderItems_delimited ys t)
          obtain ⟨rfl, rfl⟩ := renderItems_cancel xs ys hrest
          exact ⟨rfl, rfl⟩

theorem renderFields_cancel (fs gs : List (String × Json)) {s t : List Char}
    (h : renderFields fs ++ '}' :: s = renderFields gs ++ '}' :: t) : fs = gs ∧ s = t := by
  cases fs with
  | nil =>
      cases gs with
      | nil => exact ⟨rfl, by simpa [renderFields] using h⟩
      | cons g gs => obtain ⟨l, w⟩ := g; simp [renderFields] at h
  | cons f fs =>
      obtain ⟨k, v⟩ := f
      cases gs with
      | nil => simp [renderFields] at h
      | cons g gs =>
          obtain ⟨l, w⟩ := g
          simp only [renderFields, List.cons_append, List.append_assoc, List.cons.injEq, true_and] at h
          obtain ⟨rfl, hvalue⟩ := renderString_cancel h
          obtain ⟨rfl, hrest⟩ := render_cancel v w (List.cons.inj hvalue).2
            (renderFields_delimited fs s) (renderFields_delimited gs t)
          obtain ⟨rfl, rfl⟩ := renderFields_cancel fs gs hrest
          exact ⟨rfl, rfl⟩

end

/-- **Different values have different texts.** -/
theorem dumps_injective : Function.Injective dumps := by
  intro j k h
  have htext : j.render ++ [] = k.render ++ [] := by
    simpa [dumps] using congrArg String.toList h
  exact (render_cancel j k htext delimited_nil delimited_nil).1

/-! ## The characters of the text -/

mutual

/-- Every string of a value: the string leaves and the field names, at any depth. -/
def strings : Json → List String
  | .null => []
  | .bool _ => []
  | .num _ => []
  | .str s => [s]
  | .arr items => stringsOfItems items
  | .obj fields => stringsOfFields fields

def stringsOfItems : List Json → List String
  | [] => []
  | j :: rest => strings j ++ stringsOfItems rest

def stringsOfFields : List (String × Json) → List String
  | [] => []
  | (k, v) :: rest => k :: (strings v ++ stringsOfFields rest)

end

/-- A character that is neither ASCII nor a control character. -/
abbrev NonAscii (x : Char) : Prop := 0x80 ≤ x.toNat

theorem NonAscii.ne {x c : Char} (hx : NonAscii x) (hc : c.toNat < 0x80) : x ≠ c := by
  rintro rfl
  exact absurd hx (Nat.not_le.mpr hc)

theorem isNumChar_ascii {c : Char} (h : isNumChar c = true) : 0x20 ≤ c.toNat ∧ c.toNat < 0x80 := by
  simp only [isNumChar, Bool.or_eq_true, beq_iff_eq] at h
  rcases h with ((((hd | rfl) | rfl) | rfl) | rfl) | rfl
  · simp only [Char.isDigit, Bool.and_eq_true, decide_eq_true_eq] at hd
    have h1 : 48 ≤ c.toNat := hd.1
    have h2 : c.toNat ≤ 57 := hd.2
    omega
  all_goals decide

theorem mem_renderString {s : String} {x : Char} (hx : NonAscii x) :
    x ∈ renderString s ↔ x ∈ s.toList := by
  simp [renderString, mem_escape hx, hx.ne (c := '"') (by decide)]

theorem Started.mem_tail {close x : Char} {a : List Char} (ha : Started close a) (hx : NonAscii x) :
    x ∈ a.tail ↔ x ∈ a := by
  rcases ha with rfl | ⟨c, l, rfl, -⟩
  · simp
  · simp [hx.ne (c := ',') (by decide)]

mutual

/-- **Outside ASCII the text has exactly the characters of the strings**: the punctuation, the literals
    and the escapes are ASCII, and a character outside ASCII is written as it is. -/
theorem mem_render (j : Json) {x : Char} (hx : NonAscii x) :
    x ∈ j.render ↔ ∃ s ∈ j.strings, x ∈ s.toList := by
  cases j with
  | null =>
      simp [render, strings, hx.ne (c := 'n') (by decide), hx.ne (c := 'u') (by decide),
        hx.ne (c := 'l') (by decide)]
  | bool b =>
      cases b <;>
        simp [render, strings, hx.ne (c := 't') (by decide), hx.ne (c := 'r') (by decide),
          hx.ne (c := 'u') (by decide), hx.ne (c := 'e') (by decide), hx.ne (c := 'f') (by decide),
          hx.ne (c := 'a') (by decide), hx.ne (c := 'l') (by decide), hx.ne (c := 's') (by decide)]
  | num n =>
      simp only [render, strings, List.not_mem_nil, false_and, exists_false, iff_false]
      intro h
      exact absurd hx (Nat.not_le.mpr (isNumChar_ascii (n.chars x h)).2)
  | str s => simp [render, strings, mem_renderString hx]
  | arr items =>
      simp [render, strings, (renderItems_started items).mem_tail hx, mem_renderItems items hx,
        hx.ne (c := '[') (by decide), hx.ne (c := ']') (by decide)]
  | obj fields =>
      simp [render, strings, (renderFields_started fields).mem_tail hx, mem_renderFields fields hx,
        hx.ne (c := '{') (by decide), hx.ne (c := '}') (by decide)]

theorem mem_renderItems (items : List Json) {x : Char} (hx : NonAscii x) :
    x ∈ renderItems items ↔ ∃ s ∈ stringsOfItems items, x ∈ s.toList := by
  cases items with
  | nil => simp [renderItems, stringsOfItems]
  | cons j rest =>
      simp [renderItems, stringsOfItems, mem_render j hx, mem_renderItems rest hx,
        hx.ne (c := ',') (by decide), or_and_right, exists_or]

theorem mem_renderFields (fields : List (String × Json)) {x : Char} (hx : NonAscii x) :
    x ∈ renderFields fields ↔ ∃ s ∈ stringsOfFields fields, x ∈ s.toList := by
  cases fields with
  | nil => simp [renderFields, stringsOfFields]
  | cons f rest =>
      obtain ⟨k, v⟩ := f
      simp [renderFields, stringsOfFields, mem_renderString hx, mem_render v hx,
        mem_renderFields rest hx, hx.ne (c := ',') (by decide), hx.ne (c := ':') (by decide),
        or_and_right, exists_or]

end

theorem control_free_renderString (s : String) {x : Char} (h : x ∈ renderString s) : 0x20 ≤ x.toNat := by
  simp only [renderString, escape, List.mem_cons, List.mem_append, List.mem_flatMap, List.not_mem_nil,
    or_false] at h
  rcases h with rfl | ⟨c, -, hc⟩ | rfl
  · decide
  · exact (mem_escapeChar hc).2
  · decide

mutual

/-- **No control character occurs in the text**: strings escape them and nothing else contains any. -/
theorem control_free (j : Json) {x : Char} (h : x ∈ j.render) : 0x20 ≤ x.toNat := by
  cases j with
  | null =>
      simp only [render, List.mem_cons, List.not_mem_nil, or_false] at h
      rcases h with rfl | rfl | rfl | rfl <;> decide
  | bool b =>
      cases b <;> simp only [render, List.mem_cons, List.not_mem_nil, or_false] at h
      · rcases h with rfl | rfl | rfl | rfl | rfl <;> decide
      · rcases h with rfl | rfl | rfl | rfl <;> decide
  | num n => exact (isNumChar_ascii (n.chars x (by simpa [render] using h))).1
  | str s => exact control_free_renderString s (by simpa [render] using h)
  | arr items =>
      simp only [render, List.mem_cons, List.mem_append, List.not_mem_nil, or_false] at h
      rcases h with rfl | h | rfl
      · decide
      · exact control_free_items items (List.mem_of_mem_tail h)
      · decide
  | obj fields =>
      simp only [render, List.mem_cons, List.mem_append, List.not_mem_nil, or_false] at h
      rcases h with rfl | h | rfl
      · decide
      · exact control_free_fields fields (List.mem_of_mem_tail h)
      · decide

theorem control_free_items (items : List Json) {x : Char} (h : x ∈ renderItems items) :
    0x20 ≤ x.toNat := by
  cases items with
  | nil => simp [renderItems] at h
  | cons j rest =>
      simp only [renderItems, List.mem_cons, List.mem_append] at h
      rcases h with rfl | h | h
      · decide
      · exact control_free j h
      · exact control_free_items rest h

theorem control_free_fields (fields : List (String × Json)) {x : Char} (h : x ∈ renderFields fields) :
    0x20 ≤ x.toNat := by
  cases fields with
  | nil => simp [renderFields] at h
  | cons f rest =>
      obtain ⟨k, v⟩ := f
      simp only [renderFields, List.mem_cons, List.mem_append] at h
      rcases h with rfl | h | rfl | h | h
      · decide
      · exact control_free_renderString k h
      · decide
      · exact control_free v h
      · exact control_free_fields rest h

end

end Json
end Lib
