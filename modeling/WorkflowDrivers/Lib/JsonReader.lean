import Mathlib.Data.List.TakeWhile
import WorkflowDrivers.Lib.Brackets

/-!
# `Lib.JsonReader` — a decoder of JSON texts

The decoder reads what a lenient `loads` reads: white space between tokens, every escape, and the three constants
that are no JSON numbers. What becomes of what it reads is left to `Hooks`, so that nothing is said of the values a
number or an object turns into, nor of the numbers that are refused for their length. What clients need:

* `readText_render` — a value that is written with JSON numbers, which the hooks take, is read back (`fold`);
* `readText_accepts` — every text that is read leaves a scan of its brackets and quotes where a value may end;
* `readText_fuel` — the fuel of the recursion is enough: more of it reads no other text.
-/

namespace Lib

/-- What a decoder makes of what it reads. Numbers and constants come as they are spelled, strings as their code
    points, and the fields of an object in their order, with the names that are repeated. A number may be refused, as
    integers of too many digits are. -/
structure Hooks (V : Type) where
  null : V
  bool : Bool → V
  takes : NumLit → Bool
  number : NumLit → V
  constant : List Char → V
  string : List Nat → V
  array : List V → V
  object : List (List Nat × V) → V

namespace JsonReader

variable {V : Type}

/-! ## Tokens -/

/-- White space between tokens. -/
def isWhite (c : Char) : Bool := c == ' ' || c == '\t' || c == '\n' || c == '\r'

def skip (text : List Char) : List Char := text.dropWhile isWhite

/-- Digits, at least one of them. -/
def isDigits (text : List Char) : Bool := !text.isEmpty && text.all Char.isDigit

/-- `([eE][-+]?\d+)?` -/
def isExponent : List Char → Bool
  | [] => true
  | c :: '-' :: text => (c == 'e' || c == 'E') && isDigits text
  | c :: '+' :: text => (c == 'e' || c == 'E') && isDigits text
  | c :: text => (c == 'e' || c == 'E') && isDigits text

/-- `(\.\d+)?` and an exponent. -/
def isFraction : List Char → Bool
  | '.' :: text => isDigits (text.takeWhile Char.isDigit) && isExponent (text.dropWhile Char.isDigit)
  | text => isExponent text

/-- `0|[1-9]\d*` -/
def isWhole : List Char → Bool
  | ['0'] => true
  | c :: text => c != '0' && isDigits (c :: text)
  | [] => false

/-- A JSON number without its sign. -/
def isUnsigned (text : List Char) : Bool :=
  isWhole (text.takeWhile Char.isDigit) && isFraction (text.dropWhile Char.isDigit)

/-- A JSON number. -/
def isNumber : List Char → Bool
  | '-' :: text => isUnsigned text
  | text => isUnsigned text

/-- Whether a text spells a number literal. -/
def spellsNumber (text : List Char) : Bool := !text.isEmpty && text.all isNumChar && isNumber text

theorem spellsNumber_iff {text : List Char} : spellsNumber text = true ↔
    text ≠ [] ∧ (∀ c ∈ text, isNumChar c = true) ∧ isNumber text = true := by
  rw [spellsNumber, Bool.and_eq_true, Bool.and_eq_true, List.all_eq_true, Bool.not_eq_true', List.isEmpty_eq_false_iff,
    and_assoc]

/-- The literal that number characters spell. -/
def number? (text : List Char) : Option NumLit :=
  if h : spellsNumber text = true then some ⟨text, (spellsNumber_iff.mp h).1, (spellsNumber_iff.mp h).2.1⟩ else none

/-- The words for a value. -/
def words (hooks : Hooks V) : List (List Char × V) :=
  [("null".toList, hooks.null), ("true".toList, hooks.bool true), ("false".toList, hooks.bool false),
   ("NaN".toList, hooks.constant "NaN".toList), ("Infinity".toList, hooks.constant "Infinity".toList),
   ("-Infinity".toList, hooks.constant "-Infinity".toList)]

/-- A number, or one of the words. Number characters behind a number are taken with it and refused, where they
    would be refused behind it. -/
def readScalar (hooks : Hooks V) (text : List Char) : Option (V × List Char) :=
  match number? (text.takeWhile isNumChar) with
  | some n => if hooks.takes n then some (hooks.number n, text.dropWhile isNumChar) else none
  | none => (words hooks).findSome? fun (word, v) => (word.isPrefixOf? text).map fun rest => (v, rest)

/-! ## Strings -/

def hexDigit? (c : Char) : Option Nat :=
  if '0' ≤ c ∧ c ≤ '9' then some (c.toNat - 0x30)
  else if 'a' ≤ c ∧ c ≤ 'f' then some (c.toNat - 0x61 + 10)
  else if 'A' ≤ c ∧ c ≤ 'F' then some (c.toNat - 0x41 + 10)
  else none

/-- The four digits of a `\uXXXX` escape. -/
def hexUnit? (a b c d : Char) : Option Nat := do
  return 0x1000 * (← hexDigit? a) + 0x100 * (← hexDigit? b) + 0x10 * (← hexDigit? c) + (← hexDigit? d)

/-- The escapes of one character. -/
def shortEscape? : Char → Option Nat
  | '"' => some 0x22
  | '\\' => some 0x5c
  | '/' => some 0x2f
  | 'b' => some 0x08
  | 'f' => some 0x0c
  | 'n' => some 0x0a
  | 'r' => some 0x0d
  | 't' => some 0x09
  | _ => none

/-- What is written up to the closing quote, surrogates one by one, and what stands behind it. -/
def readUnits : List Char → Option (List Nat × List Char)
  | [] => none
  | '"' :: rest => some ([], rest)
  | '\\' :: 'u' :: a :: b :: c :: d :: rest =>
      match hexUnit? a b c d with
      | none => none
      | some unit => (readUnits rest).map fun (units, rest) => (unit :: units, rest)
  | '\\' :: c :: rest =>
      match shortEscape? c with
      | none => none
      | some unit => (readUnits rest).map fun (units, rest) => (unit :: units, rest)
  | c :: rest =>
      if c.toNat < 0x20 then none else (readUnits rest).map fun (units, rest) => (c.toNat :: units, rest)

/-- A high surrogate and the low one behind it are one code point. -/
def joinSurrogates : List Nat → List Nat
  | high :: low :: units =>
      if 0xd800 ≤ high ∧ high ≤ 0xdbff ∧ 0xdc00 ≤ low ∧ low ≤ 0xdfff then
        (0x10000 + 0x400 * (high - 0xd800) + (low - 0xdc00)) :: joinSurrogates units
      else high :: joinSurrogates (low :: units)
  | units => units

/-- A string behind its opening quote. -/
def readString (text : List Char) : Option (List Nat × List Char) :=
  (readUnits text).map fun (units, rest) => (joinSurrogates units, rest)

/-! ## Values -/

mutual

/-- A value, and what stands behind it. -/
def readValue (hooks : Hooks V) : Nat → List Char → Option (V × List Char)
  | 0, _ => none
  | fuel + 1, text =>
      match text with
      | '"' :: rest => (readString rest).map fun (points, rest) => (hooks.string points, rest)
      | '[' :: rest =>
          match skip rest with
          | ']' :: rest => some (hooks.array [], rest)
          | _ => (readItems hooks fuel (skip rest)).map fun (items, rest) => (hooks.array items, rest)
      | '{' :: rest =>
          match skip rest with
          | '}' :: rest => some (hooks.object [], rest)
          | _ => (readFields hooks fuel (skip rest)).map fun (fields, rest) => (hooks.object fields, rest)
      | text => readScalar hooks text

/-- The items of an array up to its closing bracket, at least one. -/
def readItems (hooks : Hooks V) : Nat → List Char → Option (List V × List Char)
  | 0, _ => none
  | fuel + 1, text =>
      match readValue hooks fuel text with
      | none => none
      | some (v, rest) =>
          match skip rest with
          | ']' :: rest => some ([v], rest)
          | ',' :: rest => (readItems hooks fuel (skip rest)).map fun (items, rest) => (v :: items, rest)
          | _ => none

/-- The fields of an object up to its closing bracket, at least one. -/
def readFields (hooks : Hooks V) : Nat → List Char → Option (List (List Nat × V) × List Char)
  | 0, _ => none
  | fuel + 1, text =>
      match text with
      | '"' :: text =>
          match readString text with
          | none => none
          | some (name, rest) =>
              match skip rest with
              | ':' :: rest =>
                  match readValue hooks fuel (skip rest) with
                  | none => none
                  | some (v, rest) =>
                      match skip rest with
                      | '}' :: rest => some ([(name, v)], rest)
                      | ',' :: rest =>
                          (readFields hooks fuel (skip rest)).map fun (fields, rest) => ((name, v) :: fields, rest)
                      | _ => none
              | _ => none
      | _ => none

end

/-- A text that is one value, with white space around it. -/
def readText (hooks : Hooks V) (text : List Char) : Option V :=
  match readValue hooks (2 * text.length + 1) (skip text) with
  | none => none
  | some (v, rest) => if skip rest = [] then some v else none

/-- `json.loads`, with the message it has for a text that it refuses, as no JSON or for one of its numbers. -/
def loads (hooks : Hooks V) (complaint : List Char → String) (text : List Char) : Except String V :=
  match readText hooks text with
  | some v => .ok v
  | none => .error (complaint text)

/-! ## What a step reads -/

/-- What a step that maps the value it read has read. -/
theorem map_read_eq_some {A B : Type} {f : A → B} {read : Option (A × List Char)} {b : B} {rest : List Char} :
    (read.map fun (a, rest) => (f a, rest)) = some (b, rest) ↔ ∃ a, read = some (a, rest) ∧ f a = b := by
  constructor
  · intro h
    obtain ⟨⟨a, _⟩, hread, heq⟩ := Option.map_eq_some_iff.mp h
    obtain ⟨hb, rfl⟩ := Prod.mk.inj heq
    exact ⟨a, hread, hb⟩
  · rintro ⟨a, rfl, rfl⟩
    rfl

/-- **Inversion.** A value is a string, a container that is closed at once or behind what it holds, or a scalar. -/
inductive ReadsValue (hooks : Hooks V) (fuel : Nat) : List Char → List Char → Prop
  | string {text points rest} : readString text = some (points, rest) → ReadsValue hooks fuel ('"' :: text) rest
  | noItems {text rest} : skip text = ']' :: rest → ReadsValue hooks fuel ('[' :: text) rest
  | items {text items rest} : readItems hooks fuel (skip text) = some (items, rest) →
      ReadsValue hooks fuel ('[' :: text) rest
  | noFields {text rest} : skip text = '}' :: rest → ReadsValue hooks fuel ('{' :: text) rest
  | fields {text fields rest} : readFields hooks fuel (skip text) = some (fields, rest) →
      ReadsValue hooks fuel ('{' :: text) rest
  | scalar {text v rest} : readScalar hooks text = some (v, rest) → ReadsValue hooks fuel text rest

theorem readValue_cases {hooks : Hooks V} {fuel : Nat} {text rest : List Char} {v : V}
    (h : readValue hooks (fuel + 1) text = some (v, rest)) : ReadsValue hooks fuel text rest := by
  unfold readValue at h
  split at h
  · obtain ⟨points, hread, -⟩ := map_read_eq_some.mp h
    exact .string hread
  · split at h
    · next hskip =>
        obtain ⟨-, rfl⟩ := Prod.mk.inj (Option.some.inj h)
        exact .noItems hskip
    · obtain ⟨items, hread, -⟩ := map_read_eq_some.mp h
      exact .items hread
  · split at h
    · next hskip =>
        obtain ⟨-, rfl⟩ := Prod.mk.inj (Option.some.inj h)
        exact .noFields hskip
    · obtain ⟨fields, hread, -⟩ := map_read_eq_some.mp h
      exact .fields hread
  · exact .scalar h

/-- **Inversion.** An item is a value; behind it the array is closed, or a comma and more items follow. -/
theorem readItems_cases {hooks : Hooks V} {fuel : Nat} {text rest : List Char} {items : List V}
    (h : readItems hooks (fuel + 1) text = some (items, rest)) :
    ∃ v behind, readValue hooks fuel text = some (v, behind) ∧
      (skip behind = ']' :: rest
        ∨ ∃ more tail, skip behind = ',' :: more ∧ readItems hooks fuel (skip more) = some (tail, rest)) := by
  unfold readItems at h
  split at h
  · cases h
  · next v behind hvalue =>
      refine ⟨v, behind, hvalue, ?_⟩
      split at h
      · next hskip =>
          obtain ⟨-, rfl⟩ := Prod.mk.inj (Option.some.inj h)
          exact Or.inl hskip
      · next more hskip =>
          obtain ⟨tail, hread, -⟩ := map_read_eq_some.mp h
          exact Or.inr ⟨more, tail, hskip, hread⟩
      · cases h

/-- **Inversion.** A field is a name, a colon and a value; behind it the object is closed, or a comma and more
    fields follow. -/
theorem readFields_cases {hooks : Hooks V} {fuel : Nat} {text rest : List Char} {fields : List (List Nat × V)}
    (h : readFields hooks (fuel + 1) text = some (fields, rest)) :
    ∃ quoted name after more v behind, text = '"' :: quoted ∧ readString quoted = some (name, after)
      ∧ skip after = ':' :: more ∧ readValue hooks fuel (skip more) = some (v, behind) ∧
      (skip behind = '}' :: rest
        ∨ ∃ next tail, skip behind = ',' :: next ∧ readFields hooks fuel (skip next) = some (tail, rest)) := by
  unfold readFields at h
  split at h
  · next quoted =>
      split at h
      · cases h
      · next name after hname =>
          split at h
          · next more hcolon =>
              split at h
              · cases h
              · next v behind hvalue =>
                  refine ⟨quoted, name, after, more, v, behind, rfl, hname, hcolon, hvalue, ?_⟩
                  split at h
                  · next hskip =>
                      obtain ⟨-, rfl⟩ := Prod.mk.inj (Option.some.inj h)
                      exact Or.inl hskip
                  · next more' hskip =>
                      obtain ⟨tail, hread, -⟩ := map_read_eq_some.mp h
                      exact Or.inr ⟨more', tail, hskip, hread⟩
                  · cases h
          · cases h
  · cases h

/-! ## What is read is closed -/

/-- White space leaves a scan between values where it is. -/
theorem along_skip {depth : Nat} {s : Scan} (hs : s.Between depth) (text : List Char) :
    s.along (skip text) = s.along text := by
  induction text with
  | nil => rfl
  | cons c text ih =>
      rw [skip, List.dropWhile_cons]
      split
      · next hwhite =>
          have hstep : s.step c = s := by
            simp only [isWhite, Bool.or_eq_true, beq_iff_eq] at hwhite
            rcases hs with rfl | rfl
            · rcases hwhite with ((rfl | rfl) | rfl) | rfl <;> rfl
            · rcases hwhite with ((rfl | rfl) | rfl) | rfl <;> simp [Scan.step, isSpace]
          rw [Scan.along_cons, hstep]
          exact ih
      · rfl

theorem hexDigit?_isSome {c : Char} {n : Nat} (h : hexDigit? c = some n) : c ≠ '"' ∧ c ≠ '\\' := by
  constructor
  · rintro rfl
    cases h
  · rintro rfl
    cases h

/-- A hexadecimal digit of a string stays inside it. -/
theorem step_hexDigit {c : Char} {n : Nat} (h : hexDigit? c = some n) (depth : Nat) :
    (Scan.inString depth).step c = .inString depth := by
  obtain ⟨hquote, hbackslash⟩ := hexDigit?_isSome h
  simp [Scan.step, hquote, hbackslash]

theorem hexUnit?_eq_some {a b c d : Char} {unit : Nat} (h : hexUnit? a b c d = some unit) :
    ∃ i j k l, hexDigit? a = some i ∧ hexDigit? b = some j ∧ hexDigit? c = some k ∧ hexDigit? d = some l
      ∧ unit = 0x1000 * i + 0x100 * j + 0x10 * k + l := by
  simp only [hexUnit?, Option.bind_eq_bind, Option.bind_eq_some_iff, Option.pure_def, Option.some.injEq] at h
  obtain ⟨i, hi, j, hj, k, hk, l, hl, rfl⟩ := h
  exact ⟨i, j, k, l, hi, hj, hk, hl, rfl⟩

/-- A string is read up to the quote that closes it. -/
theorem along_readUnits {text : List Char} {units : List Nat} {rest : List Char}
    (h : readUnits text = some (units, rest)) (depth : Nat) :
    (Scan.inString depth).along text = (Scan.closed depth).along rest := by
  have hbackslash : (Scan.inString depth).step '\\' = .escaped depth := rfl
  fun_induction readUnits text generalizing units with
  | case1 => cases h
  | case2 text =>
      obtain ⟨rfl, rfl⟩ := Prod.mk.inj (Option.some.inj h)
      rfl
  | case3 => cases h
  | case4 a b c d text unit hunit ih =>
      obtain ⟨tail, hread, -⟩ := map_read_eq_some.mp h
      obtain ⟨i, j, k, l, ha, hb, hc, hd, -⟩ := hexUnit?_eq_some hunit
      have hletter : (Scan.escaped depth).step 'u' = .inString depth := rfl
      rw [Scan.along_cons, hbackslash, Scan.along_cons, hletter, Scan.along_cons, step_hexDigit ha, Scan.along_cons,
        step_hexDigit hb, Scan.along_cons, step_hexDigit hc, Scan.along_cons, step_hexDigit hd]
      exact ih hread
  | case5 => cases h
  | case6 c text _ unit hunit ih =>
      obtain ⟨tail, hread, -⟩ := map_read_eq_some.mp h
      have hescaped : (Scan.escaped depth).step c = .inString depth := rfl
      rw [Scan.along_cons, hbackslash, Scan.along_cons, hescaped]
      exact ih hread
  | case7 => cases h
  | case8 c text hquote hhex hshort hcontrol ih =>
      obtain ⟨tail, hread, -⟩ := map_read_eq_some.mp h
      have hnot : c ≠ '\\' := by
        rintro rfl
        cases text with
        | nil => cases hread
        | cons d text => exact hshort d text rfl rfl
      have hstep : (Scan.inString depth).step c = .inString depth := by simp [Scan.step, hnot, show c ≠ '"' from hquote]
      rw [Scan.along_cons, hstep]
      exact ih hread

theorem along_readString {text : List Char} {points : List Nat} {rest : List Char}
    (h : readString text = some (points, rest)) (depth : Nat) :
    (Scan.inString depth).along text = (Scan.closed depth).along rest := by
  obtain ⟨units, hread, -⟩ := map_read_eq_some.mp h
  exact along_readUnits hread depth

/-- The letters of a word are outside strings and are no brackets. -/
theorem along_word {hooks : Hooks V} {word : List Char} {v : V} (hword : (word, v) ∈ words hooks) (depth : Nat) :
    (Scan.outside depth).along word = .outside depth := by
  simp only [words, List.mem_cons, Prod.mk.injEq, List.not_mem_nil, or_false] at hword
  rcases hword with ⟨rfl, -⟩ | ⟨rfl, -⟩ | ⟨rfl, -⟩ | ⟨rfl, -⟩ | ⟨rfl, -⟩ | ⟨rfl, -⟩ <;> rfl

/-- **Inversion.** A scalar is a run of number characters or a word. -/
theorem readScalar_cases {hooks : Hooks V} {text rest : List Char} {v : V}
    (h : readScalar hooks text = some (v, rest)) :
    ∃ scalar, text = scalar ++ rest ∧ scalar ≠ [] ∧ ∀ depth, (Scan.outside depth).along scalar = .outside depth := by
  unfold readScalar at h
  split at h
  · next n hnumber =>
      split_ifs at h
      obtain ⟨rfl, rfl⟩ := Prod.mk.inj (Option.some.inj h)
      have hne : text.takeWhile isNumChar ≠ [] := by
        intro hnil
        rw [hnil] at hnumber
        cases hnumber
      exact ⟨text.takeWhile isNumChar, List.takeWhile_append_dropWhile.symm, hne, fun depth =>
        Scan.along_numChars depth fun c hc => List.mem_takeWhile_imp hc⟩
  · obtain ⟨⟨word, _⟩, hword, hread⟩ := List.exists_of_findSome?_eq_some h
    obtain ⟨rest', hprefix, heq⟩ := Option.map_eq_some_iff.mp hread
    obtain ⟨rfl, rfl⟩ := Prod.mk.inj heq
    refine ⟨word, (List.append_eq_of_isPrefixOf?_eq_some hprefix).symm, ?_, along_word hword⟩
    rintro rfl
    simp [words] at hword

/-- **What is read leaves a scan behind a value**: a value at its depth, items and fields behind the bracket that
    closes them. By induction on the fuel. -/
theorem along_read (hooks : Hooks V) (fuel : Nat) :
    (∀ {text v rest} (depth : Nat), readValue hooks fuel text = some (v, rest) →
      ∃ s : Scan, s.Between depth ∧ (Scan.outside depth).along text = s.along rest)
    ∧ (∀ {text items rest} (depth : Nat), readItems hooks fuel text = some (items, rest) →
      (Scan.outside (depth + 1)).along text = (Scan.closed depth).along rest)
    ∧ (∀ {text fields rest} (depth : Nat), readFields hooks fuel text = some (fields, rest) →
      (Scan.outside (depth + 1)).along text = (Scan.closed depth).along rest) := by
  have houtside : ∀ depth, (Scan.outside depth).Between depth := fun _ => Or.inl rfl
  induction fuel with
  | zero =>
      refine ⟨?_, ?_, ?_⟩
      · intro text v rest depth h
        cases h
      · intro text items rest depth h
        cases h
      · intro text fields rest depth h
        cases h
  | succ fuel ih =>
      obtain ⟨ihValue, ihItems, ihFields⟩ := ih
      refine ⟨?_, ?_, ?_⟩
      · intro text v rest depth h
        have hopens : ∀ c text, (Scan.outside depth).step c = .outside (depth + 1) →
            (Scan.outside depth).along (c :: text) = (Scan.outside (depth + 1)).along (skip text) := by
          intro c text hstep
          rw [along_skip (houtside _), Scan.along_cons, hstep]
        cases readValue_cases h with
        | string hread => exact ⟨_, Or.inr rfl, along_readString hread depth⟩
        | noItems hskip =>
            refine ⟨.closed depth, Or.inr rfl, ?_⟩
            rw [hopens _ _ rfl, hskip]
            rfl
        | items hread =>
            refine ⟨.closed depth, Or.inr rfl, ?_⟩
            rw [hopens _ _ rfl]
            exact ihItems depth hread
        | noFields hskip =>
            refine ⟨.closed depth, Or.inr rfl, ?_⟩
            rw [hopens _ _ rfl, hskip]
            rfl
        | fields hread =>
            refine ⟨.closed depth, Or.inr rfl, ?_⟩
            rw [hopens _ _ rfl]
            exact ihFields depth hread
        | scalar hread =>
            obtain ⟨scalar, rfl, -, hscalar⟩ := readScalar_cases hread
            refine ⟨.outside depth, houtside depth, ?_⟩
            rw [Scan.along_append, hscalar]
      · intro text items rest depth h
        obtain ⟨v, behind, hvalue, hrest⟩ := readItems_cases h
        obtain ⟨s, hs, hleads⟩ := ihValue (depth + 1) hvalue
        rw [hleads, ← along_skip hs]
        rcases hrest with hskip | ⟨more, tail, hskip, hread⟩
        · rw [hskip, Scan.along_cons, hs.close.2]
        · rw [hskip, Scan.along_cons, hs.comma, ← along_skip (houtside _)]
          exact ihItems depth hread
      · intro text fields rest depth h
        obtain ⟨quoted, name, after, more, v, behind, rfl, hname, hcolon, hvalue, hrest⟩ := readFields_cases h
        have hclosed : (Scan.closed (depth + 1)).Between (depth + 1) := Or.inr rfl
        have hquote : (Scan.outside (depth + 1)).step '"' = .inString (depth + 1) := rfl
        have hbegins : (Scan.closed (depth + 1)).step ':' = .outside (depth + 1) := rfl
        obtain ⟨s, hs, hleads⟩ := ihValue (depth + 1) hvalue
        rw [Scan.along_cons, hquote, along_readString hname, ← along_skip hclosed, hcolon, Scan.along_cons, hbegins,
          ← along_skip (houtside _), hleads, ← along_skip hs]
        rcases hrest with hskip | ⟨next, tail, hskip, hread⟩
        · rw [hskip, Scan.along_cons, hs.close.1]
        · rw [hskip, Scan.along_cons, hs.comma, ← along_skip (houtside _)]
          exact ihFields depth hread

/-- **Every text that is read closes what it opens.** -/
theorem readText_accepts {hooks : Hooks V} {text : List Char} {v : V} (h : readText hooks text = some v) :
    ((Scan.outside 0).along text).Accepts := by
  have houtside : (Scan.outside 0).Between 0 := Or.inl rfl
  unfold readText at h
  split at h
  · cases h
  · next v' rest hvalue =>
      split_ifs at h with hend
      obtain ⟨s, hs, hleads⟩ := (along_read hooks _).1 0 hvalue
      rw [← along_skip houtside, hleads, ← along_skip hs, hend]
      exact hs

/-! ## The fuel is enough -/

theorem skip_length (text : List Char) : (skip text).length ≤ text.length :=
  (List.dropWhile_suffix isWhite).length_le

theorem readUnits_length {text : List Char} {units : List Nat} {rest : List Char}
    (h : readUnits text = some (units, rest)) : rest.length < text.length := by
  fun_induction readUnits text generalizing units with
  | case1 => cases h
  | case2 text =>
      obtain ⟨-, rfl⟩ := Prod.mk.inj (Option.some.inj h)
      exact Nat.lt_succ_self _
  | case3 => cases h
  | case4 a b c d text unit hunit ih =>
      obtain ⟨tail, hread, -⟩ := map_read_eq_some.mp h
      have hlt := ih hread
      simp only [List.length_cons]
      omega
  | case5 => cases h
  | case6 c text _ unit hunit ih =>
      obtain ⟨tail, hread, -⟩ := map_read_eq_some.mp h
      have hlt := ih hread
      simp only [List.length_cons]
      omega
  | case7 => cases h
  | case8 c text _ _ _ _ ih =>
      obtain ⟨tail, hread, -⟩ := map_read_eq_some.mp h
      exact Nat.lt_succ_of_lt (ih hread)

theorem readString_length {text : List Char} {points : List Nat} {rest : List Char}
    (h : readString text = some (points, rest)) : rest.length < text.length := by
  obtain ⟨units, hread, -⟩ := map_read_eq_some.mp h
  exact readUnits_length hread

/-- **What is read is shorter.** -/
theorem read_length (hooks : Hooks V) (fuel : Nat) :
    (∀ {text v rest}, readValue hooks fuel text = some (v, rest) → rest.length < text.length)
    ∧ (∀ {text items rest}, readItems hooks fuel text = some (items, rest) → rest.length < text.length)
    ∧ (∀ {text fields rest}, readFields hooks fuel text = some (fields, rest) → rest.length < text.length) := by
  induction fuel with
  | zero =>
      refine ⟨?_, ?_, ?_⟩
      · intro text v rest h
        cases h
      · intro text items rest h
        cases h
      · intro text fields rest h
        cases h
  | succ fuel ih =>
      obtain ⟨ihValue, ihItems, ihFields⟩ := ih
      refine ⟨?_, ?_, ?_⟩
      · intro text v rest h
        have hcloses : ∀ {c d : Char} {text : List Char}, skip text = c :: rest → rest.length < (d :: text).length := by
          intro c d text hskip
          have hle := skip_length text
          rw [hskip, List.length_cons] at hle
          exact Nat.lt_succ_of_lt hle
        cases readValue_cases h with
        | string hread => exact Nat.lt_succ_of_lt (readString_length hread)
        | noItems hskip => exact hcloses hskip
        | items hread => exact Nat.lt_succ_of_lt (Nat.lt_of_lt_of_le (ihItems hread) (skip_length _))
        | noFields hskip => exact hcloses hskip
        | fields hread => exact Nat.lt_succ_of_lt (Nat.lt_of_lt_of_le (ihFields hread) (skip_length _))
        | scalar hread =>
            obtain ⟨scalar, rfl, hne, -⟩ := readScalar_cases hread
            have hpos := List.length_pos_of_ne_nil hne
            rw [List.length_append]
            omega
      · intro text items rest h
        obtain ⟨v, behind, hvalue, hrest⟩ := readItems_cases h
        have hshort := ihValue hvalue
        have hskips := skip_length behind
        rcases hrest with hskip | ⟨more, tail, hskip, hread⟩
        · rw [hskip, List.length_cons] at hskips
          omega
        · have hmore := ihItems hread
          have hskipped := skip_length more
          rw [hskip, List.length_cons] at hskips
          omega
      · intro text fields rest h
        obtain ⟨quoted, name, after, more, v, behind, rfl, hname, hcolon, hvalue, hrest⟩ := readFields_cases h
        have hquoted := readString_length hname
        have hafter := skip_length after
        have hvalued := ihValue hvalue
        have hskipped := skip_length more
        have hskips := skip_length behind
        rw [hcolon, List.length_cons] at hafter
        rw [List.length_cons]
        rcases hrest with hskip | ⟨next, tail, hskip, hread⟩
        · rw [hskip, List.length_cons] at hskips
          omega
        · have hmore := ihFields hread
          have hnext := skip_length next
          rw [hskip, List.length_cons] at hskips
          omega

/-- **Any two amounts of fuel that are enough read the same.** By induction on the first. -/
theorem read_fuel (hooks : Hooks V) (fuel : Nat) : ∀ fuel',
    (∀ text : List Char, 2 * text.length < fuel → 2 * text.length < fuel' →
      readValue hooks fuel text = readValue hooks fuel' text)
    ∧ (∀ text : List Char, 2 * text.length + 1 < fuel → 2 * text.length + 1 < fuel' →
      readItems hooks fuel text = readItems hooks fuel' text)
    ∧ (∀ text : List Char, 2 * text.length + 1 < fuel → 2 * text.length + 1 < fuel' →
      readFields hooks fuel text = readFields hooks fuel' text) := by
  induction fuel with
  | zero => exact fun fuel' => ⟨fun _ h => absurd h (Nat.not_lt_zero _), fun _ h => absurd h (Nat.not_lt_zero _),
      fun _ h => absurd h (Nat.not_lt_zero _)⟩
  | succ fuel ih =>
      intro fuel'
      cases fuel' with
      | zero => exact ⟨fun _ _ h => absurd h (Nat.not_lt_zero _), fun _ _ h => absurd h (Nat.not_lt_zero _),
          fun _ _ h => absurd h (Nat.not_lt_zero _)⟩
      | succ fuel' =>
          obtain ⟨ihValue, ihItems, ihFields⟩ := ih fuel'
          refine ⟨?_, ?_, ?_⟩
          · intro text henough henough'
            unfold readValue
            split
            · rfl
            · next text =>
                have hle := skip_length text
                rw [List.length_cons] at henough henough'
                rw [ihItems (skip text) (by omega) (by omega)]
            · next text =>
                have hle := skip_length text
                rw [List.length_cons] at henough henough'
                rw [ihFields (skip text) (by omega) (by omega)]
            · rfl
          · intro text henough henough'
            unfold readItems
            rw [ihValue text (by omega) (by omega)]
            split
            · rfl
            · next v behind hvalue =>
                have hshort := (read_length hooks fuel').1 hvalue
                have hskips := skip_length behind
                split
                · rfl
                · next more hskip =>
                    have hskipped := skip_length more
                    rw [hskip, List.length_cons] at hskips
                    rw [ihItems (skip more) (by omega) (by omega)]
                · rfl
          · intro text henough henough'
            unfold readFields
            split
            · next quoted =>
                split
                · rfl
                · next name after hname =>
                    split
                    · next more hcolon =>
                        have hquoted := readString_length hname
                        have hafter := skip_length after
                        have hskipped := skip_length more
                        rw [hcolon, List.length_cons] at hafter
                        rw [List.length_cons] at henough henough'
                        rw [ihValue (skip more) (by omega) (by omega)]
                        split
                        · rfl
                        · next v behind hvalue =>
                            have hvalued := (read_length hooks fuel').1 hvalue
                            have hskips := skip_length behind
                            split
                            · rfl
                            · next next hskip =>
                                have hnext := skip_length next
                                rw [hskip, List.length_cons] at hskips
                                rw [ihFields (skip next) (by omega) (by omega)]
                            · rfl
                    · rfl
            · rfl

/-! ## What was written is read -/

/-- The code points of a string. -/
def codePoints (s : String) : List Nat := s.toList.map Char.toNat

mutual

/-- What the hooks make of a value. -/
def fold (hooks : Hooks V) : Json → V
  | .null => hooks.null
  | .bool b => hooks.bool b
  | .num n => hooks.number n
  | .str s => hooks.string (codePoints s)
  | .arr items => hooks.array (foldItems hooks items)
  | .obj fields => hooks.object (foldFields hooks fields)

def foldItems (hooks : Hooks V) : List Json → List V
  | [] => []
  | j :: rest => fold hooks j :: foldItems hooks rest

def foldFields (hooks : Hooks V) : List (String × Json) → List (List Nat × V)
  | [] => []
  | (name, j) :: rest => (codePoints name, fold hooks j) :: foldFields hooks rest

end

mutual

/-- A value whose numbers are JSON numbers. -/
def standard : Json → Bool
  | .null | .bool _ | .str _ => true
  | .num n => isNumber n.text
  | .arr items => standardItems items
  | .obj fields => standardFields fields

def standardItems : List Json → Bool
  | [] => true
  | j :: rest => standard j && standardItems rest

def standardFields : List (String × Json) → Bool
  | [] => true
  | (_, j) :: rest => standard j && standardFields rest

end

mutual

/-- A value whose numbers the hooks take. -/
def taken (hooks : Hooks V) : Json → Bool
  | .null | .bool _ | .str _ => true
  | .num n => hooks.takes n
  | .arr items => takenItems hooks items
  | .obj fields => takenFields hooks fields

def takenItems (hooks : Hooks V) : List Json → Bool
  | [] => true
  | j :: rest => taken hooks j && takenItems hooks rest

def takenFields (hooks : Hooks V) : List (String × Json) → Bool
  | [] => true
  | (_, j) :: rest => taken hooks j && takenFields hooks rest

end

theorem readUnits_escapeChar (c : Char) (text : List Char) :
    readUnits (escapeChar c ++ text) = (readUnits text).map fun (units, rest) => (c.toNat :: units, rest) := by
  unfold escapeChar
  split_ifs with hquote hbackslash hcontrol
  · rw [hquote]
    rfl
  · rw [hbackslash]
    rfl
  · have hescapes : ∀ n < 0x20, readUnits (escapeControl n ++ text)
        = (readUnits text).map fun (units, rest) => (n :: units, rest) := by
      intro n hn
      interval_cases n <;> rfl
    exact hescapes c.toNat hcontrol
  · simp [readUnits, hbackslash, hcontrol]

theorem readUnits_escape (s rest : List Char) :
    readUnits (escape s ++ '"' :: rest) = some (s.map Char.toNat, rest) := by
  induction s with
  | nil => rfl
  | cons c s ih =>
      have hescape : escape (c :: s) ++ '"' :: rest = escapeChar c ++ (escape s ++ '"' :: rest) := by
        rw [escape, List.flatMap_cons, List.append_assoc]
        rfl
      rw [hescape, readUnits_escapeChar, ih]
      rfl

/-- No character is a surrogate. -/
theorem joinSurrogates_toNat (s : List Char) : joinSurrogates (s.map Char.toNat) = s.map Char.toNat := by
  induction s with
  | nil => rfl
  | cons c s ih =>
      cases s with
      | nil => rfl
      | cons d s =>
          have hscalar : ¬(0xd800 ≤ c.toNat ∧ c.toNat ≤ 0xdbff ∧ 0xdc00 ≤ d.toNat ∧ d.toNat ≤ 0xdfff) := by
            rintro ⟨hlow, hhigh, -, -⟩
            have hvalid : c.toNat < 0xd800 ∨ 0xdfff < c.toNat ∧ c.toNat < 0x110000 := c.valid
            omega
          rw [List.map_cons, List.map_cons, joinSurrogates, if_neg hscalar, ← List.map_cons (l := s), ih]

theorem readString_renderString (s : String) (rest : List Char) :
    readString (escape s.toList ++ '"' :: rest) = some (codePoints s, rest) := by
  have hread := readUnits_escape s.toList rest
  exact map_read_eq_some.mpr ⟨_, hread, joinSurrogates_toNat s.toList⟩

theorem number?_text {n : NumLit} (h : isNumber n.text = true) : number? n.text = some n := by
  rw [number?, dif_pos (spellsNumber_iff.mpr ⟨n.text_ne, n.chars, h⟩)]

theorem readScalar_number {hooks : Hooks V} {n : NumLit} (hn : isNumber n.text = true)
    (htaken : hooks.takes n = true) {s : List Char} (hs : Delimited s) :
    readScalar hooks (n.text ++ s) = some (hooks.number n, s) := by
  have htake := n.takeWhile_append hs
  have hdrop : (n.text ++ s).dropWhile isNumChar = s := by
    have hsplit := List.takeWhile_append_dropWhile (p := isNumChar) (l := n.text ++ s)
    rw [htake] at hsplit
    exact List.append_cancel_left hsplit
  rw [readScalar, htake, number?_text hn, hdrop]
  exact if_pos htaken

/-- A value does not begin with white space. -/
theorem skip_render (j : Json) (s : List Char) : skip (j.render ++ s) = j.render ++ s := by
  obtain ⟨c, l, hrender, hwhite⟩ : ∃ c l, j.render = c :: l ∧ isWhite c = false := by
    cases j with
    | null => exact ⟨'n', ['u', 'l', 'l'], by simp [Json.render], by decide⟩
    | bool b =>
        cases b with
        | true => exact ⟨'t', ['r', 'u', 'e'], by simp [Json.render], by decide⟩
        | false => exact ⟨'f', ['a', 'l', 's', 'e'], by simp [Json.render], by decide⟩
    | num n =>
        obtain ⟨c, l, hcl⟩ := List.exists_cons_of_ne_nil n.text_ne
        have hc : isNumChar c = true := n.chars c (hcl ▸ List.mem_cons_self)
        refine ⟨c, l, by simp [Json.render, hcl], ?_⟩
        by_contra hwhite
        simp only [isWhite, Bool.not_eq_false, Bool.or_eq_true, beq_iff_eq] at hwhite
        rcases hwhite with ((rfl | rfl) | rfl) | rfl <;> exact absurd hc (by decide)
    | str s => exact ⟨'"', escape s.toList ++ ['"'], by simp [Json.render, renderString], by decide⟩
    | arr items => exact ⟨'[', (Json.renderItems items).tail ++ [']'], by simp [Json.render], by decide⟩
    | obj fields => exact ⟨'{', (Json.renderFields fields).tail ++ ['}'], by simp [Json.render], by decide⟩
  rw [hrender, List.cons_append, skip, List.dropWhile_cons_of_neg (by simp [hwhite])]

/-- What begins with none of the three openings is a scalar. -/
theorem readValue_scalar (hooks : Hooks V) (fuel : Nat) {c : Char} {text : List Char} (hquote : c ≠ '"')
    (hbracket : c ≠ '[') (hbrace : c ≠ '{') :
    readValue hooks (fuel + 1) (c :: text) = readScalar hooks (c :: text) := by
  simp [readValue, hquote, hbracket, hbrace]

/-- An array with an item. -/
theorem readValue_items (hooks : Hooks V) (fuel : Nat) (j : Json) (s : List Char) :
    readValue hooks (fuel + 1) ('[' :: (j.render ++ s))
      = (readItems hooks fuel (j.render ++ s)).map fun (items, rest) => (hooks.array items, rest) := by
  have hopen : ∀ rest, j.render ++ s ≠ ']' :: rest := by
    intro rest heq
    obtain ⟨c, l, hrender, -, hc⟩ := Json.render_head j
    rw [hrender] at heq
    exact hc (List.cons.inj heq).1
  unfold readValue
  simp only [skip_render]

mutual

/-- **A value is read back from its text**, if its numbers are JSON numbers that are taken and what follows extends
    none. -/
theorem readValue_render (hooks : Hooks V) (fuel : Nat) (j : Json) (hj : standard j = true)
    (htaken : taken hooks j = true) {s : List Char} (hs : Delimited s) (henough : 2 * (j.render ++ s).length < fuel) :
    readValue hooks fuel (j.render ++ s) = some (fold hooks j, s) := by
  obtain ⟨fuel, rfl⟩ := Nat.exists_eq_succ_of_ne_zero (Nat.ne_of_gt (Nat.lt_of_le_of_lt (Nat.zero_le _) henough))
  cases j with
  | null =>
      rw [Json.render, List.cons_append, readValue_scalar hooks fuel (by decide) (by decide) (by decide)]
      rfl
  | bool b =>
      cases b with
      | true =>
          rw [Json.render, List.cons_append, readValue_scalar hooks fuel (by decide) (by decide) (by decide)]
          rfl
      | false =>
          rw [Json.render, List.cons_append, readValue_scalar hooks fuel (by decide) (by decide) (by decide)]
          rfl
  | num n =>
      obtain ⟨c, l, hcl⟩ := List.exists_cons_of_ne_nil n.text_ne
      have hc : isNumChar c = true := n.chars c (hcl ▸ List.mem_cons_self)
      have hne : ∀ special, isNumChar special = false → c ≠ special := by
        rintro special hspecial rfl
        rw [hspecial] at hc
        cases hc
      have hscalar := readScalar_number hj htaken hs
      rw [hcl] at hscalar
      rw [Json.render, hcl, List.cons_append, readValue_scalar hooks fuel (hne _ (by decide)) (hne _ (by decide))
        (hne _ (by decide))]
      exact hscalar
  | str string =>
      have hread := readString_renderString string s
      rw [Json.render, renderString, List.cons_append, List.append_assoc]
      unfold readValue
      exact map_read_eq_some.mpr ⟨_, hread, rfl⟩
  | arr items =>
      cases items with
      | nil => rfl
      | cons i rest =>
          have htext : (Json.arr (i :: rest)).render ++ s
              = '[' :: (i.render ++ (Json.renderItems rest ++ ']' :: s)) := by simp [Json.render, Json.renderItems]
          rw [htext, List.length_cons] at henough
          have hitems := readItems_render hooks fuel i rest hj htaken s (by omega)
          rw [htext, readValue_items]
          exact map_read_eq_some.mpr ⟨_, hitems, rfl⟩
  | obj fields =>
      cases fields with
      | nil => rfl
      | cons field rest =>
          obtain ⟨name, i⟩ := field
          have htext : (Json.obj ((name, i) :: rest)).render ++ s
              = '{' :: '"' :: (escape name.toList ++ '"' :: ':' ::
                (i.render ++ (Json.renderFields rest ++ '}' :: s))) := by
            simp [Json.render, Json.renderFields, renderString]
          rw [htext, List.length_cons] at henough
          have hfields := readFields_render hooks fuel name i rest hj htaken s (by omega)
          rw [htext]
          unfold readValue
          exact map_read_eq_some.mpr ⟨_, hfields, rfl⟩

/-- So are the items of an array, behind its bracket. -/
theorem readItems_render (hooks : Hooks V) (fuel : Nat) (j : Json) (rest : List Json)
    (hj : standardItems (j :: rest) = true) (htaken : takenItems hooks (j :: rest) = true) (s : List Char)
    (henough : 2 * (j.render ++ (Json.renderItems rest ++ ']' :: s)).length + 1 < fuel) :
    readItems hooks fuel (j.render ++ (Json.renderItems rest ++ ']' :: s)) = some (foldItems hooks (j :: rest), s) := by
  obtain ⟨fuel, rfl⟩ := Nat.exists_eq_succ_of_ne_zero (Nat.ne_of_gt (Nat.lt_of_le_of_lt (Nat.zero_le _) henough))
  rw [standardItems, Bool.and_eq_true] at hj
  rw [takenItems, Bool.and_eq_true] at htaken
  have hvalue := readValue_render hooks fuel j hj.1 htaken.1 (Json.renderItems_delimited rest s)
    (Nat.lt_of_succ_lt_succ henough)
  unfold readItems
  rw [hvalue]
  cases rest with
  | nil => rfl
  | cons i rest =>
      have htext : Json.renderItems (i :: rest) ++ ']' :: s
          = ',' :: (i.render ++ (Json.renderItems rest ++ ']' :: s)) := by simp [Json.renderItems]
      have hcomma : ∀ text, skip (',' :: text) = ',' :: text := fun _ => rfl
      rw [htext, List.length_append, List.length_cons] at henough
      have hitems := readItems_render hooks fuel i rest hj.2 htaken.2 s (by omega)
      rw [htext]
      simp only [hcomma, skip_render]
      exact map_read_eq_some.mpr ⟨_, hitems, rfl⟩

/-- And the fields of an object. -/
theorem readFields_render (hooks : Hooks V) (fuel : Nat) (name : String) (j : Json) (rest : List (String × Json))
    (hj : standardFields ((name, j) :: rest) = true) (htaken : takenFields hooks ((name, j) :: rest) = true)
    (s : List Char)
    (henough : 2 * ('"' :: (escape name.toList ++ '"' :: ':' ::
      (j.render ++ (Json.renderFields rest ++ '}' :: s)))).length + 1 < fuel) :
    readFields hooks fuel ('"' :: (escape name.toList ++ '"' :: ':' ::
        (j.render ++ (Json.renderFields rest ++ '}' :: s))))
      = some (foldFields hooks ((name, j) :: rest), s) := by
  obtain ⟨fuel, rfl⟩ := Nat.exists_eq_succ_of_ne_zero (Nat.ne_of_gt (Nat.lt_of_le_of_lt (Nat.zero_le _) henough))
  rw [standardFields, Bool.and_eq_true] at hj
  rw [takenFields, Bool.and_eq_true] at htaken
  have hbehind : ∀ tail : List Char, tail.length + 3 ≤ ('"' :: (escape name.toList ++ '"' :: ':' :: tail)).length := by
    intro tail
    simp only [List.length_cons, List.length_append]
    omega
  have hlonger := hbehind (j.render ++ (Json.renderFields rest ++ '}' :: s))
  have hname := readString_renderString name (':' :: (j.render ++ (Json.renderFields rest ++ '}' :: s)))
  have hvalue := readValue_render hooks fuel j hj.1 htaken.1 (Json.renderFields_delimited rest s) (by omega)
  have hcolon : ∀ text, skip (':' :: text) = ':' :: text := fun _ => rfl
  unfold readFields
  simp only [hname, hcolon, skip_render, hvalue]
  cases rest with
  | nil => rfl
  | cons field rest =>
      obtain ⟨next, i⟩ := field
      have htext : Json.renderFields ((next, i) :: rest) ++ '}' :: s
          = ',' :: '"' :: (escape next.toList ++ '"' :: ':' :: (i.render ++ (Json.renderFields rest ++ '}' :: s))) := by
        simp [Json.renderFields, renderString]
      have hskip : ∀ text, skip (',' :: '"' :: text) = ',' :: '"' :: text := fun _ => rfl
      have hquote : ∀ text, skip ('"' :: text) = '"' :: text := fun _ => rfl
      rw [htext, List.length_append, List.length_cons] at hlonger
      rw [htext] at henough
      have hfields := readFields_render hooks fuel next i rest hj.2 htaken.2 s (by omega)
      rw [htext]
      simp only [hskip, hquote]
      exact map_read_eq_some.mpr ⟨_, hfields, rfl⟩

end

/-- **What was written is read back**, whatever the hooks make of it. -/
theorem readText_render {hooks : Hooks V} {j : Json} (hj : standard j = true) (htaken : taken hooks j = true) :
    readText hooks j.render = some (fold hooks j) := by
  have hread := readValue_render hooks (2 * j.render.length + 1) j hj htaken delimited_nil
    (by rw [List.append_nil]; exact Nat.lt_succ_self _)
  have hskip := skip_render j []
  rw [List.append_nil] at hread hskip
  rw [readText, hskip, hread]
  rfl

/-- **More fuel reads no other text.** -/
theorem readText_fuel (hooks : Hooks V) (text : List Char) {fuel : Nat} (henough : 2 * text.length < fuel) :
    readValue hooks fuel (skip text) = readValue hooks (2 * text.length + 1) (skip text) := by
  have hle := skip_length text
  exact (read_fuel hooks fuel _).1 (skip text) (by omega) (by omega)

/-! ## Integers are JSON numbers -/

/-- The decimal text of a positive number does not begin with a zero. -/
theorem toDigits_head {n : Nat} (hpos : 0 < n) : ∃ c text, Nat.toDigits 10 n = c :: text ∧ c ≠ '0' := by
  induction n using Nat.strongRecOn with
  | ind n ih =>
      by_cases hsmall : n < 10
      · refine ⟨n.digitChar, [], Nat.toDigits_of_lt_base hsmall, ?_⟩
        interval_cases n <;> decide
      · have hge : 10 ≤ n := Nat.not_lt.mp hsmall
        obtain ⟨c, text, htext, hc⟩ := ih (n / 10) (by omega) (by omega)
        refine ⟨c, text ++ [(n % 10).digitChar], ?_, hc⟩
        rw [Nat.toDigits_of_base_le (by decide) hge, htext, List.cons_append]

theorem isUnsigned_toDigits (n : Nat) : isUnsigned (Nat.toDigits 10 n) = true := by
  have hdigit : ∀ c ∈ Nat.toDigits 10 n, c.isDigit = true :=
    fun c hc => Nat.isDigit_of_mem_toDigits (by decide) (by decide) hc
  have htake : (Nat.toDigits 10 n).takeWhile Char.isDigit = Nat.toDigits 10 n := List.takeWhile_eq_self_iff.mpr hdigit
  have hdrop : (Nat.toDigits 10 n).dropWhile Char.isDigit = [] := List.dropWhile_eq_nil_iff.mpr hdigit
  have hwhole : isWhole (Nat.toDigits 10 n) = true := by
    rcases Nat.eq_zero_or_pos n with rfl | hpos
    · rfl
    · obtain ⟨c, text, htext, hc⟩ := toDigits_head hpos
      have hdigits : isDigits (Nat.toDigits 10 n) = true := by
        rw [isDigits, List.all_eq_true.mpr hdigit, htext]
        rfl
      rw [htext] at hdigits ⊢
      simp [isWhole, hc, hdigits]
  rw [isUnsigned, htake, hdrop, hwhole]
  rfl

/-- An integer is written as a JSON number. -/
theorem isNumber_decimal (i : Int) : isNumber (decimal i) = true := by
  cases i with
  | ofNat n =>
      have hunsigned := isUnsigned_toDigits n
      obtain ⟨c, text, htext⟩ := List.exists_cons_of_ne_nil (Nat.toDigits_ne_nil (n := n) (b := 10))
      have hdigit : c.isDigit = true :=
        Nat.isDigit_of_mem_toDigits (by decide) (by decide) (htext ▸ List.mem_cons_self)
      have hsign : c ≠ '-' := by
        rintro rfl
        exact absurd hdigit (by decide)
      rw [decimal]
      rw [htext] at hunsigned ⊢
      simpa [isNumber, hsign] using hunsigned
  | negSucc n => exact isUnsigned_toDigits (n + 1)

end JsonReader
end Lib
