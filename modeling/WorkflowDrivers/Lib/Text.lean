import Mathlib.Data.List.Dedup
import Mathlib.Data.List.Sort
import Mathlib.Data.String.Basic

/-!
# `Lib.Text` — the string operations of the source language

The operations that differ from Lean's own: `splitlines`, whose notion of a line boundary is wider than the
newline; the blank test of `strip`; reading with universal newlines; `sorted` of a set of strings; the loop that
keeps first occurrences; and `repr` of a string. Lines are lists of characters here, since every fact about them
is proved by induction on the characters.

The facts about `splitlines` are about one **record** of a line-oriented log, a text followed by a newline:
a record can be split off from what follows it (`splitlinesFrom_record`), it is one line when it contains no
boundary (`splitlinesFrom_clean`), and no character other than a boundary is lost (`mem_splitlinesFrom`).
-/

namespace Lib

/-! ## Lines -/

/-- The characters `str.splitlines` treats as a line boundary. -/
def isLineBoundary (c : Char) : Bool :=
  c == '\n' || c == '\r' || c == '\x0b' || c == '\x0c' || c == '\x1c' || c == '\x1d' || c == '\x1e'
    || c == '\u0085' || c == '\u2028' || c == '\u2029'

/-- `splitlines` with the characters of the current line, in reverse, already read. `afterCr` says that the
    character before was a carriage return, whose newline belongs to it; a text that ends at a boundary has
    no further, empty, line. -/
def splitlinesFrom (afterCr : Bool) (cur : List Char) : List Char → List (List Char)
  | [] => if cur = [] then [] else [cur.reverse]
  | c :: rest =>
      if afterCr && c == '\n' then splitlinesFrom false cur rest
      else if isLineBoundary c then cur.reverse :: splitlinesFrom (c == '\r') [] rest
      else splitlinesFrom false (c :: cur) rest

/-- `str.splitlines()`. -/
def splitlines (text : List Char) : List (List Char) := splitlinesFrom false [] text

/-- Whitespace for `str.strip`. -/
def isSpace (c : Char) : Bool :=
  let n := c.toNat
  (0x09 ≤ n && n ≤ 0x0d) || (0x1c ≤ n && n ≤ 0x20) || n == 0x85 || n == 0xa0 || n == 0x1680
    || (0x2000 ≤ n && n ≤ 0x200a) || n == 0x2028 || n == 0x2029 || n == 0x202f || n == 0x205f || n == 0x3000

/-- `not line.strip()`. -/
def isBlank (line : List Char) : Bool := line.all isSpace

/-- Reading a text file: `\r\n` and `\r` arrive as `\n`. -/
def universalNewlines (afterCr : Bool) : List Char → List Char
  | [] => []
  | c :: rest =>
      if afterCr && c == '\n' then universalNewlines false rest
      else (if c == '\r' then '\n' else c) :: universalNewlines (c == '\r') rest

theorem isBlank_eq_false {line : List Char} {c : Char} (hc : c ∈ line) (hs : isSpace c = false) :
    isBlank line = false := by
  rw [isBlank, List.all_eq_false]
  exact ⟨c, hc, by simp [hs]⟩

/-- A text without carriage returns is read as it is. -/
theorem universalNewlines_eq_self {text : List Char} (h : '\r' ∉ text) :
    universalNewlines false text = text := by
  induction text with
  | nil => rfl
  | cons c rest ih =>
      have hc : (c == '\r') = false := beq_false_of_ne fun he => h (he ▸ List.mem_cons_self)
      have hrest : '\r' ∉ rest := fun hm => h (List.mem_cons_of_mem _ hm)
      rw [universalNewlines, hc, ih hrest]
      rfl

/-- One step on a character that is not a carriage return. -/
theorem splitlinesFrom_cons {cur rest : List Char} {c : Char} (hc : c ≠ '\r') :
    splitlinesFrom false cur (c :: rest) =
      if isLineBoundary c then cur.reverse :: splitlinesFrom false [] rest
      else splitlinesFrom false (c :: cur) rest := by
  rw [splitlinesFrom, beq_false_of_ne hc]
  rfl

/-- **A record can be split off.** The newline that ends it starts a fresh line for the rest. -/
theorem splitlinesFrom_record {a : List Char} (ha : '\r' ∉ a) (cur b : List Char) :
    splitlinesFrom false cur (a ++ '\n' :: b) =
      splitlinesFrom false cur (a ++ ['\n']) ++ splitlinesFrom false [] b := by
  induction a generalizing cur with
  | nil =>
      rw [List.nil_append, List.nil_append, splitlinesFrom_cons (by decide), splitlinesFrom_cons (by decide),
        if_pos (by decide), if_pos (by decide)]
      rfl
  | cons c a ih =>
      have hc : c ≠ '\r' := fun he => ha (he ▸ List.mem_cons_self)
      have ha' : '\r' ∉ a := fun hm => ha (List.mem_cons_of_mem _ hm)
      rw [List.cons_append, List.cons_append, splitlinesFrom_cons hc, splitlinesFrom_cons hc]
      split
      · rw [ih ha', List.cons_append]
      · exact ih ha' (c :: cur)

/-- A record without a boundary is one line. -/
theorem splitlinesFrom_clean {a : List Char} (ha : ∀ c ∈ a, isLineBoundary c = false) (cur : List Char) :
    splitlinesFrom false cur (a ++ ['\n']) = [cur.reverse ++ a] := by
  induction a generalizing cur with
  | nil =>
      rw [List.nil_append, splitlinesFrom_cons (by decide), if_pos (by decide), List.append_nil]
      rfl
  | cons c a ih =>
      have hc : isLineBoundary c = false := ha c List.mem_cons_self
      have hr : c ≠ '\r' := by rintro rfl; exact absurd hc (by decide)
      rw [List.cons_append, splitlinesFrom_cons hr, if_neg (by simp [hc]),
        ih (fun d hd => ha d (List.mem_cons_of_mem _ hd))]
      simp

/-- The first boundary of a text ends its first line. -/
theorem splitlinesFrom_boundary {p : List Char} (hp : ∀ c ∈ p, isLineBoundary c = false) {c : Char}
    (hc : isLineBoundary c = true) (hr : c ≠ '\r') (cur q : List Char) :
    splitlinesFrom false cur (p ++ c :: q) = (cur.reverse ++ p) :: splitlinesFrom false [] q := by
  induction p generalizing cur with
  | nil => rw [List.nil_append, splitlinesFrom_cons hr, if_pos hc, List.append_nil]
  | cons d p ih =>
      have hd : isLineBoundary d = false := hp d List.mem_cons_self
      have hdr : d ≠ '\r' := by rintro rfl; exact absurd hd (by decide)
      rw [List.cons_append, splitlinesFrom_cons hdr, if_neg (by simp [hd]),
        ih (fun e he => hp e (List.mem_cons_of_mem _ he))]
      simp

/-- No character other than a boundary is lost by splitting. -/
theorem mem_splitlinesFrom {a cur : List Char} {c : Char} (hb : isLineBoundary c = false) (ha : '\r' ∉ a)
    (hc : c ∈ cur ∨ c ∈ a) : ∃ line ∈ splitlinesFrom false cur a, c ∈ line := by
  induction a generalizing cur with
  | nil =>
      have hcur : c ∈ cur := by simpa using hc
      have hne : cur ≠ [] := List.ne_nil_of_mem hcur
      exact ⟨cur.reverse, by simp [splitlinesFrom, hne], by simpa using hcur⟩
  | cons d a ih =>
      have hd : d ≠ '\r' := fun he => ha (he ▸ List.mem_cons_self)
      have ha' : '\r' ∉ a := fun hm => ha (List.mem_cons_of_mem _ hm)
      rw [splitlinesFrom_cons hd]
      split
      · next hdb =>
          have hcd : c ≠ d := by rintro rfl; rw [hb] at hdb; exact absurd hdb (by decide)
          rcases hc with hc | hc
          · exact ⟨cur.reverse, List.mem_cons_self, by simpa using hc⟩
          · have hca : c ∈ a := (List.mem_cons.mp hc).resolve_left hcd
            have hrest : ∃ line ∈ splitlinesFrom false [] a, c ∈ line := ih ha' (Or.inr hca)
            obtain ⟨line, hline, hmem⟩ := hrest
            exact ⟨line, List.mem_cons_of_mem _ hline, hmem⟩
      · refine ih ha' ?_
        rcases hc with hc | hc
        · exact Or.inl (List.mem_cons_of_mem _ hc)
        · rcases List.mem_cons.mp hc with rfl | hc
          · exact Or.inl List.mem_cons_self
          · exact Or.inr hc

/-! ## Sorted sets of strings -/

/-- `sorted(left - right)` for the sets of two lists of strings. -/
def sortedDifference (left right : List String) : List String :=
  ((left.filter (fun s => !right.contains s)).dedup).insertionSort (· ≤ ·)

@[simp] theorem mem_sortedDifference {left right : List String} {s : String} :
    s ∈ sortedDifference left right ↔ s ∈ left ∧ s ∉ right := by
  simp [sortedDifference, List.mem_insertionSort]

/-- Nothing is left over exactly when the left set is contained in the right one. -/
theorem sortedDifference_eq_nil {left right : List String} :
    sortedDifference left right = [] ↔ ∀ s ∈ left, s ∈ right := by
  simp only [List.eq_nil_iff_forall_not_mem, mem_sortedDifference, not_and, not_not]

/-! ## First occurrences -/

/-- A loop that adds what it has not seen keeps the first occurrences. -/
theorem foldl_unseen {α β : Type} [DecidableEq β] (f : α → β) (items : List α) (seen : List β) :
    items.foldl (fun seen item => if f item ∈ seen then seen else seen ++ [f item]) seen
      = seen ++ ((items.map f).filter (fun b => !seen.contains b)).eraseDups := by
  induction items generalizing seen with
  | nil => simp
  | cons item rest ih =>
      rw [List.foldl_cons, List.map_cons]
      by_cases hseen : f item ∈ seen
      · rw [if_pos hseen, ih, List.filter_cons_of_neg (by simpa using hseen)]
      · rw [if_neg hseen, ih, List.filter_cons_of_pos (by simpa using hseen), List.eraseDups_cons,
          List.append_assoc, List.singleton_append, List.filter_filter]
        -- both sides have seen `seen` and the new one
        congr 4
        funext b
        by_cases hb : b = f item <;> simp [hb]

/-! ## `repr` of a string -/

/-- What `repr` asks the interpreter's Unicode database about a character outside ASCII. The database is
    part of the interpreter's version, so it is a parameter. -/
class UnicodeData where
  isPrintable : Char → Bool

/-- The database that prints nothing outside ASCII as it is. -/
abbrev asciiOnly : UnicodeData := ⟨fun _ => false⟩

/-- The case mappings of the source language, `str.lower` and `str.upper`. -/
class CaseMapping where
  lower : String → String
  upper : String → String

/-- The case mappings that know ASCII letters only. -/
abbrev asciiCase : CaseMapping where
  lower := String.map Char.toLower
  upper := String.map Char.toUpper

/-- A number as hexadecimal digits, padded to a width. -/
def hexDigits (width n : Nat) : List Char :=
  let digits := Nat.toDigits 16 n
  List.replicate (width - digits.length) '0' ++ digits

/-- One character of a string literal delimited by `quote`. -/
def reprChar [UnicodeData] (quote c : Char) : List Char :=
  if c = quote ∨ c = '\\' then ['\\', c]
  else if c = '\t' then ['\\', 't']
  else if c = '\n' then ['\\', 'n']
  else if c = '\r' then ['\\', 'r']
  else if c.toNat < 0x20 ∨ c.toNat = 0x7f then ['\\', 'x'] ++ hexDigits 2 c.toNat
  else if c.toNat < 0x7f then [c]
  else if UnicodeData.isPrintable c then [c]
  else if c.toNat ≤ 0xff then ['\\', 'x'] ++ hexDigits 2 c.toNat
  else if c.toNat ≤ 0xffff then ['\\', 'u'] ++ hexDigits 4 c.toNat
  else ['\\', 'U'] ++ hexDigits 8 c.toNat

/-- `repr(s)`: single quotes unless the string has single quotes and no double quotes. -/
def pyRepr [UnicodeData] (s : String) : String :=
  let chars := s.toList
  let quote := if '\'' ∈ chars ∧ '"' ∉ chars then '"' else '\''
  String.ofList (quote :: (chars.flatMap (reprChar quote) ++ [quote]))

/-- `repr` of an optional string. -/
def pyReprOption [UnicodeData] : Option String → String
  | none => "None"
  | some s => pyRepr s

end Lib
