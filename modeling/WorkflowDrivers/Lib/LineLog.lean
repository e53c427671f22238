import WorkflowDrivers.Lib.Text

/-!
# `Lib.LineLog` — logs of records, one to a line

A log is written record by record, each text followed by a newline, and read back line by line, skipping blank
lines. Writer and reader need not agree on what a line is: the reader's `splitlines` breaks a text at more
characters than the newline. For texts that begin and end with a visible character (`Bracketed`) the exact
condition is that no text contains a boundary: then the log is read as its texts (`splitlines_logText`), and a
log that is read as one line for each text has no boundary in it (`oneLine_of_length`).
-/

namespace Lib

/-- The log of a list of texts. -/
def logText (records : List (List Char)) : List Char := records.flatMap (· ++ ['\n'])

/-- The lines a reader looks at. -/
def nonBlankLines (text : List Char) : List (List Char) := (splitlines text).filter (fun line => !isBlank line)

/-- A text that begins and ends with a visible character and has no carriage return in it. -/
structure Bracketed (record : List Char) : Prop where
  begins : ∃ first rest, record = first :: rest ∧ isSpace first = false
  ends : ∃ rest last, record = rest ++ [last] ∧ isSpace last = false
  noReturn : '\r' ∉ record

/-- No character of the text is a line boundary. -/
def OneLine (record : List Char) : Prop := ∀ c ∈ record, isLineBoundary c = false

theorem isLineBoundary_false_of_visible {c : Char} (h : isSpace c = false) : isLineBoundary c = false := by
  cases hc : isLineBoundary c with
  | false => rfl
  | true =>
      -- every boundary is one of ten characters, and each of them is white space
      simp only [isLineBoundary, Bool.or_eq_true, beq_iff_eq] at hc
      rcases hc with ((((((((rfl | rfl) | rfl) | rfl) | rfl) | rfl) | rfl) | rfl) | rfl) | rfl <;>
        exact absurd h (by decide)

/-! ## One record -/

/-- A line with a visible character in it is looked at. -/
theorem mem_nonBlank {lines : List (List Char)} {line : List Char} {c : Char} (hline : line ∈ lines)
    (hc : c ∈ line) (hs : isSpace c = false) : line ∈ lines.filter (fun line => !isBlank line) := by
  rw [List.mem_filter, isBlank_eq_false hc hs]
  exact ⟨hline, rfl⟩

/-- A text with a visible character in it is read as at least one line. -/
theorem nonBlankLines_pos {text : List Char} {c : Char} (hr : '\r' ∉ text) (hc : c ∈ text)
    (hs : isSpace c = false) : 0 < (nonBlankLines text).length := by
  obtain ⟨line, hline, hmem⟩ :=
    mem_splitlinesFrom (isLineBoundary_false_of_visible hs) hr (Or.inr hc : c ∈ [] ∨ c ∈ text)
  exact List.length_pos_of_mem (mem_nonBlank hline hmem hs)

/-- The first boundary of a bracketed text stands strictly inside it. -/
theorem Bracketed.split {record : List Char} (h : Bracketed record) (hbroken : ¬OneLine record) :
    ∃ p c q, record = p ++ c :: q ∧ OneLine p ∧ isLineBoundary c = true
      ∧ (∃ x ∈ p, isSpace x = false) ∧ ∃ x ∈ q, isSpace x = false := by
  cases hfind : record.find? isLineBoundary with
  | none => exact absurd (fun c hc => by simpa using List.find?_eq_none.mp hfind c hc) hbroken
  | some c =>
      obtain ⟨hc, p, q, hrecord, hp⟩ := List.find?_eq_some_iff_append.mp hfind
      have hinside : ∀ x, isSpace x = false → c ≠ x := by
        rintro x hx rfl
        exact absurd hc (by simp [isLineBoundary_false_of_visible hx])
      refine ⟨p, c, q, hrecord, fun x hx => by simpa using hp x hx, hc, ?_, ?_⟩
      · obtain ⟨first, rest, hfirst, hs⟩ := h.begins
        cases p with
        | nil => exact absurd (List.cons.inj (hrecord.symm.trans hfirst)).1 (hinside first hs)
        | cons x p =>
            have hx : x = first := (List.cons.inj (hrecord.symm.trans hfirst)).1
            exact ⟨x, List.mem_cons_self, hx ▸ hs⟩
      · obtain ⟨init, last, hlast, hs⟩ := h.ends
        have hends : (p ++ c :: q).getLast? = some last := by rw [← hrecord, hlast, List.getLast?_concat]
        rw [List.getLast?_append_cons] at hends
        cases q with
        | nil => exact absurd (Option.some.inj hends) (hinside last hs)
        | cons x q =>
            rw [List.getLast?_cons_cons] at hends
            exact ⟨last, List.mem_of_getLast? hends, hs⟩

/-- A text with a boundary in it is read as two lines or more. -/
theorem two_le_nonBlankLines {record : List Char} (h : Bracketed record) (hbroken : ¬OneLine record) :
    2 ≤ (nonBlankLines (record ++ ['\n'])).length := by
  obtain ⟨p, c, q, rfl, hp, hc, ⟨x, hxp, hx⟩, ⟨y, hyq, hy⟩⟩ := h.split hbroken
  have hmem : ∀ d ∈ c :: q, d ≠ '\r' := fun d hd he => h.noReturn (List.mem_append_right _ (he ▸ hd))
  have hq : '\r' ∉ q ++ ['\n'] := by
    intro hr
    rcases List.mem_append.mp hr with hr | hr
    · exact hmem _ (List.mem_cons_of_mem _ hr) rfl
    · exact absurd hr (by decide)
  -- the text before the boundary is one line, and what stands behind it is at least one more
  have hlines : nonBlankLines ((p ++ c :: q) ++ ['\n']) = p :: nonBlankLines (q ++ ['\n']) := by
    rw [nonBlankLines, splitlines, List.append_assoc, List.cons_append,
      splitlinesFrom_boundary hp hc (hmem c List.mem_cons_self), List.reverse_nil, List.nil_append,
      List.filter_cons_of_pos (by rw [isBlank_eq_false hxp hx]; rfl)]
    rfl
  rw [hlines, List.length_cons]
  have hrest : 0 < (nonBlankLines (q ++ ['\n'])).length :=
    nonBlankLines_pos hq (List.mem_append_left _ hyq) hy
  omega

/-- A bracketed text is read as one line or more. -/
theorem one_le_nonBlankLines {record : List Char} (h : Bracketed record) :
    1 ≤ (nonBlankLines (record ++ ['\n'])).length := by
  obtain ⟨first, rest, rfl, hs⟩ := h.begins
  have hr : '\r' ∉ (first :: rest) ++ ['\n'] := by
    intro hm
    rcases List.mem_append.mp hm with hm | hm
    · exact h.noReturn hm
    · exact absurd hm (by decide)
  exact nonBlankLines_pos hr List.mem_cons_self hs

/-! ## A log -/

/-- The lines of the first record come first. -/
theorem splitlines_logText_cons {record : List Char} (h : '\r' ∉ record) (rest : List (List Char)) :
    splitlines (logText (record :: rest)) = splitlines (record ++ ['\n']) ++ splitlines (logText rest) := by
  rw [logText, List.flatMap_cons, List.append_assoc, List.singleton_append]
  exact splitlinesFrom_record h [] (logText rest)

/-- **A log of texts without boundaries is read as these texts.** -/
theorem splitlines_logText {records : List (List Char)} (h : ∀ record ∈ records, OneLine record) :
    splitlines (logText records) = records := by
  induction records with
  | nil => rfl
  | cons record rest ih =>
      have hclean : OneLine record := h record List.mem_cons_self
      have hr : '\r' ∉ record := fun hm => absurd (hclean _ hm) (by decide)
      have hline : splitlines (record ++ ['\n']) = [record] := splitlinesFrom_clean hclean []
      rw [splitlines_logText_cons hr, hline, ih (fun r hm => h r (List.mem_cons_of_mem _ hm)),
        List.singleton_append]

/-- A text without boundaries is one line also where no newline ends it. -/
theorem splitlinesFrom_unended {a : List Char} (ha : OneLine a) {cur : List Char} (hne : cur.reverse ++ a ≠ []) :
    splitlinesFrom false cur a = [cur.reverse ++ a] := by
  induction a generalizing cur with
  | nil =>
      rw [List.append_nil] at hne ⊢
      rw [splitlinesFrom, if_neg (fun hcur => hne (by rw [hcur]; rfl))]
  | cons c a ih =>
      have hc : isLineBoundary c = false := ha c List.mem_cons_self
      have hr : c ≠ '\r' := by
        rintro rfl
        exact absurd hc (by decide)
      have hcons : (c :: cur).reverse ++ a = cur.reverse ++ c :: a := by
        rw [List.reverse_cons, List.append_assoc, List.singleton_append]
      rw [splitlinesFrom_cons hr, if_neg (by simp [hc]), ih (fun d hd => ha d (List.mem_cons_of_mem _ hd))
        (hcons ▸ hne), hcons]

/-- A log whose last text has no newline is read as its texts, too. -/
theorem splitlines_logText_unended {records : List (List Char)} (h : ∀ record ∈ records, OneLine record)
    {last : List Char} (hlast : OneLine last) (hne : last ≠ []) :
    splitlines (logText records ++ last) = records ++ [last] := by
  induction records with
  | nil => exact splitlinesFrom_unended hlast hne
  | cons record rest ih =>
      have hclean : OneLine record := h record List.mem_cons_self
      have hr : '\r' ∉ record := fun hm => absurd (hclean _ hm) (by decide)
      have hsplit : splitlines (logText (record :: rest) ++ last)
          = splitlines (record ++ ['\n']) ++ splitlines (logText rest ++ last) := by
        rw [logText, List.flatMap_cons, List.append_assoc, List.append_assoc, List.singleton_append]
        exact splitlinesFrom_record hr [] (logText rest ++ last)
      have hline : splitlines (record ++ ['\n']) = [record] := splitlinesFrom_clean hclean []
      rw [hsplit, hline, ih (fun r hm => h r (List.mem_cons_of_mem _ hm)), List.singleton_append, List.cons_append]

/-- The lines of a log are counted record by record. -/
theorem nonBlankLines_logText_cons {record : List Char} (h : '\r' ∉ record) (rest : List (List Char)) :
    (nonBlankLines (logText (record :: rest))).length =
      (nonBlankLines (record ++ ['\n'])).length + (nonBlankLines (logText rest)).length := by
  rw [nonBlankLines, splitlines_logText_cons h, List.filter_append, List.length_append]
  rfl

/-- A log of bracketed texts is not read as fewer lines than it has records. -/
theorem length_le_nonBlankLines {records : List (List Char)} (h : ∀ record ∈ records, Bracketed record) :
    records.length ≤ (nonBlankLines (logText records)).length := by
  induction records with
  | nil => exact Nat.zero_le _
  | cons record rest ih =>
      have hrecord : Bracketed record := h record List.mem_cons_self
      have hone := one_le_nonBlankLines hrecord
      have hrest := ih (fun r hm => h r (List.mem_cons_of_mem _ hm))
      rw [nonBlankLines_logText_cons hrecord.noReturn, List.length_cons]
      omega

/-- **A log that is read as one line for each record has no boundary in any record**: a broken record is read
    as two lines at least, and the other records cannot make up for it. -/
theorem oneLine_of_length {records : List (List Char)} (h : ∀ record ∈ records, Bracketed record)
    (hlength : (nonBlankLines (logText records)).length = records.length) :
    ∀ record ∈ records, OneLine record := by
  induction records with
  | nil => exact fun _ hm => absurd hm List.not_mem_nil
  | cons record rest ih =>
      have hrecord : Bracketed record := h record List.mem_cons_self
      have hbracketed : ∀ r ∈ rest, Bracketed r := fun r hm => h r (List.mem_cons_of_mem _ hm)
      have hone := one_le_nonBlankLines hrecord
      have hrest := length_le_nonBlankLines hbracketed
      rw [nonBlankLines_logText_cons hrecord.noReturn, List.length_cons] at hlength
      have hclean : OneLine record := by
        by_contra hbroken
        have htwo := two_le_nonBlankLines hrecord hbroken
        omega
      intro r hm
      rcases List.mem_cons.mp hm with rfl | hm
      · exact hclean
      · exact ih hbracketed (by omega) r hm

end Lib
