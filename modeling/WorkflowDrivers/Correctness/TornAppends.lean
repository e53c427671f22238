import WorkflowDrivers.Correctness.LogRoundTrip
import WorkflowDrivers.Lib.Brackets

/-!
# `Correctness.TornAppends` — an append that a crash cuts short

`_append_jsonl` writes a record and its newline in one call, which a crash may cut anywhere. Nothing repairs the
line, and the next append goes on behind it. What is written there is an object without its end, so that no parser
that looks at brackets and quotes accepts the line, neither as it is nor with the next record behind it.
-/

namespace WorkflowDrivers
open Lib JsonlLog

variable {α Obj : Type}

/-! ## A cut line -/

/-- The log after an append of which the first `k` characters were written. -/
def tornAppend [Dump α] (file : Option (List Char)) (record : α) (k : Nat) : Option (List Char) :=
  some (file.getD [] ++ (recordText record ++ ['\n']).take k)

/-- The parser accepts only texts in which every bracket and every string is closed. -/
def ClosedOnly (loads : List Char → Except String Obj) : Prop :=
  ∀ text item, loads text = .ok item → ((Scan.outside 0).along text).Accepts

/-- A text that does not close is refused. -/
theorem ClosedOnly.refuses {loads : List Char → Except String Obj} (h : ClosedOnly loads) {text : List Char}
    (hopen : ¬((Scan.outside 0).along text).Accepts) : ∃ msg, loads text = .error msg := by
  cases hloads : loads text with
  | error msg => exact ⟨msg, rfl⟩
  | ok item => exact absurd (h text item hloads) hopen

/-- The records are written as objects whose first field name begins with a letter. -/
def WrittenNamed (α : Type) [Dump α] : Prop :=
  ∀ record : α, ∃ fields, dump record = .obj fields ∧ Scan.Named fields

theorem decisions_writtenNamed : WrittenNamed WorkflowDecision := fun _ =>
  ⟨_, rfl, _, _, _, 'd', _, rfl, rfl, by decide⟩

theorem events_writtenNamed : WrittenNamed WorkflowEvent := fun _ =>
  ⟨_, rfl, _, _, _, 'e', _, rfl, rfl, by decide⟩

section
variable [Dump α] {record next : α} {k : Nat}

/-- A record that was cut short is unfinished. -/
theorem unfinished_cut (hnamed : WrittenNamed α) (hpos : 0 < k) (hlt : k < (recordText record).length) :
    Scan.Unfinished ((Scan.outside 0).along ((recordText record).take k)) := by
  obtain ⟨fields, hfields, -⟩ := hnamed record
  have htext : (Json.obj fields).render = (recordText record).take k ++ (recordText record).drop k := by
    rw [List.take_append_drop, recordText, hfields]
  refine Scan.scan_cut htext ?_ ?_
  · intro hnil
    have hlength := congrArg List.length hnil
    rw [List.length_take, List.length_nil] at hlength
    omega
  · intro hnil
    have hlength := congrArg List.length hnil
    rw [List.length_drop, List.length_nil] at hlength
    omega

/-- **A line that is cut short is not accepted.** -/
theorem not_accepts_cut (hnamed : WrittenNamed α) (hpos : 0 < k) (hlt : k < (recordText record).length) :
    ¬((Scan.outside 0).along ((recordText record).take k)).Accepts := by
  have hunfinished := unfinished_cut hnamed hpos hlt
  rintro (houtside | hclosed)
  · rw [houtside] at hunfinished
    exact hunfinished rfl
  · rw [hclosed] at hunfinished
    exact hunfinished rfl

/-- **Nor is one with the next record behind it**, not even when the newline alone was missing. -/
theorem not_accepts_torn (hnamed : WrittenNamed α) (hpos : 0 < k) (hle : k ≤ (recordText record).length) :
    ¬((Scan.outside 0).along ((recordText record).take k ++ recordText next)).Accepts := by
  obtain ⟨fields, hfields, hname⟩ := hnamed next
  rw [Scan.along_append, recordText, recordText, hfields]
  refine Scan.not_accepts_glued ?_ hname
  by_cases hwhole : k = (recordText record).length
  · obtain ⟨own, hown, -⟩ := hnamed record
    right
    rw [← recordText, hwhole, List.take_length, recordText, hown]
    exact Scan.along_object own 0
  · left
    exact unfinished_cut hnamed hpos (Nat.lt_of_le_of_ne hle hwhole)

end

/-! ## A log with a cut line -/

/-- The text of a log with a torn append in it. -/
theorem tornLog_eq [Dump α] (records : List α) (record : α) (k : Nat) (more : List α) :
    appendAll (tornAppend (appendAll (some []) records) record k) more
      = some (logText (records.map recordText)
          ++ ((recordText record ++ ['\n']).take k ++ logText (more.map recordText))) := by
  rw [appendAll_eq, List.nil_append, tornAppend, appendAll_eq, Option.getD_some, List.append_assoc]

/-- Reading stops at the first line that is refused. -/
theorem readLines_stops {loads : List Char → Except String Obj} {lines : List (List Char)} {bad : List Char}
    {msg : String} (hlines : ∀ line ∈ lines, isBlank line = false ∧ ∃ item, loads line = .ok item)
    (hvisible : isBlank bad = false) (hbad : loads bad = .error msg) (lineNumber : Nat) (rest : List (List Char)) :
    readLines loads lineNumber (lines ++ bad :: rest) = .error (.invalidJsonl (lineNumber + lines.length) msg) := by
  induction lines generalizing lineNumber with
  | nil =>
      rw [List.nil_append, readLines, if_neg (by simp [hvisible])]
      simp only [hbad, List.length_nil, Nat.add_zero]
  | cons line lines ih =>
      obtain ⟨hline, item, hloads⟩ := hlines line List.mem_cons_self
      rw [List.cons_append, readLines, if_neg (by simp [hline])]
      simp only [hloads, ih (fun l hl => hlines l (List.mem_cons_of_mem _ hl)), Except.map, List.length_cons]
      rw [Nat.add_assoc, Nat.add_comm 1]

section
variable [Dump α] {loads : List Char → Except String Obj} {validate : Obj → Except String α} {records more : List α}
  {record : α} {k : Nat}

/-- A text that begins like the text of a record is visible. -/
theorem visible_cut (hnamed : WrittenNamed α) (record : α) (hpos : 0 < k) (text : List Char) :
    isBlank ((recordText record).take k ++ text) = false := by
  obtain ⟨fields, hfields, -⟩ := hnamed record
  obtain ⟨n, rfl⟩ := Nat.exists_eq_succ_of_ne_zero (Nat.ne_of_gt hpos)
  have hbrace : '{' ∈ (recordText record).take (n + 1) := by
    rw [recordText, hfields, Json.render, List.take_succ_cons]
    exact List.mem_cons_self
  exact isBlank_eq_false (List.mem_append_left _ hbrace) (by decide)

/-- The lines of the records before are read. -/
theorem lines_read (hnamed : WrittenNamed α) (hinverts : Inverts loads validate records) :
    ∀ line ∈ records.map recordText, isBlank line = false ∧ ∃ item, loads line = .ok item := by
  intro line hline
  obtain ⟨r, hr, rfl⟩ := List.mem_map.mp hline
  obtain ⟨item, hloads, -⟩ := hinverts r hr
  have hvisible := visible_cut hnamed r (Nat.succ_pos (recordText r).length) []
  rw [List.append_nil, List.take_of_length_le (Nat.le_succ _)] at hvisible
  exact ⟨hvisible, item, hloads⟩

/-- The texts of unbroken records are lines. -/
theorem oneLine_records (hunbroken : ∀ r ∈ records, Unbroken r) :
    ∀ text ∈ records.map recordText, OneLine text := by
  intro text htext
  obtain ⟨r, hr, rfl⟩ := List.mem_map.mp htext
  exact oneLine_recordText_iff.mpr (hunbroken r hr)

/-- A log of whole lines is read. -/
theorem read_whole (hnamed : WrittenNamed α) (hinverts : Inverts loads validate records)
    (hunbroken : ∀ r ∈ records, Unbroken r) :
    iterRecords loads validate (some (logText (records.map recordText))) = .ok records := by
  have hobject : ∀ r : α, ∃ fields, dump r = .obj fields := fun r => (hnamed r).imp fun _ h => h.1
  have hread := (iterRecords_appendAll_iff hobject hinverts).mpr hunbroken
  rwa [appendAll_eq, List.nil_append] at hread

/-- So is one in which the last newline is missing. -/
theorem read_unended (hnamed : WrittenNamed α) (hinverts : Inverts loads validate (records ++ [record]))
    (hunbroken : ∀ r ∈ records ++ [record], Unbroken r) :
    iterRecords loads validate (some (logText (records.map recordText) ++ recordText record))
      = .ok (records ++ [record]) := by
  have hobject : ∀ r : α, ∃ fields, dump r = .obj fields := fun r => (hnamed r).imp fun _ h => h.1
  have hlast : OneLine (recordText record) :=
    oneLine_recordText_iff.mpr (hunbroken record (List.mem_append_right _ List.mem_cons_self))
  have hnonempty : recordText record ≠ [] := by
    obtain ⟨fields, hfields, -⟩ := hnamed record
    rw [recordText, hfields, Json.render]
    exact List.cons_ne_nil _ _
  have hlines : splitlines (logText (records.map recordText) ++ recordText record)
      = (records ++ [record]).map recordText := by
    rw [List.map_append]
    exact splitlines_logText_unended
      (oneLine_records fun r hr => hunbroken r (List.mem_append_left _ hr)) hlast hnonempty
  have hr : '\r' ∉ logText (records.map recordText) ++ recordText record := by
    intro hmem
    rcases List.mem_append.mp hmem with hmem | hmem
    · exact noReturn_logText records hmem
    · exact noReturn_recordText record hmem
  rw [iterRecords, readJsonl, universalNewlines_eq_self hr, hlines]
  exact readLines_inverts hobject hinverts 1

/-- A log whose lines are the texts of records and then a refused one is not read. -/
theorem read_refused (hnamed : WrittenNamed α) (hinverts : Inverts loads validate records) {bad : List Char}
    {rest : List (List Char)} {text : List Char} (hr : '\r' ∉ text)
    (hlines : splitlines text = records.map recordText ++ bad :: rest) (hvisible : isBlank bad = false)
    (hbad : ∃ msg, loads bad = .error msg) :
    ∃ msg, iterRecords loads validate (some text) = .error (.invalidJsonl (records.length + 1) msg) := by
  obtain ⟨msg, hmsg⟩ := hbad
  refine ⟨msg, ?_⟩
  rw [iterRecords, readJsonl, universalNewlines_eq_self hr, hlines,
    readLines_stops (lines_read hnamed hinverts) hvisible hmsg, List.length_map, Nat.add_comm]
  rfl

/-- **A torn line at the end of a log** stops its reading. -/
theorem read_torn (hnamed : WrittenNamed α) (hclosed : ClosedOnly loads) (hinverts : Inverts loads validate records)
    (hunbroken : ∀ r ∈ records, Unbroken r) (hrecord : Unbroken record) (hpos : 0 < k)
    (hlt : k < (recordText record).length) :
    ∃ msg, iterRecords loads validate (some (logText (records.map recordText) ++ (recordText record).take k))
      = .error (.invalidJsonl (records.length + 1) msg) := by
  have hcut : OneLine ((recordText record).take k) :=
    fun c hc => oneLine_recordText_iff.mpr hrecord c (List.mem_of_mem_take hc)
  have hvisible := visible_cut hnamed record hpos []
  rw [List.append_nil] at hvisible
  have hnonempty : (recordText record).take k ≠ [] := by
    intro hnil
    rw [hnil] at hvisible
    cases hvisible
  refine read_refused hnamed hinverts ?_
    (splitlines_logText_unended (oneLine_records hunbroken) hcut hnonempty) hvisible
    (hclosed.refuses (not_accepts_cut hnamed hpos hlt))
  intro hmem
  rcases List.mem_append.mp hmem with hmem | hmem
  · exact noReturn_logText records hmem
  · exact noReturn_recordText record (List.mem_of_mem_take hmem)

/-- **A torn line with the next record behind it** stops its reading. -/
theorem read_glued (hnamed : WrittenNamed α) (hclosed : ClosedOnly loads) {next : α}
    (hinverts : Inverts loads validate records) (hunbroken : ∀ r ∈ records, Unbroken r) (hrecord : Unbroken record)
    (hmore : ∀ r ∈ next :: more, Unbroken r) (hpos : 0 < k) (hle : k ≤ (recordText record).length) :
    ∃ msg, iterRecords loads validate (some (logText (records.map recordText)
        ++ ((recordText record).take k ++ logText ((next :: more).map recordText))))
      = .error (.invalidJsonl (records.length + 1) msg) := by
  have hlog : logText (records.map recordText)
        ++ ((recordText record).take k ++ logText ((next :: more).map recordText))
      = logText (records.map recordText
          ++ ((recordText record).take k ++ recordText next) :: more.map recordText) := by
    simp [logText]
  have hglued : OneLine ((recordText record).take k ++ recordText next) := by
    intro c hc
    rcases List.mem_append.mp hc with hc | hc
    · exact oneLine_recordText_iff.mpr hrecord c (List.mem_of_mem_take hc)
    · exact oneLine_recordText_iff.mpr (hmore next List.mem_cons_self) c hc
  have hlines : ∀ line ∈ records.map recordText
      ++ ((recordText record).take k ++ recordText next) :: more.map recordText, OneLine line := by
    intro line hline
    rcases List.mem_append.mp hline with hline | hline
    · exact oneLine_records hunbroken line hline
    · rcases List.mem_cons.mp hline with rfl | hline
      · exact hglued
      · exact oneLine_records (fun r hr => hmore r (List.mem_cons_of_mem _ hr)) line hline
  rw [hlog]
  refine read_refused hnamed hinverts ?_ (splitlines_logText hlines) (visible_cut hnamed record hpos _)
    (hclosed.refuses (not_accepts_torn hnamed hpos hle))
  rw [← hlog]
  intro hmem
  rcases List.mem_append.mp hmem with hmem | hmem
  · exact noReturn_logText records hmem
  rcases List.mem_append.mp hmem with hmem | hmem
  · exact noReturn_recordText record (List.mem_of_mem_take hmem)
  · exact noReturn_logText (next :: more) hmem

end

/-- **What a log with a torn append is read as.** `k` characters of the record's line were written, and then the
    records `more` were appended. -/
structure TornRead [Dump α] (loads : List Char → Except String Obj) (validate : Obj → Except String α)
    (records : List α) (record : α) (k : Nat) (more : List α) : Prop where
  nothing : k = 0 →
    iterRecords loads validate (appendAll (tornAppend (appendAll (some []) records) record k) more)
      = .ok (records ++ more)
  whole : (recordText record).length < k ∨ k = (recordText record).length ∧ more = [] →
    iterRecords loads validate (appendAll (tornAppend (appendAll (some []) records) record k) more)
      = .ok (records ++ record :: more)
  torn : 0 < k → k ≤ (recordText record).length → ¬(k = (recordText record).length ∧ more = []) →
    ∃ msg, iterRecords loads validate (appendAll (tornAppend (appendAll (some []) records) record k) more)
      = .error (.invalidJsonl (records.length + 1) msg)

theorem tornRead [Dump α] {loads : List Char → Except String Obj} {validate : Obj → Except String α}
    (hnamed : WrittenNamed α) (hclosed : ClosedOnly loads) {records : List α} {record : α} {more : List α}
    (hinverts : Inverts loads validate (records ++ record :: more))
    (hunbroken : ∀ r ∈ records ++ record :: more, Unbroken r) (k : Nat) :
    TornRead loads validate records record k more := by
  have hbefore : Inverts loads validate records := fun r hr => hinverts r (List.mem_append_left _ hr)
  have hclean : ∀ r ∈ records, Unbroken r := fun r hr => hunbroken r (List.mem_append_left _ hr)
  have hrecord : Unbroken record := hunbroken record (List.mem_append_right _ List.mem_cons_self)
  have hcut : k ≤ (recordText record).length → (recordText record ++ ['\n']).take k = (recordText record).take k :=
    fun hle => List.take_append_of_le_length hle
  constructor
  · rintro rfl
    have hsub : ∀ r ∈ records ++ more, r ∈ records ++ record :: more := by
      intro r hr
      rcases List.mem_append.mp hr with hr | hr
      · exact List.mem_append_left _ hr
      · exact List.mem_append_right _ (List.mem_cons_of_mem _ hr)
    rw [tornLog_eq, List.take_zero, List.nil_append, logText, logText, ← List.flatMap_append, ← List.map_append]
    exact read_whole hnamed (fun r hr => hinverts r (hsub r hr)) fun r hr => hunbroken r (hsub r hr)
  · rintro (hlt | ⟨rfl, rfl⟩)
    · have hall : (recordText record ++ ['\n']).take k = recordText record ++ ['\n'] := by
        rw [List.take_of_length_le]
        rw [List.length_append, List.length_singleton]
        exact hlt
      have hlog : logText (records.map recordText) ++ (recordText record ++ ['\n'] ++ logText (more.map recordText))
          = logText ((records ++ record :: more).map recordText) := by
        simp [logText]
      rw [tornLog_eq, hall, hlog]
      exact read_whole hnamed hinverts hunbroken
    · -- the newline alone is missing, and nothing is written behind
      have hnone : logText (([] : List α).map recordText) = [] := rfl
      rw [tornLog_eq, List.take_left, hnone, List.append_nil]
      exact read_unended hnamed hinverts hunbroken
  · intro hpos hle hnot
    rw [tornLog_eq, hcut hle]
    cases more with
    | nil =>
        have hshort : k ≠ (recordText record).length := fun hk => hnot ⟨hk, rfl⟩
        have hnone : logText (([] : List α).map recordText) = [] := rfl
        rw [hnone, List.append_nil]
        exact read_torn hnamed hclosed hbefore hclean hrecord hpos (Nat.lt_of_le_of_ne hle hshort)
    | cons next more =>
        refine read_glued hnamed hclosed hbefore hclean hrecord ?_ hpos hle
        exact fun r hr => hunbroken r (List.mem_append_right _ (List.mem_cons_of_mem _ hr))

/-- **A torn append poisons the log.** For every parser that accepts closed texts only and, with the validator,
    inverts the form of the records: a log of decisions, or of events, in which one append was cut and any records
    were appended later is read as usual exactly when nothing of the cut line was written, or all of it, or all but
    the newline and nothing later. In every other case reading raises at the cut line, whatever is appended. -/
theorem torn_append_poisons_log (loads : List Char → Except String Obj) (hclosed : ClosedOnly loads)
    (validateDecision : Obj → Except String WorkflowDecision) (validateEvent : Obj → Except String WorkflowEvent) :
    (∀ records record more k, Inverts loads validateDecision (records ++ record :: more) →
      (∀ r ∈ records ++ record :: more, Unbroken r) → TornRead loads validateDecision records record k more)
    ∧ (∀ records record more k, Inverts loads validateEvent (records ++ record :: more) →
      (∀ r ∈ records ++ record :: more, Unbroken r) → TornRead loads validateEvent records record k more) :=
  ⟨fun _ _ _ k hinverts hunbroken => tornRead decisions_writtenNamed hclosed hinverts hunbroken k,
    fun _ _ _ k hinverts hunbroken => tornRead events_writtenNamed hclosed hinverts hunbroken k⟩

/-- The parser of the examples accepts the texts of two records. -/
theorem exampleLoads_closedOnly : ClosedOnly exampleLoads := by
  have hobject : ∀ fields, ((Scan.outside 0).along (Json.obj fields).render).Accepts :=
    fun fields => Or.inr (Scan.along_object fields 0)
  intro text item hloads
  unfold exampleLoads at hloads
  split_ifs at hloads with hplanned hevent
  · rw [hplanned]
    exact hobject _
  · rw [hevent]
    exact hobject _

theorem torn_append_poisons_log_planned :
    ∃ msg, iterDecisions exampleLoads (exampleValidate examplePlanned)
        (appendAll (tornAppend (appendAll (some []) [examplePlanned]) examplePlanned 5) [examplePlanned])
      = .error (.invalidJsonl 2 msg) := by
  have hinverts : Inverts exampleLoads (exampleValidate examplePlanned)
      [examplePlanned, examplePlanned, examplePlanned] := by
    intro record hm
    obtain rfl : record = examplePlanned := by simpa using hm
    exact ⟨dump examplePlanned, if_pos rfl, if_pos rfl⟩
  exact ((torn_append_poisons_log exampleLoads exampleLoads_closedOnly (exampleValidate examplePlanned)
    (exampleValidate exampleEvent)).1 [examplePlanned] examplePlanned [examplePlanned] 5 hinverts
    (by decide +kernel)).torn (by decide) (by decide +kernel) (by simp)

end WorkflowDrivers
