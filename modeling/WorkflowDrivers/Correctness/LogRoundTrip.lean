import WorkflowDrivers.Store.Log

/-!
# `Correctness.LogRoundTrip` — reading back what was appended to a log

The compact JSON of a record escapes the control characters below U+0020 and writes everything else as it is. Of
the boundaries of `splitlines` three are thus left: U+0085, U+2028 and U+2029. A log is read back as the records
appended to it exactly if no string of them contains one of these.
-/

namespace WorkflowDrivers
open Lib JsonlLog

variable {α Obj : Type}

/-! ## The text of one record -/

/-- The boundaries of `splitlines` that compact JSON does not escape. -/
def BreaksLine (c : Char) : Prop := c = '\u0085' ∨ c = '\u2028' ∨ c = '\u2029'

/-- No string of the record, a field name included, contains a boundary that is not escaped. -/
def Unbroken [Dump α] (record : α) : Prop := ∀ s ∈ (dump record).strings, ∀ c ∈ s.toList, ¬BreaksLine c

instance : DecidablePred BreaksLine := fun _ => inferInstanceAs (Decidable (_ ∨ _ ∨ _))

-- by way of the lists: a quantifier over characters would run over all of them
instance [Dump α] (record : α) : Decidable (Unbroken record) :=
  @List.decidableBAll String _ (fun s => List.decidableBAll _ s.toList) (dump record).strings

theorem BreaksLine.nonAscii {c : Char} (h : BreaksLine c) : Json.NonAscii c := by
  rcases h with rfl | rfl | rfl <;> decide

/-- A boundary that is not a control character below U+0020 is one of the three. -/
theorem isLineBoundary_iff {c : Char} (h : 0x20 ≤ c.toNat) : isLineBoundary c = true ↔ BreaksLine c := by
  simp only [isLineBoundary, Bool.or_eq_true, beq_iff_eq, BreaksLine, or_assoc]
  constructor
  · rintro (rfl | rfl | rfl | rfl | rfl | rfl | rfl | hc) <;> first | exact hc | exact absurd h (by decide)
  · intro hc
    exact Or.inr (Or.inr (Or.inr (Or.inr (Or.inr (Or.inr (Or.inr hc))))))

/-- **The text of a record is one line exactly if its strings contain none of the three boundaries.** -/
theorem oneLine_recordText_iff [Dump α] {record : α} : OneLine (recordText record) ↔ Unbroken record := by
  constructor
  · intro hline s hs c hc hbreaks
    have hmem : c ∈ recordText record := (Json.mem_render _ hbreaks.nonAscii).mpr ⟨s, hs, hc⟩
    have hboundary : isLineBoundary c = true :=
      (isLineBoundary_iff (Json.control_free _ hmem)).mpr hbreaks
    rw [hline c hmem] at hboundary
    cases hboundary
  · intro hunbroken c hmem
    cases hboundary : isLineBoundary c with
    | false => rfl
    | true =>
        have hbreaks : BreaksLine c := (isLineBoundary_iff (Json.control_free _ hmem)).mp hboundary
        obtain ⟨s, hs, hc⟩ := (Json.mem_render _ hbreaks.nonAscii).mp hmem
        exact absurd hbreaks (hunbroken s hs c hc)

theorem noReturn_recordText [Dump α] (record : α) : '\r' ∉ recordText record :=
  fun hmem => absurd (Json.control_free _ hmem) (by decide)

/-- A record whose form is an object has a text between braces. -/
theorem bracketed_recordText [Dump α] {record : α} {fields : List (String × Json)}
    (h : dump record = .obj fields) : Bracketed (recordText record) where
  begins := ⟨'{', (Json.renderFields fields).tail ++ ['}'], by rw [recordText, h, Json.render], by decide⟩
  ends := ⟨'{' :: (Json.renderFields fields).tail, '}', by rw [recordText, h, Json.render]; rfl, by decide⟩
  noReturn := noReturn_recordText record

/-! ## A log -/

/-- The parser and the validator of the other packages invert the form of the listed records. -/
def Inverts [Dump α] (loads : List Char → Except String Obj) (validate : Obj → Except String α)
    (records : List α) : Prop :=
  ∀ record ∈ records, ∃ item, loads (recordText record) = .ok item ∧ validate item = .ok record

/-- The log of a list of records has no carriage return in it. -/
theorem noReturn_logText [Dump α] (records : List α) : '\r' ∉ logText (records.map recordText) := by
  simp only [logText, List.mem_flatMap, List.mem_map, List.mem_append, List.mem_singleton]
  rintro ⟨_, ⟨record, -, rfl⟩, hmem | hmem⟩
  · exact noReturn_recordText record hmem
  · exact absurd hmem (by decide)

/-- A log is read from the lines `splitlines` finds in it. -/
theorem readJsonl_appendAll [Dump α] (loads : List Char → Except String Obj) (records : List α) :
    readJsonl loads (appendAll (some []) records) =
      readLines loads 1 (splitlines (logText (records.map recordText))) := by
  rw [appendAll_eq, List.nil_append, readJsonl, universalNewlines_eq_self (noReturn_logText records)]

/-- Lines that are the texts of records are read as these records. -/
theorem readLines_inverts [Dump α] {loads : List Char → Except String Obj} {validate : Obj → Except String α}
    {records : List α} (hobject : ∀ record : α, ∃ fields, dump record = .obj fields)
    (h : Inverts loads validate records) (lineNumber : Nat) :
    (readLines loads lineNumber (records.map recordText)).bind (validateAll validate) = .ok records := by
  induction records generalizing lineNumber with
  | nil => rfl
  | cons record rest ih =>
      obtain ⟨item, hloads, hvalidate⟩ := h record List.mem_cons_self
      have hrest := ih (fun r hm => h r (List.mem_cons_of_mem _ hm)) (lineNumber + 1)
      obtain ⟨fields, hfields⟩ := hobject record
      obtain ⟨first, tail, hfirst, hs⟩ := (bracketed_recordText hfields).begins
      have hvisible : isBlank (recordText record) = false := by
        rw [hfirst]
        exact isBlank_eq_false List.mem_cons_self hs
      rw [List.map_cons, readLines, if_neg (by simp [hvisible])]
      simp only [hloads]
      cases hread : readLines loads (lineNumber + 1) (rest.map recordText) with
      | error error => simp [hread, Except.bind] at hrest
      | ok items =>
          rw [hread] at hrest
          simp only [Except.map, Except.bind, validateAll, hvalidate] at hrest ⊢
          rw [hrest]

/-- A log read as as many records as were appended has no broken record in it, whatever parses the lines. -/
theorem unbroken_of_length [Dump α] {loads : List Char → Except String Obj} {validate : Obj → Except String α}
    {records answer : List α} (hobject : ∀ record : α, ∃ fields, dump record = .obj fields)
    (hread : iterRecords loads validate (appendAll (some []) records) = .ok answer)
    (hlength : answer.length = records.length) : ∀ record ∈ records, Unbroken record := by
  rw [iterRecords, readJsonl_appendAll] at hread
  cases hlines : readLines loads 1 (splitlines (logText (records.map recordText))) with
  | error error => simp [hlines, Except.bind] at hread
  | ok items =>
      rw [hlines] at hread
      have hitems := readLines_length hlines
      have hanswer : answer.length = items.length := validateAll_length hread
      -- one object for each line and one record for each object, so as many lines as records
      have hcount : (nonBlankLines (logText (records.map recordText))).length
          = (records.map recordText).length := by
        rw [nonBlankLines, List.length_map]
        omega
      have hbracketed : ∀ text ∈ records.map recordText, Bracketed text := by
        intro text htext
        obtain ⟨record, -, rfl⟩ := List.mem_map.mp htext
        obtain ⟨fields, hfields⟩ := hobject record
        exact bracketed_recordText hfields
      intro record hm
      exact oneLine_recordText_iff.mp (oneLine_of_length hbracketed hcount _ (List.mem_map_of_mem hm))

/-- **Reading back a log.** -/
theorem iterRecords_appendAll_iff [Dump α] {loads : List Char → Except String Obj}
    {validate : Obj → Except String α} {records : List α}
    (hobject : ∀ record : α, ∃ fields, dump record = .obj fields) (h : Inverts loads validate records) :
    iterRecords loads validate (appendAll (some []) records) = .ok records ↔
      ∀ record ∈ records, Unbroken record := by
  constructor
  · intro hread
    exact unbroken_of_length hobject hread rfl
  · intro hunbroken
    have hclean : ∀ text ∈ records.map recordText, OneLine text := by
      intro text htext
      obtain ⟨record, hm, rfl⟩ := List.mem_map.mp htext
      exact oneLine_recordText_iff.mpr (hunbroken record hm)
    rw [iterRecords, readJsonl_appendAll, splitlines_logText hclean]
    exact readLines_inverts hobject h 1

/-- **The log round trip, exactly.** With a parser and a validator that invert the form of the records appended,
    reading a log of decisions, and of events, returns the records exactly if none of their strings contains
    U+0085, U+2028 or U+2029. -/
theorem log_roundTrip_iff (loads : List Char → Except String Obj)
    (validateDecision : Obj → Except String WorkflowDecision) (validateEvent : Obj → Except String WorkflowEvent) :
    (∀ decisions, Inverts loads validateDecision decisions →
      (iterDecisions loads validateDecision (appendAll (some []) decisions) = .ok decisions ↔
        ∀ decision ∈ decisions, Unbroken decision))
    ∧ (∀ events, Inverts loads validateEvent events →
      (iterEvents loads validateEvent (appendAll (some []) events) = .ok events ↔
        ∀ event ∈ events, Unbroken event)) :=
  ⟨fun _ h => iterRecords_appendAll_iff (fun _ => ⟨_, rfl⟩) h,
    fun _ h => iterRecords_appendAll_iff (fun _ => ⟨_, rfl⟩) h⟩

/-- An event whose payload has text outside ASCII. -/
def exampleEvent : WorkflowEvent where
  eventId := "E-1"
  type := "FEEDBACK"
  emittedAt := "T1"
  sourceRole := .humanApprover
  correlationId := "P-1"
  payload := [("note", .str "naïve — déjà vu")]

/-- Parsing of the two lines written for `examplePlanned` and `exampleEvent`. -/
def exampleLoads (line : List Char) : Except String Json :=
  if line = recordText examplePlanned then .ok (dump examplePlanned)
  else if line = recordText exampleEvent then .ok (dump exampleEvent)
  else .error "Expecting value"

/-- Validation of the object of one record. -/
def exampleValidate [Dump α] (record : α) (item : Json) : Except String α :=
  if item.render = recordText record then .ok record else .error "validation error"

theorem log_roundTrip_iff_planned :
    iterDecisions exampleLoads (exampleValidate examplePlanned)
        (appendAll (some []) [examplePlanned, examplePlanned]) = .ok [examplePlanned, examplePlanned]
      ∧ iterEvents exampleLoads (exampleValidate exampleEvent) (appendAll (some []) [exampleEvent])
        = .ok [exampleEvent] := by
  obtain ⟨hdecisions, hevents⟩ :=
    log_roundTrip_iff exampleLoads (exampleValidate examplePlanned) (exampleValidate exampleEvent)
  constructor
  · refine (hdecisions _ ?_).mpr (by decide +kernel)
    intro record hm
    obtain rfl : record = examplePlanned := by simpa using hm
    exact ⟨dump examplePlanned, if_pos rfl, if_pos rfl⟩
  · refine (hevents _ ?_).mpr (by decide +kernel)
    intro record hm
    obtain rfl := List.mem_singleton.mp hm
    have hother : recordText exampleEvent ≠ recordText examplePlanned := by decide +kernel
    exact ⟨dump exampleEvent, (if_neg hother).trans (if_pos rfl), if_pos rfl⟩

/-- A decision with a line separator in its id. -/
def exampleSeparator : WorkflowDecision := { examplePlanned with decisionId := "D\u2028-1" }

/-- **A single decision with a line separator in a string is not read back**, whatever parses the lines. -/
theorem separator_not_read_back :
    ¬∃ (loads : List Char → Except String Json) (validate : Json → Except String WorkflowDecision),
      iterDecisions loads validate (appendAll (some []) [exampleSeparator]) = .ok [exampleSeparator] := by
  rintro ⟨loads, validate, hread⟩
  have hunbroken := unbroken_of_length (fun _ => ⟨_, rfl⟩) hread rfl exampleSeparator List.mem_cons_self
  exact absurd hunbroken (by decide +kernel)

end WorkflowDrivers
