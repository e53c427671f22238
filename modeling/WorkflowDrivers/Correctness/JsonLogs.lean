import WorkflowDrivers.Correctness.TextLogs
import WorkflowDrivers.Lib.JsonReader

/-!
# `Correctness.JsonLogs` — the logs as `json.loads` reads them

`_read_jsonl` decodes its lines with `json.loads`. Every line the store writes is decoded to the form of its record,
for the numbers in it are JSON numbers, as long as `json.loads` takes them (it refuses integers of too many digits);
and what `json.loads` accepts is closed, so that no part of a line is. A log
is therefore never read as another one: either its records come back, or reading raises at the first line that is not
whole, be it torn or broken at a character that `splitlines` takes for the end of a line.
-/

namespace WorkflowDrivers
open Lib JsonlLog JsonReader

variable {α Obj V : Type}

/-! ## Forms with JSON numbers -/

/-- A form whose numbers are JSON numbers. -/
class StandardDump (α : Type) [Dump α] : Prop where
  standard_dump : ∀ a : α, standard (dump a) = true

export StandardDump (standard_dump)

attribute [simp] standard_dump

instance : StandardDump String := ⟨fun _ => rfl⟩
instance : StandardDump Bool := ⟨fun _ => rfl⟩
instance : StandardDump Int := ⟨isNumber_decimal⟩
instance {α : Type} [StrEnum α] : StandardDump α := ⟨fun _ => rfl⟩

instance {α : Type} [Dump α] [StandardDump α] : StandardDump (Option α) where
  standard_dump
    | none => rfl
    | some a => standard_dump a

instance {α : Type} [Dump α] [StandardDump α] : StandardDump (List α) where
  standard_dump items := by
    have hitems : standardItems (items.map dump) = true := by
      induction items with
      | nil => rfl
      | cons a items ih => rw [List.map_cons, standardItems, standard_dump, ih]; rfl
    exact hitems

/-- An object is standard if its fields are. -/
theorem standard_fields {fields : List (String × Json)} (h : ∀ field ∈ fields, standard field.2 = true) :
    standard (.obj fields) = true := by
  induction fields with
  | nil => rfl
  | cons field fields ih =>
      obtain ⟨name, value⟩ := field
      have hvalue : standard value = true := h _ List.mem_cons_self
      have hrest := ih fun f hf => h f (List.mem_cons_of_mem _ hf)
      rw [standard, standardFields, hvalue, Bool.true_and]
      exact hrest

instance : StandardDump EvidenceRef := ⟨fun _ => standard_fields (by simp)⟩
instance : StandardDump TimeoutPolicy := ⟨fun _ => standard_fields (by simp)⟩
instance : StandardDump RetryPolicy := ⟨fun _ => standard_fields (by simp)⟩
instance : StandardDump ActivityFailurePolicy := ⟨fun _ => standard_fields (by simp)⟩
instance : StandardDump ActivityRequest := ⟨fun _ => standard_fields (by simp [ActivityRequest.stableFields])⟩
instance : StandardDump WaitPolicy := ⟨fun _ => standard_fields (by simp)⟩
instance : StandardDump ResumeDecisionOption := ⟨fun _ => standard_fields (by simp)⟩
instance : StandardDump ResumeTarget := ⟨fun _ => standard_fields (by simp)⟩
instance : StandardDump Blocker := ⟨fun _ => standard_fields (by simp)⟩
instance : StandardDump DriverAuthorizationEvidence := ⟨fun _ => standard_fields (by simp)⟩
instance : StandardDump WorkflowDecision := ⟨fun _ => standard_fields (by simp)⟩

/-- The form of an event is standard where its payload is. -/
theorem standard_event {event : WorkflowEvent} (h : standard (.obj event.payload) = true) :
    standard (dump event) = true :=
  standard_fields (by simp [h])

/-! ## Lines -/

section
variable (hooks : Hooks V) (complaint : List Char → String)

/-- **The line of a record is decoded to its form.** -/
theorem loads_recordText [Dump α] {record : α} (h : standard (dump record) = true)
    (htaken : taken hooks (dump record) = true) :
    loads hooks complaint (recordText record) = .ok (fold hooks (dump record)) := by
  rw [loads, recordText, readText_render h htaken]

/-- **What is decoded is closed.** -/
theorem loads_closedOnly : ClosedOnly (loads hooks complaint) := by
  intro text item h
  unfold loads at h
  cases hread : readText hooks text with
  | none =>
      rw [hread] at h
      cases h
  | some v => exact readText_accepts hread

/-- A record whose numbers are taken and which the validator gives back from its decoded form. -/
structure GivenBack [Dump α] (hooks : Hooks V) (validate : V → Except String α) (record : α) : Prop where
  taken : taken hooks (dump record) = true
  validates : validate (fold hooks (dump record)) = .ok record

theorem inverts_loads [Dump α] {validate : V → Except String α} {records : List α}
    (hstandard : ∀ record ∈ records, standard (dump record) = true)
    (hback : ∀ record ∈ records, GivenBack hooks validate record) :
    Inverts (loads hooks complaint) validate records := fun record hm =>
  ⟨fold hooks (dump record), loads_recordText hooks complaint (hstandard record hm) (hback record hm).taken,
    (hback record hm).validates⟩

end

/-! ## A broken line -/

/-- The lines of the first records come first. -/
theorem splitlines_logText_append {first : List (List Char)} (hfirst : ∀ text ∈ first, OneLine text)
    (rest : List (List Char)) : splitlines (logText (first ++ rest)) = first ++ splitlines (logText rest) := by
  induction first with
  | nil => rfl
  | cons text first ih =>
      have hclean : OneLine text := hfirst text List.mem_cons_self
      have hr : '\r' ∉ text := fun hm => absurd (hclean _ hm) (by decide)
      have hline : splitlines (text ++ ['\n']) = [text] := splitlinesFrom_clean hclean []
      rw [List.cons_append, splitlines_logText_cons hr, hline, ih fun r hm => hfirst r (List.mem_cons_of_mem _ hm),
        List.singleton_append, List.cons_append]

section
variable [Dump α] {loads : List Char → Except String Obj} {validate : Obj → Except String α} {before : List α}
  {bad : α}

/-- A broken record is read up to the first boundary in it, which is a part of it only. -/
theorem splitlines_broken (hnamed : WrittenNamed α) (hbefore : ∀ r ∈ before, Unbroken r) (hbad : ¬Unbroken bad)
    (after : List α) : ∃ k lines, 0 < k ∧ k < (recordText bad).length
      ∧ splitlines (logText ((before ++ bad :: after).map recordText))
        = before.map recordText ++ (recordText bad).take k :: lines := by
  obtain ⟨fields, hfields, -⟩ := hnamed bad
  have hbroken : ¬OneLine (recordText bad) := fun h => hbad (oneLine_recordText_iff.mp h)
  obtain ⟨p, c, q, htext, hp, hc, ⟨x, hx, -⟩, -⟩ := (bracketed_recordText hfields).split hbroken
  have hr : c ≠ '\r' := by
    rintro rfl
    exact noReturn_recordText bad (htext ▸ List.mem_append_right _ List.mem_cons_self)
  have htake : (recordText bad).take p.length = p := by rw [htext, List.take_left]
  have hfirst : splitlines (logText ((bad :: after).map recordText))
      = p :: splitlinesFrom false [] (q ++ '\n' :: logText (after.map recordText)) := by
    rw [List.map_cons, logText, List.flatMap_cons, htext, splitlines, List.append_assoc, List.append_assoc,
      List.cons_append, splitlinesFrom_boundary hp hc hr]
    rfl
  refine ⟨p.length, splitlinesFrom false [] (q ++ '\n' :: logText (after.map recordText)), List.length_pos_of_mem hx,
    ?_, ?_⟩
  · rw [htext, List.length_append, List.length_cons]
    omega
  · rw [List.map_append, splitlines_logText_append (oneLine_records hbefore), hfirst, htake]

/-- **Reading raises at the first broken record.** -/
theorem read_broken (hnamed : WrittenNamed α) (hclosed : ClosedOnly loads) (hinverts : Inverts loads validate before)
    (hbefore : ∀ r ∈ before, Unbroken r) (hbad : ¬Unbroken bad) (after : List α) :
    ∃ msg, iterRecords loads validate (appendAll (some []) (before ++ bad :: after))
      = .error (.invalidJsonl (before.length + 1) msg) := by
  obtain ⟨k, lines, hpos, hlt, hlines⟩ := splitlines_broken hnamed hbefore hbad after
  have hvisible := visible_cut hnamed bad hpos []
  rw [List.append_nil] at hvisible
  rw [appendAll_eq, List.nil_append]
  exact read_refused hnamed hinverts (noReturn_logText _) hlines hvisible
    (hclosed.refuses (not_accepts_cut hnamed hpos hlt))

end

/-! ## Logs -/

/-- **What a log is read as.** Its records come back, or reading raises at the first broken record; and where one of
    its appends was cut, it is read as `TornRead` says. -/
structure LogDecoded [Dump α] (loads : List Char → Except String Obj) (validate : Obj → Except String α)
    (records : List α) : Prop where
  whole : (∀ r ∈ records, Unbroken r) → iterRecords loads validate (appendAll (some []) records) = .ok records
  broken : ∀ before bad after, records = before ++ bad :: after → (∀ r ∈ before, Unbroken r) → ¬Unbroken bad →
    ∃ msg, iterRecords loads validate (appendAll (some []) records) = .error (.invalidJsonl (before.length + 1) msg)
  torn : (∀ r ∈ records, Unbroken r) → ∀ before record more, records = before ++ record :: more →
    ∀ k, TornRead loads validate before record k more

theorem logDecoded [Dump α] {loads : List Char → Except String Obj} {validate : Obj → Except String α}
    (hnamed : WrittenNamed α) (hclosed : ClosedOnly loads) {records : List α}
    (hinverts : Inverts loads validate records) : LogDecoded loads validate records where
  whole hunbroken := by
    rw [appendAll_eq, List.nil_append]
    exact read_whole hnamed hinverts hunbroken
  broken before bad after hrecords hbefore hbad := by
    rw [hrecords] at hinverts ⊢
    exact read_broken hnamed hclosed (fun r hr => hinverts r (List.mem_append_left _ hr)) hbefore hbad after
  torn hunbroken before record more hrecords k := by
    rw [hrecords] at hinverts hunbroken
    exact tornRead hnamed hclosed hinverts hunbroken k

/-- **A log is never read as another one.** Whatever `json.loads` makes of what it reads, whatever numbers it refuses,
    and whatever it says then: a log of decisions whose numbers it takes, and which the validator gives back from their
    decoded forms, is read as its records, or reading raises at the first line that is broken or torn. So is a log of
    events whose payloads have JSON numbers. -/
theorem logs_decoded (hooks : Hooks V) (complaint : List Char → String)
    (validateDecision : V → Except String WorkflowDecision) (validateEvent : V → Except String WorkflowEvent) :
    (∀ decisions, (∀ d ∈ decisions, GivenBack hooks validateDecision d) →
      LogDecoded (loads hooks complaint) validateDecision decisions)
    ∧ (∀ events : List WorkflowEvent, (∀ e ∈ events, standard (.obj e.payload) = true) →
      (∀ e ∈ events, GivenBack hooks validateEvent e) →
      LogDecoded (loads hooks complaint) validateEvent events) := by
  have hclosed := loads_closedOnly hooks complaint
  constructor
  · intro decisions hback
    exact logDecoded decisions_writtenNamed hclosed
      (inverts_loads hooks complaint (fun d _ => standard_dump d) hback)
  · intro events hpayload hback
    exact logDecoded events_writtenNamed hclosed
      (inverts_loads hooks complaint (fun e he => standard_event (hpayload e he)) hback)

/-- Hooks that keep what is read, and take numbers of up to 4300 characters. -/
def exampleHooks : Hooks Json where
  null := .null
  bool := .bool
  takes n := n.text.length ≤ 4300
  number := .num
  constant _ := .null
  string points := .str (String.ofList (points.map Char.ofNat))
  array := .arr
  object fields := .obj (fields.map fun field => (String.ofList (field.1.map Char.ofNat), field.2))

theorem logs_decoded_planned :
    iterDecisions (loads exampleHooks fun _ => "Expecting value") (exampleValidate examplePlanned)
        (appendAll (some []) [examplePlanned, examplePlanned]) = .ok [examplePlanned, examplePlanned]
      ∧ iterEvents (loads exampleHooks fun _ => "Expecting value") (exampleValidate exampleEvent)
        (appendAll (some []) [exampleEvent]) = .ok [exampleEvent] := by
  obtain ⟨hdecisions, hevents⟩ := logs_decoded exampleHooks (fun _ => "Expecting value")
    (exampleValidate examplePlanned) (exampleValidate exampleEvent)
  constructor
  · refine (hdecisions [examplePlanned, examplePlanned] ?_).whole (by decide +kernel)
    intro decision hm
    obtain rfl : decision = examplePlanned := by simpa using hm
    exact ⟨by decide +kernel, if_pos (by decide +kernel)⟩
  · refine (hevents [exampleEvent] ?_ ?_).whole (by decide +kernel)
    · intro event hm
      rw [List.mem_singleton.mp hm]
      rfl
    · intro event hm
      rw [List.mem_singleton.mp hm]
      exact ⟨by decide +kernel, if_pos (by decide +kernel)⟩

/-! ## A store with a broken decision -/

/-- Appends go on over any log. -/
theorem append_written {loads : List Char → Except String Obj} {validate : Obj → Except String WorkflowDecision}
    {call : StoreCall} (h : call.IsAppend) :
    Refines (Represents Written) StoreFailure (TextStore.program loads validate call) call.program := by
  refine append_refines h fun decision _ text decisions hwritten => ?_
  rw [hwritten]
  exact appendJsonl_logOf decisions decision

/-- A decision that is accepted is in the log of an initialized store, and it stays there under appends. -/
theorem accepted_logged {files : StoreFiles} {decision : WorkflowDecision} {state : WorkflowStateRecord}
    (haccepted : ((StoreCall.appendDecision decision).run files).2 = .ok (.state state)) {later : List StoreCall}
    (hlater : ∀ call ∈ later, call.IsAppend) :
    files.initialState.isSome = true ∧ ∃ more,
      (runCalls files (.appendDecision decision :: later)).decisions
        = some (files.decisions.getD [] ++ decision :: more) := by
  have hlogged : files.initialState.isSome = true
      ∧ ((StoreCall.appendDecision decision).run files).1.decisions = some (files.decisions.getD [] ++ [decision]) := by
    have heffect := run_effects files (.appendDecision decision)
    generalize (StoreCall.appendDecision decision).run files = result at heffect haccepted
    cases heffect with
    | raised => cases haccepted
    | decisionAppended hinitial => exact ⟨Option.isSome_of_mem hinitial, rfl⟩
  obtain ⟨-, more, hmore⟩ := appends_keep ((StoreCall.appendDecision decision).run files).1 hlater
  rw [hlogged.2, Option.getD_some, List.append_assoc, List.singleton_append] at hmore
  refine ⟨hlogged.1, more, ?_⟩
  rw [runCalls]
  cases hdecisions : (runCalls ((StoreCall.appendDecision decision).run files).1 later).decisions with
  | none =>
      rw [hdecisions] at hmore
      exact absurd hmore.symm (List.append_ne_nil_of_right_ne_nil _ (List.cons_ne_nil _ _))
  | some decisions =>
      rw [hdecisions, Option.getD_some] at hmore
      rw [hmore]

/-- **A broken decision poisons the store.** With `json.loads` and any validator: an initialized store of texts, reached
    by calls whose decisions are read back, accepts a decision with one of the three characters in a string and answers
    this and all later appends as the store of records does. But every replay from then on raises at the line of that
    decision and writes nothing. -/
theorem broken_decision_poisons_store (hooks : Hooks V) (complaint : List Char → String)
    (validate : V → Except String WorkflowDecision) (calls later : List StoreCall)
    (hcalls : ∀ call ∈ calls, call.Readable (loads hooks complaint) validate)
    (hlater : ∀ call ∈ later, call.IsAppend) (bad : WorkflowDecision) (hbad : ¬Unbroken bad)
    (state : WorkflowStateRecord)
    (haccepted : ((StoreCall.appendDecision bad).run (runCalls {} calls)).2 = .ok (.state state)) :
    let text := (session (TextStore.program (loads hooks complaint) validate) {} calls).1
    let after := session (TextStore.program (loads hooks complaint) validate) text (.appendDecision bad :: later)
    List.Forall₂ (Agrees StoreFailure) after.2
      (session StoreCall.program (runCalls {} calls) (.appendDecision bad :: later)).2
    ∧ ∃ before msg, (runCalls {} calls).decisions = some before
      ∧ (TextStore.replay (loads hooks complaint) validate).run after.1
        = (after.1, .error (.log (.invalidJsonl (before.length + 1) msg))) := by
  intro text after
  have happends : ∀ call ∈ StoreCall.appendDecision bad :: later, call.IsAppend := by
    intro call hcall
    rcases List.mem_cons.mp hcall with rfl | hcall
    · trivial
    · exact hlater call hcall
  obtain ⟨hrep, -⟩ := Refines.session (fun call hcall => program_refines (hcalls call hcall)) represents_empty
  rw [session_files] at hrep
  have hwritten : Represents Written text (runCalls {} calls) := { hrep with decisions := hrep.decisions.1 }
  obtain ⟨hafter, hanswers⟩ := Refines.session (fun call hcall => append_written (happends call hcall)) hwritten
  rw [session_files] at hafter
  refine ⟨hanswers, ?_⟩
  obtain ⟨hinitialized, more, hmore⟩ := accepted_logged haccepted hlater
  obtain ⟨history, hrun, -⟩ := runCalls_picture calls none
  have hempty : picture none = {} := rfl
  rw [hempty] at hrun
  cases history with
  | none =>
      rw [hrun] at hinitialized
      cases hinitialized
  | some h =>
      have hdecisions : (runCalls {} calls).decisions = some h.decisions := by
        rw [hrun]
        rfl
      have hbefore : ∀ d ∈ h.decisions, Readable (loads hooks complaint) validate d := by
        have hwhole := hrep.decisions.2
        rwa [hdecisions] at hwhole
      obtain ⟨msg, hmsg⟩ := read_broken decisions_writtenNamed (loads_closedOnly hooks complaint)
        (fun d hd => (hbefore d hd).inverts) (fun d hd => (hbefore d hd).unbroken) hbad more
      have hfinal : after.1.decisions = appendAll (some []) (h.decisions ++ bad :: more) := by
        rw [hafter.decisions, hmore, hdecisions, appendAll_eq]
        rfl
      have hinitial : after.1.initialState = some h.seed := by
        rw [hafter.initialState, (appends_keep _ happends).1, hrun]
        rfl
      rw [← hfinal] at hmsg
      exact ⟨h.decisions, msg, hdecisions, replay_refused hinitial hmsg⟩

/-- A decision with a line separator in its name. -/
def exampleBroken : WorkflowDecision := { examplePlanned with decisionId := "D\u2028" }

theorem broken_decision_poisons_store_separator : ∃ (after : TextFiles) (msg : String),
    (TextStore.replay (loads exampleHooks fun _ => "Expecting value") (exampleValidate examplePlanned)).run after
      = (after, .error (.log (.invalidJsonl 1 msg))) := by
  obtain ⟨-, before, msg, hbefore, hreplay⟩ :=
    broken_decision_poisons_store exampleHooks (fun _ => "Expecting value") (exampleValidate examplePlanned)
      [.initializeStore (exampleRecord "PROJECT_INTAKE_ASSIGNED" none) false] [] (by simp [StoreCall.Readable])
      (by simp) exampleBroken (by decide +kernel) _ rfl
  obtain rfl : [] = before := Option.some.inj hbefore
  exact ⟨_, msg, hreplay⟩

end WorkflowDrivers
