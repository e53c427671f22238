import WorkflowDrivers.Correctness.StoreRuns
import WorkflowDrivers.Correctness.TornAppends
import WorkflowDrivers.Store.TextFiles

/-!
# `Correctness.TextLogs` — the store of records and the texts on disk

The results about the store take its logs as lists of records. They hold of the texts, too: with decisions that are
read back as they were written, the store of texts does what the store of records does, call by call. After a torn
append it still does, for an append looks at the snapshot and not at the log; only a replay finds out, and it fails.
-/

namespace WorkflowDrivers
open Lib JsonlLog

variable {Obj : Type} {loads : List Char → Except String Obj} {validate : Obj → Except String WorkflowDecision}

/-! ## Logs that are read back -/

/-- A decision that is read back as it was written, from one line. -/
structure Readable (loads : List Char → Except String Obj) (validate : Obj → Except String WorkflowDecision)
    (decision : WorkflowDecision) : Prop where
  inverts : ∃ item, loads (recordText decision) = .ok item ∧ validate item = .ok decision
  unbroken : Unbroken decision

/-- The text of a log of such decisions. -/
def WholeLog (loads : List Char → Except String Obj) (validate : Obj → Except String WorkflowDecision)
    (text : Option (List Char)) (decisions : Option (List WorkflowDecision)) : Prop :=
  text = decisions.map logOf ∧ ∀ decision ∈ decisions.getD [], Readable loads validate decision

theorem WholeLog.extends {decision : WorkflowDecision} (hdecision : Readable loads validate decision)
    (text : Option (List Char)) (decisions : Option (List WorkflowDecision))
    (h : WholeLog loads validate text decisions) :
    WholeLog loads validate (appendJsonl text decision) (some (decisions.getD [] ++ [decision])) := by
  obtain ⟨rfl, hreadable⟩ := h
  refine ⟨appendJsonl_logOf decisions decision, ?_⟩
  intro d hd
  rcases List.mem_append.mp hd with hd | hd
  · exact hreadable d hd
  · rw [List.mem_singleton.mp hd]
    exact hdecision

theorem WholeLog.reads (text : Option (List Char)) (decisions : Option (List WorkflowDecision))
    (h : WholeLog loads validate text decisions) :
    JsonlLog.iterDecisions loads validate text = .ok (decisions.getD []) := by
  obtain ⟨rfl, hreadable⟩ := h
  cases decisions with
  | none => rfl
  | some decisions =>
      exact read_whole decisions_writtenNamed (fun d hd => (hreadable d hd).inverts)
        fun d hd => (hreadable d hd).unbroken

/-- The text of a log of any decisions, whether or not they are read back. -/
def Written (text : Option (List Char)) (decisions : Option (List WorkflowDecision)) : Prop :=
  text = decisions.map logOf

/-- The decision of a call, if it has one, is read back. -/
def StoreCall.Readable (loads : List Char → Except String Obj) (validate : Obj → Except String WorkflowDecision) :
    StoreCall → Prop
  | .appendDecision decision => WorkflowDrivers.Readable loads validate decision
  | .initializeStore _ _ | .appendEvent _ | .replay => True

/-- **Step lemma.** A call on the texts refines the call on the records. -/
theorem program_refines {call : StoreCall} (h : call.Readable loads validate) :
    Refines (Represents (WholeLog loads validate)) StoreFailure
      (TextStore.program loads validate call) call.program := by
  cases call with
  | initializeStore state overwrite =>
      have hempty : WholeLog loads validate (some []) (some []) := ⟨rfl, fun _ hd => absurd hd List.not_mem_nil⟩
      exact (TextStore.initializeStore_refines hempty state overwrite).bind fun state =>
        refines_pure (StoreAnswer.state state)
  | appendEvent event =>
      exact (TextStore.appendEvent_refines event).bind fun event => refines_pure (StoreAnswer.event event)
  | appendDecision decision =>
      exact (TextStore.appendDecision_represents (WholeLog.extends h)).bind fun state =>
        refines_pure (StoreAnswer.state state)
  | replay => exact (TextStore.replay_refines WholeLog.reads).bind fun state => refines_pure (StoreAnswer.state state)

theorem session_files (files : StoreFiles) (calls : List StoreCall) :
    (session StoreCall.program files calls).1 = runCalls files calls := by
  induction calls generalizing files with
  | nil => rfl
  | cons call rest ih => exact ih _

/-- The texts of an empty directory. -/
theorem represents_empty : Represents (WholeLog loads validate) {} {} where
  initialState := rfl
  events := rfl
  decisions := ⟨rfl, fun _ hd => absurd hd List.not_mem_nil⟩
  currentState := rfl

/-- **The store of texts does what the store of records does.** For every sequence of completed calls on an empty
    directory whose decisions are read back as they were written: every call gets the answer, or raises the error,
    of the store of records, the files are the texts of that store's files, and once the store is initialized the
    decisions parsed from the log lead from the initial state to the snapshot. -/
theorem text_store_refines (loads : List Char → Except String Obj) (validate : Obj → Except String WorkflowDecision)
    (calls : List StoreCall) (hcalls : ∀ call ∈ calls, call.Readable loads validate) :
    List.Forall₂ (Agrees StoreFailure) (session (TextStore.program loads validate) {} calls).2
      (session StoreCall.program {} calls).2
    ∧ Represents (WholeLog loads validate) (session (TextStore.program loads validate) {} calls).1 (runCalls {} calls)
    ∧ ∀ initial, (session (TextStore.program loads validate) {} calls).1.initialState = some initial →
        ∃ decisions state,
          JsonlLog.iterDecisions loads validate (session (TextStore.program loads validate) {} calls).1.decisions
            = .ok decisions
          ∧ replayDecisions initial decisions = .ok state
          ∧ (session (TextStore.program loads validate) {} calls).1.currentState = some state := by
  obtain ⟨hrep, hanswers⟩ := Refines.session (fun call hcall => program_refines (hcalls call hcall)) represents_empty
  rw [session_files] at hrep
  refine ⟨hanswers, hrep, ?_⟩
  intro initial hinitial
  obtain ⟨history, hrun, -⟩ := runCalls_picture calls none
  have hempty : picture none = {} := rfl
  rw [hempty] at hrun
  rw [hrep.initialState, hrun] at hinitial
  rw [hrep.currentState, WholeLog.reads _ _ hrep.decisions, hrun]
  cases history with
  | none => cases hinitial
  | some h =>
      obtain rfl : h.seed = initial := Option.some.inj hinitial
      exact ⟨h.decisions, h.state, rfl, h.replays, rfl⟩

/-- A parser, with its validator, of the lines of some decisions. -/
def readsLines (decisions : List WorkflowDecision) (line : List Char) : Except String WorkflowDecision :=
  match decisions.find? (fun decision => recordText decision == line) with
  | some decision => .ok decision
  | none => .error "Expecting value"

theorem readsLines_readable {decisions : List WorkflowDecision} {decision : WorkflowDecision}
    (hfind : decisions.find? (fun d => recordText d == recordText decision) = some decision)
    (hunbroken : Unbroken decision) : Readable (readsLines decisions) .ok decision where
  inverts := ⟨decision, by rw [readsLines, hfind], rfl⟩
  unbroken := hunbroken

/-- The parser of the examples reads `examplePlanned` back. -/
theorem examplePlanned_readable : Readable exampleLoads (exampleValidate examplePlanned) examplePlanned where
  inverts := ⟨dump examplePlanned, if_pos rfl, if_pos rfl⟩
  unbroken := by decide +kernel

theorem text_store_refines_planned :
    List.Forall₂ (Agrees StoreFailure)
      (session (TextStore.program exampleLoads (exampleValidate examplePlanned)) {} exampleCalls).2
      (session StoreCall.program {} exampleCalls).2 := by
  refine (text_store_refines exampleLoads (exampleValidate examplePlanned) exampleCalls ?_).1
  intro call hcall
  simp only [exampleCalls, List.mem_cons, List.not_mem_nil, or_false] at hcall
  rcases hcall with rfl | rfl | rfl | rfl
  · trivial
  · exact examplePlanned_readable
  · exact examplePlanned_readable
  · trivial

/-! ## A store with a torn append -/

/-- The text of a log of `before` in which `k` characters of the line of `decision` were written, and then more. -/
def TornLog (loads : List Char → Except String Obj) (validate : Obj → Except String WorkflowDecision)
    (before : List WorkflowDecision) (decision : WorkflowDecision) (k : Nat) (text : Option (List Char))
    (decisions : Option (List WorkflowDecision)) : Prop :=
  ∃ later, text = appendAll (tornAppend (appendAll (some []) before) decision k) later
    ∧ decisions = some (before ++ later)
    ∧ ∀ d ∈ before ++ decision :: later, Readable loads validate d

section
variable {before : List WorkflowDecision} {decision : WorkflowDecision} {k : Nat}

theorem TornLog.extends {next : WorkflowDecision} (hnext : Readable loads validate next) (text : Option (List Char))
    (decisions : Option (List WorkflowDecision)) (h : TornLog loads validate before decision k text decisions) :
    TornLog loads validate before decision k (appendJsonl text next) (some (decisions.getD [] ++ [next])) := by
  obtain ⟨later, rfl, rfl, hreadable⟩ := h
  refine ⟨later ++ [next], ?_, ?_, ?_⟩
  · unfold appendAll
    rw [List.foldl_append]
    rfl
  · rw [Option.getD_some, List.append_assoc]
  · intro d hd
    rw [← List.cons_append, ← List.append_assoc] at hd
    rcases List.mem_append.mp hd with hd | hd
    · exact hreadable d hd
    · rw [List.mem_singleton.mp hd]
      exact hnext

/-- It is not read, unless all but the newline was written and nothing later. -/
theorem TornLog.refused (hclosed : ClosedOnly loads) (hpos : 0 < k) (hle : k ≤ (recordText decision).length)
    {text : Option (List Char)} {decisions : Option (List WorkflowDecision)}
    (h : TornLog loads validate before decision k text decisions)
    (hnot : k < (recordText decision).length ∨ decisions ≠ some before) :
    ∃ msg, JsonlLog.iterDecisions loads validate text = .error (.invalidJsonl (before.length + 1) msg) := by
  obtain ⟨later, rfl, rfl, hreadable⟩ := h
  have htorn := tornRead decisions_writtenNamed hclosed (fun d hd => (hreadable d hd).inverts)
    (fun d hd => (hreadable d hd).unbroken) k
  refine htorn.torn hpos hle ?_
  rintro ⟨hk, rfl⟩
  rcases hnot with hlt | hne
  · exact absurd hk (Nat.ne_of_lt hlt)
  · exact hne (by rw [List.append_nil])

end

/-! ## Appends -/

/-- An append, of an event or of a decision. -/
def StoreCall.IsAppend : StoreCall → Prop
  | .appendDecision _ | .appendEvent _ => True
  | .initializeStore _ _ | .replay => False

/-- An append of an event, or of a decision that is read back. -/
def StoreCall.Appends (loads : List Char → Except String Obj) (validate : Obj → Except String WorkflowDecision) :
    StoreCall → Prop
  | .appendDecision decision => WorkflowDrivers.Readable loads validate decision
  | .appendEvent _ => True
  | .initializeStore _ _ | .replay => False

theorem StoreCall.Appends.readable {decision : WorkflowDecision} {call : StoreCall} (h : call.Appends loads validate)
    (heq : call = .appendDecision decision) : WorkflowDrivers.Readable loads validate decision := by
  rw [heq] at h
  exact h

theorem StoreCall.Appends.isAppend {call : StoreCall} (h : call.Appends loads validate) : call.IsAppend := by
  cases call with
  | appendDecision | appendEvent => trivial
  | initializeStore | replay => exact h

/-- An append looks at no log, so that it goes on over any that its decision extends. -/
theorem append_refines {log : Option (List Char) → Option (List WorkflowDecision) → Prop} {call : StoreCall}
    (happend : call.IsAppend)
    (hextends : ∀ decision, call = .appendDecision decision → ∀ text decisions, log text decisions →
      log (appendJsonl text decision) (some (decisions.getD [] ++ [decision]))) :
    Refines (Represents log) StoreFailure (TextStore.program loads validate call) call.program := by
  cases call with
  | initializeStore state overwrite => exact absurd happend not_false
  | replay => exact absurd happend not_false
  | appendEvent event =>
      exact (TextStore.appendEvent_refines event).bind fun event => refines_pure (StoreAnswer.event event)
  | appendDecision decision =>
      exact (TextStore.appendDecision_represents (hextends decision rfl)).bind fun state =>
        refines_pure (StoreAnswer.state state)

/-- **Step lemma.** An append leaves the initial state alone and takes nothing from the decision log. -/
theorem append_keeps (files : StoreFiles) {call : StoreCall} (happend : call.IsAppend) :
    (call.run files).1.initialState = files.initialState
    ∧ ∃ more, (call.run files).1.decisions.getD [] = files.decisions.getD [] ++ more := by
  have heffect := run_effects files call
  generalize call.run files = result at heffect
  cases heffect with
  | raised | eventAppended => exact ⟨rfl, [], (List.append_nil _).symm⟩
  | decisionAppended => exact ⟨rfl, _, rfl⟩
  | initialized => exact absurd happend not_false
  | replayed => exact absurd happend not_false

/-- **Run lemma.** So do any appends. -/
theorem appends_keep (files : StoreFiles) {calls : List StoreCall} (hcalls : ∀ call ∈ calls, call.IsAppend) :
    (runCalls files calls).initialState = files.initialState
    ∧ ∃ more, (runCalls files calls).decisions.getD [] = files.decisions.getD [] ++ more := by
  induction calls generalizing files with
  | nil => exact ⟨rfl, [], (List.append_nil _).symm⟩
  | cons call rest ih =>
      obtain ⟨hinitial, more, hmore⟩ := append_keeps files (hcalls call List.mem_cons_self)
      obtain ⟨hinitials, later, hlater⟩ := ih (call.run files).1 fun c hc => hcalls c (List.mem_cons_of_mem _ hc)
      exact ⟨hinitials.trans hinitial, more ++ later, by rw [runCalls, hlater, hmore, List.append_assoc]⟩

/-- A replay of a log that is not read raises and writes nothing. -/
theorem replay_refused {text : TextFiles} {initial : WorkflowStateRecord} {error : LogError}
    (hinitial : text.initialState = some initial)
    (hread : JsonlLog.iterDecisions loads validate text.decisions = .error error) :
    (TextStore.replay loads validate).run text = (text, .error (.log error)) := by
  simp [TextStore.replay, TextStore.loadInitialState, TextStore.iterDecisions, hinitial, hread]

/-- **A torn append forks the store.** An initialized store of texts, reached by calls whose decisions are read back,
    is left with the first `k` characters of a decision's line. All appends from then on get the answers of a store on
    which that append was never tried. But from the next accepted decision on, or at once where a part of the record
    is missing, every replay raises at the torn line and writes nothing. -/
theorem torn_append_forks_store (loads : List Char → Except String Obj)
    (validate : Obj → Except String WorkflowDecision) (hclosed : ClosedOnly loads) (calls later : List StoreCall)
    (hcalls : ∀ call ∈ calls, call.Readable loads validate) (hlater : ∀ call ∈ later, call.Appends loads validate)
    (decision : WorkflowDecision) (hdecision : Readable loads validate decision) (k : Nat) (hpos : 0 < k)
    (hle : k ≤ (recordText decision).length) (text : TextFiles)
    (htext : (session (TextStore.program loads validate) {} calls).1 = text)
    (hinitialized : text.initialState.isSome = true) :
    let after := session (TextStore.program loads validate)
      { text with decisions := tornAppend text.decisions decision k } later
    let plain := session StoreCall.program (runCalls {} calls) later
    List.Forall₂ (Agrees StoreFailure) after.2 plain.2
    ∧ ∃ before, (runCalls {} calls).decisions = some before
      ∧ (k < (recordText decision).length ∨ plain.1.decisions ≠ some before →
          ∃ msg, (TextStore.replay loads validate).run after.1
            = (after.1, .error (.log (.invalidJsonl (before.length + 1) msg)))) := by
  intro after plain
  obtain ⟨hrep, -⟩ := Refines.session (fun call hcall => program_refines (hcalls call hcall)) represents_empty
  rw [session_files, htext] at hrep
  obtain ⟨history, hrun, -⟩ := runCalls_picture calls none
  have hempty : picture none = {} := rfl
  rw [hempty] at hrun
  cases history with
  | none =>
      rw [hrep.initialState, hrun] at hinitialized
      cases hinitialized
  | some h =>
      have hdecisions : (runCalls {} calls).decisions = some h.decisions := by
        rw [hrun]
        rfl
      obtain ⟨hlog, hreadable⟩ := hrep.decisions
      rw [hdecisions] at hlog hreadable
      have htorn : Represents (TornLog loads validate h.decisions decision k)
          { text with decisions := tornAppend text.decisions decision k } (runCalls {} calls) := by
        refine { hrep with decisions := ⟨[], ?_, ?_, ?_⟩ }
        · rw [hlog, appendAll_eq, List.nil_append]
          rfl
        · rw [hdecisions, List.append_nil]
        · intro d hd
          rcases List.mem_append.mp hd with hd | hd
          · exact hreadable d hd
          · rw [List.mem_singleton.mp hd]
            exact hdecision
      obtain ⟨hafter, hanswers⟩ := Refines.session (fun call hcall => append_refines (hlater call hcall).isAppend
        fun _ heq => TornLog.extends ((hlater call hcall).readable heq)) htorn
      refine ⟨hanswers, h.decisions, hdecisions, ?_⟩
      intro hnot
      obtain ⟨msg, hmsg⟩ := hafter.decisions.refused hclosed hpos hle hnot
      have hinitial : after.1.initialState = some h.seed := by
        rw [hafter.initialState, session_files, (appends_keep _ fun call hcall => (hlater call hcall).isAppend).1,
          hrun]
        rfl
      exact ⟨msg, replay_refused hinitial hmsg⟩

theorem torn_append_forks_store_planned : ∃ (after : TextFiles) (msg : String),
    (TextStore.replay exampleLoads (exampleValidate examplePlanned)).run after
      = (after, .error (.log (.invalidJsonl 1 msg))) := by
  have hcalls : ∀ call ∈ [StoreCall.initializeStore (exampleRecord "PROJECT_INTAKE_ASSIGNED" none) false],
      call.Readable exampleLoads (exampleValidate examplePlanned) := by
    intro call hcall
    rw [List.mem_singleton.mp hcall]
    trivial
  have hlater : ∀ call ∈ [StoreCall.appendDecision examplePlanned],
      call.Appends exampleLoads (exampleValidate examplePlanned) := by
    intro call hcall
    rw [List.mem_singleton.mp hcall]
    exact examplePlanned_readable
  have hshort : 5 < (recordText examplePlanned).length := by decide +kernel
  obtain ⟨-, before, hbefore, hreplay⟩ :=
    torn_append_forks_store exampleLoads (exampleValidate examplePlanned) exampleLoads_closedOnly
      [.initializeStore (exampleRecord "PROJECT_INTAKE_ASSIGNED" none) false] [.appendDecision examplePlanned]
      hcalls hlater examplePlanned examplePlanned_readable 5 (by decide) (Nat.le_of_lt hshort) _ rfl rfl
  obtain rfl : [] = before := Option.some.inj hbefore
  exact ⟨_, hreplay (Or.inl hshort)⟩

end WorkflowDrivers
