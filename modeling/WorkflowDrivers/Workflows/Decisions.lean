import WorkflowDrivers.Policies.Templates

/-!
# `Workflows.Decisions` — what the two drivers share

Both drivers return decisions of four shapes (a blocker is created, a wait is started, the phase advances,
the workflow is done), build the same blocker when a review trigger is not ready, and fail in the same ways.
Each shape is one definition; that the decision model accepts it is one lemma.
-/

namespace WorkflowDrivers
open Lib

/-! ## Review triggers (`review_triggers.py`) -/

/-- Adapter-neutral verification result for a review request attempt. -/
structure ReviewTriggerVerification where
  targetReviewer : String
  prUrl : String
  repoVisibility : Option String := none
  reviewerPermission : Option String := none
  reviewRequests : List String := []
  latestReviewers : List String := []
  tagCommentUrl : Option String := none
  state : ReviewTriggerState
  resumeCondition : String
  requiredDecision : Option String := none

def ReviewTriggerVerification.canWaitForReview (verification : ReviewTriggerVerification) : Bool :=
  verification.state == .ready

/-! ## Arguments and errors -/

/-- The keyword arguments both drivers take. -/
structure TransitionArgs where
  decidedAt : String
  decisionId : Option String := none
  waitToStart : Option WaitPolicy := none
  reviewTrigger : Option ReviewTriggerVerification := none

/-- Why a driver raised: its own demand for a wait policy, its own check of the gate's blocker, or a decision
    that the decision model rejects. -/
inductive DriverError
  | requiresWait (message : String)
  | gateWithoutBlocker
  | invalidDecision (error : WorkflowDecision.ValidationError)
  deriving DecidableEq, Repr

/-- `value or default` for an optional string: the empty string counts as missing. -/
def orDefault (value : Option String) (default : String) : String :=
  match value with
  | none => default
  | some s => if s = "" then default else s

/-- `bool(value)` for an optional string. -/
def isTruthy (value : Option String) : Bool := value.any (fun s => s != "")

/-- Returning a decision builds it, so the model's validator runs. -/
def emit (d : WorkflowDecision) : Except DriverError WorkflowDecision :=
  match d.validate with
  | .ok d => .ok d
  | .error e => .error (.invalidDecision e)

/-! ## The shapes -/

section
variable (decisionId decidedAt fromPhase toPhase : String)

/-- A blocker is created or handed on. -/
def blockerDecision (blocker : Blocker) : WorkflowDecision where
  decisionId
  decidedAt
  fromPhase
  toPhase
  materialProgress := true
  progressSignal := some .blockerCreated
  blockerToRecord := some blocker

/-- A wait is started; a blocked state records its blocker again. -/
def waitDecision (wait : WaitPolicy) (blocker : Option Blocker) : WorkflowDecision where
  decisionId
  decidedAt
  fromPhase
  toPhase
  materialProgress := false
  progressSignal := some .waitTimerStarted
  waitToStart := some wait
  blockerToRecord := blocker

/-- The phase advances. -/
def advanceDecision (progressSignal : Option ProgressSignal)
    (driverAuthorization : Option DriverAuthorizationEvidence) : WorkflowDecision where
  decisionId
  decidedAt
  fromPhase
  toPhase
  materialProgress := true
  progressSignal
  driverAuthorization

/-- The workflow is done. -/
def doneDecision (progressSignal : Option ProgressSignal) (evidenceRefs : List EvidenceRef) :
    WorkflowDecision where
  decisionId
  decidedAt
  fromPhase
  toPhase
  materialProgress := true
  progressSignal
  evidenceRefs
  terminalOutcome := some .done

end

/-- `_blocker_for_review_trigger`, over the strings of the driver's phases. -/
def reviewTriggerBlocker (verification : ReviewTriggerVerification) (blockedPhase reviewRequested : String) :
    Blocker :=
  let ownerRole : WorkflowRole :=
    if verification.state = .blockedReviewerAccess then .humanApprover else .processSteward
  { reason := "Review trigger for " ++ verification.prUrl ++ " is " ++ StrEnum.value verification.state
      ++ "; cannot enter REVIEW_WAIT until " ++ verification.resumeCondition ++ "."
    category := if verification.state = .blockedReviewerAccess then .humanAuthority else .process
    owner := some (if ownerRole = .humanApprover then .zoEl else .elLe)
    ownerRole
    requiredDecision := orDefault verification.requiredDecision verification.resumeCondition
    resumeTarget :=
      { blockedPhase
        resumePhaseIfUnblocked := reviewRequested
        resumeActivity := some "request_review"
        decisionOptions :=
          [{ decision := "review_trigger_verified"
             resultingPhase := reviewRequested
             notes := "Retry review request after a durable review trigger is available." }] } }

/-! ## The shapes are valid -/

theorem emit_eq_ok {d e : WorkflowDecision} : emit d = .ok e ↔ e = d ∧ d.RunInvariant := by
  unfold emit
  rw [← WorkflowDecision.validate_eq_ok]
  cases h : d.validate with
  | error error => simp
  | ok d' =>
      obtain rfl := WorkflowDecision.validate_ok h
      simp [eq_comm]

theorem emit_of_valid {d : WorkflowDecision} (h : d.RunInvariant) : emit d = .ok d := emit_eq_ok.mpr ⟨rfl, h⟩

section
variable {d : WorkflowDecision} {decisionId decidedAt fromPhase toPhase : String}

theorem emitted_blocker {blocker : Blocker}
    (h : .ok d = emit (blockerDecision decisionId decidedAt fromPhase toPhase blocker)) :
    d.blockerToRecord ≠ none := by
  obtain ⟨rfl, -⟩ := emit_eq_ok.mp h.symm
  exact Option.some_ne_none _

theorem emitted_wait {wait : WaitPolicy} {blocker : Option Blocker}
    (h : .ok d = emit (waitDecision decisionId decidedAt fromPhase toPhase wait blocker)) :
    d.materialProgress ≠ true := by
  obtain ⟨rfl, -⟩ := emit_eq_ok.mp h.symm
  exact Bool.false_ne_true

end

section
variable {decisionId decidedAt fromPhase toPhase : String}

theorem blockerDecision_valid (blocker : Blocker) :
    (blockerDecision decisionId decidedAt fromPhase toPhase blocker).RunInvariant where
  atMostOneActivity := Nat.zero_le 1
  samePhaseRecords _ h := absurd h (by simp [blockerDecision])
  waitSignalHasPolicy h := absurd h (by simp [blockerDecision, signalIn, controlledWaitSignals])
  waitSignalNotMaterial h := absurd h (by simp [blockerDecision, signalIn, controlledWaitSignals])
  signalIsMaterial _ _ := rfl
  materialNamesEffect _ := rfl
  terminalAlone h := absurd h (by simp [blockerDecision])
  terminalPhase := nofun
  blockedRecords _ := Option.some_ne_none _

/-- A wait may be started in a blocked phase only with the blocker recorded again. -/
theorem waitDecision_valid {wait : WaitPolicy} {blocker : Option Blocker}
    (h : isBlockedPhase toPhase = true → blocker ≠ none) :
    (waitDecision decisionId decidedAt fromPhase toPhase wait blocker).RunInvariant where
  atMostOneActivity := Nat.zero_le 1
  samePhaseRecords _ _ hw := absurd hw (Option.some_ne_none _)
  waitSignalHasPolicy _ := Option.some_ne_none _
  waitSignalNotMaterial _ := rfl
  signalIsMaterial _ hs := absurd hs (by simp [waitDecision, signalIn, controlledWaitSignals])
  materialNamesEffect hm := absurd hm (by simp [waitDecision])
  terminalAlone ht := absurd ht (by simp [waitDecision])
  terminalPhase := nofun
  blockedRecords := by
    rintro (hb | hs)
    · exact h hb
    · exact absurd hs (by simp [waitDecision, signalIn, blockerSignals])

/-- A signal that neither starts a wait nor creates a blocker. -/
def IsPlainSignal (signal : ProgressSignal) : Prop := signal ∉ controlledWaitSignals ∧ signal ∉ blockerSignals

instance (signal : ProgressSignal) : Decidable (IsPlainSignal signal) :=
  inferInstanceAs (Decidable (_ ∧ _))

theorem IsPlainSignal.not_wait {signal : ProgressSignal} (h : IsPlainSignal signal) :
    signalIn controlledWaitSignals (some signal) = false := by simpa [signalIn] using h.1

theorem IsPlainSignal.not_blocker {signal : ProgressSignal} (h : IsPlainSignal signal) :
    signalIn blockerSignals (some signal) = false := by simpa [signalIn] using h.2

/-- An advance needs a plain signal, and does not lead to a blocked phase. -/
theorem advanceDecision_valid {signal : ProgressSignal} {authorization : Option DriverAuthorizationEvidence}
    (hsignal : IsPlainSignal signal) (hto : isBlockedPhase toPhase = false) :
    (advanceDecision decisionId decidedAt fromPhase toPhase (some signal) authorization).RunInvariant where
  atMostOneActivity := Nat.zero_le 1
  samePhaseRecords _ hm := absurd hm (by simp [advanceDecision])
  waitSignalHasPolicy hs := by
    simp only [advanceDecision, hsignal.not_wait] at hs
    exact absurd hs Bool.false_ne_true
  waitSignalNotMaterial hs := by
    simp only [advanceDecision, hsignal.not_wait] at hs
    exact absurd hs Bool.false_ne_true
  signalIsMaterial _ _ := rfl
  materialNamesEffect _ := rfl
  terminalAlone ht := absurd ht (by simp [advanceDecision])
  terminalPhase := nofun
  blockedRecords := by
    simp only [advanceDecision, hto, hsignal.not_blocker]
    simp

/-- No terminal phase is a blocked phase. -/
theorem terminalPhase_not_blocked (outcome : TerminalOutcome) :
    ∀ phase ∈ terminalPhasesByOutcome outcome, isBlockedPhase phase = false := by
  cases outcome <;> decide

/-- Being done needs a phase that says so, and a plain signal if any. -/
theorem doneDecision_valid {signal : Option ProgressSignal} {evidenceRefs : List EvidenceRef}
    (hsignal : ∀ s ∈ signal, IsPlainSignal s) (hto : toPhase ∈ terminalPhasesByOutcome .done) :
    (doneDecision decisionId decidedAt fromPhase toPhase signal evidenceRefs).RunInvariant := by
  have hwait : signalIn controlledWaitSignals signal = false := by
    cases signal with
    | none => rfl
    | some s => exact (hsignal s rfl).not_wait
  have hblocker : signalIn blockerSignals signal = false := by
    cases signal with
    | none => rfl
    | some s => exact (hsignal s rfl).not_blocker
  have hphase : isBlockedPhase toPhase = false := terminalPhase_not_blocked _ _ hto
  exact
    { atMostOneActivity := Nat.zero_le 1
      samePhaseRecords := fun _ hm => absurd hm (by simp [doneDecision])
      waitSignalHasPolicy := by simp [doneDecision, hwait]
      waitSignalNotMaterial := by simp [doneDecision, hwait]
      signalIsMaterial := fun _ _ => rfl
      materialNamesEffect := by simp [doneDecision, WorkflowDecision.namesEffect]
      terminalAlone := fun _ => ⟨rfl, rfl, rfl⟩
      terminalPhase := by
        intro o ho
        obtain rfl : TerminalOutcome.done = o := Option.some.inj ho
        exact hto
      blockedRecords := by simp [doneDecision, hphase, hblocker] }

end

/-! ## Signal tables

Both drivers look the signal of an edge up in a table, and in both tables one edge, the one into the review wait,
starts a wait, while every other edge has a plain signal. -/

/-- Every entry is the first of its key, does not lead to a blocked phase, and has a plain signal, except for the
    edge that starts a wait. -/
def RegularTable {Phase : Type} [StrEnum Phase] [BEq Phase] (table : List ((Phase × Phase) × ProgressSignal))
    (waitEdge : Phase × Phase) : Prop :=
  ∀ entry ∈ table, table.lookup entry.1 = some entry.2 ∧ isBlockedPhase (StrEnum.value entry.1.2) = false
    ∧ (IsPlainSignal entry.2 ∨ entry = (waitEdge, .waitTimerStarted))

/-- What a table answers is one of its entries. -/
theorem mem_of_lookup_eq_some {α β : Type} [BEq α] [LawfulBEq α] {table : List (α × β)} {key : α}
    {b : β} (h : table.lookup key = some b) : (key, b) ∈ table := by
  obtain ⟨before, after, htable, -⟩ := List.lookup_eq_some_iff.mp h
  rw [htable]
  exact List.mem_append_right before List.mem_cons_self

section
variable {Phase : Type} [StrEnum Phase] [BEq Phase]
  {table : List ((Phase × Phase) × ProgressSignal)} {waitEdge edge : Phase × Phase}

/-- An edge of the table that does not start a wait has a plain signal. -/
theorem RegularTable.advance_signal (htable : RegularTable table waitEdge) (hedge : edge ∈ table.map Prod.fst)
    (hwait : table.lookup edge ≠ some .waitTimerStarted) :
    isBlockedPhase (StrEnum.value edge.2) = false
      ∧ ∃ signal, IsPlainSignal signal ∧ table.lookup edge = some signal := by
  obtain ⟨⟨edge, signal⟩, hmem, rfl⟩ := List.mem_map.mp hedge
  -- the only entry that is not plain starts a wait, which `hwait` excludes
  obtain ⟨hlookup, hto, hplain | hentry⟩ := htable _ hmem
  · exact ⟨hto, signal, hplain, hlookup⟩
  · rw [hlookup, (Prod.mk.inj hentry).2] at hwait
    exact absurd rfl hwait

/-- Only the wait edge starts a wait. -/
theorem RegularTable.wait_edge [LawfulBEq Phase] (htable : RegularTable table waitEdge)
    (hwait : table.lookup edge = some .waitTimerStarted) : edge = waitEdge := by
  obtain ⟨-, -, hplain | hentry⟩ := htable _ (mem_of_lookup_eq_some hwait)
  · have hcontrolled : ProgressSignal.waitTimerStarted ∈ controlledWaitSignals := by decide
    exact absurd hcontrolled hplain.1
  · exact (Prod.mk.inj hentry).1

end

end WorkflowDrivers
