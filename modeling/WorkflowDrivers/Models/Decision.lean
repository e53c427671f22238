import WorkflowDrivers.Lib.Replay
import WorkflowDrivers.Models.Records

/-!
# `Models.Decision` — `WorkflowDecision` and its validator

`enforceRunInvariant` is the source's model validator, check by check and in its order. `RunInvariant` is
what a decision that passed it satisfies, one named rule per check; `validate_eq_ok` says the two agree.
Decisions that passed are a type of their own, `ValidDecision`: the runs of the correctness results are runs
of these, so that no result has to carry the rules along.
-/

namespace WorkflowDrivers
open Lib

structure WorkflowDecision where
  decisionId : String
  decidedAt : String
  fromPhase : String
  toPhase : String
  materialProgress : Bool := false
  progressSignal : Option ProgressSignal := none
  activitiesToSchedule : List ActivityRequest := []
  waitToStart : Option WaitPolicy := none
  blockerToRecord : Option Blocker := none
  evidenceRefs : List EvidenceRef := []
  driverAuthorization : Option DriverAuthorizationEvidence := none
  terminalOutcome : Option TerminalOutcome := none
  deriving DecidableEq

/-- `phase.startswith("BLOCKED_NEEDS_")`. -/
def isBlockedPhase (phase : String) : Bool := "BLOCKED_NEEDS_".toList.isPrefixOf phase.toList

/-- The set written `{RETRY_SCHEDULED, WAIT_TIMER_STARTED}`. -/
def controlledWaitSignals : List ProgressSignal := [.retryScheduled, .waitTimerStarted]

/-- The set written `{BLOCKER_CREATED, BLOCKER_ESCALATED}`. -/
def blockerSignals : List ProgressSignal := [.blockerCreated, .blockerEscalated]

/-- `signal in signals`; `None` is in no set of signals. -/
def signalIn (signals : List ProgressSignal) (signal : Option ProgressSignal) : Bool :=
  signal.any (fun s => signals.contains s)

/-- The phases a terminal outcome may be recorded in. -/
def terminalPhasesByOutcome : TerminalOutcome → List String
  | .done => ["DONE", "COMPLETE"]
  | .failed => ["FAILED"]
  | .cancelled => ["CANCELLED"]

namespace WorkflowDecision

/-- Whether the decision names any effect besides `material_progress` and `wait_to_start`. -/
def namesEffect (d : WorkflowDecision) : Bool :=
  d.progressSignal.isSome || !d.activitiesToSchedule.isEmpty || d.blockerToRecord.isSome
    || !d.evidenceRefs.isEmpty || d.driverAuthorization.isSome || d.terminalOutcome.isSome

def enforceRunInvariant (d : WorkflowDecision) : Except String WorkflowDecision :=
  if d.fromPhase = d.toPhase ∧ (d.materialProgress || d.waitToStart.isSome || d.namesEffect) = false then
    .error ("same-phase decisions must record progress, activity, wait, blocker, evidence, or "
      ++ "terminal outcome")
  else if signalIn controlledWaitSignals d.progressSignal ∧ d.waitToStart = none then
    .error "controlled wait signals require wait_to_start"
  else if signalIn controlledWaitSignals d.progressSignal ∧ d.materialProgress then
    .error "controlled wait signals cannot be material progress"
  else if d.progressSignal.isSome ∧ d.materialProgress = false
      ∧ signalIn controlledWaitSignals d.progressSignal = false then
    .error "material progress signals require material_progress=True"
  else if d.materialProgress ∧ d.namesEffect = false then
    .error ("material progress decisions require a progress signal, activity, blocker, evidence, or "
      ++ "terminal outcome")
  else if d.terminalOutcome.isSome
      ∧ (!d.activitiesToSchedule.isEmpty || d.waitToStart.isSome || d.blockerToRecord.isSome) then
    .error "terminal decisions cannot schedule activities, start waits, or record blockers"
  else if ∃ o ∈ d.terminalOutcome, d.toPhase ∉ terminalPhasesByOutcome o then
    .error "terminal decisions must transition to a terminal phase matching terminal_outcome"
  else if (isBlockedPhase d.toPhase ∨ signalIn blockerSignals d.progressSignal)
      ∧ d.blockerToRecord = none then
    .error "blocked decisions require blocker_to_record"
  else .ok d

/-- Why building a decision failed: a field constraint, or a rule of the model validator. -/
inductive ValidationError
  | tooManyItems (field : String)
  | rule (message : String)
  deriving DecidableEq, Repr

/-- Building a `WorkflowDecision`: the field constraint on the activities, then the model validator. -/
def validate (d : WorkflowDecision) : Except ValidationError WorkflowDecision :=
  if 1 < d.activitiesToSchedule.length then .error (.tooManyItems "activities_to_schedule")
  else
    match d.enforceRunInvariant with
    | .ok d => .ok d
    | .error message => .error (.rule message)

/-- **The rules a valid decision satisfies**, in the order of the checks. -/
structure RunInvariant (d : WorkflowDecision) : Prop where
  atMostOneActivity : d.activitiesToSchedule.length ≤ 1
  samePhaseRecords : d.fromPhase = d.toPhase → d.materialProgress = false → d.waitToStart = none →
    d.namesEffect = true
  waitSignalHasPolicy : signalIn controlledWaitSignals d.progressSignal = true → d.waitToStart ≠ none
  waitSignalNotMaterial : signalIn controlledWaitSignals d.progressSignal = true →
    d.materialProgress = false
  signalIsMaterial : d.progressSignal.isSome = true →
    signalIn controlledWaitSignals d.progressSignal = false → d.materialProgress = true
  materialNamesEffect : d.materialProgress = true → d.namesEffect = true
  terminalAlone : d.terminalOutcome.isSome = true →
    d.activitiesToSchedule = [] ∧ d.waitToStart = none ∧ d.blockerToRecord = none
  terminalPhase : ∀ o ∈ d.terminalOutcome, d.toPhase ∈ terminalPhasesByOutcome o
  blockedRecords : isBlockedPhase d.toPhase = true ∨ signalIn blockerSignals d.progressSignal = true →
    d.blockerToRecord ≠ none

theorem enforceRunInvariant_ok {d e : WorkflowDecision} (h : d.enforceRunInvariant = .ok e) : e = d := by
  unfold enforceRunInvariant at h
  simp only [guard_eq_ok] at h
  obtain ⟨-, -, -, -, -, -, -, -, hok⟩ := h
  exact (Except.ok.inj hok).symm

/-- The validator returns the decision it was given. -/
theorem validate_ok {d e : WorkflowDecision} (h : d.validate = .ok e) : e = d := by
  obtain ⟨-, hok⟩ := guard_eq_ok.mp h
  cases he : d.enforceRunInvariant with
  | error message => simp [he] at hok
  | ok d' =>
      rw [he] at hok
      obtain rfl := Except.ok.inj hok
      exact enforceRunInvariant_ok he

/-- **The validator accepts exactly the decisions that satisfy the rules.** -/
theorem validate_eq_ok {d : WorkflowDecision} : d.validate = .ok d ↔ d.RunInvariant := by
  constructor
  · intro h
    obtain ⟨h0, hok⟩ := guard_eq_ok.mp h
    have henforced : d.enforceRunInvariant = .ok d := by
      cases he : d.enforceRunInvariant with
      | error message => simp [he] at hok
      | ok d' => rw [enforceRunInvariant_ok he]
    -- what each check does not find, in their order
    unfold enforceRunInvariant at henforced
    simp only [guard_eq_ok] at henforced
    obtain ⟨h1, h2, h3, h4, h5, h6, h7, h8, -⟩ := henforced
    exact
      { atMostOneActivity := Nat.not_lt.mp h0
        samePhaseRecords := by
          intro he
          simpa [he] using h1
        waitSignalHasPolicy := fun hs hw => h2 ⟨hs, hw⟩
        waitSignalNotMaterial := by
          intro hs
          simpa [hs] using h3
        signalIsMaterial := by
          intro hp hs
          simpa [hp, hs] using h4
        materialNamesEffect := by
          intro hm
          simpa [hm] using h5
        terminalAlone := by
          intro ht
          simpa [ht, and_assoc] using h6
        terminalPhase := by
          intro o ho
          by_contra hn
          exact h7 ⟨o, ho, hn⟩
        blockedRecords := fun hb hn => h8 ⟨hb, hn⟩ }
  · intro h
    have hsame : ¬(d.fromPhase = d.toPhase
        ∧ (d.materialProgress || d.waitToStart.isSome || d.namesEffect) = false) := by
      simpa using h.samePhaseRecords
    have hsignal : ¬(d.progressSignal.isSome ∧ d.materialProgress = false
        ∧ signalIn controlledWaitSignals d.progressSignal = false) := by
      rintro ⟨hs, hm, hw⟩
      rw [h.signalIsMaterial hs hw] at hm
      exact absurd hm (by decide)
    have halone : ¬(d.terminalOutcome.isSome
        ∧ (!d.activitiesToSchedule.isEmpty || d.waitToStart.isSome || d.blockerToRecord.isSome)) := by
      simpa [and_assoc] using h.terminalAlone
    unfold validate enforceRunInvariant
    rw [if_neg (Nat.not_lt.mpr h.atMostOneActivity), if_neg hsame,
      if_neg (fun hc => h.waitSignalHasPolicy hc.1 hc.2),
      if_neg (fun hc => by simp [h.waitSignalNotMaterial hc.1] at hc), if_neg hsignal,
      if_neg (fun hc => by simp [h.materialNamesEffect hc.1] at hc), if_neg halone,
      if_neg (fun ⟨o, ho, hn⟩ => hn (h.terminalPhase o ho)), if_neg (fun hc => h.blockedRecords hc.1 hc.2)]

end WorkflowDecision

/-- A decision that passed the validator. -/
structure ValidDecision extends WorkflowDecision where
  valid : toWorkflowDecision.RunInvariant

/-- A decision that starts planning. -/
def examplePlanned : WorkflowDecision where
  decisionId := "D-1"
  decidedAt := "T1"
  fromPhase := "PROJECT_INTAKE_ASSIGNED"
  toPhase := "PLANNING"
  materialProgress := true
  progressSignal := some .projectAccepted

end WorkflowDrivers
