import Mathlib.Tactic.SplitIfs
import WorkflowDrivers.Lib.Replay
import WorkflowDrivers.Models.Decision

/-!
# `Policies.Replay` — applying decisions to a state record

`applyDecision` is translated in the source's order: the three guards, then the stages that update a copy of
the record. Each stage is one function, so that it can be read against the source; what the stages add up to
is said once, field by field, in the `nextState_*` lemmas, and what it takes to be accepted in `Accepts`.
`applyDecision_eq_ok` is the inversion lemma every later proof about runs goes through.
-/

namespace WorkflowDrivers
open Lib

/-- Why a decision cannot be applied. -/
inductive ReplayError
  | phaseMismatch (fromPhase statePhase : String)
  | blockedWithoutBlocker
  | resumeWithoutBlocker
  | resumeNotAnOption
  | tooManyActivities
  deriving DecidableEq, Repr

def ReplayError.message [UnicodeData] : ReplayError → String
  | .phaseMismatch fromPhase statePhase =>
      "cannot apply decision from phase " ++ pyRepr fromPhase ++ " to state in phase " ++ pyRepr statePhase
  | .blockedWithoutBlocker => "blocked phases require a durable blocker record"
  | .resumeWithoutBlocker => "blocked states require a durable blocker before resume"
  | .resumeNotAnOption => "blocked resume transition must use a recorded resume option"
  | .tooManyActivities => "workflow state supports only one current activity per decision"

/-! ## The guards -/

/-- The decision leaves a blocked phase without ending the workflow. -/
def leavingBlockedNonterminal (state : WorkflowStateRecord) (decision : WorkflowDecision) : Bool :=
  isBlockedPhase state.phase && !isBlockedPhase decision.toPhase && decision.terminalOutcome.isNone

/-- The phases a blocker's decision options lead to. -/
def Blocker.resumePhases (blocker : Blocker) : List String :=
  blocker.resumeTarget.decisionOptions.map ResumeDecisionOption.resultingPhase

/-- A blocked state is left only by a recorded resume option. -/
def checkResume (state : WorkflowStateRecord) (decision : WorkflowDecision) : Except ReplayError Unit :=
  if leavingBlockedNonterminal state decision then
    match state.blocker with
    | none => .error .resumeWithoutBlocker
    | some blocker =>
        if decision.toPhase ∉ blocker.resumePhases then .error .resumeNotAnOption else .ok ()
  else .ok ()

/-! ## The stages of the update -/

/-- The new current activity: the scheduled one, requested when the decision was made. -/
def scheduledActivity (decision : WorkflowDecision) : Option CurrentActivity :=
  match decision.activitiesToSchedule with
  | [] => none
  | activity :: _ =>
      some { activityId := activity.activityId, role := activity.role,
             requestedAt := decision.decidedAt, deadlineAt := none }

def updateWait (state : WorkflowStateRecord) (decision : WorkflowDecision) (next : WorkflowStateRecord) :
    WorkflowStateRecord :=
  match decision.waitToStart with
  | some wait => { next with wait := some wait }
  | none => if decision.toPhase ≠ state.phase then { next with wait := none } else next

/-- A decision without a blocker clears the recorded one: it resolves it, ends the workflow, or leaves the
    blocked phases. -/
def clearsBlocker (state : WorkflowStateRecord) (decision : WorkflowDecision) : Bool :=
  decision.progressSignal == some .blockerResolved || decision.terminalOutcome.isSome
    || (isBlockedPhase state.phase && !isBlockedPhase decision.toPhase)

def updateBlocker (state : WorkflowStateRecord) (decision : WorkflowDecision) (next : WorkflowStateRecord) :
    WorkflowStateRecord :=
  match decision.blockerToRecord with
  | some blocker => { next with blocker := some blocker, wait := none }
  | none => if clearsBlocker state decision then { next with blocker := none } else next

/-- A same-phase decision without progress, wait, blocker or activity only observes. -/
def isNoOpObservation (decision : WorkflowDecision) : Bool :=
  decision.fromPhase == decision.toPhase
    && !(decision.waitToStart.isSome || decision.blockerToRecord.isSome
          || !decision.activitiesToSchedule.isEmpty)

def updateLedger (decision : WorkflowDecision) (ledger : ProgressLedger) : ProgressLedger :=
  if decision.materialProgress then
    { lastMaterialProgressAt := some decision.decidedAt, lastProgressSignal := decision.progressSignal,
      noOpObservationCount := 0 }
  else if isNoOpObservation decision then
    { ledger with noOpObservationCount := ledger.noOpObservationCount + 1 }
  else ledger

def updateTerminal (decision : WorkflowDecision) (next : WorkflowStateRecord) : WorkflowStateRecord :=
  match decision.terminalOutcome with
  | some outcome => { next with terminal := some { outcome := outcome } }
  | none => next

/-- The record after an accepted decision: the stages in the source's order. -/
def nextState (state : WorkflowStateRecord) (decision : WorkflowDecision) : WorkflowStateRecord :=
  let next := { state with phase := decision.toPhase, currentActivity := scheduledActivity decision }
  let next := updateWait state decision next
  let next := updateBlocker state decision next
  let next := { next with evidenceRefs := next.evidenceRefs ++ decision.evidenceRefs }
  let next := { next with progressLedger := updateLedger decision next.progressLedger }
  updateTerminal decision next

/-- Return a new state record after applying one deterministic decision. -/
def applyDecision (state : WorkflowStateRecord) (decision : WorkflowDecision) :
    Except ReplayError WorkflowStateRecord :=
  if decision.fromPhase ≠ state.phase then .error (.phaseMismatch decision.fromPhase state.phase)
  else if isBlockedPhase decision.toPhase ∧ decision.blockerToRecord = none then
    .error .blockedWithoutBlocker
  else
    match checkResume state decision with
    | .error e => .error e
    | .ok () =>
        if 1 < decision.activitiesToSchedule.length then .error .tooManyActivities
        else .ok (nextState state decision)

/-- Replay decisions from an initial state. -/
def replayDecisions (initialState : WorkflowStateRecord) (decisions : List WorkflowDecision) :
    Except ReplayError WorkflowStateRecord :=
  replay applyDecision initialState decisions

/-! ## What an update does, field by field -/

/-- The wait after a decision: recording a blocker wins over starting a wait, and a phase change drops a
    wait that is not renewed. -/
def nextWait (state : WorkflowStateRecord) (decision : WorkflowDecision) : Option WaitPolicy :=
  if decision.blockerToRecord.isSome then none
  else if decision.waitToStart.isSome then decision.waitToStart
  else if decision.toPhase ≠ state.phase then none
  else state.wait

/-- The blocker after a decision. -/
def nextBlocker (state : WorkflowStateRecord) (decision : WorkflowDecision) : Option Blocker :=
  if decision.blockerToRecord.isSome then decision.blockerToRecord
  else if clearsBlocker state decision then none
  else state.blocker

/-- The terminal state after a decision. -/
def nextTerminal (state : WorkflowStateRecord) (decision : WorkflowDecision) : Option TerminalState :=
  match decision.terminalOutcome with
  | some outcome => some { outcome := outcome }
  | none => state.terminal

theorem updateWait_eq (state next : WorkflowStateRecord) (decision : WorkflowDecision) :
    updateWait state decision next =
      { next with
        wait :=
          if decision.waitToStart.isSome then decision.waitToStart
          else if decision.toPhase ≠ state.phase then none
          else next.wait } := by
  unfold updateWait
  cases decision.waitToStart with
  | some wait => rfl
  | none => by_cases h : decision.toPhase = state.phase <;> simp [h]

theorem updateBlocker_eq (state next : WorkflowStateRecord) (decision : WorkflowDecision) :
    updateBlocker state decision next =
      { next with
        wait := if decision.blockerToRecord.isSome then none else next.wait
        blocker :=
          if decision.blockerToRecord.isSome then decision.blockerToRecord
          else if clearsBlocker state decision then none
          else next.blocker } := by
  unfold updateBlocker
  cases decision.blockerToRecord with
  | some blocker => rfl
  | none => by_cases h : clearsBlocker state decision = true <;> simp [h]

theorem updateTerminal_eq (next : WorkflowStateRecord) (decision : WorkflowDecision) :
    updateTerminal decision next = { next with terminal := nextTerminal next decision } := by
  unfold updateTerminal nextTerminal
  cases decision.terminalOutcome <;> rfl

/-- **The stages add up to one update of seven fields.** -/
theorem nextState_eq (state : WorkflowStateRecord) (decision : WorkflowDecision) :
    nextState state decision =
      { state with
        phase := decision.toPhase
        currentActivity := scheduledActivity decision
        wait := nextWait state decision
        blocker := nextBlocker state decision
        evidenceRefs := state.evidenceRefs ++ decision.evidenceRefs
        progressLedger := updateLedger decision state.progressLedger
        terminal := nextTerminal state decision } := by
  unfold nextState
  rw [updateTerminal_eq, updateBlocker_eq, updateWait_eq]
  rfl

section
variable (state : WorkflowStateRecord) (decision : WorkflowDecision)

@[simp] theorem nextState_phase : (nextState state decision).phase = decision.toPhase := by
  rw [nextState_eq]

@[simp] theorem nextState_currentActivity :
    (nextState state decision).currentActivity = scheduledActivity decision := by rw [nextState_eq]

@[simp] theorem nextState_wait : (nextState state decision).wait = nextWait state decision := by
  rw [nextState_eq]

@[simp] theorem nextState_blocker : (nextState state decision).blocker = nextBlocker state decision := by
  rw [nextState_eq]

@[simp] theorem nextState_terminal : (nextState state decision).terminal = nextTerminal state decision := by
  rw [nextState_eq]

end

/-- A recorded blocker replaces the old one and ends any wait. -/
theorem nextState_of_blocker (state : WorkflowStateRecord) {decision : WorkflowDecision} {blocker : Blocker}
    (h : decision.blockerToRecord = some blocker) :
    (nextState state decision).blocker = some blocker ∧ (nextState state decision).wait = none := by
  simp [nextBlocker, nextWait, h]

/-- Leaving the blocked phases clears the blocker, unless another one is recorded. -/
theorem nextBlocker_of_leaving {state : WorkflowStateRecord} {decision : WorkflowDecision}
    (hfrom : isBlockedPhase state.phase = true) (hto : isBlockedPhase decision.toPhase = false)
    (hnone : decision.blockerToRecord = none) : nextBlocker state decision = none := by
  have hclears : clearsBlocker state decision = true := by
    rw [clearsBlocker, hfrom, hto]
    simp
  rw [nextBlocker, hnone, hclears]
  simp

/-! ## What it takes to be accepted -/

/-- **The conditions under which a decision can be applied to a record.** -/
structure Accepts (state : WorkflowStateRecord) (decision : WorkflowDecision) : Prop where
  fromPhase : decision.fromPhase = state.phase
  blockedRecords : isBlockedPhase decision.toPhase = true → decision.blockerToRecord ≠ none
  resumeOption : leavingBlockedNonterminal state decision = true →
    ∃ blocker ∈ state.blocker, decision.toPhase ∈ blocker.resumePhases
  atMostOneActivity : decision.activitiesToSchedule.length ≤ 1

theorem checkResume_eq_ok {state : WorkflowStateRecord} {decision : WorkflowDecision} :
    checkResume state decision = .ok () ↔
      (leavingBlockedNonterminal state decision = true →
        ∃ blocker ∈ state.blocker, decision.toPhase ∈ blocker.resumePhases) := by
  unfold checkResume
  by_cases hleave : leavingBlockedNonterminal state decision = true
  · cases hb : state.blocker with
    | none => simp [hleave]
    | some blocker => simp [hleave]
  · simp [hleave]

/-- **Inversion.** A decision is applied exactly when it is accepted, and the result is the next state. -/
theorem applyDecision_eq_ok {state next : WorkflowStateRecord} {decision : WorkflowDecision} :
    applyDecision state decision = .ok next ↔ Accepts state decision ∧ next = nextState state decision := by
  unfold applyDecision
  constructor
  · -- the guards are passed one after the other, in the source's order
    intro h
    by_cases hfrom : decision.fromPhase ≠ state.phase
    · rw [if_pos hfrom] at h
      exact absurd h (by simp)
    by_cases hblocked : isBlockedPhase decision.toPhase ∧ decision.blockerToRecord = none
    · rw [if_neg hfrom, if_pos hblocked] at h
      exact absurd h (by simp)
    rw [if_neg hfrom, if_neg hblocked] at h
    cases hresume : checkResume state decision with
    | error e =>
        rw [hresume] at h
        exact absurd h (by simp)
    | ok u =>
        rw [hresume] at h
        simp only at h
        split_ifs at h with hmany
        exact ⟨{ fromPhase := not_not.mp hfrom
                 blockedRecords := fun hb hn => hblocked ⟨hb, hn⟩
                 resumeOption := checkResume_eq_ok.mp hresume
                 atMostOneActivity := Nat.not_lt.mp hmany }, (Except.ok.inj h).symm⟩
  · rintro ⟨h, rfl⟩
    rw [if_neg (not_not.mpr h.fromPhase), if_neg (fun hc => h.blockedRecords hc.1 hc.2),
      checkResume_eq_ok.mpr h.resumeOption]
    exact if_neg (Nat.not_lt.mpr h.atMostOneActivity)

/-- A step out of the blocked phases that does not end the workflow takes a recorded option. -/
theorem Accepts.leaving {state : WorkflowStateRecord} {decision : WorkflowDecision}
    (haccepts : Accepts state decision) (hfrom : isBlockedPhase state.phase = true)
    (hto : isBlockedPhase decision.toPhase = false) (hterminal : decision.terminalOutcome = none) :
    ∃ blocker ∈ state.blocker, ∃ option ∈ blocker.resumeTarget.decisionOptions,
      option.resultingPhase = decision.toPhase := by
  have hleave : leavingBlockedNonterminal state decision = true := by
    rw [leavingBlockedNonterminal, hfrom, hto, hterminal]
    rfl
  obtain ⟨blocker, hb, hmem⟩ := haccepts.resumeOption hleave
  obtain ⟨option, hoption, hphase⟩ := List.mem_map.mp hmem
  exact ⟨blocker, hb, option, hoption, hphase⟩

/-- A decision from another phase is rejected. -/
theorem applyDecision_phase {state next : WorkflowStateRecord} {decision : WorkflowDecision}
    (h : applyDecision state decision = .ok next) : decision.fromPhase = state.phase :=
  (applyDecision_eq_ok.mp h).1.fromPhase

end WorkflowDrivers
