import WorkflowDrivers.Workflows.ProjectDriver
import WorkflowDrivers.Workflows.TaskDriver

/-!
# `Correctness.DriverEngine` — the drivers and the engine agree

A driver reads a driver state, the engine applies its decision to a workflow record. Both drivers are put
under one description first: `DriverShape` forgets which gate or table a return path came from and keeps what
the engine can see of it. What a shape does to a record of the same phase and blocker is then proved once, for
both drivers.
-/

namespace WorkflowDrivers
open Lib StrEnum

/-! ## The shapes of a driver's answer -/

/-- What the engine sees of a driver's answer, for a state in `phase` with this blocker and an optional wait
    policy at hand. -/
inductive DriverShape (phase : String) (blocker : Option Blocker) (wait : Option WaitPolicy) :
    Except DriverError WorkflowDecision → Prop
  | raises {message : String} (hw : wait = none) :
      DriverShape phase blocker wait (.error (.requiresWait message))
  | blocks {decisionId decidedAt : String} (b : Blocker) :
      DriverShape phase blocker wait
        (emit (blockerDecision decisionId decidedAt phase (templateBlockedPhaseFor b.ownerRole) b))
  | waitsBlocked {decisionId decidedAt : String} {b : Blocker} {w : WaitPolicy} :
      DriverShape phase blocker wait
        (emit (waitDecision decisionId decidedAt phase (templateBlockedPhaseFor b.ownerRole) w (some b)))
  | waits {decisionId decidedAt toPhase : String} {w : WaitPolicy} (hb : blocker = none)
      (hto : isBlockedPhase toPhase = false) :
      DriverShape phase blocker wait (emit (waitDecision decisionId decidedAt phase toPhase w none))
  | advances {decisionId decidedAt toPhase : String} {signal : ProgressSignal}
      {authorization : Option DriverAuthorizationEvidence} (hb : blocker = none) (hplain : IsPlainSignal signal)
      (hto : isBlockedPhase toPhase = false) :
      DriverShape phase blocker wait
        (emit (advanceDecision decisionId decidedAt phase toPhase (some signal) authorization))
  | finishes {decisionId decidedAt toPhase : String} {signal : Option ProgressSignal}
      {evidenceRefs : List EvidenceRef} (hb : blocker = none) (hplain : ∀ s ∈ signal, IsPlainSignal s)
      (hto : toPhase ∈ terminalPhasesByOutcome .done) :
      DriverShape phase blocker wait
        (emit (doneDecision decisionId decidedAt phase toPhase signal evidenceRefs))

/-- A state that carries a blocker whenever its phase is blocked. -/
def CarriesBlocker (phase : String) (blocker : Option Blocker) : Prop :=
  isBlockedPhase phase = true → blocker ≠ none

theorem CarriesBlocker.not_blocked {phase : String} {blocker : Option Blocker}
    (h : CarriesBlocker phase blocker) (hb : blocker = none) : isBlockedPhase phase = false :=
  Bool.eq_false_iff.mpr fun hp => h hp hb

/-- Every answer of the project driver has one of the shapes. -/
theorem ProjectMove.shape [UnicodeData] {state : ProjectState} {args : ProjectTransitionArgs}
    {result : Except DriverError WorkflowDecision} (h : ProjectMove state args result)
    (hcarries : CarriesBlocker (value state.phase) state.blocker) :
    DriverShape (value state.phase) state.blocker args.waitToStart result := by
  cases h with
  | gateBlocked hgate hne =>
      rw [value_projectBlockedPhaseFor]
      exact .blocks _
  | blockedNeedsWait hb hw => exact .raises hw
  | blockedWait hb hsame hw =>
      rw [value_projectBlockedPhaseFor]
      exact .waitsBlocked
  | blocked hgate hb hne =>
      rw [value_projectBlockedPhaseFor]
      exact .blocks _
  | doneBlocked hb hdone hproof => exact .blocks (doneGateBlocker state (checkAcceptanceProof state).failures)
  | done hb hdone hproof => exact .finishes hb (done_signal_plain state.phase) (by decide)
  | reviewBlocked hb hphase =>
      rw [value_projectBlockedPhaseFor]
      exact .blocks _
  | needsWait hb hdone hw => exact .raises hw
  | reviewWait hb hphase hw => exact .waits hb (by decide)
  | wait hb hdone hsame hw => exact .waits hb (hcarries.not_blocked hb)
  | advance hgate hb hdone hne hsignal hplain hto => exact .advances hb hplain hto

/-- Every answer of the task driver has one of the shapes. -/
theorem TaskMove.shape {state : TaskState} {args : TransitionArgs}
    {result : Except DriverError WorkflowDecision} (h : TaskMove state args result)
    (hcarries : CarriesBlocker (value state.phase) state.blocker) :
    DriverShape (value state.phase) state.blocker args.waitToStart result := by
  cases h with
  | blockedNeedsWait hb hw => exact .raises hw
  | blockedWait hb hsame hw =>
      rw [value_taskBlockedPhaseFor]
      exact .waitsBlocked
  | blocked hb hne =>
      rw [value_taskBlockedPhaseFor]
      exact .blocks _
  | reviewBlocked hb hphase =>
      rw [value_taskBlockedPhaseFor]
      exact .blocks _
  | needsWait hb hw => exact .raises hw
  | reviewWait hb hphase hw => exact .waits hb (by decide)
  | wait hb hsame hw => exact .waits hb (hcarries.not_blocked hb)
  | advance hb hne hsignal hplain hto => exact .advances hb hplain hto

/-! ## What a shape does to a record -/

/-- A decision that fits a record: it starts there, it records a blocker exactly when it leads to a blocked
    phase, and without one there is nothing to resume or to clear. -/
structure FitsRecord (record : WorkflowStateRecord) (decision : WorkflowDecision) : Prop where
  fromPhase : decision.fromPhase = record.phase
  records : decision.blockerToRecord.isSome = true ↔ isBlockedPhase decision.toPhase = true
  unblocked : decision.blockerToRecord = none → record.blocker = none ∧ isBlockedPhase record.phase = false
  atMostOneActivity : decision.activitiesToSchedule.length ≤ 1

/-- A fitting decision is accepted. -/
theorem FitsRecord.accepts {record : WorkflowStateRecord} {decision : WorkflowDecision}
    (h : FitsRecord record decision) : Accepts record decision where
  fromPhase := h.fromPhase
  blockedRecords hb := Option.isSome_iff_ne_none.mp (h.records.mpr hb)
  resumeOption hleave := by
    unfold leavingBlockedNonterminal at hleave
    simp only [Bool.and_eq_true, Bool.not_eq_true'] at hleave
    -- leaving the blocked phases records no blocker, so the record was not blocked in the first place
    have hnone : decision.blockerToRecord = none := by
      rw [← Option.not_isSome_iff_eq_none, h.records, hleave.1.2]
      exact Bool.false_ne_true
    rw [(h.unblocked hnone).2] at hleave
    exact absurd hleave.1.1 Bool.false_ne_true
  atMostOneActivity := h.atMostOneActivity

/-- The record after a fitting decision has its blocker. -/
theorem FitsRecord.nextBlocker {record : WorkflowStateRecord} {decision : WorkflowDecision}
    (h : FitsRecord record decision) : (nextState record decision).blocker = decision.blockerToRecord := by
  rw [nextState_blocker]
  cases hb : decision.blockerToRecord with
  | some b => simp [WorkflowDrivers.nextBlocker, hb]
  | none => simp [WorkflowDrivers.nextBlocker, hb, (h.unblocked hb).1]

/-- **Agreement of an answer with the engine**: the driver asks for a missing wait policy, or it returns a
    decision that the model validates, that is not stalled and that the engine applies to the record as the
    decision says. -/
def AgreesWithEngine (record : WorkflowStateRecord) (wait : Option WaitPolicy) :
    Except DriverError WorkflowDecision → Prop
  | .error error => (∃ message, error = .requiresWait message) ∧ wait = none
  | .ok decision => decision.enforceRunInvariant = .ok decision ∧ decision.runOutcome ≠ .stalled ∧
      ∃ next, applyDecision record decision = .ok next ∧ next.phase = decision.toPhase
        ∧ next.blocker = decision.blockerToRecord
        ∧ (next.blocker.isSome = true ↔ isBlockedPhase next.phase = true)

theorem WorkflowDecision.RunInvariant.enforced {d : WorkflowDecision} (h : d.RunInvariant) :
    d.enforceRunInvariant = .ok d := by
  have hvalid := WorkflowDecision.validate_eq_ok.mpr h
  unfold validate at hvalid
  rw [if_neg (Nat.not_lt.mpr h.atMostOneActivity)] at hvalid
  cases he : d.enforceRunInvariant with
  | error message => simp [he] at hvalid
  | ok e => rw [enforceRunInvariant_ok he]

/-- A valid decision that names a signal and fits the record agrees with the engine. -/
theorem FitsRecord.agrees {record : WorkflowStateRecord} {wait : Option WaitPolicy}
    {decision : WorkflowDecision} (h : FitsRecord record decision) (hvalid : decision.RunInvariant)
    (hnames : decision.runOutcome ≠ .stalled) : AgreesWithEngine record wait (emit decision) := by
  rw [emit_of_valid hvalid]
  refine ⟨hvalid.enforced, hnames, nextState record decision, applyDecision_eq_ok.mpr ⟨h.accepts, rfl⟩,
    nextState_phase _ _, h.nextBlocker, ?_⟩
  rw [h.nextBlocker, nextState_phase]
  exact h.records

/-- **Every shape agrees with the engine**, on every record with the state's phase and blocker. -/
theorem DriverShape.agrees {record : WorkflowStateRecord} {wait : Option WaitPolicy}
    {result : Except DriverError WorkflowDecision} (h : DriverShape record.phase record.blocker wait result)
    (hcarries : CarriesBlocker record.phase record.blocker) : AgreesWithEngine record wait result := by
  cases h with
  | raises hw => exact ⟨⟨_, rfl⟩, hw⟩
  | blocks b =>
      have hrecords : some b ≠ none := Option.some_ne_none b
      refine FitsRecord.agrees ⟨rfl, ?_, fun hnone => absurd hnone hrecords, Nat.zero_le 1⟩ (blockerDecision_valid b)
        (WorkflowDecision.not_stalled_of_signal rfl)
      simp [blockerDecision]
  | @waitsBlocked _ _ b w =>
      have hrecords : some b ≠ none := Option.some_ne_none b
      refine FitsRecord.agrees ⟨rfl, ?_, fun hnone => absurd hnone hrecords, Nat.zero_le 1⟩
        (waitDecision_valid fun _ => hrecords) (WorkflowDecision.not_stalled_of_signal rfl)
      simp [waitDecision]
  | waits hb hto =>
      refine FitsRecord.agrees ⟨rfl, ?_, fun _ => ⟨hb, hcarries.not_blocked hb⟩, Nat.zero_le 1⟩
        (waitDecision_valid fun h => absurd h (by simp [hto])) (WorkflowDecision.not_stalled_of_signal rfl)
      simp [waitDecision, hto]
  | advances hb hplain hto =>
      refine FitsRecord.agrees ⟨rfl, ?_, fun _ => ⟨hb, hcarries.not_blocked hb⟩, Nat.zero_le 1⟩
        (advanceDecision_valid hplain hto) (WorkflowDecision.not_stalled_of_signal rfl)
      simp [advanceDecision, hto]
  | finishes hb hplain hto =>
      -- DONE may come without a signal; the terminal outcome is what keeps it from being stalled
      have hphase := terminalPhase_not_blocked _ _ hto
      refine FitsRecord.agrees ⟨rfl, ?_, fun _ => ⟨hb, hcarries.not_blocked hb⟩, Nat.zero_le 1⟩
        (doneDecision_valid hplain hto) (WorkflowDecision.not_stalled_of_terminal rfl)
      simp [doneDecision, hphase]

/-! ## The drivers -/

/-- **Driver and engine agree.** For every project and task state that carries a blocker whenever its phase is
    blocked, all arguments, and every record with the state's phase and blocker. -/
theorem drivers_agree_with_engine [UnicodeData] :
    (∀ (state : ProjectState) (args : ProjectTransitionArgs) (record : WorkflowStateRecord),
      CarriesBlocker (value state.phase) state.blocker →
      record.phase = value state.phase → record.blocker = state.blocker →
      AgreesWithEngine record args.waitToStart (decideNextProjectTransition state args))
    ∧ (∀ (state : TaskState) (args : TransitionArgs) (record : WorkflowStateRecord),
      CarriesBlocker (value state.phase) state.blocker →
      record.phase = value state.phase → record.blocker = state.blocker →
      AgreesWithEngine record args.waitToStart (decideNextTaskTransition state args)) := by
  constructor
  · intro state args record hcarries hphase hblocker
    have hshape := (decideNextProjectTransition_move state args).shape hcarries
    rw [← hphase, ← hblocker] at hshape hcarries
    exact hshape.agrees hcarries
  · intro state args record hcarries hphase hblocker
    have hshape := (decideNextTaskTransition_move state args).shape hcarries
    rw [← hphase, ← hblocker] at hshape hcarries
    exact hshape.agrees hcarries

/-- A project whose DONE gate blocked. -/
def exampleBlockedProject : ProjectState where
  id := "P-1"
  phase := .blockedNeedsZoEl
  blocker := some (doneGateBlocker { id := "P-1", phase := .finalReport } ["acceptance report is required"])

theorem drivers_agree_with_engine_blocked :
    AgreesWithEngine (exampleRecord "BLOCKED_NEEDS_ZO_EL" exampleBlockedProject.blocker) none
        (@decideNextProjectTransition asciiOnly exampleBlockedProject { decidedAt := "T1" })
      ∧ AgreesWithEngine (exampleRecord "CLAIMED" none) none
        (decideNextTaskTransition { id := "T-1", phase := .claimed } { decidedAt := "T1" }) :=
  ⟨(@drivers_agree_with_engine asciiOnly).1 exampleBlockedProject { decidedAt := "T1" }
      (exampleRecord "BLOCKED_NEEDS_ZO_EL" exampleBlockedProject.blocker)
      (fun _ => Option.some_ne_none _) rfl rfl,
    (@drivers_agree_with_engine asciiOnly).2 { id := "T-1", phase := .claimed } { decidedAt := "T1" }
      (exampleRecord "CLAIMED" none) (fun h => absurd h (by decide)) rfl rfl⟩

end WorkflowDrivers
