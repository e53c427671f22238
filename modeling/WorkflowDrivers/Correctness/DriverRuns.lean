import WorkflowDrivers.Lib.Drive
import WorkflowDrivers.Correctness.DriverEngine
import WorkflowDrivers.Correctness.BlockedWaits

/-!
# `Correctness.DriverRuns` — what the drivers can do over a whole run

At each tick the caller hands the driver a state in the phase of the record and the driver's decision is applied to
the record. Evidence, tasks and arguments may change from tick to tick in any way, and so may the blocker while the
record is open; while the record is blocked, the driver is handed the blocker of the record (`Mirrors`). What one tick
can do is said once, for both drivers (`DriverStep`): the record stays in its phase, it is blocked, or it takes an edge
of the driver's signal table. A rank on the phases then bounds the moves of a run, and a blocked record is left alone.

That the milestones of a phase are found in order among the signals of a run needs less: the phase of the record is
handed over, and any blocker (`TaskAsked`, `ProjectAsked`), for what another blocker changes is only which blocked
phase the record is in.
-/

namespace WorkflowDrivers
open Lib StrEnum

/-! ## Ticks -/

/-- The caller hands over the phase of the record and, while it is blocked, its blocker. -/
structure Mirrors (record : WorkflowStateRecord) (phase : String) (blocker : Option Blocker) : Prop where
  phase : record.phase = phase
  blocker : isBlockedPhase record.phase = true → blocker = record.blocker

/-- The task driver is asked for a state that mirrors the record, and decides. -/
def TaskDecides (record : WorkflowStateRecord) (tick : TaskState × TransitionArgs) (d : WorkflowDecision) : Prop :=
  Mirrors record (value tick.1.phase) tick.1.blocker ∧ decideNextTaskTransition tick.1 tick.2 = .ok d

/-- The same for the project driver. -/
def ProjectDecides [UnicodeData] (record : WorkflowStateRecord) (tick : ProjectState × ProjectTransitionArgs)
    (d : WorkflowDecision) : Prop :=
  Mirrors record (value tick.1.phase) tick.1.blocker ∧ decideNextProjectTransition tick.1 tick.2 = .ok d

/-- The task driver is asked for a state in the phase of the record, and decides. -/
def TaskAsked (record : WorkflowStateRecord) (tick : TaskState × TransitionArgs) (d : WorkflowDecision) : Prop :=
  record.phase = value tick.1.phase ∧ decideNextTaskTransition tick.1 tick.2 = .ok d

/-- The same for the project driver. -/
def ProjectAsked [UnicodeData] (record : WorkflowStateRecord) (tick : ProjectState × ProjectTransitionArgs)
    (d : WorkflowDecision) : Prop :=
  record.phase = value tick.1.phase ∧ decideNextProjectTransition tick.1 tick.2 = .ok d

/-- A run of the task driver. -/
abbrev TaskRun := Driven TaskDecides applyDecision

/-- A run of the project driver. -/
abbrev ProjectRun [UnicodeData] := Driven ProjectDecides applyDecision

/-- A blocked record holds a blocker that is routed to its phase. -/
def Routed (record : WorkflowStateRecord) : Prop :=
  isBlockedPhase record.phase = true → ∃ b ∈ record.blocker, record.phase = templateBlockedPhaseFor b.ownerRole

theorem routed_of_open {record : WorkflowStateRecord} (h : isBlockedPhase record.phase = false) : Routed record :=
  fun hblocked => absurd (h.symm.trans hblocked) Bool.false_ne_true

/-! ## One tick -/

/-- **What a tick can do**, with the driver's signal table. -/
inductive DriverStep {Phase : Type} [StrEnum Phase] (table : List ((Phase × Phase) × ProgressSignal))
    (record : WorkflowStateRecord) (d : WorkflowDecision) (next : WorkflowStateRecord) : Prop
  | stays (hphase : next.phase = record.phase) (hsame : d.fromPhase = d.toPhase)
      (hblocker : isBlockedPhase record.phase = true → next.blocker = record.blocker)
  | blocks {source target : Phase} {b : Blocker} (hfrom : record.phase = value source)
      (hopen : isBlockedPhase record.phase = false) (hto : next.phase = value target)
      (hroute : value target = templateBlockedPhaseFor b.ownerRole) (hblocker : next.blocker = some b)
  | takes {source target : Phase} {signal : ProgressSignal} (hedge : ((source, target), signal) ∈ table)
      (hfrom : record.phase = value source) (hopen : isBlockedPhase record.phase = false)
      (hto : next.phase = value target) (hsignal : d.progressSignal = some signal)

/-- A tick keeps blockers routed. -/
theorem DriverStep.routed {Phase : Type} [StrEnum Phase] [BEq Phase]
    {table : List ((Phase × Phase) × ProgressSignal)} {waitEdge : Phase × Phase}
    (htable : RegularTable table waitEdge) {record next : WorkflowStateRecord} {d : WorkflowDecision}
    (h : DriverStep table record d next) (hrouted : Routed record) : Routed next := by
  cases h with
  | stays hphase hsame hblocker =>
      intro hblocked
      rw [hphase] at hblocked ⊢
      rw [hblocker hblocked]
      exact hrouted hblocked
  | blocks hfrom hopen hto hroute hblocker =>
      intro _
      exact ⟨_, hblocker, hto.trans hroute⟩
  | takes hedge hfrom hopen hto hsignal =>
      obtain ⟨-, hnext, -⟩ := htable _ hedge
      exact routed_of_open (by rw [hto]; exact hnext)

section
variable {record next : WorkflowStateRecord} {d : WorkflowDecision}

/-- A decision that records a blocker from a phase that is not blocked blocks the record. -/
theorem blockerDecision_blocks {Phase : Type} [StrEnum Phase] {table : List ((Phase × Phase) × ProgressSignal)}
    {source target : Phase} {decisionId decidedAt fromPhase : String} {b : Blocker}
    (hfrom : record.phase = value source) (hopen : isBlockedPhase record.phase = false)
    (hroute : value target = templateBlockedPhaseFor b.ownerRole)
    (hstep : applyDecision record (blockerDecision decisionId decidedAt fromPhase (value target) b) = .ok next) :
    DriverStep table record (blockerDecision decisionId decidedAt fromPhase (value target) b) next := by
  obtain ⟨-, rfl⟩ := applyDecision_eq_ok.mp hstep
  exact .blocks hfrom hopen (nextState_phase ..) hroute (nextState_of_blocker record rfl).1

/-- A blocked record is waited for, in its phase and with its blocker. -/
theorem waitDecision_stays {Phase : Type} [StrEnum Phase] {table : List ((Phase × Phase) × ProgressSignal)}
    {decisionId decidedAt phase : String} {wait : WaitPolicy} {blocker : Option Blocker}
    (hphase : record.phase = phase)
    (hblocker : isBlockedPhase record.phase = true → blocker.isSome = true ∧ blocker = record.blocker)
    (hstep : applyDecision record (waitDecision decisionId decidedAt phase phase wait blocker) = .ok next) :
    DriverStep table record (waitDecision decisionId decidedAt phase phase wait blocker) next := by
  obtain ⟨-, rfl⟩ := applyDecision_eq_ok.mp hstep
  refine .stays ?_ rfl ?_
  · rw [nextState_phase, hphase]
    rfl
  · intro hblocked
    obtain ⟨hsome, hsame⟩ := hblocker hblocked
    obtain ⟨b, rfl⟩ := Option.isSome_iff_exists.mp hsome
    rw [(nextState_of_blocker record rfl).1, ← hsame]

/-- Of a blocked record the driver is handed the blocker, which is routed to its phase. -/
theorem Mirrors.blocked {phase : String} {blocker : Option Blocker} (h : Mirrors record phase blocker)
    (hrouted : Routed record) (hblocked : isBlockedPhase record.phase = true) :
    ∃ b, blocker = some b ∧ record.blocker = some b ∧ phase = templateBlockedPhaseFor b.ownerRole := by
  obtain ⟨b, hb, hroute⟩ := hrouted hblocked
  exact ⟨b, (h.blocker hblocked).trans hb, hb, h.phase.symm.trans hroute⟩

/-- While the record is blocked the task driver keeps the phase. -/
theorem task_blocked_same {state : TaskState} (h : Mirrors record (value state.phase) state.blocker)
    (hrouted : Routed record) (hblocked : isBlockedPhase record.phase = true) :
    nextTaskPhase state = state.phase := by
  obtain ⟨b, hb, -, hroute⟩ := h.blocked hrouted hblocked
  rw [nextTaskPhase, hb]
  exact value_inj.mp ((value_taskBlockedPhaseFor b.ownerRole).trans hroute.symm)

/-- **A tick of the task driver.** -/
theorem taskDecides_step {tick : TaskState × TransitionArgs} (hrouted : Routed record)
    (hdecides : TaskDecides record tick d) (hstep : applyDecision record d = .ok next) :
    DriverStep taskTransitionSignals record d next := by
  obtain ⟨state, args⟩ := tick
  obtain ⟨hmirrors, hdecided⟩ := hdecides
  have hsame := task_blocked_same hmirrors hrouted
  have hcarries : isBlockedPhase record.phase = true → state.blocker ≠ none := by
    intro hblocked hnone
    obtain ⟨b, hb, -⟩ := hmirrors.blocked hrouted hblocked
    rw [hnone] at hb
    cases hb
  have hopen : state.blocker = none → isBlockedPhase record.phase = false :=
    fun hb => Bool.eq_false_iff.mpr fun hblocked => hcarries hblocked hb
  obtain ⟨result, hresult, hmove⟩ := decideNextTaskTransition_returned hdecided
  cases hmove with
  | blockedNeedsWait hb hw => cases hresult
  | needsWait hb hw => cases hresult
  | blockedWait hb hkeeps hw =>
      obtain ⟨rfl, -⟩ := emit_eq_ok.mp hresult.symm
      rw [nextTaskPhase, hb] at hkeeps
      rw [show taskBlockedPhaseFor _ = state.phase from hkeeps] at hstep ⊢
      exact waitDecision_stays hmirrors.phase (fun hblocked => ⟨rfl, hb ▸ hmirrors.blocker hblocked⟩) hstep
  | blocked hb hne =>
      obtain ⟨rfl, -⟩ := emit_eq_ok.mp hresult.symm
      exact blockerDecision_blocks hmirrors.phase (Bool.eq_false_iff.mpr fun hblocked => hne (hsame hblocked))
        (value_taskBlockedPhaseFor _) hstep
  | reviewBlocked hb hphase =>
      obtain ⟨rfl, -⟩ := emit_eq_ok.mp hresult.symm
      exact blockerDecision_blocks hmirrors.phase (hopen hb) (value_taskBlockedPhaseFor _) hstep
  | reviewWait hb hphase hw =>
      obtain ⟨rfl, -⟩ := emit_eq_ok.mp hresult.symm
      obtain ⟨-, rfl⟩ := applyDecision_eq_ok.mp hstep
      have hfrom : record.phase = value TaskPhase.reviewRequested := hphase ▸ hmirrors.phase
      have hedge : ((TaskPhase.reviewRequested, .reviewWait), .waitTimerStarted) ∈ taskTransitionSignals := by decide
      exact .takes hedge hfrom (hfrom ▸ by decide) (nextState_phase ..) rfl
  | wait hb hkeeps hw =>
      obtain ⟨rfl, -⟩ := emit_eq_ok.mp hresult.symm
      exact waitDecision_stays hmirrors.phase (fun hblocked => absurd hb (hcarries hblocked)) hstep
  | advance hb hne hsignal hplain hto =>
      obtain ⟨rfl, -⟩ := emit_eq_ok.mp hresult.symm
      obtain ⟨-, rfl⟩ := applyDecision_eq_ok.mp hstep
      exact .takes (mem_of_lookup_eq_some hsignal) hmirrors.phase (hopen hb) (nextState_phase ..) rfl

variable [UnicodeData]

omit [UnicodeData] in
/-- While the record is blocked the project driver keeps the phase. -/
theorem project_blocked_same {state : ProjectState} (h : Mirrors record (value state.phase) state.blocker)
    (hrouted : Routed record) (hblocked : isBlockedPhase record.phase = true) :
    nextProjectPhase state = state.phase := by
  obtain ⟨b, hb, -, hroute⟩ := h.blocked hrouted hblocked
  rw [nextProjectPhase, hb]
  exact value_inj.mp ((value_projectBlockedPhaseFor b.ownerRole).trans hroute.symm)

/-- **A tick of the project driver.** -/
theorem projectDecides_step {tick : ProjectState × ProjectTransitionArgs} (hrouted : Routed record)
    (hdecides : ProjectDecides record tick d) (hstep : applyDecision record d = .ok next) :
    DriverStep projectTransitionSignals record d next := by
  obtain ⟨state, args⟩ := tick
  obtain ⟨hmirrors, hdecided⟩ := hdecides
  have hsame := project_blocked_same hmirrors hrouted
  have hcarries : isBlockedPhase record.phase = true → state.blocker ≠ none := by
    intro hblocked hnone
    obtain ⟨b, hb, -⟩ := hmirrors.blocked hrouted hblocked
    rw [hnone] at hb
    cases hb
  have hopen : nextProjectPhase state ≠ state.phase → isBlockedPhase record.phase = false :=
    fun hne => Bool.eq_false_iff.mpr fun hblocked => hne (hsame hblocked)
  have hopen' : state.blocker = none → isBlockedPhase record.phase = false :=
    fun hb => Bool.eq_false_iff.mpr fun hblocked => hcarries hblocked hb
  obtain ⟨result, hresult, hmove⟩ := decideNextProjectTransition_returned hdecided
  cases hmove with
  | blockedNeedsWait hb hw => cases hresult
  | needsWait hb hdone hw => cases hresult
  | gateBlocked hgate hne =>
      obtain ⟨rfl, -⟩ := emit_eq_ok.mp hresult.symm
      exact blockerDecision_blocks hmirrors.phase (hopen hne) (value_projectBlockedPhaseFor _) hstep
  | blockedWait hb hkeeps hw =>
      obtain ⟨rfl, -⟩ := emit_eq_ok.mp hresult.symm
      rw [nextProjectPhase, hb] at hkeeps
      rw [show projectBlockedPhaseFor _ = state.phase from hkeeps] at hstep ⊢
      exact waitDecision_stays hmirrors.phase (fun hblocked => ⟨rfl, hb ▸ hmirrors.blocker hblocked⟩) hstep
  | blocked hgate hb hne =>
      obtain ⟨rfl, -⟩ := emit_eq_ok.mp hresult.symm
      exact blockerDecision_blocks hmirrors.phase (hopen hne) (value_projectBlockedPhaseFor _) hstep
  | doneBlocked hb hdone hproof =>
      obtain ⟨rfl, -⟩ := emit_eq_ok.mp hresult.symm
      exact blockerDecision_blocks hmirrors.phase (hopen' hb) rfl hstep
  | done hb hdone hproof =>
      obtain ⟨rfl, -⟩ := emit_eq_ok.mp hresult.symm
      obtain ⟨-, rfl⟩ := applyDecision_eq_ok.mp hstep
      -- the final report is delivered; a project that is done already stays done
      rcases (nextProjectPhase_eq_done hb).mp hdone with hphase | hphase
      · have hfrom : record.phase = value ProjectIntakePhase.finalReport := hphase ▸ hmirrors.phase
        have hedge : ((ProjectIntakePhase.finalReport, .done), .finalReportDelivered)
            ∈ projectTransitionSignals := by decide
        rw [hphase]
        exact .takes hedge hfrom (hopen' hb) (nextState_phase ..) rfl
      · have hfrom : record.phase = value ProjectIntakePhase.done := hphase ▸ hmirrors.phase
        rw [hphase]
        refine .stays (hfrom ▸ nextState_phase ..) rfl ?_
        intro hblocked
        rw [hfrom] at hblocked
        exact absurd hblocked (by decide)
  | reviewBlocked hb hphase =>
      obtain ⟨rfl, -⟩ := emit_eq_ok.mp hresult.symm
      exact blockerDecision_blocks hmirrors.phase (hopen' hb) (value_projectBlockedPhaseFor _) hstep
  | reviewWait hb hphase hw =>
      obtain ⟨rfl, -⟩ := emit_eq_ok.mp hresult.symm
      obtain ⟨-, rfl⟩ := applyDecision_eq_ok.mp hstep
      have hfrom : record.phase = value ProjectIntakePhase.reviewRequested := hphase ▸ hmirrors.phase
      have hedge : ((ProjectIntakePhase.reviewRequested, .reviewWait), .waitTimerStarted)
          ∈ projectTransitionSignals := by decide
      exact .takes hedge hfrom (hfrom ▸ by decide) (nextState_phase ..) rfl
  | wait hb hdone hkeeps hw =>
      obtain ⟨rfl, -⟩ := emit_eq_ok.mp hresult.symm
      exact waitDecision_stays hmirrors.phase (fun hblocked => absurd hb (hcarries hblocked)) hstep
  | advance hgate hb hdone hne hsignal hplain hto =>
      obtain ⟨rfl, -⟩ := emit_eq_ok.mp hresult.symm
      obtain ⟨-, rfl⟩ := applyDecision_eq_ok.mp hstep
      exact .takes (mem_of_lookup_eq_some hsignal) hmirrors.phase (hopen' hb) (nextState_phase ..) rfl

omit [UnicodeData] in
/-- Of an open record the caller need not know the blocker. -/
theorem TaskAsked.decides {tick : TaskState × TransitionArgs} (h : TaskAsked record tick d)
    (hopen : isBlockedPhase record.phase = false) : TaskDecides record tick d :=
  ⟨⟨h.1, fun hblocked => absurd (hopen.symm.trans hblocked) Bool.false_ne_true⟩, h.2⟩

theorem ProjectAsked.decides {tick : ProjectState × ProjectTransitionArgs} (h : ProjectAsked record tick d)
    (hopen : isBlockedPhase record.phase = false) : ProjectDecides record tick d :=
  ⟨⟨h.1, fun hblocked => absurd (hopen.symm.trans hblocked) Bool.false_ne_true⟩, h.2⟩

omit [UnicodeData] in
/-- **A blocked record stays blocked**, whatever blocker the task driver is handed. -/
theorem taskAsked_blocked {tick : TaskState × TransitionArgs} (hblocked : isBlockedPhase record.phase = true)
    (hasked : TaskAsked record tick d) (hstep : applyDecision record d = .ok next) :
    ∃ phase : TaskPhase, isBlockedPhase (value phase) = true ∧ next.phase = value phase := by
  obtain ⟨state, args⟩ := tick
  obtain ⟨hphase, hdecided⟩ := hasked
  obtain ⟨-, rfl⟩ := applyDecision_eq_ok.mp hstep
  rw [nextState_phase]
  have hroute : ∀ owner, isBlockedPhase (value (taskBlockedPhaseFor owner)) = true := by
    intro owner
    rw [value_taskBlockedPhaseFor, isBlockedPhase_templateBlockedPhaseFor]
  rw [hphase] at hblocked
  obtain ⟨result, hresult, hmove⟩ := decideNextTaskTransition_returned hdecided
  cases hmove with
  | blockedNeedsWait hb hw => cases hresult
  | needsWait hb hw => cases hresult
  | blockedWait | blocked | reviewBlocked =>
      obtain ⟨rfl, -⟩ := emit_eq_ok.mp hresult.symm
      exact ⟨_, hroute _, rfl⟩
  | wait =>
      obtain ⟨rfl, -⟩ := emit_eq_ok.mp hresult.symm
      exact ⟨_, hblocked, rfl⟩
  | reviewWait hb hreview hw =>
      rw [hreview] at hblocked
      exact absurd hblocked (by decide)
  | advance hb hne hsignal hplain hto =>
      -- no edge of the table begins in a blocked phase
      have hedges : ∀ entry ∈ taskTransitionSignals, isBlockedPhase (value entry.1.1) = false := by decide
      exact absurd ((hedges _ (mem_of_lookup_eq_some hsignal)).symm.trans hblocked) Bool.false_ne_true

theorem projectAsked_blocked {tick : ProjectState × ProjectTransitionArgs}
    (hblocked : isBlockedPhase record.phase = true) (hasked : ProjectAsked record tick d)
    (hstep : applyDecision record d = .ok next) :
    ∃ phase : ProjectIntakePhase, isBlockedPhase (value phase) = true ∧ next.phase = value phase := by
  obtain ⟨state, args⟩ := tick
  obtain ⟨hphase, hdecided⟩ := hasked
  obtain ⟨-, rfl⟩ := applyDecision_eq_ok.mp hstep
  rw [nextState_phase]
  have hroute : ∀ owner, isBlockedPhase (value (projectBlockedPhaseFor owner)) = true := by
    intro owner
    rw [value_projectBlockedPhaseFor, isBlockedPhase_templateBlockedPhaseFor]
  rw [hphase] at hblocked
  obtain ⟨result, hresult, hmove⟩ := decideNextProjectTransition_returned hdecided
  cases hmove with
  | blockedNeedsWait hb hw => cases hresult
  | needsWait hb hdone hw => cases hresult
  | gateBlocked | blockedWait | blocked | reviewBlocked =>
      obtain ⟨rfl, -⟩ := emit_eq_ok.mp hresult.symm
      exact ⟨_, hroute _, rfl⟩
  | doneBlocked =>
      obtain ⟨rfl, -⟩ := emit_eq_ok.mp hresult.symm
      exact ⟨.blockedNeedsZoEl, by decide, rfl⟩
  | wait =>
      obtain ⟨rfl, -⟩ := emit_eq_ok.mp hresult.symm
      exact ⟨_, hblocked, rfl⟩
  | done hb hdone hproof =>
      rcases (nextProjectPhase_eq_done hb).mp hdone with hreport | hdone
      · rw [hreport] at hblocked
        exact absurd hblocked (by decide)
      · rw [hdone] at hblocked
        exact absurd hblocked (by decide)
  | reviewWait hb hreview hw =>
      rw [hreview] at hblocked
      exact absurd hblocked (by decide)
  | advance hgate hb hdone hne hsignal hplain hto =>
      have hedges : ∀ entry ∈ projectTransitionSignals, isBlockedPhase (value entry.1.1) = false := by decide
      exact absurd ((hedges _ (mem_of_lookup_eq_some hsignal)).symm.trans hblocked) Bool.false_ne_true

omit [UnicodeData] in
/-- What a driver returns has passed the decision model. -/
theorem taskAsked_valid {tick : TaskState × TransitionArgs} (hasked : TaskAsked record tick d) :
    d.RunInvariant := by
  obtain ⟨result, hresult, hmove⟩ := decideNextTaskTransition_returned hasked.2
  cases hmove with
  | blockedNeedsWait hb hw => cases hresult
  | needsWait hb hw => cases hresult
  | blockedWait | blocked | reviewBlocked | reviewWait | wait | advance =>
      obtain ⟨rfl, hvalid⟩ := emit_eq_ok.mp hresult.symm
      exact hvalid

theorem projectAsked_valid {tick : ProjectState × ProjectTransitionArgs} (hasked : ProjectAsked record tick d) :
    d.RunInvariant := by
  obtain ⟨result, hresult, hmove⟩ := decideNextProjectTransition_returned hasked.2
  cases hmove with
  | blockedNeedsWait hb hw => cases hresult
  | needsWait hb hdone hw => cases hresult
  | gateBlocked | blockedWait | blocked | doneBlocked | done | reviewBlocked | reviewWait | wait | advance =>
      obtain ⟨rfl, hvalid⟩ := emit_eq_ok.mp hresult.symm
      exact hvalid

end

/-! ## Whole runs -/

/-- Ticks of a driver with a signal table: each is one of the steps, by a valid decision. -/
structure TicksOf {Phase Tick : Type} [StrEnum Phase] (table : List ((Phase × Phase) × ProgressSignal))
    (decides : WorkflowStateRecord → Tick → WorkflowDecision → Prop) : Prop where
  step : ∀ {record next tick d}, Routed record → decides record tick d → applyDecision record d = .ok next →
    DriverStep table record d next
  valid : ∀ {record tick d}, decides record tick d → d.RunInvariant

theorem taskTicks : TicksOf taskTransitionSignals TaskDecides :=
  ⟨taskDecides_step, fun h => taskAsked_valid ⟨h.1.phase, h.2⟩⟩

theorem projectTicks [UnicodeData] : TicksOf projectTransitionSignals ProjectDecides :=
  ⟨projectDecides_step, fun h => projectAsked_valid ⟨h.1.phase, h.2⟩⟩

/-- Ticks for which only the phase is handed over: from an open phase each is one of the steps, and a blocked record
    stays blocked. -/
structure AskedOf {Phase Tick : Type} [StrEnum Phase] (table : List ((Phase × Phase) × ProgressSignal))
    (asks : WorkflowStateRecord → Tick → WorkflowDecision → Prop) : Prop where
  step : ∀ {record next tick d}, isBlockedPhase record.phase = false → asks record tick d →
    applyDecision record d = .ok next → DriverStep table record d next
  blocked : ∀ {record next tick d}, isBlockedPhase record.phase = true → asks record tick d →
    applyDecision record d = .ok next → ∃ phase : Phase, isBlockedPhase (value phase) = true ∧ next.phase = value phase
  valid : ∀ {record tick d}, asks record tick d → d.RunInvariant

theorem taskAsked : AskedOf taskTransitionSignals TaskAsked where
  step hopen hasked hstep := taskDecides_step (routed_of_open hopen) (hasked.decides hopen) hstep
  blocked := taskAsked_blocked
  valid := taskAsked_valid

theorem projectAsked [UnicodeData] : AskedOf projectTransitionSignals ProjectAsked where
  step hopen hasked hstep := projectDecides_step (routed_of_open hopen) (hasked.decides hopen) hstep
  blocked := projectAsked_blocked
  valid := projectAsked_valid

/-- A move to another phase. -/
def isMove (d : WorkflowDecision) : Bool := d.fromPhase != d.toPhase

/-- The decision that sends a project back to its plan. -/
def asksRescope (d : WorkflowDecision) : Bool := d.progressSignal == some .taskRescopeRequested

/-- What is known of the phase a record is in; `default` for a phase that is not the driver's. -/
def ofPhase {Phase α : Type} [StrEnum Phase] (f : Phase → α) (default : α) (record : WorkflowStateRecord) : α :=
  ((parse? record.phase).map f).getD default

@[simp] theorem ofPhase_value {Phase α : Type} [StrEnum Phase] {f : Phase → α} {default : α}
    {record : WorkflowStateRecord} {phase : Phase} (h : record.phase = value phase) :
    ofPhase f default record = f phase := by rw [ofPhase, h, parse?_value, Option.map_some, Option.getD_some]

/-- **A rank for a signal table**: every edge lowers it, but for a rescope, which may raise it; it is positive where
    the record can still be blocked, and zero where it is. -/
structure PhaseRank {Phase : Type} [StrEnum Phase] (table : List ((Phase × Phase) × ProgressSignal))
    (rank : Phase → Nat) (rescopeRank : Nat) : Prop where
  edge : ∀ entry ∈ table,
    rank entry.1.2 + 1 ≤ rank entry.1.1 + (if entry.2 = .taskRescopeRequested then rescopeRank else 0)
  open_pos : ∀ phase, isBlockedPhase (value phase) = false → 1 ≤ rank phase
  blocked_zero : ∀ phase, isBlockedPhase (value phase) = true → rank phase = 0

section
variable {Phase Tick : Type} [StrEnum Phase] [BEq Phase] {table : List ((Phase × Phase) × ProgressSignal)}
  {waitEdge : Phase × Phase} {decides : WorkflowStateRecord → Tick → WorkflowDecision → Prop}
  {initial final record next : WorkflowStateRecord} {ticks : List Tick} {decisions : List WorkflowDecision}
  {d : WorkflowDecision}

omit [BEq Phase] in
/-- A move costs one rank. -/
theorem DriverStep.ranked {rank : Phase → Nat} {rescopeRank : Nat} (hrank : PhaseRank table rank rescopeRank)
    (h : DriverStep table record d next) :
    ofPhase rank 0 next + (if isMove d then 1 else 0)
      ≤ ofPhase rank 0 record + (if asksRescope d then rescopeRank else 0) := by
  cases h with
  | stays hphase hsame hblocker =>
      have hno : isMove d = false := by rw [isMove, hsame, bne_self_eq_false]
      rw [hno, ofPhase, ofPhase, hphase]
      exact Nat.le_add_right _ _
  | blocks hfrom hopen hto hroute hblocker =>
      have hpos := hrank.open_pos _ (hfrom ▸ hopen)
      have hzero := hrank.blocked_zero _ (by rw [hroute]; exact isBlockedPhase_templateBlockedPhaseFor _)
      rw [ofPhase_value hfrom, ofPhase_value hto, hzero]
      split_ifs <;> omega
  | @takes source target signal hedge hfrom hopen hto hsignal =>
      have hlower : rank target + 1
          ≤ rank source + (if signal = .taskRescopeRequested then rescopeRank else 0) := hrank.edge _ hedge
      rw [ofPhase_value hfrom, ofPhase_value hto, asksRescope, hsignal]
      simp only [beq_iff_eq, Option.some.injEq]
      split_ifs at hlower ⊢ <;> omega

/-- **Moves are bounded by the rank of the first phase**, and what rescopes add. -/
theorem TicksOf.settles (hticks : TicksOf table decides) (htable : RegularTable table waitEdge)
    {rank : Phase → Nat} {rescopeRank : Nat} (hrank : PhaseRank table rank rescopeRank)
    (hrouted : Routed initial) (hrun : Driven decides applyDecision initial ticks decisions final) :
    decisions.countP isMove ≤ ofPhase rank 0 initial + rescopeRank * decisions.countP asksRescope := by
  have hkeeps : ∀ record tick d next, Routed record → decides record tick d → applyDecision record d = .ok next →
      Routed next ∧ ofPhase rank 0 next + (if isMove d then 1 else 0)
        ≤ ofPhase rank 0 record + (if asksRescope d then rescopeRank else 0) := by
    intro record tick d next hrouted hdecides hstep
    have hone := hticks.step hrouted hdecides hstep
    exact ⟨hone.routed htable hrouted, hone.ranked hrank⟩
  have hbound := hrun.ranked _ _ _ _ hkeeps hrouted
  omega

/-- **Milestones for a signal table**: an edge adds at most its signal, being blocked adds nothing, and none of the
    phases in reach is a terminal one. -/
structure PhaseMilestones (table : List ((Phase × Phase) × ProgressSignal)) (reach : List Phase)
    (milestones : Phase → List ProgressSignal) : Prop where
  edge : ∀ entry ∈ table, entry.1.1 ∈ reach →
    entry.1.2 ∈ reach ∧ (milestones entry.1.2).Sublist (milestones entry.1.1 ++ [entry.2])
  blocked : ∀ phase, isBlockedPhase (value phase) = true → phase ∈ reach ∧ milestones phase = []
  notTerminal : ∀ phase ∈ reach, ∀ outcome, value phase ∉ terminalPhasesByOutcome outcome

/-- The record is in a phase in reach. -/
def InReach (reach : List Phase) (record : WorkflowStateRecord) : Prop := ∃ phase ∈ reach, record.phase = value phase

/-- A valid decision into a phase that is not terminal leaves the outcome alone. -/
theorem terminal_kept (hvalid : d.RunInvariant) (hstep : applyDecision record d = .ok next)
    (hphase : ∀ outcome, next.phase ∉ terminalPhasesByOutcome outcome) : next.terminal = record.terminal := by
  obtain ⟨-, rfl⟩ := applyDecision_eq_ok.mp hstep
  rw [nextState_phase] at hphase
  rw [nextState_terminal, nextTerminal]
  cases houtcome : d.terminalOutcome with
  | none => rfl
  | some outcome => exact absurd (hvalid.terminalPhase outcome houtcome) (hphase outcome)

omit [BEq Phase] in
/-- A tick stays in reach and adds at most its own signal to the milestones. -/
theorem DriverStep.milestones {reach : List Phase} {milestones : Phase → List ProgressSignal}
    (hmilestones : PhaseMilestones table reach milestones) (h : DriverStep table record d next)
    (hreach : InReach reach record) :
    InReach reach next
      ∧ (ofPhase milestones [] next).Sublist (ofPhase milestones [] record ++ d.progressSignal.toList) := by
  obtain ⟨source, hsource, hphase⟩ := hreach
  cases h with
  | stays hsame hd hblocker =>
      refine ⟨⟨source, hsource, hsame.trans hphase⟩, ?_⟩
      rw [ofPhase, ofPhase, hsame]
      exact List.sublist_append_left _ _
  | @blocks _ target b hfrom hopen hto hroute hblocker =>
      have hblocked : isBlockedPhase (value target) = true := by
        rw [hroute]
        exact isBlockedPhase_templateBlockedPhaseFor _
      obtain ⟨hmem, hnone⟩ := hmilestones.blocked target hblocked
      refine ⟨⟨target, hmem, hto⟩, ?_⟩
      rw [ofPhase_value hto, hnone]
      exact List.nil_sublist _
  | @takes source' target signal hedge hfrom hopen hto hsignal =>
      obtain rfl : source = source' := value_inj.mp (hphase.symm.trans hfrom)
      obtain ⟨hmem, hsub⟩ := hmilestones.edge _ hedge hsource
      refine ⟨⟨target, hmem, hto⟩, ?_⟩
      rw [ofPhase_value hfrom, ofPhase_value hto, hsignal]
      exact hsub

omit [BEq Phase] in
/-- **Milestones come in order, and nothing ends.** -/
theorem AskedOf.in_order {asks : WorkflowStateRecord → Tick → WorkflowDecision → Prop} (hasks : AskedOf table asks)
    {reach : List Phase} {milestones : Phase → List ProgressSignal}
    (hmilestones : PhaseMilestones table reach milestones) (hinitial : InReach reach initial)
    (hrun : Driven asks applyDecision initial ticks decisions final) :
    (∃ phase ∈ reach, final.phase = value phase
        ∧ (milestones phase).Sublist
            (ofPhase milestones [] initial ++ decisions.filterMap WorkflowDecision.progressSignal))
      ∧ final.terminal = initial.terminal := by
  have hkeeps : ∀ record tick d next, InReach reach record → asks record tick d →
      applyDecision record d = .ok next → InReach reach next
        ∧ (ofPhase milestones [] next).Sublist (ofPhase milestones [] record ++ d.progressSignal.toList) := by
    intro record tick d next hreach hasked hstep
    cases hopen : isBlockedPhase record.phase with
    | false => exact (hasks.step hopen hasked hstep).milestones hmilestones hreach
    | true =>
        obtain ⟨target, hblocked, hto⟩ := hasks.blocked hopen hasked hstep
        obtain ⟨hmem, hnone⟩ := hmilestones.blocked target hblocked
        refine ⟨⟨target, hmem, hto⟩, ?_⟩
        rw [ofPhase_value hto, hnone]
        exact List.nil_sublist _
  constructor
  · have hmarks := hrun.milestones _ _ hkeeps hinitial
    have hreached : InReach reach final := by
      refine hrun.invariant _ ?_ hinitial
      intro record tick d next hreach hasked hstep
      exact (hkeeps record tick d next hreach hasked hstep).1
    obtain ⟨phase, hmem, hphase⟩ := hreached
    rw [ofPhase_value hphase] at hmarks
    exact ⟨phase, hmem, hphase, hmarks⟩
  · refine (hrun.invariant (fun record => InReach reach record ∧ record.terminal = initial.terminal) ?_
      ⟨hinitial, rfl⟩).2
    rintro record tick d next ⟨hreach, hterminal⟩ hasked hstep
    obtain ⟨hnext, -⟩ := hkeeps _ _ _ _ hreach hasked hstep
    obtain ⟨phase, hmem, hphase⟩ := id hnext
    refine ⟨hnext, (terminal_kept (hasks.valid hasked) hstep ?_).trans hterminal⟩
    rw [hphase]
    exact hmilestones.notTerminal phase hmem

omit [BEq Phase] in
/-- **A blocked record is left alone** by every run of its driver. -/
theorem TicksOf.keeps_blocked (hticks : TicksOf table decides) (hrouted : Routed initial)
    (hblocked : isBlockedPhase initial.phase = true)
    (hrun : Driven decides applyDecision initial ticks decisions final) :
    final.phase = initial.phase ∧ final.blocker = initial.blocker ∧ final.terminal = initial.terminal := by
  refine hrun.invariant (fun record => record.phase = initial.phase ∧ record.blocker = initial.blocker
    ∧ record.terminal = initial.terminal) ?_ ⟨rfl, rfl, rfl⟩
  rintro record tick d next ⟨hphase, hblocker, hterminal⟩ hdecides hstep
  have hroutedNow : Routed record := by
    intro _
    rw [hblocker, hphase]
    exact hrouted hblocked
  have hstays : next.phase = record.phase ∧ next.blocker = record.blocker := by
    cases hticks.step hroutedNow hdecides hstep with
    | stays hsame hd hkept => exact ⟨hsame, hkept (hphase ▸ hblocked)⟩
    | blocks hfrom hopen hto hroute hb =>
        rw [hphase, hblocked] at hopen
        cases hopen
    | takes hedge hfrom hopen hto hsignal =>
        rw [hphase, hblocked] at hopen
        cases hopen
  refine ⟨hstays.1.trans hphase, hstays.2.trans hblocker, Eq.trans ?_ hterminal⟩
  apply terminal_kept (hticks.valid hdecides) hstep
  intro outcome hmem
  have hopen := terminalPhase_not_blocked outcome _ hmem
  rw [hstays.1, hphase, hblocked] at hopen
  cases hopen

end

/-! ## The two drivers -/

/-- How many moves can follow a phase before the driver only waits. -/
def projectRank : ProjectIntakePhase → Nat
  | .projectIntakeAssigned => 8
  | .planning => 7
  | .planReview | .planRethink => 6
  | .taskBreakdown => 5
  | .taskExecution => 4
  | .prOpen => 3
  | .reviewRequested | .finalReport => 2
  | .blockedNeedsElLe | .blockedNeedsZoEl => 0
  | _ => 1

/-- The same for the task driver. -/
def taskRank : TaskPhase → Nat
  | .taskAssigned => 7
  | .claimed => 6
  | .inspecting | .fixingReview => 5
  | .implementing => 4
  | .testing => 3
  | .reviewRequested => 2
  | .blockedNeedsElLe | .blockedNeedsZoEl => 0
  | _ => 1

theorem projectRank_ok : PhaseRank projectTransitionSignals projectRank 3 where
  edge := by decide
  open_pos phase := by cases phase <;> decide
  blocked_zero phase := by cases phase <;> decide

theorem taskRank_ok : PhaseRank taskTransitionSignals taskRank 0 where
  edge := by decide
  open_pos phase := by cases phase <;> decide
  blocked_zero phase := by cases phase <;> decide

/-- **Driver runs settle.** As long as the caller hands back the record's blocker while it is blocked, and whatever else
    it hands over, a run of the task driver moves at most seven times and a run of the project driver at most eight
    times and three times more for each rescope; all its other decisions stay where they are. -/
theorem driver_runs_settle [UnicodeData] :
    (∀ initial ticks decisions final, Routed initial → ProjectRun initial ticks decisions final →
      decisions.countP isMove ≤ 8 + 3 * decisions.countP asksRescope)
    ∧ (∀ initial ticks decisions final, Routed initial → TaskRun initial ticks decisions final →
      decisions.countP isMove ≤ 7) := by
  constructor
  · intro initial ticks decisions final hrouted hrun
    have hbound := projectTicks.settles projectTransitionSignals_regular projectRank_ok hrouted hrun
    have hrank : ofPhase projectRank 0 initial ≤ 8 := by
      unfold ofPhase
      cases parse? (α := ProjectIntakePhase) initial.phase with
      | none => exact Nat.zero_le 8
      | some phase => cases phase <;> decide
    omega
  · intro initial ticks decisions final hrouted hrun
    have hbound := taskTicks.settles taskTransitionSignals_regular taskRank_ok hrouted hrun
    have hrank : ofPhase taskRank 0 initial ≤ 7 := by
      unfold ofPhase
      cases parse? (α := TaskPhase) initial.phase with
      | none => exact Nat.zero_le 7
      | some phase => cases phase <;> decide
    omega

/-- The phases a project can be driven to from its intake. -/
def projectReach : List ProjectIntakePhase :=
  [.projectIntakeAssigned, .planning, .planReview, .planRethink, .taskBreakdown, .taskExecution, .prOpen,
   .reviewRequested, .reviewWait, .blockedNeedsElLe, .blockedNeedsZoEl]

/-- The phases a task can be driven to from its assignment. -/
def taskReach : List TaskPhase :=
  [.taskAssigned, .claimed, .inspecting, .implementing, .testing, .reviewRequested, .reviewWait,
   .blockedNeedsElLe, .blockedNeedsZoEl]

/-- What must have happened on the way to a phase of a project, in this order. -/
def projectMilestones : ProjectIntakePhase → List ProgressSignal
  | .planning => [.projectAccepted]
  | .planReview => [.projectAccepted, .planCreated]
  | .taskBreakdown => [.projectAccepted, .planCreated, .planApproved]
  | .taskExecution | .planRethink => [.projectAccepted, .planCreated, .planApproved, .tasksCreated]
  | .prOpen => [.projectAccepted, .planCreated, .planApproved, .tasksCreated, .taskCompleted]
  | .reviewRequested =>
      [.projectAccepted, .planCreated, .planApproved, .tasksCreated, .taskCompleted, .prCreated]
  | .reviewWait =>
      [.projectAccepted, .planCreated, .planApproved, .tasksCreated, .taskCompleted, .prCreated,
       .waitTimerStarted]
  | _ => []

/-- The same for a task. -/
def taskMilestones : TaskPhase → List ProgressSignal
  | .claimed => [.taskStarted]
  | .inspecting => [.taskStarted, .taskStarted]
  | .implementing => [.taskStarted, .taskStarted, .taskStarted]
  | .testing => [.taskStarted, .taskStarted, .taskStarted, .testEvidenceCreated]
  | .reviewRequested =>
      [.taskStarted, .taskStarted, .taskStarted, .testEvidenceCreated, .reviewRequested]
  | .reviewWait =>
      [.taskStarted, .taskStarted, .taskStarted, .testEvidenceCreated, .reviewRequested, .waitTimerStarted]
  | _ => []

theorem projectMilestones_ok : PhaseMilestones projectTransitionSignals projectReach projectMilestones where
  edge := by decide
  blocked phase := by cases phase <;> decide
  notTerminal := by
    intro phase hphase outcome
    revert phase
    cases outcome <;> decide

theorem taskMilestones_ok : PhaseMilestones taskTransitionSignals taskReach taskMilestones where
  edge := by decide
  blocked phase := by cases phase <;> decide
  notTerminal := by
    intro phase hphase outcome
    revert phase
    cases outcome <;> decide

/-- **Driver runs take no shortcut and end nothing.** A run of the project driver from its intake, or of the task
    driver from its assignment, for which the phase of the record and anything else is handed over, ends in a phase in
    reach, with all the milestones of that phase among its signals in their order, and without having touched the
    terminal outcome. -/
theorem driver_runs_in_order [UnicodeData] :
    (∀ initial ticks decisions final, initial.phase = value ProjectIntakePhase.projectIntakeAssigned →
      Driven ProjectAsked applyDecision initial ticks decisions final →
      (∃ phase ∈ projectReach, final.phase = value phase
        ∧ (projectMilestones phase).Sublist (decisions.filterMap WorkflowDecision.progressSignal))
      ∧ final.terminal = initial.terminal)
    ∧ (∀ initial ticks decisions final, initial.phase = value TaskPhase.taskAssigned →
      Driven TaskAsked applyDecision initial ticks decisions final →
      (∃ phase ∈ taskReach, final.phase = value phase
        ∧ (taskMilestones phase).Sublist (decisions.filterMap WorkflowDecision.progressSignal))
      ∧ final.terminal = initial.terminal) := by
  constructor
  · intro initial ticks decisions final hphase hrun
    have hinitial : InReach projectReach initial := ⟨.projectIntakeAssigned, by decide, hphase⟩
    have horder := projectAsked.in_order projectMilestones_ok hinitial hrun
    rw [ofPhase_value hphase] at horder
    exact horder
  · intro initial ticks decisions final hphase hrun
    have hinitial : InReach taskReach initial := ⟨.taskAssigned, by decide, hphase⟩
    have horder := taskAsked.in_order taskMilestones_ok hinitial hrun
    rw [ofPhase_value hphase] at horder
    exact horder

/-- **The drivers never unblock.** A run that starts blocked, and for which the record's blocker is handed back, keeps
    its phase, its blocker and its outcome: only a decision from outside resolves a blocker. -/
theorem driver_never_unblocks [UnicodeData] :
    (∀ initial ticks decisions final, Routed initial → isBlockedPhase initial.phase = true →
      ProjectRun initial ticks decisions final →
      final.phase = initial.phase ∧ final.blocker = initial.blocker ∧ final.terminal = initial.terminal)
    ∧ (∀ initial ticks decisions final, Routed initial → isBlockedPhase initial.phase = true →
      TaskRun initial ticks decisions final →
      final.phase = initial.phase ∧ final.blocker = initial.blocker ∧ final.terminal = initial.terminal) :=
  ⟨fun _ _ _ _ hrouted hblocked hrun => projectTicks.keeps_blocked hrouted hblocked hrun,
    fun _ _ _ _ hrouted hblocked hrun => taskTicks.keeps_blocked hrouted hblocked hrun⟩

/-! ## Three short runs -/

/-- A project is accepted and planned. -/
theorem exampleProjectRun : ∃ decisions final,
    @ProjectRun asciiOnly (exampleRecord "PROJECT_INTAKE_ASSIGNED" none)
        [({ id := "P-1" }, { decidedAt := "T1" }), ({ id := "P-1", phase := .planning }, { decidedAt := "T2" })]
        decisions final
      ∧ final.phase = "PLAN_REVIEW" ∧ decisions.countP isMove = 2 :=
  ⟨_, _, .cons ⟨⟨rfl, by decide⟩, rfl⟩ rfl (.cons ⟨⟨rfl, by decide⟩, rfl⟩ rfl (.nil _)), rfl, by decide +kernel⟩

/-- A blocked project is waited for. -/
theorem exampleBlockedRun : ∃ decisions final,
    @ProjectRun asciiOnly (exampleRecord "BLOCKED_NEEDS_ZO_EL" exampleBlockedProject.blocker)
      [(exampleBlockedProject, { decidedAt := "T1", waitToStart := some exampleWait })] decisions final :=
  ⟨_, _, .cons ⟨⟨rfl, fun _ => rfl⟩, rfl⟩ rfl (.nil _)⟩

theorem driver_runs_settle_planned : ∃ decisions final,
    @ProjectRun asciiOnly (exampleRecord "PROJECT_INTAKE_ASSIGNED" none)
        [({ id := "P-1" }, { decidedAt := "T1" }), ({ id := "P-1", phase := .planning }, { decidedAt := "T2" })]
        decisions final
      ∧ decisions.countP isMove ≤ 8 + 3 * decisions.countP asksRescope := by
  obtain ⟨decisions, final, hrun, -⟩ := exampleProjectRun
  have hrouted : Routed (exampleRecord "PROJECT_INTAKE_ASSIGNED" none) := routed_of_open (by decide)
  exact ⟨decisions, final, hrun, (@driver_runs_settle asciiOnly).1 _ _ _ _ hrouted hrun⟩

theorem driver_runs_in_order_planned : ∃ decisions : List WorkflowDecision,
    [ProgressSignal.projectAccepted, .planCreated].Sublist (decisions.filterMap WorkflowDecision.progressSignal) := by
  obtain ⟨decisions, final, hrun, hphase, -⟩ := exampleProjectRun
  have hasked : Driven (@ProjectAsked asciiOnly) applyDecision (exampleRecord "PROJECT_INTAKE_ASSIGNED" none)
      [({ id := "P-1" }, { decidedAt := "T1" }), ({ id := "P-1", phase := .planning }, { decidedAt := "T2" })]
      decisions final := hrun.mono fun _ _ _ h => ⟨h.1.phase, h.2⟩
  obtain ⟨⟨phase, hreach, hfinal, hmilestones⟩, -⟩ := (@driver_runs_in_order asciiOnly).1 _ _ _ _ rfl hasked
  have hreview : value ProjectIntakePhase.planReview = value phase := hphase.symm.trans hfinal
  obtain rfl := value_inj.mp hreview
  exact ⟨decisions, hmilestones⟩

theorem driver_never_unblocks_waiting : ∃ final : WorkflowStateRecord,
    final.phase = "BLOCKED_NEEDS_ZO_EL" ∧ final.blocker = exampleBlockedProject.blocker := by
  obtain ⟨decisions, final, hrun⟩ := exampleBlockedRun
  have hrouted : Routed (exampleRecord "BLOCKED_NEEDS_ZO_EL" exampleBlockedProject.blocker) :=
    fun _ => ⟨_, rfl, rfl⟩
  obtain ⟨hphase, hblocker, -⟩ := (@driver_never_unblocks asciiOnly).1 _ _ _ _ hrouted (by decide) hrun
  exact ⟨final, hphase, hblocker⟩

end WorkflowDrivers
