import WorkflowDrivers.Policies.Replay

/-!
# `Correctness.TerminalStates` — what happens after a terminal outcome

`applyDecision` does not look at the recorded terminal state: after a terminal decision the next one only has
to start in the terminal phase. So a finished workflow can be reopened. What is proved here is exactly when it
is not: `LeavesFinished` is a condition on a later decision, and along any continuation whose decisions all
meet it the five fields of the outcome stay as they were.
-/

namespace WorkflowDrivers
open Lib

/-! ## Runs of valid decisions -/

/-- One step of a run of valid decisions, without a phase policy. -/
def applyValid (state : WorkflowStateRecord) (d : ValidDecision) : Except ReplayError WorkflowStateRecord :=
  applyDecision state d.toWorkflowDecision

/-- Two records with the same phase, blocker, wait, current activity and terminal outcome. -/
structure SameOutcome (a b : WorkflowStateRecord) : Prop where
  phase : b.phase = a.phase
  blocker : b.blocker = a.blocker
  wait : b.wait = a.wait
  currentActivity : b.currentActivity = a.currentActivity
  terminal : b.terminal = a.terminal

theorem SameOutcome.refl (a : WorkflowStateRecord) : SameOutcome a a := ⟨rfl, rfl, rfl, rfl, rfl⟩

theorem SameOutcome.trans {a b c : WorkflowStateRecord} (hab : SameOutcome a b) (hbc : SameOutcome b c) :
    SameOutcome a c where
  phase := hbc.phase.trans hab.phase
  blocker := hbc.blocker.trans hab.blocker
  wait := hbc.wait.trans hab.wait
  currentActivity := hbc.currentActivity.trans hab.currentActivity
  terminal := hbc.terminal.trans hab.terminal

theorem SameOutcome.symm {a b : WorkflowStateRecord} (h : SameOutcome a b) : SameOutcome b a :=
  ⟨h.phase.symm, h.blocker.symm, h.wait.symm, h.currentActivity.symm, h.terminal.symm⟩

/-- A finished record: an outcome is recorded, no blocker is left and no activity is scheduled. -/
structure Finished (state : WorkflowStateRecord) (outcome : TerminalOutcome) : Prop where
  terminal : state.terminal = some { outcome := outcome }
  blocker : state.blocker = none
  currentActivity : state.currentActivity = none

/-- **The condition on a later decision**: it stays in its phase, schedules no activity, records no blocker,
    starts no wait but the recorded one, and names no other outcome. -/
structure LeavesFinished (state : WorkflowStateRecord) (outcome : TerminalOutcome) (d : WorkflowDecision) :
    Prop where
  samePhase : d.toPhase = d.fromPhase
  noActivity : d.activitiesToSchedule = []
  noBlocker : d.blockerToRecord = none
  noNewWait : ∀ wait ∈ d.waitToStart, state.wait = some wait
  noNewOutcome : ∀ o ∈ d.terminalOutcome, o = outcome

/-! ## One step -/

section
variable {state next : WorkflowStateRecord} {d : ValidDecision} {outcome : TerminalOutcome}

theorem applyValid_eq_ok : applyValid state d = .ok next ↔
    Accepts state d.toWorkflowDecision ∧ next = nextState state d.toWorkflowDecision := applyDecision_eq_ok

/-- A terminal decision finishes the record. -/
theorem finished_of_terminal (h : applyValid state d = .ok next) (hterminal : d.terminalOutcome = some outcome) :
    Finished next outcome := by
  obtain ⟨-, rfl⟩ := applyValid_eq_ok.mp h
  obtain ⟨hactivities, -, hblocker⟩ := d.valid.terminalAlone (by simp [hterminal])
  exact
    { terminal := by simp [nextTerminal, hterminal]
      blocker := by simp [nextBlocker, hblocker, clearsBlocker, hterminal]
      currentActivity := by simp [scheduledActivity, hactivities] }

/-- A schedule leaves no current activity exactly when it is empty. -/
theorem scheduledActivity_eq_none {d : WorkflowDecision} :
    scheduledActivity d = none ↔ d.activitiesToSchedule = [] := by
  unfold scheduledActivity
  cases d.activitiesToSchedule <;> simp

/-- **Step lemma.** On a finished record an accepted decision keeps the five fields exactly when it meets the
    condition. -/
theorem sameOutcome_iff (hfinished : Finished state outcome) (h : applyValid state d = .ok next) :
    SameOutcome state next ↔ LeavesFinished state outcome d.toWorkflowDecision := by
  obtain ⟨haccepts, rfl⟩ := applyValid_eq_ok.mp h
  constructor
  · intro hsame
    have hphase : d.toPhase = state.phase := by simpa using hsame.phase
    have hblocker : d.blockerToRecord = none := by
      have hnext := hsame.blocker
      rw [nextState_blocker, hfinished.blocker, nextBlocker] at hnext
      cases hb : d.blockerToRecord with
      | none => rfl
      | some b => simp [hb] at hnext
    have hactivities : d.activitiesToSchedule = [] := by
      rw [← scheduledActivity_eq_none, ← nextState_currentActivity state, hsame.currentActivity,
        hfinished.currentActivity]
    refine ⟨hphase.trans haccepts.fromPhase.symm, hactivities, hblocker, ?_, ?_⟩
    · intro wait hwait
      rw [Option.mem_def] at hwait
      rw [← hsame.wait, nextState_wait, nextWait, hblocker, hwait]
      simp
    · intro o ho
      rw [Option.mem_def] at ho
      have hterminal := hsame.terminal
      rw [nextState_terminal, nextTerminal, ho, hfinished.terminal] at hterminal
      simpa using hterminal
  · intro hleaves
    have hphase : d.toPhase = state.phase := hleaves.samePhase.trans haccepts.fromPhase
    refine ⟨by rw [nextState_phase, hphase], ?_, ?_, ?_, ?_⟩
    · rw [nextState_blocker, nextBlocker, hleaves.noBlocker, hfinished.blocker]
      simp
    · -- a wait is kept in the same phase, and the one that is started is the recorded one
      rw [nextState_wait, nextWait, hleaves.noBlocker, hphase]
      cases hw : d.waitToStart with
      | none => simp
      | some wait => simp [hleaves.noNewWait wait hw]
    · rw [nextState_currentActivity, scheduledActivity_eq_none.mpr hleaves.noActivity,
        hfinished.currentActivity]
    · rw [nextState_terminal, nextTerminal, hfinished.terminal]
      cases ho : d.terminalOutcome with
      | none => rfl
      | some o => rw [hleaves.noNewOutcome o ho]

/-- The condition only depends on the outcome of the record. -/
theorem LeavesFinished.congr {a b : WorkflowStateRecord} {d : WorkflowDecision} (hab : SameOutcome a b) :
    LeavesFinished a outcome d ↔ LeavesFinished b outcome d := by
  constructor
  · rintro ⟨hphase, hactivity, hblocker, hwait, houtcome⟩
    exact ⟨hphase, hactivity, hblocker, fun w hw => hab.wait.trans (hwait w hw), houtcome⟩
  · rintro ⟨hphase, hactivity, hblocker, hwait, houtcome⟩
    exact ⟨hphase, hactivity, hblocker, fun w hw => hab.wait.symm.trans (hwait w hw), houtcome⟩

theorem Finished.congr {a b : WorkflowStateRecord} (hab : SameOutcome a b) (h : Finished a outcome) :
    Finished b outcome :=
  ⟨hab.terminal.trans h.terminal, hab.blocker.trans h.blocker, hab.currentActivity.trans h.currentActivity⟩

end

/-! ## Runs -/

/-- **Run lemma.** Later decisions that all meet the condition keep the outcome of a finished record. -/
theorem sameOutcome_run {state t : WorkflowStateRecord} {outcome : TerminalOutcome} {later : List ValidDecision}
    (hfinished : Finished state outcome)
    (hlater : ∀ d ∈ later, LeavesFinished state outcome d.toWorkflowDecision)
    (h : replay applyValid state later = .ok t) : SameOutcome state t := by
  refine replay_invariant_of ?_ (SameOutcome.refl state) hlater h
  intro s d s' hsame hleaves hstep
  have hs : Finished s outcome := hfinished.congr hsame
  exact hsame.trans ((sameOutcome_iff hs hstep).mpr ((LeavesFinished.congr hsame).mp hleaves))

/-- **When a terminal outcome is final.** After a terminal decision, decisions that all meet the condition keep
    the five fields; and the next accepted decision keeps them exactly when it meets the condition too. -/
theorem terminal_outcome_final_iff (initial state : WorkflowStateRecord) (before : List ValidDecision)
    (last : ValidDecision) (outcome : TerminalOutcome) (hlast : last.terminalOutcome = some outcome)
    (hrun : replay applyValid initial (before ++ [last]) = .ok state) :
    ∀ (later : List ValidDecision) (t : WorkflowStateRecord),
      (∀ d ∈ later, LeavesFinished state outcome d.toWorkflowDecision) →
      replay applyValid state later = .ok t →
      SameOutcome state t ∧ ∀ (d : ValidDecision) (next : WorkflowStateRecord), applyValid t d = .ok next →
        (SameOutcome state next ↔ LeavesFinished state outcome d.toWorkflowDecision) := by
  obtain ⟨m, -, hstep⟩ := replay_concat.mp hrun
  have hfinished : Finished state outcome := finished_of_terminal hstep hlast
  intro later t hlater h
  have hsame : SameOutcome state t := sameOutcome_run hfinished hlater h
  refine ⟨hsame, fun d next hd => ?_⟩
  rw [LeavesFinished.congr hsame, ← sameOutcome_iff (hfinished.congr hsame) hd]
  exact ⟨fun hn => hsame.symm.trans hn, fun hn => hsame.trans hn⟩

/-- A project that finishes. -/
def exampleFinish : ValidDecision where
  decisionId := "D-1"
  decidedAt := "T1"
  fromPhase := "FINAL_REPORT"
  toPhase := "DONE"
  materialProgress := true
  progressSignal := some .finalReportDelivered
  terminalOutcome := some .done
  valid := WorkflowDecision.validate_eq_ok.mp (by decide)

/-- A later decision that only adds evidence. -/
def exampleEvidence : ValidDecision where
  decisionId := "D-2"
  decidedAt := "T2"
  fromPhase := "DONE"
  toPhase := "DONE"
  evidenceRefs := [{ type := .report, uri := "report" }]
  valid := WorkflowDecision.validate_eq_ok.mp (by decide)

/-- A later decision that starts the project again. -/
def exampleReopen : ValidDecision where
  decisionId := "D-2"
  decidedAt := "T2"
  fromPhase := "DONE"
  toPhase := "PLANNING"
  materialProgress := true
  progressSignal := some .projectAccepted
  valid := WorkflowDecision.validate_eq_ok.mp (by decide)

/-- The record of the finished project. -/
def exampleFinished : WorkflowStateRecord :=
  nextState (exampleRecord "FINAL_REPORT" none) exampleFinish.toWorkflowDecision

theorem terminal_outcome_final_evidence :
    SameOutcome exampleFinished (nextState exampleFinished exampleEvidence.toWorkflowDecision) := by
  have hleaves : LeavesFinished exampleFinished .done exampleEvidence.toWorkflowDecision :=
    ⟨rfl, rfl, rfl, nofun, nofun⟩
  exact (terminal_outcome_final_iff (exampleRecord "FINAL_REPORT" none) exampleFinished [] exampleFinish .done rfl
    (by decide +kernel) [exampleEvidence] (nextState exampleFinished exampleEvidence.toWorkflowDecision)
    (fun d hd => List.mem_singleton.mp hd ▸ hleaves) (by decide +kernel)).1

/-- A terminal outcome is not final: the finished project is taken back to planning. -/
theorem terminal_outcome_not_final :
    ¬∀ (initial state : WorkflowStateRecord) (decisions : List ValidDecision),
      replay applyValid initial decisions = .ok state →
      (∃ d ∈ decisions, d.terminalOutcome.isSome = true) →
      ∀ (d : ValidDecision) (next : WorkflowStateRecord), applyValid state d = .ok next →
        SameOutcome state next := by
  intro h
  have hsame := h (exampleRecord "FINAL_REPORT" none) exampleFinished [exampleFinish] (by decide +kernel)
    ⟨exampleFinish, List.mem_singleton_self _, rfl⟩ exampleReopen
    (nextState exampleFinished exampleReopen.toWorkflowDecision) (by decide +kernel)
  exact absurd hsame.phase (by decide)

end WorkflowDrivers
