import WorkflowDrivers.Correctness.ProjectGates

/-!
# `Correctness.TaskAggregation` — what the tasks of a project add up to

In `TASK_EXECUTION` the next phase is read off the list of tasks: one task that asks for a new scope takes the
project back to rethinking, all tasks complete open the pull request, and anything else waits. The second test
is an `all`, so a project without tasks passes it too.
-/

namespace WorkflowDrivers
open Lib StrEnum

/-- Some task asks for a new scope. -/
def SomeRescope (state : ProjectState) : Prop := ∃ task ∈ state.tasks, task.phase = .rescopeRequested

/-- There are tasks, and all of them are complete. -/
def TasksComplete (state : ProjectState) : Prop :=
  state.tasks ≠ [] ∧ ∀ task ∈ state.tasks, task.phase = .complete

/-- A same-phase controlled wait, with the policy that was given. -/
structure SamePhaseWait (state : ProjectState) (args : ProjectTransitionArgs) (d : WorkflowDecision) : Prop where
  fromPhase : d.fromPhase = value state.phase
  toPhase : d.toPhase = value state.phase
  signal : d.progressSignal = some .waitTimerStarted
  notMaterial : d.materialProgress = false
  wait : d.waitToStart.isSome = true ∧ d.waitToStart = args.waitToStart
  noBlocker : d.blockerToRecord = none

/-- **What the tasks of a project should add up to.** -/
structure TasksAggregated [UnicodeData] (state : ProjectState) (args : ProjectTransitionArgs) : Prop where
  rescope : SomeRescope state → ∃ d, decideNextProjectTransition state args = .ok d
    ∧ d.toPhase = value ProjectIntakePhase.planRethink ∧ d.progressSignal = some .taskRescopeRequested
    ∧ d.blockerToRecord = none
  complete : ∀ d, decideNextProjectTransition state args = .ok d → d.toPhase = value ProjectIntakePhase.prOpen →
    d.progressSignal = some .taskCompleted ∧ TasksComplete state
  waits : ¬SomeRescope state → ¬TasksComplete state →
    ∀ d, decideNextProjectTransition state args = .ok d → SamePhaseWait state args d

/-! ## The next phase -/

section
variable {state : ProjectState}

theorem nextProjectPhase_rescope (hphase : state.phase = .taskExecution) (hb : state.blocker = none)
    (h : SomeRescope state) : nextProjectPhase state = .planRethink := by
  have hany : state.tasks.any (fun task => task.phase == .rescopeRequested) = true := by
    obtain ⟨task, hmem, htask⟩ := h
    exact List.any_eq_true.mpr ⟨task, hmem, beq_iff_eq.mpr htask⟩
  unfold nextProjectPhase
  simp only [hb, hphase]
  rw [if_pos hany]

/-- Without a request for a new scope, all tasks decide; an empty list has none that is not complete. -/
theorem nextProjectPhase_complete (hphase : state.phase = .taskExecution) (hb : state.blocker = none)
    (hnone : ¬SomeRescope state) :
    nextProjectPhase state = if ∀ task ∈ state.tasks, task.phase = .complete then .prOpen else .taskExecution := by
  have hany : ¬state.tasks.any (fun task => task.phase == .rescopeRequested) = true := by
    simpa [SomeRescope] using hnone
  unfold nextProjectPhase
  simp only [hb, hphase]
  rw [if_neg hany]
  simp only [List.all_eq_true, beq_iff_eq]

end

/-! ## The decisions -/

section
variable [UnicodeData] {state : ProjectState} {args : ProjectTransitionArgs}

/-- A request for a new scope is answered whatever the gate's evidence and the mode. -/
theorem decide_rescope (args : ProjectTransitionArgs) (hphase : state.phase = .taskExecution)
    (hb : state.blocker = none) (h : SomeRescope state) : ∃ d, decideNextProjectTransition state args = .ok d
      ∧ d.toPhase = value ProjectIntakePhase.planRethink ∧ d.progressSignal = some .taskRescopeRequested
      ∧ d.blockerToRecord = none := by
  have hnext := nextProjectPhase_rescope hphase hb h
  have hgate : (transitionGate state args).ok = true := by
    rw [transitionGate, hnext, checkProjectTransitionGate_ungated (by decide) (by decide)]
  have hsignal : projectTransitionSignals.lookup (state.phase, nextProjectPhase state)
      = some .taskRescopeRequested := by
    rw [hnext, hphase]
    decide
  obtain ⟨decisionId, hd⟩ := decideNextProjectTransition_advance hgate hb (by simp [hnext]) (by simp [hnext, hphase])
    hsignal (by decide) (by rw [hnext]; decide)
  exact ⟨_, hd, congrArg value hnext, rfl, rfl⟩

/-- When the pull request is next, the gate decides between it and a blocker. -/
theorem decide_prOpen (args : ProjectTransitionArgs) (hphase : state.phase = .taskExecution)
    (hb : state.blocker = none) (hnext : nextProjectPhase state = .prOpen) : ∃ d, decideNextProjectTransition state args = .ok d
      ∧ ((d.progressSignal = some .taskCompleted ∧ d.toPhase = value ProjectIntakePhase.prOpen)
        ∨ (d.progressSignal = some .blockerCreated ∧ d.toPhase ≠ value ProjectIntakePhase.prOpen)) := by
  cases hgate : (transitionGate state args).ok with
  | true =>
      have hsignal : projectTransitionSignals.lookup (state.phase, nextProjectPhase state)
          = some .taskCompleted := by
        rw [hnext, hphase]
        decide
      obtain ⟨decisionId, hd⟩ := decideNextProjectTransition_advance hgate hb (by simp [hnext])
        (by simp [hnext, hphase]) hsignal (by decide) (by rw [hnext]; decide)
      exact ⟨_, hd, Or.inl ⟨rfl, congrArg value hnext⟩⟩
  | false =>
      obtain ⟨-, status, failures, hblocker⟩ := checkProjectTransitionGate_blocker hgate
      obtain ⟨decisionId, hd⟩ := decideNextProjectTransition_gateBlocked hgate hblocker
      have hopen : ProjectIntakePhase.prOpen ∉ blockedGates := by decide
      refine ⟨_, hd, Or.inr ⟨rfl, fun hto => hopen ?_⟩⟩
      rw [← value_inj.mp hto]
      exact projectBlockedPhaseFor_blocked _

/-- A project that stays in `TASK_EXECUTION` waits. -/
theorem decide_taskExecution_waits {d : WorkflowDecision} (hphase : state.phase = .taskExecution)
    (hb : state.blocker = none) (hnext : nextProjectPhase state = .taskExecution)
    (h : decideNextProjectTransition state args = .ok d) : SamePhaseWait state args d := by
  have hsame : nextProjectPhase state = state.phase := hnext.trans hphase.symm
  obtain ⟨result, hresult, hmove⟩ := decideNextProjectTransition_returned h
  cases hmove with
  | blockedNeedsWait hsome hw => cases hresult
  | needsWait _ hdone hw => cases hresult
  | gateBlocked hgate hne => exact absurd hsame hne
  | blocked hgate hsome hne => exact absurd hsame hne
  | advance hgate _ hdone hne hsignal hplain hto => exact absurd hsame hne
  | blockedWait hsome _ hw => exact absurd (hb.symm.trans hsome) (Option.some_ne_none _).symm
  | doneBlocked _ hdone hproof => exact absurd (hnext.symm.trans hdone) (by decide)
  | done _ hdone hproof => exact absurd (hnext.symm.trans hdone) (by decide)
  | reviewBlocked _ hreview => exact absurd (hphase.symm.trans hreview) (by decide)
  | reviewWait _ hreview hw => exact absurd (hphase.symm.trans hreview) (by decide)
  | wait _ hdone _ hw =>
      obtain ⟨rfl, -⟩ := emit_eq_ok.mp hresult.symm
      exact ⟨rfl, rfl, rfl, rfl, ⟨rfl, hw.symm⟩, rfl⟩

/-- Only complete tasks lead to the pull request. -/
theorem decide_enters_prOpen {d : WorkflowDecision} (hphase : state.phase = .taskExecution)
    (hb : state.blocker = none) (h : decideNextProjectTransition state args = .ok d)
    (hto : d.toPhase = value ProjectIntakePhase.prOpen) :
    d.progressSignal = some .taskCompleted ∧ ∀ task ∈ state.tasks, task.phase = .complete := by
  by_cases hrescope : SomeRescope state
  · obtain ⟨e, he, hrethink, -, -⟩ := decide_rescope args hphase hb hrescope
    obtain rfl : d = e := Except.ok.inj (h.symm.trans he)
    exact absurd (hto.symm.trans hrethink) (by decide)
  · have hnext := nextProjectPhase_complete hphase hb hrescope
    split_ifs at hnext with hall
    · obtain ⟨e, he, ⟨hsignal, -⟩ | ⟨-, hother⟩⟩ := decide_prOpen args hphase hb hnext
      · obtain rfl : d = e := Except.ok.inj (h.symm.trans he)
        exact ⟨hsignal, hall⟩
      · obtain rfl : d = e := Except.ok.inj (h.symm.trans he)
        exact absurd hto hother
    · have hstays : d.toPhase = value state.phase := (decide_taskExecution_waits hphase hb hnext h).toPhase
      rw [hto, hphase] at hstays
      exact absurd hstays (by decide)

end

/-- **When the tasks add up as they should.** A project in `TASK_EXECUTION` without a blocker, whatever its tasks
    and the arguments: exactly when it has a task. Without one the driver returns a decision in any case, which
    opens the pull request or, where the gate does not pass, creates a blocker. -/
theorem task_aggregation_iff [UnicodeData] (state : ProjectState) (args : ProjectTransitionArgs)
    (hphase : state.phase = .taskExecution) (hb : state.blocker = none) :
    TasksAggregated state args ↔ state.tasks ≠ [] := by
  constructor
  · intro haggregated hnil
    have hrescope : ¬SomeRescope state := by simp [SomeRescope, hnil]
    have hcomplete : ¬TasksComplete state := fun h => h.1 hnil
    have hnext := nextProjectPhase_complete hphase hb hrescope
    rw [if_pos (by simp [hnil])] at hnext
    -- the decision there is does not wait
    obtain ⟨d, hd, ⟨hsignal, -⟩ | ⟨hsignal, -⟩⟩ := decide_prOpen args hphase hb hnext
    · have hwait := haggregated.waits hrescope hcomplete d hd
      exact absurd (hsignal.symm.trans hwait.signal) (by decide)
    · have hwait := haggregated.waits hrescope hcomplete d hd
      exact absurd (hsignal.symm.trans hwait.signal) (by decide)
  · intro htasks
    refine ⟨decide_rescope args hphase hb, ?_, ?_⟩
    · intro d hd hto
      obtain ⟨hsignal, hall⟩ := decide_enters_prOpen hphase hb hd hto
      exact ⟨hsignal, htasks, hall⟩
    · intro hrescope hcomplete d hd
      have hnext := nextProjectPhase_complete hphase hb hrescope
      rw [if_neg (fun hall => hcomplete ⟨htasks, hall⟩)] at hnext
      exact decide_taskExecution_waits hphase hb hnext hd

/-- A project in `TASK_EXECUTION` with the given tasks. -/
def exampleTasks (phases : List TaskPhase) : ProjectState where
  id := "P-1"
  phase := .taskExecution
  tasks := phases.map fun phase => { id := "T-1", phase }

theorem task_aggregation_iff_mixed :
    TasksComplete (exampleTasks [.complete, .complete])
      ∧ @TasksAggregated asciiOnly (exampleTasks [.complete, .rescopeRequested, .testing]) { decidedAt := "T1" } := by
  have hcomplete := (@task_aggregation_iff asciiOnly (exampleTasks [.complete, .complete]) { decidedAt := "T1" }
    rfl rfl).mpr (by decide)
  refine ⟨?_, (@task_aggregation_iff asciiOnly _ _ rfl rfl).mpr (by decide)⟩
  exact (@TasksAggregated.complete asciiOnly _ _ hcomplete (advanceDecision "P-1:TASK_EXECUTION:to:PR_OPEN" "T1"
    "TASK_EXECUTION" "PR_OPEN" (some .taskCompleted) none) (by decide +kernel) rfl).2

/-- A project without tasks opens the pull request with all its tasks completed. -/
theorem task_aggregation_empty :
    ¬∀ (state : ProjectState) (args : ProjectTransitionArgs), state.phase = .taskExecution → state.blocker = none →
      @TasksAggregated asciiOnly state args := by
  intro h
  have hempty := h (exampleTasks []) { decidedAt := "T1" } rfl rfl
  have hopened := @TasksAggregated.complete asciiOnly _ _ hempty (advanceDecision "P-1:TASK_EXECUTION:to:PR_OPEN"
    "T1" "TASK_EXECUTION" "PR_OPEN" (some .taskCompleted) none) (by decide +kernel) rfl
  exact hopened.2.1 rfl

end WorkflowDrivers
