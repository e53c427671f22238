import WorkflowDrivers.Correctness.DriverRuns
import WorkflowDrivers.Correctness.ReviewRequests

/-!
# `Correctness.DriverProgress` — what it takes to get to the review

`driver_runs_settle` bounds how far a driver can go; here it is shown to go all the way. A tick is supplied when the
caller has what the driver asks for on the road to the review: no blocker, a wait, a review trigger that is ready,
and for a project finished tasks, a pull request and a gate that passes. A supplied tick is decided and applied, and
it takes the record one phase nearer to the review, or keeps it waiting there. So the number of ticks a review is
away is known, and no supplied tick gets stuck on the way.
-/

namespace WorkflowDrivers
open Lib StrEnum

/-! ## Decisions that go somewhere -/

/-- A decision from one phase to an open one, without blocker and activity. -/
structure Goes (d : WorkflowDecision) (source target : String) : Prop where
  fromPhase : d.fromPhase = source
  toPhase : d.toPhase = target
  noBlocker : d.blockerToRecord = none
  noActivity : d.activitiesToSchedule = []
  opens : isBlockedPhase target = false

/-- It is applied to every open record in its source phase, and the wait it starts is recorded. -/
theorem Goes.applied {record : WorkflowStateRecord} {d : WorkflowDecision} {target : String}
    (h : Goes d record.phase target) (hopen : isBlockedPhase record.phase = false) :
    ∃ next, applyDecision record d = .ok next ∧ next.phase = target
      ∧ (d.waitToStart.isSome = true → next.wait.isSome = true) := by
  refine ⟨nextState record d, applyDecision_eq_ok.mpr ⟨?_, rfl⟩, ?_, ?_⟩
  · exact
      { fromPhase := h.fromPhase
        blockedRecords := by
          intro hto
          rw [h.toPhase, h.opens] at hto
          cases hto
        resumeOption := by
          intro hleaving
          rw [leavingBlockedNonterminal, hopen] at hleaving
          cases hleaving
        atMostOneActivity := by
          rw [h.noActivity]
          exact Nat.zero_le 1 }
  · rw [nextState_phase]
    exact h.toPhase
  · intro hwait
    rw [nextState_wait, nextWait, h.noBlocker]
    simp [hwait]

/-- **What a driver decides on the road**: to take an edge of its table, or to wait for the review. -/
inductive RoadDecision {Phase : Type} [StrEnum Phase] [BEq Phase] (table : List ((Phase × Phase) × ProgressSignal))
    (review source target : Phase) : WorkflowDecision → Prop
  | advances {decisionId decidedAt : String} {signal : ProgressSignal}
      {authorization : Option DriverAuthorizationEvidence} (hedge : table.lookup (source, target) = some signal)
      (hplain : IsPlainSignal signal) (hnot : target ≠ review) :
      RoadDecision table review source target
        (advanceDecision decisionId decidedAt (value source) (value target) (some signal) authorization)
  | waits {decisionId decidedAt : String} {wait : WaitPolicy} (hreview : target = review) :
      RoadDecision table review source target
        (waitDecision decisionId decidedAt (value source) (value target) wait none)

section
variable {Phase : Type} [StrEnum Phase] [BEq Phase] {table : List ((Phase × Phase) × ProgressSignal)}
  {review source target : Phase} {d : WorkflowDecision}

theorem RoadDecision.goes (h : RoadDecision table review source target d)
    (hopen : isBlockedPhase (value target) = false) : Goes d (value source) (value target) := by
  cases h with
  | advances hedge hplain hnot => exact ⟨rfl, rfl, rfl, rfl, hopen⟩
  | waits hreview => exact ⟨rfl, rfl, rfl, rfl, hopen⟩

/-- The review is entered with a wait. -/
theorem RoadDecision.wait (h : RoadDecision table review source target d) (hreview : target = review) :
    d.waitToStart.isSome = true := by
  cases h with
  | advances hedge hplain hnot => exact absurd hreview hnot
  | waits _ => rfl

end

/-- What a driver is given for a review: a wait, and no trigger that is not ready. -/
structure SuppliedArgs (args : TransitionArgs) : Prop where
  wait : args.waitToStart.isSome = true
  trigger : args.reviewTrigger.filter (fun trigger => !trigger.canWaitForReview) = none

/-- With it the review wait begins. -/
theorem reviewDecision_supplied {args : TransitionArgs} (h : SuppliedArgs args) (id : String) :
    ∃ decisionId wait, reviewDecision id args
      = .ok (waitDecision decisionId args.decidedAt "REVIEW_REQUESTED" "REVIEW_WAIT" wait none) := by
  obtain ⟨wait, hwait⟩ := Option.isSome_iff_exists.mp h.wait
  have hopen : isBlockedPhase "REVIEW_WAIT" = false := by decide
  unfold reviewDecision
  simp only [h.trigger, hwait]
  exact ⟨_, wait, emit_of_valid (waitDecision_valid fun hblocked => absurd hblocked (by simp [hopen]))⟩

/-! ## The task driver -/

/-- A tick with everything a task needs on its way. -/
structure TaskSupplied (tick : TaskState × TransitionArgs) : Prop where
  noBlocker : tick.1.blocker = none
  args : SuppliedArgs tick.2

/-- The phases of a task on its way to the review. -/
def taskRoad : List TaskPhase :=
  [.taskAssigned, .claimed, .inspecting, .implementing, .testing, .reviewRequested, .reviewWait]

/-- How many phases the review is away. -/
def taskToReview (phase : TaskPhase) : Nat := taskRank phase - 1

theorem taskRoad_open : ∀ phase ∈ taskRoad, isBlockedPhase (value phase) = false := by decide

/-- The next phase on the road. -/
def taskRoadNext : TaskPhase → TaskPhase
  | .taskAssigned => .claimed
  | .claimed => .inspecting
  | .inspecting => .implementing
  | .implementing => .testing
  | .testing => .reviewRequested
  | _ => .reviewWait

/-- The road leads to the review, which only the review request leads into, and rests nowhere else. -/
theorem taskRoad_next : ∀ phase ∈ taskRoad, taskRoadNext phase ∈ taskRoad
    ∧ taskToReview (taskRoadNext phase) = taskToReview phase - 1
    ∧ (taskRoadNext phase = .reviewWait → phase = .reviewRequested ∨ taskRoadNext phase = phase)
    ∧ (taskRoadNext phase = phase → phase = .reviewWait) := by decide

/-- The driver keeps to the road. -/
theorem nextTaskPhase_road {state : TaskState} (hb : state.blocker = none) (hroad : state.phase ∈ taskRoad) :
    nextTaskPhase state = taskRoadNext state.phase := by
  unfold nextTaskPhase
  rw [hb]
  cases hp : state.phase with
  | fixingReview | rescopeRequested | complete | blockedNeedsElLe | blockedNeedsZoEl =>
      rw [hp] at hroad
      exact absurd hroad (by decide)
  | taskAssigned | claimed | inspecting | implementing | testing | reviewRequested | reviewWait => rfl

/-- A supplied tick goes on. -/
theorem task_supplied {state : TaskState} {args : TransitionArgs} (h : TaskSupplied (state, args))
    (hroad : state.phase ∈ taskRoad) :
    ∃ d, decideNextTaskTransition state args = .ok d
      ∧ RoadDecision taskTransitionSignals .reviewWait state.phase (nextTaskPhase state) d := by
  obtain ⟨hb, hargs⟩ := h
  obtain ⟨hnext, -, hreview, hrests⟩ := taskRoad_next state.phase hroad
  rw [← nextTaskPhase_road hb hroad] at hnext hreview hrests
  have hopen : isBlockedPhase (value (nextTaskPhase state)) = false := taskRoad_open _ hnext
  by_cases hphase : state.phase = .reviewRequested
  · obtain ⟨decisionId, wait, hd⟩ := reviewDecision_supplied hargs state.id
    have hto : nextTaskPhase state = .reviewWait := by
      rw [nextTaskPhase, hb, hphase]
    rw [task_review hphase hb, hto, hphase]
    exact ⟨_, hd, .waits rfl⟩
  · have hmove := decideNextTaskTransition_move state args
    generalize decideNextTaskTransition state args = result at hmove
    cases hmove with
    | blockedNeedsWait hsome hw => exact absurd (hb.symm.trans hsome) (by simp)
    | blockedWait hsome hsame hw => exact absurd (hb.symm.trans hsome) (by simp)
    | blocked hsome hne => exact absurd (hb.symm.trans hsome) (by simp)
    | reviewBlocked hnone hrequested => exact absurd hrequested hphase
    | reviewWait hnone hrequested hw => exact absurd hrequested hphase
    | needsWait hnone hw => exact absurd (hw ▸ hargs.wait) (by simp)
    | wait hnone hsame hw =>
        have hat : state.phase = .reviewWait := hrests hsame
        rw [hsame] at hopen ⊢
        exact ⟨_, emit_of_valid (waitDecision_valid fun hblocked => absurd hblocked (by simp [hopen])), .waits hat⟩
    | advance hnone hne hsignal hplain hto =>
        refine ⟨_, emit_of_valid (advanceDecision_valid hplain hto), .advances hsignal hplain ?_⟩
        intro hwaits
        rcases hreview hwaits with hrequested | hsame
        · exact absurd hrequested hphase
        · exact absurd hsame hne

/-! ## The project driver -/

/-- A tick with everything a project needs on its way. -/
structure ProjectSupplied [UnicodeData] (tick : ProjectState × ProjectTransitionArgs) : Prop where
  noBlocker : tick.1.blocker = none
  args : SuppliedArgs tick.2.toTransitionArgs
  tasks : tick.1.tasks ≠ []
  complete : ∀ task ∈ tick.1.tasks, task.phase = .complete
  prUrl : isTruthy tick.1.prUrl = true
  gate : (transitionGate tick.1 tick.2).ok = true

/-- The phases of a project on its way to the review. -/
def projectRoad : List ProjectIntakePhase :=
  [.projectIntakeAssigned, .planning, .planReview, .planRethink, .taskBreakdown, .taskExecution, .prOpen,
   .reviewRequested, .reviewWait]

/-- How many phases the review is away. -/
def projectToReview (phase : ProjectIntakePhase) : Nat := projectRank phase - 1

theorem projectRoad_open : ∀ phase ∈ projectRoad, isBlockedPhase (value phase) = false := by decide

/-- The next phase on the road. -/
def projectRoadNext : ProjectIntakePhase → ProjectIntakePhase
  | .projectIntakeAssigned => .planning
  | .planning => .planReview
  | .planReview | .planRethink => .taskBreakdown
  | .taskBreakdown => .taskExecution
  | .taskExecution => .prOpen
  | .prOpen => .reviewRequested
  | _ => .reviewWait

theorem projectRoad_next : ∀ phase ∈ projectRoad, projectRoadNext phase ∈ projectRoad
    ∧ projectToReview (projectRoadNext phase) = projectToReview phase - 1
    ∧ (projectRoadNext phase = .reviewWait → phase = .reviewRequested ∨ projectRoadNext phase = phase)
    ∧ (projectRoadNext phase = phase → phase = .reviewWait) := by decide

/-- With finished tasks and a pull request the driver keeps to the road. -/
theorem nextProjectPhase_road {state : ProjectState} (hb : state.blocker = none) (htasks : state.tasks ≠ [])
    (hcomplete : ∀ task ∈ state.tasks, task.phase = .complete) (hpr : isTruthy state.prUrl = true)
    (hroad : state.phase ∈ projectRoad) : nextProjectPhase state = projectRoadNext state.phase := by
  have hrescope : state.tasks.any (fun task => task.phase == .rescopeRequested) = false := by
    rw [List.any_eq_false]
    intro task htask
    rw [hcomplete task htask]
    decide
  have hall : state.tasks.all (fun task => task.phase == .complete) = true := by
    rw [List.all_eq_true]
    intro task htask
    rw [hcomplete task htask]
    decide
  unfold nextProjectPhase
  rw [hb]
  cases hp : state.phase with
  | taskBreakdown => exact if_pos htasks
  | taskExecution =>
      simp only [hrescope, hall, if_true, Bool.false_eq_true, if_false]
      rfl
  | prOpen => exact if_pos hpr
  | projectIntakeAssigned | planning | planReview | planRethink | reviewRequested | reviewWait => rfl
  | _ =>
      rw [hp] at hroad
      exact absurd hroad (by decide)

/-- A supplied tick goes on. -/
theorem project_supplied [UnicodeData] {state : ProjectState} {args : ProjectTransitionArgs}
    (h : ProjectSupplied (state, args)) (hroad : state.phase ∈ projectRoad) :
    ∃ d, decideNextProjectTransition state args = .ok d
      ∧ RoadDecision projectTransitionSignals .reviewWait state.phase (nextProjectPhase state) d := by
  obtain ⟨hb, hargs, htasks, hcomplete, hpr, hgate⟩ := h
  obtain ⟨hnext, -, hreview, hrests⟩ := projectRoad_next state.phase hroad
  rw [← nextProjectPhase_road hb htasks hcomplete hpr hroad] at hnext hreview hrests
  have hopen : isBlockedPhase (value (nextProjectPhase state)) = false := projectRoad_open _ hnext
  have hnotDone : nextProjectPhase state ≠ .done := by
    intro hdone
    rw [hdone] at hnext
    exact absurd hnext (by decide)
  by_cases hphase : state.phase = .reviewRequested
  · obtain ⟨decisionId, wait, hd⟩ := reviewDecision_supplied hargs state.id
    have hto : nextProjectPhase state = .reviewWait := by
      rw [nextProjectPhase, hb, hphase]
    rw [project_review hphase hb, hto, hphase]
    exact ⟨_, hd, .waits rfl⟩
  · have hmove := decideNextProjectTransition_move state args
    generalize decideNextProjectTransition state args = result at hmove
    cases hmove with
    | gateBlocked hfails hne => exact absurd (hgate.symm.trans hfails) (by simp)
    | blockedNeedsWait hsome hw => exact absurd (hb.symm.trans hsome) (by simp)
    | blockedWait hsome hsame hw => exact absurd (hb.symm.trans hsome) (by simp)
    | blocked hpasses hsome hne => exact absurd (hb.symm.trans hsome) (by simp)
    | doneBlocked hnone hdone hproof => exact absurd hdone hnotDone
    | done hnone hdone hproof => exact absurd hdone hnotDone
    | reviewBlocked hnone hrequested => exact absurd hrequested hphase
    | reviewWait hnone hrequested hw => exact absurd hrequested hphase
    | needsWait hnone hdone hw => exact absurd (hw ▸ hargs.wait) (by simp)
    | wait hnone hdone hsame hw =>
        have hat : state.phase = .reviewWait := hrests hsame
        rw [hsame] at hopen ⊢
        exact ⟨_, emit_of_valid (waitDecision_valid fun hblocked => absurd hblocked (by simp [hopen])), .waits hat⟩
    | advance hpasses hnone hdone hne hsignal hplain hto =>
        refine ⟨_, emit_of_valid (advanceDecision_valid hplain hto), .advances hsignal hplain ?_⟩
        intro hwaits
        rcases hreview hwaits with hrequested | hsame
        · exact absurd hrequested hphase
        · exact absurd hsame hne

/-! ## Runs -/

/-- On the road, and with a wait once the review is reached. -/
structure OnRoad {Phase : Type} [StrEnum Phase] (road : List Phase) (review : Phase) (record : WorkflowStateRecord) :
    Prop where
  phase : ∃ phase ∈ road, record.phase = value phase
  wait : record.phase = value review → record.wait.isSome = true

/-- **Supplied ticks follow the road** to the review, which is a known number of phases away. -/
structure FollowsRoad {Phase Tick : Type} [StrEnum Phase] [BEq Phase]
    (table : List ((Phase × Phase) × ProgressSignal)) (road : List Phase) (next : Phase → Phase)
    (distance : Phase → Nat) (review : Phase) (phaseOf : Tick → Phase)
    (decide : Tick → Except DriverError WorkflowDecision) (supplied : Tick → Prop) : Prop where
  opens : ∀ phase ∈ road, isBlockedPhase (value phase) = false
  stays : ∀ phase ∈ road, next phase ∈ road
  nearer : ∀ phase ∈ road, distance (next phase) = distance phase - 1
  arrives : ∀ phase ∈ road, distance phase = 0 → phase = review
  goes : ∀ tick, supplied tick → phaseOf tick ∈ road →
    ∃ d, decide tick = .ok d ∧ RoadDecision table review (phaseOf tick) (next (phaseOf tick)) d

section
variable {Phase Tick : Type} [StrEnum Phase] [BEq Phase] {table : List ((Phase × Phase) × ProgressSignal)}
  {road : List Phase} {next : Phase → Phase} {distance : Phase → Nat} {review : Phase} {phaseOf : Tick → Phase}
  {decide : Tick → Except DriverError WorkflowDecision} {supplied : Tick → Prop} {record : WorkflowStateRecord}
  {tick : Tick}

/-- **One supplied tick.** -/
theorem FollowsRoad.goesOn (hroad : FollowsRoad table road next distance review phaseOf decide supplied)
    (hon : ∃ phase ∈ road, record.phase = value phase) (hphase : record.phase = value (phaseOf tick))
    (hsupplied : supplied tick) :
    ∃ d after, decide tick = .ok d ∧ applyDecision record d = .ok after ∧ OnRoad road review after
      ∧ ofPhase distance 0 after = ofPhase distance 0 record - 1 := by
  obtain ⟨phase, hmem, hat⟩ := hon
  obtain rfl : phase = phaseOf tick := value_inj.mp (hat.symm.trans hphase)
  obtain ⟨d, hd, hdecision⟩ := hroad.goes tick hsupplied hmem
  have hgoes := hdecision.goes (hroad.opens _ (hroad.stays _ hmem))
  rw [← hphase] at hgoes
  obtain ⟨after, happlied, hafter, hstarted⟩ := hgoes.applied (hphase ▸ hroad.opens _ hmem)
  refine ⟨d, after, hd, happlied, ⟨⟨_, hroad.stays _ hmem, hafter⟩, ?_⟩, ?_⟩
  · intro hreview
    exact hstarted (hdecision.wait (value_inj.mp (hafter.symm.trans hreview)))
  · rw [ofPhase_value hafter, ofPhase_value hphase]
    exact hroad.nearer _ hmem

variable {decides : WorkflowStateRecord → Tick → WorkflowDecision → Prop} {initial final : WorkflowStateRecord}
  {ticks : List Tick} {decisions : List WorkflowDecision}

/-- Ticks that show the phase of the record, decided by the function. -/
def DecidesBy (phaseOf : Tick → Phase) (decide : Tick → Except DriverError WorkflowDecision)
    (decides : WorkflowStateRecord → Tick → WorkflowDecision → Prop) : Prop :=
  ∀ record tick d, decides record tick d → record.phase = value (phaseOf tick) ∧ decide tick = .ok d

/-- **Step lemma.** -/
theorem FollowsRoad.step (hroad : FollowsRoad table road next distance review phaseOf decide supplied)
    (hdecides : DecidesBy phaseOf decide decides) {d : WorkflowDecision} {after : WorkflowStateRecord}
    (hon : OnRoad road review record) (hsupplied : supplied tick) (hdecided : decides record tick d)
    (hstep : applyDecision record d = .ok after) :
    OnRoad road review after ∧ ofPhase distance 0 after = ofPhase distance 0 record - 1 := by
  obtain ⟨hphase, hd⟩ := hdecides record tick d hdecided
  obtain ⟨d', after', hd', hstep', hafter, hrank⟩ := hroad.goesOn hon.phase hphase hsupplied
  -- the driver decides one thing only
  obtain rfl := Except.ok.inj (hd.symm.trans hd')
  obtain rfl := Except.ok.inj (hstep.symm.trans hstep')
  exact ⟨hafter, hrank⟩

/-- **A run of supplied ticks** is on the road, and nearer to the review by as many phases as it has ticks. -/
theorem FollowsRoad.run (hroad : FollowsRoad table road next distance review phaseOf decide supplied)
    (hdecides : DecidesBy phaseOf decide decides) (hinitial : OnRoad road review initial)
    (hsupplied : ∀ tick ∈ ticks, supplied tick) (hrun : Driven decides applyDecision initial ticks decisions final) :
    OnRoad road review final ∧ ofPhase distance 0 final = ofPhase distance 0 initial - ticks.length := by
  refine hrun.progress (ofPhase distance 0) ?_ hinitial hsupplied
  intro record tick d after hon hgood hdecided hstep
  exact hroad.step hdecides hon hgood hdecided hstep

/-- Every decision of such a run is one of the road. -/
theorem FollowsRoad.decided (hroad : FollowsRoad table road next distance review phaseOf decide supplied)
    (hdecides : DecidesBy phaseOf decide decides) (hinitial : OnRoad road review initial)
    (hsupplied : ∀ tick ∈ ticks, supplied tick) (hrun : Driven decides applyDecision initial ticks decisions final) :
    ∀ d ∈ decisions, ∃ phase ∈ road, RoadDecision table review phase (next phase) d := by
  have hkeeps : ∀ record tick d after, OnRoad road review record → supplied tick → decides record tick d →
      applyDecision record d = .ok after → OnRoad road review after :=
    fun _ _ _ _ hon hgood hdecided hstep => (hroad.step hdecides hon hgood hdecided hstep).1
  intro d hd
  obtain ⟨record, tick, hon, hgood, hdecided⟩ := hrun.decided hkeeps hinitial hsupplied d hd
  obtain ⟨hphase, hdecide⟩ := hdecides record tick d hdecided
  obtain ⟨phase, hmem, hat⟩ := hon.phase
  obtain rfl : phase = phaseOf tick := value_inj.mp (hat.symm.trans hphase)
  obtain ⟨d', hd', hdecision⟩ := hroad.goes tick hgood hmem
  obtain rfl := Except.ok.inj (hdecide.symm.trans hd')
  exact ⟨_, hmem, hdecision⟩

/-- With as many ticks as the review was away, it is reached. -/
theorem OnRoad.arrived (hroad : FollowsRoad table road next distance review phaseOf decide supplied)
    (hon : OnRoad road review record) (hzero : ofPhase distance 0 record = 0) :
    record.phase = value review ∧ record.wait.isSome = true := by
  obtain ⟨phase, hmem, hphase⟩ := hon.phase
  rw [ofPhase_value hphase] at hzero
  obtain rfl := hroad.arrives phase hmem hzero
  exact ⟨hphase, hon.wait hphase⟩

end

theorem taskFollowsRoad : FollowsRoad taskTransitionSignals taskRoad taskRoadNext taskToReview .reviewWait
    (fun tick : TaskState × TransitionArgs => tick.1.phase) (fun tick => decideNextTaskTransition tick.1 tick.2)
    TaskSupplied where
  opens := taskRoad_open
  stays phase hmem := (taskRoad_next phase hmem).1
  nearer phase hmem := (taskRoad_next phase hmem).2.1
  arrives := by decide
  goes tick hsupplied hmem := by
    rw [← nextTaskPhase_road hsupplied.noBlocker hmem]
    exact task_supplied hsupplied hmem

theorem projectFollowsRoad [UnicodeData] :
    FollowsRoad projectTransitionSignals projectRoad projectRoadNext projectToReview .reviewWait
      (fun tick : ProjectState × ProjectTransitionArgs => tick.1.phase)
      (fun tick => decideNextProjectTransition tick.1 tick.2) ProjectSupplied where
  opens := projectRoad_open
  stays phase hmem := (projectRoad_next phase hmem).1
  nearer phase hmem := (projectRoad_next phase hmem).2.1
  arrives := by decide
  goes tick hsupplied hmem := by
    rw [← nextProjectPhase_road hsupplied.noBlocker hsupplied.tasks hsupplied.complete hsupplied.prUrl hmem]
    exact project_supplied hsupplied hmem

theorem taskDecidesBy : DecidesBy (fun tick : TaskState × TransitionArgs => tick.1.phase)
    (fun tick => decideNextTaskTransition tick.1 tick.2) TaskDecides :=
  fun _ _ _ hdecides => ⟨hdecides.1.phase, hdecides.2⟩

theorem projectDecidesBy [UnicodeData] :
    DecidesBy (fun tick : ProjectState × ProjectTransitionArgs => tick.1.phase)
      (fun tick => decideNextProjectTransition tick.1 tick.2) ProjectDecides :=
  fun _ _ _ hdecides => ⟨hdecides.1.phase, hdecides.2⟩

/-- A record in a phase of the road, before the review. -/
theorem onRoad_of_before {Phase : Type} [StrEnum Phase] {road : List Phase} {review phase : Phase}
    {record : WorkflowStateRecord} (hmem : phase ∈ road) (hnot : phase ≠ review) (hphase : record.phase = value phase) :
    OnRoad road review record where
  phase := ⟨phase, hmem, hphase⟩
  wait hreview := absurd (value_inj.mp (hphase.symm.trans hreview)) hnot

/-- **Supplied drivers reach the review.** From every phase on the road, every run of supplied ticks of the project
    driver is in the review wait after seven ticks at the latest, and of the task driver after six, with a wait
    recorded; and on every record such a run leads to, the next supplied tick is decided and applied. -/
theorem drivers_reach_review [UnicodeData] :
    (∀ initial ticks decisions final, (∃ phase ∈ projectRoad, phase ≠ .reviewWait ∧ initial.phase = value phase) →
      (∀ tick ∈ ticks, ProjectSupplied tick) → ProjectRun initial ticks decisions final →
      (7 ≤ ticks.length → final.phase = "REVIEW_WAIT" ∧ final.wait.isSome = true)
      ∧ ∀ tick, ProjectSupplied tick → Mirrors final (value tick.1.phase) tick.1.blocker →
          ∃ d next, ProjectDecides final tick d ∧ applyDecision final d = .ok next)
    ∧ (∀ initial ticks decisions final, (∃ phase ∈ taskRoad, phase ≠ .reviewWait ∧ initial.phase = value phase) →
      (∀ tick ∈ ticks, TaskSupplied tick) → TaskRun initial ticks decisions final →
      (6 ≤ ticks.length → final.phase = "REVIEW_WAIT" ∧ final.wait.isSome = true)
      ∧ ∀ tick, TaskSupplied tick → Mirrors final (value tick.1.phase) tick.1.blocker →
          ∃ d next, TaskDecides final tick d ∧ applyDecision final d = .ok next) := by
  constructor
  · rintro initial ticks decisions final ⟨phase, hmem, hnot, hphase⟩ hsupplied hrun
    obtain ⟨hfinal, hrank⟩ :=
      projectFollowsRoad.run projectDecidesBy (onRoad_of_before hmem hnot hphase) hsupplied hrun
    rw [ofPhase_value hphase] at hrank
    constructor
    · intro hlength
      have hfar : ∀ phase, projectToReview phase ≤ 7 := by
        intro phase
        cases phase <;> decide
      have hzero : ofPhase projectToReview 0 final = 0 := by
        have hbound := hfar phase
        omega
      exact hfinal.arrived projectFollowsRoad hzero
    · intro tick hgood hmirrors
      obtain ⟨d, next, hd, hstep, -, -⟩ := projectFollowsRoad.goesOn hfinal.phase hmirrors.phase hgood
      exact ⟨d, next, ⟨hmirrors, hd⟩, hstep⟩
  · rintro initial ticks decisions final ⟨phase, hmem, hnot, hphase⟩ hsupplied hrun
    obtain ⟨hfinal, hrank⟩ := taskFollowsRoad.run taskDecidesBy (onRoad_of_before hmem hnot hphase) hsupplied hrun
    rw [ofPhase_value hphase] at hrank
    constructor
    · intro hlength
      have hfar : ∀ phase, taskToReview phase ≤ 6 := by
        intro phase
        cases phase <;> decide
      have hzero : ofPhase taskToReview 0 final = 0 := by
        have hbound := hfar phase
        omega
      exact hfinal.arrived taskFollowsRoad hzero
    · intro tick hgood hmirrors
      obtain ⟨d, next, hd, hstep, -, -⟩ := taskFollowsRoad.goesOn hfinal.phase hmirrors.phase hgood
      exact ⟨d, next, ⟨hmirrors, hd⟩, hstep⟩

/-! ## What the phase policies object to -/

/-- The policies along a road: they list the signals of its edges, and where the review is waited for they let a wait
    start, have the owners of a review, and list no outcome. -/
structure RoadPolicies {Phase : Type} [StrEnum Phase] [BEq Phase] (kind : DriverKind) (policies : Phase → PhasePolicy)
    (table : List ((Phase × Phase) × ProgressSignal)) (road : List Phase) (next : Phase → Phase) (review : Phase) :
    Prop where
  policy : ∀ phase, templatePhasePolicy? kind (value phase) = some (policies phase)
  listed : ∀ phase ∈ road, ∀ signal ∈ table.lookup (phase, next phase), signal ∈ (policies phase).allowedSignals
  waiting : ∀ phase ∈ road, next phase = review → (policies phase).waitSignals = controlledWait
    ∧ (policies phase).blockerOwnerRoles = reviewBlocker ∧ (policies phase).terminalOutcomes = []

theorem taskRoadPolicies :
    RoadPolicies .softwareTask taskPhasePolicies taskTransitionSignals taskRoad taskRoadNext .reviewWait where
  policy := templatePhasePolicy?_task
  listed := by decide
  waiting := by decide

theorem projectRoadPolicies :
    RoadPolicies .softwareProject projectPhasePolicies projectTransitionSignals projectRoad projectRoadNext
      .reviewWait where
  policy := templatePhasePolicy?_project
  listed := by decide
  waiting := by decide

/-- What a review wait may promise: the process steward's blocker, or another try. -/
def ReviewThreshold (wait : WaitPolicy) : Prop :=
  wait.thresholdResponse = .blockedNeedsElLe ∨ wait.thresholdResponse = .retryScheduled

/-- The owners of a review can keep exactly that. -/
theorem reviewThreshold_iff {policy : PhasePolicy} {wait : WaitPolicy}
    (howners : policy.blockerOwnerRoles = reviewBlocker) (houtcomes : policy.terminalOutcomes = []) :
    ThresholdAllowed policy wait ↔ ReviewThreshold wait := by
  constructor
  · rintro ⟨hfail, hescalate⟩
    rw [houtcomes] at hfail
    rw [howners] at hescalate
    cases hresponse : wait.thresholdResponse with
    | blockedNeedsElLe => exact Or.inl hresponse
    | retryScheduled => exact Or.inr hresponse
    | failed => exact absurd (hfail hresponse) List.not_mem_nil
    | blockedNeedsZoEl =>
        rw [hresponse] at hescalate
        exact absurd (hescalate (by decide)) (by decide)
  · intro hthreshold
    constructor
    · intro hfail
      rcases hthreshold with hresponse | hresponse
      · exact absurd (hresponse.symm.trans hfail) (by decide)
      · exact absurd (hresponse.symm.trans hfail) (by decide)
    · intro hblocked
      rw [howners]
      rcases hthreshold with hresponse | hresponse
      · rw [hresponse]
        decide
      · rw [hresponse] at hblocked
        exact absurd hblocked (by decide)

/-- **One decision.** The policy objects to a decision of the road exactly when its wait promises something else. -/
theorem RoadDecision.policy_iff {Phase : Type} [StrEnum Phase] [BEq Phase] {kind : DriverKind}
    {policies : Phase → PhasePolicy} {table : List ((Phase × Phase) × ProgressSignal)} {road : List Phase}
    {next : Phase → Phase} {review phase : Phase} {d : WorkflowDecision}
    (hpolicies : RoadPolicies kind policies table road next review) (hmem : phase ∈ road)
    (h : RoadDecision table review phase (next phase) d) :
    validateDecisionAgainstPhasePolicy kind d = .ok d ↔ ∀ wait ∈ d.waitToStart, ReviewThreshold wait := by
  cases h with
  | @advances _ _ signal _ hedge hplain hnot =>
      rw [validate_advanceDecision (hpolicies.policy phase)]
      exact iff_of_true (hpolicies.listed phase hmem signal hedge) nofun
  | @waits _ _ wait hreview =>
      obtain ⟨hwaits, howners, houtcomes⟩ := hpolicies.waiting phase hmem hreview
      rw [validate_iff_allows (hpolicies.policy phase)]
      constructor
      · rintro hallowed _ ⟨⟩
        exact (reviewThreshold_iff howners houtcomes).mp (hallowed.threshold wait rfl)
      · intro hthreshold
        have hlisted : ProgressSignal.waitTimerStarted ∈ (policies phase).waitSignals := by
          rw [hwaits]
          exact List.mem_cons_self
        exact
          { waitAllowed := fun _ => by simpa [signalIn, waitDecision] using hlisted
            signalAllowed := by
              rintro signal ⟨⟩
              exact Or.inl (List.mem_append_right _ hlisted)
            threshold := by
              rintro _ ⟨⟩
              exact (reviewThreshold_iff howners houtcomes).mpr (hthreshold wait rfl)
            blocker := nofun
            terminal := nofun
            notStalled := WorkflowDecision.not_stalled_of_signal rfl }

/-- **The policies let supplied drivers pass.** Of every run of supplied ticks from a phase on the road before the
    review, the phase policies accept exactly the decisions whose wait, if they start one, promises the process
    steward's blocker or another try. -/
theorem supplied_runs_pass_policy [UnicodeData] :
    (∀ initial ticks decisions final, (∃ phase ∈ projectRoad, phase ≠ .reviewWait ∧ initial.phase = value phase) →
      (∀ tick ∈ ticks, ProjectSupplied tick) → ProjectRun initial ticks decisions final →
      ∀ d ∈ decisions, validateDecisionAgainstPhasePolicy .softwareProject d = .ok d
        ↔ ∀ wait ∈ d.waitToStart, ReviewThreshold wait)
    ∧ (∀ initial ticks decisions final, (∃ phase ∈ taskRoad, phase ≠ .reviewWait ∧ initial.phase = value phase) →
      (∀ tick ∈ ticks, TaskSupplied tick) → TaskRun initial ticks decisions final →
      ∀ d ∈ decisions, validateDecisionAgainstPhasePolicy .softwareTask d = .ok d
        ↔ ∀ wait ∈ d.waitToStart, ReviewThreshold wait) := by
  constructor
  · rintro initial ticks decisions final ⟨phase, hmem, hnot, hphase⟩ hsupplied hrun d hd
    obtain ⟨source, hsource, hdecision⟩ :=
      projectFollowsRoad.decided projectDecidesBy (onRoad_of_before hmem hnot hphase) hsupplied hrun d hd
    exact hdecision.policy_iff projectRoadPolicies hsource
  · rintro initial ticks decisions final ⟨phase, hmem, hnot, hphase⟩ hsupplied hrun d hd
    obtain ⟨source, hsource, hdecision⟩ :=
      taskFollowsRoad.decided taskDecidesBy (onRoad_of_before hmem hnot hphase) hsupplied hrun d hd
    exact hdecision.policy_iff taskRoadPolicies hsource

/-! ## A run to the review -/

/-- A project that is handed over in one phase, with all it needs. -/
def exampleProjectTick (phase : ProjectIntakePhase) : ProjectState × ProjectTransitionArgs :=
  ({ id := "P-1", phase, tasks := [{ id := "T-1", phase := .complete }], prUrl := some "pr-1" },
    { decidedAt := "T", waitToStart := some exampleWait })

theorem exampleProjectTick_supplied {phase : ProjectIntakePhase} (hopen : phase ∈ projectRoad) :
    @ProjectSupplied asciiOnly (exampleProjectTick phase) := by
  refine @ProjectSupplied.mk asciiOnly _ rfl ⟨rfl, rfl⟩ (List.cons_ne_nil _ _) ?_ rfl ?_
  · intro task htask
    rw [List.mem_singleton.mp htask]
  · revert phase
    decide +kernel

/-- One tick for each phase of the road. -/
def exampleRoadTicks : List (ProjectState × ProjectTransitionArgs) :=
  [.projectIntakeAssigned, .planning, .planReview, .taskBreakdown, .taskExecution, .prOpen,
    .reviewRequested].map exampleProjectTick

theorem exampleRoadTicks_supplied : ∀ tick ∈ exampleRoadTicks, @ProjectSupplied asciiOnly tick := by
  intro tick htick
  obtain ⟨phase, hphase, rfl⟩ := List.mem_map.mp htick
  have hroad : ∀ phase ∈ [ProjectIntakePhase.projectIntakeAssigned, .planning, .planReview, .taskBreakdown,
      .taskExecution, .prOpen, .reviewRequested], phase ∈ projectRoad := by decide
  exact exampleProjectTick_supplied (hroad phase hphase)

theorem exampleRoadRun : ∃ decisions final,
    @ProjectRun asciiOnly (exampleRecord "PROJECT_INTAKE_ASSIGNED" none) exampleRoadTicks decisions final :=
  ⟨_, _, .cons ⟨⟨rfl, by decide⟩, rfl⟩ rfl (.cons ⟨⟨rfl, by decide⟩, rfl⟩ rfl (.cons ⟨⟨rfl, by decide⟩, rfl⟩ rfl
    (.cons ⟨⟨rfl, by decide⟩, rfl⟩ rfl (.cons ⟨⟨rfl, by decide⟩, rfl⟩ rfl (.cons ⟨⟨rfl, by decide⟩, rfl⟩ rfl
      (.cons ⟨⟨rfl, by decide⟩, rfl⟩ rfl (.nil _)))))))⟩

theorem drivers_reach_review_project : ∃ decisions final,
    @ProjectRun asciiOnly (exampleRecord "PROJECT_INTAKE_ASSIGNED" none) exampleRoadTicks decisions final
    ∧ final.phase = "REVIEW_WAIT" ∧ final.wait.isSome = true := by
  obtain ⟨decisions, final, hrun⟩ := exampleRoadRun
  exact ⟨decisions, final, hrun, ((@drivers_reach_review asciiOnly).1 _ _ decisions final
    ⟨.projectIntakeAssigned, by decide, by decide, rfl⟩ exampleRoadTicks_supplied hrun).1 (by decide)⟩

theorem supplied_runs_pass_policy_project : ∃ decisions final,
    @ProjectRun asciiOnly (exampleRecord "PROJECT_INTAKE_ASSIGNED" none) exampleRoadTicks decisions final
    ∧ ∀ d ∈ decisions, validateDecisionAgainstPhasePolicy .softwareProject d = .ok d
        ↔ ∀ wait ∈ d.waitToStart, ReviewThreshold wait := by
  obtain ⟨decisions, final, hrun⟩ := exampleRoadRun
  exact ⟨decisions, final, hrun, (@supplied_runs_pass_policy asciiOnly).1 _ _ decisions final
    ⟨.projectIntakeAssigned, by decide, by decide, rfl⟩ exampleRoadTicks_supplied hrun⟩

end WorkflowDrivers
