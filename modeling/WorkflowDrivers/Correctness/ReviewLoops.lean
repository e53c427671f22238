import WorkflowDrivers.Correctness.BlockedWaits
import WorkflowDrivers.Correctness.TerminalStates

/-!
# `Correctness.ReviewLoops` — the review repair loop

Each pass of a task through its review findings is to be counted in `review_loop_count`, and the driver is to ask
for a rescope once the count reaches the limit. The limit is tested by the driver, but no step of a run writes
the count: it stays what it was, so the passes are counted exactly in the runs without one, and a positive limit
bounds nothing.
-/

namespace WorkflowDrivers
open Lib StrEnum

/-! ## Passes, counts and limits -/

/-- A pass of the repair loop: the accepted findings go back to the implementation. -/
def isRepairPass (decision : WorkflowDecision) : Bool :=
  decision.fromPhase == value TaskPhase.fixingReview && decision.toPhase == value TaskPhase.implementing

/-- How many decisions of a run are passes. -/
def repairPasses (decisions : List ValidDecision) : Nat :=
  decisions.countP (fun d => isRepairPass d.toWorkflowDecision)

/-- The decisions of a run before the first one that asks for a rescope. -/
def beforeRescope (decisions : List ValidDecision) : List ValidDecision :=
  decisions.takeWhile (fun d => d.toPhase != value TaskPhase.rescopeRequested)

/-- A record of the task driver that has counted nothing yet. -/
structure StartsUncounted (record : WorkflowStateRecord) : Prop where
  driverKind : record.driverKind = .softwareTask
  reviewLoopCount : record.counters.reviewLoopCount = some 0

/-- Every decision on a record in `FIXING_REVIEW` is the driver's, for a task with the phase and the count of the
    record and this limit. -/
def RepairsByDriver (maxReviewLoops : Int) (initial : WorkflowStateRecord) (decisions : List ValidDecision) : Prop :=
  ∀ before d after, decisions = before ++ d :: after → ∀ record, replay applyValid initial before = .ok record →
    record.phase = value TaskPhase.fixingReview →
    ∃ (task : TaskState) (args : TransitionArgs), value task.phase = record.phase
      ∧ some task.reviewLoopCount = record.counters.reviewLoopCount ∧ task.maxReviewLoops = maxReviewLoops
      ∧ decideNextTaskTransition task args = .ok d.toWorkflowDecision

/-- **The bound**: with the driver's decisions, no run has more passes than the limit before it asks for a
    rescope. A negative limit is read as zero. -/
def RepairsBounded (maxReviewLoops : Int) : Prop :=
  ∀ initial decisions final, StartsUncounted initial → replay applyValid initial decisions = .ok final →
    RepairsByDriver maxReviewLoops initial decisions →
    repairPasses (beforeRescope decisions) ≤ maxReviewLoops.toNat

theorem repairPasses_eq_zero {decisions : List ValidDecision} :
    repairPasses decisions = 0 ↔ ∀ d ∈ decisions, isRepairPass d.toWorkflowDecision = false := by
  simp only [repairPasses, List.countP_eq_zero, Bool.not_eq_true]

/-! ## No step counts -/

theorem applyValid_counters {state next : WorkflowStateRecord} {d : ValidDecision}
    (h : applyValid state d = .ok next) : next.counters = state.counters := by
  obtain ⟨-, rfl⟩ := applyValid_eq_ok.mp h
  rw [nextState_eq]

theorem replay_counters {initial final : WorkflowStateRecord} {decisions : List ValidDecision}
    (h : replay applyValid initial decisions = .ok final) : final.counters = initial.counters :=
  replay_unchanged (fun _ _ _ => applyValid_counters) h

/-- A run counts its passes exactly when it has none. -/
theorem passes_counted_iff {initial final : WorkflowStateRecord} {decisions : List ValidDecision}
    (hstart : StartsUncounted initial) (hrun : replay applyValid initial decisions = .ok final) :
    final.counters.reviewLoopCount = some (repairPasses decisions : Int)
      ↔ ∀ d ∈ decisions, isRepairPass d.toWorkflowDecision = false := by
  rw [replay_counters hrun, hstart.reviewLoopCount, ← repairPasses_eq_zero, Option.some.injEq]
  omega

/-! ## A limit that is reached at once -/

/-- The driver leaves `FIXING_REVIEW` for the next phase of the task. -/
theorem fixingReview_toPhase {task : TaskState} {args : TransitionArgs} {decision : WorkflowDecision}
    (hphase : task.phase = .fixingReview) (h : decideNextTaskTransition task args = .ok decision) :
    decision.toPhase = value (nextTaskPhase task) := by
  obtain ⟨result, hresult, hmove⟩ := decideNextTaskTransition_returned h
  cases hmove with
  | blockedNeedsWait hb hw => cases hresult
  | needsWait hb hw => cases hresult
  | blockedWait hb hsame hw =>
      obtain ⟨rfl, -⟩ := emit_eq_ok.mp hresult.symm
      rw [nextTaskPhase, hb]
      rfl
  | blocked hb hne =>
      obtain ⟨rfl, -⟩ := emit_eq_ok.mp hresult.symm
      rw [nextTaskPhase, hb]
      rfl
  | reviewBlocked hb hrequested => exact absurd (hphase.symm.trans hrequested) (by decide)
  | reviewWait hb hrequested hw => exact absurd (hphase.symm.trans hrequested) (by decide)
  | wait hb hsame hw =>
      obtain ⟨rfl, -⟩ := emit_eq_ok.mp hresult.symm
      rw [hsame]
      rfl
  | advance hb hne hsignal hplain hto =>
      obtain ⟨rfl, -⟩ := emit_eq_ok.mp hresult.symm
      rfl

/-- Once the count has reached the limit, the next phase is no further implementation. -/
theorem nextTaskPhase_limit {task : TaskState} (hphase : task.phase = .fixingReview)
    (hlimit : task.maxReviewLoops ≤ task.reviewLoopCount) : nextTaskPhase task ≠ .implementing := by
  unfold nextTaskPhase
  cases task.blocker with
  | some blocker =>
      simp only [taskBlockedPhaseFor]
      split_ifs <;> decide
  | none =>
      rw [hphase]
      simp [hlimit]

/-- A limit of zero passes is kept. -/
theorem repairsBounded_of_nonpos {maxReviewLoops : Int} (hmax : maxReviewLoops ≤ 0) :
    RepairsBounded maxReviewLoops := by
  intro initial decisions final hstart hrun hdriver
  have hnone : ∀ d ∈ decisions, isRepairPass d.toWorkflowDecision = false := by
    intro d hd
    obtain ⟨before, after, rfl⟩ := List.append_of_mem hd
    obtain ⟨record, next, hbefore, hstep, -⟩ := replay_middle.mp hrun
    rw [← Bool.not_eq_true]
    intro hpass
    simp only [isRepairPass, Bool.and_eq_true, beq_iff_eq] at hpass
    have hrecord : record.phase = value TaskPhase.fixingReview :=
      (applyDecision_phase hstep).symm.trans hpass.1
    obtain ⟨task, args, hphase, hcount, hlimit, hdecided⟩ := hdriver before d after rfl record hbefore hrecord
    have hfixing : task.phase = .fixingReview := value_inj.mp (hphase.trans hrecord)
    -- the driver is asked with the count the run started with, which has reached the limit
    rw [replay_counters hbefore, hstart.reviewLoopCount, Option.some.injEq] at hcount
    rw [fixingReview_toPhase hfixing hdecided, value_inj] at hpass
    exact nextTaskPhase_limit hfixing (by omega) hpass.2
  have hprefix : ∀ d ∈ beforeRescope decisions, isRepairPass d.toWorkflowDecision = false :=
    fun d hd => hnone d ((List.takeWhile_prefix _).subset hd)
  rw [repairPasses_eq_zero.mpr hprefix]
  exact Nat.zero_le _

/-! ## A limit that is never reached -/

/-- A decision that moves the example task on. -/
def exampleMove (fromPhase toPhase : TaskPhase) (signal : ProgressSignal) (hplain : IsPlainSignal signal)
    (hto : isBlockedPhase (value toPhase) = false) : ValidDecision where
  toWorkflowDecision :=
    advanceDecision ("T-1:" ++ value fromPhase ++ ":to:" ++ value toPhase) "T1" (value fromPhase) (value toPhase)
      (some signal) none
  valid := advanceDecision_valid hplain hto

/-- The pass that the driver decides in `FIXING_REVIEW`. -/
def exampleRepair : ValidDecision :=
  exampleMove .fixingReview .implementing .reviewFindingsAccepted (by decide) (by decide)

/-- The review wait of the example task. -/
def exampleReviewStarted : ValidDecision where
  toWorkflowDecision :=
    waitDecision "T-1:REVIEW_REQUESTED:wait" "T1" (value TaskPhase.reviewRequested) (value TaskPhase.reviewWait)
      exampleWait none
  valid := waitDecision_valid (by decide)

/-- Once around: implement, test, ask for a review, wait for it, accept its findings. -/
def repairLoop : List ValidDecision :=
  [exampleMove .implementing .testing .testEvidenceCreated (by decide) (by decide),
   exampleMove .testing .reviewRequested .reviewRequested (by decide) (by decide),
   exampleReviewStarted,
   exampleMove .reviewWait .fixingReview .reviewCompleted (by decide) (by decide),
   exampleRepair]

/-- Any number of times around. -/
def repairLoops (n : Nat) : List ValidDecision := (List.replicate n repairLoop).flatten

theorem mem_repairLoops {n : Nat} {d : ValidDecision} (h : d ∈ repairLoops n) : d ∈ repairLoop := by
  obtain ⟨l, hl, hd⟩ := List.mem_flatten.mp h
  rwa [List.eq_of_mem_replicate hl] at hd

/-- No time around asks for a rescope. -/
theorem beforeRescope_repairLoops (n : Nat) : beforeRescope (repairLoops n) = repairLoops n := by
  apply List.takeWhile_eq_self_iff.mpr
  intro d hd
  have hloop : ∀ d ∈ repairLoop, (d.toPhase != value TaskPhase.rescopeRequested) = true := by decide
  exact hloop d (mem_repairLoops hd)

/-- Each time around is one pass. -/
theorem repairPasses_repairLoops (n : Nat) : repairPasses (repairLoops n) = n := by
  have honce : repairLoop.countP (fun d => isRepairPass d.toWorkflowDecision) = 1 := by decide
  rw [repairPasses, repairLoops, List.countP_flatten, List.map_replicate, honce]
  simp

/-- Decisions that lead from one phase to another, each from where the one before it ended, and through no blocked
    phase. -/
def LeadsTo : String → List ValidDecision → String → Prop
  | phase, [], last => phase = last
  | phase, d :: ds, last => d.fromPhase = phase ∧ isBlockedPhase d.toPhase = false ∧ LeadsTo d.toPhase ds last

/-- Between phases that are not blocked nothing has to be resumed, so valid decisions are applied one after the
    other. -/
theorem replay_of_leadsTo {state : WorkflowStateRecord} {decisions : List ValidDecision} {last : String}
    (h : LeadsTo state.phase decisions last) (hunblocked : isBlockedPhase state.phase = false) :
    ∃ final, replay applyValid state decisions = .ok final ∧ final.phase = last := by
  induction decisions generalizing state with
  | nil => exact ⟨state, rfl, h⟩
  | cons d ds ih =>
      obtain ⟨hfrom, hto, hrest⟩ := h
      have haccepts : Accepts state d.toWorkflowDecision :=
        { fromPhase := hfrom
          blockedRecords := by simp [hto]
          resumeOption := by simp [leavingBlockedNonterminal, hunblocked]
          atMostOneActivity := d.valid.atMostOneActivity }
      have hnext : LeadsTo (nextState state d.toWorkflowDecision).phase ds last := by simpa using hrest
      obtain ⟨final, hfinal, hphase⟩ := ih hnext (by simpa using hto)
      exact ⟨final, replay_cons_ok.mpr ⟨_, applyValid_eq_ok.mpr ⟨haccepts, rfl⟩, hfinal⟩, hphase⟩

/-- A task in `IMPLEMENTING` can go around any number of times. -/
theorem replay_repairLoops (n : Nat) {state : WorkflowStateRecord}
    (hphase : state.phase = value TaskPhase.implementing) :
    ∃ final, replay applyValid state (repairLoops n) = .ok final := by
  induction n generalizing state with
  | zero => exact ⟨state, rfl⟩
  | succ n ih =>
      have hloop : LeadsTo state.phase repairLoop (value TaskPhase.implementing) :=
        ⟨hphase.symm, by decide, rfl, by decide, rfl, by decide, rfl, by decide, rfl, by decide, rfl⟩
      obtain ⟨next, honce, hnext⟩ := replay_of_leadsTo hloop (by rw [hphase]; decide)
      obtain ⟨final, hfinal⟩ := ih hnext
      exact ⟨final, replay_append.mpr ⟨next, honce, hfinal⟩⟩

/-- Each pass of the loops is the driver's for any positive limit, since the count it is asked with is zero. -/
theorem repairLoops_byDriver (n : Nat) {maxReviewLoops : Int} (hmax : 0 < maxReviewLoops)
    {initial final : WorkflowStateRecord} (hstart : StartsUncounted initial)
    (hrun : replay applyValid initial (repairLoops n) = .ok final) :
    RepairsByDriver maxReviewLoops initial (repairLoops n) := by
  intro before d after hsplit record hbefore hrecord
  have hfrom : d.fromPhase = value TaskPhase.fixingReview := by
    rw [hsplit] at hrun
    obtain ⟨other, next, hother, hstep, -⟩ := replay_middle.mp hrun
    obtain rfl := Except.ok.inj (hother.symm.trans hbefore)
    exact (applyDecision_phase hstep).trans hrecord
  -- the loop has one decision from this phase
  have hmem : d ∈ repairLoop := by
    refine mem_repairLoops (n := n) ?_
    rw [hsplit]
    exact List.mem_append_right _ List.mem_cons_self
  have hrepair : d = exampleRepair := by
    simp only [repairLoop, List.mem_cons, List.not_mem_nil, or_false] at hmem
    rcases hmem with rfl | rfl | rfl | rfl | hd
    · exact absurd hfrom (by decide)
    · exact absurd hfrom (by decide)
    · exact absurd hfrom (by decide)
    · exact absurd hfrom (by decide)
    · exact hd
  subst hrepair
  let task : TaskState := { id := "T-1", phase := .fixingReview, maxReviewLoops }
  have hnext : nextTaskPhase task = .implementing := if_neg (Int.not_le.mpr hmax)
  refine ⟨task, { decidedAt := "T1" }, hrecord.symm, ?_, rfl, ?_⟩
  · rw [replay_counters hbefore, hstart.reviewLoopCount]
  · have hsignal : taskTransitionSignals.lookup (task.phase, nextTaskPhase task)
        = some .reviewFindingsAccepted := by
      rw [hnext]
      rfl
    have hmoves : nextTaskPhase task ≠ task.phase := by
      rw [hnext]
      show TaskPhase.implementing ≠ TaskPhase.fixingReview
      decide
    have hto : isBlockedPhase (value (nextTaskPhase task)) = false := by
      rw [hnext]
      decide
    rw [decideNextTaskTransition_advance rfl hmoves hsignal (by decide) hto, hnext]
    rfl

/-- The example task, with nothing counted yet. -/
def exampleTaskRecord : WorkflowStateRecord :=
  { exampleRecord (value TaskPhase.implementing) none with
    driverKind := .softwareTask, counters := { reviewLoopCount := some 0 } }

theorem exampleTaskRecord_uncounted : StartsUncounted exampleTaskRecord := ⟨rfl, rfl⟩

/-- The loops are a run of the example task, and count nothing. -/
theorem exampleTaskRecord_repairLoops (n : Nat) : ∃ final,
    replay applyValid exampleTaskRecord (repairLoops n) = .ok final ∧ final.counters.reviewLoopCount = some 0 := by
  have hphase : exampleTaskRecord.phase = value TaskPhase.implementing := rfl
  obtain ⟨final, hrun⟩ := replay_repairLoops n hphase
  refine ⟨final, hrun, ?_⟩
  rw [replay_counters hrun, exampleTaskRecord_uncounted.reviewLoopCount]

/-- **No positive limit is kept**: one more pass than it allows is a run of the driver too. -/
theorem not_repairsBounded {maxReviewLoops : Int} (hmax : 0 < maxReviewLoops) : ¬RepairsBounded maxReviewLoops := by
  intro hbounded
  obtain ⟨final, hrun, -⟩ := exampleTaskRecord_repairLoops (maxReviewLoops.toNat + 1)
  have hbound := hbounded _ _ final exampleTaskRecord_uncounted hrun
    (repairLoops_byDriver _ hmax exampleTaskRecord_uncounted hrun)
  rw [beforeRescope_repairLoops, repairPasses_repairLoops] at hbound
  omega

/-! ## The repair loop -/

/-- **When the repair loop is counted and bounded.** A run from a record that has counted nothing ends with the
    number of its passes exactly when it has none. And a limit, with a negative one read as zero, bounds the passes of
    every run of the driver exactly when it is not positive. -/
theorem review_loop_counted_iff (maxReviewLoops : Int) :
    (∀ initial decisions final, StartsUncounted initial → replay applyValid initial decisions = .ok final →
      (final.counters.reviewLoopCount = some (repairPasses decisions : Int)
        ↔ ∀ d ∈ decisions, isRepairPass d.toWorkflowDecision = false))
    ∧ (RepairsBounded maxReviewLoops ↔ maxReviewLoops ≤ 0) := by
  refine ⟨fun _ _ _ => passes_counted_iff, ?_, repairsBounded_of_nonpos⟩
  intro hbounded
  by_contra hmax
  exact not_repairsBounded (Int.not_le.mp hmax) hbounded

/-- A task that has not come back from its review yet. -/
theorem review_loop_counted_iff_reviewed :
    (∃ final, replay applyValid exampleTaskRecord repairLoop.dropLast = .ok final
      ∧ final.counters.reviewLoopCount = some (repairPasses repairLoop.dropLast : Int))
    ∧ RepairsBounded 0 := by
  obtain ⟨hcounted, hbounded⟩ := review_loop_counted_iff 0
  have hpath : LeadsTo exampleTaskRecord.phase repairLoop.dropLast (value TaskPhase.fixingReview) :=
    ⟨rfl, by decide, rfl, by decide, rfl, by decide, rfl, by decide, rfl⟩
  obtain ⟨final, hrun, -⟩ := replay_of_leadsTo hpath (by decide)
  have hnone : ∀ d ∈ repairLoop.dropLast, isRepairPass d.toWorkflowDecision = false := by decide
  exact ⟨⟨final, hrun, (hcounted _ _ final exampleTaskRecord_uncounted hrun).mpr hnone⟩, hbounded.mpr le_rfl⟩

/-- Four times around with a limit of three: the driver decided each pass, and the count is still zero. -/
theorem review_loop_uncounted : ∃ final, StartsUncounted exampleTaskRecord
    ∧ replay applyValid exampleTaskRecord (repairLoops 4) = .ok final
    ∧ RepairsByDriver 3 exampleTaskRecord (repairLoops 4)
    ∧ final.counters.reviewLoopCount ≠ some (repairPasses (repairLoops 4) : Int)
    ∧ 3 < repairPasses (beforeRescope (repairLoops 4)) := by
  obtain ⟨final, hrun, hcount⟩ := exampleTaskRecord_repairLoops 4
  have hdriver := repairLoops_byDriver 4 (by decide : (0 : Int) < 3) exampleTaskRecord_uncounted hrun
  refine ⟨final, exampleTaskRecord_uncounted, hrun, hdriver, ?_, ?_⟩
  · rw [hcount, repairPasses_repairLoops]
    decide
  · rw [beforeRescope_repairLoops, repairPasses_repairLoops]
    decide

end WorkflowDrivers
