import WorkflowDrivers.Workflows.Decisions

/-!
# `Workflows.TaskDriver` — the software task driver

The task driver has the project driver's shape without its gates. `TaskMove` lists its return paths.
-/

namespace WorkflowDrivers
open Lib StrEnum

/-! ## Translation -/

/-- `_blocked_phase_for`. -/
def taskBlockedPhaseFor (ownerRole : WorkflowRole) : TaskPhase :=
  if ownerRole = .humanApprover then .blockedNeedsZoEl else .blockedNeedsElLe

/-- `_blocker_for_review_trigger`. -/
def taskBlockerForReviewTrigger (verification : ReviewTriggerVerification) (blockedPhase : TaskPhase) :
    Blocker :=
  reviewTriggerBlocker verification (value blockedPhase) (value TaskPhase.reviewRequested)

/-- `TASK_TRANSITION_SIGNALS`. -/
def taskTransitionSignals : List ((TaskPhase × TaskPhase) × ProgressSignal) :=
  [((.taskAssigned, .claimed), .taskStarted),
   ((.claimed, .inspecting), .taskStarted),
   ((.inspecting, .implementing), .taskStarted),
   ((.implementing, .testing), .testEvidenceCreated),
   ((.testing, .reviewRequested), .reviewRequested),
   ((.reviewRequested, .reviewWait), .waitTimerStarted),
   ((.fixingReview, .implementing), .reviewFindingsAccepted),
   ((.fixingReview, .rescopeRequested), .taskRescopeRequested)]

/-- Pure phase transition sketch for one bounded software task. -/
def nextTaskPhase (state : TaskState) : TaskPhase :=
  match state.blocker with
  | some blocker => taskBlockedPhaseFor blocker.ownerRole
  | none =>
      match state.phase with
      | .fixingReview =>
          if state.maxReviewLoops ≤ state.reviewLoopCount then .rescopeRequested else .implementing
      | .taskAssigned => .claimed
      | .claimed => .inspecting
      | .inspecting => .implementing
      | .implementing => .testing
      | .testing => .reviewRequested
      | .reviewRequested => .reviewWait
      | phase => phase

/-- Return the contract decision for the next deterministic task transition. -/
def decideNextTaskTransition (state : TaskState) (args : TransitionArgs) : Except DriverError WorkflowDecision :=
  let nextPhase := nextTaskPhase state
  let progressSignal := taskTransitionSignals.lookup (state.phase, nextPhase)
  let fromPhase := value state.phase
  let toPhase := value nextPhase
  let decisionId (suffix : String) := orDefault args.decisionId (state.id ++ ":" ++ fromPhase ++ ":" ++ suffix)
  match state.blocker with
  | some blocker =>
      if nextPhase = state.phase then
        match args.waitToStart with
        | none => .error (.requiresWait "already-blocked task transitions require a durable wait policy")
        | some wait =>
            emit (waitDecision (decisionId "blocked-wait") args.decidedAt fromPhase toPhase wait (some blocker))
      else emit (blockerDecision (decisionId "blocked") args.decidedAt fromPhase toPhase blocker)
  | none =>
      if progressSignal = some .waitTimerStarted then
        match args.reviewTrigger.filter (fun trigger => !trigger.canWaitForReview) with
        | some trigger =>
            -- as in the project driver, the blocker is given the next phase
            let blocker := taskBlockerForReviewTrigger trigger nextPhase
            emit (blockerDecision (decisionId "review-trigger-blocked") args.decidedAt fromPhase
              (value (taskBlockedPhaseFor blocker.ownerRole)) blocker)
        | none =>
            match args.waitToStart with
            | none => .error (.requiresWait "review wait transitions require wait_to_start")
            | some wait => emit (waitDecision (decisionId "wait") args.decidedAt fromPhase toPhase wait none)
      else if nextPhase = state.phase then
        match args.waitToStart with
        | none => .error (.requiresWait "same-phase task transitions require a durable wait policy")
        | some wait => emit (waitDecision (decisionId "wait") args.decidedAt fromPhase toPhase wait none)
      else
        emit (advanceDecision (decisionId ("to:" ++ toPhase)) args.decidedAt fromPhase toPhase progressSignal none)

/-! ## Reading the tables -/

theorem value_taskBlockedPhaseFor (ownerRole : WorkflowRole) :
    value (taskBlockedPhaseFor ownerRole) = templateBlockedPhaseFor ownerRole := by
  unfold taskBlockedPhaseFor templateBlockedPhaseFor
  split <;> rfl

/-- The review wait is the only phase that is entered with a wait. -/
theorem taskTransitionSignals_regular :
    RegularTable taskTransitionSignals (.reviewRequested, .reviewWait) := by
  unfold RegularTable
  decide

/-- Without a blocker, every move to another phase has an entry. -/
theorem nextTaskPhase_entry {state : TaskState} (hb : state.blocker = none)
    (hne : nextTaskPhase state ≠ state.phase) :
    (state.phase, nextTaskPhase state) ∈ taskTransitionSignals.map Prod.fst := by
  unfold nextTaskPhase at hne ⊢
  rw [hb] at hne ⊢
  cases hp : state.phase <;> simp only [hp] at hne ⊢
  case fixingReview => split_ifs <;> decide
  all_goals first | exact absurd rfl hne | decide

/-- What the driver returns for a move to another phase: the advance. -/
theorem decideNextTaskTransition_advance {state : TaskState} {args : TransitionArgs} {signal : ProgressSignal}
    (hb : state.blocker = none) (hne : nextTaskPhase state ≠ state.phase)
    (hsignal : taskTransitionSignals.lookup (state.phase, nextTaskPhase state) = some signal)
    (hplain : IsPlainSignal signal) (hto : isBlockedPhase (value (nextTaskPhase state)) = false) :
    decideNextTaskTransition state args =
      .ok (advanceDecision
        (orDefault args.decisionId
          (state.id ++ ":" ++ value state.phase ++ ":" ++ ("to:" ++ value (nextTaskPhase state))))
        args.decidedAt (value state.phase) (value (nextTaskPhase state)) (some signal) none) := by
  have hwait : signal ≠ .waitTimerStarted := by
    rintro rfl
    exact absurd hplain (by decide)
  unfold decideNextTaskTransition
  simp only
  rw [hb, hsignal]
  simp only [Option.some.injEq]
  rw [if_neg hwait, if_neg hne]
  exact emit_of_valid (advanceDecision_valid hplain hto)

/-! ## The return paths -/

/-- **The return paths of the task driver**, each with the conditions under which it is taken. -/
inductive TaskMove (state : TaskState) (args : TransitionArgs) : Except DriverError WorkflowDecision → Prop
  | blockedNeedsWait {blocker : Blocker} {message : String} (hb : state.blocker = some blocker)
      (hw : args.waitToStart = none) : TaskMove state args (.error (.requiresWait message))
  | blockedWait {decisionId : String} {blocker : Blocker} {wait : WaitPolicy}
      (hb : state.blocker = some blocker) (hsame : nextTaskPhase state = state.phase)
      (hw : args.waitToStart = some wait) :
      TaskMove state args (emit (waitDecision decisionId args.decidedAt (value state.phase)
        (value (taskBlockedPhaseFor blocker.ownerRole)) wait (some blocker)))
  | blocked {decisionId : String} {blocker : Blocker} (hb : state.blocker = some blocker)
      (hne : nextTaskPhase state ≠ state.phase) :
      TaskMove state args (emit (blockerDecision decisionId args.decidedAt (value state.phase)
        (value (taskBlockedPhaseFor blocker.ownerRole)) blocker))
  | reviewBlocked {decisionId : String} {trigger : ReviewTriggerVerification} (hb : state.blocker = none)
      (hphase : state.phase = .reviewRequested) :
      TaskMove state args (emit (blockerDecision decisionId args.decidedAt (value state.phase)
        (value (taskBlockedPhaseFor (taskBlockerForReviewTrigger trigger .reviewWait).ownerRole))
        (taskBlockerForReviewTrigger trigger .reviewWait)))
  | needsWait {message : String} (hb : state.blocker = none) (hw : args.waitToStart = none) :
      TaskMove state args (.error (.requiresWait message))
  | reviewWait {decisionId : String} {wait : WaitPolicy} (hb : state.blocker = none)
      (hphase : state.phase = .reviewRequested) (hw : args.waitToStart = some wait) :
      TaskMove state args (emit (waitDecision decisionId args.decidedAt (value state.phase)
        (value TaskPhase.reviewWait) wait none))
  | wait {decisionId : String} {wait : WaitPolicy} (hb : state.blocker = none)
      (hsame : nextTaskPhase state = state.phase) (hw : args.waitToStart = some wait) :
      TaskMove state args (emit (waitDecision decisionId args.decidedAt (value state.phase)
        (value state.phase) wait none))
  | advance {decisionId : String} {signal : ProgressSignal} (hb : state.blocker = none)
      (hne : nextTaskPhase state ≠ state.phase)
      (hsignal : taskTransitionSignals.lookup (state.phase, nextTaskPhase state) = some signal)
      (hplain : IsPlainSignal signal) (hto : isBlockedPhase (value (nextTaskPhase state)) = false) :
      TaskMove state args (emit (advanceDecision decisionId args.decidedAt (value state.phase)
        (value (nextTaskPhase state)) (some signal) none))

/-- **Inversion.** Every call of the driver takes one of the return paths. -/
theorem decideNextTaskTransition_move (state : TaskState) (args : TransitionArgs) :
    TaskMove state args (decideNextTaskTransition state args) := by
  unfold decideNextTaskTransition
  simp only
  cases hb : state.blocker with
  | some blocker =>
      have hnext : nextTaskPhase state = taskBlockedPhaseFor blocker.ownerRole := by rw [nextTaskPhase, hb]
      simp only
      split_ifs with hsame
      · cases hw : args.waitToStart with
        | none => exact .blockedNeedsWait hb hw
        | some wait =>
            rw [hnext]
            exact .blockedWait hb hsame hw
      · rw [hnext]
        exact .blocked hb hsame
  | none =>
      simp only
      split_ifs with hwait hsame
      · obtain ⟨hphase, hnext⟩ := Prod.mk.inj (taskTransitionSignals_regular.wait_edge hwait)
        rw [hnext]
        cases args.reviewTrigger.filter (fun trigger => !trigger.canWaitForReview) with
        | some trigger => exact .reviewBlocked hb hphase
        | none =>
            cases hw : args.waitToStart with
            | none => exact .needsWait hb hw
            | some wait => exact .reviewWait hb hphase hw
      · cases hw : args.waitToStart with
        | none => exact .needsWait hb hw
        | some wait =>
            rw [hsame]
            exact .wait hb hsame hw
      · obtain ⟨hto, signal, hplain, hsignal⟩ :=
          taskTransitionSignals_regular.advance_signal (nextTaskPhase_entry hb hsame) hwait
        rw [hsignal]
        exact .advance hb hsame hsignal hplain hto

/-- The return path of a decision, as for the project driver. -/
theorem decideNextTaskTransition_returned {state : TaskState} {args : TransitionArgs} {d : WorkflowDecision}
    (h : decideNextTaskTransition state args = .ok d) : ∃ result, .ok d = result ∧ TaskMove state args result :=
  ⟨_, h.symm, decideNextTaskTransition_move state args⟩

end WorkflowDrivers
