import WorkflowDrivers.Policies.GateSpec
import WorkflowDrivers.Workflows.Decisions

/-!
# `Workflows.ProjectDriver` — the software project driver

The driver is one function with many return paths. `ProjectMove` lists them, each with the conditions under
which it is taken; `decideNextProjectTransition_move` says that every call is one of them. The correctness
results go through this inversion and never unfold the driver.
-/

namespace WorkflowDrivers
open Lib StrEnum

/-! ## Translation -/

/-- `_blocked_phase_for`. -/
def projectBlockedPhaseFor (ownerRole : WorkflowRole) : ProjectIntakePhase :=
  if ownerRole = .humanApprover then .blockedNeedsZoEl else .blockedNeedsElLe

/-- `_blocker_for_review_trigger`. -/
def projectBlockerForReviewTrigger (verification : ReviewTriggerVerification)
    (blockedPhase : ProjectIntakePhase) : Blocker :=
  reviewTriggerBlocker verification (value blockedPhase) (value ProjectIntakePhase.reviewRequested)

/-- `PROJECT_TRANSITION_SIGNALS`. -/
def projectTransitionSignals : List ((ProjectIntakePhase × ProjectIntakePhase) × ProgressSignal) :=
  [((.projectIntakeAssigned, .planning), .projectAccepted),
   ((.planning, .planReview), .planCreated),
   ((.planReview, .taskBreakdown), .planApproved),
   ((.planRethink, .taskBreakdown), .planRevised),
   ((.taskBreakdown, .taskExecution), .tasksCreated),
   ((.taskExecution, .planRethink), .taskRescopeRequested),
   ((.taskExecution, .prOpen), .taskCompleted),
   ((.prOpen, .reviewRequested), .prCreated),
   ((.reviewRequested, .reviewWait), .waitTimerStarted),
   ((.finalReport, .done), .finalReportDelivered)]

/-- `DRIVER_AUTHORIZED_DECISION_PHASES`. -/
def driverAuthorizedDecisionPhases : List ProjectIntakePhase := [.taskExecution, .prOpen, .reviewRequested]

/-- `_driver_authorization_for_decision`. -/
def driverAuthorizationForDecision (driverAuthorization : Option DriverAuthorizationEvidence)
    (driverTestMode : Bool) (nextPhase : ProjectIntakePhase) : Option DriverAuthorizationEvidence :=
  if driverTestMode = false ∨ nextPhase ∉ driverAuthorizedDecisionPhases then none else driverAuthorization

/-- Pure phase transition sketch for the software project lifecycle. -/
def nextProjectPhase (state : ProjectState) : ProjectIntakePhase :=
  match state.blocker with
  | some blocker => projectBlockedPhaseFor blocker.ownerRole
  | none =>
      match state.phase with
      | .projectIntakeAssigned => .planning
      | .planning => .planReview
      | .planReview => .taskBreakdown
      | .planRethink => .taskBreakdown
      | .taskBreakdown => if state.tasks ≠ [] then .taskExecution else .taskBreakdown
      | .taskExecution =>
          if state.tasks.any (fun task => task.phase == .rescopeRequested) then .planRethink
          else if state.tasks.all (fun task => task.phase == .complete) then .prOpen
          else .taskExecution
      | .prOpen => if isTruthy state.prUrl then .reviewRequested else .prOpen
      | .reviewRequested => .reviewWait
      | .finalReport => .done
      | phase => phase

/-- The blocker of the DONE gate. -/
def doneGateBlocker (state : ProjectState) (failures : List String) : Blocker where
  reason := "V2 DONE gate blocked " ++ state.id ++ ": " ++ "; ".intercalate failures
  category := .humanAuthority
  owner := some .zoEl
  ownerRole := .humanApprover
  requiredDecision := "provide acceptance proof for the approved target or return to plan rethink"
  resumeTarget :=
    { blockedPhase := value state.phase
      resumePhaseIfUnblocked := value ProjectIntakePhase.finalReport
      resumeActivity := some "verify_original_intake_acceptance"
      decisionOptions :=
        [{ decision := "acceptance_proof_verified"
           resultingPhase := value ProjectIntakePhase.finalReport
           notes := "Retry DONE after criteria-by-criteria proof matches the approved target binding." },
         { decision := "acceptance_failed_plan_rethink_required"
           resultingPhase := value ProjectIntakePhase.planRethink
           notes := "Return to plan rethink if proof shows target drift or unmet original criteria." }] }

/-- The keyword arguments of the project driver. -/
structure ProjectTransitionArgs extends TransitionArgs where
  candidateTarget : Option TargetSurface := none
  driverAuthorization : Option DriverAuthorizationEvidence := none
  driverTestMode : Bool := false

section
variable [UnicodeData]

/-- Return the contract decision for the next deterministic project transition. -/
def decideNextProjectTransition (state : ProjectState) (args : ProjectTransitionArgs) :
    Except DriverError WorkflowDecision :=
  let nextPhase := nextProjectPhase state
  let progressSignal := projectTransitionSignals.lookup (state.phase, nextPhase)
  let fromPhase := value state.phase
  let toPhase := value nextPhase
  let decisionId (suffix : String) := orDefault args.decisionId (state.id ++ ":" ++ fromPhase ++ ":" ++ suffix)
  let gateCheck := checkProjectTransitionGate state nextPhase args.candidateTarget args.driverAuthorization
    args.driverTestMode
  -- the gate comes first, also for a project that carries a blocker
  if gateCheck.ok = false then
    match gateCheck.blocker with
    | none => .error .gateWithoutBlocker
    | some blocker =>
        emit (blockerDecision (decisionId "v2-transition-gate-blocked") args.decidedAt fromPhase
          (value (projectBlockedPhaseFor blocker.ownerRole)) blocker)
  else
    match state.blocker with
    | some blocker =>
        if nextPhase = state.phase then
          match args.waitToStart with
          | none =>
              .error (.requiresWait "already-blocked project transitions require a durable wait policy")
          | some wait =>
              emit (waitDecision (decisionId "blocked-wait") args.decidedAt fromPhase toPhase wait (some blocker))
        else emit (blockerDecision (decisionId "blocked") args.decidedAt fromPhase toPhase blocker)
    | none =>
        if nextPhase = .done then
          let acceptanceCheck := checkAcceptanceProof state
          if acceptanceCheck.ok = false then
            emit (blockerDecision (decisionId "done-gate-blocked") args.decidedAt fromPhase
              (value ProjectIntakePhase.blockedNeedsZoEl) (doneGateBlocker state acceptanceCheck.failures))
          else
            emit (doneDecision (decisionId "done") args.decidedAt fromPhase toPhase progressSignal
              acceptanceCheck.evidenceRefs)
        else if progressSignal = some .waitTimerStarted then
          match args.reviewTrigger.filter (fun trigger => !trigger.canWaitForReview) with
          | some trigger =>
              -- the blocker is given the next phase, where the gate's is given the source phase
              let blocker := projectBlockerForReviewTrigger trigger nextPhase
              emit (blockerDecision (decisionId "review-trigger-blocked") args.decidedAt fromPhase
                (value (projectBlockedPhaseFor blocker.ownerRole)) blocker)
          | none =>
              match args.waitToStart with
              | none => .error (.requiresWait "review wait transitions require wait_to_start")
              | some wait => emit (waitDecision (decisionId "wait") args.decidedAt fromPhase toPhase wait none)
        else if nextPhase = state.phase then
          match args.waitToStart with
          | none =>
              .error (.requiresWait "same-phase project transitions require a durable wait policy")
          | some wait => emit (waitDecision (decisionId "wait") args.decidedAt fromPhase toPhase wait none)
        else
          emit (advanceDecision (decisionId ("to:" ++ toPhase)) args.decidedAt fromPhase toPhase progressSignal
            (driverAuthorizationForDecision args.driverAuthorization args.driverTestMode nextPhase))

end

/-! ## Reading the tables -/

theorem value_projectBlockedPhaseFor (ownerRole : WorkflowRole) :
    value (projectBlockedPhaseFor ownerRole) = templateBlockedPhaseFor ownerRole := by
  unfold projectBlockedPhaseFor templateBlockedPhaseFor
  split <;> rfl

/-- The review wait is the only phase that is entered with a wait. -/
theorem projectTransitionSignals_regular :
    RegularTable projectTransitionSignals (.reviewRequested, .reviewWait) := by
  unfold RegularTable
  decide

/-- Without a blocker, every move to another phase has an entry. -/
theorem nextProjectPhase_entry {state : ProjectState} (hb : state.blocker = none)
    (hne : nextProjectPhase state ≠ state.phase) :
    (state.phase, nextProjectPhase state) ∈ projectTransitionSignals.map Prod.fst := by
  unfold nextProjectPhase at hne ⊢
  rw [hb] at hne ⊢
  cases hp : state.phase <;> simp only [hp] at hne ⊢
  case taskBreakdown | taskExecution | prOpen =>
    split_ifs at hne ⊢ <;> first | exact absurd rfl hne | decide
  all_goals first | exact absurd rfl hne | decide

/-- Only the final phases lead to DONE. -/
theorem nextProjectPhase_eq_done {state : ProjectState} (hb : state.blocker = none) :
    nextProjectPhase state = .done ↔ state.phase = .finalReport ∨ state.phase = .done := by
  unfold nextProjectPhase
  rw [hb]
  cases hp : state.phase <;> simp only [reduceCtorEq, or_self, or_true, true_or]
  case taskBreakdown | taskExecution | prOpen =>
    split_ifs <;> simp only

/-- The signal with which a phase leads to DONE is plain, if there is one. -/
theorem done_signal_plain : ∀ phase : ProjectIntakePhase,
    ∀ s ∈ projectTransitionSignals.lookup (phase, .done), IsPlainSignal s := by
  intro phase s hs
  obtain ⟨-, -, hplain | hentry⟩ := projectTransitionSignals_regular _ (mem_of_lookup_eq_some hs)
  · exact hplain
  · have hto : ProjectIntakePhase.done = .reviewWait := congrArg (fun entry => entry.1.2) hentry
    cases hto

/-! ## The return paths -/

section
variable [UnicodeData]

/-- The transition gate as the driver calls it. -/
def transitionGate (state : ProjectState) (args : ProjectTransitionArgs) : ProjectTransitionGateCheck :=
  checkProjectTransitionGate state (nextProjectPhase state) args.candidateTarget args.driverAuthorization
    args.driverTestMode

/-- What the driver returns when the gate does not pass: the gate's blocker, in the blocked phase of its owner. -/
theorem decideNextProjectTransition_gateBlocked {state : ProjectState} {args : ProjectTransitionArgs}
    {blocker : Blocker} (hgate : (transitionGate state args).ok = false)
    (hblocker : (transitionGate state args).blocker = some blocker) :
    ∃ decisionId, decideNextProjectTransition state args =
      .ok (blockerDecision decisionId args.decidedAt (value state.phase)
        (value (projectBlockedPhaseFor blocker.ownerRole)) blocker) := by
  rw [transitionGate] at hgate hblocker
  unfold decideNextProjectTransition
  simp only
  rw [if_pos hgate, hblocker]
  exact ⟨_, emit_of_valid (blockerDecision_valid blocker)⟩

/-- What the driver returns for a move to another phase that the gate lets through: the advance. -/
theorem decideNextProjectTransition_advance {state : ProjectState} {args : ProjectTransitionArgs}
    {signal : ProgressSignal} (hgate : (transitionGate state args).ok = true) (hb : state.blocker = none)
    (hdone : nextProjectPhase state ≠ .done) (hne : nextProjectPhase state ≠ state.phase)
    (hsignal : projectTransitionSignals.lookup (state.phase, nextProjectPhase state) = some signal)
    (hplain : IsPlainSignal signal) (hto : isBlockedPhase (value (nextProjectPhase state)) = false) :
    ∃ decisionId, decideNextProjectTransition state args =
      .ok (advanceDecision decisionId args.decidedAt (value state.phase) (value (nextProjectPhase state))
        (some signal) (driverAuthorizationForDecision args.driverAuthorization args.driverTestMode
          (nextProjectPhase state))) := by
  have hwait : signal ≠ .waitTimerStarted := by
    rintro rfl
    exact absurd hplain (by decide)
  rw [transitionGate] at hgate
  unfold decideNextProjectTransition
  simp only
  rw [if_neg (by simp [hgate]), hb, hsignal]
  simp only [Option.some.injEq]
  rw [if_neg hdone, if_neg hwait, if_neg hne]
  exact ⟨_, emit_of_valid (advanceDecision_valid hplain hto)⟩

/-- **The return paths of the project driver**, each with the conditions under which it is taken. -/
inductive ProjectMove (state : ProjectState) (args : ProjectTransitionArgs) :
    Except DriverError WorkflowDecision → Prop
  | gateBlocked {decisionId : String} {status : ProposalGateStatus} {failures : List String}
      (hgate : (transitionGate state args).ok = false) (hne : nextProjectPhase state ≠ state.phase) :
      ProjectMove state args (emit (blockerDecision decisionId args.decidedAt (value state.phase)
        (value (projectBlockedPhaseFor
          (blockerForTransitionGate state.id state.phase (nextProjectPhase state) status failures).ownerRole))
        (blockerForTransitionGate state.id state.phase (nextProjectPhase state) status failures)))
  | blockedNeedsWait {blocker : Blocker} {message : String} (hb : state.blocker = some blocker)
      (hw : args.waitToStart = none) : ProjectMove state args (.error (.requiresWait message))
  | blockedWait {decisionId : String} {blocker : Blocker} {wait : WaitPolicy}
      (hb : state.blocker = some blocker) (hsame : nextProjectPhase state = state.phase)
      (hw : args.waitToStart = some wait) :
      ProjectMove state args (emit (waitDecision decisionId args.decidedAt (value state.phase)
        (value (projectBlockedPhaseFor blocker.ownerRole)) wait (some blocker)))
  | blocked {decisionId : String} {blocker : Blocker}
      (hgate : (transitionGate state args).ok = true) (hb : state.blocker = some blocker)
      (hne : nextProjectPhase state ≠ state.phase) :
      ProjectMove state args (emit (blockerDecision decisionId args.decidedAt (value state.phase)
        (value (projectBlockedPhaseFor blocker.ownerRole)) blocker))
  | doneBlocked {decisionId : String} (hb : state.blocker = none) (hdone : nextProjectPhase state = .done)
      (hproof : (checkAcceptanceProof state).ok = false) :
      ProjectMove state args (emit (blockerDecision decisionId args.decidedAt (value state.phase)
        (value ProjectIntakePhase.blockedNeedsZoEl) (doneGateBlocker state (checkAcceptanceProof state).failures)))
  | done {decisionId : String} (hb : state.blocker = none) (hdone : nextProjectPhase state = .done)
      (hproof : (checkAcceptanceProof state).ok = true) :
      ProjectMove state args (emit (doneDecision decisionId args.decidedAt (value state.phase)
        (value ProjectIntakePhase.done)
        (projectTransitionSignals.lookup (state.phase, .done)) (checkAcceptanceProof state).evidenceRefs))
  | reviewBlocked {decisionId : String} {trigger : ReviewTriggerVerification} (hb : state.blocker = none)
      (hphase : state.phase = .reviewRequested) :
      ProjectMove state args (emit (blockerDecision decisionId args.decidedAt (value state.phase)
        (value (projectBlockedPhaseFor (projectBlockerForReviewTrigger trigger .reviewWait).ownerRole))
        (projectBlockerForReviewTrigger trigger .reviewWait)))
  | needsWait {message : String} (hb : state.blocker = none) (hdone : nextProjectPhase state ≠ .done)
      (hw : args.waitToStart = none) : ProjectMove state args (.error (.requiresWait message))
  | reviewWait {decisionId : String} {wait : WaitPolicy} (hb : state.blocker = none)
      (hphase : state.phase = .reviewRequested) (hw : args.waitToStart = some wait) :
      ProjectMove state args (emit (waitDecision decisionId args.decidedAt (value state.phase)
        (value ProjectIntakePhase.reviewWait) wait none))
  | wait {decisionId : String} {wait : WaitPolicy} (hb : state.blocker = none)
      (hdone : nextProjectPhase state ≠ .done) (hsame : nextProjectPhase state = state.phase)
      (hw : args.waitToStart = some wait) :
      ProjectMove state args (emit (waitDecision decisionId args.decidedAt (value state.phase)
        (value state.phase) wait none))
  | advance {decisionId : String} {signal : ProgressSignal}
      (hgate : (transitionGate state args).ok = true) (hb : state.blocker = none)
      (hdone : nextProjectPhase state ≠ .done) (hne : nextProjectPhase state ≠ state.phase)
      (hsignal : projectTransitionSignals.lookup (state.phase, nextProjectPhase state) = some signal)
      (hplain : IsPlainSignal signal) (hto : isBlockedPhase (value (nextProjectPhase state)) = false) :
      ProjectMove state args (emit (advanceDecision decisionId args.decidedAt (value state.phase)
        (value (nextProjectPhase state)) (some signal)
        (driverAuthorizationForDecision args.driverAuthorization args.driverTestMode (nextProjectPhase state))))

/-- **Inversion.** Every call of the driver takes one of the return paths. -/
theorem decideNextProjectTransition_move (state : ProjectState) (args : ProjectTransitionArgs) :
    ProjectMove state args (decideNextProjectTransition state args) := by
  unfold decideNextProjectTransition
  simp only
  cases hgate : (transitionGate state args).ok with
  | false =>
      obtain ⟨hne, status, failures, hblocker⟩ := checkProjectTransitionGate_blocker hgate
      rw [transitionGate] at hgate
      rw [hgate, if_pos rfl, hblocker]
      exact .gateBlocked hgate hne
  | true =>
      have hpass := hgate
      rw [transitionGate] at hpass
      rw [if_neg (by simp [hpass])]
      cases hb : state.blocker with
      | some blocker =>
          have hnext : nextProjectPhase state = projectBlockedPhaseFor blocker.ownerRole := by
            rw [nextProjectPhase, hb]
          simp only
          split_ifs with hsame
          · cases hw : args.waitToStart with
            | none => exact .blockedNeedsWait hb hw
            | some wait =>
                rw [hnext]
                exact .blockedWait hb hsame hw
          · rw [hnext]
            exact .blocked hgate hb hsame
      | none =>
          simp only
          split_ifs with hdone hproof hwait hsame
          · exact .doneBlocked hb hdone hproof
          · rw [hdone]
            exact .done hb hdone (Bool.eq_true_of_not_eq_false hproof)
          · -- the wait signal belongs to one edge of the table, the one into the review wait
            obtain ⟨hphase, hnext⟩ := Prod.mk.inj (projectTransitionSignals_regular.wait_edge hwait)
            rw [hnext]
            cases args.reviewTrigger.filter (fun trigger => !trigger.canWaitForReview) with
            | some trigger => exact .reviewBlocked hb hphase
            | none =>
                cases hw : args.waitToStart with
                | none => exact .needsWait hb hdone hw
                | some wait => exact .reviewWait hb hphase hw
          · cases hw : args.waitToStart with
            | none => exact .needsWait hb hdone hw
            | some wait =>
                rw [hsame]
                exact .wait hb hdone hsame hw
          · obtain ⟨hto, signal, hplain, hsignal⟩ :=
              projectTransitionSignals_regular.advance_signal (nextProjectPhase_entry hb hsame) hwait
            rw [hsignal]
            exact .advance hgate hb hdone hsame hsignal hplain hto

/-- The return path of a decision. The answer is kept as a variable, for the cases on the path. -/
theorem decideNextProjectTransition_returned {state : ProjectState} {args : ProjectTransitionArgs}
    {d : WorkflowDecision} (h : decideNextProjectTransition state args = .ok d) :
    ∃ result, .ok d = result ∧ ProjectMove state args result :=
  ⟨_, h.symm, decideNextProjectTransition_move state args⟩

end

end WorkflowDrivers
