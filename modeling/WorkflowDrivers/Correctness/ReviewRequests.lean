import WorkflowDrivers.Workflows.ReviewTriggers
import WorkflowDrivers.Correctness.BlockedWaits
import WorkflowDrivers.Correctness.ResumeTargets

/-!
# `Correctness.ReviewRequests` — asking for a review until it is picked up

A workflow in REVIEW_REQUESTED attempts to request its review. The attempt is verified, the driver decides on the
verification, and the engine applies the decision; when it blocks, somebody resolves the blocker by the option it
offers, and the next attempt follows. Both drivers decide alike here (`task_review`, `project_review`), so one
theorem tells for both how such a sequence of attempts ends.
-/

namespace WorkflowDrivers
open Lib StrEnum

/-! ## Attempts -/

/-- An attempt: what was seen, the driver's arguments, and how its blocker was resolved if it made one. -/
structure ReviewAttempt where
  seen : ReviewObservation
  decidedAt : String
  decisionId : Option String := none
  wait : WaitPolicy
  resolutionId : String
  resolvedAt : String

/-- The driver is given the verification and a wait to start. -/
def ReviewAttempt.args [CaseMapping] (attempt : ReviewAttempt) (targetReviewer prUrl : String) : TransitionArgs where
  decidedAt := attempt.decidedAt
  decisionId := attempt.decisionId
  waitToStart := some attempt.wait
  reviewTrigger := some (verifyReviewTrigger targetReviewer prUrl attempt.seen)

/-- Attempt after attempt, until one starts the review wait: the record that is left, and the blockers somebody was
    asked to resolve. -/
def requestReview [CaseMapping] (decide : TransitionArgs → Except DriverError WorkflowDecision)
    (targetReviewer prUrl : String) (record : WorkflowStateRecord) :
    List ReviewAttempt → Except (DriverError ⊕ ReplayError) (WorkflowStateRecord × List Blocker)
  | [] => .ok (record, [])
  | attempt :: rest =>
      match decide (attempt.args targetReviewer prUrl) with
      | .error e => .error (.inl e)
      | .ok d =>
          match applyDecision record d with
          | .error e => .error (.inr e)
          | .ok next =>
              match d.blockerToRecord with
              | none => .ok (next, [])
              | some blocker =>
                  match applyDecision next (resolveDecision attempt.resolutionId attempt.resolvedAt next.phase
                      blocker.resumeTarget.resumePhaseIfUnblocked) with
                  | .error e => .error (.inr e)
                  | .ok again =>
                      (requestReview decide targetReviewer prUrl again rest).map
                        (fun result => (result.1, blocker :: result.2))

section
variable [CaseMapping] {decide : TransitionArgs → Except DriverError WorkflowDecision} {targetReviewer prUrl : String}
  {record next : WorkflowStateRecord} {attempt : ReviewAttempt} {rest : List ReviewAttempt} {d : WorkflowDecision}

/-- A decision without a blocker ends the attempts. -/
theorem requestReview_waits (hdecide : decide (attempt.args targetReviewer prUrl) = .ok d)
    (happly : applyDecision record d = .ok next) (hnone : d.blockerToRecord = none) :
    requestReview decide targetReviewer prUrl record (attempt :: rest) = .ok (next, []) := by
  simp only [requestReview, hdecide, happly, hnone]

/-- After a blocker and its resolution the next attempt follows. -/
theorem requestReview_blocks {blocker : Blocker} {again final : WorkflowStateRecord} {asked : List Blocker}
    (hdecide : decide (attempt.args targetReviewer prUrl) = .ok d) (happly : applyDecision record d = .ok next)
    (hsome : d.blockerToRecord = some blocker)
    (hresolve : applyDecision next (resolveDecision attempt.resolutionId attempt.resolvedAt next.phase
      blocker.resumeTarget.resumePhaseIfUnblocked) = .ok again)
    (hrest : requestReview decide targetReviewer prUrl again rest = .ok (final, asked)) :
    requestReview decide targetReviewer prUrl record (attempt :: rest) = .ok (final, blocker :: asked) := by
  simp only [requestReview, hdecide, happly, hsome, hresolve, hrest]
  rfl

end

/-! ## The drivers in REVIEW_REQUESTED -/

/-- What either driver returns in REVIEW_REQUESTED without a blocker. -/
def reviewDecision (id : String) (args : TransitionArgs) : Except DriverError WorkflowDecision :=
  let decisionId (suffix : String) := orDefault args.decisionId (id ++ ":" ++ "REVIEW_REQUESTED" ++ ":" ++ suffix)
  match args.reviewTrigger.filter (fun trigger => !trigger.canWaitForReview) with
  | some trigger =>
      let blocker := reviewTriggerBlocker trigger "REVIEW_WAIT" "REVIEW_REQUESTED"
      emit (blockerDecision (decisionId "review-trigger-blocked") args.decidedAt "REVIEW_REQUESTED"
        (templateBlockedPhaseFor blocker.ownerRole) blocker)
  | none =>
      match args.waitToStart with
      | none => .error (.requiresWait "review wait transitions require wait_to_start")
      | some wait =>
          emit (waitDecision (decisionId "wait") args.decidedAt "REVIEW_REQUESTED" "REVIEW_WAIT" wait none)

theorem task_review {state : TaskState} (hphase : state.phase = .reviewRequested) (hb : state.blocker = none)
    (args : TransitionArgs) : decideNextTaskTransition state args = reviewDecision state.id args := by
  have hnext : nextTaskPhase state = .reviewWait := by
    rw [nextTaskPhase, hb, hphase]
  have hsignal : taskTransitionSignals.lookup (state.phase, nextTaskPhase state) = some .waitTimerStarted := by
    rw [hphase, hnext]
    rfl
  unfold decideNextTaskTransition reviewDecision
  simp only [hsignal, hb, if_true]
  rw [hphase, hnext]
  cases args.reviewTrigger.filter (fun trigger => !trigger.canWaitForReview) with
  | none => rfl
  | some trigger =>
      simp only [value_taskBlockedPhaseFor]
      rfl

theorem project_review [UnicodeData] {state : ProjectState} (hphase : state.phase = .reviewRequested)
    (hb : state.blocker = none) (args : ProjectTransitionArgs) :
    decideNextProjectTransition state args = reviewDecision state.id args.toTransitionArgs := by
  have hnext : nextProjectPhase state = .reviewWait := by
    rw [nextProjectPhase, hb, hphase]
  have hsignal : projectTransitionSignals.lookup (state.phase, nextProjectPhase state) = some .waitTimerStarted := by
    rw [hphase, hnext]
    rfl
  -- the gate has no say in the review wait
  have hgate : checkProjectTransitionGate state (nextProjectPhase state) args.candidateTarget
      args.driverAuthorization args.driverTestMode = { ok := true } := by
    rw [hnext]
    exact checkProjectTransitionGate_ungated (by decide) (by decide)
  have hdone : nextProjectPhase state ≠ .done := by
    rw [hnext]
    decide
  unfold decideNextProjectTransition reviewDecision
  simp only [hgate, hsignal, hb, hdone, if_true, if_false, Bool.true_eq_false]
  rw [hphase, hnext]
  cases args.reviewTrigger.filter (fun trigger => !trigger.canWaitForReview) with
  | none => rfl
  | some trigger =>
      simp only [value_projectBlockedPhaseFor]
      rfl

/-! ## One attempt -/

section
variable [CaseMapping] {targetReviewer : String} (prUrl id : String) {attempt : ReviewAttempt}
  {record : WorkflowStateRecord}

/-- An attempt that was picked up is waited on. -/
theorem reviewDecision_pickedUp (hpicked : attempt.seen.pickedUp targetReviewer = true) :
    ∃ decisionId, reviewDecision id (attempt.args targetReviewer prUrl)
      = .ok (waitDecision decisionId attempt.decidedAt "REVIEW_REQUESTED" "REVIEW_WAIT" attempt.wait none) := by
  have hready : (attempt.args targetReviewer prUrl).reviewTrigger.filter
      (fun trigger => !trigger.canWaitForReview) = none := by
    show Option.filter _ (some (verifyReviewTrigger targetReviewer prUrl attempt.seen)) = none
    rw [Option.filter_some, canWait_verifyReviewTrigger, hpicked]
    rfl
  unfold reviewDecision
  simp only [hready]
  have hopen : isBlockedPhase "REVIEW_WAIT" = false := by decide
  exact ⟨_, emit_of_valid (waitDecision_valid fun hblocked => absurd hblocked (by simp [hopen]))⟩

/-- The blocker of an attempt that was not picked up. -/
def ReviewAttempt.blocker (attempt : ReviewAttempt) (targetReviewer prUrl : String) : Blocker :=
  reviewTriggerBlocker (verifyReviewTrigger targetReviewer prUrl attempt.seen) "REVIEW_WAIT" "REVIEW_REQUESTED"

/-- An attempt that was not picked up is blocked. -/
theorem reviewDecision_blocked (hpicked : attempt.seen.pickedUp targetReviewer = false) :
    ∃ decisionId, reviewDecision id (attempt.args targetReviewer prUrl)
      = .ok (blockerDecision decisionId attempt.decidedAt "REVIEW_REQUESTED"
          (templateBlockedPhaseFor (attempt.blocker targetReviewer prUrl).ownerRole)
          (attempt.blocker targetReviewer prUrl)) := by
  have hnotReady : (attempt.args targetReviewer prUrl).reviewTrigger.filter
      (fun trigger => !trigger.canWaitForReview)
        = some (verifyReviewTrigger targetReviewer prUrl attempt.seen) := by
    show Option.filter _ (some (verifyReviewTrigger targetReviewer prUrl attempt.seen)) = _
    rw [Option.filter_some, canWait_verifyReviewTrigger, hpicked]
    rfl
  unfold reviewDecision
  simp only [hnotReady]
  exact ⟨_, emit_of_valid (blockerDecision_valid _)⟩

omit [CaseMapping] in
/-- The review wait starts from REVIEW_REQUESTED. -/
theorem applyDecision_reviewWait (hphase : record.phase = "REVIEW_REQUESTED") (decisionId decidedAt : String)
    (wait : WaitPolicy) :
    ∃ next, applyDecision record (waitDecision decisionId decidedAt "REVIEW_REQUESTED" "REVIEW_WAIT" wait none)
        = .ok next
      ∧ next.phase = "REVIEW_WAIT" ∧ next.wait = some wait ∧ next.terminal = record.terminal
      ∧ next.evidenceRefs = record.evidenceRefs := by
  refine ⟨_, applyDecision_eq_ok.mpr ⟨?_, rfl⟩, nextState_phase .., ?_, ?_, ?_⟩
  · have hopen : isBlockedPhase "REVIEW_WAIT" = false := by decide
    refine ⟨hphase.symm, fun hblocked => ?_, fun hleaving => ?_, Nat.zero_le 1⟩
    · exact absurd (hopen.symm.trans hblocked) Bool.false_ne_true
    · rw [leavingBlockedNonterminal, hphase] at hleaving
      cases hleaving
  · rw [nextState_wait]
    rfl
  · rw [nextState_terminal]
    rfl
  · rw [nextState_eq]
    exact List.append_nil _

omit [CaseMapping] in
/-- The blocker of a trigger is recorded, in the blocked phase of its owner. -/
theorem applyDecision_reviewBlocked (hphase : record.phase = "REVIEW_REQUESTED")
    (trigger : ReviewTriggerVerification) (decisionId decidedAt : String) :
    ∃ blocked, applyDecision record (blockerDecision decisionId decidedAt "REVIEW_REQUESTED"
          (templateBlockedPhaseFor (reviewTriggerBlocker trigger "REVIEW_WAIT" "REVIEW_REQUESTED").ownerRole)
          (reviewTriggerBlocker trigger "REVIEW_WAIT" "REVIEW_REQUESTED")) = .ok blocked
      ∧ isBlockedPhase blocked.phase = true
      ∧ blocked.blocker = some (reviewTriggerBlocker trigger "REVIEW_WAIT" "REVIEW_REQUESTED")
      ∧ blocked.terminal = record.terminal ∧ blocked.evidenceRefs = record.evidenceRefs := by
  refine ⟨_, applyDecision_eq_ok.mpr ⟨?_, rfl⟩, ?_, (nextState_of_blocker record rfl).1, ?_, ?_⟩
  · refine ⟨hphase.symm, fun _ => Option.some_ne_none _, fun hleaving => ?_, Nat.zero_le 1⟩
    rw [leavingBlockedNonterminal, hphase] at hleaving
    cases hleaving
  · rw [nextState_phase]
    exact isBlockedPhase_templateBlockedPhaseFor _
  · rw [nextState_terminal]
    rfl
  · rw [nextState_eq]
    exact List.append_nil _

omit [CaseMapping] in
/-- The option the blocker offers leads back to REVIEW_REQUESTED. -/
theorem applyDecision_reviewResolved {trigger : ReviewTriggerVerification}
    (hblocked : isBlockedPhase record.phase = true)
    (hheld : record.blocker = some (reviewTriggerBlocker trigger "REVIEW_WAIT" "REVIEW_REQUESTED"))
    (resolutionId resolvedAt : String) :
    ∃ again, applyDecision record (resolveDecision resolutionId resolvedAt record.phase "REVIEW_REQUESTED") = .ok again
      ∧ again.phase = "REVIEW_REQUESTED" ∧ again.terminal = record.terminal
      ∧ again.evidenceRefs = record.evidenceRefs := by
  have hopen : isBlockedPhase "REVIEW_REQUESTED" = false := by decide
  have hoption : ∃ again, applyDecision record
      (resolveDecision resolutionId resolvedAt record.phase "REVIEW_REQUESTED") = .ok again :=
    (applyDecision_resolve hblocked hopen hheld).mpr ⟨_, List.mem_singleton_self _, rfl⟩
  obtain ⟨again, hagain⟩ := hoption
  have heffect := (applyDecision_eq_ok.mp hagain).2
  refine ⟨again, hagain, ?_, ?_, ?_⟩
  · rw [heffect, nextState_phase]
    rfl
  · rw [heffect, nextState_terminal]
    rfl
  · rw [heffect, nextState_eq]
    exact List.append_nil _

end

/-! ## Attempt after attempt -/

/-- **How a sequence of attempts ends.** The review wait has begun exactly when some attempt was picked up, with the
    wait of the first such attempt; before that each attempt asked one blocker to be resolved, the human approver's
    where the reviewer cannot read the private repository and the process steward's elsewhere; nothing else changed. -/
structure ReviewOutcome [CaseMapping] (targetReviewer prUrl : String) (record : WorkflowStateRecord)
    (attempts : List ReviewAttempt) (final : WorkflowStateRecord) (asked : List Blocker) : Prop where
  waits : ∀ attempt ∈ attempts.find? (fun attempt => attempt.seen.pickedUp targetReviewer),
    final.phase = "REVIEW_WAIT" ∧ final.wait = some attempt.wait
  requests : attempts.find? (fun attempt => attempt.seen.pickedUp targetReviewer) = none →
    final.phase = "REVIEW_REQUESTED"
  owners : asked.map Blocker.ownerRole
    = (attempts.takeWhile (fun attempt => !attempt.seen.pickedUp targetReviewer)).map
        (fun attempt => attempt.seen.ownerRole)
  required : asked.map (fun blocker => some blocker.requiredDecision)
    = (attempts.takeWhile (fun attempt => !attempt.seen.pickedUp targetReviewer)).map
        (fun attempt => (verifyReviewTrigger targetReviewer prUrl attempt.seen).requiredDecision)
  terminal : final.terminal = record.terminal
  evidence : final.evidenceRefs = record.evidenceRefs

/-- **Run lemma**, by the attempts: the first one is waited on, or blocked and resolved. -/
theorem requestReview_outcome [CaseMapping] {decide : TransitionArgs → Except DriverError WorkflowDecision}
    {id : String} (hdecide : ∀ args, decide args = reviewDecision id args) (targetReviewer prUrl : String)
    (attempts : List ReviewAttempt) {record : WorkflowStateRecord} (hphase : record.phase = "REVIEW_REQUESTED") :
    ∃ final asked, requestReview decide targetReviewer prUrl record attempts = .ok (final, asked)
      ∧ ReviewOutcome targetReviewer prUrl record attempts final asked := by
  induction attempts generalizing record with
  | nil => exact ⟨record, [], rfl, ⟨fun _ h => absurd h (by simp), fun _ => hphase, rfl, rfl, rfl, rfl⟩⟩
  | cons attempt rest ih =>
      cases hpicked : attempt.seen.pickedUp targetReviewer with
      | true =>
          obtain ⟨decisionId, hdecided⟩ := reviewDecision_pickedUp prUrl id hpicked
          obtain ⟨next, happly, hwait, hpolicy, hterminal, hevidence⟩ :=
            applyDecision_reviewWait hphase decisionId attempt.decidedAt attempt.wait
          refine ⟨next, [], ?_, ?_⟩
          · exact requestReview_waits ((hdecide _).trans hdecided) happly rfl
          · have hfind : (attempt :: rest).find? (fun attempt => attempt.seen.pickedUp targetReviewer)
                = some attempt := List.find?_cons_of_pos hpicked
            have hnone : (attempt :: rest).takeWhile (fun attempt => !attempt.seen.pickedUp targetReviewer) = [] :=
              List.takeWhile_cons_of_neg (by simp [hpicked])
            refine ⟨?_, fun h => ?_, by rw [hnone]; rfl, by rw [hnone]; rfl, hterminal, hevidence⟩
            · intro first hfirst
              obtain rfl := Option.some.inj (hfind.symm.trans hfirst)
              exact ⟨hwait, hpolicy⟩
            · rw [hfind] at h
              cases h
      | false =>
          obtain ⟨decisionId, hdecided⟩ := reviewDecision_blocked prUrl id hpicked
          obtain ⟨blocked, happly, hblocked, hheld, hterminal, hevidence⟩ := applyDecision_reviewBlocked hphase
            (verifyReviewTrigger targetReviewer prUrl attempt.seen) decisionId attempt.decidedAt
          obtain ⟨again, hresolve, hagain, hterminal', hevidence'⟩ :=
            applyDecision_reviewResolved hblocked hheld attempt.resolutionId attempt.resolvedAt
          obtain ⟨final, asked, hrest, houtcome⟩ := ih hagain
          refine ⟨final, attempt.blocker targetReviewer prUrl :: asked, ?_, ?_⟩
          · exact requestReview_blocks ((hdecide _).trans hdecided) happly rfl hresolve hrest
          · have hfind : (attempt :: rest).find? (fun attempt => attempt.seen.pickedUp targetReviewer)
                = rest.find? (fun attempt => attempt.seen.pickedUp targetReviewer) :=
              List.find?_cons_of_neg (by simp [hpicked])
            have htake : (attempt :: rest).takeWhile (fun attempt => !attempt.seen.pickedUp targetReviewer)
                = attempt :: rest.takeWhile (fun attempt => !attempt.seen.pickedUp targetReviewer) :=
              List.takeWhile_cons_of_pos (by simp [hpicked])
            obtain ⟨howner, hrequired⟩ := reviewTriggerBlocker_verify prUrl hpicked "REVIEW_WAIT" "REVIEW_REQUESTED"
            refine ⟨by rw [hfind]; exact houtcome.waits, by rw [hfind]; exact houtcome.requests, ?_, ?_,
              houtcome.terminal.trans (hterminal'.trans hterminal),
              houtcome.evidence.trans (hevidence'.trans hevidence)⟩
            · rw [htake, List.map_cons, List.map_cons, houtcome.owners]
              exact congrArg (· :: _) howner
            · rw [htake, List.map_cons, List.map_cons, houtcome.required]
              exact congrArg (· :: _) hrequired.symm

/-- **Asking for a review.** From REVIEW_REQUESTED, whatever was seen in a sequence of attempts and whatever evidence
    and arguments else the drivers are given, both the task driver and the project driver get to the end of it, with
    the same outcome. -/
theorem review_requests_end [UnicodeData] [CaseMapping] (targetReviewer prUrl : String)
    (attempts : List ReviewAttempt) (record : WorkflowStateRecord) (hphase : record.phase = "REVIEW_REQUESTED") :
    (∀ state : TaskState, state.phase = .reviewRequested → state.blocker = none →
      ∃ final asked, requestReview (decideNextTaskTransition state) targetReviewer prUrl record attempts
          = .ok (final, asked)
        ∧ ReviewOutcome targetReviewer prUrl record attempts final asked)
    ∧ (∀ (state : ProjectState) (rest : ProjectTransitionArgs), state.phase = .reviewRequested →
        state.blocker = none →
      ∃ final asked, requestReview
            (fun args => decideNextProjectTransition state { rest with toTransitionArgs := args })
            targetReviewer prUrl record attempts = .ok (final, asked)
        ∧ ReviewOutcome targetReviewer prUrl record attempts final asked) := by
  constructor
  · intro state hstate hb
    exact requestReview_outcome (task_review hstate hb) targetReviewer prUrl attempts hphase
  · intro state rest hstate hb
    exact requestReview_outcome (fun args => project_review hstate hb { rest with toTransitionArgs := args })
      targetReviewer prUrl attempts hphase

/-- A private repository first, a tag in a comment second, a formal request at last. -/
def exampleAttempts : List ReviewAttempt :=
  [{ seen := { repoVisibility := some "private", reviewerPermission := some "NONE" }
     decidedAt := "T1", wait := exampleWait, resolutionId := "r1", resolvedAt := "T2" },
   { seen := { repoVisibility := some "public", tagCommentUrl := some "comment-1" }
     decidedAt := "T3", wait := exampleWait, resolutionId := "r2", resolvedAt := "T4" },
   { seen := { reviewRequests := ["el-micaiah"] }
     decidedAt := "T5", wait := exampleWait, resolutionId := "r3", resolvedAt := "T6" }]

theorem review_requests_end_thirdAttempt : ∃ final asked,
    @requestReview asciiCase (decideNextTaskTransition { id := "T-1", phase := .reviewRequested })
        "el-micaiah" "pr-1" (exampleRecord "REVIEW_REQUESTED" none) exampleAttempts = .ok (final, asked)
      ∧ final.phase = "REVIEW_WAIT" ∧ asked.map Blocker.ownerRole = [.humanApprover, .processSteward] := by
  obtain ⟨final, asked, hrun, ⟨hwaits, -, howners, -, -, -⟩⟩ :=
    (@review_requests_end asciiOnly asciiCase "el-micaiah" "pr-1" exampleAttempts
      (exampleRecord "REVIEW_REQUESTED" none) rfl).1 { id := "T-1", phase := .reviewRequested } rfl rfl
  refine ⟨final, asked, hrun, (hwaits _ rfl).1, howners.trans ?_⟩
  decide +kernel

end WorkflowDrivers
