import WorkflowDrivers.Workflows.Decisions

/-!
# `Workflows.ReviewTriggers` — what a review request attempt has produced

A formal review request or an actual review is a durable trigger. Without one, a private repository the reviewer
cannot read is a matter of the human approver, and everything else is a notification only.
-/

namespace WorkflowDrivers
open Lib

/-- What an adapter sees after it attempted to request a review. -/
structure ReviewObservation where
  repoVisibility : Option String := none
  reviewerPermission : Option String := none
  reviewRequests : List String := []
  latestReviewers : List String := []
  tagCommentUrl : Option String := none

section
variable [CaseMapping] (targetReviewer prUrl : String) (seen : ReviewObservation)

/-- `has_access`: the permission says something other than none. -/
def ReviewObservation.hasAccess : Bool :=
  let normalizedPermission := CaseMapping.lower (seen.reviewerPermission.getD "")
  not (["", "none"].contains normalizedPermission)

/-- A private repository that the reviewer cannot read. -/
def ReviewObservation.isPrivate : Bool := CaseMapping.upper (seen.repoVisibility.getD "") == "PRIVATE"

/-- A formal request or an actual review. -/
def ReviewObservation.pickedUp : Bool :=
  seen.reviewRequests.contains targetReviewer || seen.latestReviewers.contains targetReviewer

/-- The fields every verification copies from its arguments. -/
def ReviewObservation.verification (state : ReviewTriggerState) (resumeCondition : String)
    (requiredDecision : Option String) : ReviewTriggerVerification where
  targetReviewer
  prUrl
  repoVisibility := seen.repoVisibility
  reviewerPermission := seen.reviewerPermission
  reviewRequests := seen.reviewRequests
  latestReviewers := seen.latestReviewers
  tagCommentUrl := seen.tagCommentUrl
  state
  resumeCondition
  requiredDecision

/-- Classify whether a review request produced a durable trigger. -/
def verifyReviewTrigger : ReviewTriggerVerification :=
  if seen.pickedUp targetReviewer then
    seen.verification targetReviewer prUrl .ready
      ("reviewRequests includes " ++ targetReviewer ++ " or latestReviews contains " ++ targetReviewer) none
  else if seen.isPrivate && !seen.hasAccess then
    seen.verification targetReviewer prUrl .blockedReviewerAccess
      (targetReviewer ++ " permission becomes non-none, repo visibility changes, "
        ++ "or another accessible reviewer is selected")
      (some ("Grant " ++ targetReviewer ++ " repo access, change repo visibility, "
        ++ "or choose a reviewer with access."))
  else
    seen.verification targetReviewer prUrl .weakNotificationOnly
      ("formal review request for " ++ targetReviewer ++ ", latest review by " ++ targetReviewer ++ ", "
        ++ "or explicit process-steward reviewer reroute")
      (some ("Convert tag/comment notification into a formal review request or choose a verified review route."))

omit [CaseMapping] in
theorem append_ne_empty {text suffix : String} (h : suffix ≠ "") : text ++ suffix ≠ "" := by
  intro hempty
  have hchars := congrArg String.toList hempty
  rw [String.toList_append] at hchars
  exact h (String.toList_injective (List.append_eq_nil_iff.mp hchars).2)

omit [CaseMapping] in
/-- A blocker asks for what its trigger requires, unless that is nothing. -/
theorem reviewTriggerBlocker_requires {trigger : ReviewTriggerVerification} {text : String}
    (hrequires : trigger.requiredDecision = some text) (htext : text ≠ "") (blockedPhase reviewRequested : String) :
    (reviewTriggerBlocker trigger blockedPhase reviewRequested).requiredDecision = text := by
  show orDefault trigger.requiredDecision trigger.resumeCondition = text
  rw [hrequires]
  exact if_neg htext

/-- A trigger may be waited on exactly when the review was picked up. -/
theorem canWait_verifyReviewTrigger :
    (verifyReviewTrigger targetReviewer prUrl seen).canWaitForReview = seen.pickedUp targetReviewer := by
  unfold verifyReviewTrigger
  split_ifs with hpicked haccess
  · rw [hpicked]
    rfl
  · rw [Bool.eq_false_iff.mpr hpicked]
    rfl
  · rw [Bool.eq_false_iff.mpr hpicked]
    rfl

/-- The role that has to act on a trigger that is not ready. -/
def ReviewObservation.ownerRole : WorkflowRole :=
  if seen.isPrivate && !seen.hasAccess then .humanApprover else .processSteward

variable {targetReviewer seen}

/-- A trigger that is not ready makes a blocker of the role that has to act, and it is asked for what the
    verification requires. -/
theorem reviewTriggerBlocker_verify (hpicked : seen.pickedUp targetReviewer = false)
    (blockedPhase reviewRequested : String) :
    (reviewTriggerBlocker (verifyReviewTrigger targetReviewer prUrl seen) blockedPhase reviewRequested).ownerRole
        = seen.ownerRole
      ∧ (verifyReviewTrigger targetReviewer prUrl seen).requiredDecision
        = some (reviewTriggerBlocker (verifyReviewTrigger targetReviewer prUrl seen) blockedPhase
            reviewRequested).requiredDecision := by
  unfold verifyReviewTrigger ReviewObservation.ownerRole
  rw [if_neg (by simp [hpicked])]
  split_ifs with haccess
  · refine ⟨rfl, ?_⟩
    rw [reviewTriggerBlocker_requires rfl (append_ne_empty (by simp))]
    rfl
  · exact ⟨rfl, rfl⟩

end

end WorkflowDrivers
