import WorkflowDrivers.Lib.StrEnum

/-!
# `Models.Enums` — the string enumerations of `models.py` and `review_triggers.py`

Every enumeration of the contract is persisted and compared by its string, so each is an inductive type
with a `StrEnum` instance. Constructor names are the source's member names in camel case; the strings are
the source's own.
-/

namespace WorkflowDrivers
open Lib

inductive ProjectIntakePhase
  | projectIntakeAssigned | planning | planReview | planRethink | taskBreakdown | taskExecution | prOpen
  | reviewRequested | reviewWait | fixingReview | proofAuthWait | proofRunning | proofRepair
  | feedbackReady | feedbackWait | dogfoodGate | mergeGate | finalReport | done
  | blockedNeedsElLe | blockedNeedsZoEl
  deriving DecidableEq, Repr

instance : StrEnum ProjectIntakePhase where
  members :=
    [.projectIntakeAssigned, .planning, .planReview, .planRethink, .taskBreakdown, .taskExecution,
     .prOpen, .reviewRequested, .reviewWait, .fixingReview, .proofAuthWait, .proofRunning, .proofRepair,
     .feedbackReady, .feedbackWait, .dogfoodGate, .mergeGate, .finalReport, .done,
     .blockedNeedsElLe, .blockedNeedsZoEl]
  value
    | .projectIntakeAssigned => "PROJECT_INTAKE_ASSIGNED"
    | .planning => "PLANNING"
    | .planReview => "PLAN_REVIEW"
    | .planRethink => "PLAN_RETHINK"
    | .taskBreakdown => "TASK_BREAKDOWN"
    | .taskExecution => "TASK_EXECUTION"
    | .prOpen => "PR_OPEN"
    | .reviewRequested => "REVIEW_REQUESTED"
    | .reviewWait => "REVIEW_WAIT"
    | .fixingReview => "FIXING_REVIEW"
    | .proofAuthWait => "PROOF_AUTH_WAIT"
    | .proofRunning => "PROOF_RUNNING"
    | .proofRepair => "PROOF_REPAIR"
    | .feedbackReady => "FEEDBACK_READY"
    | .feedbackWait => "FEEDBACK_WAIT"
    | .dogfoodGate => "DOGFOOD_GATE"
    | .mergeGate => "MERGE_GATE"
    | .finalReport => "FINAL_REPORT"
    | .done => "DONE"
    | .blockedNeedsElLe => "BLOCKED_NEEDS_EL_LE"
    | .blockedNeedsZoEl => "BLOCKED_NEEDS_ZO_EL"
  find_value a := by cases a <;> decide

inductive TaskPhase
  | taskAssigned | inspecting | claimed | implementing | testing | reviewRequested | reviewWait
  | fixingReview | rescopeRequested | complete | blockedNeedsElLe | blockedNeedsZoEl
  deriving DecidableEq, Repr

instance : StrEnum TaskPhase where
  members :=
    [.taskAssigned, .inspecting, .claimed, .implementing, .testing, .reviewRequested, .reviewWait,
     .fixingReview, .rescopeRequested, .complete, .blockedNeedsElLe, .blockedNeedsZoEl]
  value
    | .taskAssigned => "TASK_ASSIGNED"
    | .inspecting => "INSPECTING"
    | .claimed => "CLAIMED"
    | .implementing => "IMPLEMENTING"
    | .testing => "TESTING"
    | .reviewRequested => "REVIEW_REQUESTED"
    | .reviewWait => "REVIEW_WAIT"
    | .fixingReview => "FIXING_REVIEW"
    | .rescopeRequested => "RESCOPE_REQUESTED"
    | .complete => "COMPLETE"
    | .blockedNeedsElLe => "BLOCKED_NEEDS_EL_LE"
    | .blockedNeedsZoEl => "BLOCKED_NEEDS_ZO_EL"
  find_value a := by cases a <;> decide

inductive ProgressSignal
  | projectAccepted | planCreated | planReviewRequested | planApproved | planRevised | tasksCreated
  | taskStarted | taskCompleted | taskFailed | taskCancelled | taskRescopeRequested
  | prCreated | prUpdated | prHeadChanged | testEvidenceCreated
  | proofAuthRequested | proofStarted | proofEvidenceCreated | proofCompleted | proofRepairRequired
  | reviewRequested | reviewStarted | reviewCompleted | reviewFindingsAccepted | reviewFindingsFixed
  | feedbackRequested | feedbackReceived | dogfoodStarted | dogfoodCompleted
  | mergeReady | releaseCompleted | blockerCreated | blockerEscalated | blockerResolved
  | retryScheduled | waitTimerStarted | finalReportDelivered
  deriving DecidableEq, Repr

instance : StrEnum ProgressSignal where
  members :=
    [.projectAccepted, .planCreated, .planReviewRequested, .planApproved, .planRevised, .tasksCreated,
     .taskStarted, .taskCompleted, .taskFailed, .taskCancelled, .taskRescopeRequested,
     .prCreated, .prUpdated, .prHeadChanged, .testEvidenceCreated,
     .proofAuthRequested, .proofStarted, .proofEvidenceCreated, .proofCompleted, .proofRepairRequired,
     .reviewRequested, .reviewStarted, .reviewCompleted, .reviewFindingsAccepted, .reviewFindingsFixed,
     .feedbackRequested, .feedbackReceived, .dogfoodStarted, .dogfoodCompleted,
     .mergeReady, .releaseCompleted, .blockerCreated, .blockerEscalated, .blockerResolved,
     .retryScheduled, .waitTimerStarted, .finalReportDelivered]
  value
    | .projectAccepted => "PROJECT_ACCEPTED"
    | .planCreated => "PLAN_CREATED"
    | .planReviewRequested => "PLAN_REVIEW_REQUESTED"
    | .planApproved => "PLAN_APPROVED"
    | .planRevised => "PLAN_REVISED"
    | .tasksCreated => "TASKS_CREATED"
    | .taskStarted => "TASK_STARTED"
    | .taskCompleted => "TASK_COMPLETED"
    | .taskFailed => "TASK_FAILED"
    | .taskCancelled => "TASK_CANCELLED"
    | .taskRescopeRequested => "TASK_RESCOPE_REQUESTED"
    | .prCreated => "PR_CREATED"
    | .prUpdated => "PR_UPDATED"
    | .prHeadChanged => "PR_HEAD_CHANGED"
    | .testEvidenceCreated => "TEST_EVIDENCE_CREATED"
    | .proofAuthRequested => "PROOF_AUTH_REQUESTED"
    | .proofStarted => "PROOF_STARTED"
    | .proofEvidenceCreated => "PROOF_EVIDENCE_CREATED"
    | .proofCompleted => "PROOF_COMPLETED"
    | .proofRepairRequired => "PROOF_REPAIR_REQUIRED"
    | .reviewRequested => "REVIEW_REQUESTED"
    | .reviewStarted => "REVIEW_STARTED"
    | .reviewCompleted => "REVIEW_COMPLETED"
    | .reviewFindingsAccepted => "REVIEW_FINDINGS_ACCEPTED"
    | .reviewFindingsFixed => "REVIEW_FINDINGS_FIXED"
    | .feedbackRequested => "FEEDBACK_REQUESTED"
    | .feedbackReceived => "FEEDBACK_RECEIVED"
    | .dogfoodStarted => "DOGFOOD_STARTED"
    | .dogfoodCompleted => "DOGFOOD_COMPLETED"
    | .mergeReady => "MERGE_READY"
    | .releaseCompleted => "RELEASE_COMPLETED"
    | .blockerCreated => "BLOCKER_CREATED"
    | .blockerEscalated => "BLOCKER_ESCALATED"
    | .blockerResolved => "BLOCKER_RESOLVED"
    | .retryScheduled => "RETRY_SCHEDULED"
    | .waitTimerStarted => "WAIT_TIMER_STARTED"
    | .finalReportDelivered => "FINAL_REPORT_DELIVERED"
  find_value a := by cases a <;> decide


/-- `RunOutcome` is computed and compared, never persisted, so it needs no strings. -/
inductive RunOutcome
  | materialProgress | controlledWait | blocked | done | failed | stalled
  deriving DecidableEq, Repr

inductive TerminalOutcome
  | done | failed | cancelled
  deriving DecidableEq, Repr

instance : StrEnum TerminalOutcome where
  members := [.done, .failed, .cancelled]
  value
    | .done => "DONE"
    | .failed => "FAILED"
    | .cancelled => "CANCELLED"
  find_value a := by cases a <;> decide

inductive DriverKind
  | softwareProject | softwareTask
  deriving DecidableEq, Repr

instance : StrEnum DriverKind where
  members := [.softwareProject, .softwareTask]
  value
    | .softwareProject => "SoftwareProjectDriver"
    | .softwareTask => "SoftwareTaskDriver"
  find_value a := by cases a <;> decide

inductive WorkflowRole
  | projectIntakeOwner | developer | reviewer | proofRunner | processSteward | humanApprover
  deriving DecidableEq, Repr

instance : StrEnum WorkflowRole where
  members :=
    [.projectIntakeOwner, .developer, .reviewer, .proofRunner, .processSteward, .humanApprover]
  value
    | .projectIntakeOwner => "project_intake_owner"
    | .developer => "developer"
    | .reviewer => "reviewer"
    | .proofRunner => "proof_runner"
    | .processSteward => "process_steward"
    | .humanApprover => "human_approver"
  find_value a := by cases a <;> decide

/-- The member name of a role: what `repr` of the enumeration member shows beside its value. -/
def WorkflowRole.name : WorkflowRole → String
  | .projectIntakeOwner => "PROJECT_INTAKE_OWNER"
  | .developer => "DEVELOPER"
  | .reviewer => "REVIEWER"
  | .proofRunner => "PROOF_RUNNER"
  | .processSteward => "PROCESS_STEWARD"
  | .humanApprover => "HUMAN_APPROVER"

/-- `repr(role)` of a string enumeration member. -/
def WorkflowRole.repr (role : WorkflowRole) : String :=
  "<WorkflowRole." ++ role.name ++ ": '" ++ StrEnum.value role ++ "'>"

inductive ActivitySideEffect
  | none | gitBranch | gitCommit | changeArtifact | pullRequest | review | command
  | externalService | userMessage
  deriving DecidableEq, Repr

instance : StrEnum ActivitySideEffect where
  members :=
    [.none, .gitBranch, .gitCommit, .changeArtifact, .pullRequest, .review, .command,
     .externalService, .userMessage]
  value
    | .none => "none"
    | .gitBranch => "git_branch"
    | .gitCommit => "git_commit"
    | .changeArtifact => "change_artifact"
    | .pullRequest => "pull_request"
    | .review => "review"
    | .command => "command"
    | .externalService => "external_service"
    | .userMessage => "user_message"
  find_value a := by cases a <;> decide

inductive ActivityStatus
  | succeeded | failed | skippedDuplicate
  deriving DecidableEq, Repr

inductive EvidenceType
  | plan | task | commit | pullRequest | review | command | proof | report | adapterRecord
  | profile | sourceDiscovery | proposalApproval | targetBinding
  deriving DecidableEq, Repr

instance : StrEnum EvidenceType where
  members :=
    [.plan, .task, .commit, .pullRequest, .review, .command, .proof, .report, .adapterRecord,
     .profile, .sourceDiscovery, .proposalApproval, .targetBinding]
  value
    | .plan => "plan"
    | .task => "task"
    | .commit => "commit"
    | .pullRequest => "pull_request"
    | .review => "review"
    | .command => "command"
    | .proof => "proof"
    | .report => "report"
    | .adapterRecord => "adapter_record"
    | .profile => "profile"
    | .sourceDiscovery => "source_discovery"
    | .proposalApproval => "proposal_approval"
    | .targetBinding => "target_binding"
  find_value a := by cases a <;> decide

inductive DiscoveryConfidence
  | low | medium | high
  deriving DecidableEq, Repr

inductive ProposalGateStatus
  | notRequired | requiredMissing | approved | blockedOwnership | targetMismatch
  deriving DecidableEq, Repr

inductive WaitThresholdResponse
  | blockedNeedsElLe | blockedNeedsZoEl | retryScheduled | failed
  deriving DecidableEq, Repr

instance : StrEnum WaitThresholdResponse where
  members := [.blockedNeedsElLe, .blockedNeedsZoEl, .retryScheduled, .failed]
  value
    | .blockedNeedsElLe => "BLOCKED_NEEDS_EL_LE"
    | .blockedNeedsZoEl => "BLOCKED_NEEDS_ZO_EL"
    | .retryScheduled => "RETRY_SCHEDULED"
    | .failed => "FAILED"
  find_value a := by cases a <;> decide

inductive DriverActor
  | elZachariah | micaiah | elLe | zoEl
  deriving DecidableEq, Repr

instance : StrEnum DriverActor where
  members := [.elZachariah, .micaiah, .elLe, .zoEl]
  value
    | .elZachariah => "el-zachariah"
    | .micaiah => "el-micaiah"
    | .elLe => "el-le"
    | .zoEl => "zo-el"
  find_value a := by cases a <;> decide

/-- The literal values a blocker's `category` field admits. -/
inductive BlockerCategory
  | developer | process | humanAuthority | resource | product | external
  deriving DecidableEq, Repr

instance : StrEnum BlockerCategory where
  members := [.developer, .process, .humanAuthority, .resource, .product, .external]
  value
    | .developer => "developer"
    | .process => "process"
    | .humanAuthority => "human_authority"
    | .resource => "resource"
    | .product => "product"
    | .external => "external"
  find_value a := by cases a <;> decide

/-- Observed state after attempting to route a review request (`review_triggers.py`). -/
inductive ReviewTriggerState
  | ready | weakNotificationOnly | blockedReviewerAccess
  deriving DecidableEq, Repr

instance : StrEnum ReviewTriggerState where
  members := [.ready, .weakNotificationOnly, .blockedReviewerAccess]
  value
    | .ready => "READY"
    | .weakNotificationOnly => "WEAK_NOTIFICATION_ONLY"
    | .blockedReviewerAccess => "BLOCKED_REVIEWER_ACCESS"
  find_value a := by cases a <;> decide

end WorkflowDrivers
