import WorkflowDrivers.Lib.Json
import WorkflowDrivers.Lib.Text
import WorkflowDrivers.Models.Enums

/-!
# `Models.Records` — the durable records of `models.py`

The records are translated field by field, with the source's defaults. Two things are decided here.

*Which constraints are part of a type.* A minimum length that the code relies on (the first discovered
source) and the blank check of the driver authorization are carried as proof fields, so that a value breaking
them cannot be built. The other minimum lengths are left out: nothing that is modelled needs them, and every
result then also covers values that were copied past validation.

*Which fields are left out.* `ProjectState.title`, `current_task_id`, `last_progress` and `TaskState.title`,
`owner`, `acceptance`, `evidence`, `rescope_reason` are read by no function of the repository.
-/

namespace WorkflowDrivers
open Lib

/-! ## Evidence and targets -/

structure EvidenceRef where
  type : EvidenceType
  uri : String
  digest : Option String := none
  deriving DecidableEq

/-- A discovered or approved implementation surface. -/
structure TargetSurface where
  label : String
  url : Option String := none
  port : Option Int := none
  serviceIdentity : Option String := none
  cwd : Option String := none
  repo : Option String := none
  worktree : Option String := none
  ownerProfile : Option String := none
  evidenceRefs : List EvidenceRef := []
  deriving DecidableEq

structure SourceDiscoveryReport where
  intakeId : String
  discoveredSources : List TargetSurface
  discoveredSources_ne : discoveredSources ≠ []
  recommendedTarget : Option TargetSurface := none
  ownershipBoundary : Option String := none
  confidence : DiscoveryConfidence
  requiredNextGate : ProjectIntakePhase
  evidenceRefs : List EvidenceRef := []

structure ProposalApprovalEvidence where
  proposalId : String
  proposalVersion : String
  proposalDigest : String
  approvedBy : String
  approvedAt : String
  approvalRecord : EvidenceRef
  coveredAcceptanceCriteria : List String

/-- Versioned target binding emitted by human-reviewed proposal approval. -/
structure ApprovedTargetBinding where
  bindingId : String
  version : String
  target : TargetSurface
  proposalId : String
  proposalVersion : String
  proposalDigest : String
  approvalRecord : EvidenceRef
  approvedBy : String
  coveredAcceptanceCriteria : List String
  allowedSideEffectSurfaces : List TargetSurface := []
  approvedSubstituteArtifacts : List EvidenceRef := []
  sourceDiscoveryRefs : List EvidenceRef := []

/-- Criterion-by-criterion proof for terminal DONE validation. -/
structure AcceptanceCriterionProof where
  criterion : String
  satisfied : Bool
  evidenceRefs : List EvidenceRef
  notes : Option String := none

/-- Evidence-backed report proving the approved target satisfies the original intake criteria. -/
structure AcceptanceReport where
  reportId : String
  bindingVersion : Option String := none
  target : TargetSurface
  criteria : List AcceptanceCriterionProof
  liveVerificationRequired : Bool := false
  liveVerificationPassed : Option Bool := none
  substituteApprovalRefs : List EvidenceRef := []
  evidenceRefs : List EvidenceRef

/-- Evidence that a material progress signal was authorized by the driver. The identifiers are not blank:
    a blank one points an auditor to no persisted decision or activity. -/
structure DriverAuthorizationEvidence where
  workflowDecisionId : String
  activityId : String
  bindingVersion : Option String := none
  authorizedByRole : WorkflowRole
  supervisorIntervention : Bool := false
  workflowDecisionId_nonblank : isBlank workflowDecisionId.toList = false
  activityId_nonblank : isBlank activityId.toList = false
  bindingVersion_nonblank : ∀ v ∈ bindingVersion, isBlank v.toList = false
  deriving DecidableEq

/-! ## Blockers and waits -/

structure ResumeDecisionOption where
  decision : String
  resultingPhase : String
  notes : String
  deriving DecidableEq

structure ResumeTarget where
  blockedPhase : String
  resumePhaseIfUnblocked : String
  resumeActivity : Option String := none
  decisionOptions : List ResumeDecisionOption
  deriving DecidableEq

/-- Canonical non-terminal blocker contract. -/
structure Blocker where
  reason : String
  category : BlockerCategory
  ownerRole : WorkflowRole
  requiredDecision : String
  resumeTarget : ResumeTarget
  owner : Option DriverActor := none
  intakeOutcomePreserved : Bool := true
  evidenceRefs : List EvidenceRef := []
  deriving DecidableEq

structure WaitPolicy where
  awaitedSignal : String
  startedAt : String
  thresholdAt : String
  retryPolicy : String
  thresholdResponse : WaitThresholdResponse
  deriving DecidableEq

/-! ## The workflow state record -/

structure DriverInput where
  intakeId : Option String := none
  projectId : Option String := none
  taskId : Option String := none
  inputDigest : String
  deriving DecidableEq

structure CurrentActivity where
  activityId : String
  role : WorkflowRole
  requestedAt : String
  deadlineAt : Option String := none
  deriving DecidableEq

structure ProgressLedger where
  lastMaterialProgressAt : Option String := none
  lastProgressSignal : Option ProgressSignal := none
  noOpObservationCount : Int := 0
  deriving DecidableEq

structure WorkflowCounters where
  reviewLoopCount : Option Int := none
  retryCount : Int := 0
  deriving DecidableEq

structure TerminalState where
  outcome : TerminalOutcome
  reason : Option String := none
  finalReportRef : Option String := none
  deriving DecidableEq

structure WorkflowStateRecord where
  workflowId : String
  templateId : String
  templateVersion : String
  driverKind : DriverKind
  phase : String
  input : DriverInput
  roleBindingsVersion : String
  planVersion : Option String := none
  currentActivity : Option CurrentActivity := none
  wait : Option WaitPolicy := none
  blocker : Option Blocker := none
  evidenceRefs : List EvidenceRef := []
  progressLedger : ProgressLedger := {}
  counters : WorkflowCounters := {}
  terminal : Option TerminalState := none
  deriving DecidableEq

/-- A new record in a phase, for the cases stated beside the results. -/
def exampleRecord (phase : String) (blocker : Option Blocker) : WorkflowStateRecord where
  workflowId := "W-1"
  templateId := "software"
  templateVersion := "1"
  driverKind := .softwareProject
  phase
  input := { inputDigest := "digest" }
  roleBindingsVersion := "1"
  blocker

/-! ## Events and activities -/

/-- `payload` is an arbitrary JSON object, kept as its fields in order. -/
structure WorkflowEvent where
  eventId : String
  type : String
  emittedAt : String
  sourceRole : WorkflowRole
  correlationId : String
  causationId : Option String := none
  payload : List (String × Json) := []

structure TimeoutPolicy where
  startToClose : String
  scheduleToClose : String
  deriving DecidableEq

structure RetryPolicy where
  maxAttempts : Int
  backoff : String
  deriving DecidableEq

structure ActivityFailurePolicy where
  rescopeAllowed : Bool
  blockerOwnerRole : WorkflowRole
  deriving DecidableEq

structure ActivityRequest where
  activityId : String
  activityType : String
  role : WorkflowRole
  purpose : String
  inputRefs : List EvidenceRef := []
  acceptanceCriteria : List String
  allowedSideEffects : List ActivitySideEffect := [.none]
  requiredEvidence : List String := []
  idempotencyKey : String
  timeoutPolicy : TimeoutPolicy
  retryPolicy : RetryPolicy
  onFailure : ActivityFailurePolicy
  deriving DecidableEq

/-- Adapter-neutral result for one side-effecting activity attempt. -/
structure ActivityResultEnvelope where
  activityId : String
  activityType : String
  idempotencyKey : String
  role : WorkflowRole
  status : ActivityStatus
  startedAt : String
  finishedAt : String
  evidenceRefs : List EvidenceRef := []
  output : List (String × Json) := []
  error : Option String := none

/-! ## Driver inputs -/

structure TaskState where
  id : String
  phase : TaskPhase := .taskAssigned
  blocker : Option Blocker := none
  reviewLoopCount : Int := 0
  maxReviewLoops : Int := 3

structure ProjectState where
  id : String
  phase : ProjectIntakePhase := .projectIntakeAssigned
  proposalRequired : Bool := false
  sourceDiscovery : Option SourceDiscoveryReport := none
  proposalApproval : Option ProposalApprovalEvidence := none
  approvedTargetBinding : Option ApprovedTargetBinding := none
  acceptanceReport : Option AcceptanceReport := none
  tasks : List TaskState := []
  prUrl : Option String := none
  blocker : Option Blocker := none

end WorkflowDrivers
