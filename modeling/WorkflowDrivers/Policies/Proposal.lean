import WorkflowDrivers.Policies.Evidence

/-!
# `Policies.Proposal` — the proposal, transition and acceptance gates

Every gate collects failures, texts for people, and passes exactly when it collected none; so each gate is
translated as a list of conditional texts (`failIf`), in the source's order. The texts quote values with
`repr`, hence the `UnicodeData` parameter; no verdict depends on it. What the verdicts mean is in
`Policies.GateSpec`.
-/

namespace WorkflowDrivers
open Lib

/-- `if condition: failures.append(text)`, as the list of what is appended. -/
def failIf (condition : Prop) [Decidable condition] (text : String) : List String :=
  if condition then [text] else []

@[simp] theorem failIf_eq_nil {condition : Prop} [Decidable condition] {text : String} :
    failIf condition text = [] ↔ ¬condition := by
  unfold failIf
  split_ifs with h
  · simp [h]
  · simp [h]

/-! ## Gate checks -/

structure ProposalGateCheck where
  status : ProposalGateStatus
  proposalRequired : Bool
  approvedBindingVersion : Option String := none
  failures : List String := []

def ProposalGateCheck.ok (check : ProposalGateCheck) : Bool :=
  check.status == .notRequired || check.status == .approved

structure TargetBindingCheck where
  status : ProposalGateStatus
  bindingVersion : Option String := none
  failures : List String := []

def TargetBindingCheck.ok (check : TargetBindingCheck) : Bool := check.status == .approved

structure ProjectTransitionGateCheck where
  ok : Bool
  failures : List String := []
  blocker : Option Blocker := none

structure AcceptanceProofCheck where
  ok : Bool
  failures : List String := []
  evidenceRefs : List EvidenceRef := []

/-- `GATED_IMPLEMENTATION_PHASES`. -/
def gatedImplementationPhases : List ProjectIntakePhase := [.taskBreakdown, .taskExecution, .prOpen]

/-- `DRIVER_AUTHORIZED_PROGRESS_PHASES`. -/
def driverAuthorizedProgressPhases : List ProjectIntakePhase := [.taskExecution, .prOpen, .reviewRequested]

/-- The gates that mean the ownership of a target is not resolved. -/
def blockedGates : List ProjectIntakePhase := [.blockedNeedsElLe, .blockedNeedsZoEl]

/-! ## The proposal gate -/

/-- `_has_explicit_substitute_approval`: whether a non-discovered target was explicitly approved. -/
def hasExplicitSubstituteApproval (binding : ApprovedTargetBinding) : Bool :=
  !binding.approvedSubstituteArtifacts.isEmpty
    && refsOverlap binding.approvedSubstituteArtifacts binding.target.evidenceRefs

/-- The targets a discovery names: the recommended one, if any, and the discovered ones. -/
def SourceDiscoveryReport.sourceTargets (report : SourceDiscoveryReport) : List TargetSurface :=
  report.recommendedTarget.toList ++ report.discoveredSources

/-- `_proposal_gate_failure_status`. -/
def proposalGateFailureStatus (blockedOwnership targetMismatch : Bool) : ProposalGateStatus :=
  if blockedOwnership then .blockedOwnership
  else if targetMismatch then .targetMismatch
  else .requiredMissing

section
variable [UnicodeData]

/-- `_criteria_mismatch_failures`. -/
def criteriaMismatchFailures (approved binding : List String) : List String :=
  (sortedDifference approved binding).map (fun criterion =>
    "approved target binding is missing proposal-approved acceptance criterion: " ++ pyRepr criterion)
  ++ (sortedDifference binding approved).map (fun criterion =>
    "approved target binding includes acceptance criterion not present in proposal approval: "
      ++ pyRepr criterion)

/-- What the part of `_binding_evidence_failures` about the source discovery leaves behind. -/
structure DiscoveryCheck where
  failures : List String
  blockedOwnership : Bool := false
  targetMismatch : Bool := false

def checkSourceDiscovery (binding : ApprovedTargetBinding) : Option SourceDiscoveryReport → DiscoveryCheck
  | none =>
      { failures := ["source discovery report is required before proposal approval can pass"] }
  | some sourceDiscovery =>
      let blockedOwnership := blockedGates.contains sourceDiscovery.requiredNextGate
      let targetMismatch :=
        !(sourceDiscovery.sourceTargets.any (fun target => targetIdentityMatches binding.target target))
          && !hasExplicitSubstituteApproval binding
      { failures :=
          failIf (sourceDiscovery.evidenceRefs = []) "source discovery report must include evidence refs"
          ++ (if blockedOwnership then
                ["ownership route is unresolved: source discovery requires "
                  ++ StrEnum.value sourceDiscovery.requiredNextGate]
              else
                failIf (binding.sourceDiscoveryRefs ≠ []
                    ∧ refsOverlap binding.sourceDiscoveryRefs sourceDiscovery.evidenceRefs = false)
                  "approved target binding must cite the persisted source discovery evidence")
          ++ failIf (targetMismatch = true)
              ("approved target is not the discovered/recommended target and no explicit approved "
                ++ "substitute evidence is recorded")
        blockedOwnership
        targetMismatch }

/-- The part of `_binding_evidence_failures` that compares the binding with the approval. -/
def approvalMismatchFailures (binding : ApprovedTargetBinding) (approval : ProposalApprovalEvidence) :
    List String :=
  failIf (binding.proposalId ≠ approval.proposalId)
    ("proposal id mismatch: approval=" ++ pyRepr approval.proposalId
      ++ " binding=" ++ pyRepr binding.proposalId)
  ++ failIf (binding.proposalVersion ≠ approval.proposalVersion)
    ("proposal version mismatch: approval=" ++ pyRepr approval.proposalVersion
      ++ " binding=" ++ pyRepr binding.proposalVersion)
  ++ failIf (binding.proposalDigest ≠ approval.proposalDigest)
    ("proposal digest mismatch: approval=" ++ pyRepr approval.proposalDigest
      ++ " binding=" ++ pyRepr binding.proposalDigest)
  ++ failIf (binding.approvalRecord ≠ approval.approvalRecord)
    "approval record mismatch between proposal approval and target binding"
  ++ failIf (binding.approvedBy ≠ approval.approvedBy)
    ("approved_by mismatch: approval=" ++ pyRepr approval.approvedBy
      ++ " binding=" ++ pyRepr binding.approvedBy)
  ++ criteriaMismatchFailures approval.coveredAcceptanceCriteria binding.coveredAcceptanceCriteria

/-- `_binding_evidence_failures`: the status to report, and the failures. -/
def bindingEvidenceFailures (project : ProjectState) : ProposalGateStatus × List String :=
  match project.approvedTargetBinding with
  | none => (.requiredMissing, ["proposal approval must produce an approved target binding"])
  | some binding =>
      let discovery := checkSourceDiscovery binding project.sourceDiscovery
      let failures := discovery.failures
        ++ failIf (binding.sourceDiscoveryRefs = [])
            "approved target binding must reference source discovery evidence"
      let status := proposalGateFailureStatus discovery.blockedOwnership discovery.targetMismatch
      match project.proposalApproval with
      | none =>
          (status, failures ++ ["proposal approval evidence is required before proposal gate can pass"])
      | some approval => (status, failures ++ approvalMismatchFailures binding approval)

/-- Return whether an ambiguous initiative may advance past planning. -/
def checkProposalGate (project : ProjectState) : ProposalGateCheck :=
  if project.proposalRequired = false then { status := .notRequired, proposalRequired := false }
  else
    match project.approvedTargetBinding with
    | none =>
        { status := .requiredMissing, proposalRequired := true,
          failures := ["proposal approval must produce an approved target binding"] }
    | some binding =>
        let (status, failures) := bindingEvidenceFailures project
        if failures ≠ [] then
          { status, proposalRequired := true, approvedBindingVersion := some binding.version, failures }
        else
          { status := .approved, proposalRequired := true, approvedBindingVersion := some binding.version }

/-! ## The target comparison -/

/-- `_field_failure`. -/
def fieldFailure (approved candidate : Option FieldValue) (field : IdentityField) : Option String :=
  match approved, candidate with
  | none, none => none
  | none, some c => some (field.name ++ " unexpected: approved=None candidate=" ++ c.repr)
  | some a, none => some ("missing candidate " ++ field.name ++ ": approved=" ++ a.repr)
  | some a, some c =>
      if a ≠ c then some (field.name ++ " mismatch: approved=" ++ a.repr ++ " candidate=" ++ c.repr)
      else none

/-- Check that a proposed target is still the approved target. -/
def targetMatchesBinding (binding : ApprovedTargetBinding) (candidate : TargetSurface) : TargetBindingCheck :=
  let failures := identityFields.filterMap (fun field =>
    fieldFailure (binding.target.getattr field) (candidate.getattr field) field)
  { status := if failures = [] then .approved else .targetMismatch
    bindingVersion := some binding.version
    failures }

def checkProjectTargetBinding (project : ProjectState) (candidate : TargetSurface) : TargetBindingCheck :=
  match project.approvedTargetBinding with
  | none => { status := .requiredMissing, failures := ["no approved target binding is recorded"] }
  | some binding => targetMatchesBinding binding candidate

/-! ## The acceptance gate -/

/-- `_has_report_substitute_approval`: whether the report's target is an approved substitute surface that
    carries the approval evidence. -/
def hasReportSubstituteApproval (binding : ApprovedTargetBinding) (report : AcceptanceReport) : Bool :=
  if !(!binding.approvedSubstituteArtifacts.isEmpty && !report.substituteApprovalRefs.isEmpty
      && refsOverlap binding.approvedSubstituteArtifacts report.substituteApprovalRefs) then false
  else
    binding.allowedSideEffectSurfaces.any (fun approvedSurface =>
      targetIdentityMatches approvedSurface report.target
        && refsOverlap binding.approvedSubstituteArtifacts approvedSurface.evidenceRefs
        && refsOverlap report.substituteApprovalRefs report.target.evidenceRefs)

/-- The criteria with a satisfied proof that carries evidence. -/
def AcceptanceReport.provedCriteria (report : AcceptanceReport) : List String :=
  (report.criteria.filter (fun proof => proof.satisfied && !proof.evidenceRefs.isEmpty)).map
    AcceptanceCriterionProof.criterion

/-- The binding's criteria, and the approval's that are not among them. -/
def requiredCriteria (binding : ApprovedTargetBinding) (approval : Option ProposalApprovalEvidence) :
    List String :=
  match approval with
  | none => binding.coveredAcceptanceCriteria
  | some approval =>
      approval.coveredAcceptanceCriteria.foldl
        (fun required criterion => if criterion ∈ required then required else required ++ [criterion])
        binding.coveredAcceptanceCriteria

/-- The failures of `check_acceptance_proof` once binding and report are known. -/
def acceptanceFailures (binding : ApprovedTargetBinding) (approval : Option ProposalApprovalEvidence)
    (report : AcceptanceReport) : List String :=
  let targetCheck := targetMatchesBinding binding report.target
  failIf (report.bindingVersion ≠ some binding.version)
    ("acceptance report binding version mismatch: approved=" ++ pyRepr binding.version
      ++ " report=" ++ pyReprOption report.bindingVersion)
  ++ (if targetCheck.ok = false ∧ hasReportSubstituteApproval binding report = false then
        targetCheck.failures
          ++ ["substitute deliverable is not explicitly approved for terminal acceptance"]
      else [])
  ++ (requiredCriteria binding approval).flatMap (fun criterion =>
      failIf (criterion ∉ report.provedCriteria)
        ("missing acceptance proof for original criterion: " ++ pyRepr criterion))
  ++ report.criteria.flatMap (fun proof =>
      failIf (proof.satisfied = false)
        ("acceptance criterion is not satisfied: " ++ pyRepr proof.criterion)
      ++ failIf (proof.evidenceRefs = [])
        ("acceptance criterion lacks evidence: " ++ pyRepr proof.criterion))
  ++ failIf (report.liveVerificationRequired = false)
    "live verification is required for proposal-required terminal acceptance"
  ++ failIf (report.liveVerificationPassed ≠ some true)
    "live verification is required for this acceptance report and has not passed"
  ++ failIf (report.evidenceRefs = []) "acceptance report must include evidence refs"

/-- Validate terminal DONE proof against the approved target and original criteria. -/
def checkAcceptanceProof (project : ProjectState) : AcceptanceProofCheck :=
  if project.proposalRequired = false then { ok := true }
  else
    let proposalFailures := (checkProposalGate project).failures
    match project.approvedTargetBinding with
    | none =>
        { ok := false
          failures := proposalFailures ++ ["approved target binding is required before DONE"] }
    | some binding =>
        match project.acceptanceReport with
        | none =>
            { ok := false, failures := proposalFailures ++ ["acceptance report is required before DONE"] }
        | some report =>
            let failures := proposalFailures ++ acceptanceFailures binding project.proposalApproval report
            { ok := failures = [], failures, evidenceRefs := report.evidenceRefs }

/-! ## The transition gate -/

/-- `_blocker_for_transition_gate`. -/
def blockerForTransitionGate (projectId : String) (fromPhase nextPhase : ProjectIntakePhase)
    (status : ProposalGateStatus) (failures : List String) : Blocker :=
  let blockedOwnership := status = .blockedOwnership
  { reason := "V2 transition gate blocked " ++ projectId ++ " before " ++ StrEnum.value nextPhase ++ ": "
      ++ "; ".intercalate failures
    category := if blockedOwnership then .process else .humanAuthority
    owner := some (if blockedOwnership then .elLe else .zoEl)
    ownerRole := if blockedOwnership then .processSteward else .humanApprover
    requiredDecision :=
      if blockedOwnership then "route cross-profile target ownership and resume proposal review"
      else "approve a source-backed proposal/target binding or request plan rethink"
    resumeTarget :=
      { blockedPhase := StrEnum.value fromPhase
        resumePhaseIfUnblocked := StrEnum.value ProjectIntakePhase.planReview
        resumeActivity := some "review_source_backed_proposal"
        decisionOptions :=
          [{ decision := "proposal_approved_with_target_binding"
             resultingPhase := StrEnum.value ProjectIntakePhase.planReview
             notes := "Retry the gated transition after approved target binding and target evidence are "
               ++ "persisted." },
           { decision := "plan_rethink_required"
             resultingPhase := StrEnum.value ProjectIntakePhase.planRethink
             notes := "Return to plan rethink when target/source/authorization evidence does not match." }] } }

/-- The part of `check_project_transition_gate` about the proposal and the candidate target: the status to
    report, and the failures. -/
def implementationFailures (project : ProjectState) (nextPhase : ProjectIntakePhase)
    (candidateTarget : Option TargetSurface) : ProposalGateStatus × List String :=
  if project.proposalRequired ∧ nextPhase ∈ gatedImplementationPhases then
    let proposalCheck := checkProposalGate project
    if proposalCheck.ok = false then (proposalCheck.status, proposalCheck.failures)
    else
      match candidateTarget with
      | none =>
          (.targetMismatch, ["candidate target evidence is required for implementation/PR phases"])
      | some candidate =>
          let targetCheck := checkProjectTargetBinding project candidate
          if targetCheck.ok = false then (targetCheck.status, targetCheck.failures) else (.approved, [])
  else (.approved, [])

/-- The part of `check_project_transition_gate` about the driver authorization. -/
def authorizationFailures (project : ProjectState) (nextPhase : ProjectIntakePhase)
    (driverAuthorization : Option DriverAuthorizationEvidence) (driverTestMode : Bool) : List String :=
  if driverTestMode ∧ nextPhase ∈ driverAuthorizedProgressPhases then
    match driverAuthorization with
    | none => ["driver-test material progress requires driver authorization evidence"]
    | some authorization =>
        if authorization.supervisorIntervention then
          ["supervisor intervention cannot count as driver-authorized initiative progress"]
        else if authorization.authorizedByRole ≠ .developer then
          ["driver-test material progress must be authorized by the developer role: authorized_by_role="
            ++ authorization.authorizedByRole.repr]
        else
          match project.approvedTargetBinding with
          | none => []
          | some binding =>
              failIf (authorization.bindingVersion ≠ some binding.version)
                ("driver authorization binding version mismatch: approved=" ++ pyRepr binding.version
                  ++ " authorized=" ++ pyReprOption authorization.bindingVersion)
  else []

/-- Validate V2 process gates before allowing implementation/PR progress. -/
def checkProjectTransitionGate (project : ProjectState) (nextPhase : ProjectIntakePhase)
    (candidateTarget : Option TargetSurface) (driverAuthorization : Option DriverAuthorizationEvidence)
    (driverTestMode : Bool) : ProjectTransitionGateCheck :=
  if nextPhase = project.phase then { ok := true }
  else
    let (status, gateFailures) := implementationFailures project nextPhase candidateTarget
    let failures := gateFailures
      ++ authorizationFailures project nextPhase driverAuthorization driverTestMode
    if failures = [] then { ok := true }
    else
      { ok := false
        failures
        blocker := some (blockerForTransitionGate project.id project.phase nextPhase status failures) }

end

end WorkflowDrivers
