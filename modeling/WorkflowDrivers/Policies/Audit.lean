import WorkflowDrivers.Lib.Compare
import WorkflowDrivers.Policies.GateSpec

/-!
# `Policies.Audit` — the process audit of a project snapshot

The audit runs the proposal, transition and acceptance gates once more over a snapshot, and compares the
candidate target with the discovered sources by a check of its own. As for the gates, the translation collects
texts in the source's order, and `auditV2ProcessInvariants_ok` says what an empty collection means.
-/

namespace WorkflowDrivers
open Lib

/-! ## Translation -/

structure V2ProcessInvariantAudit where
  ok : Bool
  failures : List String := []

/-- The phases in which the audit asks the transition gate. -/
def auditedImplementationPhases : List ProjectIntakePhase :=
  [.taskBreakdown, .taskExecution, .prOpen, .reviewRequested, .reviewWait, .finalReport, .done]

/-- The target a candidate is compared with when it is none of the discovery's: the recommended one, or the
    first discovered one. -/
def SourceDiscoveryReport.reference (report : SourceDiscoveryReport) : TargetSurface :=
  match report.recommendedTarget with
  | some target => target
  | none => report.discoveredSources.head report.discoveredSources_ne

section
variable [UnicodeData]

/-- `repr(getattr(target, field))`. -/
def TargetSurface.reprAttr (target : TargetSurface) (field : IdentityField) : String :=
  match target.getattr field with
  | none => "None"
  | some value => value.repr

/-- `_candidate_source_target_failures`. -/
def candidateSourceTargetFailures (project : ProjectState) (candidate : TargetSurface) : List String :=
  match project.sourceDiscovery with
  | none => ["source discovery report is required before candidate target audit"]
  | some discovery =>
      if discovery.sourceTargets.any (fun target => targetIdentityMatches candidate target) then []
      else
        identityFields.flatMap (fun field =>
          failIf (discovery.reference.getattr field ≠ candidate.getattr field)
            ("candidate " ++ field.name ++ " does not match discovered target: discovered="
              ++ discovery.reference.reprAttr field ++ " candidate=" ++ candidate.reprAttr field))

/-- Replay a project snapshot against the major V2 process invariants. -/
def auditV2ProcessInvariants (project : ProjectState) (candidateTarget : Option TargetSurface)
    (driverAuthorization : Option DriverAuthorizationEvidence) (driverTestMode : Bool) :
    V2ProcessInvariantAudit :=
  let proposalFailures := (checkProposalGate project).failures.map (fun failure => "proposal gate: " ++ failure)
  let driftFailures :=
    match candidateTarget with
    | none => []
    | some candidate =>
        (candidateSourceTargetFailures project candidate).map (fun failure => "source target drift: " ++ failure)
  let transitionFailures :=
    if project.phase ∈ auditedImplementationPhases then
      -- the next phase is fixed, so a snapshot in that phase takes the gate's same-phase exit
      (checkProjectTransitionGate project .prOpen candidateTarget driverAuthorization driverTestMode).failures.map
        (fun failure => "implementation transition: " ++ failure)
    else []
  let doneFailures := (checkAcceptanceProof project).failures.map (fun failure => "done gate: " ++ failure)
  let failures := proposalFailures ++ driftFailures ++ transitionFailures ++ doneFailures
  { ok := failures = [], failures }

end

/-! ## What the audit asks for -/

/-- The candidate is one of the discovery's targets. -/
def SourceMatched (project : ProjectState) (candidate : TargetSurface) : Prop :=
  ∃ discovery ∈ project.sourceDiscovery, ∃ target,
    (target ∈ discovery.recommendedTarget ∨ target ∈ discovery.discoveredSources)
      ∧ SameIdentity candidate target

/-- The target of the comparison is one of the discovery's. -/
theorem SourceDiscoveryReport.reference_mem (report : SourceDiscoveryReport) :
    report.reference ∈ report.sourceTargets := by
  unfold reference sourceTargets
  cases report.recommendedTarget with
  | none => exact List.head_mem report.discoveredSources_ne
  | some target => exact List.mem_cons_self

section
variable [UnicodeData] {project : ProjectState}

/-- The drift check finds nothing exactly when the candidate is one of the discovery's targets. -/
theorem candidateSourceTargetFailures_eq_nil {candidate : TargetSurface} :
    candidateSourceTargetFailures project candidate = [] ↔ SourceMatched project candidate := by
  unfold candidateSourceTargetFailures SourceMatched
  cases project.sourceDiscovery with
  | none => simp
  | some discovery =>
      have hmem : ∀ target, target ∈ discovery.sourceTargets ↔
          target ∈ discovery.recommendedTarget ∨ target ∈ discovery.discoveredSources := by
        intro target
        rw [SourceDiscoveryReport.sourceTargets, List.mem_append, Option.mem_toList, Option.mem_def]
      simp only [Option.mem_some_iff, exists_eq_left', ← hmem, ← targetIdentityMatches_iff]
      -- the search is explained against one of the targets, so a failing search has something to report
      apply search_explained discovery.reference_mem
      intro hnil
      rw [targetIdentityMatches_iff, sameIdentity_iff]
      intro field
      have hfield := List.flatMap_eq_nil_iff.mp hnil field (mem_identityFields field)
      rw [failIf_eq_nil, not_not] at hfield
      exact hfield.symm

theorem checkAcceptanceProof_failures_eq_nil :
    (checkAcceptanceProof project).failures = [] ↔ (checkAcceptanceProof project).ok = true := by
  unfold checkAcceptanceProof
  split_ifs
  · simp
  · cases project.approvedTargetBinding with
    | none => simp
    | some binding =>
        cases project.acceptanceReport with
        | none => simp
        | some report => simp

theorem checkProjectTransitionGate_failures_eq_nil {nextPhase : ProjectIntakePhase}
    {candidateTarget : Option TargetSurface} {driverAuthorization : Option DriverAuthorizationEvidence}
    {driverTestMode : Bool} :
    (checkProjectTransitionGate project nextPhase candidateTarget driverAuthorization driverTestMode).failures = []
      ↔ (checkProjectTransitionGate project nextPhase candidateTarget driverAuthorization driverTestMode).ok
        = true := by
  unfold checkProjectTransitionGate
  split_ifs with hsame
  · simp
  · simp only
    split_ifs with hf
    · simp
    · simpa using hf

/-- The acceptance gate includes the proposal gate. -/
theorem checkProposalGate_of_acceptance (h : (checkAcceptanceProof project).ok = true) :
    (checkProposalGate project).ok = true := by
  cases hrequired : project.proposalRequired with
  | false => simp [checkProposalGate, hrequired, ProposalGateCheck.ok]
  | true => exact (checkProposalGate_ok hrequired).mpr ((checkAcceptanceProof_ok hrequired).mp h).1

/-- **The audit.** It passes exactly when a given candidate is one of the discovery's targets, the transition gate
    into `PR_OPEN` passes in the audited phases, and the acceptance gate passes. -/
theorem auditV2ProcessInvariants_ok {candidateTarget : Option TargetSurface}
    {driverAuthorization : Option DriverAuthorizationEvidence} {driverTestMode : Bool} :
    (auditV2ProcessInvariants project candidateTarget driverAuthorization driverTestMode).ok = true ↔
      (∀ candidate ∈ candidateTarget, SourceMatched project candidate)
      ∧ (project.phase ∈ auditedImplementationPhases →
          (checkProjectTransitionGate project .prOpen candidateTarget driverAuthorization driverTestMode).ok = true)
      ∧ (checkAcceptanceProof project).ok = true := by
  have hdrift : (match candidateTarget with
      | none => []
      | some candidate => (candidateSourceTargetFailures project candidate).map
          (fun failure => "source target drift: " ++ failure)) = []
        ↔ ∀ candidate ∈ candidateTarget, SourceMatched project candidate := by
    cases candidateTarget with
    | none => simp
    | some candidate => simp [candidateSourceTargetFailures_eq_nil]
  have hgate : (if project.phase ∈ auditedImplementationPhases then
      (checkProjectTransitionGate project .prOpen candidateTarget driverAuthorization driverTestMode).failures.map
        (fun failure => "implementation transition: " ++ failure)
      else []) = []
        ↔ (project.phase ∈ auditedImplementationPhases →
          (checkProjectTransitionGate project .prOpen candidateTarget driverAuthorization driverTestMode).ok
            = true) := by
    split_ifs with hphase
    · rw [List.map_eq_nil_iff, checkProjectTransitionGate_failures_eq_nil]
      exact ⟨fun h _ => h, fun h => h hphase⟩
    · exact iff_of_true rfl (fun hc => absurd hc hphase)
  simp only [auditV2ProcessInvariants, decide_eq_true_eq, List.append_eq_nil_iff, hdrift, hgate,
    List.map_eq_nil_iff, checkProposalGate_failures_eq_nil, checkAcceptanceProof_failures_eq_nil]
  constructor
  · rintro ⟨⟨⟨-, hd⟩, hg⟩, ha⟩
    exact ⟨hd, hg, ha⟩
  · rintro ⟨hd, hg, ha⟩
    exact ⟨⟨⟨checkProposalGate_of_acceptance ha, hd⟩, hg⟩, ha⟩

end

end WorkflowDrivers
