import WorkflowDrivers.Policies.Proposal

/-!
# `Policies.GateSpec` — what the gates ask for

The gates of `Policies.Proposal` collect texts. Here is what an empty collection means: for each gate a
statement about the recorded evidence, with no text and no status in it, and the theorem that the gate passes
exactly when the statement holds. The transition and acceptance results use these and never look at a list of
failures again.
-/

namespace WorkflowDrivers
open Lib

/-! ## Statements about the evidence -/

/-- A target outside the discovery was explicitly approved: some evidence is both among the approved
    substitutes and on the target. -/
def SubstituteApproved (binding : ApprovedTargetBinding) : Prop :=
  ∃ ref ∈ binding.approvedSubstituteArtifacts, ref ∈ binding.target.evidenceRefs

/-- The discovery supports the binding. -/
structure SourceDiscovered (binding : ApprovedTargetBinding) (discovery : SourceDiscoveryReport) : Prop where
  evidence : discovery.evidenceRefs ≠ []
  cited : ∃ ref ∈ binding.sourceDiscoveryRefs, ref ∈ discovery.evidenceRefs
  ownership : discovery.requiredNextGate ∉ blockedGates
  target : (∃ target, (target ∈ discovery.recommendedTarget ∨ target ∈ discovery.discoveredSources)
      ∧ SameIdentity binding.target target) ∨ SubstituteApproved binding

/-- The binding is the one the approval is about. -/
structure ApprovalAgrees (binding : ApprovedTargetBinding) (approval : ProposalApprovalEvidence) : Prop where
  proposalId : binding.proposalId = approval.proposalId
  proposalVersion : binding.proposalVersion = approval.proposalVersion
  proposalDigest : binding.proposalDigest = approval.proposalDigest
  approvalRecord : binding.approvalRecord = approval.approvalRecord
  approvedBy : binding.approvedBy = approval.approvedBy
  criteria : ∀ criterion,
    criterion ∈ binding.coveredAcceptanceCriteria ↔ criterion ∈ approval.coveredAcceptanceCriteria

/-- **The proposal is approved**: binding, discovery and approval are recorded and fit together. -/
def ProposalApproved (project : ProjectState) : Prop :=
  ∃ binding ∈ project.approvedTargetBinding, ∃ discovery ∈ project.sourceDiscovery,
    ∃ approval ∈ project.proposalApproval, SourceDiscovered binding discovery ∧ ApprovalAgrees binding approval

/-- The candidate of a transition is the approved target. -/
def CandidateApproved (project : ProjectState) (candidateTarget : Option TargetSurface) : Prop :=
  ∃ candidate ∈ candidateTarget, ∃ binding ∈ project.approvedTargetBinding,
    SameIdentity binding.target candidate

/-- Progress is authorized: by the developer, not as a supervisor's intervention, and for the version of the
    recorded binding. -/
def DriverAuthorized (project : ProjectState) (driverAuthorization : Option DriverAuthorizationEvidence) : Prop :=
  ∃ authorization ∈ driverAuthorization, authorization.supervisorIntervention = false
    ∧ authorization.authorizedByRole = .developer
    ∧ ∀ binding ∈ project.approvedTargetBinding, authorization.bindingVersion = some binding.version

/-- A criterion is proved: some satisfied proof of it carries evidence. -/
def CriterionProved (report : AcceptanceReport) (criterion : String) : Prop :=
  ∃ proof ∈ report.criteria, proof.criterion = criterion ∧ proof.satisfied = true ∧ proof.evidenceRefs ≠ []

/-- A criterion the binding or the approval covers. -/
def CriterionRequired (binding : ApprovedTargetBinding) (approval : Option ProposalApprovalEvidence)
    (criterion : String) : Prop :=
  criterion ∈ binding.coveredAcceptanceCriteria ∨ ∃ a ∈ approval, criterion ∈ a.coveredAcceptanceCriteria

/-- The report proves the criteria for the approved target. -/
structure AcceptanceProved (binding : ApprovedTargetBinding) (approval : Option ProposalApprovalEvidence)
    (report : AcceptanceReport) : Prop where
  version : report.bindingVersion = some binding.version
  target : SameIdentity binding.target report.target ∨ hasReportSubstituteApproval binding report = true
  required : ∀ criterion, CriterionRequired binding approval criterion → CriterionProved report criterion
  proofs : ∀ proof ∈ report.criteria, proof.satisfied = true ∧ proof.evidenceRefs ≠ []
  live : report.liveVerificationRequired = true ∧ report.liveVerificationPassed = some true
  evidence : report.evidenceRefs ≠ []

/-! ## The source discovery -/

theorem hasExplicitSubstituteApproval_iff {binding : ApprovedTargetBinding} :
    hasExplicitSubstituteApproval binding = true ↔ SubstituteApproved binding := by
  unfold hasExplicitSubstituteApproval SubstituteApproved
  rw [Bool.and_eq_true, refsOverlap_iff]
  constructor
  · exact fun h => h.2
  · rintro ⟨ref, hb, ht⟩
    exact ⟨by simpa using List.ne_nil_of_mem hb, ref, hb, ht⟩

/-- The discovered targets, written as the list that is searched. -/
theorem any_sourceTargets_iff {binding : ApprovedTargetBinding} {discovery : SourceDiscoveryReport} :
    discovery.sourceTargets.any (fun target => targetIdentityMatches binding.target target) = true ↔
      ∃ target, (target ∈ discovery.recommendedTarget ∨ target ∈ discovery.discoveredSources)
        ∧ SameIdentity binding.target target := by
  simp only [SourceDiscoveryReport.sourceTargets, List.any_eq_true, targetIdentityMatches_iff,
    List.mem_append, Option.mem_toList, Option.mem_def]

/-- The discovery is accepted exactly when it supports the binding. The citation check is skipped when the
    ownership is unresolved or nothing is cited; either is a failure of its own. -/
theorem checkSourceDiscovery_iff {binding : ApprovedTargetBinding} {discovery : SourceDiscoveryReport} :
    (checkSourceDiscovery binding (some discovery)).failures = [] ∧ binding.sourceDiscoveryRefs ≠ [] ↔
      SourceDiscovered binding discovery := by
  -- the negated search of the source, turned into the positive statement once
  have htarget : ¬(!(discovery.sourceTargets.any (fun target => targetIdentityMatches binding.target target))
        && !hasExplicitSubstituteApproval binding) = true ↔
      (∃ target, (target ∈ discovery.recommendedTarget ∨ target ∈ discovery.discoveredSources)
        ∧ SameIdentity binding.target target) ∨ SubstituteApproved binding := by
    rw [← any_sourceTargets_iff, ← hasExplicitSubstituteApproval_iff]
    cases discovery.sourceTargets.any (fun target => targetIdentityMatches binding.target target) <;> simp
  simp only [checkSourceDiscovery, List.append_eq_nil_iff, failIf_eq_nil, htarget]
  constructor
  · rintro ⟨⟨⟨hevidence, hgate⟩, ht⟩, hrefs⟩
    split_ifs at hgate with howner
    have hoverlap := failIf_eq_nil.mp hgate
    exact
      { evidence := hevidence
        cited := refsOverlap_iff.mp (by simpa [hrefs] using hoverlap)
        ownership := by simpa using howner
        target := ht }
  · intro h
    have howner : ¬blockedGates.contains discovery.requiredNextGate = true := by simpa using h.ownership
    obtain ⟨ref, hb, hd⟩ := h.cited
    refine ⟨⟨⟨h.evidence, ?_⟩, h.target⟩, List.ne_nil_of_mem hb⟩
    rw [if_neg howner, failIf_eq_nil, refsOverlap_iff.mpr ⟨ref, hb, hd⟩]
    simp

section
variable [UnicodeData]

/-! ## The target comparison -/

theorem fieldFailure_eq_none {approved candidate : Option FieldValue} {field : IdentityField} :
    fieldFailure approved candidate field = none ↔ approved = candidate := by
  unfold fieldFailure
  cases approved with
  | none => cases candidate <;> simp
  | some a =>
      cases candidate with
      | none => simp
      | some c => by_cases h : a = c <;> simp [h]

theorem targetMatchesBinding_failures {binding : ApprovedTargetBinding} {candidate : TargetSurface} :
    (targetMatchesBinding binding candidate).failures = [] ↔ SameIdentity binding.target candidate := by
  rw [sameIdentity_iff]
  simp only [targetMatchesBinding, List.filterMap_eq_nil_iff, fieldFailure_eq_none]
  exact ⟨fun h field => h field (mem_identityFields field), fun h field _ => h field⟩

/-- The comparison passes exactly when the seven fields agree. -/
theorem targetMatchesBinding_ok {binding : ApprovedTargetBinding} {candidate : TargetSurface} :
    (targetMatchesBinding binding candidate).ok = true ↔ SameIdentity binding.target candidate := by
  rw [← targetMatchesBinding_failures]
  simp only [targetMatchesBinding, TargetBindingCheck.ok, beq_iff_eq]
  split_ifs with h
  · exact iff_of_true rfl h
  · exact iff_of_false (by decide) h

/-! ## The proposal gate -/

theorem criteriaMismatchFailures_eq_nil {approved binding : List String} :
    criteriaMismatchFailures approved binding = [] ↔ ∀ criterion, criterion ∈ binding ↔ criterion ∈ approved := by
  simp only [criteriaMismatchFailures, List.append_eq_nil_iff, List.map_eq_nil_iff, sortedDifference_eq_nil]
  exact ⟨fun h criterion => ⟨h.2 criterion, h.1 criterion⟩,
    fun h => ⟨fun criterion => (h criterion).mpr, fun criterion => (h criterion).mp⟩⟩

theorem approvalMismatchFailures_eq_nil {binding : ApprovedTargetBinding}
    {approval : ProposalApprovalEvidence} :
    approvalMismatchFailures binding approval = [] ↔ ApprovalAgrees binding approval := by
  simp only [approvalMismatchFailures, List.append_eq_nil_iff, failIf_eq_nil, not_not,
    criteriaMismatchFailures_eq_nil]
  constructor
  · rintro ⟨⟨⟨⟨⟨hid, hversion⟩, hdigest⟩, hrecord⟩, hby⟩, hcriteria⟩
    exact ⟨hid, hversion, hdigest, hrecord, hby, hcriteria⟩
  · rintro ⟨hid, hversion, hdigest, hrecord, hby, hcriteria⟩
    exact ⟨⟨⟨⟨⟨hid, hversion⟩, hdigest⟩, hrecord⟩, hby⟩, hcriteria⟩

/-- The collected failures are none exactly when the proposal is approved. -/
theorem bindingEvidenceFailures_eq_nil {project : ProjectState} :
    (bindingEvidenceFailures project).2 = [] ↔ ProposalApproved project := by
  unfold bindingEvidenceFailures ProposalApproved
  cases hb : project.approvedTargetBinding with
  | none => simp
  | some binding =>
      cases hd : project.sourceDiscovery with
      | none =>
          -- a missing discovery is a failure whatever the approval says
          cases project.proposalApproval <;> simp [checkSourceDiscovery]
      | some discovery =>
          cases ha : project.proposalApproval with
          | none => simp
          | some approval =>
              simp only [List.append_eq_nil_iff, failIf_eq_nil, approvalMismatchFailures_eq_nil,
                Option.mem_some_iff, exists_eq_left', checkSourceDiscovery_iff]

/-- A failing proposal gate never reports a passing status. -/
theorem bindingEvidenceFailures_status (project : ProjectState) :
    (bindingEvidenceFailures project).1 ≠ .notRequired ∧ (bindingEvidenceFailures project).1 ≠ .approved := by
  have hstatus : ∀ blockedOwnership targetMismatch,
      proposalGateFailureStatus blockedOwnership targetMismatch ≠ .notRequired
        ∧ proposalGateFailureStatus blockedOwnership targetMismatch ≠ .approved := by decide
  unfold bindingEvidenceFailures
  cases project.approvedTargetBinding with
  | none => exact ⟨nofun, nofun⟩
  | some binding => cases project.proposalApproval <;> exact hstatus _ _

/-- The failures of a required gate are none exactly when the proposal is approved. -/
theorem checkProposalGate_failures {project : ProjectState} (h : project.proposalRequired = true) :
    (checkProposalGate project).failures = [] ↔ ProposalApproved project := by
  rw [← bindingEvidenceFailures_eq_nil, checkProposalGate, if_neg (by simp [h])]
  cases hb : project.approvedTargetBinding with
  | none => simp [bindingEvidenceFailures, hb]
  | some binding =>
      simp only
      split_ifs with hf
      · exact Iff.rfl
      · exact iff_of_true rfl (not_not.mp hf)

/-- **The proposal gate.** A required gate passes exactly when the proposal is approved. -/
theorem checkProposalGate_ok {project : ProjectState} (h : project.proposalRequired = true) :
    (checkProposalGate project).ok = true ↔ ProposalApproved project := by
  rw [← bindingEvidenceFailures_eq_nil, checkProposalGate, if_neg (by simp [h])]
  cases hb : project.approvedTargetBinding with
  | none => simp [bindingEvidenceFailures, hb, ProposalGateCheck.ok]
  | some binding =>
      simp only
      split_ifs with hf
      · simp [ProposalGateCheck.ok, hf, bindingEvidenceFailures_status project]
      · exact iff_of_true rfl (not_not.mp hf)

/-- A proposal gate passes exactly when it collected no failure. -/
theorem checkProposalGate_failures_eq_nil {project : ProjectState} :
    (checkProposalGate project).failures = [] ↔ (checkProposalGate project).ok = true := by
  cases hrequired : project.proposalRequired with
  | false => simp [checkProposalGate, hrequired, ProposalGateCheck.ok]
  | true => rw [checkProposalGate_failures hrequired, checkProposalGate_ok hrequired]

/-! ## The acceptance gate -/

omit [UnicodeData] in
theorem mem_provedCriteria {report : AcceptanceReport} {criterion : String} :
    criterion ∈ report.provedCriteria ↔ CriterionProved report criterion := by
  simp only [AcceptanceReport.provedCriteria, CriterionProved, List.mem_map, List.mem_filter,
    Bool.and_eq_true, Bool.not_eq_true', List.isEmpty_eq_false_iff]
  constructor
  · rintro ⟨proof, ⟨hmem, hsat, hev⟩, hcrit⟩
    exact ⟨proof, hmem, hcrit, hsat, hev⟩
  · rintro ⟨proof, hmem, hcrit, hsat, hev⟩
    exact ⟨proof, ⟨hmem, hsat, hev⟩, hcrit⟩

omit [UnicodeData] in
/-- Adding the approval's criteria one by one, each unless it is there already, adds all of them. -/
theorem mem_foldl_criteria {criterion : String} (approved required : List String) :
    criterion ∈ approved.foldl (fun required c => if c ∈ required then required else required ++ [c]) required
      ↔ criterion ∈ required ∨ criterion ∈ approved := by
  induction approved generalizing required with
  | nil => simp
  | cons c approved ih =>
      rw [List.foldl_cons, ih]
      split_ifs with hc
      · constructor
        · rintro (h | h)
          · exact Or.inl h
          · exact Or.inr (List.mem_cons_of_mem _ h)
        · rintro (h | h)
          · exact Or.inl h
          · rcases List.mem_cons.mp h with rfl | h
            · exact Or.inl hc
            · exact Or.inr h
      · rw [List.mem_append, List.mem_singleton, List.mem_cons, or_assoc]

omit [UnicodeData] in
theorem mem_requiredCriteria {binding : ApprovedTargetBinding} {approval : Option ProposalApprovalEvidence}
    {criterion : String} :
    criterion ∈ requiredCriteria binding approval ↔ CriterionRequired binding approval criterion := by
  unfold requiredCriteria CriterionRequired
  cases approval with
  | none => simp
  | some a => simp only [mem_foldl_criteria, Option.mem_some_iff, exists_eq_left']

theorem acceptanceFailures_eq_nil {binding : ApprovedTargetBinding}
    {approval : Option ProposalApprovalEvidence} {report : AcceptanceReport} :
    acceptanceFailures binding approval report = [] ↔ AcceptanceProved binding approval report := by
  -- the target texts end with one that is always there, so they are none only when the check is skipped
  have htarget : (if (targetMatchesBinding binding report.target).ok = false
        ∧ hasReportSubstituteApproval binding report = false then
      (targetMatchesBinding binding report.target).failures
        ++ ["substitute deliverable is not explicitly approved for terminal acceptance"]
      else []) = [] ↔ SameIdentity binding.target report.target
        ∨ hasReportSubstituteApproval binding report = true := by
    rw [← targetMatchesBinding_ok]
    split_ifs with h
    · simp [h]
    · simpa [or_iff_not_imp_left] using h
  simp only [acceptanceFailures, List.append_eq_nil_iff, failIf_eq_nil, htarget, List.flatMap_eq_nil_iff,
    mem_requiredCriteria, mem_provedCriteria, not_not, Bool.not_eq_false]
  constructor
  · rintro ⟨⟨⟨⟨⟨⟨hversion, ht⟩, hrequired⟩, hproofs⟩, hlive⟩, hpassed⟩, hevidence⟩
    exact ⟨hversion, ht, hrequired, hproofs, ⟨hlive, hpassed⟩, hevidence⟩
  · rintro ⟨hversion, ht, hrequired, hproofs, ⟨hlive, hpassed⟩, hevidence⟩
    exact ⟨⟨⟨⟨⟨⟨hversion, ht⟩, hrequired⟩, hproofs⟩, hlive⟩, hpassed⟩, hevidence⟩

/-- **The acceptance gate.** For a project that needs a proposal it passes exactly when the proposal is
    approved and the recorded report proves the criteria for the approved target. -/
theorem checkAcceptanceProof_ok {project : ProjectState} (h : project.proposalRequired = true) :
    (checkAcceptanceProof project).ok = true ↔ ProposalApproved project ∧
      ∃ binding ∈ project.approvedTargetBinding, ∃ report ∈ project.acceptanceReport,
        AcceptanceProved binding project.proposalApproval report := by
  rw [checkAcceptanceProof, if_neg (by simp [h])]
  cases hb : project.approvedTargetBinding with
  | none => simp
  | some binding =>
      cases hr : project.acceptanceReport with
      | none => simp
      | some report =>
          simp only [decide_eq_true_eq, List.append_eq_nil_iff, checkProposalGate_failures h,
            acceptanceFailures_eq_nil, Option.mem_some_iff, exists_eq_left']

/-! ## The transition gate -/

/-- The proposal part of the transition gate. -/
theorem implementationFailures_eq_nil {project : ProjectState} {nextPhase : ProjectIntakePhase}
    {candidateTarget : Option TargetSurface} (h : project.proposalRequired = true) :
    (implementationFailures project nextPhase candidateTarget).2 = [] ↔
      (nextPhase ∈ gatedImplementationPhases →
        ProposalApproved project ∧ CandidateApproved project candidateTarget) := by
  unfold implementationFailures
  by_cases hgated : nextPhase ∈ gatedImplementationPhases
  · rw [if_pos ⟨h, hgated⟩, ← checkProposalGate_ok h]
    simp only [hgated, true_imp_iff]
    cases hok : (checkProposalGate project).ok with
    | false =>
        have hfailures : (checkProposalGate project).failures ≠ [] := by
          rw [ne_eq, checkProposalGate_failures_eq_nil, hok]
          exact Bool.false_ne_true
        simp [hfailures]
    | true =>
        -- an approved proposal has a binding, so the target is compared with it
        obtain ⟨binding, hb, -⟩ := (checkProposalGate_ok h).mp hok
        rw [Option.mem_def] at hb
        cases candidateTarget with
        | none => simp [CandidateApproved]
        | some candidate =>
            simp only [Bool.true_eq_false, if_false, checkProjectTargetBinding, hb, true_and, CandidateApproved,
              Option.mem_some_iff, exists_eq_left', ← targetMatchesBinding_ok]
            split_ifs with hc
            · rw [targetMatchesBinding_failures, ← targetMatchesBinding_ok]
            · exact iff_of_true rfl (Bool.eq_true_of_not_eq_false hc)
  · rw [if_neg (fun hc => hgated hc.2)]
    exact iff_of_true rfl (fun hc => absurd hc hgated)

/-- The authorization part asks, in driver-test mode, for an authorization of the progress phases. -/
theorem authorizationFailures_eq_nil {project : ProjectState} {nextPhase : ProjectIntakePhase}
    {driverAuthorization : Option DriverAuthorizationEvidence} {driverTestMode : Bool} :
    authorizationFailures project nextPhase driverAuthorization driverTestMode = [] ↔
      (driverTestMode = true → nextPhase ∈ driverAuthorizedProgressPhases →
        DriverAuthorized project driverAuthorization) := by
  unfold authorizationFailures
  by_cases hasked : driverTestMode = true ∧ nextPhase ∈ driverAuthorizedProgressPhases
  · rw [if_pos hasked]
    simp only [hasked.1, hasked.2, true_imp_iff]
    cases driverAuthorization with
    | none => simp [DriverAuthorized]
    | some authorization =>
        simp only [DriverAuthorized, Option.mem_some_iff, exists_eq_left']
        split_ifs with hsupervisor hrole
        · simp [hsupervisor]
        · simp [hrole]
        · rw [Bool.not_eq_true] at hsupervisor
          rw [ne_eq, not_not] at hrole
          cases project.approvedTargetBinding <;> simp [hsupervisor, hrole]
  · rw [if_neg hasked]
    exact iff_of_true rfl (fun hmode hphase => absurd ⟨hmode, hphase⟩ hasked)

/-- The authorization part asks for nothing outside driver-test mode. -/
theorem authorizationFailures_testOff (project : ProjectState) (nextPhase : ProjectIntakePhase)
    (driverAuthorization : Option DriverAuthorizationEvidence) :
    authorizationFailures project nextPhase driverAuthorization false = [] :=
  authorizationFailures_eq_nil.mpr fun hmode => absurd hmode Bool.false_ne_true

/-- A move to a new phase passes exactly when neither part of the gate finds anything. -/
theorem checkProjectTransitionGate_ok_failures {project : ProjectState} {nextPhase : ProjectIntakePhase}
    {candidateTarget : Option TargetSurface} {driverAuthorization : Option DriverAuthorizationEvidence}
    {driverTestMode : Bool} (hnext : nextPhase ≠ project.phase) :
    (checkProjectTransitionGate project nextPhase candidateTarget driverAuthorization driverTestMode).ok = true ↔
      (implementationFailures project nextPhase candidateTarget).2 = []
      ∧ authorizationFailures project nextPhase driverAuthorization driverTestMode = [] := by
  rw [checkProjectTransitionGate, if_neg hnext, ← List.append_eq_nil_iff]
  simp only
  split_ifs with hf
  · exact iff_of_true rfl hf
  · exact iff_of_false not_false hf

/-- **The transition gate.** A move to a new phase passes exactly when an implementation phase has its
    proposal approved and its candidate the approved target, and the authorization is in order. -/
theorem checkProjectTransitionGate_ok {project : ProjectState} {nextPhase : ProjectIntakePhase}
    {candidateTarget : Option TargetSurface} {driverAuthorization : Option DriverAuthorizationEvidence}
    {driverTestMode : Bool} (h : project.proposalRequired = true) (hnext : nextPhase ≠ project.phase) :
    (checkProjectTransitionGate project nextPhase candidateTarget driverAuthorization driverTestMode).ok = true ↔
      (nextPhase ∈ gatedImplementationPhases →
        ProposalApproved project ∧ CandidateApproved project candidateTarget)
      ∧ authorizationFailures project nextPhase driverAuthorization driverTestMode = [] := by
  rw [checkProjectTransitionGate_ok_failures hnext, implementationFailures_eq_nil h]

/-- The gate has no say in a phase that is neither an implementation phase nor a driver-authorized one. -/
theorem checkProjectTransitionGate_ungated {project : ProjectState} {nextPhase : ProjectIntakePhase}
    {candidateTarget : Option TargetSurface} {driverAuthorization : Option DriverAuthorizationEvidence}
    {driverTestMode : Bool} (hgated : nextPhase ∉ gatedImplementationPhases)
    (hauthorized : nextPhase ∉ driverAuthorizedProgressPhases) :
    checkProjectTransitionGate project nextPhase candidateTarget driverAuthorization driverTestMode
      = { ok := true } := by
  have himplementation : implementationFailures project nextPhase candidateTarget = (.approved, []) :=
    if_neg fun hc => hgated hc.2
  have hauthorization : authorizationFailures project nextPhase driverAuthorization driverTestMode = [] :=
    if_neg fun hc => hauthorized hc.2
  rw [checkProjectTransitionGate, himplementation, hauthorization]
  simp

omit [UnicodeData] in
/-- The owner of the gate's blocker only depends on the status. -/
theorem blockerForTransitionGate_ownerRole {projectId : String} {fromPhase nextPhase : ProjectIntakePhase}
    {status : ProposalGateStatus} {failures : List String} :
    (blockerForTransitionGate projectId fromPhase nextPhase status failures).ownerRole
      = if status = .blockedOwnership then .processSteward else .humanApprover := rfl

/-- A gate that does not pass builds the blocker for its failures. -/
theorem checkProjectTransitionGate_blocker {project : ProjectState} {nextPhase : ProjectIntakePhase}
    {candidateTarget : Option TargetSurface} {driverAuthorization : Option DriverAuthorizationEvidence}
    {driverTestMode : Bool}
    (h : (checkProjectTransitionGate project nextPhase candidateTarget driverAuthorization driverTestMode).ok
      = false) :
    nextPhase ≠ project.phase ∧ ∃ status failures,
      (checkProjectTransitionGate project nextPhase candidateTarget driverAuthorization driverTestMode).blocker
        = some (blockerForTransitionGate project.id project.phase nextPhase status failures) := by
  unfold checkProjectTransitionGate at h ⊢
  split_ifs at h ⊢ with hnext
  refine ⟨hnext, ?_⟩
  simp only at h ⊢
  split_ifs at h ⊢ with hf
  exact ⟨_, _, rfl⟩

end
end WorkflowDrivers
