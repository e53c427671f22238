import WorkflowDrivers.Lib.Entries
import WorkflowDrivers.Correctness.ProcessAudit

/-!
# `Correctness.VerdictOrder` — the verdicts do not depend on the order of the evidence

A record that is written and read again may come back with its lists in another order, or with an entry twice.
Two projects that differ in that alone get the same verdicts. The proposal gate even reports the same failures,
since it quotes criteria only after sorting them; the acceptance gate reports in the order of the lists, so there
it is the verdict that is the same.

Each relation below says `rest`, that everything but the lists is equal, and one field per list. A list whose
entries hold lists themselves is compared by the relation for its entries.
-/

namespace WorkflowDrivers
open Lib

/-! ## Equal up to order and repetition -/

structure SameSurface (a b : TargetSurface) : Prop where
  rest : b = { a with evidenceRefs := b.evidenceRefs }
  evidence : SameElements a.evidenceRefs b.evidenceRefs

structure SameDiscovery (a b : SourceDiscoveryReport) : Prop where
  rest : b =
    { a with
      discoveredSources := b.discoveredSources
      discoveredSources_ne := b.discoveredSources_ne
      recommendedTarget := b.recommendedTarget
      evidenceRefs := b.evidenceRefs }
  sources : SameEntries SameSurface a.discoveredSources b.discoveredSources
  recommended : Option.Rel SameSurface a.recommendedTarget b.recommendedTarget
  evidence : SameElements a.evidenceRefs b.evidenceRefs

structure SameApproval (a b : ProposalApprovalEvidence) : Prop where
  rest : b = { a with coveredAcceptanceCriteria := b.coveredAcceptanceCriteria }
  criteria : SameElements a.coveredAcceptanceCriteria b.coveredAcceptanceCriteria

structure SameBinding (a b : ApprovedTargetBinding) : Prop where
  rest : b =
    { a with
      target := b.target
      coveredAcceptanceCriteria := b.coveredAcceptanceCriteria
      allowedSideEffectSurfaces := b.allowedSideEffectSurfaces
      approvedSubstituteArtifacts := b.approvedSubstituteArtifacts
      sourceDiscoveryRefs := b.sourceDiscoveryRefs }
  target : SameSurface a.target b.target
  criteria : SameElements a.coveredAcceptanceCriteria b.coveredAcceptanceCriteria
  surfaces : SameEntries SameSurface a.allowedSideEffectSurfaces b.allowedSideEffectSurfaces
  substitutes : SameElements a.approvedSubstituteArtifacts b.approvedSubstituteArtifacts
  discoveryRefs : SameElements a.sourceDiscoveryRefs b.sourceDiscoveryRefs

structure SameProof (a b : AcceptanceCriterionProof) : Prop where
  rest : b = { a with evidenceRefs := b.evidenceRefs }
  evidence : SameElements a.evidenceRefs b.evidenceRefs

structure SameReport (a b : AcceptanceReport) : Prop where
  rest : b =
    { a with
      target := b.target
      criteria := b.criteria
      substituteApprovalRefs := b.substituteApprovalRefs
      evidenceRefs := b.evidenceRefs }
  target : SameSurface a.target b.target
  criteria : SameEntries SameProof a.criteria b.criteria
  substitutes : SameElements a.substituteApprovalRefs b.substituteApprovalRefs
  evidence : SameElements a.evidenceRefs b.evidenceRefs

/-- **The same project**, up to the order and repetition of its evidence. -/
structure SameProject (a b : ProjectState) : Prop where
  rest : b =
    { a with
      sourceDiscovery := b.sourceDiscovery
      proposalApproval := b.proposalApproval
      approvedTargetBinding := b.approvedTargetBinding
      acceptanceReport := b.acceptanceReport }
  discovery : Option.Rel SameDiscovery a.sourceDiscovery b.sourceDiscovery
  approval : Option.Rel SameApproval a.proposalApproval b.proposalApproval
  binding : Option.Rel SameBinding a.approvedTargetBinding b.approvedTargetBinding
  report : Option.Rel SameReport a.acceptanceReport b.acceptanceReport

/-! ## What is no list is equal -/

theorem SameBinding.version {a b : ApprovedTargetBinding} (h : SameBinding a b) : a.version = b.version := by
  rw [h.rest]

theorem SameProof.satisfied {a b : AcceptanceCriterionProof} (h : SameProof a b) : a.satisfied = b.satisfied := by
  rw [h.rest]

theorem SameProject.phase {a b : ProjectState} (h : SameProject a b) : a.phase = b.phase := by rw [h.rest]

theorem SameProject.proposalRequired {a b : ProjectState} (h : SameProject a b) :
    a.proposalRequired = b.proposalRequired := by rw [h.rest]

/-! ## The tests the gates are made of -/

theorem refsOverlap_congr {left left' right right' : List EvidenceRef} (hleft : SameElements left left')
    (hright : SameElements right right') : refsOverlap left right = refsOverlap left' right' := by
  rw [Bool.eq_iff_iff, refsOverlap_iff, refsOverlap_iff]
  apply hleft.exists_iff
  intro ref ref' href
  rw [← href]
  exact hright.mem_iff ref

/-- The identity of a surface is not part of its evidence. -/
theorem SameSurface.getattr {a b : TargetSurface} (h : SameSurface a b) (field : IdentityField) :
    a.getattr field = b.getattr field := by
  rw [h.rest]
  cases field <;> rfl

theorem targetIdentityMatches_congr {a a' b b' : TargetSurface} (ha : SameSurface a a') (hb : SameSurface b b') :
    targetIdentityMatches a b = targetIdentityMatches a' b' := by
  simp only [targetIdentityMatches, ha.getattr, hb.getattr]

theorem sameIdentity_congr {a a' b b' : TargetSurface} (ha : SameSurface a a') (hb : SameSurface b b') :
    SameIdentity a b ↔ SameIdentity a' b' := by
  simp only [sameIdentity_iff, ha.getattr, hb.getattr]

theorem SameSurface.refl (a : TargetSurface) : SameSurface a a :=
  ⟨rfl, sameEntries_refl Eq.refl _⟩

theorem SameDiscovery.sourceTargets {a b : SourceDiscoveryReport} (h : SameDiscovery a b) :
    SameEntries SameSurface a.sourceTargets b.sourceTargets :=
  (sameEntries_toList h.recommended).append h.sources

theorem hasExplicitSubstituteApproval_congr {a b : ApprovedTargetBinding} (h : SameBinding a b) :
    hasExplicitSubstituteApproval a = hasExplicitSubstituteApproval b := by
  rw [hasExplicitSubstituteApproval, hasExplicitSubstituteApproval, h.substitutes.isEmpty_eq,
    refsOverlap_congr h.substitutes h.target.evidence]

theorem hasReportSubstituteApproval_congr {a b : ApprovedTargetBinding} {report report' : AcceptanceReport}
    (h : SameBinding a b) (hr : SameReport report report') :
    hasReportSubstituteApproval a report = hasReportSubstituteApproval b report' := by
  have hsurfaces := h.surfaces.any_eq
    (f := fun surface => targetIdentityMatches surface report.target
      && refsOverlap a.approvedSubstituteArtifacts surface.evidenceRefs
      && refsOverlap report.substituteApprovalRefs report.target.evidenceRefs)
    (g := fun surface => targetIdentityMatches surface report'.target
      && refsOverlap b.approvedSubstituteArtifacts surface.evidenceRefs
      && refsOverlap report'.substituteApprovalRefs report'.target.evidenceRefs)
    (fun surface surface' hsurface => by
      rw [targetIdentityMatches_congr hsurface hr.target, refsOverlap_congr h.substitutes hsurface.evidence,
        refsOverlap_congr hr.substitutes hr.target.evidence])
  rw [hasReportSubstituteApproval, hasReportSubstituteApproval, hsurfaces, h.substitutes.isEmpty_eq,
    hr.substitutes.isEmpty_eq, refsOverlap_congr h.substitutes hr.substitutes]

/-! ## The proposal gate -/

theorem failIf_congr {p q : Prop} [Decidable p] [Decidable q] (h : p ↔ q) (text : String) :
    failIf p text = failIf q text := by
  unfold failIf
  by_cases hp : p
  · rw [if_pos hp, if_pos (h.mp hp)]
  · rw [if_neg hp, if_neg (fun hq => hp (h.mpr hq))]

/-- The discovery is checked with the same failures and the same status. -/
theorem checkSourceDiscovery_congr {a b : ApprovedTargetBinding} (h : SameBinding a b)
    {discovery discovery' : Option SourceDiscoveryReport} (hrel : Option.Rel SameDiscovery discovery discovery') :
    checkSourceDiscovery a discovery = checkSourceDiscovery b discovery' := by
  rcases rel_cases hrel with ⟨rfl, rfl⟩ | ⟨d, d', rfl, rfl, hd⟩
  · rfl
  · have hgate : d.requiredNextGate = d'.requiredNextGate := by rw [hd.rest]
    have htargets : d.sourceTargets.any (fun target => targetIdentityMatches a.target target)
        = d'.sourceTargets.any (fun target => targetIdentityMatches b.target target) :=
      hd.sourceTargets.any_eq fun _ _ => targetIdentityMatches_congr h.target
    have hempty := failIf_congr hd.evidence.nil_iff "source discovery report must include evidence refs"
    have hcited := failIf_congr
      (p := a.sourceDiscoveryRefs ≠ [] ∧ refsOverlap a.sourceDiscoveryRefs d.evidenceRefs = false)
      (q := b.sourceDiscoveryRefs ≠ [] ∧ refsOverlap b.sourceDiscoveryRefs d'.evidenceRefs = false)
      (and_congr h.discoveryRefs.nil_iff.not (by rw [refsOverlap_congr h.discoveryRefs hd.evidence]))
      "approved target binding must cite the persisted source discovery evidence"
    simp only [checkSourceDiscovery, hgate, htargets, hempty, hcited, hasExplicitSubstituteApproval_congr h]

section
variable [UnicodeData]

/-- The criteria are quoted after sorting, so even their order is the same. -/
theorem approvalMismatchFailures_congr {a b : ApprovedTargetBinding} (h : SameBinding a b)
    {approval approval' : ProposalApprovalEvidence} (ha : SameApproval approval approval') :
    approvalMismatchFailures a approval = approvalMismatchFailures b approval' := by
  have hcriteria : criteriaMismatchFailures approval.coveredAcceptanceCriteria a.coveredAcceptanceCriteria
      = criteriaMismatchFailures approval'.coveredAcceptanceCriteria b.coveredAcceptanceCriteria := by
    rw [criteriaMismatchFailures, criteriaMismatchFailures, sortedDifference_congr ha.criteria h.criteria,
      sortedDifference_congr h.criteria ha.criteria]
  rw [approvalMismatchFailures, approvalMismatchFailures, hcriteria, h.rest, ha.rest]

variable {a b : ProjectState}

theorem bindingEvidenceFailures_congr (h : SameProject a b) :
    bindingEvidenceFailures a = bindingEvidenceFailures b := by
  unfold bindingEvidenceFailures
  rcases rel_cases h.binding with ⟨hb, hb'⟩ | ⟨binding, binding', hb, hb', hbinding⟩
  · rw [hb, hb']
  · have hdiscovery := checkSourceDiscovery_congr hbinding h.discovery
    have huncited := failIf_congr hbinding.discoveryRefs.nil_iff
      "approved target binding must reference source discovery evidence"
    rcases rel_cases h.approval with ⟨ha, ha'⟩ | ⟨approval, approval', ha, ha', happroval⟩
    · simp only [hb, hb', ha, ha', hdiscovery, huncited]
    · simp only [hb, hb', ha, ha', hdiscovery, huncited, approvalMismatchFailures_congr hbinding happroval]

/-- **The proposal gate** makes the same check: status, version and failures. -/
theorem checkProposalGate_congr (h : SameProject a b) : checkProposalGate a = checkProposalGate b := by
  unfold checkProposalGate
  rw [h.proposalRequired, bindingEvidenceFailures_congr h]
  rcases rel_cases h.binding with ⟨hb, hb'⟩ | ⟨binding, binding', hb, hb', hbinding⟩
  · rw [hb, hb']
  · simp only [hb, hb', hbinding.version]

/-! ## The transition gate -/

theorem checkProjectTargetBinding_congr (h : SameProject a b) (candidate : TargetSurface) :
    checkProjectTargetBinding a candidate = checkProjectTargetBinding b candidate := by
  unfold checkProjectTargetBinding
  rcases rel_cases h.binding with ⟨hb, hb'⟩ | ⟨binding, binding', hb, hb', hbinding⟩
  · rw [hb, hb']
  · simp only [hb, hb', targetMatchesBinding, hbinding.version, hbinding.target.getattr]

theorem authorizationFailures_congr (h : SameProject a b) (nextPhase : ProjectIntakePhase)
    (driverAuthorization : Option DriverAuthorizationEvidence) (driverTestMode : Bool) :
    authorizationFailures a nextPhase driverAuthorization driverTestMode
      = authorizationFailures b nextPhase driverAuthorization driverTestMode := by
  unfold authorizationFailures
  rcases rel_cases h.binding with ⟨hb, hb'⟩ | ⟨binding, binding', hb, hb', hbinding⟩
  · rw [hb, hb']
  · simp only [hb, hb', hbinding.version]

/-- **The transition gate** makes the same check, for every phase. -/
theorem checkProjectTransitionGate_congr (h : SameProject a b) (nextPhase : ProjectIntakePhase)
    (candidateTarget : Option TargetSurface) (driverAuthorization : Option DriverAuthorizationEvidence)
    (driverTestMode : Bool) :
    checkProjectTransitionGate a nextPhase candidateTarget driverAuthorization driverTestMode
      = checkProjectTransitionGate b nextPhase candidateTarget driverAuthorization driverTestMode := by
  have hid : a.id = b.id := by rw [h.rest]
  have himplementation : implementationFailures a nextPhase candidateTarget
      = implementationFailures b nextPhase candidateTarget := by
    simp only [implementationFailures, h.proposalRequired, checkProposalGate_congr h,
      checkProjectTargetBinding_congr h]
  simp only [checkProjectTransitionGate, hid, h.phase, himplementation, authorizationFailures_congr h]

/-! ## The acceptance gate -/

omit [UnicodeData] in
theorem criterionProved_congr {report report' : AcceptanceReport} (h : SameReport report report')
    (criterion : String) : CriterionProved report criterion ↔ CriterionProved report' criterion := by
  apply h.criteria.exists_iff
  intro proof proof' hproof
  have hcriterion : proof.criterion = proof'.criterion := by rw [hproof.rest]
  rw [hcriterion, hproof.satisfied, ne_eq, ne_eq, hproof.evidence.nil_iff]

omit [UnicodeData] in
theorem criterionRequired_congr {binding binding' : ApprovedTargetBinding} (h : SameBinding binding binding')
    {approval approval' : Option ProposalApprovalEvidence} (ha : Option.Rel SameApproval approval approval')
    (criterion : String) :
    CriterionRequired binding approval criterion ↔ CriterionRequired binding' approval' criterion := by
  apply or_congr (h.criteria.mem_iff criterion)
  apply rel_exists_iff ha
  intro a a' haa
  exact haa.criteria.mem_iff criterion

omit [UnicodeData] in
/-- What a report proves does not depend on the order either. -/
theorem acceptanceProved_congr {binding binding' : ApprovedTargetBinding} (h : SameBinding binding binding')
    {approval approval' : Option ProposalApprovalEvidence} (ha : Option.Rel SameApproval approval approval')
    {report report' : AcceptanceReport} (hr : SameReport report report') :
    AcceptanceProved binding approval report ↔ AcceptanceProved binding' approval' report' := by
  have hversion : report.bindingVersion = some binding.version
      ↔ report'.bindingVersion = some binding'.version := by rw [h.rest, hr.rest]
  have htarget : (SameIdentity binding.target report.target ∨ hasReportSubstituteApproval binding report = true)
      ↔ (SameIdentity binding'.target report'.target ∨ hasReportSubstituteApproval binding' report' = true) := by
    rw [sameIdentity_congr h.target hr.target, hasReportSubstituteApproval_congr h hr]
  have hrequired : (∀ criterion, CriterionRequired binding approval criterion → CriterionProved report criterion)
      ↔ ∀ criterion, CriterionRequired binding' approval' criterion → CriterionProved report' criterion := by
    apply forall_congr'
    intro criterion
    rw [criterionRequired_congr h ha criterion, criterionProved_congr hr criterion]
  have hproofs : (∀ proof ∈ report.criteria, proof.satisfied = true ∧ proof.evidenceRefs ≠ [])
      ↔ ∀ proof ∈ report'.criteria, proof.satisfied = true ∧ proof.evidenceRefs ≠ [] := by
    apply hr.criteria.forall_iff
    intro proof proof' hproof
    rw [hproof.satisfied, ne_eq, ne_eq, hproof.evidence.nil_iff]
  have hlive : (report.liveVerificationRequired = true ∧ report.liveVerificationPassed = some true)
      ↔ (report'.liveVerificationRequired = true ∧ report'.liveVerificationPassed = some true) := by rw [hr.rest]
  constructor
  · rintro ⟨hv, ht, hreq, hp, hl, he⟩
    exact ⟨hversion.mp hv, htarget.mp ht, hrequired.mp hreq, hproofs.mp hp, hlive.mp hl,
      mt hr.evidence.nil_iff.mpr he⟩
  · rintro ⟨hv, ht, hreq, hp, hl, he⟩
    exact ⟨hversion.mpr hv, htarget.mpr ht, hrequired.mpr hreq, hproofs.mpr hp, hlive.mpr hl,
      mt hr.evidence.nil_iff.mp he⟩

theorem checkAcceptanceProof_congr (h : SameProject a b) :
    (checkAcceptanceProof a).ok = (checkAcceptanceProof b).ok := by
  cases ha : a.proposalRequired with
  | false =>
      have hb : b.proposalRequired = false := h.proposalRequired.symm.trans ha
      rw [checkAcceptanceProof, checkAcceptanceProof, if_pos ha, if_pos hb]
  | true =>
      have hb : b.proposalRequired = true := h.proposalRequired.symm.trans ha
      rw [Bool.eq_iff_iff, checkAcceptanceProof_ok ha, checkAcceptanceProof_ok hb, ← checkProposalGate_ok ha,
        ← checkProposalGate_ok hb, checkProposalGate_congr h]
      apply and_congr_right
      intro _
      apply rel_exists_iff h.binding
      intro binding binding' hbinding
      apply rel_exists_iff h.report
      intro report report' hreport
      exact acceptanceProved_congr hbinding h.approval hreport

/-! ## The audit -/

omit [UnicodeData] in
theorem sourceMatched_congr (h : SameProject a b) (candidate : TargetSurface) :
    SourceMatched a candidate ↔ SourceMatched b candidate := by
  apply rel_exists_iff h.discovery
  intro d d' hd
  have htargets : (∃ target ∈ d.sourceTargets, SameIdentity candidate target)
      ↔ ∃ target ∈ d'.sourceTargets, SameIdentity candidate target :=
    hd.sourceTargets.exists_iff fun _ _ => sameIdentity_congr (SameSurface.refl candidate)
  simpa only [SourceDiscoveryReport.sourceTargets, List.mem_append, Option.mem_toList, Option.mem_def] using htargets

theorem auditV2ProcessInvariants_congr (h : SameProject a b) (candidateTarget : Option TargetSurface)
    (driverAuthorization : Option DriverAuthorizationEvidence) (driverTestMode : Bool) :
    (auditV2ProcessInvariants a candidateTarget driverAuthorization driverTestMode).ok
      = (auditV2ProcessInvariants b candidateTarget driverAuthorization driverTestMode).ok := by
  rw [Bool.eq_iff_iff, auditV2ProcessInvariants_ok, auditV2ProcessInvariants_ok, h.phase,
    checkProjectTransitionGate_congr h, checkAcceptanceProof_congr h]
  -- only the drift check reads the discovery itself
  apply and_congr_left
  intro _
  apply forall₂_congr
  intro candidate _
  exact sourceMatched_congr h candidate

end

/-! ## The verdicts -/

/-- **Verdicts do not depend on order.** For two projects that are the same up to the order and repetition of
    their evidence, the proposal gate reports the same status and the same failures, and the acceptance gate, the
    transition gate into any phase and the audit have the same verdict. -/
theorem verdicts_ignore_order [UnicodeData] (a b : ProjectState) (h : SameProject a b)
    (candidateTarget : Option TargetSurface) (driverAuthorization : Option DriverAuthorizationEvidence)
    (driverTestMode : Bool) :
    (checkProposalGate a).status = (checkProposalGate b).status
      ∧ (checkProposalGate a).failures = (checkProposalGate b).failures
      ∧ (checkAcceptanceProof a).ok = (checkAcceptanceProof b).ok
      ∧ (∀ nextPhase,
          (checkProjectTransitionGate a nextPhase candidateTarget driverAuthorization driverTestMode).ok
            = (checkProjectTransitionGate b nextPhase candidateTarget driverAuthorization driverTestMode).ok)
      ∧ (auditV2ProcessInvariants a candidateTarget driverAuthorization driverTestMode).ok
          = (auditV2ProcessInvariants b candidateTarget driverAuthorization driverTestMode).ok := by
  have hproposal := checkProposalGate_congr h
  refine ⟨by rw [hproposal], by rw [hproposal], checkAcceptanceProof_congr h, ?_, ?_⟩
  · intro nextPhase
    rw [checkProjectTransitionGate_congr h]
  · exact auditV2ProcessInvariants_congr h candidateTarget driverAuthorization driverTestMode

/-- The example project with other criteria, other citations and other discovered sources. -/
def citedProject (criteria : List String) (refs : List EvidenceRef) (source : TargetSurface)
    (sources : List TargetSurface) : ProjectState :=
  { exampleProject .reviewWait with
    sourceDiscovery := (exampleProject .reviewWait).sourceDiscovery.map fun discovery =>
      { discovery with
        discoveredSources := source :: sources, discoveredSources_ne := by simp, evidenceRefs := refs }
    approvedTargetBinding := (exampleProject .reviewWait).approvedTargetBinding.map fun binding =>
      { binding with coveredAcceptanceCriteria := criteria, sourceDiscoveryRefs := refs } }

theorem verdicts_ignore_order_cited :
    let first : EvidenceRef := { type := .sourceDiscovery, uri := "first" }
    let second : EvidenceRef := { type := .sourceDiscovery, uri := "second" }
    let other : TargetSurface := { exampleTarget with label := "other", evidenceRefs := [second, first, second] }
    let written := citedProject ["health", "latency"] [first, second] exampleTarget
      [{ other with evidenceRefs := [first, second] }]
    let read := citedProject ["latency", "health", "latency"] [second, first, second] other [exampleTarget, other]
    SameProject written read
      ∧ (@checkProposalGate asciiOnly written).failures = (@checkProposalGate asciiOnly read).failures := by
  intro first second other written read
  have hother : SameSurface { other with evidenceRefs := [first, second] } other := ⟨rfl, by decide, by decide⟩
  have hsame : SameProject written read := by
    constructor
    · rfl
    · refine Option.Rel.some ⟨rfl, ?_, Option.Rel.none, ?_⟩
      · constructor
        · refine List.forall_mem_cons.mpr ⟨⟨exampleTarget, by simp, SameSurface.refl _⟩, ?_⟩
          exact List.forall_mem_singleton.mpr ⟨other, by simp, hother⟩
        · refine List.forall_mem_cons.mpr ⟨⟨_, by simp, hother⟩, ?_⟩
          refine List.forall_mem_cons.mpr ⟨⟨exampleTarget, by simp, SameSurface.refl _⟩, ?_⟩
          exact List.forall_mem_singleton.mpr ⟨_, by simp, hother⟩
      · exact ⟨by decide, by decide⟩
    · exact Option.Rel.some ⟨rfl, sameEntries_refl Eq.refl _⟩
    · exact Option.Rel.some ⟨rfl, SameSurface.refl _, ⟨by decide, by decide⟩, sameEntries_refl SameSurface.refl _,
        sameEntries_refl Eq.refl _, ⟨by decide, by decide⟩⟩
    · exact Option.Rel.some ⟨rfl, SameSurface.refl _,
        sameEntries_refl (fun _ => ⟨rfl, sameEntries_refl Eq.refl _⟩) _, sameEntries_refl Eq.refl _,
        sameEntries_refl Eq.refl _⟩
  exact ⟨hsame, (@verdicts_ignore_order asciiOnly written read hsame none none false).2.1⟩

end WorkflowDrivers
