import WorkflowDrivers.Correctness.ProcessAudit
import WorkflowDrivers.Correctness.SubstituteApprovals
import WorkflowDrivers.Correctness.DriverRuns
import WorkflowDrivers.Lib.Entries

/-!
# `Correctness.EvidenceGrowth` — more evidence never hurts

Between two ticks a project collects evidence: references, discovered sources, allowed surfaces, criterion proofs, and
records that were missing. What a gate let through before, it lets through then, for all that the gates ask of
evidence is that some of it is there. So a run of the driver that recorded no blocker is also the run it makes when
more was known at every tick.

Two kinds of data do not grow. The criteria that binding and approval cover are what has to be proved; and a binding
that is added brings a version with it that an authorization must name. Both stay as they are.
-/

namespace WorkflowDrivers
open Lib StrEnum

/-! ## Grown records

As in `VerdictOrder`: `rest` says that everything else is equal, and each list has its field. -/

structure MoreSurface (a b : TargetSurface) : Prop where
  rest : b = { a with evidenceRefs := b.evidenceRefs }
  evidence : a.evidenceRefs ⊆ b.evidenceRefs

structure MoreDiscovery (a b : SourceDiscoveryReport) : Prop where
  rest : b =
    { a with
      discoveredSources := b.discoveredSources
      discoveredSources_ne := b.discoveredSources_ne
      recommendedTarget := b.recommendedTarget
      evidenceRefs := b.evidenceRefs }
  sources : KeepsEntries MoreSurface a.discoveredSources b.discoveredSources
  recommended : KeepsEntries MoreSurface a.recommendedTarget b.recommendedTarget
  evidence : a.evidenceRefs ⊆ b.evidenceRefs

structure MoreBinding (a b : ApprovedTargetBinding) : Prop where
  rest : b =
    { a with
      target := b.target
      allowedSideEffectSurfaces := b.allowedSideEffectSurfaces
      approvedSubstituteArtifacts := b.approvedSubstituteArtifacts
      sourceDiscoveryRefs := b.sourceDiscoveryRefs }
  target : MoreSurface a.target b.target
  surfaces : KeepsEntries MoreSurface a.allowedSideEffectSurfaces b.allowedSideEffectSurfaces
  substitutes : a.approvedSubstituteArtifacts ⊆ b.approvedSubstituteArtifacts
  discoveryRefs : a.sourceDiscoveryRefs ⊆ b.sourceDiscoveryRefs

structure MoreProof (a b : AcceptanceCriterionProof) : Prop where
  rest : b = { a with evidenceRefs := b.evidenceRefs }
  evidence : a.evidenceRefs ⊆ b.evidenceRefs

/-- A criterion proof that is added is satisfied, with evidence. -/
structure MoreReport (a b : AcceptanceReport) : Prop where
  rest : b =
    { a with
      target := b.target
      criteria := b.criteria
      substituteApprovalRefs := b.substituteApprovalRefs
      evidenceRefs := b.evidenceRefs }
  target : MoreSurface a.target b.target
  criteria : KeepsEntries MoreProof a.criteria b.criteria
  added : ∀ proof ∈ b.criteria,
    (∃ old ∈ a.criteria, MoreProof old proof) ∨ (proof.satisfied = true ∧ proof.evidenceRefs ≠ [])
  substitutes : a.substituteApprovalRefs ⊆ b.substituteApprovalRefs
  evidence : a.evidenceRefs ⊆ b.evidenceRefs

/-- **A project with more evidence.** Discovery, approval and report may be added; the binding may not. -/
structure MoreProject (a b : ProjectState) : Prop where
  rest : b =
    { a with
      sourceDiscovery := b.sourceDiscovery
      proposalApproval := b.proposalApproval
      approvedTargetBinding := b.approvedTargetBinding
      acceptanceReport := b.acceptanceReport }
  discovery : KeepsEntries MoreDiscovery a.sourceDiscovery b.sourceDiscovery
  approval : KeepsEntries Eq a.proposalApproval b.proposalApproval
  binding : Option.Rel MoreBinding a.approvedTargetBinding b.approvedTargetBinding
  report : KeepsEntries MoreReport a.acceptanceReport b.acceptanceReport

/-! ## What is not evidence is equal -/

theorem MoreSurface.refl (a : TargetSurface) : MoreSurface a a := ⟨rfl, List.Subset.refl _⟩

theorem MoreSurface.getattr {a b : TargetSurface} (h : MoreSurface a b) (field : IdentityField) :
    a.getattr field = b.getattr field := by
  rw [h.rest]
  cases field <;> rfl

theorem MoreBinding.version {a b : ApprovedTargetBinding} (h : MoreBinding a b) : a.version = b.version := by
  rw [h.rest]

theorem MoreBinding.criteria {a b : ApprovedTargetBinding} (h : MoreBinding a b) :
    a.coveredAcceptanceCriteria = b.coveredAcceptanceCriteria := by rw [h.rest]

theorem MoreProof.proved {a b : AcceptanceCriterionProof} (h : MoreProof a b)
    (hproved : a.satisfied = true ∧ a.evidenceRefs ≠ []) : b.satisfied = true ∧ b.evidenceRefs ≠ [] := by
  constructor
  · rw [h.rest]
    exact hproved.1
  · exact ne_nil_of_subset h.evidence hproved.2

section
variable {a b : ProjectState}

theorem MoreProject.phase (h : MoreProject a b) : a.phase = b.phase := by rw [h.rest]

theorem MoreProject.proposalRequired (h : MoreProject a b) : a.proposalRequired = b.proposalRequired := by rw [h.rest]

theorem MoreProject.id (h : MoreProject a b) : a.id = b.id := by rw [h.rest]

theorem MoreProject.blocker (h : MoreProject a b) : a.blocker = b.blocker := by rw [h.rest]

/-- The next phase is no matter of evidence. -/
theorem MoreProject.nextPhase (h : MoreProject a b) : nextProjectPhase a = nextProjectPhase b := by
  rw [h.rest]
  rfl

/-- A binding is kept. -/
theorem MoreProject.kept_binding (h : MoreProject a b) :
    KeepsEntries MoreBinding a.approvedTargetBinding b.approvedTargetBinding := keepsEntries_of_rel h.binding

end

/-! ## What the gates ask for -/

theorem SameIdentity.grown {a a' b b' : TargetSurface} (ha : MoreSurface a a') (hb : MoreSurface b b')
    (h : SameIdentity a b) : SameIdentity a' b' := by
  rw [sameIdentity_iff] at h ⊢
  intro field
  rw [← ha.getattr, ← hb.getattr]
  exact h field

theorem SubstituteApproved.grown {a b : ApprovedTargetBinding} (hmore : MoreBinding a b)
    (h : SubstituteApproved a) : SubstituteApproved b :=
  shared_mono hmore.substitutes hmore.target.evidence h

/-- A target of the discovery that is matched is still there. -/
theorem matchedTarget_grown {a b : SourceDiscoveryReport} (hmore : MoreDiscovery a b) {left left' : TargetSurface}
    (hleft : MoreSurface left left')
    (h : ∃ target, (target ∈ a.recommendedTarget ∨ target ∈ a.discoveredSources) ∧ SameIdentity left target) :
    ∃ target, (target ∈ b.recommendedTarget ∨ target ∈ b.discoveredSources) ∧ SameIdentity left' target := by
  obtain ⟨target, hrecommended | hdiscovered, hsame⟩ := h
  · obtain ⟨target', hmem, htarget⟩ := hmore.recommended target hrecommended
    exact ⟨target', Or.inl hmem, hsame.grown hleft htarget⟩
  · obtain ⟨target', hmem, htarget⟩ := hmore.sources target hdiscovered
    exact ⟨target', Or.inr hmem, hsame.grown hleft htarget⟩

theorem SourceDiscovered.grown {a b : ApprovedTargetBinding} {discovery discovery' : SourceDiscoveryReport}
    (hmore : MoreBinding a b) (hdiscovery : MoreDiscovery discovery discovery') (h : SourceDiscovered a discovery) :
    SourceDiscovered b discovery' where
  evidence := ne_nil_of_subset hdiscovery.evidence h.evidence
  cited := shared_mono hmore.discoveryRefs hdiscovery.evidence h.cited
  ownership := by
    rw [hdiscovery.rest]
    exact h.ownership
  target := by
    rcases h.target with hmatched | happroved
    · exact Or.inl (matchedTarget_grown hdiscovery hmore.target hmatched)
    · exact Or.inr (happroved.grown hmore)

theorem ApprovalAgrees.grown {a b : ApprovedTargetBinding} {approval : ProposalApprovalEvidence}
    (hmore : MoreBinding a b) (h : ApprovalAgrees a approval) : ApprovalAgrees b approval := by
  rw [hmore.rest]
  exact ⟨h.proposalId, h.proposalVersion, h.proposalDigest, h.approvalRecord, h.approvedBy, h.criteria⟩

section
variable {a b : ProjectState}

theorem ProposalApproved.grown (hmore : MoreProject a b) (h : ProposalApproved a) : ProposalApproved b := by
  obtain ⟨binding, hb, discovery, hd, approval, ha, hdiscovered, hagrees⟩ := h
  obtain ⟨binding', hb', hbinding⟩ := hmore.kept_binding binding hb
  obtain ⟨discovery', hd', hdiscovery⟩ := hmore.discovery discovery hd
  obtain ⟨approval, ha', rfl⟩ := hmore.approval approval ha
  exact ⟨binding', hb', discovery', hd', approval, ha', hdiscovered.grown hbinding hdiscovery, hagrees.grown hbinding⟩

theorem CandidateApproved.grown (hmore : MoreProject a b) {candidateTarget : Option TargetSurface}
    (h : CandidateApproved a candidateTarget) : CandidateApproved b candidateTarget := by
  obtain ⟨candidate, hc, binding, hb, hsame⟩ := h
  obtain ⟨binding', hb', hbinding⟩ := hmore.kept_binding binding hb
  exact ⟨candidate, hc, binding', hb', hsame.grown hbinding.target (MoreSurface.refl candidate)⟩

/-- Here a binding that is added would have to be named. -/
theorem DriverAuthorized.grown (hmore : MoreProject a b) {driverAuthorization : Option DriverAuthorizationEvidence}
    (h : DriverAuthorized a driverAuthorization) : DriverAuthorized b driverAuthorization := by
  obtain ⟨authorization, hmem, hsupervisor, hrole, hversion⟩ := h
  refine ⟨authorization, hmem, hsupervisor, hrole, ?_⟩
  intro binding' hb'
  rcases rel_cases hmore.binding with ⟨-, hnone⟩ | ⟨binding, second, hb, hsecond, hbinding⟩
  · rw [hnone] at hb'
    cases hb'
  · obtain rfl : second = binding' := Option.some.inj (hsecond.symm.trans hb')
    rw [← hbinding.version]
    exact hversion binding hb

theorem CriterionProved.grown {report report' : AcceptanceReport} (hreport : MoreReport report report')
    {criterion : String} (h : CriterionProved report criterion) : CriterionProved report' criterion := by
  obtain ⟨proof, hmem, rfl, hproved⟩ := h
  obtain ⟨proof', hmem', hproof⟩ := hreport.criteria proof hmem
  have hcriterion : proof'.criterion = proof.criterion := by rw [hproof.rest]
  exact ⟨proof', hmem', hcriterion, hproof.proved hproved⟩

/-- What has to be proved stays the same. -/
theorem criterionRequired_kept {binding binding' : ApprovedTargetBinding} (hbinding : MoreBinding binding binding')
    (approval : Option ProposalApprovalEvidence) (criterion : String) :
    CriterionRequired binding approval criterion ↔ CriterionRequired binding' approval criterion := by
  rw [CriterionRequired, CriterionRequired, hbinding.criteria]

theorem ApprovalsOverlap.grown {binding binding' : ApprovedTargetBinding} {report report' : AcceptanceReport}
    (hbinding : MoreBinding binding binding') (hreport : MoreReport report report')
    (h : ApprovalsOverlap binding report) : ApprovalsOverlap binding' report' where
  cited := shared_mono hbinding.substitutes hreport.substitutes h.cited
  surface := by
    obtain ⟨surface, hmem, hsame, hcarries⟩ := h.surface
    obtain ⟨surface', hmem', hsurface⟩ := hbinding.surfaces surface hmem
    exact ⟨surface', hmem', hsame.grown hsurface hreport.target,
      shared_mono hbinding.substitutes hsurface.evidence hcarries⟩
  carried := shared_mono hreport.substitutes hreport.target.evidence h.carried

theorem AcceptanceProved.grown {binding binding' : ApprovedTargetBinding} {report report' : AcceptanceReport}
    (hbinding : MoreBinding binding binding') (hreport : MoreReport report report')
    {approval : Option ProposalApprovalEvidence} (h : AcceptanceProved binding approval report) :
    AcceptanceProved binding' approval report' where
  version := by
    rw [hreport.rest, ← hbinding.version]
    exact h.version
  target := by
    rcases h.target with hsame | hsubstitute
    · exact Or.inl (hsame.grown hbinding.target hreport.target)
    · exact Or.inr (hasReportSubstituteApproval_iff.mpr
        ((hasReportSubstituteApproval_iff.mp hsubstitute).grown hbinding hreport))
  required criterion hrequired :=
    (h.required criterion ((criterionRequired_kept hbinding approval criterion).mpr hrequired)).grown hreport
  proofs proof hmem := by
    rcases hreport.added proof hmem with ⟨old, hold, hproof⟩ | hproved
    · exact hproof.proved (h.proofs old hold)
    · exact hproved
  live := by
    rw [hreport.rest]
    exact h.live
  evidence := ne_nil_of_subset hreport.evidence h.evidence

theorem SourceMatched.grown (hmore : MoreProject a b) {candidate : TargetSurface} (h : SourceMatched a candidate) :
    SourceMatched b candidate := by
  obtain ⟨discovery, hd, hmatched⟩ := h
  obtain ⟨discovery', hd', hdiscovery⟩ := hmore.discovery discovery hd
  exact ⟨discovery', hd', matchedTarget_grown hdiscovery (MoreSurface.refl candidate) hmatched⟩

end

/-! ## The gates -/

section
variable [UnicodeData] {a b : ProjectState} {candidateTarget : Option TargetSurface}
  {driverAuthorization : Option DriverAuthorizationEvidence} {driverTestMode : Bool}

theorem checkProposalGate_grown (hmore : MoreProject a b) (h : (checkProposalGate a).ok = true) :
    (checkProposalGate b).ok = true := by
  cases ha : a.proposalRequired with
  | false =>
      have hb : b.proposalRequired = false := hmore.proposalRequired.symm.trans ha
      rw [checkProposalGate, if_pos hb]
      rfl
  | true =>
      have hb : b.proposalRequired = true := hmore.proposalRequired.symm.trans ha
      exact (checkProposalGate_ok hb).mpr (((checkProposalGate_ok ha).mp h).grown hmore)

theorem checkAcceptanceProof_grown (hmore : MoreProject a b) (h : (checkAcceptanceProof a).ok = true) :
    (checkAcceptanceProof b).ok = true := by
  cases ha : a.proposalRequired with
  | false =>
      have hb : b.proposalRequired = false := hmore.proposalRequired.symm.trans ha
      rw [checkAcceptanceProof, if_pos hb]
  | true =>
      have hb : b.proposalRequired = true := hmore.proposalRequired.symm.trans ha
      obtain ⟨happroved, binding, hmem, report, hr, hproved⟩ := (checkAcceptanceProof_ok ha).mp h
      obtain ⟨-, -, -, -, approval, happroval, -⟩ := happroved
      -- an approval is recorded, so it is the one that is kept
      obtain ⟨approval, happroval', rfl⟩ := hmore.approval approval happroval
      obtain ⟨binding', hmem', hbinding⟩ := hmore.kept_binding binding hmem
      obtain ⟨report', hr', hreport⟩ := hmore.report report hr
      rw [Option.mem_def.mp happroval] at hproved
      refine (checkAcceptanceProof_ok hb).mpr ⟨((checkAcceptanceProof_ok ha).mp h).1.grown hmore, binding', hmem',
        report', hr', ?_⟩
      rw [Option.mem_def.mp happroval']
      exact hproved.grown hbinding hreport

theorem checkProjectTransitionGate_grown (hmore : MoreProject a b) {nextPhase : ProjectIntakePhase}
    (h : (checkProjectTransitionGate a nextPhase candidateTarget driverAuthorization driverTestMode).ok = true) :
    (checkProjectTransitionGate b nextPhase candidateTarget driverAuthorization driverTestMode).ok = true := by
  by_cases hsame : nextPhase = a.phase
  · rw [checkProjectTransitionGate, if_pos (hsame.trans hmore.phase)]
  · obtain ⟨himplementation, hauthorized⟩ := (checkProjectTransitionGate_ok_failures hsame).mp h
    apply (checkProjectTransitionGate_ok_failures (hmore.phase ▸ hsame)).mpr
    constructor
    · cases ha : a.proposalRequired with
      | false =>
          have hb : ¬b.proposalRequired = true := by
            rw [← hmore.proposalRequired, ha]
            exact Bool.false_ne_true
          have hungated : implementationFailures b nextPhase candidateTarget = (.approved, []) :=
            if_neg fun hgated => hb hgated.1
          rw [hungated]
      | true =>
          have hb : b.proposalRequired = true := hmore.proposalRequired.symm.trans ha
          refine (implementationFailures_eq_nil hb).mpr fun hgated => ?_
          obtain ⟨hproposal, hcandidate⟩ := (implementationFailures_eq_nil ha).mp himplementation hgated
          exact ⟨hproposal.grown hmore, hcandidate.grown hmore⟩
    · rw [authorizationFailures_eq_nil] at hauthorized ⊢
      exact fun hmode hphase => (hauthorized hmode hphase).grown hmore

theorem auditV2ProcessInvariants_grown (hmore : MoreProject a b)
    (h : (auditV2ProcessInvariants a candidateTarget driverAuthorization driverTestMode).ok = true) :
    (auditV2ProcessInvariants b candidateTarget driverAuthorization driverTestMode).ok = true := by
  obtain ⟨hmatched, hgate, hproof⟩ := auditV2ProcessInvariants_ok.mp h
  apply auditV2ProcessInvariants_ok.mpr
  refine ⟨fun candidate hc => (hmatched candidate hc).grown hmore, fun hphase => ?_,
    checkAcceptanceProof_grown hmore hproof⟩
  exact checkProjectTransitionGate_grown hmore (hgate (hmore.phase ▸ hphase))

end

/-- **More evidence never hurts the verdicts.** What the proposal gate, the acceptance gate, the transition gate into
    any phase or the audit lets pass for a project, it lets pass for every project with more evidence. -/
theorem verdicts_grow [UnicodeData] (a b : ProjectState) (hmore : MoreProject a b)
    (candidateTarget : Option TargetSurface) (driverAuthorization : Option DriverAuthorizationEvidence)
    (driverTestMode : Bool) :
    ((checkProposalGate a).ok = true → (checkProposalGate b).ok = true)
      ∧ ((checkAcceptanceProof a).ok = true → (checkAcceptanceProof b).ok = true)
      ∧ (∀ nextPhase,
          (checkProjectTransitionGate a nextPhase candidateTarget driverAuthorization driverTestMode).ok = true →
          (checkProjectTransitionGate b nextPhase candidateTarget driverAuthorization driverTestMode).ok = true)
      ∧ ((auditV2ProcessInvariants a candidateTarget driverAuthorization driverTestMode).ok = true →
          (auditV2ProcessInvariants b candidateTarget driverAuthorization driverTestMode).ok = true) :=
  ⟨checkProposalGate_grown hmore, checkAcceptanceProof_grown hmore,
    fun _ => checkProjectTransitionGate_grown hmore, auditV2ProcessInvariants_grown hmore⟩

/-- The target of the example, seen once more. -/
def exampleSeen : TargetSurface :=
  { exampleTarget with evidenceRefs := exampleTarget.evidenceRefs ++ [{ type := .report, uri := "seen" }] }

/-- The example project after another source was found and another criterion was proved. -/
def exampleGrown (phase : ProjectIntakePhase) : ProjectState :=
  { exampleProject phase with
    sourceDiscovery := (exampleProject phase).sourceDiscovery.map fun discovery =>
      { discovery with
        discoveredSources := [{ label := "fork" }, exampleSeen], discoveredSources_ne := List.cons_ne_nil _ _
        recommendedTarget := some exampleSeen }
    acceptanceReport := some
      { exampleReport with
        target := exampleSeen
        criteria :=
          { criterion := "latency", satisfied := true, evidenceRefs := [{ type := .proof, uri := "latency" }] }
            :: exampleReport.criteria
        evidenceRefs := { type := .proof, uri := "latency" } :: exampleReport.evidenceRefs } }

theorem exampleGrown_more (phase : ProjectIntakePhase) : MoreProject (exampleProject phase) (exampleGrown phase) := by
  have hseen : MoreSurface exampleTarget exampleSeen := ⟨rfl, by decide⟩
  constructor
  · rfl
  · rintro discovery ⟨⟩
    refine ⟨_, rfl, rfl, ?_, ?_, List.Subset.refl _⟩
    · intro source hsource
      rw [List.mem_singleton.mp hsource]
      exact ⟨exampleSeen, by simp, hseen⟩
    · rintro target ⟨⟩
  · exact fun approval happroval => ⟨approval, happroval, rfl⟩
  · exact .some ⟨rfl, MoreSurface.refl _, fun surface hsurface => ⟨surface, hsurface, MoreSurface.refl _⟩,
      List.Subset.refl _, List.Subset.refl _⟩
  · rintro report ⟨⟩
    refine ⟨_, rfl, rfl, hseen, ?_, ?_, List.Subset.refl _, by decide⟩
    · exact fun proof hproof => ⟨proof, List.mem_cons_of_mem _ hproof, rfl, List.Subset.refl _⟩
    · intro proof hproof
      rcases List.mem_cons.mp hproof with rfl | hold
      · exact Or.inr ⟨rfl, by decide⟩
      · exact Or.inl ⟨proof, hold, rfl, List.Subset.refl _⟩

theorem verdicts_grow_seen :
    (@auditV2ProcessInvariants asciiOnly (exampleGrown .finalReport) (some exampleTarget) none false).ok = true :=
  (@verdicts_grow asciiOnly _ _ (exampleGrown_more .finalReport) (some exampleTarget) none false).2.2.2
    (by decide +kernel)

/-! ## The driver -/

/-- A decision with more evidence. -/
structure MoreDecision (d e : WorkflowDecision) : Prop where
  rest : e = { d with evidenceRefs := e.evidenceRefs }
  evidence : d.evidenceRefs ⊆ e.evidenceRefs

/-- A record with more evidence. -/
structure MoreRecord (r s : WorkflowStateRecord) : Prop where
  rest : s = { r with evidenceRefs := s.evidenceRefs }
  evidence : r.evidenceRefs ⊆ s.evidenceRefs

theorem MoreDecision.refl (d : WorkflowDecision) : MoreDecision d d := ⟨rfl, List.Subset.refl _⟩

theorem MoreRecord.refl (r : WorkflowStateRecord) : MoreRecord r r := ⟨rfl, List.Subset.refl _⟩

section
variable [UnicodeData] {a b : ProjectState}

/-- What an accepted report cites is cited by the one that grew from it. -/
theorem checkAcceptanceProof_evidence (hmore : MoreProject a b) (h : (checkAcceptanceProof a).ok = true) :
    (checkAcceptanceProof a).evidenceRefs ⊆ (checkAcceptanceProof b).evidenceRefs := by
  cases ha : a.proposalRequired with
  | false =>
      rw [checkAcceptanceProof, if_pos ha]
      exact List.nil_subset _
  | true =>
      have hb : ¬b.proposalRequired = false := by
        rw [← hmore.proposalRequired, ha]
        exact Bool.true_eq_false.mp
      obtain ⟨-, binding, hbinding, report, hreport, -⟩ := (checkAcceptanceProof_ok ha).mp h
      obtain ⟨binding', hbinding', -⟩ := hmore.kept_binding binding hbinding
      obtain ⟨report', hreport', hgrown⟩ := hmore.report report hreport
      rw [Option.mem_def] at hbinding hbinding' hreport hreport'
      rw [checkAcceptanceProof, checkAcceptanceProof, if_neg (by simp [ha]), if_neg hb]
      simp only [hbinding, hbinding', hreport, hreport']
      exact hgrown.evidence

/-- **The driver decides as before**, where it recorded no blocker. -/
theorem decideNextProjectTransition_grown (hmore : MoreProject a b) {args : ProjectTransitionArgs}
    {d : WorkflowDecision} (h : decideNextProjectTransition a args = .ok d) (hfree : d.blockerToRecord = none) :
    ∃ e, decideNextProjectTransition b args = .ok e ∧ MoreDecision d e := by
  unfold decideNextProjectTransition at h ⊢
  simp only at h ⊢
  rw [← hmore.id, ← hmore.phase, ← hmore.nextPhase, ← hmore.blocker]
  cases hgate : (checkProjectTransitionGate a (nextProjectPhase a) args.candidateTarget args.driverAuthorization
      args.driverTestMode).ok with
  | false =>
      rw [if_pos hgate] at h
      split at h
      · cases h
      · obtain ⟨rfl, -⟩ := emit_eq_ok.mp h
        cases hfree
  | true =>
      have hgrown := checkProjectTransitionGate_grown hmore hgate
      rw [if_neg (by simp [hgate])] at h
      rw [if_neg (by simp [hgrown])]
      cases hb : a.blocker with
      | some blocker =>
          rw [hb] at h
          exact ⟨d, h, MoreDecision.refl d⟩
      | none =>
          rw [hb] at h
          simp only at h ⊢
          by_cases hdone : nextProjectPhase a = .done
          · rw [if_pos hdone] at h ⊢
            cases hproof : (checkAcceptanceProof a).ok with
            | false =>
                rw [if_pos hproof] at h
                obtain ⟨rfl, -⟩ := emit_eq_ok.mp h
                cases hfree
            | true =>
                rw [if_neg (by simp [hproof])] at h
                rw [if_neg (by simp [checkAcceptanceProof_grown hmore hproof])]
                obtain ⟨rfl, -⟩ := emit_eq_ok.mp h
                refine ⟨_, emit_of_valid (doneDecision_valid ?_ ?_), rfl, checkAcceptanceProof_evidence hmore hproof⟩
                · rw [hdone]
                  exact done_signal_plain a.phase
                · rw [hdone]
                  decide
          · rw [if_neg hdone] at h ⊢
            exact ⟨d, h, MoreDecision.refl d⟩

end

/-! ## Runs -/

/-- **A decision is applied as before.** -/
theorem applyDecision_grown {r s next : WorkflowStateRecord} {d e : WorkflowDecision} (hrecord : MoreRecord r s)
    (hdecision : MoreDecision d e) (h : applyDecision r d = .ok next) :
    ∃ after, applyDecision s e = .ok after ∧ MoreRecord next after := by
  obtain ⟨haccepts, rfl⟩ := applyDecision_eq_ok.mp h
  refine ⟨nextState s e, applyDecision_eq_ok.mpr ⟨?_, rfl⟩, ?_, ?_⟩
  · rw [hrecord.rest, hdecision.rest]
    exact ⟨haccepts.fromPhase, haccepts.blockedRecords, haccepts.resumeOption, haccepts.atMostOneActivity⟩
  · rw [nextState_eq, nextState_eq, hrecord.rest, hdecision.rest]
    rfl
  · rw [nextState_eq, nextState_eq]
    exact List.append_subset.mpr ⟨fun _ href => List.mem_append_left _ (hrecord.evidence href),
      fun _ href => List.mem_append_right _ (hdecision.evidence href)⟩

/-- The same tick with more evidence. -/
def MoreTick (tick later : ProjectState × ProjectTransitionArgs) : Prop :=
  MoreProject tick.1 later.1 ∧ later.2 = tick.2

/-- **More evidence never hurts a run.** If in a run of the project driver no blocker was recorded, then with more
    evidence in the record and at every tick the driver makes the same decisions, but for the evidence they cite, and
    leads to the same record, but for the evidence in it. -/
theorem runs_grow [UnicodeData] (initial grown final : WorkflowStateRecord)
    (ticks later : List (ProjectState × ProjectTransitionArgs)) (decisions : List WorkflowDecision)
    (hrun : ProjectRun initial ticks decisions final) (hfree : ∀ d ∈ decisions, d.blockerToRecord = none)
    (hrecord : MoreRecord initial grown) (hticks : List.Forall₂ MoreTick ticks later) :
    ∃ decisions' final', ProjectRun grown later decisions' final'
      ∧ List.Forall₂ MoreDecision decisions decisions' ∧ MoreRecord final final' := by
  refine Driven.simulated ?_ hrun hfree hrecord hticks
  intro r tick d next s tick' hr htick hd hdecides hstep
  obtain ⟨state, args⟩ := tick
  obtain ⟨state', args⟩ := tick'
  obtain ⟨hmore, rfl⟩ := htick
  obtain ⟨hmirrors, hdecided⟩ := hdecides
  obtain ⟨e, he, hde⟩ := decideNextProjectTransition_grown hmore hdecided hd
  obtain ⟨after, hafter, hgrown⟩ := applyDecision_grown hr hde hstep
  refine ⟨e, after, ⟨?_, he⟩, hafter, hde, hgrown⟩
  rw [hr.rest, hmore.rest]
  exact ⟨hmirrors.phase, hmirrors.blocker⟩

theorem runs_grow_seen : ∃ decisions final,
    @ProjectRun asciiOnly (exampleRecord "FINAL_REPORT" none) [(exampleGrown .finalReport, { decidedAt := "T1" })]
      decisions final
    ∧ final.terminal = some { outcome := .done } := by
  have hrun : ∃ decision final, decision.blockerToRecord = none
      ∧ @ProjectRun asciiOnly (exampleRecord "FINAL_REPORT" none) [(exampleProject .finalReport, { decidedAt := "T1" })]
        [decision] final
      ∧ final.terminal = some { outcome := .done } :=
    ⟨_, _, rfl, .cons ⟨⟨rfl, by decide⟩, rfl⟩ rfl (.nil _), rfl⟩
  obtain ⟨decision, final, hnone, hrun, hdone⟩ := hrun
  have hticks : List.Forall₂ MoreTick [(exampleProject .finalReport, { decidedAt := "T1" })]
      [(exampleGrown .finalReport, { decidedAt := "T1" })] := .cons ⟨exampleGrown_more .finalReport, rfl⟩ .nil
  obtain ⟨decisions', final', hgrown, -, hfinal⟩ := @runs_grow asciiOnly _ _ _ _ _ _ hrun
    (List.forall_mem_singleton.mpr hnone) (MoreRecord.refl _) hticks
  exact ⟨decisions', final', hgrown, by rw [hfinal.rest, hdone]⟩

end WorkflowDrivers
