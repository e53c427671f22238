import WorkflowDrivers.Correctness.ProjectGates

/-!
# `Correctness.SubstituteApprovals` — whether a substitute rests on one approval

A report for another target than the approved one is accepted when its target is a substitute surface that the
binding allows. The rule is about one approval that binding, surface, report and target share; the code asks
whether these lists share something two by two. The two agree where one of the overlaps is made of shared approvals
only (`SharedOverlap`). Elsewhere each overlap is met without them: the code accepts just the same when the shared
approvals are struck from the binding.
-/

namespace WorkflowDrivers
open Lib

/-! ## The rule and the three overlaps -/

/-- **The rule.** One approval is recorded in the binding, on an allowed surface with the identity of the
    report's target, in the report, and on the report's target. -/
def SingleApproval (binding : ApprovedTargetBinding) (report : AcceptanceReport) : Prop :=
  ∃ ref ∈ binding.approvedSubstituteArtifacts, ∃ surface ∈ binding.allowedSideEffectSurfaces,
    SameIdentity surface report.target ∧ ref ∈ surface.evidenceRefs
      ∧ ref ∈ report.substituteApprovalRefs ∧ ref ∈ report.target.evidenceRefs

/-- What the code asks for: the approvals are cited, the surface carries an approval, and the target carries a
    citation. -/
structure ApprovalsOverlap (binding : ApprovedTargetBinding) (report : AcceptanceReport) : Prop where
  cited : ∃ ref ∈ binding.approvedSubstituteArtifacts, ref ∈ report.substituteApprovalRefs
  surface : ∃ surface ∈ binding.allowedSideEffectSurfaces, SameIdentity surface report.target
    ∧ ∃ ref ∈ binding.approvedSubstituteArtifacts, ref ∈ surface.evidenceRefs
  carried : ∃ ref ∈ report.substituteApprovalRefs, ref ∈ report.target.evidenceRefs

/-- The ref is on an allowed surface with the identity of the report's target. -/
def OnSurface (binding : ApprovedTargetBinding) (report : AcceptanceReport) (ref : EvidenceRef) : Prop :=
  ∃ surface ∈ binding.allowedSideEffectSurfaces, SameIdentity surface report.target ∧ ref ∈ surface.evidenceRefs

/-- **One of the three overlaps lies within the other lists.** -/
inductive SharedOverlap (binding : ApprovedTargetBinding) (report : AcceptanceReport) : Prop
  | cited (h : ∀ ref ∈ binding.approvedSubstituteArtifacts, ref ∈ report.substituteApprovalRefs →
      ref ∈ report.target.evidenceRefs ∧ OnSurface binding report ref)
  | surface (h : ∀ ref ∈ binding.approvedSubstituteArtifacts, OnSurface binding report ref →
      ref ∈ report.substituteApprovalRefs ∧ ref ∈ report.target.evidenceRefs)
  | carried (h : ∀ ref ∈ report.substituteApprovalRefs, ref ∈ report.target.evidenceRefs →
      ref ∈ binding.approvedSubstituteArtifacts ∧ OnSurface binding report ref)

/-- Whether all but the binding's approvals have the ref. -/
def sharedElsewhere (binding : ApprovedTargetBinding) (report : AcceptanceReport) (ref : EvidenceRef) : Bool :=
  report.substituteApprovalRefs.contains ref && report.target.evidenceRefs.contains ref
    && binding.allowedSideEffectSurfaces.any (fun surface =>
      targetIdentityMatches surface report.target && surface.evidenceRefs.contains ref)

/-- The binding without the approvals that all four lists share. -/
def struckBinding (binding : ApprovedTargetBinding) (report : AcceptanceReport) : ApprovedTargetBinding :=
  { binding with
    approvedSubstituteArtifacts :=
      binding.approvedSubstituteArtifacts.filter (fun ref => !sharedElsewhere binding report ref) }

section
variable {binding : ApprovedTargetBinding} {report : AcceptanceReport}

/-- The report is accepted for a substitute exactly when the lists overlap two by two. -/
theorem hasReportSubstituteApproval_iff :
    hasReportSubstituteApproval binding report = true ↔ ApprovalsOverlap binding report := by
  unfold hasReportSubstituteApproval
  constructor
  · intro h
    split_ifs at h with hnot
    rw [Bool.not_eq_true, Bool.not_eq_false', Bool.and_eq_true, refsOverlap_iff] at hnot
    obtain ⟨surface, hmem, hsurface⟩ := List.any_eq_true.mp h
    rw [Bool.and_eq_true, Bool.and_eq_true, targetIdentityMatches_iff, refsOverlap_iff, refsOverlap_iff] at hsurface
    obtain ⟨⟨hidentity, happroved⟩, hcarried⟩ := hsurface
    exact { cited := hnot.2, surface := ⟨surface, hmem, hidentity, happroved⟩, carried := hcarried }
  · rintro ⟨⟨ref, hb, hr⟩, ⟨surface, hmem, hidentity, happroved⟩, hcarried⟩
    have hpass : (!binding.approvedSubstituteArtifacts.isEmpty && !report.substituteApprovalRefs.isEmpty
        && refsOverlap binding.approvedSubstituteArtifacts report.substituteApprovalRefs) = true := by
      rw [Bool.and_eq_true, refsOverlap_iff]
      exact ⟨by simp [List.ne_nil_of_mem hb, List.ne_nil_of_mem hr], ref, hb, hr⟩
    rw [hpass, if_neg (by simp), List.any_eq_true]
    refine ⟨surface, hmem, ?_⟩
    rw [Bool.and_eq_true, Bool.and_eq_true, targetIdentityMatches_iff, refsOverlap_iff, refsOverlap_iff]
    exact ⟨⟨hidentity, happroved⟩, hcarried⟩

theorem sharedElsewhere_iff {ref : EvidenceRef} : sharedElsewhere binding report ref = true ↔
    ref ∈ report.substituteApprovalRefs ∧ ref ∈ report.target.evidenceRefs ∧ OnSurface binding report ref := by
  simp only [sharedElsewhere, OnSurface, Bool.and_eq_true, List.contains_iff_mem, List.any_eq_true,
    targetIdentityMatches_iff, and_assoc]

theorem mem_struck {ref : EvidenceRef} : ref ∈ (struckBinding binding report).approvedSubstituteArtifacts ↔
    ref ∈ binding.approvedSubstituteArtifacts
      ∧ ¬(ref ∈ report.substituteApprovalRefs ∧ ref ∈ report.target.evidenceRefs ∧ OnSurface binding report ref) := by
  rw [struckBinding, List.mem_filter, ← sharedElsewhere_iff, Bool.not_eq_true', Bool.not_eq_true]

/-- An overlap within the other lists is met by a shared approval. -/
theorem single_of_sharedOverlap (hshared : SharedOverlap binding report) (hoverlap : ApprovalsOverlap binding report) :
    SingleApproval binding report := by
  cases hshared with
  | cited hcited =>
      obtain ⟨ref, hb, hr⟩ := hoverlap.cited
      obtain ⟨ht, surface, hmem, hidentity, hsurface⟩ := hcited ref hb hr
      exact ⟨ref, hb, surface, hmem, hidentity, hsurface, hr, ht⟩
  | surface honsurface =>
      obtain ⟨surface, hmem, hidentity, ref, hb, hsurface⟩ := hoverlap.surface
      obtain ⟨hr, ht⟩ := honsurface ref hb ⟨surface, hmem, hidentity, hsurface⟩
      exact ⟨ref, hb, surface, hmem, hidentity, hsurface, hr, ht⟩
  | carried hcarried =>
      obtain ⟨ref, hr, ht⟩ := hoverlap.carried
      obtain ⟨hb, surface, hmem, hidentity, hsurface⟩ := hcarried ref hr ht
      exact ⟨ref, hb, surface, hmem, hidentity, hsurface, hr, ht⟩

/-- Otherwise each overlap is met by a ref that is not shared, so that striking the shared ones does not matter. -/
theorem struck_overlap (hnot : ¬SharedOverlap binding report) :
    ApprovalsOverlap (struckBinding binding report) report := by
  constructor
  · by_contra hnone
    refine hnot (.cited fun ref hb hr => ?_)
    by_contra hshared
    exact hnone ⟨ref, mem_struck.mpr ⟨hb, fun h => hshared h.2⟩, hr⟩
  · by_contra hnone
    refine hnot (.surface fun ref hb hsurface => ?_)
    by_contra hshared
    obtain ⟨surface, hmem, hidentity, href⟩ := hsurface
    exact hnone ⟨surface, hmem, hidentity, ref, mem_struck.mpr ⟨hb, fun h => hshared ⟨h.1, h.2.1⟩⟩, href⟩
  · by_contra hnone
    refine hnot (.carried fun ref hr ht => ?_)
    exact absurd ⟨ref, hr, ht⟩ hnone

theorem not_single_struck : ¬SingleApproval (struckBinding binding report) report := by
  rintro ⟨ref, hb, surface, hmem, hidentity, hsurface, hr, ht⟩
  exact (mem_struck.mp hb).2 ⟨hr, ht, surface, hmem, hidentity, hsurface⟩

/-- Where one approval is listed and cited, and no other, it is all there is to share. -/
theorem sharedOverlap_of_one (hone : ∀ approved ∈ binding.approvedSubstituteArtifacts,
    ∀ cited ∈ report.substituteApprovalRefs, approved = cited) : SharedOverlap binding report := by
  by_contra hnot
  have hstruck := struck_overlap hnot
  obtain ⟨ref, hb, hr⟩ := hstruck.cited
  obtain ⟨surface, hmem, hidentity, approved, happroved, hsurface⟩ := hstruck.surface
  obtain ⟨carried, hcarried, htarget⟩ := hstruck.carried
  obtain ⟨hb, hunshared⟩ := mem_struck.mp hb
  obtain rfl : ref = carried := hone ref hb carried hcarried
  obtain rfl : approved = ref := hone approved (mem_struck.mp happroved).1 ref hr
  exact hunshared ⟨hr, htarget, surface, hmem, hidentity, hsurface⟩

end

/-- **When substitute acceptance rests on one approval**: where one of the three overlaps lies within the other lists,
    so in particular where one approval is listed and cited, and no other. Elsewhere acceptance does not rest on one:
    struck of all shared approvals the binding has none for this report, and the code accepts. -/
theorem substitute_single_approval (binding : ApprovedTargetBinding) (report : AcceptanceReport) :
    (SharedOverlap binding report → hasReportSubstituteApproval binding report = true → SingleApproval binding report)
    ∧ (¬SharedOverlap binding report →
        hasReportSubstituteApproval (struckBinding binding report) report = true
        ∧ ¬SingleApproval (struckBinding binding report) report)
    ∧ ((∀ approved ∈ binding.approvedSubstituteArtifacts, ∀ cited ∈ report.substituteApprovalRefs,
      approved = cited) → SharedOverlap binding report) := by
  refine ⟨?_, ?_, sharedOverlap_of_one⟩
  · intro hshared haccepted
    exact single_of_sharedOverlap hshared (hasReportSubstituteApproval_iff.mp haccepted)
  · intro hnot
    exact ⟨hasReportSubstituteApproval_iff.mpr (struck_overlap hnot), not_single_struck⟩

/-- The approval of a preview. -/
def examplePreviewApproval : EvidenceRef := { type := .proposalApproval, uri := "approved-preview" }

/-- The approval of a dashboard. -/
def exampleDashboardApproval : EvidenceRef := { type := .proposalApproval, uri := "approved-dashboard" }

/-- The preview, a substitute for the service, with its approval. -/
def examplePreview (evidenceRefs : List EvidenceRef) : TargetSurface where
  label := "preview"
  repo := some "repo"
  port := some 9120
  evidenceRefs

/-- A binding with two approved substitutes. -/
def exampleSubstitutes : ApprovedTargetBinding where
  bindingId := "binding-1"
  version := "v1"
  target := exampleTarget
  proposalId := "proposal-1"
  proposalVersion := "1"
  proposalDigest := "digest"
  approvalRecord := { type := .proposalApproval, uri := "approval" }
  approvedBy := "approver"
  coveredAcceptanceCriteria := ["health"]
  allowedSideEffectSurfaces :=
    [examplePreview [examplePreviewApproval],
     { label := "dashboard", repo := some "repo", port := some 9200, evidenceRefs := [exampleDashboardApproval] }]
  approvedSubstituteArtifacts := [examplePreviewApproval, exampleDashboardApproval]

theorem substitute_single_approval_preview :
    SingleApproval { exampleSubstitutes with approvedSubstituteArtifacts := [examplePreviewApproval] }
      { exampleReport with
        target := examplePreview [examplePreviewApproval]
        substituteApprovalRefs := [examplePreviewApproval] } := by
  obtain ⟨hsingle, -, hone⟩ := substitute_single_approval
    { exampleSubstitutes with approvedSubstituteArtifacts := [examplePreviewApproval] }
    { exampleReport with
      target := examplePreview [examplePreviewApproval]
      substituteApprovalRefs := [examplePreviewApproval] }
  exact hsingle (hone (by decide)) (by decide +kernel)

/-- A report about the preview that cites the approval of the dashboard. -/
def exampleBorrowedReport : AcceptanceReport :=
  { exampleReport with
    target := examplePreview [exampleDashboardApproval]
    substituteApprovalRefs := [exampleDashboardApproval] }

/-- An approval given for one substitute serves to accept another: the preview is accepted with the approval of
    the dashboard. -/
theorem substitute_approval_borrowed :
    ¬∀ (binding : ApprovedTargetBinding) (report : AcceptanceReport),
      hasReportSubstituteApproval binding report = true → SingleApproval binding report := by
  intro h
  obtain ⟨ref, -, surface, hmem, hidentity, hsurface, hr, -⟩ :=
    h exampleSubstitutes exampleBorrowedReport (by decide +kernel)
  -- the report cites the dashboard's approval only, and no surface with the preview's port carries it
  obtain rfl : ref = exampleDashboardApproval := List.mem_singleton.mp hr
  simp only [exampleSubstitutes, List.mem_cons, List.not_mem_nil, or_false] at hmem
  rcases hmem with rfl | rfl
  · exact absurd hsurface (by decide)
  · exact absurd hidentity.port (by decide)

end WorkflowDrivers
