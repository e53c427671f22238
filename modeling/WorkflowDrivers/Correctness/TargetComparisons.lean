import WorkflowDrivers.Correctness.ProjectGates
import WorkflowDrivers.Policies.Audit

/-!
# `Correctness.TargetComparisons` — three comparisons of targets, one identity

Targets are compared in three places: the search for a discovered source answers yes or no, the check against the
binding has a text for each way a field can differ, and the drift check of the audit explains a mismatch against
one of the sources it has searched. All three are about the same seven fields, and an absent value is a value like
any other: `differingFields` is what each of them finds, and every text they report names its field.
-/

namespace WorkflowDrivers
open Lib

/-! ## The fields on which two targets differ -/

/-- The identity fields on which two targets differ, in the order of the comparisons. -/
def differingFields (left right : TargetSurface) : List IdentityField :=
  differing identityFields TargetSurface.getattr left right

theorem SameIdentity.symm {left right : TargetSurface} (h : SameIdentity left right) : SameIdentity right left := by
  rw [sameIdentity_iff] at h ⊢
  intro field
  exact (h field).symm

theorem differingFields_eq_nil {left right : TargetSurface} :
    differingFields left right = [] ↔ SameIdentity left right := by
  rw [differingFields, differing_eq_nil, sameIdentity_iff]
  constructor
  · intro h field
    exact h field (mem_identityFields field)
  · intro h field _
    exact h field

/-- A text names a field. -/
def NamesField (field : IdentityField) (text : String) : Prop :=
  ∃ before after, text = before ++ (field.name ++ after)

section
variable [UnicodeData]

/-! ## The check against the binding -/

/-- Two values that differ are reported, with one text that names the field, also when one of them is absent. -/
theorem fieldFailure_reported {approved candidate : Option FieldValue} (field : IdentityField)
    (hne : approved ≠ candidate) :
    ∃ text, (fieldFailure approved candidate field).toList = [text] ∧ NamesField field text := by
  cases approved with
  | none =>
      cases candidate with
      | none => exact absurd rfl hne
      | some c =>
          refine ⟨_, rfl, "", " unexpected: approved=None candidate=" ++ c.repr, ?_⟩
          simp [String.append_assoc]
  | some a =>
      cases candidate with
      | none =>
          refine ⟨_, rfl, "missing candidate ", ": approved=" ++ a.repr, ?_⟩
          simp [String.append_assoc]
      | some c =>
          have hac : a ≠ c := fun h => hne (congrArg some h)
          refine ⟨_, by rw [fieldFailure, if_pos hac]; rfl, "",
            " mismatch: approved=" ++ (a.repr ++ (" candidate=" ++ c.repr)), ?_⟩
          simp [String.append_assoc]

/-- **The check against the binding** reports the differing fields one by one. -/
theorem targetMatchesBinding_explained (binding : ApprovedTargetBinding) (candidate : TargetSurface) :
    List.Forall₂ NamesField (differingFields binding.target candidate)
      (targetMatchesBinding binding candidate).failures := by
  have hfailures : (targetMatchesBinding binding candidate).failures = identityFields.flatMap (fun field =>
      (fieldFailure (binding.target.getattr field) (candidate.getattr field) field).toList) :=
    List.filterMap_eq_flatMap_toList _ _
  rw [hfailures]
  apply explain_differing
  · intro field hsame
    rw [fieldFailure_eq_none.mpr hsame]
    rfl
  · intro field hdiffer
    exact fieldFailure_reported field hdiffer

/-! ## The drift check -/

variable {project : ProjectState} {discovery : SourceDiscoveryReport} {candidate : TargetSurface}

/-- **The drift check** reports the fields on which the candidate differs from the reference, one by one, if it is
    none of the discovery's targets. There is such a field, since the reference is one of the targets. -/
theorem candidateSourceTargetFailures_explained (hd : project.sourceDiscovery = some discovery)
    (hnone : ∀ target ∈ discovery.sourceTargets, ¬SameIdentity candidate target) :
    differingFields discovery.reference candidate ≠ []
      ∧ List.Forall₂ NamesField (differingFields discovery.reference candidate)
        (candidateSourceTargetFailures project candidate) := by
  have hreference : ¬SameIdentity candidate discovery.reference :=
    hnone discovery.reference discovery.reference_mem
  have hsearch : ¬discovery.sourceTargets.any (fun target => targetIdentityMatches candidate target) = true := by
    simpa only [List.any_eq_true, targetIdentityMatches_iff, not_exists, not_and] using hnone
  refine ⟨fun hnil => hreference (differingFields_eq_nil.mp hnil).symm, ?_⟩
  unfold candidateSourceTargetFailures
  rw [hd]
  simp only
  rw [if_neg hsearch]
  apply explain_differing
  · intro field hsame
    rw [failIf_eq_nil, not_not]
    exact hsame
  · intro field hdiffer
    refine ⟨_, if_pos hdiffer, "candidate ", " does not match discovered target: discovered="
      ++ (discovery.reference.reprAttr field ++ (" candidate=" ++ candidate.reprAttr field)), ?_⟩
    simp [String.append_assoc]

end

/-! ## The comparisons agree -/

/-- **The target comparisons agree.** The check against the binding passes exactly when the identity comparison
    does, and the drift check reports nothing exactly when the candidate has the identity of the recommended target
    or of a discovered source. -/
theorem target_comparisons_agree [UnicodeData] :
    (∀ (binding : ApprovedTargetBinding) (candidate : TargetSurface),
      (targetMatchesBinding binding candidate).ok = true
        ↔ targetIdentityMatches binding.target candidate = true)
    ∧ (∀ (project : ProjectState) (discovery : SourceDiscoveryReport) (candidate : TargetSurface),
      project.sourceDiscovery = some discovery →
      (candidateSourceTargetFailures project candidate = []
        ↔ ∃ target, (target ∈ discovery.recommendedTarget ∨ target ∈ discovery.discoveredSources)
          ∧ SameIdentity candidate target)) := by
  constructor
  · intro binding candidate
    rw [targetMatchesBinding_ok, targetIdentityMatches_iff]
  · intro project discovery candidate hd
    rw [candidateSourceTargetFailures_eq_nil, SourceMatched, hd]
    simp only [Option.mem_some_iff, exists_eq_left']

/-- The discovered target is reported as no drift, and on another port it is. -/
theorem target_comparisons_agree_port :
    @candidateSourceTargetFailures asciiOnly (exampleProject .planReview) exampleTarget = []
      ∧ @candidateSourceTargetFailures asciiOnly (exampleProject .planReview) { exampleTarget with port := none }
        ≠ [] := by
  obtain ⟨-, hdrift⟩ := @target_comparisons_agree asciiOnly
  constructor
  · exact (hdrift (exampleProject .planReview) _ exampleTarget rfl).mpr
      ⟨exampleTarget, Or.inr List.mem_cons_self, ⟨rfl, rfl, rfl, rfl, rfl, rfl, rfl⟩⟩
  · intro hnil
    obtain ⟨target, hmem, hsame⟩ := (hdrift (exampleProject .planReview) _ _ rfl).mp hnil
    rcases hmem with hrecommended | hsource
    · exact absurd hrecommended (by simp)
    · obtain rfl := List.mem_singleton.mp hsource
      exact absurd hsame.port (by decide)

end WorkflowDrivers
