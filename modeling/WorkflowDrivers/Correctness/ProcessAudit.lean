import WorkflowDrivers.Correctness.ProjectGates
import WorkflowDrivers.Policies.Audit

/-!
# `Correctness.ProcessAudit` — the audit against the live gates

The audit is to say, after the fact, what the live gates would have said. It departs from them in two places.
A snapshot in `PR_OPEN` is never asked for its candidate and its authorization, since the gate lets a move into
the phase the project is already in pass. And the candidate is compared with the discovered sources alone, where
the gates compare it with the approved binding. For both, exactly the snapshots that are affected are named.
-/

namespace WorkflowDrivers
open Lib StrEnum

/-! ## The gate, asked for the move into `PR_OPEN` -/

/-- The transition gate for a project on its way from the task execution into `PR_OPEN`. -/
def prOpenGate [UnicodeData] (project : ProjectState) (candidateTarget : Option TargetSurface)
    (driverAuthorization : Option DriverAuthorizationEvidence) (driverTestMode : Bool) :
    ProjectTransitionGateCheck :=
  checkProjectTransitionGate { project with phase := .taskExecution } .prOpen candidateTarget driverAuthorization
    driverTestMode

/-- **What the audit is to vouch for.** -/
structure ProcessSound [UnicodeData] (project : ProjectState) (candidateTarget : Option TargetSurface)
    (driverAuthorization : Option DriverAuthorizationEvidence) (driverTestMode : Bool) : Prop where
  proposal : (checkProposalGate project).ok = true
  candidate : ∃ candidate ∈ candidateTarget, ∃ binding ∈ project.approvedTargetBinding,
    SameIdentity binding.target candidate
  authorization : driverTestMode = true → ∃ authorization ∈ driverAuthorization,
    authorization.supervisorIntervention = false ∧ authorization.authorizedByRole = .developer
      ∧ ∃ binding ∈ project.approvedTargetBinding, authorization.bindingVersion = some binding.version

section
variable [UnicodeData] {project : ProjectState} {candidateTarget : Option TargetSurface}
  {driverAuthorization : Option DriverAuthorizationEvidence} {driverTestMode : Bool}

/-- From any other phase the gate into `PR_OPEN` asks for the same. -/
theorem gate_prOpen_ok (hphase : project.phase ≠ .prOpen) :
    (checkProjectTransitionGate project .prOpen candidateTarget driverAuthorization driverTestMode).ok = true ↔
      (prOpenGate project candidateTarget driverAuthorization driverTestMode).ok = true := by
  have hsource : ProjectIntakePhase.prOpen ≠ ({ project with phase := .taskExecution } : ProjectState).phase := by
    simp
  -- the failures do not depend on the phase the project is in
  rw [checkProjectTransitionGate_ok_failures hphase.symm]
  exact (checkProjectTransitionGate_ok_failures hsource).symm

/-- In `PR_OPEN` itself the gate asks for nothing. -/
theorem gate_prOpen_same (hphase : project.phase = .prOpen) :
    (checkProjectTransitionGate project .prOpen candidateTarget driverAuthorization driverTestMode).ok = true := by
  rw [checkProjectTransitionGate, if_pos hphase.symm]

/-- For a project that needs a proposal the gate asks exactly for what the audit is to vouch for. -/
theorem prOpenGate_ok_iff (hrequired : project.proposalRequired = true) :
    (prOpenGate project candidateTarget driverAuthorization driverTestMode).ok = true ↔
      ProcessSound project candidateTarget driverAuthorization driverTestMode := by
  have hgated : ProjectIntakePhase.prOpen ∈ gatedImplementationPhases := by decide
  have hprogress : ProjectIntakePhase.prOpen ∈ driverAuthorizedProgressPhases := by decide
  have hsource : ProjectIntakePhase.prOpen ≠ ({ project with phase := .taskExecution } : ProjectState).phase := by
    simp
  have hmoved : ({ project with phase := .taskExecution } : ProjectState).proposalRequired = true := hrequired
  refine (checkProjectTransitionGate_ok hmoved hsource).trans ?_
  rw [authorizationFailures_eq_nil]
  simp only [hgated, hprogress, true_imp_iff]
  constructor
  · rintro ⟨⟨happroved, candidate, hc, binding, hb, hsame⟩, hauthorized⟩
    refine ⟨(checkProposalGate_ok hrequired).mpr happroved, ⟨candidate, hc, binding, hb, hsame⟩, ?_⟩
    intro hmode
    obtain ⟨authorization, ha, hsupervisor, hrole, hversion⟩ := hauthorized hmode
    exact ⟨authorization, ha, hsupervisor, hrole, binding, hb, hversion binding hb⟩
  · rintro ⟨hproposal, hcandidate, hauthorized⟩
    refine ⟨⟨(checkProposalGate_ok hrequired).mp hproposal, hcandidate⟩, ?_⟩
    intro hmode
    obtain ⟨authorization, ha, hsupervisor, hrole, binding, hb, hversion⟩ := hauthorized hmode
    refine ⟨authorization, ha, hsupervisor, hrole, ?_⟩
    intro other hother
    obtain rfl : binding = other := Option.some.inj (hb.symm.trans hother)
    exact hversion

end

/-! ## Soundness -/

/-- **When the audit is sound.** For a snapshot in one of the audited phases an audit that passes vouches for the
    process exactly outside `PR_OPEN`, or if the acceptance proof fails, a given candidate drifts from the
    discovered sources, or the gate passes when it is asked from the task execution. -/
theorem audit_sound_iff [UnicodeData] (project : ProjectState) (candidateTarget : Option TargetSurface)
    (driverAuthorization : Option DriverAuthorizationEvidence) (driverTestMode : Bool)
    (hrequired : project.proposalRequired = true) (hphase : project.phase ∈ auditedImplementationPhases) :
    ((auditV2ProcessInvariants project candidateTarget driverAuthorization driverTestMode).ok = true →
        ProcessSound project candidateTarget driverAuthorization driverTestMode)
      ↔ project.phase ≠ .prOpen
        ∨ (checkAcceptanceProof project).ok = false
        ∨ (∃ candidate ∈ candidateTarget, ¬SourceMatched project candidate)
        ∨ (prOpenGate project candidateTarget driverAuthorization driverTestMode).ok = true := by
  rw [auditV2ProcessInvariants_ok]
  constructor
  · intro hsound
    by_cases hopen : project.phase = .prOpen
    · refine Or.inr ?_
      by_cases hacceptance : (checkAcceptanceProof project).ok = true
      · refine Or.inr ?_
        by_cases hmatched : ∀ candidate ∈ candidateTarget, SourceMatched project candidate
        · refine Or.inr ((prOpenGate_ok_iff hrequired).mpr (hsound ⟨hmatched, ?_, hacceptance⟩))
          exact fun _ => gate_prOpen_same hopen
        · left
          push Not at hmatched
          exact hmatched
      · exact Or.inl (Bool.eq_false_of_not_eq_true hacceptance)
    · exact Or.inl hopen
  · rintro (hopen | hacceptance | ⟨candidate, hc, hdrift⟩ | hgate) ⟨hmatched, hasked, hproof⟩
    · exact (prOpenGate_ok_iff hrequired).mp ((gate_prOpen_ok hopen).mp (hasked hphase))
    · rw [hproof] at hacceptance
      exact absurd hacceptance Bool.noConfusion
    · exact absurd (hmatched candidate hc) hdrift
    · exact (prOpenGate_ok_iff hrequired).mp hgate

theorem audit_sound_iff_finalReport :
    @ProcessSound asciiOnly (exampleProject .finalReport) (some exampleTarget) none false :=
  (@audit_sound_iff asciiOnly (exampleProject .finalReport) (some exampleTarget) none false rfl (by decide)).mpr
    (Or.inl (by decide)) (by decide +kernel)

/-- **The audit is not sound in `PR_OPEN`**: it passes a snapshot for which no candidate was given at all. -/
theorem audit_not_sound :
    ¬∀ (project : ProjectState) (candidateTarget : Option TargetSurface)
      (driverAuthorization : Option DriverAuthorizationEvidence) (driverTestMode : Bool),
      project.proposalRequired = true → project.phase ∈ auditedImplementationPhases →
      (@auditV2ProcessInvariants asciiOnly project candidateTarget driverAuthorization driverTestMode).ok = true →
      @ProcessSound asciiOnly project candidateTarget driverAuthorization driverTestMode := by
  intro hsound
  obtain ⟨-, ⟨candidate, hnone, -⟩, -⟩ :=
    hsound (exampleProject .prOpen) none none false rfl (by decide) (by decide +kernel)
  cases hnone

/-! ## Completeness -/

/-- **When the audit is complete.** A project in a final phase that both live gates pass is passed by the audit
    exactly if no candidate is given, or the candidate is one of the discovery's targets. -/
theorem audit_complete_iff [UnicodeData] (project : ProjectState) (candidateTarget : Option TargetSurface)
    (driverAuthorization : Option DriverAuthorizationEvidence) (driverTestMode : Bool)
    (hphase : project.phase = .finalReport ∨ project.phase = .done)
    (hacceptance : (checkAcceptanceProof project).ok = true)
    (hgate : (prOpenGate project candidateTarget driverAuthorization driverTestMode).ok = true) :
    (auditV2ProcessInvariants project candidateTarget driverAuthorization driverTestMode).ok = true ↔
      ∀ candidate ∈ candidateTarget, SourceMatched project candidate := by
  have hopen : project.phase ≠ .prOpen := by
    rcases hphase with h | h <;> rw [h] <;> decide
  rw [auditV2ProcessInvariants_ok, gate_prOpen_ok hopen]
  constructor
  · exact fun h => h.1
  · exact fun h => ⟨h, fun _ => hgate, hacceptance⟩

/-- A project whose approved target is a substitute for the discovered one: the evidence that approved it is on
    the target. -/
def exampleSubstitute : ProjectState where
  id := "P-1"
  phase := .finalReport
  proposalRequired := true
  sourceDiscovery := some
    { intakeId := "I-1"
      discoveredSources := [{ label := "dashboard", repo := some "status-ui", port := some 8787 }]
      discoveredSources_ne := by simp
      confidence := .high
      requiredNextGate := .planReview
      evidenceRefs := [{ type := .sourceDiscovery, uri := "discovery" }] }
  proposalApproval := (exampleProject .finalReport).proposalApproval
  approvedTargetBinding := (exampleProject .finalReport).approvedTargetBinding.map (fun binding =>
    { binding with approvedSubstituteArtifacts := exampleTarget.evidenceRefs })
  acceptanceReport := some exampleReport

theorem audit_complete_iff_finalReport :
    (@auditV2ProcessInvariants asciiOnly (exampleProject .finalReport) (some exampleTarget) none false).ok
      = true := by
  refine (@audit_complete_iff asciiOnly (exampleProject .finalReport) (some exampleTarget) none false
    (Or.inl rfl) (by decide +kernel) (by decide +kernel)).mpr ?_
  rintro candidate ⟨⟩
  exact ⟨_, rfl, exampleTarget, Or.inr (List.mem_singleton_self _), ⟨rfl, rfl, rfl, rfl, rfl, rfl, rfl⟩⟩

/-- **The audit is not complete**: the approved substitute passes both live gates and is reported as drift. -/
theorem audit_not_complete :
    ¬∀ (project : ProjectState) (candidateTarget : Option TargetSurface)
      (driverAuthorization : Option DriverAuthorizationEvidence) (driverTestMode : Bool),
      (project.phase = .finalReport ∨ project.phase = .done) →
      (@checkAcceptanceProof asciiOnly project).ok = true →
      (@prOpenGate asciiOnly project candidateTarget driverAuthorization driverTestMode).ok = true →
      (@auditV2ProcessInvariants asciiOnly project candidateTarget driverAuthorization driverTestMode).ok
        = true := by
  intro hcomplete
  have haudit := hcomplete exampleSubstitute (some exampleTarget) none false (Or.inl rfl) (by decide +kernel)
    (by decide +kernel)
  exact absurd haudit (by decide +kernel)

end WorkflowDrivers
