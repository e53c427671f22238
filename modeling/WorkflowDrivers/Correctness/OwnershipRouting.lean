import WorkflowDrivers.Correctness.ProjectGates

/-!
# `Correctness.OwnershipRouting` — who decides on an unresolved ownership

A source discovery that finds the ownership of a target unresolved names the blocked phase, and with it the
decision maker, it wants next. On its way to the blocker of the transition gate the name is reduced to a boolean,
to a status and to an owner. What is left of it is only that the ownership is unresolved, and a project without
a binding loses that too. So the route depends on whether a binding is recorded, and on nothing else.
-/

namespace WorkflowDrivers
open Lib StrEnum

/-- The owner a blocked phase stands for. -/
def ownerOfBlockedPhase (gate : ProjectIntakePhase) : WorkflowRole :=
  if gate = .blockedNeedsZoEl then .humanApprover else .processSteward

/-- The blocked phase an unresolved ownership is routed to. -/
def ownershipRoute (project : ProjectState) : ProjectIntakePhase :=
  if project.approvedTargetBinding.isSome then .blockedNeedsElLe else .blockedNeedsZoEl

section
variable [UnicodeData] {project : ProjectState} {discovery : SourceDiscoveryReport}

/-! ## From the discovery to the status -/

/-- With a binding, an unresolved ownership is a failure, and its status comes before every other. -/
theorem bindingEvidenceFailures_blocked {binding : ApprovedTargetBinding}
    (hb : project.approvedTargetBinding = some binding) (hd : project.sourceDiscovery = some discovery)
    (hgate : discovery.requiredNextGate ∈ blockedGates) :
    (bindingEvidenceFailures project).1 = .blockedOwnership ∧ (bindingEvidenceFailures project).2 ≠ [] := by
  have hnot : ¬ProposalApproved project := by
    rintro ⟨b, hb', found, hd', approval, ha, hdiscovered, -⟩
    obtain rfl : found = discovery := Option.some.inj (hd'.symm.trans hd)
    exact hdiscovered.ownership hgate
  refine ⟨?_, fun hnil => hnot (bindingEvidenceFailures_eq_nil.mp hnil)⟩
  unfold bindingEvidenceFailures
  rw [hb, hd]
  cases project.proposalApproval <;> simp [checkSourceDiscovery, hgate, proposalGateFailureStatus]

/-- **The status.** The proposal gate fails; what it reports depends on the binding. -/
theorem checkProposalGate_blocked (hrequired : project.proposalRequired = true)
    (hd : project.sourceDiscovery = some discovery) (hgate : discovery.requiredNextGate ∈ blockedGates) :
    (checkProposalGate project).ok = false ∧ (checkProposalGate project).status
      = if project.approvedTargetBinding.isSome then .blockedOwnership else .requiredMissing := by
  rw [checkProposalGate, if_neg (by simp [hrequired])]
  cases hb : project.approvedTargetBinding with
  | none => exact ⟨rfl, rfl⟩
  | some binding =>
      obtain ⟨hstatus, hfailures⟩ := bindingEvidenceFailures_blocked hb hd hgate
      simp only
      rw [if_pos hfailures, hstatus]
      exact ⟨rfl, rfl⟩

/-! ## From the status to the phase -/

/-- The gate of an implementation phase fails with the status of the proposal gate. -/
theorem implementationFailures_blocked {nextPhase : ProjectIntakePhase} {candidateTarget : Option TargetSurface}
    (hrequired : project.proposalRequired = true) (hnext : nextPhase ∈ gatedImplementationPhases)
    (hok : (checkProposalGate project).ok = false) :
    implementationFailures project nextPhase candidateTarget
      = ((checkProposalGate project).status, (checkProposalGate project).failures) := by
  unfold implementationFailures
  rw [if_pos ⟨hrequired, hnext⟩, if_pos hok]

/-- **The blocker of the transition gate**, with its owner. -/
theorem transitionGate_ownership (args : ProjectTransitionArgs) (hrequired : project.proposalRequired = true)
    (hd : project.sourceDiscovery = some discovery) (hgate : discovery.requiredNextGate ∈ blockedGates)
    (hnext : nextProjectPhase project ∈ gatedImplementationPhases)
    (hne : nextProjectPhase project ≠ project.phase) :
    (transitionGate project args).ok = false ∧ ∃ blocker, (transitionGate project args).blocker = some blocker
      ∧ blocker.ownerRole = ownerOfBlockedPhase (ownershipRoute project) := by
  obtain ⟨hok, hstatus⟩ := checkProposalGate_blocked hrequired hd hgate
  have hfailures : (checkProposalGate project).failures ≠ [] := by
    rw [ne_eq, checkProposalGate_failures_eq_nil, hok]
    exact Bool.false_ne_true
  rw [transitionGate, checkProjectTransitionGate, if_neg hne,
    implementationFailures_blocked hrequired hnext hok]
  simp only
  rw [if_neg (fun hnil => hfailures (List.append_eq_nil_iff.mp hnil).1)]
  refine ⟨rfl, _, rfl, ?_⟩
  rw [blockerForTransitionGate_ownerRole, hstatus, ownershipRoute]
  cases project.approvedTargetBinding with
  | none => rfl
  | some binding => rfl

omit [UnicodeData] in
/-- An owner's blocked phase is the one that stands for it. -/
theorem projectBlockedPhaseFor_owner (project : ProjectState) :
    projectBlockedPhaseFor (ownerOfBlockedPhase (ownershipRoute project)) = ownershipRoute project := by
  unfold ownershipRoute
  split_ifs <;> rfl

/-- **The route.** The driver blocks in the phase `ownershipRoute`, with the owner that phase stands for. -/
theorem decide_ownership (args : ProjectTransitionArgs) (hrequired : project.proposalRequired = true)
    (hd : project.sourceDiscovery = some discovery) (hgate : discovery.requiredNextGate ∈ blockedGates)
    (hnext : nextProjectPhase project ∈ gatedImplementationPhases)
    (hne : nextProjectPhase project ≠ project.phase) :
    ∃ d blocker, decideNextProjectTransition project args = .ok d ∧ d.blockerToRecord = some blocker
      ∧ d.toPhase = value (ownershipRoute project)
      ∧ blocker.ownerRole = ownerOfBlockedPhase (ownershipRoute project) := by
  obtain ⟨hfalse, blocker, hblocker, howner⟩ := transitionGate_ownership args hrequired hd hgate hnext hne
  obtain ⟨decisionId, hdecide⟩ := decideNextProjectTransition_gateBlocked hfalse hblocker
  refine ⟨_, blocker, hdecide, rfl, ?_, howner⟩
  rw [← projectBlockedPhaseFor_owner, ← howner]
  rfl

end

/-- The route is the required gate exactly when the binding and the gate fit together. -/
theorem ownershipRoute_eq_iff {project : ProjectState} {gate : ProjectIntakePhase} (hgate : gate ∈ blockedGates) :
    ownershipRoute project = gate ↔ (project.approvedTargetBinding.isSome = true ↔ gate = .blockedNeedsElLe) := by
  unfold ownershipRoute
  rcases List.mem_cons.mp hgate with rfl | hgate
  · cases project.approvedTargetBinding <;> simp
  · obtain rfl := List.mem_singleton.mp hgate
    cases project.approvedTargetBinding <;> simp

/-- **When ownership routing follows the discovery.** A project that needs a proposal, whose discovery requires a
    blocked phase, and that would enter an implementation phase (it has no blocker then): the driver blocks it in
    the required phase, with the owner of that phase, exactly when a binding is recorded and the required phase is
    the process steward's, or no binding is recorded and it is the human approver's. -/
theorem ownership_routing_iff [UnicodeData] (state : ProjectState) (args : ProjectTransitionArgs)
    (discovery : SourceDiscoveryReport) (hrequired : state.proposalRequired = true)
    (hd : state.sourceDiscovery = some discovery) (hgate : discovery.requiredNextGate ∈ blockedGates)
    (hnext : nextProjectPhase state ∈ gatedImplementationPhases)
    (hne : nextProjectPhase state ≠ state.phase) :
    (∃ d blocker, decideNextProjectTransition state args = .ok d ∧ d.blockerToRecord = some blocker
        ∧ d.toPhase = value discovery.requiredNextGate
        ∧ blocker.ownerRole = ownerOfBlockedPhase discovery.requiredNextGate)
      ↔ (state.approvedTargetBinding.isSome = true ↔ discovery.requiredNextGate = .blockedNeedsElLe) := by
  obtain ⟨d, blocker, hdecide, hrecorded, hto, howner⟩ :=
    decide_ownership args hrequired hd hgate hnext hne
  rw [← ownershipRoute_eq_iff hgate]
  constructor
  · rintro ⟨e, other, he, -, hrequiredTo, -⟩
    obtain rfl : d = e := Except.ok.inj (hdecide.symm.trans he)
    exact value_inj.mp (hto.symm.trans hrequiredTo)
  · intro hroute
    rw [hroute] at hto howner
    exact ⟨d, blocker, hdecide, hrecorded, hto, howner⟩

/-- A project in plan review whose discovery leaves the ownership to `gate`. -/
def exampleUnowned (gate : ProjectIntakePhase) (binding : Option ApprovedTargetBinding) : ProjectState where
  id := "P-1"
  phase := .planReview
  proposalRequired := true
  sourceDiscovery := some
    { intakeId := "I-1"
      discoveredSources := [exampleTarget]
      discoveredSources_ne := exampleSources_ne
      confidence := .low
      requiredNextGate := gate
      evidenceRefs := [{ type := .sourceDiscovery, uri := "discovery" }] }
  approvedTargetBinding := binding

theorem ownership_routing_iff_unbound :
    ∃ d blocker, @decideNextProjectTransition asciiOnly (exampleUnowned .blockedNeedsZoEl none)
        { decidedAt := "T1" } = .ok d
      ∧ d.blockerToRecord = some blocker ∧ d.toPhase = "BLOCKED_NEEDS_ZO_EL"
      ∧ blocker.ownerRole = .humanApprover :=
  (@ownership_routing_iff asciiOnly (exampleUnowned .blockedNeedsZoEl none) { decidedAt := "T1" } _ rfl rfl
    (by decide) (by decide) (by decide)).mpr (by decide)

/-- Ownership routing does not follow the discovery: a project without a binding whose ownership the process
    steward is to decide is sent to the human approver. -/
theorem ownership_misrouted :
    ¬∀ (state : ProjectState) (args : ProjectTransitionArgs) (discovery : SourceDiscoveryReport),
      state.proposalRequired = true → state.blocker = none → state.sourceDiscovery = some discovery →
      discovery.requiredNextGate ∈ blockedGates → nextProjectPhase state ∈ gatedImplementationPhases →
      nextProjectPhase state ≠ state.phase →
      ∃ d blocker, @decideNextProjectTransition asciiOnly state args = .ok d ∧ d.blockerToRecord = some blocker
        ∧ d.toPhase = value discovery.requiredNextGate
        ∧ blocker.ownerRole = ownerOfBlockedPhase discovery.requiredNextGate := by
  intro h
  obtain ⟨d, blocker, hdecide, -, hto, -⟩ := h (exampleUnowned .blockedNeedsElLe none) { decidedAt := "T1" } _
    rfl rfl rfl (by decide) (by decide) (by decide)
  obtain ⟨e, other, he, -, hroute, -⟩ := @decide_ownership asciiOnly (exampleUnowned .blockedNeedsElLe none) _
    { decidedAt := "T1" } rfl rfl (by decide) (by decide) (by decide)
  obtain rfl : d = e := Except.ok.inj (hdecide.symm.trans he)
  exact absurd (hto.symm.trans hroute) (by decide)

end WorkflowDrivers
