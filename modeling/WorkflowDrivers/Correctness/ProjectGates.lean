import WorkflowDrivers.Workflows.ProjectDriver

/-!
# `Correctness.ProjectGates` — the gates of the project driver are exact

`Policies.GateSpec` says when a gate passes; here the driver is added. A decision that enters an
implementation phase, or that ends the workflow, exists exactly when the recorded evidence is in order.
-/

namespace WorkflowDrivers
open Lib StrEnum

/-! ## The implementation gate -/

/-- What the implementation phases ask for: the proposal is approved, and the candidate is its target. -/
structure ImplementationApproved (project : ProjectState) (candidateTarget : Option TargetSurface) : Prop where
  proposal : ProposalApproved project
  candidate : CandidateApproved project candidateTarget

theorem projectBlockedPhaseFor_blocked (ownerRole : WorkflowRole) :
    projectBlockedPhaseFor ownerRole ∈ blockedGates := by
  unfold projectBlockedPhaseFor
  split <;> decide

/-- The phases a decision other than an advance leads to, if it leaves its phase. -/
def restingPhases : List ProjectIntakePhase := blockedGates ++ [.reviewWait, .done]

/-- No resting phase is an implementation phase. -/
theorem gated_not_resting : ∀ phase ∈ gatedImplementationPhases, phase ∉ restingPhases := by decide

section
variable [UnicodeData] {state : ProjectState} {args : ProjectTransitionArgs} {d : WorkflowDecision}

/-- A decision of the driver is an advance that the transition gate let through, or it carries no authorization
    and stays in its phase or leads to a resting one. -/
theorem advance_or_rests (h : decideNextProjectTransition state args = .ok d) :
    (∃ decisionId signal,
      d = advanceDecision decisionId args.decidedAt (value state.phase) (value (nextProjectPhase state))
        (some signal)
        (driverAuthorizationForDecision args.driverAuthorization args.driverTestMode (nextProjectPhase state))
      ∧ nextProjectPhase state ≠ state.phase ∧ (transitionGate state args).ok = true)
    ∨ (d.driverAuthorization = none
      ∧ (d.toPhase = d.fromPhase ∨ ∃ phase ∈ restingPhases, d.toPhase = value phase)) := by
  have hrests : ∀ ownerRole, ∃ phase ∈ restingPhases, value (projectBlockedPhaseFor ownerRole) = value phase :=
    fun ownerRole => ⟨_, List.mem_append_left _ (projectBlockedPhaseFor_blocked ownerRole), rfl⟩
  obtain ⟨result, hresult, hmove⟩ := decideNextProjectTransition_returned h
  cases hmove with
  | blockedNeedsWait hb hw => cases hresult
  | needsWait hb hdone hw => cases hresult
  | gateBlocked hgate hne =>
      obtain ⟨rfl, -⟩ := emit_eq_ok.mp hresult.symm
      exact Or.inr ⟨rfl, Or.inr (hrests _)⟩
  | blockedWait hb hsame hw =>
      obtain ⟨rfl, -⟩ := emit_eq_ok.mp hresult.symm
      exact Or.inr ⟨rfl, Or.inr (hrests _)⟩
  | blocked hgate hb hne =>
      obtain ⟨rfl, -⟩ := emit_eq_ok.mp hresult.symm
      exact Or.inr ⟨rfl, Or.inr (hrests _)⟩
  | doneBlocked hb hdone hproof =>
      obtain ⟨rfl, -⟩ := emit_eq_ok.mp hresult.symm
      exact Or.inr ⟨rfl, Or.inr ⟨.blockedNeedsZoEl, by decide, rfl⟩⟩
  | reviewBlocked hb hphase =>
      obtain ⟨rfl, -⟩ := emit_eq_ok.mp hresult.symm
      exact Or.inr ⟨rfl, Or.inr (hrests _)⟩
  | done hb hdone hproof =>
      obtain ⟨rfl, -⟩ := emit_eq_ok.mp hresult.symm
      exact Or.inr ⟨rfl, Or.inr ⟨.done, by decide, rfl⟩⟩
  | reviewWait hb hreview hw =>
      obtain ⟨rfl, -⟩ := emit_eq_ok.mp hresult.symm
      exact Or.inr ⟨rfl, Or.inr ⟨.reviewWait, by decide, rfl⟩⟩
  | wait hb hdone hsame hw =>
      obtain ⟨rfl, -⟩ := emit_eq_ok.mp hresult.symm
      exact Or.inr ⟨rfl, Or.inl rfl⟩
  | advance hgate hb hdone hne hsignal hplain hto =>
      obtain ⟨rfl, -⟩ := emit_eq_ok.mp hresult.symm
      exact Or.inl ⟨_, _, rfl, hne, hgate⟩

/-- A decision that enters a phase other than a resting one was let through by the transition gate, and carries
    the authorization the driver attaches for that phase. -/
theorem gate_passed_of_enters {phase : ProjectIntakePhase} (h : decideNextProjectTransition state args = .ok d)
    (hphase : phase ∉ restingPhases) (hto : d.toPhase = value phase) (hnew : d.toPhase ≠ d.fromPhase) :
    nextProjectPhase state = phase ∧ nextProjectPhase state ≠ state.phase
      ∧ (transitionGate state args).ok = true
      ∧ d.driverAuthorization
        = driverAuthorizationForDecision args.driverAuthorization args.driverTestMode phase := by
  rcases advance_or_rests h with ⟨decisionId, signal, rfl, hne, hgate⟩ | ⟨-, hsame | ⟨resting, hmem, heq⟩⟩
  · obtain rfl : nextProjectPhase state = phase := value_inj.mp hto
    exact ⟨rfl, hne, hgate, rfl⟩
  · exact absurd hsame hnew
  · obtain rfl : phase = resting := value_inj.mp (hto.symm.trans heq)
    exact absurd hmem hphase

end

/-- **The implementation gate is exact.** Whenever the driver enters an implementation phase everything is
    approved; and when everything is approved and driver-test mode is off, the gate of those phases passes. -/
theorem implementation_gate_exact [UnicodeData] :
    (∀ (state : ProjectState) (args : ProjectTransitionArgs) (d : WorkflowDecision),
      state.proposalRequired = true → decideNextProjectTransition state args = .ok d →
      (∃ phase ∈ gatedImplementationPhases, d.toPhase = value phase) → d.toPhase ≠ d.fromPhase →
      ImplementationApproved state args.candidateTarget)
    ∧ (∀ (state : ProjectState) (phase : ProjectIntakePhase) (candidateTarget : Option TargetSurface)
        (driverAuthorization : Option DriverAuthorizationEvidence),
      state.proposalRequired = true → phase ∈ gatedImplementationPhases →
      ImplementationApproved state candidateTarget →
      (checkProjectTransitionGate state phase candidateTarget driverAuthorization false).ok = true) := by
  constructor
  · rintro state args d hrequired h ⟨phase, hphase, hto⟩ hnew
    obtain ⟨hnext, hne, hgate, -⟩ := gate_passed_of_enters h (gated_not_resting phase hphase) hto hnew
    obtain ⟨happroved, -⟩ := (checkProjectTransitionGate_ok hrequired hne).mp hgate
    obtain ⟨hproposal, hcandidate⟩ := happroved (hnext ▸ hphase)
    exact ⟨hproposal, hcandidate⟩
  · intro state phase candidateTarget driverAuthorization hrequired hphase happroved
    by_cases hsame : phase = state.phase
    · rw [checkProjectTransitionGate, if_pos hsame]
    · exact (checkProjectTransitionGate_ok hrequired hsame).mpr
        ⟨fun _ => ⟨happroved.proposal, happroved.candidate⟩,
          authorizationFailures_testOff state phase driverAuthorization⟩

/-- A project with an approved target, as the examples of this module use it. -/
def exampleTarget : TargetSurface where
  label := "service"
  repo := some "repo"
  port := some 8080
  evidenceRefs := [{ type := .report, uri := "target" }]

def exampleReport : AcceptanceReport where
  reportId := "report-1"
  bindingVersion := some "v1"
  target := exampleTarget
  criteria := [{ criterion := "health", satisfied := true, evidenceRefs := [{ type := .proof, uri := "health" }] }]
  liveVerificationRequired := true
  liveVerificationPassed := some true
  evidenceRefs := [{ type := .report, uri := "report" }]

theorem exampleSources_ne : [exampleTarget] ≠ [] := List.cons_ne_nil exampleTarget []

def exampleProject (phase : ProjectIntakePhase) : ProjectState where
  id := "P-1"
  phase
  proposalRequired := true
  sourceDiscovery := some
    { intakeId := "I-1"
      discoveredSources := [exampleTarget]
      discoveredSources_ne := exampleSources_ne
      confidence := .high
      requiredNextGate := .planReview
      evidenceRefs := [{ type := .sourceDiscovery, uri := "discovery" }] }
  proposalApproval := some
    { proposalId := "proposal-1", proposalVersion := "1", proposalDigest := "digest", approvedBy := "approver"
      approvedAt := "T0", approvalRecord := { type := .proposalApproval, uri := "approval" }
      coveredAcceptanceCriteria := ["health"] }
  approvedTargetBinding := some
    { bindingId := "binding-1", version := "v1", target := exampleTarget, proposalId := "proposal-1"
      proposalVersion := "1", proposalDigest := "digest", approvedBy := "approver"
      approvalRecord := { type := .proposalApproval, uri := "approval" }
      coveredAcceptanceCriteria := ["health"]
      sourceDiscoveryRefs := [{ type := .sourceDiscovery, uri := "discovery" }] }
  acceptanceReport := some exampleReport

theorem implementation_gate_exact_planReview :
    ImplementationApproved (exampleProject .planReview) (some exampleTarget)
      ∧ (@checkProjectTransitionGate asciiOnly (exampleProject .planReview) .taskBreakdown (some exampleTarget)
          none false).ok = true := by
  have happroved : ImplementationApproved (exampleProject .planReview) (some exampleTarget) :=
    (@implementation_gate_exact asciiOnly).1 (exampleProject .planReview)
      { decidedAt := "T1", candidateTarget := some exampleTarget }
      (advanceDecision "P-1:PLAN_REVIEW:to:TASK_BREAKDOWN" "T1" "PLAN_REVIEW" "TASK_BREAKDOWN"
        (some .planApproved) none)
      rfl (by decide +kernel) ⟨.taskBreakdown, by decide, rfl⟩ (by decide)
  exact ⟨happroved, (@implementation_gate_exact asciiOnly).2 _ _ _ none rfl (by decide) happroved⟩

/-! ## The DONE gate -/

/-- What DONE asks for. -/
def DoneAllowed [UnicodeData] (project : ProjectState) : Prop :=
  (checkProposalGate project).ok = true ∧ ∃ binding ∈ project.approvedTargetBinding,
    ∃ report ∈ project.acceptanceReport, AcceptanceProved binding project.proposalApproval report

section
variable [UnicodeData] {state : ProjectState}

theorem doneAllowed_iff (h : state.proposalRequired = true) :
    (checkAcceptanceProof state).ok = true ↔ DoneAllowed state := by
  rw [checkAcceptanceProof_ok h, DoneAllowed, checkProposalGate_ok h]

/-- The transition gate has no say in DONE. -/
theorem transitionGate_done (args : ProjectTransitionArgs) (hdone : nextProjectPhase state = .done) :
    (transitionGate state args).ok = true := by
  rw [transitionGate, hdone, checkProjectTransitionGate_ungated (by decide) (by decide)]

/-- In the final phases the driver blocks or is done, as the acceptance gate says. -/
theorem decide_final_phase (args : ProjectTransitionArgs) (hb : state.blocker = none)
    (hphase : state.phase = .finalReport ∨ state.phase = .done) :
    ∃ d, decideNextProjectTransition state args = .ok d ∧
      (((checkAcceptanceProof state).ok = true ∧ d.terminalOutcome = some .done)
        ∨ ((checkAcceptanceProof state).ok = false ∧ d.terminalOutcome = none
          ∧ d.toPhase = value ProjectIntakePhase.blockedNeedsZoEl
          ∧ ∃ blocker ∈ d.blockerToRecord, blocker.ownerRole = .humanApprover)) := by
  have hnext : nextProjectPhase state = .done := (nextProjectPhase_eq_done hb).mpr hphase
  have hreview : state.phase ≠ .reviewRequested := by rcases hphase with h | h <;> simp [h]
  have hmove := decideNextProjectTransition_move state args
  generalize decideNextProjectTransition state args = result at hmove
  cases hmove with
  | gateBlocked hgate hne => exact absurd (transitionGate_done args hnext) (by simp [hgate])
  | blockedNeedsWait hsome hw => exact absurd hsome (by simp [hb])
  | blockedWait hsome hsame hw => exact absurd hsome (by simp [hb])
  | blocked hgate hsome hne => exact absurd hsome (by simp [hb])
  | reviewBlocked _ hrequested => exact absurd hrequested hreview
  | needsWait _ hdone hw => exact absurd hnext hdone
  | reviewWait _ hrequested hw => exact absurd hrequested hreview
  | wait _ hdone hsame hw => exact absurd hnext hdone
  | advance hgate _ hdone hne hsignal hplain hto => exact absurd hnext hdone
  | doneBlocked _ hdone hproof =>
      refine ⟨_, emit_of_valid (blockerDecision_valid _), Or.inr ⟨hproof, rfl, rfl, ?_⟩⟩
      exact ⟨_, rfl, rfl⟩
  | done _ hdone hproof =>
      refine ⟨_, emit_of_valid (doneDecision_valid ?_ (by decide)), Or.inl ⟨hproof, rfl⟩⟩
      exact done_signal_plain state.phase

/-- **The DONE gate is exact.** A project that needs a proposal, in a final phase and without a blocker, gets a
    decision: DONE exactly when everything DONE asks for holds, and otherwise a blocker for the human approver
    and no terminal outcome. -/
theorem done_gate_exact (args : ProjectTransitionArgs) (hrequired : state.proposalRequired = true)
    (hb : state.blocker = none) (hphase : state.phase = .finalReport ∨ state.phase = .done) :
    ∃ d, decideNextProjectTransition state args = .ok d ∧
      (d.terminalOutcome = some .done ↔ DoneAllowed state) ∧
      (¬DoneAllowed state → d.terminalOutcome = none ∧ d.toPhase = value ProjectIntakePhase.blockedNeedsZoEl
        ∧ ∃ blocker ∈ d.blockerToRecord, blocker.ownerRole = .humanApprover) := by
  obtain ⟨d, hd, ⟨hproof, hterminal⟩ | ⟨hproof, hterminal, hto, hblocker⟩⟩ :=
    decide_final_phase args hb hphase
  · have hallowed : DoneAllowed state := (doneAllowed_iff hrequired).mp hproof
    exact ⟨d, hd, iff_of_true hterminal hallowed, fun hnot => absurd hallowed hnot⟩
  · have hnot : ¬DoneAllowed state := by
      rw [← doneAllowed_iff hrequired, hproof]
      exact Bool.false_ne_true
    exact ⟨d, hd, iff_of_false (by simp [hterminal]) hnot, fun _ => ⟨hterminal, hto, hblocker⟩⟩

end

theorem done_gate_exact_finalReport :
    ∃ d, @decideNextProjectTransition asciiOnly (exampleProject .finalReport) { decidedAt := "T1" } = .ok d
      ∧ d.terminalOutcome = some .done := by
  obtain ⟨d, hd, hdone, -⟩ := @done_gate_exact asciiOnly (exampleProject .finalReport) { decidedAt := "T1" }
    rfl rfl (Or.inl rfl)
  refine ⟨d, hd, hdone.mpr ?_⟩
  exact (@doneAllowed_iff asciiOnly _ rfl).mp (by decide +kernel)

end WorkflowDrivers
