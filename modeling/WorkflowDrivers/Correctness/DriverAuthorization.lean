import WorkflowDrivers.Correctness.ProjectGates

/-!
# `Correctness.DriverAuthorization` — the authorization of driver-test progress

The gate checks the authorization, the driver attaches it, and each has a list of phases of its own. That the
lists are the same is what makes "checked" and "attached" coincide: in driver-test mode the decisions that enter
one of these phases carry the evidence the gate accepted, and no other decision carries any.
-/

namespace WorkflowDrivers
open Lib StrEnum

/-- The phases whose decisions carry an authorization are the phases whose gate checks one. -/
theorem authorized_phases_eq : driverAuthorizedDecisionPhases = driverAuthorizedProgressPhases := rfl

/-- A decision that makes authorized progress: it enters one of the driver-authorized phases. -/
def EntersAuthorizedPhase (d : WorkflowDecision) : Prop :=
  (∃ phase ∈ driverAuthorizedDecisionPhases, d.toPhase = value phase) ∧ d.toPhase ≠ d.fromPhase

/-- No resting phase is a driver-authorized one. -/
theorem authorized_not_resting : ∀ phase ∈ driverAuthorizedDecisionPhases, phase ∉ restingPhases := by decide

section
variable [UnicodeData] {state : ProjectState} {args : ProjectTransitionArgs} {d : WorkflowDecision}

/-- A move the gate let through in driver-test mode, into a driver-authorized phase, is authorized. -/
theorem gate_passed_authorized (hgate : (transitionGate state args).ok = true)
    (hne : nextProjectPhase state ≠ state.phase) (hmode : args.driverTestMode = true)
    (hphase : nextProjectPhase state ∈ driverAuthorizedDecisionPhases) :
    DriverAuthorized state args.driverAuthorization := by
  rw [transitionGate, checkProjectTransitionGate_ok_failures hne, authorizationFailures_eq_nil] at hgate
  rw [authorized_phases_eq] at hphase
  exact hgate.2 hmode hphase

/-- In driver-test mode a decision that enters a driver-authorized phase carries the accepted evidence. -/
theorem authorization_attached (h : decideNextProjectTransition state args = .ok d)
    (hmode : args.driverTestMode = true) (henters : EntersAuthorizedPhase d) :
    d.driverAuthorization = args.driverAuthorization ∧ DriverAuthorized state args.driverAuthorization := by
  obtain ⟨⟨phase, hphase, hto⟩, hnew⟩ := henters
  obtain ⟨hnext, hne, hgate, hattached⟩ :=
    gate_passed_of_enters h (authorized_not_resting phase hphase) hto hnew
  constructor
  · rw [hattached, driverAuthorizationForDecision]
    exact if_neg (by simp [hmode, hphase])
  · rw [← hnext] at hphase
    exact gate_passed_authorized hgate hne hmode hphase

/-- Any other decision carries no authorization. -/
theorem authorization_absent (h : decideNextProjectTransition state args = .ok d)
    (hother : ¬(args.driverTestMode = true ∧ EntersAuthorizedPhase d)) : d.driverAuthorization = none := by
  rcases advance_or_rests h with ⟨decisionId, signal, rfl, hne, hgate⟩ | ⟨hnone, -⟩
  · refine if_pos ?_
    by_contra hattached
    rw [not_or, not_not, Bool.not_eq_false] at hattached
    refine hother ⟨hattached.1, ⟨_, hattached.2, rfl⟩, ?_⟩
    rw [advanceDecision, ne_eq, value_inj]
    exact hne
  · exact hnone

/-- A project that stays in its phase passes the gate, and gets the decision it would get without any
    authorization and outside driver-test mode. -/
theorem samePhase_unaffected (hsame : nextProjectPhase state = state.phase)
    (authorization : Option DriverAuthorizationEvidence) (mode : Bool) :
    decideNextProjectTransition state { args with driverAuthorization := authorization, driverTestMode := mode }
      = decideNextProjectTransition state { args with driverAuthorization := none, driverTestMode := false } := by
  have hgate : ∀ driverAuthorization driverTestMode,
      checkProjectTransitionGate state state.phase args.candidateTarget driverAuthorization driverTestMode
        = { ok := true } := fun driverAuthorization driverTestMode => if_pos rfl
  -- no return path of a project that stays in its phase reads the two arguments again
  unfold decideNextProjectTransition
  simp only [hsame, hgate, if_true]

end

/-- **Driver-test authorization.** In driver-test mode every decision that enters a driver-authorized phase carries
    exactly the supplied evidence, and that evidence is in order; every other decision, in either mode, carries
    none; and a project that stays in its phase passes the gate whatever the authorization, with a decision that
    does not depend on it. -/
theorem driver_authorization_exact [UnicodeData] (state : ProjectState) (args : ProjectTransitionArgs) :
    (∀ d, decideNextProjectTransition state args = .ok d → args.driverTestMode = true →
      EntersAuthorizedPhase d →
      ∃ authorization, args.driverAuthorization = some authorization
        ∧ d.driverAuthorization = some authorization
        ∧ authorization.supervisorIntervention = false ∧ authorization.authorizedByRole = .developer
        ∧ ∀ binding ∈ state.approvedTargetBinding, authorization.bindingVersion = some binding.version)
    ∧ (∀ d, decideNextProjectTransition state args = .ok d →
      ¬(args.driverTestMode = true ∧ EntersAuthorizedPhase d) → d.driverAuthorization = none)
    ∧ (nextProjectPhase state = state.phase → (transitionGate state args).ok = true
      ∧ decideNextProjectTransition state args
        = decideNextProjectTransition state { args with driverAuthorization := none, driverTestMode := false }) := by
  refine ⟨?_, fun d h hother => authorization_absent h hother, ?_⟩
  · intro d h hmode henters
    obtain ⟨hattached, authorization, ha, hsupervisor, hrole, hversion⟩ := authorization_attached h hmode henters
    exact ⟨authorization, ha, hattached.trans ha, hsupervisor, hrole, hversion⟩
  · intro hsame
    refine ⟨?_, samePhase_unaffected hsame args.driverAuthorization args.driverTestMode⟩
    rw [transitionGate, checkProjectTransitionGate, if_pos hsame]

/-- The developer's authorization for the approved binding. -/
def exampleAuthorization : DriverAuthorizationEvidence where
  workflowDecisionId := "D-1"
  activityId := "A-1"
  bindingVersion := some "v1"
  authorizedByRole := .developer
  workflowDecisionId_nonblank := by decide +kernel
  activityId_nonblank := by decide +kernel
  bindingVersion_nonblank := by decide +kernel

/-- The arguments of a driver-test run. -/
def exampleTestArgs : ProjectTransitionArgs where
  decidedAt := "T1"
  candidateTarget := some exampleTarget
  driverAuthorization := some exampleAuthorization
  driverTestMode := true

/-- The decision of a project whose tasks are complete: it opens the pull request. -/
def exampleLabelled : WorkflowDecision :=
  advanceDecision "P-1:TASK_EXECUTION:to:PR_OPEN" "T1" "TASK_EXECUTION" "PR_OPEN" (some .taskCompleted)
    (some exampleAuthorization)

theorem driver_authorization_exact_prOpen :
    @decideNextProjectTransition asciiOnly (exampleProject .taskExecution) exampleTestArgs = .ok exampleLabelled
      ∧ exampleLabelled.driverAuthorization = some exampleAuthorization := by
  have hd : @decideNextProjectTransition asciiOnly (exampleProject .taskExecution) exampleTestArgs
      = .ok exampleLabelled := by decide +kernel
  obtain ⟨authorization, ha, hattached, -⟩ :=
    (@driver_authorization_exact asciiOnly (exampleProject .taskExecution) exampleTestArgs).1 exampleLabelled hd
      rfl ⟨⟨.prOpen, by decide, rfl⟩, by decide⟩
  exact ⟨hd, hattached.trans ha.symm⟩

end WorkflowDrivers
