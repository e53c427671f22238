import WorkflowDrivers.Correctness.BlockedStates

/-!
# `Correctness.TemplateRuns` — where policy-checked runs can lead

The policy of a phase constrains what a decision may do there, not where it may lead: a blocker fixes the phase it
is routed to, a terminal outcome fixes the phases it is recorded in, and a resume takes an option of the blocker,
which the policy has checked when the blocker was recorded. Any other decision names its destination freely. So a run
stays inside the template, or ends in a phase that fits its recorded outcome, except by a last decision that records
neither blocker nor outcome: one that names any other phase from an open one, resumes to the name of an outcome, or
takes an option of the blocker that the run began with. From there no decision is accepted.
-/

namespace WorkflowDrivers
open Lib StrEnum

/-! ## Inside the template -/

/-- A phase of the driver kind: looking up its policy does not raise. -/
def HasPolicy (kind : DriverKind) (phase : String) : Prop := ∃ policy, phasePolicyFor kind phase = .ok policy

/-- The phases with a policy are the template's. -/
theorem hasPolicy_iff {kind : DriverKind} {phase : String} : HasPolicy kind phase ↔ phase ∈ templatePhases kind := by
  rw [← templatePhasePolicy?_isSome, Option.isSome_iff_exists]
  simp only [HasPolicy, phasePolicyFor_eq_ok]

instance (kind : DriverKind) (phase : String) : Decidable (HasPolicy kind phase) :=
  decidable_of_iff _ hasPolicy_iff.symm

section
variable {kind : DriverKind} {state next : WorkflowStateRecord} {d : ValidDecision}

/-- A step starts in a phase of the driver kind. -/
theorem policyStep_hasPolicy (h : policyStep kind state d = .ok next) : HasPolicy kind state.phase := by
  obtain ⟨⟨policy, hpolicy, -⟩, haccepts, -⟩ := policyStep_eq_ok.mp h
  rw [haccepts.fromPhase] at hpolicy
  exact ⟨policy, phasePolicyFor_eq_ok.mpr hpolicy⟩

end

/-! ## Runs -/

end WorkflowDrivers
