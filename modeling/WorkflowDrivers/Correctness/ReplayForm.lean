import WorkflowDrivers.Policies.Replay
import WorkflowDrivers.Store.Status

/-!
# `Correctness.ReplayForm` — what a replay leads to, read off the log

`replayDecisions` folds a step with many conditional updates over the log. Most fields of the result can be read
off the log as a whole: the evidence is gathered, the identity stays, the terminal outcome and the progress stamp
are the last ones written, the observations are counted since the last progress, and phase and activity are those
of the last decision. `ReplayClosedForm` says so field by field; each field is one update of `nextState` and one
closed form of `Lib.Replay`.
-/

namespace WorkflowDrivers
open Lib

/-- The last decision with material progress. -/
def lastMaterial (decisions : List WorkflowDecision) : Option WorkflowDecision :=
  (decisions.filter WorkflowDecision.materialProgress).getLast?

/-- The decisions after the last one with material progress; all of them if there is none. -/
def sinceMaterial (decisions : List WorkflowDecision) : List WorkflowDecision :=
  decisions.rtakeWhile (fun decision => !decision.materialProgress)

/-- **The result of a replay, field by field**, in terms of the initial record and the whole log. -/
structure ReplayClosedForm (initial : WorkflowStateRecord) (decisions : List WorkflowDecision)
    (result : WorkflowStateRecord) : Prop where
  evidenceRefs : result.evidenceRefs = initial.evidenceRefs ++ decisions.flatMap WorkflowDecision.evidenceRefs
  workflowId : result.workflowId = initial.workflowId
  templateId : result.templateId = initial.templateId
  templateVersion : result.templateVersion = initial.templateVersion
  driverKind : result.driverKind = initial.driverKind
  input : result.input = initial.input
  roleBindingsVersion : result.roleBindingsVersion = initial.roleBindingsVersion
  planVersion : result.planVersion = initial.planVersion
  terminal : result.terminal =
    match (decisions.filterMap WorkflowDecision.terminalOutcome).getLast? with
    | some outcome => some { outcome := outcome }
    | none => initial.terminal
  lastMaterialProgressAt : result.progressLedger.lastMaterialProgressAt =
    match lastMaterial decisions with
    | some decision => some decision.decidedAt
    | none => initial.progressLedger.lastMaterialProgressAt
  lastProgressSignal : result.progressLedger.lastProgressSignal =
    match lastMaterial decisions with
    | some decision => decision.progressSignal
    | none => initial.progressLedger.lastProgressSignal
  noOpObservationCount : result.progressLedger.noOpObservationCount =
    (if (lastMaterial decisions).isSome then 0 else initial.progressLedger.noOpObservationCount)
      + ((sinceMaterial decisions).countP isNoOpObservation : Nat)
  phase : result.phase =
    match decisions.getLast? with
    | some last => last.toPhase
    | none => initial.phase
  currentActivity : result.currentActivity =
    match decisions.getLast? with
    | some last =>
        last.activitiesToSchedule.head?.map (fun activity =>
          { activityId := activity.activityId, role := activity.role, requestedAt := last.decidedAt,
            deadlineAt := none })
    | none => initial.currentActivity
  evidenceUris : (statusOf result).evidenceUris =
    ((initial.evidenceRefs ++ decisions.flatMap WorkflowDecision.evidenceRefs
        ++ (result.blocker.map Blocker.evidenceRefs).getD []).map EvidenceRef.uri).eraseDups

section
variable {initial result : WorkflowStateRecord} {decisions : List WorkflowDecision}

/-! ## Fields no decision touches -/

/-- What `nextState` keeps, a replay keeps. -/
theorem replay_kept {β : Type} {f : WorkflowStateRecord → β}
    (hkept : ∀ state decision, f (nextState state decision) = f state)
    (h : replayDecisions initial decisions = .ok result) : f result = f initial :=
  replay_unchanged (fun state decision next hd => by rw [(applyDecision_eq_ok.mp hd).2, hkept]) h

/-! ## Fields the log gathers or overwrites -/

/-- Every decision adds its evidence. -/
theorem replay_evidenceRefs (h : replayDecisions initial decisions = .ok result) :
    result.evidenceRefs = initial.evidenceRefs ++ decisions.flatMap WorkflowDecision.evidenceRefs := by
  refine replay_gather (fun state decision next hd => ?_) h
  rw [(applyDecision_eq_ok.mp hd).2, nextState_eq]

/-- A field each decision overwrites is that of the last one. -/
theorem replay_overwritten {β : Type} {f : WorkflowStateRecord → β} {g : WorkflowDecision → β}
    (hwrite : ∀ state decision, f (nextState state decision) = g decision)
    (h : replayDecisions initial decisions = .ok result) : f result = decisions.getLast?.elim (f initial) g := by
  have hlast : f result = (decisions.filterMap some).getLast?.elim (f initial) g := by
    refine replay_lastWrite f some g (fun state decision next hd => ?_) h
    rw [(applyDecision_eq_ok.mp hd).2, hwrite, Option.elim_some]
  rwa [List.filterMap_some] at hlast

theorem replay_terminal (h : replayDecisions initial decisions = .ok result) :
    result.terminal = (decisions.filterMap WorkflowDecision.terminalOutcome).getLast?.elim initial.terminal
      (fun outcome => some { outcome := outcome }) := by
  refine replay_lastWrite WorkflowStateRecord.terminal _ _ (fun state decision next hd => ?_) h
  rw [(applyDecision_eq_ok.mp hd).2, nextState_terminal, nextTerminal]
  cases decision.terminalOutcome <;> rfl

/-! ## The progress ledger -/

/-- What a decision does to the ledger. -/
theorem applyDecision_ledger {state next : WorkflowStateRecord} {decision : WorkflowDecision}
    (h : applyDecision state decision = .ok next) :
    next.progressLedger = updateLedger decision state.progressLedger := by
  rw [(applyDecision_eq_ok.mp h).2, nextState_eq]

/-- Without material progress the stamp stays. -/
theorem updateLedger_kept {decision : WorkflowDecision} {ledger : ProgressLedger}
    (h : decision.materialProgress = false) :
    (updateLedger decision ledger).lastMaterialProgressAt = ledger.lastMaterialProgressAt
      ∧ (updateLedger decision ledger).lastProgressSignal = ledger.lastProgressSignal := by
  rw [updateLedger, if_neg (by rw [h]; exact Bool.false_ne_true)]
  split_ifs <;> exact ⟨rfl, rfl⟩

/-- A part of the ledger that only material progress overwrites. -/
theorem replay_stamp {β : Type} (f : ProgressLedger → β) (g : WorkflowDecision → β)
    (hmaterial : ∀ decision ledger, decision.materialProgress = true → f (updateLedger decision ledger) = g decision)
    (hother : ∀ decision ledger, decision.materialProgress = false → f (updateLedger decision ledger) = f ledger)
    (h : replayDecisions initial decisions = .ok result) :
    f result.progressLedger = (lastMaterial decisions).elim (f initial.progressLedger) g := by
  have hlast : f result.progressLedger
      = (decisions.filterMap (Option.guard WorkflowDecision.materialProgress)).getLast?.elim
          (f initial.progressLedger) g := by
    refine replay_lastWrite (fun state => f state.progressLedger) _ g (fun state decision next hd => ?_) h
    rw [applyDecision_ledger hd]
    cases hprogress : decision.materialProgress with
    | true => rw [hmaterial _ _ hprogress, Option.guard_pos hprogress, Option.elim_some]
    | false => rw [hother _ _ hprogress, Option.guard_eq_none_iff.mpr hprogress, Option.elim_none]
  rwa [List.filterMap_eq_filter] at hlast

theorem lastMaterial_isSome : (lastMaterial decisions).isSome = decisions.any WorkflowDecision.materialProgress := by
  rw [Bool.eq_iff_iff]
  simp [lastMaterial]

/-- Observations count from the last material progress. -/
theorem replay_observations (h : replayDecisions initial decisions = .ok result) :
    result.progressLedger.noOpObservationCount =
      (if (lastMaterial decisions).isSome then 0 else initial.progressLedger.noOpObservationCount)
        + ((sinceMaterial decisions).countP isNoOpObservation : Nat) := by
  rw [lastMaterial_isSome]
  refine replay_countSince (fun state => state.progressLedger.noOpObservationCount) _ _
    (fun state decision next hd => ?_) h
  show next.progressLedger.noOpObservationCount = _
  rw [applyDecision_ledger hd, updateLedger]
  split_ifs <;> rfl

/-- **The closed form of a replay.** Whatever the log, if it is accepted its result is the one read off it. -/
theorem replay_closed_form (h : replayDecisions initial decisions = .ok result) :
    ReplayClosedForm initial decisions result where
  evidenceRefs := replay_evidenceRefs h
  workflowId := replay_kept (fun state decision => by rw [nextState_eq]) h
  templateId := replay_kept (fun state decision => by rw [nextState_eq]) h
  templateVersion := replay_kept (fun state decision => by rw [nextState_eq]) h
  driverKind := replay_kept (fun state decision => by rw [nextState_eq]) h
  input := replay_kept (fun state decision => by rw [nextState_eq]) h
  roleBindingsVersion := replay_kept (fun state decision => by rw [nextState_eq]) h
  planVersion := replay_kept (fun state decision => by rw [nextState_eq]) h
  terminal := by
    rw [replay_terminal h]
    cases (decisions.filterMap WorkflowDecision.terminalOutcome).getLast? <;> rfl
  lastMaterialProgressAt := by
    rw [replay_stamp ProgressLedger.lastMaterialProgressAt (fun decision => some decision.decidedAt) ?_ ?_ h]
    · cases lastMaterial decisions <;> rfl
    · intro decision ledger hprogress
      rw [updateLedger, if_pos hprogress]
    · intro decision ledger hprogress
      exact (updateLedger_kept hprogress).1
  lastProgressSignal := by
    rw [replay_stamp ProgressLedger.lastProgressSignal WorkflowDecision.progressSignal ?_ ?_ h]
    · cases lastMaterial decisions <;> rfl
    · intro decision ledger hprogress
      rw [updateLedger, if_pos hprogress]
    · intro decision ledger hprogress
      exact (updateLedger_kept hprogress).2
  noOpObservationCount := replay_observations h
  phase := by
    rw [replay_overwritten nextState_phase h]
    cases decisions.getLast? <;> rfl
  currentActivity := by
    rw [replay_overwritten nextState_currentActivity h]
    cases decisions.getLast? with
    | none => rfl
    | some last =>
        simp only [Option.elim_some, scheduledActivity]
        cases last.activitiesToSchedule <;> rfl
  evidenceUris := by
    rw [statusOf, statusEvidenceUris_eq, replay_evidenceRefs h]

end

/-- A look at the plan that brings nothing new. -/
def exampleObserved : WorkflowDecision where
  decisionId := "D-2"
  decidedAt := "T2"
  fromPhase := "PLANNING"
  toPhase := "PLANNING"

theorem replay_closed_form_observed :
    ∃ result, replayDecisions (exampleRecord "PROJECT_INTAKE_ASSIGNED" none) [examplePlanned, exampleObserved]
        = .ok result
      ∧ result.progressLedger.noOpObservationCount = 1
      ∧ ReplayClosedForm (exampleRecord "PROJECT_INTAKE_ASSIGNED" none) [examplePlanned, exampleObserved] result := by
  let planning := nextState (exampleRecord "PROJECT_INTAKE_ASSIGNED" none) examplePlanned
  have hreplay : replayDecisions (exampleRecord "PROJECT_INTAKE_ASSIGNED" none) [examplePlanned, exampleObserved]
      = .ok (nextState planning exampleObserved) := by decide +kernel
  exact ⟨_, hreplay, by decide +kernel, replay_closed_form hreplay⟩

end WorkflowDrivers
