import WorkflowDrivers.Correctness.TerminalStates
import WorkflowDrivers.Policies.Templates

/-!
# `Correctness.ProgressNotions` — the notions of progress agree

Progress is told four times: by the classification of the run, by the flag of the decision, by the signals the
phase policy lists, and by the ledger and the other fields of the record. `Classified` lists the classes with
what puts a decision into them; `OutcomeRecorded` says for each class what the record must show. That the first
leads to the second needs all three guards: the validator ties the flag to the signal, the policy ties a wait to
a wait signal and a blocker to its phase, and the update does the rest.
-/

namespace WorkflowDrivers
open Lib

/-! ## The classes -/

/-- **The classes of decisions**, each with what puts a decision into it. -/
inductive Classified (d : WorkflowDecision) : RunOutcome → Prop
  | done (hterminal : d.terminalOutcome = some .done) : Classified d .done
  | failed (outcome : TerminalOutcome) (hterminal : d.terminalOutcome = some outcome)
      (hnotDone : outcome ≠ .done) : Classified d .failed
  | blocked (hterminal : d.terminalOutcome = none)
      (hblocker : d.blockerToRecord.isSome = true ∨ signalIn blockerSignals d.progressSignal = true) :
      Classified d .blocked
  | materialProgress (hterminal : d.terminalOutcome = none) (hblocker : d.blockerToRecord = none)
      (hsignal : signalIn materialProgressSignals d.progressSignal = true) : Classified d .materialProgress
  | controlledWait (hterminal : d.terminalOutcome = none) (hblocker : d.blockerToRecord = none)
      (hsignal : signalIn controlledWaitSignals d.progressSignal = true) : Classified d .controlledWait
  | stalled : Classified d .stalled

/-- The signals of a decision are one or none. -/
theorem any_toList_eq_signalIn (signals : List ProgressSignal) (signal : Option ProgressSignal) :
    signal.toList.any (fun s => signals.contains s) = signalIn signals signal := by
  cases signal with
  | none => rfl
  | some s => simp [signalIn]

/-- **Inversion.** Every decision is in the class it is given. -/
theorem runOutcome_classified (d : WorkflowDecision) : Classified d d.runOutcome := by
  unfold WorkflowDecision.runOutcome classifyRunOutcome
  simp only [any_toList_eq_signalIn]
  split_ifs with hdone hfailed hblocked hmaterial hwait
  · exact .done (by simpa using hdone)
  · cases ht : d.terminalOutcome with
    | none => simp [ht] at hfailed
    | some outcome => exact .failed outcome ht fun he => hdone (by simp [ht, he])
  all_goals
    -- what is neither done nor failed has no terminal outcome
    have hterminal : d.terminalOutcome = none := by
      cases ht : d.terminalOutcome with
      | none => rfl
      | some outcome => cases outcome <;> simp [ht] at hdone hfailed
  · exact .blocked hterminal (by simpa using hblocked)
  · rw [Bool.or_eq_true, not_or] at hblocked
    exact .materialProgress hterminal (Option.not_isSome_iff_eq_none.mp hblocked.1) hmaterial
  · rw [Bool.or_eq_true, not_or] at hblocked
    exact .controlledWait hterminal (Option.not_isSome_iff_eq_none.mp hblocked.1) hwait
  · exact .stalled

/-- A material signal does not start a wait. -/
theorem material_not_wait {signal : Option ProgressSignal} (h : signalIn materialProgressSignals signal = true) :
    signalIn controlledWaitSignals signal = false := by
  cases signal with
  | none => rfl
  | some s =>
      revert h
      cases s <;> decide

/-- The waits a policy lists are controlled waits, in every phase of both templates. -/
theorem policy_waits_controlled {kind : DriverKind} {phase : String} {policy : PhasePolicy}
    (hpolicy : templatePhasePolicy? kind phase = some policy) :
    ∀ signal ∈ policy.waitSignals, signal ∈ controlledWaitSignals := by
  have hcontrolled : ∀ signal ∈ controlledWait, signal ∈ controlledWaitSignals := by decide
  cases kind with
  | softwareProject =>
      obtain ⟨p, -, rfl⟩ := Option.map_eq_some_iff.mp hpolicy
      cases p <;> first | exact hcontrolled | exact fun s hs => absurd hs List.not_mem_nil
  | softwareTask =>
      obtain ⟨p, -, rfl⟩ := Option.map_eq_some_iff.mp hpolicy
      cases p <;> first | exact hcontrolled | exact fun s hs => absurd hs List.not_mem_nil

/-! ## What the record shows -/

/-- **What an outcome means for the record**: of a step with decision `d` from `state` to `next`. -/
def OutcomeRecorded (state next : WorkflowStateRecord) (d : WorkflowDecision) : RunOutcome → Prop
  | .materialProgress =>
      d.materialProgress = true ∧ d.waitToStart = none
        ∧ next.progressLedger = { lastMaterialProgressAt := some d.decidedAt
                                  lastProgressSignal := d.progressSignal
                                  noOpObservationCount := 0 }
  | .controlledWait =>
      d.materialProgress = false ∧ next.progressLedger = state.progressLedger
        ∧ ∃ wait, d.waitToStart = some wait ∧ next.wait = some wait
  | .blocked =>
      ∃ blocker, d.blockerToRecord = some blocker ∧ next.blocker = some blocker
        ∧ isBlockedPhase next.phase = true
  | .done => d.terminalOutcome = some .done ∧ next.terminal = some { outcome := .done } ∧ next.blocker = none
  | .failed =>
      ∃ outcome, outcome ≠ .done ∧ d.terminalOutcome = some outcome
        ∧ next.terminal = some { outcome := outcome } ∧ next.blocker = none
  | .stalled => False

section
variable {kind : DriverKind} {policy : PhasePolicy} {state next : WorkflowStateRecord} {d : ValidDecision}

/-- A decision with a material signal claims material progress, and the ledger says so. -/
theorem materialProgress_recorded (hpolicy : templatePhasePolicy? kind d.fromPhase = some policy)
    (hallowed : PolicyAllows kind policy d.toWorkflowDecision)
    (hsignal : signalIn materialProgressSignals d.progressSignal = true) :
    OutcomeRecorded state (nextState state d.toWorkflowDecision) d.toWorkflowDecision .materialProgress := by
  have hnotWait := material_not_wait hsignal
  have hsome : d.progressSignal.isSome = true := by
    cases hs : d.progressSignal with
    | none =>
        rw [hs] at hsignal
        cases hsignal
    | some s => rfl
  have hmaterial : d.materialProgress = true := d.valid.signalIsMaterial hsome hnotWait
  refine ⟨hmaterial, ?_, ?_⟩
  · -- a wait would need one of the policy's wait signals
    cases hw : d.waitToStart with
    | none => rfl
    | some wait =>
        have hpolicyWait := hallowed.waitAllowed (by rw [hw]; rfl)
        obtain ⟨s, hs⟩ := Option.isSome_iff_exists.mp hsome
        rw [hs] at hpolicyWait hnotWait
        have hlisted := policy_waits_controlled hpolicy s (by simpa [signalIn] using hpolicyWait)
        simp [signalIn, hlisted] at hnotWait
  · rw [nextState_eq, updateLedger, if_pos hmaterial]

/-- A decision with a wait signal carries a wait, and the record keeps both the wait and the ledger. -/
theorem controlledWait_recorded (hblocker : d.blockerToRecord = none)
    (hsignal : signalIn controlledWaitSignals d.progressSignal = true) :
    OutcomeRecorded state (nextState state d.toWorkflowDecision) d.toWorkflowDecision .controlledWait := by
  have hmaterial : d.materialProgress = false := d.valid.waitSignalNotMaterial hsignal
  obtain ⟨wait, hw⟩ := Option.ne_none_iff_exists'.mp (d.valid.waitSignalHasPolicy hsignal)
  refine ⟨hmaterial, ?_, wait, hw, ?_⟩
  · rw [nextState_eq, updateLedger, isNoOpObservation, hmaterial, hw]
    simp
  · rw [nextState_wait, nextWait, hblocker, hw]
    rfl

/-- A decision that blocks records its blocker, in the phase the policy routes it to. -/
theorem blocked_recorded (hallowed : PolicyAllows kind policy d.toWorkflowDecision)
    (hblocker : d.blockerToRecord.isSome = true ∨ signalIn blockerSignals d.progressSignal = true) :
    OutcomeRecorded state (nextState state d.toWorkflowDecision) d.toWorkflowDecision .blocked := by
  have hsome : d.blockerToRecord ≠ none := by
    rcases hblocker with hb | hs
    · exact Option.isSome_iff_ne_none.mp hb
    · exact d.valid.blockedRecords (Or.inr hs)
  obtain ⟨blocker, hb⟩ := Option.ne_none_iff_exists'.mp hsome
  have hroute : d.toPhase = templateBlockedPhaseFor blocker.ownerRole := (hallowed.blocker blocker hb).route
  refine ⟨blocker, hb, (nextState_of_blocker state hb).1, ?_⟩
  rw [nextState_phase, hroute, isBlockedPhase_templateBlockedPhaseFor]

end

/-- **The notions of progress agree.** What the classification says of a decision that the policy accepts, the
    record shows after the step. -/
theorem progress_notions_agree (kind : DriverKind) (state next : WorkflowStateRecord) (d : ValidDecision)
    (hpolicy : validateDecisionAgainstPhasePolicy kind d.toWorkflowDecision = .ok d.toWorkflowDecision)
    (h : applyDecision state d.toWorkflowDecision = .ok next) :
    OutcomeRecorded state next d.toWorkflowDecision d.runOutcome := by
  obtain ⟨-, policy, hphase, hallowed⟩ := validateDecisionAgainstPhasePolicy_eq_ok.mp hpolicy
  obtain ⟨-, rfl⟩ := applyDecision_eq_ok.mp h
  have hstalled := hallowed.notStalled
  have hclass := runOutcome_classified d.toWorkflowDecision
  generalize d.runOutcome = outcome at hclass hstalled
  cases hclass with
  | done hterminal =>
      have hfinished : Finished _ TerminalOutcome.done := finished_of_terminal h hterminal
      exact ⟨hterminal, hfinished.terminal, hfinished.blocker⟩
  | failed outcome hterminal hnotDone =>
      have hfinished : Finished _ outcome := finished_of_terminal h hterminal
      exact ⟨outcome, hnotDone, hterminal, hfinished.terminal, hfinished.blocker⟩
  | blocked hterminal hblocker => exact blocked_recorded hallowed hblocker
  | materialProgress hterminal hblocker hsignal => exact materialProgress_recorded hphase hallowed hsignal
  | controlledWait hterminal hblocker hsignal => exact controlledWait_recorded hblocker hsignal
  | stalled => exact absurd rfl hstalled

theorem progress_notions_agree_finish :
    OutcomeRecorded (exampleRecord "FINAL_REPORT" none) exampleFinished exampleFinish.toWorkflowDecision .done :=
  progress_notions_agree .softwareProject (exampleRecord "FINAL_REPORT" none) exampleFinished exampleFinish
    (by decide +kernel) (by decide +kernel)

end WorkflowDrivers
