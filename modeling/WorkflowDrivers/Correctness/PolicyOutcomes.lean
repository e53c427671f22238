import WorkflowDrivers.Lib.Reach
import WorkflowDrivers.Correctness.TemplateRuns
import WorkflowDrivers.Correctness.TerminalStates
import WorkflowDrivers.Correctness.ResumeTargets

/-!
# `Correctness.PolicyOutcomes` — where policy-checked runs can still go

The phase policies constrain what a decision may do in its phase. What they constrain over a whole run is less: a
phase that lists a signal can be left for any other, and a blocked phase can be left by recording a blocker that
offers the way. So every phase of a template can be reached from every other, and every outcome some phase lists
can be recorded. The one exception is DONE of a project, which lists no signal and no owner: it is a dead end.
-/

namespace WorkflowDrivers
open Lib StrEnum

/-! ## Four steps -/

section
variable {kind : DriverKind} {record : WorkflowStateRecord} {policy : PhasePolicy}

/-- A signal that the policy lists leads from an open phase to any open phase. -/
theorem policyStep_advance (hpolicy : templatePhasePolicy? kind record.phase = some policy)
    (hopen : isBlockedPhase record.phase = false) {signal : ProgressSignal} (hlisted : signal ∈ policy.allowedSignals)
    (hplain : IsPlainSignal signal) {target : String} (htarget : isBlockedPhase target = false) :
    ∃ d next, policyStep kind record d = .ok next ∧ next.phase = target := by
  let d : ValidDecision :=
    { toWorkflowDecision := advanceDecision "D" "T" record.phase target (some signal) none
      valid := advanceDecision_valid hplain htarget }
  have hallowed : PolicyAllows kind policy d.toWorkflowDecision := advanceDecision_allowed.mpr hlisted
  have haccepts : Accepts record d.toWorkflowDecision :=
    { fromPhase := rfl
      blockedRecords := fun hto => absurd (htarget.symm.trans hto) Bool.false_ne_true
      resumeOption := by
        intro hleaving
        rw [leavingBlockedNonterminal, hopen] at hleaving
        cases hleaving
      atMostOneActivity := Nat.zero_le 1 }
  exact ⟨d, _, policyStep_eq_ok.mpr ⟨⟨policy, hpolicy, hallowed⟩, haccepts, rfl⟩, nextState_phase ..⟩

/-- A blocker that offers one phase to resume in. -/
def blockerTo (ownerRole : WorkflowRole) (blockedPhase target : String) : Blocker where
  reason := "a way out"
  category := .process
  ownerRole
  requiredDecision := "resume"
  resumeTarget :=
    { blockedPhase
      resumePhaseIfUnblocked := target
      decisionOptions := [{ decision := "resume", resultingPhase := target, notes := "" }] }

/-- An owner that the policy lists can be asked, in any phase. -/
theorem policyStep_block (hpolicy : templatePhasePolicy? kind record.phase = some policy) {ownerRole : WorkflowRole}
    (howner : ownerRole ∈ policy.blockerOwnerRoles) {target : String} (hknown : target ∈ knownResumeTargets kind) :
    ∃ d next, policyStep kind record d = .ok next ∧ next.phase = templateBlockedPhaseFor ownerRole
      ∧ next.blocker = some (blockerTo ownerRole record.phase target) := by
  let d : ValidDecision :=
    { toWorkflowDecision := blockerDecision "D" "T" record.phase (templateBlockedPhaseFor ownerRole)
        (blockerTo ownerRole record.phase target)
      valid := blockerDecision_valid _ }
  have hlegal : BlockerLegal kind policy record.phase (blockerTo ownerRole record.phase target) := by
    refine ⟨howner, rfl, ?_⟩
    intro phase hphase
    have hphases : (blockerTo ownerRole record.phase target).advertisedPhases = [target, target] := rfl
    rw [hphases] at hphase
    simp only [List.mem_cons, List.not_mem_nil, or_false, or_self] at hphase
    exact hphase ▸ hknown
  have hallowed : PolicyAllows kind policy d.toWorkflowDecision := blockerDecision_allowed.mpr hlegal
  have haccepts : Accepts record d.toWorkflowDecision :=
    { fromPhase := rfl
      blockedRecords := fun _ => Option.some_ne_none _
      resumeOption := by
        intro hleaving
        have hto : isBlockedPhase d.toPhase = true := isBlockedPhase_templateBlockedPhaseFor ownerRole
        rw [leavingBlockedNonterminal, hto, Bool.not_true, Bool.and_false, Bool.false_and] at hleaving
        cases hleaving
      atMostOneActivity := Nat.zero_le 1 }
  exact ⟨d, _, policyStep_eq_ok.mpr ⟨⟨policy, hpolicy, hallowed⟩, haccepts, rfl⟩, nextState_phase ..,
    (nextState_of_blocker record rfl).1⟩

/-- The phase that such a blocker offers can be resumed in. -/
theorem policyStep_resume {ownerRole : WorkflowRole} {source target : String}
    (hphase : record.phase = templateBlockedPhaseFor ownerRole)
    (hblocker : record.blocker = some (blockerTo ownerRole source target)) (htarget : isBlockedPhase target = false) :
    ∃ d next, policyStep kind record d = .ok next ∧ next.phase = target := by
  let d : ValidDecision :=
    { toWorkflowDecision := resolveDecision "D" "T" record.phase target
      valid := advanceDecision_valid (by decide) htarget }
  have hblocked : isBlockedPhase record.phase = true := hphase ▸ isBlockedPhase_templateBlockedPhaseFor ownerRole
  have howner : record.phase = templateBlockedPhaseFor (blockerTo ownerRole source target).ownerRole := hphase
  have hlisted : validateDecisionAgainstPhasePolicy kind d.toWorkflowDecision = .ok d.toWorkflowDecision :=
    resolveDecision_policy howner
  have happlied : ∃ next, applyDecision record d.toWorkflowDecision = .ok next :=
    (applyDecision_resolve hblocked htarget hblocker).mpr ⟨_, List.mem_singleton_self _, rfl⟩
  obtain ⟨next, hnext⟩ := happlied
  obtain ⟨haccepts, rfl⟩ := applyDecision_eq_ok.mp hnext
  obtain ⟨-, hallowed⟩ := validateDecisionAgainstPhasePolicy_eq_ok.mp hlisted
  exact ⟨d, _, policyStep_eq_ok.mpr ⟨hallowed, haccepts, rfl⟩, nextState_phase ..⟩

/-- An outcome that the policy lists can be recorded. -/
theorem policyStep_finish (hpolicy : templatePhasePolicy? kind record.phase = some policy) {outcome : TerminalOutcome}
    (hlisted : outcome ∈ policy.terminalOutcomes) :
    ∃ d next, d.terminalOutcome = some outcome ∧ policyStep kind record d = .ok next := by
  let d : ValidDecision :=
    { toWorkflowDecision := terminalDecision "D" "T" record.phase true outcome
      valid := terminalDecision_valid }
  have hpassed : validateDecisionAgainstPhasePolicy kind d.toWorkflowDecision = .ok d.toWorkflowDecision :=
    (validate_terminalDecision hpolicy).mpr hlisted
  have happlied : ∃ next, applyDecision record d.toWorkflowDecision = .ok next := applyDecision_terminal
  obtain ⟨next, hnext⟩ := happlied
  obtain ⟨haccepts, rfl⟩ := applyDecision_eq_ok.mp hnext
  obtain ⟨-, hallowed⟩ := validateDecisionAgainstPhasePolicy_eq_ok.mp hpassed
  exact ⟨d, _, rfl, policyStep_eq_ok.mpr ⟨hallowed, haccepts, rfl⟩⟩

end

/-! ## What can be reached -/

/-- Every open phase of a project but DONE lists a signal. -/
theorem project_signal : ∀ phase ∈ members (α := ProjectIntakePhase), phase ≠ .done →
    isBlockedPhase (value phase) = false →
    ∃ signal ∈ (projectPhasePolicies phase).allowedSignals, IsPlainSignal signal := by decide +kernel

/-- Every open phase of a task lists a signal. -/
theorem task_signal : ∀ phase ∈ members (α := TaskPhase), isBlockedPhase (value phase) = false →
    ∃ signal ∈ (taskPhasePolicies phase).allowedSignals, IsPlainSignal signal := by decide +kernel

section
variable {kind : DriverKind} {record : WorkflowStateRecord} {policy : PhasePolicy} {phase : String}

theorem open_phase_signal (hpolicy : templatePhasePolicy? kind phase = some policy)
    (hopen : isBlockedPhase phase = false) (hnot : phase ≠ "DONE") :
    ∃ signal ∈ policy.allowedSignals, IsPlainSignal signal := by
  cases kind with
  | softwareProject =>
      obtain ⟨p, hp, rfl⟩ := Option.map_eq_some_iff.mp hpolicy
      obtain rfl := parse?_eq_some.mp hp
      apply project_signal p (mem_members p) _ hopen
      rintro rfl
      exact hnot rfl
  | softwareTask =>
      obtain ⟨p, hp, rfl⟩ := Option.map_eq_some_iff.mp hpolicy
      obtain rfl := parse?_eq_some.mp hp
      exact task_signal p (mem_members p) hopen

/-- **Every open phase can be reached**, in one step from an open phase and in two from a blocked one. -/
theorem reaches_open_phase (hphase : HasPolicy kind record.phase) (hnot : record.phase ≠ "DONE") {target : String}
    (hknown : target ∈ knownResumeTargets kind) (htarget : isBlockedPhase target = false) :
    ∃ next, Reaches (policyStep kind) record next ∧ next.phase = target := by
  obtain ⟨policy, hfound⟩ := hphase
  have hpolicy := phasePolicyFor_eq_ok.mp hfound
  cases hblocked : isBlockedPhase record.phase with
  | false =>
      obtain ⟨signal, hlisted, hplain⟩ := open_phase_signal hpolicy hblocked hnot
      obtain ⟨d, next, hstep, hnext⟩ := policyStep_advance hpolicy hblocked hlisted hplain htarget
      exact ⟨next, .single hstep, hnext⟩
  | true =>
      have howner : WorkflowRole.processSteward ∈ policy.blockerOwnerRoles := by
        rw [blocked_policy_eq hpolicy hblocked]
        exact mem_members _
      obtain ⟨d, asked, hask, hasked, hblocker⟩ := policyStep_block hpolicy howner hknown
      obtain ⟨e, next, hresume, hnext⟩ := policyStep_resume hasked hblocker htarget
      exact ⟨next, (Reaches.single hask).tail hresume, hnext⟩

/-- The first phase of a template: both owners with a blocked phase of their own can be asked there. -/
def firstPhase : DriverKind → String
  | .softwareProject => value ProjectIntakePhase.projectIntakeAssigned
  | .softwareTask => value TaskPhase.taskAssigned

theorem firstPhase_open (kind : DriverKind) : firstPhase kind ∈ knownResumeTargets kind
    ∧ isBlockedPhase (firstPhase kind) = false ∧ ∃ policy, templatePhasePolicy? kind (firstPhase kind) = some policy
      ∧ .processSteward ∈ policy.blockerOwnerRoles ∧ .humanApprover ∈ policy.blockerOwnerRoles := by
  cases kind with
  | softwareProject =>
      exact ⟨by decide, by decide, _, templatePhasePolicy?_project _, by decide, by decide⟩
  | softwareTask =>
      exact ⟨by decide, by decide, _, templatePhasePolicy?_task _, by decide, by decide⟩

/-- **Every blocked phase can be reached**, by way of the first phase. -/
theorem reaches_blocked_phase (hphase : HasPolicy kind record.phase) (hnot : record.phase ≠ "DONE")
    {ownerRole : WorkflowRole} (howner : ownerRole = .processSteward ∨ ownerRole = .humanApprover) :
    ∃ next, Reaches (policyStep kind) record next ∧ next.phase = templateBlockedPhaseFor ownerRole := by
  obtain ⟨hknown, hopen, policy, hpolicy, hsteward, hhuman⟩ := firstPhase_open kind
  obtain ⟨first, hfirst, hat⟩ := reaches_open_phase hphase hnot hknown hopen
  have hlisted : ownerRole ∈ policy.blockerOwnerRoles := by
    rcases howner with rfl | rfl
    · exact hsteward
    · exact hhuman
  obtain ⟨d, next, hstep, hnext, -⟩ := policyStep_block (hat ▸ hpolicy) hlisted hknown
  exact ⟨next, hfirst.tail hstep, hnext⟩

/-! ## The dead end -/

/-- **Step lemma.** In DONE of a project only DONE can be recorded. -/
theorem policyStep_done {next : WorkflowStateRecord} {d : ValidDecision} (hphase : record.phase = "DONE")
    (hstep : policyStep .softwareProject record d = .ok next) : d.terminalOutcome = some .done := by
  obtain ⟨⟨policy, hpolicy, hallowed⟩, haccepts, -⟩ := policyStep_eq_ok.mp hstep
  rw [haccepts.fromPhase, hphase] at hpolicy
  obtain rfl : projectPhasePolicies .done = policy :=
    Option.some.inj ((templatePhasePolicy?_project .done).symm.trans hpolicy)
  have hblocker : d.blockerToRecord = none := by
    cases hb : d.blockerToRecord with
    | none => rfl
    | some blocker => exact absurd (hallowed.blocker blocker hb).owner List.not_mem_nil
  have hsignal : d.progressSignal = none := by
    cases hs : d.progressSignal with
    | none => rfl
    | some signal =>
        rcases hallowed.signalAllowed signal hs with hlisted | ⟨-, hsome⟩
        · exact absurd hlisted List.not_mem_nil
        · rw [hblocker] at hsome
          cases hsome
  -- nothing is left that would keep the decision from being stalled
  cases houtcome : d.terminalOutcome with
  | none => exact absurd (WorkflowDecision.runOutcome_eq_stalled.mpr ⟨hsignal, hblocker, houtcome⟩) hallowed.notStalled
  | some outcome => rw [List.mem_singleton.mp (hallowed.terminal outcome houtcome)]

/-- The phases a project is in once it is done. -/
def AtDone (record : WorkflowStateRecord) : Prop := record.phase ∈ terminalPhasesByOutcome .done

/-- From there only DONE is recorded: COMPLETE is no phase of a project. -/
theorem policyStep_atDone {next : WorkflowStateRecord} {d : ValidDecision} (hat : AtDone record)
    (hstep : policyStep .softwareProject record d = .ok next) : d.terminalOutcome = some .done ∧ AtDone next := by
  have hphase : record.phase = "DONE" := by
    have htemplate := hasPolicy_iff.mp (policyStep_hasPolicy hstep)
    rcases List.mem_cons.mp hat with hdone | hcomplete
    · exact hdone
    · rw [List.mem_singleton.mp hcomplete] at htemplate
      exact absurd htemplate (by decide)
  have houtcome := policyStep_done hphase hstep
  refine ⟨houtcome, ?_⟩
  obtain ⟨-, -, rfl⟩ := policyStep_eq_ok.mp hstep
  rw [AtDone, nextState_phase]
  exact d.valid.terminalPhase .done houtcome

end

/-! ## Phases, outcomes and the end -/

/-- The blocked phases of a template are those of the two owners. -/
theorem blocked_phase_owner {kind : DriverKind} : ∀ phase ∈ templatePhases kind, isBlockedPhase phase = true →
    phase = templateBlockedPhaseFor .processSteward ∨ phase = templateBlockedPhaseFor .humanApprover := by
  cases kind <;> decide +kernel

/-- **Which phases can be reached.** From a phase of the template policy-checked runs lead to every phase of it,
    except that nothing leads out of DONE. -/
theorem policy_phases_reached_iff (kind : DriverKind) (record : WorkflowStateRecord) (phase : String)
    (hrecord : HasPolicy kind record.phase) (hphase : HasPolicy kind phase) :
    (∃ decisions final, replay (policyStep kind) record decisions = .ok final ∧ final.phase = phase)
      ↔ (record.phase = "DONE" → phase = "DONE") := by
  constructor
  · rintro ⟨decisions, final, hrun, rfl⟩ hdone
    cases kind with
    | softwareTask =>
        rw [hdone] at hrecord
        exact absurd hrecord (by decide)
    | softwareProject =>
        have hat : AtDone record := by
          rw [AtDone, hdone]
          exact List.mem_cons_self
        have hfinal : AtDone final :=
          replay_invariant (fun s d t hs hstep => (policyStep_atDone hs hstep).2) hat hrun
        rcases List.mem_cons.mp hfinal with hstays | hcomplete
        · exact hstays
        · rw [List.mem_singleton.mp hcomplete] at hphase
          exact absurd hphase (by decide)
  · intro hreached
    by_cases hdone : record.phase = "DONE"
    · exact ⟨[], record, rfl, hdone.trans (hreached hdone).symm⟩
    · have hmem : phase ∈ templatePhases kind := hasPolicy_iff.mp hphase
      have hnext : ∃ next, Reaches (policyStep kind) record next ∧ next.phase = phase := by
        cases hblocked : isBlockedPhase phase with
        | false => exact reaches_open_phase hrecord hdone (List.mem_append_left _ hmem) hblocked
        | true =>
            rcases blocked_phase_owner phase hmem hblocked with rfl | rfl
            · exact reaches_blocked_phase hrecord hdone (Or.inl rfl)
            · exact reaches_blocked_phase hrecord hdone (Or.inr rfl)
      obtain ⟨next, ⟨decisions, hrun⟩, hat⟩ := hnext
      exact ⟨decisions, next, hrun, hat⟩

/-- The outcomes that can still be recorded. -/
def policyOutcomes : DriverKind → String → List TerminalOutcome
  | .softwareProject, phase => if phase = "DONE" then [.done] else [.done, .cancelled]
  | .softwareTask, _ => [.done, .cancelled, .failed]

/-- Each of them is listed by an open phase, or is the cancellation, which the blocked phases list. -/
theorem outcome_listed {kind : DriverKind} {outcome : TerminalOutcome} {phase : String}
    (houtcome : outcome ∈ policyOutcomes kind phase) :
    (∃ ending policy, ending ∈ knownResumeTargets kind ∧ isBlockedPhase ending = false
        ∧ templatePhasePolicy? kind ending = some policy ∧ outcome ∈ policy.terminalOutcomes)
      ∨ outcome = .cancelled := by
  cases outcome with
  | cancelled => exact Or.inr rfl
  | done =>
      left
      cases kind with
      | softwareProject => exact ⟨_, _, by decide, by decide, templatePhasePolicy?_project .finalReport, by decide⟩
      | softwareTask => exact ⟨_, _, by decide, by decide, templatePhasePolicy?_task .complete, by decide⟩
  | failed =>
      left
      cases kind with
      | softwareProject =>
          rw [policyOutcomes] at houtcome
          split_ifs at houtcome
          · exact absurd houtcome (by decide)
          · exact absurd houtcome (by decide)
      | softwareTask => exact ⟨_, _, by decide, by decide, templatePhasePolicy?_task .rescopeRequested, by decide⟩

/-- A phase that lists it can be reached. -/
theorem reaches_outcome {kind : DriverKind} {record : WorkflowStateRecord} {outcome : TerminalOutcome}
    (hrecord : HasPolicy kind record.phase) (houtcome : outcome ∈ policyOutcomes kind record.phase) :
    ∃ next policy, Reaches (policyStep kind) record next ∧ templatePhasePolicy? kind next.phase = some policy
      ∧ outcome ∈ policy.terminalOutcomes := by
  by_cases hdone : record.phase = "DONE"
  · -- only a project has the phase, and it lists its outcome itself
    obtain ⟨policy, hfound⟩ := hrecord
    have hpolicy := phasePolicyFor_eq_ok.mp hfound
    refine ⟨record, policy, .refl record, hpolicy, ?_⟩
    rw [hdone] at hpolicy houtcome
    cases kind with
    | softwareTask =>
        have hnone : templatePhasePolicy? .softwareTask "DONE" = none := rfl
        rw [hnone] at hpolicy
        cases hpolicy
    | softwareProject =>
        obtain rfl : projectPhasePolicies .done = policy :=
          Option.some.inj ((templatePhasePolicy?_project .done).symm.trans hpolicy)
        exact houtcome
  · rcases outcome_listed houtcome with ⟨ending, policy, hknown, hopen, hpolicy, hlisted⟩ | rfl
    · obtain ⟨next, hnext, rfl⟩ := reaches_open_phase hrecord hdone hknown hopen
      exact ⟨next, policy, hnext, hpolicy, hlisted⟩
    · obtain ⟨next, hnext, hat⟩ := reaches_blocked_phase hrecord hdone (Or.inl rfl)
      exact ⟨next, _, hnext, hat ▸ templatePhasePolicy?_blocked kind .processSteward, List.mem_singleton_self _⟩

/-- No phase of a project lists a failure. -/
theorem project_never_lists_failed : ∀ phase ∈ members (α := ProjectIntakePhase),
    .failed ∉ (projectPhasePolicies phase).terminalOutcomes := by decide

/-- **Which outcomes can be recorded.** Policy-checked runs of a task can record every outcome from every phase;
    those of a project can record DONE from every phase, CANCELLED from every phase but DONE, and never FAILED. -/
theorem policy_outcomes_iff (kind : DriverKind) (record : WorkflowStateRecord) (outcome : TerminalOutcome)
    (hrecord : HasPolicy kind record.phase) :
    Takes (policyStep kind) (fun d => d.terminalOutcome = some outcome) record
      ↔ outcome ∈ policyOutcomes kind record.phase := by
  constructor
  · intro htakes
    obtain ⟨m, hm, d, n, houtcome, hstep⟩ := takes_iff.mp htakes
    cases kind with
    | softwareTask =>
        rw [policyOutcomes]
        cases outcome <;> decide
    | softwareProject =>
        by_cases hdone : record.phase = "DONE"
        · have hat : AtDone record := by
            rw [AtDone, hdone]
            exact List.mem_cons_self
          have hreached : AtDone m := hm.invariant (fun s d t hs hstep => (policyStep_atDone hs hstep).2) hat
          have hrecorded := (policyStep_atDone hreached hstep).1
          obtain rfl : TerminalOutcome.done = outcome := Option.some.inj (hrecorded.symm.trans houtcome)
          rw [policyOutcomes, if_pos hdone]
          exact List.mem_singleton_self _
        · obtain ⟨⟨policy, hpolicy, hallowed⟩, -, -⟩ := policyStep_eq_ok.mp hstep
          obtain ⟨phase, -, rfl⟩ := Option.map_eq_some_iff.mp hpolicy
          have hlisted := hallowed.terminal outcome houtcome
          rw [policyOutcomes, if_neg hdone]
          cases outcome with
          | done => decide
          | cancelled => decide
          | failed => exact absurd hlisted (project_never_lists_failed phase (mem_members phase))
  · intro houtcome
    obtain ⟨next, policy, hnext, hpolicy, hlisted⟩ := reaches_outcome hrecord houtcome
    obtain ⟨d, final, hrecorded, hstep⟩ := policyStep_finish hpolicy hlisted
    exact takes_iff.mpr ⟨next, hnext, d, final, hrecorded, hstep⟩

/-- **DONE of a project is final** for policy-checked runs: from a project in DONE they only record DONE again, in
    DONE or COMPLETE, and after the first decision the record is finished with that outcome. -/
theorem project_done_is_final (record final : WorkflowStateRecord) (decisions : List ValidDecision)
    (hphase : record.phase = "DONE") (hrun : replay (policyStep .softwareProject) record decisions = .ok final) :
    (∀ d ∈ decisions, d.terminalOutcome = some .done) ∧ AtDone final
      ∧ (decisions ≠ [] → Finished final .done) := by
  have hat : AtDone record := by
    rw [AtDone, hphase]
    exact List.mem_cons_self
  have hkeeps : ∀ s d t, AtDone s → policyStep .softwareProject s d = .ok t → AtDone t :=
    fun s d t hs hstep => (policyStep_atDone hs hstep).2
  refine ⟨?_, replay_invariant hkeeps hat hrun, ?_⟩
  · intro d hd
    obtain ⟨before, after, rfl⟩ := List.append_of_mem hd
    obtain ⟨m, n, hbefore, hstep, -⟩ := replay_middle.mp hrun
    exact (policyStep_atDone (replay_invariant hkeeps hat hbefore) hstep).1
  · intro hsome
    obtain ⟨before, last, rfl⟩ := List.eq_nil_or_concat decisions |>.resolve_left hsome
    rw [List.concat_eq_append] at hrun
    obtain ⟨m, hbefore, hstep⟩ := replay_concat.mp hrun
    have houtcome := (policyStep_atDone (replay_invariant hkeeps hat hbefore) hstep).1
    obtain ⟨-, haccepts, rfl⟩ := policyStep_eq_ok.mp hstep
    exact finished_of_terminal (applyValid_eq_ok.mpr ⟨haccepts, rfl⟩) houtcome

/-! ## Instances -/

theorem policy_phases_reached_iff_back :
    ∃ decisions final, replay (policyStep .softwareProject) (exampleRecord "FINAL_REPORT" none) decisions = .ok final
      ∧ final.phase = "PROJECT_INTAKE_ASSIGNED" :=
  (policy_phases_reached_iff .softwareProject (exampleRecord "FINAL_REPORT" none) "PROJECT_INTAKE_ASSIGNED"
    (by decide +kernel) (by decide +kernel)).mpr (fun h => absurd h (by decide))

theorem policy_outcomes_iff_failed :
    ¬Takes (policyStep .softwareProject) (fun d => d.terminalOutcome = some .failed) (exampleRecord "PLANNING" none) :=
  fun h => absurd ((policy_outcomes_iff .softwareProject (exampleRecord "PLANNING" none) .failed
    (by decide +kernel)).mp h) (by decide)

/-- The outcome of a done project is recorded once more. -/
def exampleFinishAgain : ValidDecision where
  toWorkflowDecision := terminalDecision "D-2" "T2" "DONE" true .done
  valid := terminalDecision_valid

theorem project_done_is_final_again :
    Finished (nextState exampleFinished exampleFinishAgain.toWorkflowDecision) .done :=
  (project_done_is_final exampleFinished _ [exampleFinishAgain] rfl (by decide +kernel)).2.2 (by simp)

end WorkflowDrivers
