import WorkflowDrivers.Policies.Progress
import WorkflowDrivers.Policies.Replay

/-!
# `Policies.Templates` — the phase policies of the project and task drivers

The tables are the source's, entry by entry; a frozen set is a list. The validation is translated check by
check, each check a function of its own, and `PolicyAllows` says what a decision that passed all of them
satisfies. `validateDecisionAgainstPhasePolicy_eq_ok` connects the two: later proofs take a decision apart
with it and never unfold a check.
-/

namespace WorkflowDrivers
open Lib

/-! ## The tables -/

/-- Allowed outcomes and controls for one template phase. -/
structure PhasePolicy where
  phase : String
  progressSignals : List ProgressSignal := []
  waitSignals : List ProgressSignal := []
  blockerOwnerRoles : List WorkflowRole := []
  terminalOutcomes : List TerminalOutcome := []

def PhasePolicy.allowedSignals (policy : PhasePolicy) : List ProgressSignal :=
  policy.progressSignals ++ policy.waitSignals

/-- `_CONTROLLED_WAIT`. -/
def controlledWait : List ProgressSignal := [.waitTimerStarted, .retryScheduled]

/-- `_ANY_BLOCKER_OWNER`. -/
def anyBlockerOwner : List WorkflowRole := StrEnum.members

/-- `_PROCESS_OR_HUMAN_BLOCKER`. -/
def processOrHumanBlocker : List WorkflowRole := [.processSteward, .humanApprover]

/-- `_HUMAN_BLOCKER`. -/
def humanBlocker : List WorkflowRole := [.humanApprover]

/-- The owners written `{DEVELOPER, PROCESS_STEWARD, HUMAN_APPROVER}` in many entries. -/
def developerBlocker : List WorkflowRole := [.developer, .processSteward, .humanApprover]

/-- The owners written `{REVIEWER, PROCESS_STEWARD}`. -/
def reviewBlocker : List WorkflowRole := [.reviewer, .processSteward]

/-- `PROJECT_PHASE_POLICIES`. -/
def projectPhasePolicies (phase : ProjectIntakePhase) : PhasePolicy :=
  let name := StrEnum.value phase
  match phase with
  | .projectIntakeAssigned =>
      { phase := name, progressSignals := [.projectAccepted],
        blockerOwnerRoles := [.processSteward, .humanApprover] }
  | .planning =>
      { phase := name, progressSignals := [.planCreated], blockerOwnerRoles := processOrHumanBlocker }
  | .planReview =>
      { phase := name, progressSignals := [.planApproved, .planRevised], waitSignals := controlledWait,
        blockerOwnerRoles := [.reviewer, .processSteward, .humanApprover] }
  | .planRethink =>
      { phase := name, progressSignals := [.planRevised], blockerOwnerRoles := processOrHumanBlocker }
  | .taskBreakdown =>
      { phase := name, progressSignals := [.tasksCreated], blockerOwnerRoles := developerBlocker }
  | .taskExecution =>
      { phase := name, progressSignals := [.taskCompleted, .taskRescopeRequested],
        waitSignals := controlledWait, blockerOwnerRoles := developerBlocker }
  | .prOpen =>
      { phase := name, progressSignals := [.prCreated, .prUpdated, .prHeadChanged],
        blockerOwnerRoles := developerBlocker }
  | .reviewRequested =>
      { phase := name, progressSignals := [.reviewRequested], waitSignals := controlledWait,
        blockerOwnerRoles := reviewBlocker }
  | .reviewWait =>
      { phase := name, progressSignals := [.reviewStarted, .reviewCompleted], waitSignals := controlledWait,
        blockerOwnerRoles := reviewBlocker }
  | .fixingReview =>
      { phase := name, progressSignals := [.reviewFindingsAccepted, .reviewFindingsFixed, .prUpdated],
        blockerOwnerRoles := developerBlocker }
  | .proofAuthWait =>
      { phase := name, progressSignals := [.proofAuthRequested], waitSignals := controlledWait,
        blockerOwnerRoles := humanBlocker }
  | .proofRunning =>
      { phase := name, progressSignals := [.proofStarted, .proofEvidenceCreated, .proofCompleted],
        waitSignals := controlledWait, blockerOwnerRoles := [.proofRunner, .processSteward, .humanApprover] }
  | .proofRepair =>
      { phase := name, progressSignals := [.proofRepairRequired, .proofEvidenceCreated, .proofCompleted],
        blockerOwnerRoles := [.proofRunner, .processSteward, .humanApprover] }
  | .feedbackReady =>
      { phase := name, progressSignals := [.feedbackRequested],
        blockerOwnerRoles := [.processSteward, .humanApprover] }
  | .feedbackWait =>
      { phase := name, progressSignals := [.feedbackReceived], waitSignals := controlledWait,
        blockerOwnerRoles := humanBlocker }
  | .dogfoodGate =>
      { phase := name, progressSignals := [.dogfoodStarted, .dogfoodCompleted],
        blockerOwnerRoles := humanBlocker }
  | .mergeGate =>
      { phase := name, progressSignals := [.mergeReady, .releaseCompleted],
        blockerOwnerRoles := humanBlocker }
  | .finalReport =>
      { phase := name, progressSignals := [.finalReportDelivered], terminalOutcomes := [.done] }
  | .done => { phase := name, terminalOutcomes := [.done] }
  | .blockedNeedsElLe | .blockedNeedsZoEl =>
      { phase := name, progressSignals := [.blockerResolved], waitSignals := controlledWait,
        blockerOwnerRoles := anyBlockerOwner, terminalOutcomes := [.cancelled] }

/-- `TASK_PHASE_POLICIES`. -/
def taskPhasePolicies (phase : TaskPhase) : PhasePolicy :=
  let name := StrEnum.value phase
  match phase with
  | .taskAssigned | .claimed | .inspecting =>
      { phase := name, progressSignals := [.taskStarted], blockerOwnerRoles := developerBlocker }
  | .implementing =>
      { phase := name, progressSignals := [.testEvidenceCreated, .prUpdated],
        blockerOwnerRoles := developerBlocker }
  | .testing =>
      { phase := name, progressSignals := [.reviewRequested, .testEvidenceCreated],
        blockerOwnerRoles := developerBlocker }
  | .reviewRequested =>
      { phase := name, progressSignals := [.reviewRequested], waitSignals := controlledWait,
        blockerOwnerRoles := reviewBlocker }
  | .reviewWait =>
      { phase := name, progressSignals := [.reviewStarted, .reviewCompleted], waitSignals := controlledWait,
        blockerOwnerRoles := reviewBlocker }
  | .fixingReview =>
      { phase := name, progressSignals := [.reviewFindingsAccepted, .reviewFindingsFixed],
        blockerOwnerRoles := developerBlocker }
  | .rescopeRequested =>
      { phase := name, progressSignals := [.taskRescopeRequested],
        terminalOutcomes := [.cancelled, .failed] }
  | .complete =>
      { phase := name, progressSignals := [.taskCompleted], terminalOutcomes := [.done] }
  | .blockedNeedsElLe | .blockedNeedsZoEl =>
      { phase := name, progressSignals := [.blockerResolved], waitSignals := controlledWait,
        blockerOwnerRoles := anyBlockerOwner, terminalOutcomes := [.cancelled] }

/-! ## The validation -/

/-- Why a decision does not fit its phase policy. -/
inductive PolicyError
  | noPhasePolicy (kind : DriverKind) (phase : String)
  | waitNotAllowed (phase : String)
  | signalNotAllowed (signal : ProgressSignal) (kind : DriverKind) (phase : String)
  | cannotFailFromWait (phase : String)
  | cannotEscalateWait (phase : String) (owner : WorkflowRole)
  | ownerNotAllowed (owner : WorkflowRole) (kind : DriverKind) (phase : String)
  | ownerMustRoute (owner : WorkflowRole) (expected actual : String)
  | sourcePhaseNotRecorded
  | unknownResumePhases (kind : DriverKind) (names : List String)
  | terminalNotAllowed (outcome : TerminalOutcome) (kind : DriverKind) (phase : String)
  | stalled
  deriving DecidableEq, Repr

open StrEnum in
def PolicyError.message : PolicyError → String
  | .noPhasePolicy kind phase => "no phase policy for " ++ value kind ++ ":" ++ phase
  | .waitNotAllowed phase => "phase " ++ phase ++ " does not allow controlled waits"
  | .signalNotAllowed signal kind phase =>
      "signal " ++ value signal ++ " is not allowed from " ++ value kind ++ ":" ++ phase
  | .cannotFailFromWait phase => "phase " ++ phase ++ " cannot fail from a wait threshold"
  | .cannotEscalateWait phase owner => "phase " ++ phase ++ " cannot escalate waits to " ++ value owner
  | .ownerNotAllowed owner kind phase =>
      "blocker owner " ++ value owner ++ " is not allowed from " ++ value kind ++ ":" ++ phase
  | .ownerMustRoute owner expected actual =>
      "blocker owner " ++ value owner ++ " must route to " ++ expected ++ ", not " ++ actual
  | .sourcePhaseNotRecorded =>
      "new blockers must record the source phase as resume_target.blocked_phase"
  | .unknownResumePhases kind names =>
      "resume target phase(s) not valid for " ++ value kind ++ ": " ++ ", ".intercalate names
  | .terminalNotAllowed outcome kind phase =>
      "terminal outcome " ++ value outcome ++ " is not allowed from " ++ value kind ++ ":" ++ phase
  | .stalled =>
      "decision does not produce material progress, controlled wait, blocker, or terminal outcome"

/-- `TEMPLATE_PHASE_POLICIES[driver_kind].get(phase)`. -/
def templatePhasePolicy? : DriverKind → String → Option PhasePolicy
  | .softwareProject, phase => (StrEnum.parse? phase).map projectPhasePolicies
  | .softwareTask, phase => (StrEnum.parse? phase).map taskPhasePolicies

/-- The keys of `TEMPLATE_PHASE_POLICIES[driver_kind]`. -/
def templatePhases : DriverKind → List String
  | .softwareProject => (StrEnum.members (α := ProjectIntakePhase)).map StrEnum.value
  | .softwareTask => (StrEnum.members (α := TaskPhase)).map StrEnum.value

/-- Return the policy for a concrete template phase. -/
def phasePolicyFor (kind : DriverKind) (phase : String) : Except PolicyError PhasePolicy :=
  match templatePhasePolicy? kind phase with
  | some policy => .ok policy
  | none => .error (.noPhasePolicy kind phase)

/-- The blocked phase of the templates module: a string. -/
def templateBlockedPhaseFor (ownerRole : WorkflowRole) : String :=
  if ownerRole = .humanApprover then "BLOCKED_NEEDS_ZO_EL" else "BLOCKED_NEEDS_EL_LE"

section
variable (kind : DriverKind) (policy : PhasePolicy) (decision : WorkflowDecision)

def checkWaitAllowed : Except PolicyError Unit :=
  if decision.waitToStart.isSome ∧ signalIn policy.waitSignals decision.progressSignal = false then
    .error (.waitNotAllowed decision.fromPhase)
  else .ok ()

def checkSignalAllowed : Except PolicyError Unit :=
  match decision.progressSignal with
  | none => .ok ()
  | some signal =>
      if signal ∉ policy.allowedSignals
          ∧ ¬(signal ∈ blockerSignals ∧ decision.blockerToRecord.isSome) then
        .error (.signalNotAllowed signal kind decision.fromPhase)
      else .ok ()

/-- The owner a wait escalates to when its threshold response is a blocked phase. -/
def escalationOwner (response : WaitThresholdResponse) : WorkflowRole :=
  if response = .blockedNeedsZoEl then .humanApprover else .processSteward

def checkWaitThreshold : Except PolicyError Unit :=
  match decision.waitToStart with
  | none => .ok ()
  | some wait =>
      if wait.thresholdResponse = .failed then
        if .failed ∉ policy.terminalOutcomes then .error (.cannotFailFromWait decision.fromPhase)
        else .ok ()
      else if isBlockedPhase (StrEnum.value wait.thresholdResponse) then
        let expectedOwner := escalationOwner wait.thresholdResponse
        if expectedOwner ∉ policy.blockerOwnerRoles then
          .error (.cannotEscalateWait decision.fromPhase expectedOwner)
        else .ok ()
      else .ok ()

/-- The phases a blocker may resume to: the driver's own, and the names of the terminal outcomes. -/
def knownResumeTargets : List String :=
  templatePhases kind ++ (StrEnum.members (α := TerminalOutcome)).map StrEnum.value

/-- The phases a blocker advertises for its resolution. -/
def Blocker.advertisedPhases (blocker : Blocker) : List String :=
  blocker.resumeTarget.resumePhaseIfUnblocked :: blocker.resumePhases

def checkBlocker : Except PolicyError Unit :=
  match decision.blockerToRecord with
  | none => .ok ()
  | some blocker =>
      let expectedBlockedPhase := templateBlockedPhaseFor blocker.ownerRole
      -- a blocker that is not new may keep the source phase it was recorded with
      let isNewBlockerRoute :=
        signalIn blockerSignals decision.progressSignal || isBlockedPhase decision.toPhase
      let unknownResumePhases := sortedDifference blocker.advertisedPhases (knownResumeTargets kind)
      if blocker.ownerRole ∉ policy.blockerOwnerRoles then
        .error (.ownerNotAllowed blocker.ownerRole kind decision.fromPhase)
      else if decision.toPhase ≠ expectedBlockedPhase then
        .error (.ownerMustRoute blocker.ownerRole expectedBlockedPhase decision.toPhase)
      else if isNewBlockerRoute ∧ blocker.resumeTarget.blockedPhase ≠ decision.fromPhase then
        .error .sourcePhaseNotRecorded
      else if unknownResumePhases ≠ [] then .error (.unknownResumePhases kind unknownResumePhases)
      else .ok ()

def checkTerminal : Except PolicyError Unit :=
  match decision.terminalOutcome with
  | none => .ok ()
  | some outcome =>
      if outcome ∉ policy.terminalOutcomes then
        .error (.terminalNotAllowed outcome kind decision.fromPhase)
      else .ok ()

def checkNotStalled : Except PolicyError Unit :=
  if decision.runOutcome = .stalled then .error .stalled else .ok ()

end

/-- Validate a decision against the phase policy for its source phase. -/
def validateDecisionAgainstPhasePolicy (kind : DriverKind) (decision : WorkflowDecision) :
    Except PolicyError WorkflowDecision := do
  let policy ← phasePolicyFor kind decision.fromPhase
  checkWaitAllowed policy decision
  checkSignalAllowed kind policy decision
  checkWaitThreshold policy decision
  checkBlocker kind policy decision
  checkTerminal kind policy decision
  checkNotStalled decision
  return decision

/-! ## What a decision that passes satisfies -/

/-- A wait's threshold response can be taken from the phase. -/
structure ThresholdAllowed (policy : PhasePolicy) (wait : WaitPolicy) : Prop where
  fail : wait.thresholdResponse = .failed → .failed ∈ policy.terminalOutcomes
  escalate : isBlockedPhase (StrEnum.value wait.thresholdResponse) = true →
    escalationOwner wait.thresholdResponse ∈ policy.blockerOwnerRoles

/-- A blocker may be recorded by the decision. -/
structure BlockerAllowed (kind : DriverKind) (policy : PhasePolicy) (decision : WorkflowDecision)
    (blocker : Blocker) : Prop where
  owner : blocker.ownerRole ∈ policy.blockerOwnerRoles
  route : decision.toPhase = templateBlockedPhaseFor blocker.ownerRole
  sourcePhase : blocker.resumeTarget.blockedPhase = decision.fromPhase
  resumeKnown : ∀ phase ∈ blocker.advertisedPhases, phase ∈ knownResumeTargets kind

/-- **What the phase policy asks of a decision.** -/
structure PolicyAllows (kind : DriverKind) (policy : PhasePolicy) (decision : WorkflowDecision) : Prop where
  waitAllowed : decision.waitToStart.isSome = true →
    signalIn policy.waitSignals decision.progressSignal = true
  signalAllowed : ∀ signal ∈ decision.progressSignal,
    signal ∈ policy.allowedSignals ∨ (signal ∈ blockerSignals ∧ decision.blockerToRecord.isSome = true)
  threshold : ∀ wait ∈ decision.waitToStart, ThresholdAllowed policy wait
  blocker : ∀ blocker ∈ decision.blockerToRecord, BlockerAllowed kind policy decision blocker
  terminal : ∀ outcome ∈ decision.terminalOutcome, outcome ∈ policy.terminalOutcomes
  notStalled : decision.runOutcome ≠ .stalled

/-- Every owner's blocked phase is a blocked phase. -/
@[simp] theorem isBlockedPhase_templateBlockedPhaseFor (ownerRole : WorkflowRole) :
    isBlockedPhase (templateBlockedPhaseFor ownerRole) = true := by
  unfold templateBlockedPhaseFor
  split <;> decide

section
variable {kind : DriverKind} {policy : PhasePolicy} {decision : WorkflowDecision}

theorem checkWaitAllowed_eq_ok :
    checkWaitAllowed policy decision = .ok () ↔
      (decision.waitToStart.isSome = true → signalIn policy.waitSignals decision.progressSignal = true) := by
  unfold checkWaitAllowed
  split_ifs with h
  · simp [h]
  · simpa using h

theorem checkSignalAllowed_eq_ok :
    checkSignalAllowed kind policy decision = .ok () ↔ ∀ signal ∈ decision.progressSignal,
      signal ∈ policy.allowedSignals
        ∨ (signal ∈ blockerSignals ∧ decision.blockerToRecord.isSome = true) := by
  unfold checkSignalAllowed
  cases decision.progressSignal with
  | none => simp
  | some signal =>
      simp only [Option.mem_some_iff, forall_eq']
      split_ifs with h
      · simpa using h
      · simpa [or_iff_not_imp_left, Option.isSome_iff_ne_none] using h

theorem checkWaitThreshold_eq_ok :
    checkWaitThreshold policy decision = .ok () ↔
      ∀ wait ∈ decision.waitToStart, ThresholdAllowed policy wait := by
  unfold checkWaitThreshold
  cases decision.waitToStart with
  | none => simp
  | some wait =>
      simp only [Option.mem_some_iff, forall_eq']
      -- a response is a failure, an escalation to a blocked phase, or neither, and never two of these
      by_cases hfail : wait.thresholdResponse = .failed
      · have hnot : isBlockedPhase (StrEnum.value WaitThresholdResponse.failed) = false := by decide
        rw [if_pos hfail]
        split_ifs with h
        · exact ⟨fun _ => ⟨fun _ => h, fun hb => by rw [hfail, hnot] at hb; cases hb⟩, fun _ => rfl⟩
        · exact ⟨fun hc => absurd hc (by simp), fun hc => absurd (hc.fail hfail) h⟩
      · rw [if_neg hfail]
        split_ifs with hb h
        · exact ⟨fun _ => ⟨fun hf => absurd hf hfail, fun _ => h⟩, fun _ => rfl⟩
        · exact ⟨fun hc => absurd hc (by simp), fun hc => absurd (hc.escalate hb) h⟩
        · exact ⟨fun _ => ⟨fun hf => absurd hf hfail, fun hc => absurd hc hb⟩, fun _ => rfl⟩

theorem checkBlocker_eq_ok :
    checkBlocker kind policy decision = .ok () ↔
      ∀ blocker ∈ decision.blockerToRecord, BlockerAllowed kind policy decision blocker := by
  unfold checkBlocker
  cases decision.blockerToRecord with
  | none => simp
  | some blocker =>
      simp only [Option.mem_some_iff, forall_eq']
      constructor
      · intro h
        split_ifs at h with howner hroute hsource hresume
        have hto : decision.toPhase = templateBlockedPhaseFor blocker.ownerRole := not_not.mp hroute
        exact
          { owner := howner
            route := hto
            sourcePhase := by
              -- the route is a blocked phase, so this is always a new blocker route
              simpa [hto] using hsource
            resumeKnown := sortedDifference_eq_nil.mp (not_not.mp hresume) }
      · intro h
        have hknown := sortedDifference_eq_nil.mpr h.resumeKnown
        rw [if_neg (not_not.mpr h.owner), if_neg (not_not.mpr h.route),
          if_neg (fun hc => hc.2 h.sourcePhase), if_neg (not_not.mpr hknown)]

theorem checkTerminal_eq_ok :
    checkTerminal kind policy decision = .ok () ↔
      ∀ outcome ∈ decision.terminalOutcome, outcome ∈ policy.terminalOutcomes := by
  unfold checkTerminal
  cases decision.terminalOutcome with
  | none => simp
  | some outcome =>
      simp only [Option.mem_some_iff, forall_eq']
      split_ifs with h
      · simpa using h
      · simpa using h

theorem checkNotStalled_eq_ok : checkNotStalled decision = .ok () ↔ decision.runOutcome ≠ .stalled := by
  unfold checkNotStalled
  split_ifs with h
  · simp [h]
  · simp [h]

theorem phasePolicyFor_eq_ok {phase : String} :
    phasePolicyFor kind phase = .ok policy ↔ templatePhasePolicy? kind phase = some policy := by
  unfold phasePolicyFor
  cases templatePhasePolicy? kind phase with
  | none => simp
  | some p => simp

/-- **Inversion.** A decision passes exactly when its source phase has a policy that allows it, and it is
    returned as it is. -/
theorem validateDecisionAgainstPhasePolicy_eq_ok {result : WorkflowDecision} :
    validateDecisionAgainstPhasePolicy kind decision = .ok result ↔
      result = decision ∧ ∃ policy, templatePhasePolicy? kind decision.fromPhase = some policy
        ∧ PolicyAllows kind policy decision := by
  unfold validateDecisionAgainstPhasePolicy
  simp only [bind_eq_ok, phasePolicyFor_eq_ok]
  constructor
  · -- the checks run in the order of the fields of `PolicyAllows`
    rintro ⟨policy, hpolicy, ⟨⟩, hwait, ⟨⟩, hsignal, ⟨⟩, hthreshold, ⟨⟩, hblocker, ⟨⟩, hterminal, ⟨⟩,
      hstalled, hresult⟩
    exact ⟨(Except.ok.inj hresult).symm, policy, hpolicy,
      { waitAllowed := checkWaitAllowed_eq_ok.mp hwait
        signalAllowed := checkSignalAllowed_eq_ok.mp hsignal
        threshold := checkWaitThreshold_eq_ok.mp hthreshold
        blocker := checkBlocker_eq_ok.mp hblocker
        terminal := checkTerminal_eq_ok.mp hterminal
        notStalled := checkNotStalled_eq_ok.mp hstalled }⟩
  · rintro ⟨rfl, policy, hpolicy, h⟩
    exact ⟨policy, hpolicy, (), checkWaitAllowed_eq_ok.mpr h.waitAllowed,
      (), checkSignalAllowed_eq_ok.mpr h.signalAllowed, (), checkWaitThreshold_eq_ok.mpr h.threshold,
      (), checkBlocker_eq_ok.mpr h.blocker, (), checkTerminal_eq_ok.mpr h.terminal,
      (), checkNotStalled_eq_ok.mpr h.notStalled, rfl⟩

/-- Of a decision that neither waits nor blocks, a policy asks that it lists the signal and the outcome. -/
theorem policyAllows_plain_iff (hwait : decision.waitToStart = none) (hblocker : decision.blockerToRecord = none) :
    PolicyAllows kind policy decision ↔
      (∀ signal ∈ decision.progressSignal, signal ∈ policy.allowedSignals)
        ∧ (∀ outcome ∈ decision.terminalOutcome, outcome ∈ policy.terminalOutcomes)
        ∧ decision.runOutcome ≠ .stalled := by
  constructor
  · intro h
    refine ⟨?_, h.terminal, h.notStalled⟩
    intro signal hsignal
    -- without a blocker the exception for blocker signals does not apply
    rcases h.signalAllowed signal hsignal with hallowed | ⟨-, hsome⟩
    · exact hallowed
    · rw [hblocker] at hsome
      cases hsome
  · rintro ⟨hsignal, hterminal, hstalled⟩
    exact
      { waitAllowed := by
          rw [hwait]
          exact fun h => absurd h Bool.false_ne_true
        signalAllowed := fun signal hs => Or.inl (hsignal signal hs)
        threshold := by
          rw [hwait]
          exact fun wait h => absurd h (Option.not_mem_none wait)
        blocker := by
          rw [hblocker]
          exact fun blocker h => absurd h (Option.not_mem_none blocker)
        terminal := hterminal
        notStalled := hstalled }

/-- From a phase with a policy, a decision passes exactly when this policy allows it. -/
theorem validate_iff_allows (hpolicy : templatePhasePolicy? kind decision.fromPhase = some policy) :
    validateDecisionAgainstPhasePolicy kind decision = .ok decision ↔ PolicyAllows kind policy decision := by
  rw [validateDecisionAgainstPhasePolicy_eq_ok]
  constructor
  · rintro ⟨-, p, hp, hallowed⟩
    obtain rfl : p = policy := Option.some.inj (hp.symm.trans hpolicy)
    exact hallowed
  · intro hallowed
    exact ⟨rfl, policy, hpolicy, hallowed⟩

end

/-! ## Reading the tables -/

@[simp] theorem templatePhasePolicy?_project (phase : ProjectIntakePhase) :
    templatePhasePolicy? .softwareProject (StrEnum.value phase) = some (projectPhasePolicies phase) := by
  simp [templatePhasePolicy?]

@[simp] theorem templatePhasePolicy?_task (phase : TaskPhase) :
    templatePhasePolicy? .softwareTask (StrEnum.value phase) = some (taskPhasePolicies phase) := by
  simp [templatePhasePolicy?]

/-- A phase has a policy exactly when it is one of the template's. -/
theorem templatePhasePolicy?_isSome {kind : DriverKind} {phase : String} :
    (templatePhasePolicy? kind phase).isSome = true ↔ phase ∈ templatePhases kind := by
  cases kind with
  | softwareProject => simp [templatePhasePolicy?, templatePhases, StrEnum.parse?_isSome]
  | softwareTask => simp [templatePhasePolicy?, templatePhases, StrEnum.parse?_isSome]

/-- The policy of a blocked phase, the same in both templates. -/
def blockedPhasePolicy (phase : String) : PhasePolicy where
  phase
  progressSignals := [.blockerResolved]
  waitSignals := controlledWait
  blockerOwnerRoles := anyBlockerOwner
  terminalOutcomes := [.cancelled]

/-- Both templates have the blocked phases. -/
theorem templatePhasePolicy?_blocked (kind : DriverKind) (ownerRole : WorkflowRole) :
    templatePhasePolicy? kind (templateBlockedPhaseFor ownerRole)
      = some (blockedPhasePolicy (templateBlockedPhaseFor ownerRole)) := by
  unfold templateBlockedPhaseFor
  cases kind with
  | softwareProject =>
      split_ifs
      · exact templatePhasePolicy?_project .blockedNeedsZoEl
      · exact templatePhasePolicy?_project .blockedNeedsElLe
  | softwareTask =>
      split_ifs
      · exact templatePhasePolicy?_task .blockedNeedsZoEl
      · exact templatePhasePolicy?_task .blockedNeedsElLe

/-- A blocked phase with a policy has the one of the blocked phases. -/
theorem blocked_policy_eq {kind : DriverKind} {policy : PhasePolicy} {phase : String}
    (h : templatePhasePolicy? kind phase = some policy) (hblocked : isBlockedPhase phase = true) :
    policy = blockedPhasePolicy phase := by
  cases kind with
  | softwareProject =>
      obtain ⟨p, hp, rfl⟩ := Option.map_eq_some_iff.mp h
      rw [← StrEnum.parse?_eq_some.mp hp] at hblocked ⊢
      cases p <;> first | rfl | exact absurd hblocked (by decide)
  | softwareTask =>
      obtain ⟨p, hp, rfl⟩ := Option.map_eq_some_iff.mp h
      rw [← StrEnum.parse?_eq_some.mp hp] at hblocked ⊢
      cases p <;> first | rfl | exact absurd hblocked (by decide)

end WorkflowDrivers
