import WorkflowDrivers.Policies.Routing
import WorkflowDrivers.Correctness.DriverRuns

/-!
# `Correctness.Routing` — who is asked when a driver gets stuck

A blocker names its owner twice, as an actor and as a role; its category decides the owner a second time
(`escalation_owner`), its role decides the blocked phase and the human's card, and the profile turns the role into
an actor. For the blockers the drivers build all of these agree, and so they do in every run in which the drivers
are handed no other blockers.
-/

namespace WorkflowDrivers
open Lib StrEnum

/-! ## Profiles -/

/-- **Profiles answer by role.** A profile passes the check of a set of roles exactly when it has an actor for each
    of them; otherwise the error lists the roles without one and nothing else, each once and in the order of their
    names; and the order of the bindings does not matter to any lookup. -/
theorem role_lookups (profile : RuntimeProfile) (roles : List WorkflowRole) :
    (requireBoundRoles profile roles = .ok () ↔ ∀ role ∈ roles, ∃ actor, profile.actorFor role = .ok actor)
    ∧ (requireBoundRoles profile roles ≠ .ok () → ∃ names : List String,
        requireBoundRoles profile roles
            = .error ("runtime profile is missing required role binding(s): " ++ ", ".intercalate names)
          ∧ names.Nodup ∧ names.Pairwise (· ≤ ·)
          ∧ (∀ name ∈ names, ∃ role : WorkflowRole, name = value role)
          ∧ ∀ role : WorkflowRole, value role ∈ names ↔
              role ∈ roles ∧ profile.actorFor role = .error ("role is not bound in this profile: " ++ value role))
    ∧ (∀ (other : RuntimeProfile) (role : WorkflowRole), other.roleBindings.Perm profile.roleBindings →
        other.actorFor role = profile.actorFor role) := by
  refine ⟨?_, ?_, ?_⟩
  · rw [requireBoundRoles_eq_ok]
    simp only [exists_actorFor]
  · intro hfails
    let missing := roles.filter (fun role => !profile.boundRoles.contains role)
    have hmissing : missing ≠ [] := by
      intro hnone
      refine hfails (requireBoundRoles_eq_ok.mpr fun role hrole => ?_)
      simpa using List.filter_eq_nil_iff.mp hnone role hrole
    refine ⟨sortedDifference (missing.map value) [], ?_, ?_, ?_, ?_, ?_⟩
    · unfold requireBoundRoles
      exact if_pos hmissing
    · exact ((List.perm_insertionSort _ _).nodup_iff).mpr (List.nodup_dedup _)
    · exact List.pairwise_insertionSort _ _
    · intro name hname
      obtain ⟨role, -, hrole⟩ := List.mem_map.mp (mem_sortedDifference.mp hname).1
      exact ⟨role, hrole.symm⟩
    · intro role
      rw [mem_sortedDifference, List.mem_map_of_injective value_injective, List.mem_filter]
      constructor
      · rintro ⟨⟨hrole, hunbound⟩, -⟩
        exact ⟨hrole, actorFor_eq_error (by simpa using hunbound)⟩
      · rintro ⟨hrole, herror⟩
        refine ⟨⟨hrole, ?_⟩, List.not_mem_nil⟩
        have hunbound : role ∉ profile.boundRoles := by
          intro hbound
          obtain ⟨actor, hactor⟩ := exists_actorFor.mpr hbound
          rw [hactor] at herror
          cases herror
        simpa using hunbound
  · intro other role hperm
    by_cases hbound : role ∈ profile.boundRoles
    · obtain ⟨actor, hactor⟩ := exists_actorFor.mpr hbound
      obtain ⟨binding, hbinding, hrole⟩ := actorFor_eq_ok.mp hactor
      rw [hactor, actorFor_eq_ok]
      exact ⟨binding, hperm.mem_iff.mpr hbinding, hrole⟩
    · have hother : role ∉ other.boundRoles := by
        intro hmem
        exact hbound ((hperm.map RoleBinding.role).mem_iff.mp hmem)
      rw [actorFor_eq_error hbound, actorFor_eq_error hother]

/-- Two bindings, in the order they were written. -/
def exampleProfile : RuntimeProfile where
  profileId := "neutral-local-dev"
  version := "2026-07-30"
  description := "two roles"
  roleBindings :=
    [{ role := .processSteward, actor := "ops-worker", kind := .service, adapter := "memory" },
     { role := .humanApprover, actor := "requester", kind := .human, adapter := "configured-channel" }]
  uniqueRoles := by decide

theorem role_lookups_bound : requireBoundRoles exampleProfile [.humanApprover, .processSteward] = .ok () := by
  refine (role_lookups exampleProfile [.humanApprover, .processSteward]).1.mpr ?_
  intro role hrole
  rcases List.mem_cons.mp hrole with rfl | hlast
  · exact ⟨"requester", by decide⟩
  · rw [List.mem_singleton.mp hlast]
    exact ⟨"ops-worker", by decide⟩

/-! ## The blockers the drivers build -/

/-- A blocker whose two owners are the one its category escalates to. -/
structure FollowsEscalation (blocker : Blocker) : Prop where
  owner : blocker.owner = some blocker.escalationOwner
  role : blocker.ownerRole = if blocker.escalationOwner = .zoEl then .humanApprover else .processSteward

section
variable {blocker : Blocker}

theorem FollowsEscalation.of_human (hcategory : blocker.category = .humanAuthority)
    (howner : blocker.owner = some .zoEl) (hrole : blocker.ownerRole = .humanApprover) : FollowsEscalation blocker := by
  have hescalates : blocker.escalationOwner = .zoEl := by
    rw [Blocker.escalationOwner, hcategory]
    rfl
  exact ⟨by rw [howner, hescalates], by rw [hrole, hescalates]; rfl⟩

theorem FollowsEscalation.of_process (hcategory : blocker.category = .process)
    (howner : blocker.owner = some .elLe) (hrole : blocker.ownerRole = .processSteward) :
    FollowsEscalation blocker := by
  have hescalates : blocker.escalationOwner = .elLe := by
    rw [Blocker.escalationOwner, hcategory]
    rfl
  exact ⟨by rw [howner, hescalates], by rw [hrole, hescalates]; rfl⟩

end

theorem reviewTriggerBlocker_escalation (trigger : ReviewTriggerVerification) (blockedPhase requested : String) :
    FollowsEscalation (reviewTriggerBlocker trigger blockedPhase requested) := by
  have hrole : (reviewTriggerBlocker trigger blockedPhase requested).ownerRole
      = if trigger.state = .blockedReviewerAccess then .humanApprover else .processSteward := rfl
  have howner : (reviewTriggerBlocker trigger blockedPhase requested).owner
      = some (if (reviewTriggerBlocker trigger blockedPhase requested).ownerRole = .humanApprover then .zoEl
          else .elLe) := rfl
  by_cases hstate : trigger.state = .blockedReviewerAccess
  · rw [if_pos hstate] at hrole
    rw [if_pos hrole] at howner
    exact .of_human (if_pos hstate) howner hrole
  · rw [if_neg hstate] at hrole
    rw [hrole] at howner
    exact .of_process (if_neg hstate) howner hrole

theorem doneGateBlocker_escalation (state : ProjectState) (failures : List String) :
    FollowsEscalation (doneGateBlocker state failures) := .of_human rfl rfl rfl

theorem blockerForTransitionGate_escalation (projectId : String) (fromPhase nextPhase : ProjectIntakePhase)
    (status : ProposalGateStatus) (failures : List String) :
    FollowsEscalation (blockerForTransitionGate projectId fromPhase nextPhase status failures) := by
  by_cases hstatus : status = .blockedOwnership
  · exact .of_process (if_pos hstatus) (congrArg some (if_pos hstatus)) (if_pos hstatus)
  · exact .of_human (if_neg hstatus) (congrArg some (if_neg hstatus)) (if_neg hstatus)

/-! ## One tick -/

/-- What a tick records: a blocker of the driver's, or the one it was handed, in the blocked phase of its owner; and
    no blocker only if it was handed none. -/
structure RecordsRouted (handed : Option Blocker) (d : WorkflowDecision) : Prop where
  recorded : ∀ b ∈ d.blockerToRecord,
    (handed = some b ∨ FollowsEscalation b) ∧ d.toPhase = templateBlockedPhaseFor b.ownerRole
  unrecorded : d.blockerToRecord = none → handed = none

section
variable {handed : Option Blocker} {decisionId decidedAt fromPhase : String}

theorem blockerDecision_routed {b : Blocker} (h : handed = some b ∨ FollowsEscalation b) :
    RecordsRouted handed
      (blockerDecision decisionId decidedAt fromPhase (templateBlockedPhaseFor b.ownerRole) b) where
  recorded := by
    rintro _ ⟨⟩
    exact ⟨h, rfl⟩
  unrecorded hnone := absurd hnone (Option.some_ne_none b)

theorem waitDecision_routed {b : Blocker} {wait : WaitPolicy} (h : handed = some b) :
    RecordsRouted handed
      (waitDecision decisionId decidedAt fromPhase (templateBlockedPhaseFor b.ownerRole) wait (some b)) where
  recorded := by
    rintro _ ⟨⟩
    exact ⟨Or.inl h, rfl⟩
  unrecorded hnone := absurd hnone (Option.some_ne_none b)

/-- A decision that records no blocker. -/
theorem unblocked_routed {d : WorkflowDecision} (hnone : d.blockerToRecord = none) (h : handed = none) :
    RecordsRouted handed d where
  recorded b hb := by
    rw [hnone] at hb
    cases hb
  unrecorded _ := h

end

/-- The task driver. -/
theorem task_recordsRouted {state : TaskState} {args : TransitionArgs} {d : WorkflowDecision}
    (hd : decideNextTaskTransition state args = .ok d) : RecordsRouted state.blocker d := by
  obtain ⟨result, hresult, hmove⟩ := decideNextTaskTransition_returned hd
  cases hmove with
  | blockedNeedsWait hb hw => cases hresult
  | needsWait hb hw => cases hresult
  | blockedWait hb hsame hw =>
      obtain ⟨rfl, -⟩ := emit_eq_ok.mp hresult.symm
      rw [value_taskBlockedPhaseFor]
      exact waitDecision_routed hb
  | blocked hb hne =>
      obtain ⟨rfl, -⟩ := emit_eq_ok.mp hresult.symm
      rw [value_taskBlockedPhaseFor]
      exact blockerDecision_routed (Or.inl hb)
  | reviewBlocked hb hphase =>
      obtain ⟨rfl, -⟩ := emit_eq_ok.mp hresult.symm
      rw [value_taskBlockedPhaseFor]
      exact blockerDecision_routed (Or.inr (reviewTriggerBlocker_escalation _ _ _))
  | reviewWait hb hphase hw =>
      obtain ⟨rfl, -⟩ := emit_eq_ok.mp hresult.symm
      exact unblocked_routed rfl hb
  | wait hb hsame hw =>
      obtain ⟨rfl, -⟩ := emit_eq_ok.mp hresult.symm
      exact unblocked_routed rfl hb
  | advance hb hne hsignal hplain hto =>
      obtain ⟨rfl, -⟩ := emit_eq_ok.mp hresult.symm
      exact unblocked_routed rfl hb

/-- The project driver, which builds blockers in three places. -/
theorem project_recordsRouted [UnicodeData] {state : ProjectState} {args : ProjectTransitionArgs}
    {d : WorkflowDecision} (hd : decideNextProjectTransition state args = .ok d) :
    RecordsRouted state.blocker d := by
  obtain ⟨result, hresult, hmove⟩ := decideNextProjectTransition_returned hd
  cases hmove with
  | blockedNeedsWait hb hw => cases hresult
  | needsWait hb hdone hw => cases hresult
  | gateBlocked hgate hne =>
      obtain ⟨rfl, -⟩ := emit_eq_ok.mp hresult.symm
      rw [value_projectBlockedPhaseFor]
      exact blockerDecision_routed (Or.inr (blockerForTransitionGate_escalation ..))
  | blockedWait hb hsame hw =>
      obtain ⟨rfl, -⟩ := emit_eq_ok.mp hresult.symm
      rw [value_projectBlockedPhaseFor]
      exact waitDecision_routed hb
  | blocked hgate hb hne =>
      obtain ⟨rfl, -⟩ := emit_eq_ok.mp hresult.symm
      rw [value_projectBlockedPhaseFor]
      exact blockerDecision_routed (Or.inl hb)
  | doneBlocked hb hdone hproof =>
      obtain ⟨rfl, -⟩ := emit_eq_ok.mp hresult.symm
      exact blockerDecision_routed (Or.inr (doneGateBlocker_escalation _ _))
  | reviewBlocked hb hphase =>
      obtain ⟨rfl, -⟩ := emit_eq_ok.mp hresult.symm
      rw [value_projectBlockedPhaseFor]
      exact blockerDecision_routed (Or.inr (reviewTriggerBlocker_escalation _ _ _))
  | done hb hdone hproof =>
      obtain ⟨rfl, -⟩ := emit_eq_ok.mp hresult.symm
      exact unblocked_routed rfl hb
  | reviewWait hb hphase hw =>
      obtain ⟨rfl, -⟩ := emit_eq_ok.mp hresult.symm
      exact unblocked_routed rfl hb
  | wait hb hdone hsame hw =>
      obtain ⟨rfl, -⟩ := emit_eq_ok.mp hresult.symm
      exact unblocked_routed rfl hb
  | advance hgate hb hdone hne hsignal hplain hto =>
      obtain ⟨rfl, -⟩ := emit_eq_ok.mp hresult.symm
      exact unblocked_routed rfl hb

/-! ## Runs -/

/-- The blocker of a record follows the escalation policy, and the record is in the blocked phase of its owner. -/
def Escalated (record : WorkflowStateRecord) : Prop :=
  ∀ b ∈ record.blocker, FollowsEscalation b ∧ record.phase = templateBlockedPhaseFor b.ownerRole

/-- **Step lemma.** A tick that was handed the blocker of the record keeps that. -/
theorem RecordsRouted.escalated {record next : WorkflowStateRecord} {d : WorkflowDecision}
    (h : RecordsRouted record.blocker d) (hescalated : Escalated record) (hstep : applyDecision record d = .ok next) :
    Escalated next := by
  obtain ⟨-, rfl⟩ := applyDecision_eq_ok.mp hstep
  intro b hb
  rw [Option.mem_def, nextState_blocker, nextBlocker] at hb
  rw [nextState_phase]
  cases hrecorded : d.blockerToRecord with
  | some recorded =>
      rw [hrecorded, if_pos (by rfl)] at hb
      obtain rfl := Option.some.inj hb
      obtain ⟨hsource, hphase⟩ := h.recorded recorded hrecorded
      rcases hsource with hheld | hbuilt
      · exact ⟨(hescalated recorded hheld).1, hphase⟩
      · exact ⟨hbuilt, hphase⟩
  | none =>
      -- nothing was handed, so nothing is held
      have hnone : record.blocker = none := h.unrecorded hrecorded
      rw [hrecorded, if_neg (by simp), hnone] at hb
      split_ifs at hb

/-- **Who is asked.** The two owners of the blocker, the phase, the card that the status shows and the actor of any
    profile that has the two roles all follow from the category of the blocker. -/
structure AskedRightly (record : WorkflowStateRecord) (blocker : Blocker) : Prop where
  owner : blocker.owner = some blocker.escalationOwner
  phase : record.phase = if blocker.escalationOwner = .zoEl then "BLOCKED_NEEDS_ZO_EL" else "BLOCKED_NEEDS_EL_LE"
  card : (statusOf record).humanActionRequired.isSome = true ↔ blocker.escalationOwner = .zoEl
  actor : ∀ profile, requireBoundRoles profile [.processSteward, .humanApprover] = .ok () →
    ∃ actor, profile.actorFor blocker.ownerRole = .ok actor

theorem Escalated.asked {record : WorkflowStateRecord} {b : Blocker} (h : Escalated record)
    (hb : record.blocker = some b) : AskedRightly record b := by
  obtain ⟨⟨howner, hrole⟩, hphase⟩ := h b hb
  have hhuman : b.ownerRole = .humanApprover ↔ b.escalationOwner = .zoEl := by
    rw [hrole]
    split_ifs with hzoEl
    · simp [hzoEl]
    · simp [hzoEl]
  refine ⟨howner, ?_, ?_, ?_⟩
  · rw [hphase, templateBlockedPhaseFor]
    simp only [hhuman]
  · rw [statusOf, humanActionRequired_isSome, hb]
    simp only [Option.mem_some_iff, exists_eq_left']
    exact hhuman
  · intro profile hbound
    rw [exists_actorFor]
    apply requireBoundRoles_eq_ok.mp hbound
    rw [hrole]
    split_ifs <;> decide

/-- **The drivers ask the right one.** In every run of either driver from a record without a blocker, in which each
    tick is handed the blocker of the record and no other, a blocker that is held at the end is asked of the owner
    its category escalates to. -/
theorem driver_blockers_escalate [UnicodeData] :
    (∀ initial ticks decisions final b, initial.blocker = none →
      Driven (fun record tick d => ProjectDecides record tick d ∧ tick.1.blocker = record.blocker) applyDecision
        initial ticks decisions final →
      final.blocker = some b → AskedRightly final b)
    ∧ (∀ initial ticks decisions final b, initial.blocker = none →
      Driven (fun record tick d => TaskDecides record tick d ∧ tick.1.blocker = record.blocker) applyDecision
        initial ticks decisions final →
      final.blocker = some b → AskedRightly final b) := by
  have hstart : ∀ initial : WorkflowStateRecord, initial.blocker = none → Escalated initial := by
    intro initial hnone b hb
    rw [hnone] at hb
    cases hb
  constructor
  · intro initial ticks decisions final b hnone hrun hb
    have hfinal : Escalated final := by
      refine hrun.invariant Escalated ?_ (hstart initial hnone)
      rintro record tick d next hescalated ⟨⟨-, hd⟩, hhanded⟩ hstep
      exact (hhanded ▸ project_recordsRouted hd).escalated hescalated hstep
    exact hfinal.asked hb
  · intro initial ticks decisions final b hnone hrun hb
    have hfinal : Escalated final := by
      refine hrun.invariant Escalated ?_ (hstart initial hnone)
      rintro record tick d next hescalated ⟨⟨-, hd⟩, hhanded⟩ hstep
      exact (hhanded ▸ task_recordsRouted hd).escalated hescalated hstep
    exact hfinal.asked hb

/-- A project that has nothing to show for its final report. -/
theorem exampleUnproved : ∃ decisions final,
    Driven (fun record tick d => @ProjectDecides asciiOnly record tick d ∧ tick.1.blocker = record.blocker)
        applyDecision (exampleRecord "FINAL_REPORT" none)
        [({ id := "P-1", phase := .finalReport, proposalRequired := true }, { decidedAt := "T1" })] decisions final
      ∧ final.blocker.map Blocker.category = some .humanAuthority :=
  ⟨_, _, .cons ⟨⟨⟨rfl, by decide⟩, rfl⟩, rfl⟩ rfl (.nil _), rfl⟩

theorem driver_blockers_escalate_unproved : ∃ (final : WorkflowStateRecord) (b : Blocker),
    final.blocker = some b ∧ b.category = .humanAuthority ∧ AskedRightly final b := by
  obtain ⟨decisions, final, hrun, hblocker⟩ := exampleUnproved
  obtain ⟨b, hb, hcategory⟩ := Option.map_eq_some_iff.mp hblocker
  exact ⟨final, b, hb, hcategory, (@driver_blockers_escalate asciiOnly).1 _ _ _ _ _ rfl hrun hb⟩

end WorkflowDrivers
