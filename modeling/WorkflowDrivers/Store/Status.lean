import WorkflowDrivers.Lib.Text
import WorkflowDrivers.Models.Records

/-!
# `Store.Status` — the operational status view of a record

`status()` reads the snapshot and summarises it for people. The dictionaries of the source are structures with
the source's keys; its literal keys (`title`, `kind`) are the structure or constructor itself.
-/

namespace WorkflowDrivers
open Lib StrEnum

structure BlockerSummary where
  ownerRole : String
  category : String
  requiredDecision : String
  reason : String
  resumePhaseIfUnblocked : String
  deriving DecidableEq

/-- What the workflow is waiting on: the source's `kind` is the constructor. -/
inductive WaitingOn
  | blocker (ownerRole phase requiredDecision resumePhaseIfUnblocked : String) (resumeActivity : Option String)
  | wait (awaitedSignal thresholdAt thresholdResponse : String)
  | activity (ownerRole activityId : String)
  deriving DecidableEq

/-- The card shown when a blocker needs the requester. -/
structure HumanActionCard where
  title : String := "Waiting on human approver"
  ownerRole : String
  category : String
  requiredAction : String
  reason : String
  resumeTarget : ResumeTarget
  evidenceUris : List String
  deriving DecidableEq

structure WorkflowStatus where
  workflowId : String
  phase : String
  nextTrigger : String
  blocker : Option BlockerSummary := none
  waitingOn : Option WaitingOn := none
  humanActionRequired : Option HumanActionCard := none
  evidenceUris : List String
  terminal : Option String := none
  deriving DecidableEq

/-- `_status_evidence_uris`: each uri once, at its first occurrence. -/
def statusEvidenceUris (state : WorkflowStateRecord) : List String :=
  let refs := state.evidenceRefs ++ (state.blocker.map Blocker.evidenceRefs).getD []
  refs.foldl (fun uris ref => if ref.uri ∈ uris then uris else uris ++ [ref.uri]) []

/-- The evidence a status shows: that of the record, then that of its blocker. -/
theorem statusEvidenceUris_eq (state : WorkflowStateRecord) :
    statusEvidenceUris state
      = ((state.evidenceRefs ++ (state.blocker.map Blocker.evidenceRefs).getD []).map EvidenceRef.uri).eraseDups := by
  rw [statusEvidenceUris, foldl_unseen]
  simp

/-- `_next_trigger`. -/
def nextTrigger (state : WorkflowStateRecord) : String :=
  match state.terminal, state.blocker, state.wait, state.currentActivity with
  | some terminal, _, _, _ => "terminal:" ++ value terminal.outcome
  | none, some blocker, _, _ => "blocker:" ++ value blocker.ownerRole ++ ":" ++ blocker.requiredDecision
  | none, none, some wait, _ => "wait:" ++ wait.awaitedSignal ++ " until " ++ wait.thresholdAt
  | none, none, none, some activity => "activity:" ++ value activity.role ++ ":" ++ activity.activityId
  | none, none, none, none => "event"

/-- `_waiting_on_summary`. -/
def waitingOnSummary (state : WorkflowStateRecord) : Option WaitingOn :=
  match state.terminal, state.blocker, state.wait, state.currentActivity with
  | some _, _, _, _ => none
  | none, some blocker, _, _ =>
      some (.blocker (value blocker.ownerRole) state.phase blocker.requiredDecision
        blocker.resumeTarget.resumePhaseIfUnblocked blocker.resumeTarget.resumeActivity)
  | none, none, some wait, _ =>
      some (.wait wait.awaitedSignal wait.thresholdAt (value wait.thresholdResponse))
  | none, none, none, some activity => some (.activity (value activity.role) activity.activityId)
  | none, none, none, none => none

/-- `_human_action_required`. -/
def humanActionRequired (blocker : Option Blocker) : Option HumanActionCard :=
  match blocker with
  | none => none
  | some blocker =>
      if value blocker.ownerRole ≠ "human_approver" then none
      else
        some
          { ownerRole := value blocker.ownerRole
            category := value blocker.category
            requiredAction := blocker.requiredDecision
            reason := blocker.reason
            resumeTarget := blocker.resumeTarget
            evidenceUris := blocker.evidenceRefs.map EvidenceRef.uri }

/-- `_blocker_summary`. -/
def blockerSummary (blocker : Option Blocker) : Option BlockerSummary :=
  blocker.map (fun blocker =>
    { ownerRole := value blocker.ownerRole
      category := value blocker.category
      requiredDecision := blocker.requiredDecision
      reason := blocker.reason
      resumePhaseIfUnblocked := blocker.resumeTarget.resumePhaseIfUnblocked })

/-- The view `status()` builds from the snapshot it loaded. -/
def statusOf (state : WorkflowStateRecord) : WorkflowStatus where
  workflowId := state.workflowId
  phase := state.phase
  nextTrigger := nextTrigger state
  blocker := blockerSummary state.blocker
  waitingOn := waitingOnSummary state
  humanActionRequired := humanActionRequired state.blocker
  evidenceUris := statusEvidenceUris state
  terminal := state.terminal.map (fun terminal => value terminal.outcome)

/-- A human action is required exactly for a blocker of the human approver. -/
theorem humanActionRequired_isSome {blocker : Option Blocker} :
    (humanActionRequired blocker).isSome = true ↔ ∃ b ∈ blocker, b.ownerRole = .humanApprover := by
  unfold humanActionRequired
  cases blocker with
  | none => simp
  | some b =>
      have hvalue : value b.ownerRole = "human_approver" ↔ b.ownerRole = .humanApprover :=
        value_inj (b := WorkflowRole.humanApprover)
      simp only [ne_eq, hvalue, Option.mem_some_iff, exists_eq_left']
      split_ifs with h
      · simp [h]
      · simpa using h

end WorkflowDrivers
