import WorkflowDrivers.Lib.Drive
import WorkflowDrivers.Policies.Replay

/-!
# `Policies.EventReplay` — replaying events through a decision function

The second half of `replay.py`: `replay_events` asks a decision function for a decision on each event and applies
it. The function is the caller's, so it is a parameter, and like any Python function it may raise. Beside it stand
the summary of evidence that replays are compared by, and the test for terminal outcomes.
-/

namespace WorkflowDrivers
open Lib StrEnum

/-- Replay events through a deterministic decision function. An exception is the decision function's or
    `apply_decision`'s. -/
def replayEvents {E : Type} (initialState : WorkflowStateRecord) (events : List WorkflowEvent)
    (decide : WorkflowStateRecord → WorkflowEvent → Except E WorkflowDecision) :
    Except (E ⊕ ReplayError) WorkflowStateRecord :=
  replay (decidedStep decide applyDecision) initialState events

/-- A run of `replay_events`, with the decisions it takes. -/
abbrev EventRun {E : Type} (decide : WorkflowStateRecord → WorkflowEvent → Except E WorkflowDecision) :=
  Driven (fun record event decision => decide record event = .ok decision) applyDecision

/-- Stable evidence summary used by tests and adapters for replay checks. -/
def evidenceDigest (evidenceRefs : List EvidenceRef) : List (String × String × Option String) :=
  evidenceRefs.map (fun ref => (value ref.type, ref.uri, ref.digest))

def isTerminal (outcome : Option TerminalOutcome) : Bool :=
  [some TerminalOutcome.done, some .failed, some .cancelled].contains outcome

/-- Every outcome is terminal. -/
theorem isTerminal_eq (outcome : Option TerminalOutcome) : isTerminal outcome = outcome.isSome := by
  cases outcome with
  | none => rfl
  | some outcome => cases outcome <;> rfl

/-- The digest of one reference determines it. -/
theorem evidenceDigest_injective : Function.Injective evidenceDigest := by
  apply List.map_injective_iff.mpr
  intro a b h
  obtain ⟨htype, huri, hdigest⟩ := Prod.mk.inj h |>.imp_right Prod.mk.inj
  cases a
  cases b
  simp_all [value_inj]

@[simp] theorem evidenceDigest_append (as bs : List EvidenceRef) :
    evidenceDigest (as ++ bs) = evidenceDigest as ++ evidenceDigest bs := List.map_append

theorem evidenceDigest_flatMap {α : Type} (f : α → List EvidenceRef) (items : List α) :
    evidenceDigest (items.flatMap f) = items.flatMap (fun item => evidenceDigest (f item)) := List.map_flatMap

end WorkflowDrivers
