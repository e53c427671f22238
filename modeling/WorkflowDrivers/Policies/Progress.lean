import WorkflowDrivers.Models.Decision

/-!
# `Policies.Progress` — material progress and the outcome of a run

`classifyRunOutcome` is the source's classification. A decision calls it in one way only, written here as
`runOutcome`; the one fact the policies rest on is `runOutcome_eq_stalled`: since every signal is either a
progress signal or a controlled wait, a decision is stalled exactly when it names no signal, no blocker and
no terminal outcome.
-/

namespace WorkflowDrivers
open Lib

def materialProgressSignals : List ProgressSignal :=
  [.projectAccepted, .planCreated, .planReviewRequested, .planApproved, .planRevised, .tasksCreated,
   .taskStarted, .taskCompleted, .taskFailed, .taskCancelled, .taskRescopeRequested,
   .prCreated, .prUpdated, .prHeadChanged, .testEvidenceCreated,
   .proofAuthRequested, .proofStarted, .proofEvidenceCreated, .proofCompleted, .proofRepairRequired,
   .reviewRequested, .reviewStarted, .reviewCompleted, .reviewFindingsAccepted, .reviewFindingsFixed,
   .feedbackRequested, .feedbackReceived, .dogfoodStarted, .dogfoodCompleted,
   .mergeReady, .releaseCompleted, .blockerCreated, .blockerEscalated, .blockerResolved,
   .finalReportDelivered]

/-- Classify a driver run outcome. -/
def classifyRunOutcome (signals : List ProgressSignal) (blocker : Option Blocker) (done failed : Bool) :
    RunOutcome :=
  if done then .done
  else if failed then .failed
  else if blocker.isSome || signals.any (fun s => blockerSignals.contains s) then .blocked
  else if signals.any (fun s => materialProgressSignals.contains s) then .materialProgress
  else if signals.any (fun s => controlledWaitSignals.contains s) then .controlledWait
  else .stalled

/-- The outcome of one decision: the classification as the phase policy calls it. -/
def WorkflowDecision.runOutcome (d : WorkflowDecision) : RunOutcome :=
  classifyRunOutcome d.progressSignal.toList d.blockerToRecord (d.terminalOutcome == some .done)
    (d.terminalOutcome == some .cancelled || d.terminalOutcome == some .failed)

/-- Every signal is a progress signal or a controlled wait. -/
theorem material_or_wait (s : ProgressSignal) :
    materialProgressSignals.contains s = true ∨ controlledWaitSignals.contains s = true := by
  cases s <;> decide

/-- **A decision is stalled exactly when it names nothing to classify.** -/
theorem WorkflowDecision.runOutcome_eq_stalled {d : WorkflowDecision} :
    d.runOutcome = .stalled ↔
      d.progressSignal = none ∧ d.blockerToRecord = none ∧ d.terminalOutcome = none := by
  unfold runOutcome classifyRunOutcome
  cases hs : d.progressSignal with
  | none =>
      cases hb : d.blockerToRecord with
      | none =>
          cases ht : d.terminalOutcome with
          | none => simp
          | some o => cases o <;> simp
      | some b =>
          -- a blocker classifies as blocked, unless a terminal outcome comes first
          simp only [Option.isSome_some, Bool.true_or, if_true, reduceCtorEq, false_and, and_false, iff_false]
          split_ifs <;> exact not_false
  | some s =>
      have hclass := material_or_wait s
      simp only [Option.toList_some, List.any_cons, List.any_nil, Bool.or_false]
      constructor
      · intro h
        split_ifs at h with h1 h2 h3 h4 h5
        rcases hclass with hm | hw
        · exact absurd hm h4
        · exact absurd hw h5
      · rintro ⟨h, -⟩
        exact absurd h (by simp)

theorem WorkflowDecision.not_stalled_of_signal {d : WorkflowDecision} {signal : ProgressSignal}
    (h : d.progressSignal = some signal) : d.runOutcome ≠ .stalled := by
  intro hstalled
  rw [(WorkflowDecision.runOutcome_eq_stalled.mp hstalled).1] at h
  cases h

theorem WorkflowDecision.not_stalled_of_terminal {d : WorkflowDecision} {outcome : TerminalOutcome}
    (h : d.terminalOutcome = some outcome) : d.runOutcome ≠ .stalled := by
  intro hstalled
  rw [(WorkflowDecision.runOutcome_eq_stalled.mp hstalled).2.2] at h
  cases h

end WorkflowDrivers
