import Mathlib.Logic.Function.Basic
import Mathlib.Data.List.Induction
import WorkflowDrivers.Lib.Program

/-!
# `Lib.Interleave` — processes that take turns on a shared medium

Processes of one kind, indexed by `ι`, share a medium `F`. A turn of process `i` moves its own state and the medium;
a schedule is a list of turns, in any order. What holds under every schedule is proved turn by turn
(`interleave_invariant`), or, where it speaks of the turns taken so far, by one more turn at a time
(`interleave_rec`). A process whose states describe those of another one, turn by turn, describes its
interleavings too (`interleave_map`).

The programs of `Lib.Program` are such processes: a turn is one look or one write. A turn does not change what the
rest of the program will come to if no other process interferes (`Prog.run_turn`).
-/

namespace Lib

/-! ## Schedules -/

/-- The states of the processes and the medium. -/
structure Shared (ι P F : Type) where
  process : ι → P
  medium : F

variable {ι P F : Type} [DecidableEq ι]

/-- A turn of process `i`. -/
def Shared.turn (step : ι → P → F → P × F) (c : Shared ι P F) (i : ι) : Shared ι P F where
  process := Function.update c.process i (step i (c.process i) c.medium).1
  medium := (step i (c.process i) c.medium).2

/-- The turns of a schedule, one after the other. -/
def interleave (step : ι → P → F → P × F) (c : Shared ι P F) (schedule : List ι) : Shared ι P F :=
  schedule.foldl (Shared.turn step) c

section
variable {step : ι → P → F → P × F} {c : Shared ι P F}

@[simp] theorem turn_process_self (i : ι) :
    (c.turn step i).process i = (step i (c.process i) c.medium).1 := Function.update_self ..

theorem turn_process_ne {i j : ι} (h : j ≠ i) : (c.turn step i).process j = c.process j :=
  Function.update_of_ne h ..

theorem interleave_append (before after : List ι) :
    interleave step c (before ++ after) = interleave step (interleave step c before) after := List.foldl_append

theorem interleave_concat (schedule : List ι) (i : ι) :
    interleave step c (schedule ++ [i]) = (interleave step c schedule).turn step i := interleave_append schedule [i]

/-- **Invariant rule.** What every turn preserves, every schedule preserves. -/
theorem interleave_invariant (inv : Shared ι P F → Prop) (hturn : ∀ c i, inv c → inv (c.turn step i))
    (hc : inv c) (schedule : List ι) : inv (interleave step c schedule) := by
  induction schedule generalizing c with
  | nil => exact hc
  | cons i rest ih => exact ih (hturn c i hc)

/-- **The same for what speaks of the turns taken so far.** -/
theorem interleave_rec (inv : List ι → Shared ι P F → Prop) (hnil : inv [] c)
    (hturn : ∀ schedule i, inv schedule (interleave step c schedule) →
      inv (schedule ++ [i]) ((interleave step c schedule).turn step i))
    (schedule : List ι) : inv schedule (interleave step c schedule) := by
  induction schedule using List.reverseRecOn with
  | nil => exact hnil
  | append_singleton before i ih =>
      rw [interleave_concat]
      exact hturn before i ih

/-- **Simulation.** If the states of one kind of process describe those of another, turn by turn, they do so under
    every schedule. -/
theorem interleave_map {Q : Type} {step' : ι → Q → F → Q × F} (describe : ι → P → Q)
    (hturn : ∀ i p f, step' i (describe i p) f = (describe i (step i p f).1, (step i p f).2))
    (c : Shared ι P F) (schedule : List ι) :
    interleave step' { process := fun i => describe i (c.process i), medium := c.medium } schedule
      = { process := fun i => describe i ((interleave step c schedule).process i)
          medium := (interleave step c schedule).medium } := by
  induction schedule using List.reverseRecOn with
  | nil => rfl
  | append_singleton before i ih =>
      rw [interleave_concat, interleave_concat, ih, Shared.turn, Shared.turn]
      simp only [hturn, Shared.mk.injEq, and_true]
      funext j
      by_cases hj : j = i
      · subst hj
        rw [Function.update_self, Function.update_self]
      · rw [Function.update_of_ne hj, Function.update_of_ne hj]

end

/-! ## Programs as processes -/

namespace Prog

variable {E A : Type}

/-- One look or one write; a finished program stays as it is. -/
def turn : Prog F E A → F → Prog F E A × F
  | .done a, f => (.done a, f)
  | .fail e, f => (.fail e, f)
  | .look k, f => (k f, f)
  | .write w k, f => (k, w f)

/-- What a finished program has come to. -/
def answer? : Prog F E A → Option (Except E A)
  | .done a => some (.ok a)
  | .fail e => some (.error e)
  | .look _ => none
  | .write _ _ => none

/-- A turn leaves the run of the rest as it was. -/
theorem run_turn (p : Prog F E A) (f : F) : (p.turn f).1.run (p.turn f).2 = p.run f := by
  cases p <;> rfl

/-- The run of a finished program changes nothing. -/
theorem run_of_answer {p : Prog F E A} {answer : Except E A} (h : p.answer? = some answer) (f : F) :
    p.run f = (f, answer) := by
  cases p with
  | done a =>
      obtain rfl := Option.some.inj h
      rfl
  | fail e =>
      obtain rfl := Option.some.inj h
      rfl
  | look k => cases h
  | write w k => cases h

end Prog
end Lib
