import Mathlib.Data.List.Lemmas
import WorkflowDrivers.Lib.Interleave

/-!
# `Lib.Writers` — several writers on one medium

A writer is a process that runs one program after another and goes on when one of them fails (`Prog.inTurn`). Several
writers share a medium and take turns in any order. Two facts decide what their interleaving comes to:

* a program that only looks at a view of the medium runs as if it were alone, when the others write nothing that
  shows in that view (`interleave_alone`);
* programs that add entries to a log, each write at most one and always at the end, leave a log in which the entries
  of each writer stand in its order and none is missing (`interleave_emits`).

A log of entries that several writers have left can be filled up with the calls that left no entry, as long as these
are the calls of one writer (`exists_order`): the whole is then an order of all calls.
-/

namespace Lib
namespace Prog

variable {F V E E' A B : Type}

/-! ## One program after another -/

/-- The program with its failure as a value. -/
def attempt : Prog F E A → Prog F E' (Except E A)
  | .done a => .done (.ok a)
  | .fail e => .done (.error e)
  | .look k => .look (fun f => attempt (k f))
  | .write w k => .write w (attempt k)

/-- One program after another, whether they fail or not. -/
def inTurn : List (Prog F E A) → Prog F E' (List (Except E A))
  | [] => .done []
  | p :: ps => bind (attempt p) (fun answer => bind (inTurn ps) (fun answers => .done (answer :: answers)))

theorem run_attempt (p : Prog F E A) (f : F) :
    (attempt p : Prog F E' (Except E A)).run f = ((p.run f).1, .ok (p.run f).2) := by
  induction p generalizing f with
  | done a => rfl
  | fail e => rfl
  | look k ih => exact ih f f
  | write w k ih => exact ih (w f)

/-- An attempt comes to its value. -/
theorem run_attempt_bind (p : Prog F E A) (k : Except E A → Prog F E' B) (f : F) :
    (bind (attempt p) k).run f = (k (p.run f).2).run (p.run f).1 := by
  have hbind := run_bind (attempt p : Prog F E' (Except E A)) k f
  rw [run_attempt] at hbind
  exact hbind

/-! ## Programs that look at a view of the medium -/

/-- All looks and all writes depend on the view only, as far as the view goes. -/
def Within (view : F → V) : Prog F E A → Prop
  | .done _ => True
  | .fail _ => True
  | .look k => (∀ f f', view f = view f' → k f = k f') ∧ ∀ f, Within view (k f)
  | .write w k => (∀ f f', view f = view f' → view (w f) = view (w f')) ∧ Within view k

/-- No write shows in the view. -/
def Hidden (view : F → V) : Prog F E A → Prop
  | .done _ => True
  | .fail _ => True
  | .look k => ∀ f, Hidden view (k f)
  | .write w k => (∀ f, view (w f) = view f) ∧ Hidden view k

section
variable {view : F → V}

/-- A program within a view comes to the same from media of the same view. -/
theorem Within.run_congr {p : Prog F E A} (h : p.Within view) {f f' : F} (hview : view f = view f') :
    view (p.run f).1 = view (p.run f').1 ∧ (p.run f).2 = (p.run f').2 := by
  induction p generalizing f f' with
  | done a => exact ⟨hview, rfl⟩
  | fail e => exact ⟨hview, rfl⟩
  | look k ih =>
      have hsame : k f = k f' := h.1 f f' hview
      show view ((k f).run f).1 = view ((k f').run f').1 ∧ ((k f).run f).2 = ((k f').run f').2
      rw [← hsame]
      exact ih f (h.2 f) hview
  | write w k ih => exact ih h.2 (h.1 f f' hview)

/-- A hidden program leaves the view as it was. -/
theorem Hidden.run_view {p : Prog F E A} (h : p.Hidden view) (f : F) : view (p.run f).1 = view f := by
  induction p generalizing f with
  | done a => rfl
  | fail e => rfl
  | look k ih => exact ih f (h f) f
  | write w k ih => exact (ih h.2 (w f)).trans (h.1 f)

theorem Within.turn {p : Prog F E A} (h : p.Within view) (f : F) : (p.turn f).1.Within view := by
  cases p with
  | done a => exact h
  | fail e => exact h
  | look k => exact h.2 f
  | write w k => exact h.2

theorem Hidden.turn {p : Prog F E A} (h : p.Hidden view) (f : F) :
    (p.turn f).1.Hidden view ∧ view (p.turn f).2 = view f := by
  cases p with
  | done a => exact ⟨h, rfl⟩
  | fail e => exact ⟨h, rfl⟩
  | look k => exact ⟨h f, rfl⟩
  | write w k => exact ⟨h.2, h.1 f⟩

theorem Within.bind {p : Prog F E A} {k : A → Prog F E B} (hp : p.Within view) (hk : ∀ a, (k a).Within view) :
    (Prog.bind p k).Within view := by
  induction p with
  | done a => exact hk a
  | fail e => trivial
  | look k' ih =>
      refine ⟨?_, fun f => ih f (hp.2 f)⟩
      intro f f' hview
      show Prog.bind (k' f) k = Prog.bind (k' f') k
      rw [hp.1 f f' hview]
  | write w k' ih => exact ⟨hp.1, ih hp.2⟩

theorem Hidden.bind {p : Prog F E A} {k : A → Prog F E B} (hp : p.Hidden view) (hk : ∀ a, (k a).Hidden view) :
    (Prog.bind p k).Hidden view := by
  induction p with
  | done a => exact hk a
  | fail e => trivial
  | look k' ih => exact fun f => ih f (hp f)
  | write w k' ih => exact ⟨hp.1, ih hp.2⟩

theorem Within.attempt {p : Prog F E A} (h : p.Within view) :
    (attempt p : Prog F E' (Except E A)).Within view := by
  induction p with
  | done a => trivial
  | fail e => trivial
  | look k ih =>
      refine ⟨?_, fun f => ih f (h.2 f)⟩
      intro f f' hview
      show Prog.attempt (k f) = Prog.attempt (k f')
      rw [h.1 f f' hview]
  | write w k ih => exact ⟨h.1, ih h.2⟩

theorem Hidden.attempt {p : Prog F E A} (h : p.Hidden view) :
    (attempt p : Prog F E' (Except E A)).Hidden view := by
  induction p with
  | done a => trivial
  | fail e => trivial
  | look k ih => exact fun f => ih f (h f)
  | write w k ih => exact ⟨h.1, ih h.2⟩

theorem within_inTurn {ps : List (Prog F E A)} (h : ∀ p ∈ ps, p.Within view) :
    (inTurn ps : Prog F E' _).Within view := by
  induction ps with
  | nil => trivial
  | cons p ps ih =>
      have hrest := ih (fun q hq => h q (List.mem_cons_of_mem p hq))
      exact (h p List.mem_cons_self).attempt.bind (fun answer => hrest.bind (fun answers => trivial))

theorem hidden_inTurn {ps : List (Prog F E A)} (h : ∀ p ∈ ps, p.Hidden view) :
    (inTurn ps : Prog F E' _).Hidden view := by
  induction ps with
  | nil => trivial
  | cons p ps ih =>
      have hrest := ih (fun q hq => h q (List.mem_cons_of_mem p hq))
      exact (h p List.mem_cons_self).attempt.bind (fun answer => hrest.bind (fun answers => trivial))

end

/-! ## Programs that add entries to a log -/

theorem filterMap_cons_toList {C T : Type} (leaves : C → Option T) (call : C) (calls : List C) :
    (call :: calls).filterMap leaves = (leaves call).toList ++ calls.filterMap leaves := by
  cases hleaves : leaves call with
  | none => rw [List.filterMap_cons_none hleaves, Option.toList_none, List.nil_append]
  | some t => rw [List.filterMap_cons_some hleaves, Option.toList_some, List.singleton_append]

/-- The program adds these entries to the log, one at a time, on media that satisfy `ok`, which it keeps so. -/
inductive Emits {T : Type} (ok : F → Prop) (log : F → List T) : List T → Prog F E A → Prop
  | done (a : A) : Emits ok log [] (.done a)
  | fail (e : E) : Emits ok log [] (.fail e)
  | look {ts : List T} {k : F → Prog F E A} (hk : ∀ f, ok f → Emits ok log ts (k f)) : Emits ok log ts (.look k)
  | silent {ts : List T} {w : F → F} {k : Prog F E A} (hok : ∀ f, ok f → ok (w f))
      (hlog : ∀ f, ok f → log (w f) = log f) (hk : Emits ok log ts k) : Emits ok log ts (.write w k)
  | entry {t : T} {ts : List T} {w : F → F} {k : Prog F E A} (hok : ∀ f, ok f → ok (w f))
      (hlog : ∀ f, ok f → log (w f) = log f ++ [t]) (hk : Emits ok log ts k) :
      Emits ok log (t :: ts) (.write w k)

section
variable {T : Type} {ok : F → Prop} {log : F → List T}

theorem Emits.attempt_bind {p : Prog F E A} {ts ts' : List T} {k : Except E A → Prog F E' B}
    (hp : p.Emits ok log ts) (hk : ∀ answer, (k answer).Emits ok log ts') :
    (bind (attempt p) k).Emits ok log (ts ++ ts') := by
  induction hp with
  | done a => exact hk (.ok a)
  | fail e => exact hk (.error e)
  | look hk' ih => exact .look ih
  | silent hok hlog hk' ih => exact .silent hok hlog ih
  | entry hok hlog hk' ih => exact .entry hok hlog ih

/-- A program hidden from a view that decides about `ok` and the log adds nothing. -/
theorem emits_of_hidden {view : F → V} {p : Prog F E A} (h : p.Hidden view)
    (hok : ∀ f f', view f' = view f → ok f → ok f') (hlog : ∀ f f', view f' = view f → log f' = log f) :
    p.Emits ok log [] := by
  induction p with
  | done a => exact .done a
  | fail e => exact .fail e
  | look k ih => exact .look (fun f _ => ih f (h f))
  | write w k ih =>
      refine .silent ?_ ?_ (ih h.2)
      · intro f hf
        exact hok f (w f) (h.1 f) hf
      · intro f _
        exact hlog f (w f) (h.1 f)

/-- What comes after the value adds nothing. -/
theorem Emits.map {p : Prog F E A} {ts : List T} (h : p.Emits ok log ts) (g : A → B) :
    (bind p (fun a => .done (g a))).Emits ok log ts := by
  induction h with
  | done a => exact .done (g a)
  | fail e => exact .fail e
  | look hk ih => exact .look ih
  | silent hok hlog hk ih => exact .silent hok hlog ih
  | entry hok hlog hk ih => exact .entry hok hlog ih

/-- One program after another adds all their entries. -/
theorem emits_inTurn {C : Type} {program : C → Prog F E A} {leaves : C → Option T} {calls : List C}
    (h : ∀ call ∈ calls, (program call).Emits ok log (leaves call).toList) :
    (inTurn (calls.map program) : Prog F E' _).Emits ok log (calls.filterMap leaves) := by
  induction calls with
  | nil => exact .done []
  | cons call calls ih =>
      have hrest := ih (fun later hlater => h later (List.mem_cons_of_mem call hlater))
      rw [filterMap_cons_toList]
      exact (h call List.mem_cons_self).attempt_bind (fun answer => hrest.map (fun answers => answer :: answers))

/-- A full run adds all the entries. -/
theorem Emits.run {p : Prog F E A} {ts : List T} (h : p.Emits ok log ts) {f : F} (hf : ok f) :
    ok (p.run f).1 ∧ log (p.run f).1 = log f ++ ts := by
  induction h generalizing f with
  | done a => exact ⟨hf, (List.append_nil _).symm⟩
  | fail e => exact ⟨hf, (List.append_nil _).symm⟩
  | look hk ih => exact ih f hf hf
  | @silent ts w k hok hlog hk ih =>
      obtain ⟨hrun, hadded⟩ := ih (hok f hf)
      exact ⟨hrun, hadded.trans (by rw [hlog f hf])⟩
  | @entry t ts w k hok hlog hk ih =>
      obtain ⟨hrun, hadded⟩ := ih (hok f hf)
      exact ⟨hrun, hadded.trans (by rw [hlog f hf, List.append_assoc, List.singleton_append])⟩

/-- **A turn** keeps the medium fit, and the log gets the next entry or none. -/
theorem Emits.turn {p : Prog F E A} {ts : List T} (h : p.Emits ok log ts) {f : F} (hf : ok f) :
    ok (p.turn f).2 ∧ ∃ now later, ts = now ++ later ∧ log (p.turn f).2 = log f ++ now
      ∧ (p.turn f).1.Emits ok log later := by
  cases h with
  | done a => exact ⟨hf, [], [], rfl, (List.append_nil _).symm, .done a⟩
  | fail e => exact ⟨hf, [], [], rfl, (List.append_nil _).symm, .fail e⟩
  | look hk => exact ⟨hf, [], ts, rfl, (List.append_nil _).symm, hk f hf⟩
  | silent hok hlog hk => exact ⟨hok f hf, [], ts, rfl, (hlog f hf).trans (List.append_nil _).symm, hk⟩
  | @entry t ts w k hok hlog hk => exact ⟨hok f hf, [t], ts, rfl, hlog f hf, hk⟩

/-- A program that is over adds nothing any more. -/
theorem Emits.of_answer {p : Prog F E A} {ts : List T} {answer : Except E A} (h : p.Emits ok log ts)
    (hanswer : p.answer? = some answer) : ts = [] := by
  cases h with
  | done a => rfl
  | fail e => rfl
  | look hk => cases hanswer
  | silent hok hlog hk => cases hanswer
  | entry hok hlog hk => cases hanswer

end

end Prog

/-! ## Under a schedule -/

section
variable {ι F V E A T : Type} [DecidableEq ι] {c : Shared ι (Prog F E A) F}

/-- Process `i` stays within the view, the others are hidden from it, and what is left of `i` comes to what the whole
    of it would have come to alone. -/
structure Undisturbed (view : F → V) (i : ι) (start now : Shared ι (Prog F E A) F) : Prop where
  within : (now.process i).Within view
  hidden : ∀ j, j ≠ i → (now.process j).Hidden view
  view_eq : view ((now.process i).run now.medium).1 = view ((start.process i).run start.medium).1
  answer_eq : ((now.process i).run now.medium).2 = ((start.process i).run start.medium).2

/-- A turn does not disturb. -/
theorem Undisturbed.turn {view : F → V} {i : ι} {now : Shared ι (Prog F E A) F} (h : Undisturbed view i c now)
    (j : ι) : Undisturbed view i c (now.turn (fun _ => Prog.turn) j) := by
  by_cases hj : j = i
  · -- the process itself moves on
    subst hj
    have hrun := Prog.run_turn (now.process j) now.medium
    refine ⟨?_, ?_, ?_, ?_⟩
    · rw [turn_process_self]
      exact h.within.turn _
    · intro k hk
      rw [turn_process_ne hk]
      exact h.hidden k hk
    · rw [turn_process_self, ← h.view_eq, ← hrun]
      rfl
    · rw [turn_process_self, ← h.answer_eq, ← hrun]
      rfl
  · -- another one writes what does not show
    have hkept : (now.turn (fun _ => Prog.turn) j).process i = now.process i :=
      turn_process_ne (fun h => hj h.symm)
    have hmedium : view (now.turn (fun _ => Prog.turn) j).medium = view now.medium :=
      ((h.hidden j hj).turn now.medium).2
    have hcongr := h.within.run_congr hmedium
    refine ⟨?_, ?_, ?_, ?_⟩
    · rw [hkept]
      exact h.within
    · intro k hk
      by_cases hkj : k = j
      · subst hkj
        rw [turn_process_self]
        exact ((h.hidden k hk).turn now.medium).1
      · rw [turn_process_ne hkj]
        exact h.hidden k hk
    · rw [hkept]
      exact hcongr.1.trans h.view_eq
    · rw [hkept]
      exact hcongr.2.trans h.answer_eq

/-- **Alone among the others.** A program within a view, the others hidden from it, comes under every schedule to
    the answer and the view it would have come to alone. -/
theorem interleave_alone {view : F → V} {i : ι} (hself : (c.process i).Within view)
    (hothers : ∀ j, j ≠ i → (c.process j).Hidden view) (schedule : List ι) {answer : Except E A}
    (hanswer : ((interleave (fun _ => Prog.turn) c schedule).process i).answer? = some answer) :
    view (interleave (fun _ => Prog.turn) c schedule).medium = view ((c.process i).run c.medium).1
      ∧ answer = ((c.process i).run c.medium).2 := by
  have hundisturbed : Undisturbed view i c (interleave (fun _ => Prog.turn) c schedule) :=
    interleave_invariant (Undisturbed view i c) (fun now j h => h.turn j) ⟨hself, hothers, rfl, rfl⟩ schedule
  obtain ⟨-, -, hview, hsame⟩ := hundisturbed
  rw [Prog.run_of_answer hanswer] at hview hsame
  exact ⟨hview, hsame⟩

/-- What one writer has left in a common log. -/
def ofWriter (i : ι) (entries : List (ι × T)) : List T :=
  entries.filterMap (fun entry => if entry.1 = i then some entry.2 else none)

@[simp] theorem ofWriter_nil (i : ι) : ofWriter i ([] : List (ι × T)) = [] := rfl

@[simp] theorem ofWriter_append (i : ι) (entries entries' : List (ι × T)) :
    ofWriter i (entries ++ entries') = ofWriter i entries ++ ofWriter i entries' := List.filterMap_append

theorem ofWriter_cons_self (i : ι) (t : T) (entries : List (ι × T)) :
    ofWriter i ((i, t) :: entries) = t :: ofWriter i entries := List.filterMap_cons_some (if_pos rfl)

theorem ofWriter_cons_ne {i j : ι} (h : j ≠ i) (t : T) (entries : List (ι × T)) :
    ofWriter i ((j, t) :: entries) = ofWriter i entries := List.filterMap_cons_none (if_neg h)

theorem mem_ofWriter {i : ι} {t : T} {entries : List (ι × T)} : t ∈ ofWriter i entries ↔ (i, t) ∈ entries := by
  unfold ofWriter
  rw [List.mem_filterMap]
  constructor
  · rintro ⟨⟨j, t'⟩, hmem, hentry⟩
    split_ifs at hentry with hj
    obtain rfl : j = i := hj
    obtain rfl := Option.some.inj hentry
    exact hmem
  · intro hmem
    exact ⟨(i, t), hmem, if_pos rfl⟩

theorem ofWriter_tagged_self (i : ι) (ts : List T) : ofWriter i (ts.map (Prod.mk i)) = ts := by
  induction ts with
  | nil => rfl
  | cons t ts ih => rw [List.map_cons, ofWriter_cons_self, ih]

theorem ofWriter_tagged_ne {i j : ι} (h : j ≠ i) (ts : List T) : ofWriter i (ts.map (Prod.mk j)) = [] := by
  induction ts with
  | nil => rfl
  | cons t ts ih => rw [List.map_cons, ofWriter_cons_ne h, ih]

/-- The log has grown by these entries of the writers, those of each in its order, and each still has the rest of
    its entries to add. -/
structure Logged (ok : F → Prop) (log : F → List T) (entries : ι → List T) (start : F)
    (now : Shared ι (Prog F E A) F) (added : List (ι × T)) : Prop where
  fit : ok now.medium
  log_eq : log now.medium = log start ++ added.map Prod.snd
  rest : ∀ i, ∃ later, entries i = ofWriter i added ++ later ∧ (now.process i).Emits ok log later

/-- A turn adds the next entry of its writer, or none. -/
theorem Logged.turn {ok : F → Prop} {log : F → List T} {entries : ι → List T} {start : F}
    {now : Shared ι (Prog F E A) F} {added : List (ι × T)} (h : Logged ok log entries start now added) (j : ι) :
    ∃ first : List T,
      Logged ok log entries start (now.turn (fun _ => Prog.turn) j) (added ++ first.map (Prod.mk j)) := by
  obtain ⟨ahead, hahead, hj⟩ := h.rest j
  obtain ⟨hnext, first, later, hsplit, hadds, hrest⟩ := hj.turn h.fit
  refine ⟨first, hnext, ?_, fun i => ?_⟩
  · have htags : (first.map (Prod.mk j)).map Prod.snd = first := by
      rw [List.map_map]
      exact List.map_id first
    show log ((now.process j).turn now.medium).2 = _
    rw [hadds, h.log_eq, List.map_append, htags, List.append_assoc]
  · by_cases hi : i = j
    · subst hi
      refine ⟨later, ?_, by rw [turn_process_self]; exact hrest⟩
      rw [ofWriter_append, ofWriter_tagged_self, List.append_assoc, ← hsplit, hahead]
    · obtain ⟨later', hlater', hi'⟩ := h.rest i
      refine ⟨later', ?_, by rw [turn_process_ne hi]; exact hi'⟩
      rw [ofWriter_append, ofWriter_tagged_ne (fun h => hi h.symm), List.append_nil, hlater']

/-- **Nothing lost, nothing twice**, under every schedule. -/
theorem interleave_emits {ok : F → Prop} {log : F → List T} {entries : ι → List T} (hok : ok c.medium)
    (hemits : ∀ i, (c.process i).Emits ok log (entries i)) (schedule : List ι) :
    ∃ added, Logged ok log entries c.medium (interleave (fun _ => Prog.turn) c schedule) added := by
  apply interleave_invariant (fun now => ∃ added, Logged ok log entries c.medium now added)
  · rintro now j ⟨added, h⟩
    obtain ⟨first, hnext⟩ := h.turn j
    exact ⟨_, hnext⟩
  · exact ⟨[], hok, (List.append_nil _).symm, fun i => ⟨entries i, rfl, hemits i⟩⟩

/-- **Filling up.** Calls of several writers, of which only those of one writer may leave no entry, can be put into
    one order that keeps each writer's calls in theirs and leaves exactly the entries of a given log. -/
theorem exists_order {C : Type} (leaves : C → Option T) (w : ι) (entries : List (ι × T)) (calls : ι → List C)
    (hothers : ∀ i, i ≠ w → ∀ call ∈ calls i, leaves call ≠ none)
    (hentries : ∀ i, ofWriter i entries = (calls i).filterMap leaves) :
    ∃ order : List (ι × C), (∀ i, ofWriter i order = calls i)
      ∧ order.filterMap (fun call => (leaves call.2).map (Prod.mk call.1)) = entries := by
  induction entries generalizing calls with
  | nil =>
      -- only the one writer has calls left, and they leave nothing
      have hnone : ∀ i, ∀ call ∈ calls i, leaves call = none := by
        intro i
        exact List.filterMap_eq_nil_iff.mp (hentries i).symm
      refine ⟨(calls w).map (Prod.mk w), fun i => ?_, ?_⟩
      · by_cases hi : i = w
        · rw [hi, ofWriter_tagged_self]
        · rw [ofWriter_tagged_ne (fun h => hi h.symm)]
          cases hcalls : calls i with
          | nil => rfl
          | cons call rest =>
              have hmem : call ∈ calls i := hcalls ▸ List.mem_cons_self
              exact absurd (hnone i call hmem) (hothers i hi call hmem)
      · rw [List.filterMap_map]
        apply List.filterMap_eq_nil_iff.mpr
        intro call hcall
        rw [Function.comp_apply, hnone w call hcall]
        rfl
  | cons entry entries ih =>
      obtain ⟨i, t⟩ := entry
      -- the writer of the entry goes on up to the call that leaves it
      have hleaves : (calls i).filterMap leaves = t :: ofWriter i entries := by
        rw [← hentries i, ofWriter_cons_self]
      obtain ⟨before, call, after, hsplit, hbefore, hcall, hafter⟩ := List.filterMap_eq_cons_iff.mp hleaves
      have hothers' : ∀ j, j ≠ w → ∀ call' ∈ Function.update calls i after j, leaves call' ≠ none := by
        intro j hj call' hmem
        by_cases hji : j = i
        · subst hji
          rw [Function.update_self] at hmem
          refine hothers j hj call' ?_
          rw [hsplit]
          exact List.mem_append_right _ (List.mem_cons_of_mem _ hmem)
        · rw [Function.update_of_ne hji] at hmem
          exact hothers j hj call' hmem
      have hentries' : ∀ j, ofWriter j entries = (Function.update calls i after j).filterMap leaves := by
        intro j
        by_cases hji : j = i
        · subst hji
          rw [Function.update_self, hafter]
        · rw [Function.update_of_ne hji, ← hentries j, ofWriter_cons_ne (fun h => hji h.symm)]
      obtain ⟨order, horder, hleft⟩ := ih (Function.update calls i after) hothers' hentries'
      refine ⟨before.map (Prod.mk i) ++ (i, call) :: order, fun j => ?_, ?_⟩
      · by_cases hj : j = i
        · subst hj
          rw [ofWriter_append, ofWriter_tagged_self, ofWriter_cons_self, horder, Function.update_self, hsplit]
        · have hij : i ≠ j := fun h => hj h.symm
          rw [ofWriter_append, ofWriter_tagged_ne hij, ofWriter_cons_ne hij, horder, Function.update_of_ne hj,
            List.nil_append]
      · have hquiet : (before.map (Prod.mk i)).filterMap
            (fun call => (leaves call.2).map (Prod.mk call.1)) = [] := by
          rw [List.filterMap_map]
          apply List.filterMap_eq_nil_iff.mpr
          intro call hmem
          rw [Function.comp_apply, hbefore call hmem]
          rfl
        rw [List.filterMap_append, hquiet, List.nil_append, List.filterMap_cons, hleft]
        simp only [hcall, Option.map_some]

end
end Lib
