import Mathlib.Data.List.Perm.Basic

/-!
# `Lib.Cells` — machines made of independent cells

A machine takes inputs one after the other, answers each and moves its state. It is **cellwise** when its state is
a family of cells, one for each key, and a step reads and writes only the cell of its input's key. Such a machine
is many machines that do not interfere: what it answers to the inputs of one key does not depend on the rest of
the traffic (`CellWise.trace_filter`), and inputs of different keys may be taken in any order
(`CellWise.trace_reorder`, `CellWise.trace_perm`).
Whatever the cells, inputs that leave the state as it was may be left out (`trace_prune`), and inputs that change
nothing when they are taken again may be repeated (`finalState_repeat`).
-/

namespace Lib

variable {σ ι ο κ γ : Type}

/-- The answers to a sequence of inputs, each beside its input. -/
def trace (step : σ → ι → ο × σ) : σ → List ι → List (ι × ο)
  | _, [] => []
  | s, i :: is => (i, (step s i).1) :: trace step (step s i).2 is

/-- The state after a sequence of inputs. -/
def finalState (step : σ → ι → ο × σ) : σ → List ι → σ
  | s, [] => s
  | s, i :: is => finalState step (step s i).2 is

/-- **Cellwise machines.** -/
structure CellWise (step : σ → ι → ο × σ) (key : ι → κ) (cell : σ → κ → γ) : Prop where
  answer : ∀ s t i, cell s (key i) = cell t (key i) → (step s i).1 = (step t i).1
  write : ∀ s t i, cell s (key i) = cell t (key i) → cell (step s i).2 (key i) = cell (step t i).2 (key i)
  frame : ∀ s i k, k ≠ key i → cell (step s i).2 k = cell s k

section
variable {step : σ → ι → ο × σ} {key : ι → κ} {cell : σ → κ → γ} {s t : σ}

variable [DecidableEq κ]

/-- **Projection.** What a machine answers to the inputs of one key is what it answers to them alone, from any
    state with the same cell. -/
theorem CellWise.trace_filter (h : CellWise step key cell) {k : κ} (hst : cell s k = cell t k) (is : List ι) :
    (trace step s is).filter (fun e => key e.1 = k) = trace step t (is.filter (fun i => key i = k)) := by
  induction is generalizing s t with
  | nil => rfl
  | cons i is ih =>
      rw [trace]
      by_cases hk : key i = k
      · -- an input of the key is answered alike, and both states move on
        subst hk
        rw [List.filter_cons_of_pos (by simp), List.filter_cons_of_pos (by simp), trace, h.answer s t i hst,
          ih (h.write s t i hst)]
      · -- any other input leaves the cell alone
        rw [List.filter_cons_of_neg (by simpa using hk), List.filter_cons_of_neg (by simpa using hk)]
        exact ih ((h.frame s i k (Ne.symm hk)).trans hst)

/-- Swapping two neighbours of different keys changes the inputs of no key. -/
theorem filter_key_swap {a b : ι} (hne : key a ≠ key b) (before after : List ι) (k : κ) :
    (before ++ a :: b :: after).filter (fun i => key i = k)
      = (before ++ b :: a :: after).filter (fun i => key i = k) := by
  rw [List.filter_append, List.filter_append]
  by_cases ha : key a = k
  · have hb : key b ≠ k := fun hb => hne (ha.trans hb.symm)
    simp [ha, hb]
  · simp [ha, List.filter_cons]

/-- Sequences with the same inputs for every key are answered alike, key by key. -/
theorem CellWise.trace_reorder (h : CellWise step key cell) {is js : List ι}
    (hsame : ∀ k, is.filter (fun i => key i = k) = js.filter (fun i => key i = k)) (k : κ) :
    (trace step s is).filter (fun e => key e.1 = k) = (trace step s js).filter (fun e => key e.1 = k) := by
  rw [h.trace_filter (s := s) (t := s) rfl, h.trace_filter (s := s) (t := s) rfl, hsame k]

/-- The keys partition a sequence: one with the same entries for every key is a permutation of it. -/
theorem perm_of_filter_key (key : ι → κ) {as bs : List ι}
    (hsame : ∀ k, as.filter (fun a => key a = k) = bs.filter (fun a => key a = k)) : as.Perm bs := by
  classical
  rw [List.perm_iff_count]
  intro a
  have hcount : ∀ cs : List ι, cs.count a = (cs.filter (fun c => key c = key a)).count a := by
    intro cs
    rw [List.count_filter (by simp)]
  rw [hcount as, hcount bs, hsame (key a)]

/-- **Reordering.** The answers are then the same ones, each beside its input. -/
theorem CellWise.trace_perm (h : CellWise step key cell) {is js : List ι}
    (hsame : ∀ k, is.filter (fun i => key i = k) = js.filter (fun i => key i = k)) :
    (trace step s is).Perm (trace step s js) :=
  perm_of_filter_key (fun e => key e.1) (h.trace_reorder hsame)

/-- The cell of a key holds what the inputs of the key alone make of it. -/
theorem CellWise.finalState_filter (h : CellWise step key cell) {k : κ} (hst : cell s k = cell t k) (is : List ι) :
    cell (finalState step s is) k = cell (finalState step t (is.filter (fun i => key i = k))) k := by
  induction is generalizing s t with
  | nil => exact hst
  | cons i is ih =>
      by_cases hk : key i = k
      · subst hk
        rw [List.filter_cons_of_pos (by simp), finalState, finalState]
        exact ih (h.write s t i hst)
      · rw [List.filter_cons_of_neg (by simpa using hk), finalState]
        exact ih ((h.frame s i k (Ne.symm hk)).trans hst)

end

/-! ## Inputs that may be left out or repeated -/

section
variable {step : σ → ι → ο × σ} {s : σ}

/-- **Pruning.** If the inputs that do not count leave the state as it was, those that count are answered alike
    without them, and lead to the same state. -/
theorem trace_prune (inv : σ → Prop) {counts : ι × ο → Bool} (hkeeps : ∀ s i, inv s → inv (step s i).2)
    (hidle : ∀ s i, inv s → counts (i, (step s i).1) = false → (step s i).2 = s) (hs : inv s) (is : List ι) :
    trace step s (((trace step s is).filter counts).map Prod.fst) = (trace step s is).filter counts
      ∧ finalState step s (((trace step s is).filter counts).map Prod.fst) = finalState step s is := by
  induction is generalizing s with
  | nil => exact ⟨rfl, rfl⟩
  | cons i is ih =>
      rw [trace, finalState]
      cases hcounts : counts (i, (step s i).1) with
      | true =>
          rw [List.filter_cons_of_pos hcounts, List.map_cons, trace, finalState]
          obtain ⟨htrace, hfinal⟩ := ih (hkeeps s i hs)
          exact ⟨by rw [htrace], hfinal⟩
      | false =>
          rw [List.filter_cons_of_neg (by simp [hcounts]), hidle s i hs hcounts]
          exact ih hs

/-- **Repeating.** Inputs that change nothing when they are taken again may be taken any number of times. -/
theorem finalState_repeat (inv : σ → Prop) (again : ι → Prop) (hkeeps : ∀ s i, inv s → inv (step s i).2)
    (hagain : ∀ s i, inv s → again i → (step (step s i).2 i).2 = (step s i).2) (hs : inv s)
    (times : List (ι × Nat)) (htimes : ∀ e ∈ times, e.2 = 0 ∨ again e.1) :
    finalState step s (times.flatMap (fun e => List.replicate (e.2 + 1) e.1))
      = finalState step s (times.map Prod.fst) := by
  induction times generalizing s with
  | nil => rfl
  | cons e times ih =>
      obtain ⟨i, n⟩ := e
      have hrest : ∀ e ∈ times, e.2 = 0 ∨ again e.1 := fun e he => htimes e (List.mem_cons_of_mem _ he)
      -- taken again, the input is lost on the state
      have hsame : ∀ m, m = 0 ∨ again i → ∀ is,
          finalState step (step s i).2 (List.replicate m i ++ is) = finalState step (step s i).2 is := by
        intro m
        induction m with
        | zero => exact fun _ is => rfl
        | succ m ihm =>
            intro hm is
            rcases hm with hm | hm
            · cases hm
            · rw [List.replicate_succ, List.cons_append, finalState, hagain s i hs hm]
              exact ihm (.inr hm) is
      rw [List.flatMap_cons, List.map_cons, List.replicate_succ, List.cons_append, finalState, finalState,
        hsame n (htimes (i, n) List.mem_cons_self)]
      exact ih (hkeeps s i hs) hrest

end

end Lib
