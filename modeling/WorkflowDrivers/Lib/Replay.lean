import Mathlib.Data.List.DropRight
import Mathlib.Logic.Function.Basic

/-!
# `Lib.Replay` — folding a fallible step over a log

A deterministic system with state `σ` is driven by decisions `δ`, each of which it applies or rejects.
`replay` folds the step over a whole log and stops at the first rejection. Everything proved about runs
goes through five rules: how a replay splits (`replay_append`), how it grows by one decision
(`replay_concat`), what a single decision of it does (`replay_middle`), what one step preserves a whole replay
preserves (`replay_invariant`), and the same with a side condition on the decisions (`replay_invariant_of`).

A field of the state whose update has one of four forms is read off the log without running it: it is never
touched (`replay_unchanged`), it gathers what the decisions bring (`replay_gather`), it holds the last value
written (`replay_lastWrite`), or it counts since it was last reset (`replay_countSince`).
-/

namespace Lib

variable {σ δ ε : Type}

/-- A sequence of fallible steps succeeds exactly when each of them does. -/
theorem bind_eq_ok {α β : Type} {x : Except ε α} {f : α → Except ε β} {b : β} :
    (x >>= f) = .ok b ↔ ∃ a, x = .ok a ∧ f a = .ok b := by
  cases x with
  | error e => simp [bind, Except.bind]
  | ok a => simp [bind, Except.bind]

/-- A check in front of a computation succeeds exactly when it does not apply and the computation succeeds. -/
theorem guard_eq_ok {α : Type} {p : Prop} [Decidable p] {e : ε} {x : Except ε α} {a : α} :
    (if p then .error e else x) = .ok a ↔ ¬p ∧ x = .ok a := by
  by_cases hp : p
  · simp [hp]
  · simp [hp]

/-- Apply the decisions of a log in order; the first rejection rejects the log. -/
def replay (step : σ → δ → Except ε σ) : σ → List δ → Except ε σ
  | s, [] => .ok s
  | s, d :: ds =>
      match step s d with
      | .ok s' => replay step s' ds
      | .error e => .error e

section
variable {step : σ → δ → Except ε σ}

@[simp] theorem replay_nil (s : σ) : replay step s [] = .ok s := rfl

/-- A nonempty log is accepted when its first decision is and the rest is from there. -/
theorem replay_cons_ok {s t : σ} {d : δ} {ds : List δ} :
    replay step s (d :: ds) = .ok t ↔ ∃ m, step s d = .ok m ∧ replay step m ds = .ok t := by
  rw [replay]
  cases step s d with
  | ok m => simp
  | error e => simp

/-- **Splitting.** A log is accepted exactly when its first part is and the rest is from there. -/
theorem replay_append {s t : σ} {as bs : List δ} :
    replay step s (as ++ bs) = .ok t ↔ ∃ m, replay step s as = .ok m ∧ replay step m bs = .ok t := by
  induction as generalizing s with
  | nil => simp
  | cons a as ih =>
      rw [List.cons_append, replay_cons_ok]
      constructor
      · rintro ⟨m, hm, hrest⟩
        obtain ⟨n, hn, ht⟩ := ih.mp hrest
        exact ⟨n, replay_cons_ok.mpr ⟨m, hm, hn⟩, ht⟩
      · rintro ⟨n, hn, ht⟩
        obtain ⟨m, hm, hrest⟩ := replay_cons_ok.mp hn
        exact ⟨m, hm, ih.mpr ⟨n, hrest, ht⟩⟩

/-- **Growth by one decision.** -/
theorem replay_concat {s t : σ} {as : List δ} {d : δ} :
    replay step s (as ++ [d]) = .ok t ↔ ∃ m, replay step s as = .ok m ∧ step m d = .ok t := by
  rw [replay_append]
  constructor
  · rintro ⟨m, hm, hd⟩
    obtain ⟨n, hn, hnil⟩ := replay_cons_ok.mp hd
    obtain rfl : n = t := Except.ok.inj hnil
    exact ⟨m, hm, hn⟩
  · rintro ⟨m, hm, hd⟩
    exact ⟨m, hm, replay_cons_ok.mpr ⟨t, hd, rfl⟩⟩

/-- **A step in the middle.** Each decision of an accepted log takes the state its predecessors lead to, to one
    from which its successors are accepted. -/
theorem replay_middle {s t : σ} {before after : List δ} {d : δ} :
    replay step s (before ++ d :: after) = .ok t ↔
      ∃ m n, replay step s before = .ok m ∧ step m d = .ok n ∧ replay step n after = .ok t := by
  rw [replay_append]
  constructor
  · rintro ⟨m, hm, hrest⟩
    obtain ⟨n, hn, ht⟩ := replay_cons_ok.mp hrest
    exact ⟨m, n, hm, hn, ht⟩
  · rintro ⟨m, n, hm, hn, ht⟩
    exact ⟨m, hm, replay_cons_ok.mpr ⟨n, hn, ht⟩⟩

/-- **Invariant rule with a side condition.** What every accepted step by a good decision preserves, an
    accepted replay of good decisions preserves. -/
theorem replay_invariant_of {inv : σ → Prop} {good : δ → Prop}
    (hstep : ∀ s d s', inv s → good d → step s d = .ok s' → inv s') {s t : σ} {ds : List δ}
    (hs : inv s) (hds : ∀ d ∈ ds, good d) (h : replay step s ds = .ok t) : inv t := by
  induction ds generalizing s with
  | nil => exact Except.ok.inj h ▸ hs
  | cons d ds ih =>
      obtain ⟨m, hm, hrest⟩ := replay_cons_ok.mp h
      have hinv : inv m := hstep s d m hs (hds d List.mem_cons_self) hm
      exact ih hinv (fun e he => hds e (List.mem_cons_of_mem _ he)) hrest

/-- **Invariant rule.** -/
theorem replay_invariant {inv : σ → Prop} (hstep : ∀ s d s', inv s → step s d = .ok s' → inv s')
    {s t : σ} {ds : List δ} (hs : inv s) (h : replay step s ds = .ok t) : inv t :=
  have hgood : ∀ d ∈ ds, (fun _ : δ => True) d := fun _ _ => trivial
  replay_invariant_of (fun s d s' hi _ => hstep s d s' hi) hs hgood h

/-! ## Closed forms -/

/-- A field no step touches. -/
theorem replay_unchanged {β : Type} {f : σ → β} (hstep : ∀ s d s', step s d = .ok s' → f s' = f s) {s t : σ}
    {ds : List δ} (h : replay step s ds = .ok t) : f t = f s :=
  replay_invariant (fun u d u' hu hd => (hstep u d u' hd).trans hu) rfl h

/-- A field that gathers what each decision brings. -/
theorem replay_gather {β : Type} {f : σ → List β} {g : δ → List β}
    (hstep : ∀ s d s', step s d = .ok s' → f s' = f s ++ g d) {s t : σ} {ds : List δ}
    (h : replay step s ds = .ok t) : f t = f s ++ ds.flatMap g := by
  induction ds generalizing s with
  | nil =>
      obtain rfl := Except.ok.inj h
      exact (List.append_nil _).symm
  | cons d ds ih =>
      obtain ⟨m, hm, hrest⟩ := replay_cons_ok.mp h
      rw [ih hrest, hstep s d m hm, List.flatMap_cons, List.append_assoc]

/-- A field some decisions write, each from what it brings: the last one counts, or else the initial value. -/
theorem replay_lastWrite {β γ : Type} (f : σ → β) (write : δ → Option γ) (g : γ → β)
    (hstep : ∀ s d s', step s d = .ok s' → f s' = (write d).elim (f s) g) {s t : σ} {ds : List δ}
    (h : replay step s ds = .ok t) : f t = (ds.filterMap write).getLast?.elim (f s) g := by
  induction ds generalizing s with
  | nil =>
      obtain rfl := Except.ok.inj h
      rfl
  | cons d ds ih =>
      obtain ⟨m, hm, hrest⟩ := replay_cons_ok.mp h
      rw [ih hrest, hstep s d m hm]
      cases hwrite : write d with
      | none => rw [List.filterMap_cons_none hwrite, Option.elim_none]
      | some c =>
          rw [List.filterMap_cons_some hwrite, List.getLast?_cons]
          cases (ds.filterMap write).getLast? <;> rfl

/-- A counter some decisions reset and some raise: the raises since the last reset, on top of the initial count
    if there was none. -/
theorem replay_countSince (f : σ → Int) (reset raises : δ → Bool)
    (hstep : ∀ s d s', step s d = .ok s' → f s' = if reset d then 0 else if raises d then f s + 1 else f s)
    {s t : σ} {ds : List δ} (h : replay step s ds = .ok t) :
    f t = (if ds.any reset then 0 else f s) + ((ds.rtakeWhile (fun d => !reset d)).countP raises : Nat) := by
  induction ds using List.reverseRecOn generalizing t with
  | nil =>
      obtain rfl := Except.ok.inj h
      exact (Int.add_zero _).symm
  | append_singleton ds d ih =>
      obtain ⟨m, hm, hd⟩ := replay_concat.mp h
      rw [hstep m d t hd, List.rtakeWhile_concat, List.any_append]
      by_cases hreset : reset d = true
      · simp [hreset]
      · rw [ih hm]
        by_cases hraises : raises d = true
        · simp [hreset, hraises, Int.add_assoc]
        · simp [hreset, hraises]

end

end Lib
