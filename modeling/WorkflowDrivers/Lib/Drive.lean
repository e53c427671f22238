import Mathlib.Data.List.Forall2
import WorkflowDrivers.Lib.Replay

/-!
# `Lib.Drive` — machines that are driven by events

A deterministic machine need not know its log in advance: on each event someone decides what to do in the state the
machine is in, and the decision is applied. `Driven` is such a run, with its events and its decisions side by side.
The decisions alone are a log that replays to the same state (`Driven.replay`), so what drove the machine can be
forgotten once its decisions are kept.

Runs are reasoned about by five rules: they split where their events split (`driven_append`), what a decided step
preserves they preserve (`Driven.invariant`), a rank that no step raises and that counted steps lower bounds the
counted steps (`Driven.ranked`), a rank that every good event lowers runs out (`Driven.progress`), and a list of
milestones that each step extends by at most its own mark is found in order among the marks (`Driven.milestones`).
Two machines of which one can match each decision of the other have runs side by side (`Driven.simulated`).

Where the decision is a fallible function of state and event, the run is a replay itself, of the events
(`replay_decidedStep`).
-/

namespace Lib

variable {σ δ ε ι : Type}

/-- **A driven run**: each decision is one that its event calls for in the state its predecessors lead to. -/
inductive Driven (decides : σ → ι → δ → Prop) (step : σ → δ → Except ε σ) : σ → List ι → List δ → σ → Prop
  | nil (s : σ) : Driven decides step s [] [] s
  | cons {s m t : σ} {i : ι} {is : List ι} {d : δ} {ds : List δ} (hdecided : decides s i d)
      (hstep : step s d = .ok m) (hrest : Driven decides step m is ds t) :
      Driven decides step s (i :: is) (d :: ds) t

section
variable {decides : σ → ι → δ → Prop} {step : σ → δ → Except ε σ} {s t : σ} {is : List ι} {ds : List δ}

/-- **The decisions of a run are a log of it.** -/
theorem Driven.replay (h : Driven decides step s is ds t) : replay step s ds = .ok t := by
  induction h with
  | nil s => rfl
  | cons hdecided hstep hrest ih => exact replay_cons_ok.mpr ⟨_, hstep, ih⟩

/-- A run is one of everybody who would decide so, too. -/
theorem Driven.mono {decides' : σ → ι → δ → Prop} (h : Driven decides step s is ds t)
    (hmono : ∀ s i d, decides s i d → decides' s i d) : Driven decides' step s is ds t := by
  induction h with
  | nil s => exact .nil s
  | cons hdecided hstep hrest ih => exact .cons (hmono _ _ _ hdecided) hstep ih

/-- Every event has its decision. -/
theorem Driven.length_eq (h : Driven decides step s is ds t) : ds.length = is.length := by
  induction h with
  | nil s => rfl
  | cons hdecided hstep hrest ih => rw [List.length_cons, List.length_cons, ih]

/-- **Splitting.** A run over two lists of events is a run over the first one, continued over the second. -/
theorem driven_append {as bs : List ι} : Driven decides step s (as ++ bs) ds t ↔
    ∃ first second m, ds = first ++ second ∧ Driven decides step s as first m
      ∧ Driven decides step m bs second t := by
  induction as generalizing s ds with
  | nil =>
      constructor
      · intro h
        exact ⟨[], ds, s, rfl, .nil s, h⟩
      · rintro ⟨first, second, m, rfl, hfirst, hsecond⟩
        cases hfirst
        exact hsecond
  | cons a as ih =>
      constructor
      · intro h
        cases h with
        | cons hdecided hstep hrest =>
            obtain ⟨first, second, n, rfl, hfirst, hsecond⟩ := ih.mp hrest
            exact ⟨_ :: first, second, n, rfl, .cons hdecided hstep hfirst, hsecond⟩
      · rintro ⟨first, second, m, rfl, hfirst, hsecond⟩
        cases hfirst with
        | cons hdecided hstep hrest =>
            exact .cons hdecided hstep (ih.mpr ⟨_, second, m, rfl, hrest, hsecond⟩)

/-- A function decides one run only. -/
theorem Driven.unique {α : Type} {decide : σ → ι → Except α δ} {ds' : List δ} {t' : σ}
    (h : Driven (fun s i d => decide s i = .ok d) step s is ds t)
    (h' : Driven (fun s i d => decide s i = .ok d) step s is ds' t') : ds = ds' ∧ t = t' := by
  induction h generalizing ds' with
  | nil s =>
      cases h'
      exact ⟨rfl, rfl⟩
  | cons hdecided hstep hrest ih =>
      cases h' with
      | cons hdecided' hstep' hrest' =>
          obtain rfl := Except.ok.inj (hdecided.symm.trans hdecided')
          obtain rfl := Except.ok.inj (hstep.symm.trans hstep')
          obtain ⟨rfl, rfl⟩ := ih hrest'
          exact ⟨rfl, rfl⟩

/-- **Invariant rule.** -/
theorem Driven.invariant (inv : σ → Prop)
    (hkeeps : ∀ s i d m, inv s → decides s i d → step s d = .ok m → inv m)
    (h : Driven decides step s is ds t) (hs : inv s) : inv t := by
  induction h with
  | nil s => exact hs
  | cons hdecided hstep hrest ih => exact ih (hkeeps _ _ _ _ hs hdecided hstep)

/-- Every decision of a run was made in a state that satisfies the invariant, on one of the events. -/
theorem Driven.decided {inv : σ → Prop} {good : ι → Prop}
    (hkeeps : ∀ s i d m, inv s → good i → decides s i d → step s d = .ok m → inv m)
    (h : Driven decides step s is ds t) (hs : inv s) (hgood : ∀ i ∈ is, good i) :
    ∀ d ∈ ds, ∃ s i, inv s ∧ good i ∧ decides s i d := by
  induction h with
  | nil s => exact fun d hd => absurd hd List.not_mem_nil
  | @cons s m t i is d ds hdecided hstep hrest ih =>
      have hi : good i := hgood i List.mem_cons_self
      intro e he
      rcases List.mem_cons.mp he with rfl | hlater
      · exact ⟨s, i, hs, hi, hdecided⟩
      · exact ih (hkeeps s i d m hs hi hdecided hstep) (fun j hj => hgood j (List.mem_cons_of_mem _ hj)) e hlater

/-- **Ranking rule.** If a step raises the rank only where it refills it, by at most `k`, and each counted step lowers
    it by one beside that, then the counted steps of a run are at most the rank it started with and `k` for each
    refill. -/
theorem Driven.ranked {inv : σ → Prop} (rank : σ → Nat) (counted refills : δ → Bool) (k : Nat)
    (hkeeps : ∀ s i d m, inv s → decides s i d → step s d = .ok m →
      inv m ∧ rank m + (if counted d then 1 else 0) ≤ rank s + (if refills d then k else 0))
    (h : Driven decides step s is ds t) (hs : inv s) :
    rank t + ds.countP counted ≤ rank s + k * ds.countP refills := by
  induction h with
  | nil s => exact Nat.le_refl _
  | @cons s m t i is d ds hdecided hstep hrest ih =>
      obtain ⟨hm, hrank⟩ := hkeeps _ _ _ _ hs hdecided hstep
      have hrun := ih hm
      have hrefill : k * (d :: ds).countP refills = k * ds.countP refills + (if refills d then k else 0) := by
        rw [List.countP_cons, Nat.mul_add]
        cases refills d <;> simp
      rw [hrefill, List.countP_cons]
      omega

/-- **Progress rule.** If every good event lowers a positive rank by one and keeps rank zero, a run of good events
    lowers the rank by their number. -/
theorem Driven.progress {inv : σ → Prop} {good : ι → Prop} (rank : σ → Nat)
    (hkeeps : ∀ s i d m, inv s → good i → decides s i d → step s d = .ok m → inv m ∧ rank m = rank s - 1)
    (h : Driven decides step s is ds t) (hs : inv s) (hgood : ∀ i ∈ is, good i) :
    inv t ∧ rank t = rank s - is.length := by
  induction h with
  | nil s => exact ⟨hs, rfl⟩
  | @cons s m t i is d ds hdecided hstep hrest ih =>
      obtain ⟨hm, hrank⟩ := hkeeps _ _ _ _ hs (hgood i List.mem_cons_self) hdecided hstep
      obtain ⟨ht, hrun⟩ := ih hm (fun j hj => hgood j (List.mem_cons_of_mem _ hj))
      refine ⟨ht, ?_⟩
      rw [List.length_cons]
      omega

/-- **Milestone rule.** If a step leaves only milestones that were there before it, or these and its own mark, then
    the milestones of the last state are marks of the run, in their order. -/
theorem Driven.milestones {μ : Type} {inv : σ → Prop} (milestones : σ → List μ) (mark : δ → Option μ)
    (hkeeps : ∀ s i d m, inv s → decides s i d → step s d = .ok m →
      inv m ∧ (milestones m).Sublist (milestones s ++ (mark d).toList))
    (h : Driven decides step s is ds t) (hs : inv s) :
    (milestones t).Sublist (milestones s ++ ds.filterMap mark) := by
  induction h with
  | nil s => exact List.sublist_append_left _ _
  | @cons s m t i is d ds hdecided hstep hrest ih =>
      obtain ⟨hm, hmarks⟩ := hkeeps _ _ _ _ hs hdecided hstep
      have hstart : (milestones m ++ ds.filterMap mark).Sublist
          (milestones s ++ (mark d).toList ++ ds.filterMap mark) := List.Sublist.append_right hmarks _
      have hmarked : (d :: ds).filterMap mark = (mark d).toList ++ ds.filterMap mark := by
        cases hmark : mark d with
        | none => rw [List.filterMap_cons_none hmark, Option.toList_none, List.nil_append]
        | some x => rw [List.filterMap_cons_some hmark, Option.toList_some, List.singleton_append]
      rw [hmarked, ← List.append_assoc]
      exact (ih hm).trans hstart

end

/-! ## Two machines side by side -/

/-- **Simulation rule.** If on alike states and events one machine can match every good decision of the other, it can
    match every run of good decisions. -/
theorem Driven.simulated {σ' δ' ε' ι' : Type} {decides : σ → ι → δ → Prop} {step : σ → δ → Except ε σ}
    {decides' : σ' → ι' → δ' → Prop} {step' : σ' → δ' → Except ε' σ'} {state : σ → σ' → Prop} {event : ι → ι' → Prop}
    {decision : δ → δ' → Prop} {good : δ → Prop}
    (hmatch : ∀ s i d m s' i', state s s' → event i i' → good d → decides s i d → step s d = .ok m →
      ∃ d' m', decides' s' i' d' ∧ step' s' d' = .ok m' ∧ decision d d' ∧ state m m')
    {s t : σ} {is : List ι} {ds : List δ} (h : Driven decides step s is ds t) (hgood : ∀ d ∈ ds, good d) {s' : σ'}
    {is' : List ι'} (hs : state s s') (his : List.Forall₂ event is is') :
    ∃ ds' t', Driven decides' step' s' is' ds' t' ∧ List.Forall₂ decision ds ds' ∧ state t t' := by
  induction h generalizing s' is' with
  | nil s =>
      cases his
      exact ⟨[], s', .nil s', .nil, hs⟩
  | @cons s m t i is d ds hdecided hstep hrest ih =>
      cases his with
      | cons hi his =>
          obtain ⟨d', m', hdecided', hstep', hd, hm⟩ :=
            hmatch s i d m s' _ hs hi (hgood d List.mem_cons_self) hdecided hstep
          obtain ⟨ds', t', hrest', hds, ht⟩ := ih (fun d hd => hgood d (List.mem_cons_of_mem _ hd)) hm his
          exact ⟨d' :: ds', t', .cons hdecided' hstep' hrest', .cons hd hds, ht⟩

/-! ## Deciding by a fallible function -/

/-- Decide on an event and apply the decision; either may fail. -/
def decidedStep {α β : Type} (decide : σ → ι → Except α δ) (step : σ → δ → Except β σ) (s : σ) (i : ι) :
    Except (α ⊕ β) σ :=
  match decide s i with
  | .error e => .error (.inl e)
  | .ok d =>
      match step s d with
      | .error e => .error (.inr e)
      | .ok m => .ok m

section
variable {α β : Type} {decide : σ → ι → Except α δ} {step : σ → δ → Except β σ} {s t : σ} {is : List ι}

theorem decidedStep_eq_ok {i : ι} {m : σ} : decidedStep decide step s i = .ok m ↔
    ∃ d, decide s i = .ok d ∧ step s d = .ok m := by
  unfold decidedStep
  cases decide s i with
  | error e => simp
  | ok d => cases hstep : step s d <;> simp [hstep]

/-- **Replaying events is a driven run.** -/
theorem replay_decidedStep : replay (decidedStep decide step) s is = .ok t ↔
    ∃ ds, Driven (fun s i d => decide s i = .ok d) step s is ds t := by
  induction is generalizing s with
  | nil =>
      constructor
      · intro h
        obtain rfl := Except.ok.inj h
        exact ⟨[], .nil s⟩
      · rintro ⟨ds, h⟩
        cases h
        rfl
  | cons i is ih =>
      rw [replay_cons_ok]
      constructor
      · rintro ⟨m, hm, hrest⟩
        obtain ⟨d, hdecided, hstep⟩ := decidedStep_eq_ok.mp hm
        obtain ⟨ds, hds⟩ := ih.mp hrest
        exact ⟨d :: ds, .cons hdecided hstep hds⟩
      · rintro ⟨ds, h⟩
        cases h with
        | cons hdecided hstep hrest => exact ⟨_, decidedStep_eq_ok.mpr ⟨_, hdecided, hstep⟩, ih.mpr ⟨_, hrest⟩⟩

/-- **A replay fails at its first failing step**, and nothing before that one has failed. -/
theorem replay_eq_error {ε' : Type} {step : σ → ι → Except ε' σ} {e : ε'} :
    replay step s is = .error e ↔
      ∃ before i after m, is = before ++ i :: after ∧ replay step s before = .ok m ∧ step m i = .error e := by
  induction is generalizing s with
  | nil => simp
  | cons i is ih =>
      cases hstep : step s i with
      | error e' =>
          have hfails : replay step s (i :: is) = .error e' := by rw [replay, hstep]
          rw [hfails]
          constructor
          · intro he
            exact ⟨[], i, is, s, rfl, rfl, hstep.trans he⟩
          · rintro ⟨before, j, after, m, hsplit, hbefore, herror⟩
            cases before with
            | nil =>
                obtain ⟨rfl, rfl⟩ := List.cons.inj hsplit
                obtain rfl := Except.ok.inj hbefore
                exact hstep.symm.trans herror
            | cons k ks =>
                obtain ⟨rfl, -⟩ := List.cons.inj hsplit
                obtain ⟨n, hn, -⟩ := replay_cons_ok.mp hbefore
                exact absurd (hstep.symm.trans hn) (by simp)
      | ok n =>
          have hgoes : replay step s (i :: is) = replay step n is := by rw [replay, hstep]
          rw [hgoes, ih]
          constructor
          · rintro ⟨before, j, after, m, rfl, hbefore, herror⟩
            exact ⟨i :: before, j, after, m, rfl, replay_cons_ok.mpr ⟨n, hstep, hbefore⟩, herror⟩
          · rintro ⟨before, j, after, m, hsplit, hbefore, herror⟩
            cases before with
            | nil =>
                obtain ⟨rfl, rfl⟩ := List.cons.inj hsplit
                obtain rfl := Except.ok.inj hbefore
                exact absurd (hstep.symm.trans herror) (by simp)
            | cons k ks =>
                obtain ⟨rfl, rfl⟩ := List.cons.inj hsplit
                obtain ⟨n', hn', hks⟩ := replay_cons_ok.mp hbefore
                obtain rfl := Except.ok.inj (hstep.symm.trans hn')
                exact ⟨ks, j, after, m, rfl, hks, herror⟩

end

end Lib
