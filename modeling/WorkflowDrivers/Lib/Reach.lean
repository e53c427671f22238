import WorkflowDrivers.Lib.Replay

/-!
# `Lib.Reach` — what a machine can still do

A replay follows one log. Here the log is left open: a state is reached if some log leads to it, and a decision can
still be taken if some log contains it. Both are built up step by step (`Reaches.refl`, `Reaches.tail`,
`Reaches.trans`), and bounded by what every step preserves (`Reaches.invariant`); `takes_iff` reduces the second to
the first.
-/

namespace Lib

variable {σ δ ε : Type} {step : σ → δ → Except ε σ} {s t u : σ}

/-- Some log leads from `s` to `t`. -/
def Reaches (step : σ → δ → Except ε σ) (s t : σ) : Prop := ∃ ds, replay step s ds = .ok t

theorem Reaches.refl (s : σ) : Reaches step s s := ⟨[], rfl⟩

theorem Reaches.trans (hst : Reaches step s t) (htu : Reaches step t u) : Reaches step s u := by
  obtain ⟨as, has⟩ := hst
  obtain ⟨bs, hbs⟩ := htu
  exact ⟨as ++ bs, replay_append.mpr ⟨t, has, hbs⟩⟩

/-- One decision. -/
theorem Reaches.single {d : δ} (hd : step s d = .ok t) : Reaches step s t :=
  ⟨[d], replay_cons_ok.mpr ⟨t, hd, rfl⟩⟩

/-- One more decision. -/
theorem Reaches.tail {d : δ} (hst : Reaches step s t) (hd : step t d = .ok u) : Reaches step s u :=
  hst.trans (.single hd)

/-- What every step preserves holds in all states that are reached. -/
theorem Reaches.invariant {inv : σ → Prop} (hkeeps : ∀ s d t, inv s → step s d = .ok t → inv t)
    (hst : Reaches step s t) (hs : inv s) : inv t := by
  obtain ⟨ds, hds⟩ := hst
  exact replay_invariant hkeeps hs hds

/-- Some log from `s` contains a decision of a kind. -/
def Takes (step : σ → δ → Except ε σ) (kind : δ → Prop) (s : σ) : Prop :=
  ∃ ds t, replay step s ds = .ok t ∧ ∃ d ∈ ds, kind d

/-- A decision can still be taken exactly when a state is reached where it can be taken now. -/
theorem takes_iff {kind : δ → Prop} :
    Takes step kind s ↔ ∃ m, Reaches step s m ∧ ∃ d n, kind d ∧ step m d = .ok n := by
  constructor
  · rintro ⟨ds, t, hds, d, hmem, hkind⟩
    obtain ⟨before, after, rfl⟩ := List.append_of_mem hmem
    obtain ⟨m, n, hbefore, hd, -⟩ := replay_middle.mp hds
    exact ⟨m, ⟨before, hbefore⟩, d, n, hkind, hd⟩
  · rintro ⟨m, ⟨before, hbefore⟩, d, n, hkind, hd⟩
    have hlog : replay step s (before ++ [d]) = .ok n := replay_concat.mpr ⟨m, hbefore, hd⟩
    exact ⟨before ++ [d], n, hlog, d, List.mem_append_right before (List.mem_singleton_self d), hkind⟩

end Lib
