import Dhas.Library.Run

/-!
# Progress of infinite runs

An infinite run takes a step at every time. `eventually_of_rank` is the rule for what such a
run must come to: the states are in stages, a step keeps the stage or leads to a lower one,
and a stage that is not the goal is left at some time. How a stage is left, by which step
and by whose fairness, is for the analysis to say.
-/

set_option autoImplicit false

namespace Dhas.Library

variable {σ α : Type*}

/-- The states of an infinite run from `s`, and the actions between them. -/
structure Runs (step : σ → α → Option σ) (s : σ) (states : ℕ → σ) (acts : ℕ → α) : Prop where
  start : states 0 = s
  next : ∀ i, step (states i) (acts i) = some (states (i + 1))

section Progress

variable {step : σ → α → Option σ} {s : σ} {states : ℕ → σ} {acts : ℕ → α}

/-- INTERNAL: what every step preserves, an infinite run preserves. -/
theorem Runs.invariant {I : σ → Prop} (h : Runs step s states acts)
    (hstep : ∀ s a s', I s → step s a = some s' → I s') (hs : I s) (i : ℕ) : I (states i) := by
  induction i with
  | zero => exact h.start ▸ hs
  | succ i ih => exact hstep _ _ _ ih (h.next i)

variable {ι : Type*} {Lower : ι → ι → Prop} {At : ι → σ → Prop}

/-- INTERNAL: a later stage is the same or was lowered. -/
theorem stage_later [IsTrans ι Lower]
    (hstep : ∀ i x, At x (states i) → ∃ y, At y (states (i + 1)) ∧ (y = x ∨ Lower y x))
    {i j : ℕ} (hij : i ≤ j) {x : ι} (hx : At x (states i)) :
    ∃ y, At y (states j) ∧ (y = x ∨ Lower y x) := by
  induction hij with
  | refl => exact ⟨x, hx, .inl rfl⟩
  | @step j hij ih =>
    obtain ⟨y, hy, hyx⟩ := ih
    obtain ⟨z, hz, hzy⟩ := hstep j y hy
    refine ⟨z, hz, ?_⟩
    rcases hzy with rfl | hzy
    · exact hyx
    · rcases hyx with rfl | hyx
      · exact .inr hzy
      · exact .inr (IsTrans.trans _ _ _ hzy hyx)

/-- INTERNAL: **a run whose stages are never raised, and whose every stage is the goal or is
left at some later time, reaches the goal.** The induction is on the stage. -/
theorem eventually_of_rank [IsTrans ι Lower] (Goal : σ → Prop) (hwf : WellFounded Lower)
    (hstep : ∀ i x, At x (states i) → ∃ y, At y (states (i + 1)) ∧ (y = x ∨ Lower y x))
    (hleft : ∀ i x, At x (states i) → Goal (states i) ∨
      ∃ j ≥ i, At x (states j) → ∃ y, At y (states (j + 1)) ∧ Lower y x)
    {i : ℕ} {x : ι} (hx : At x (states i)) : ∃ k ≥ i, Goal (states k) := by
  induction x using hwf.induction generalizing i with
  | _ x ih =>
    rcases hleft i x hx with hgoal | ⟨j, hij, hlower⟩
    · exact ⟨i, Nat.le_refl i, hgoal⟩
    · obtain ⟨y, hy, hyx⟩ := stage_later hstep hij hx
      rcases hyx with rfl | hyx
      · obtain ⟨z, hz, hzy⟩ := hlower hy
        obtain ⟨k, hk, hgoal⟩ := ih z hzy hz
        exact ⟨k, Nat.le_trans (Nat.le_succ_of_le hij) hk, hgoal⟩
      · obtain ⟨k, hk, hgoal⟩ := ih y hyx hy
        exact ⟨k, Nat.le_trans hij hk, hgoal⟩

end Progress

end Dhas.Library
