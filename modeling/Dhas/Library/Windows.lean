import Mathlib.Algebra.Order.Group.Defs
import Mathlib.Data.Finset.Card
import Mathlib.Order.Monotone.Basic

/-!
# Ticks and the windows that begin at them

A tick at `t k` opens the half-open window from `t k` to `t k + w`. When the ticks are in order and
a window never reaches the second next tick, an instant is in the windows of at most two ticks:
the last one before it, and the one before that.
-/

set_option autoImplicit false

namespace Dhas.Library

variable {α : Type*} [LinearOrder α] [Add α]

/-- The ticks, of the first `n`, whose window has the instant. -/
def hits (t : ℕ → α) (w : α) (n : ℕ) (x : α) : Finset ℕ :=
  (Finset.range n).filter fun k => t k ≤ x ∧ x < t k + w

section Hits

variable {t : ℕ → α} {w x : α} {n q : ℕ}

omit [Add α] in
/-- INTERNAL: an instant after the second tick has a last tick before it. -/
theorem exists_tick (hfirst : t 1 ≤ x) (hlast : x < t n) (hn : 1 ≤ n) :
    ∃ q, q + 2 ≤ n ∧ t (q + 1) ≤ x ∧ x < t (q + 2) := by
  induction n with
  | zero => omega
  | succ n ih =>
    by_cases hle : t n ≤ x
    · cases n with
      | zero => exact absurd hlast (not_lt_of_ge hfirst)
      | succ q => exact ⟨q, Nat.le_refl _, hle, hlast⟩
    · have hpos : 1 ≤ n := by
        by_contra hzero
        obtain rfl : n = 0 := by omega
        exact absurd hlast (not_lt_of_ge hfirst)
      obtain ⟨q, hq, htick⟩ := ih (lt_of_not_ge hle) hpos
      exact ⟨q, by omega, htick⟩

/-- INTERNAL: only the window of the last tick and the one before can have the instant. -/
theorem mem_hits_iff (ht : Monotone t) (hfar : ∀ k, t k + w ≤ t (k + 2)) (hq : t (q + 1) ≤ x)
    (hx : x < t (q + 2)) (hn : q + 2 ≤ n) (k : ℕ) :
    k ∈ hits t w n x ↔ (k = q ∧ x < t q + w) ∨ (k = q + 1 ∧ x < t (q + 1) + w) := by
  unfold hits
  rw [Finset.mem_filter, Finset.mem_range]
  constructor
  · rintro ⟨-, hopen, hclose⟩
    have hlate : k < q + 2 := by
      by_contra hge
      exact absurd hopen (not_le_of_gt (lt_of_lt_of_le hx (ht (Nat.le_of_not_lt hge))))
    have hearly : q ≤ k := by
      by_contra hlt
      have hreach : t k + w ≤ x := ((hfar k).trans (ht (by omega))).trans hq
      exact absurd hclose (not_lt_of_ge hreach)
    rcases Nat.eq_or_lt_of_le hearly with rfl | hnext
    · exact Or.inl ⟨rfl, hclose⟩
    · obtain rfl : k = q + 1 := by omega
      exact Or.inr ⟨rfl, hclose⟩
  · rintro (⟨rfl, hclose⟩ | ⟨rfl, hclose⟩)
    · exact ⟨by omega, (ht (Nat.le_succ k)).trans hq, hclose⟩
    · exact ⟨by omega, hq, hclose⟩

/-- INTERNAL: an instant is in one window exactly when the one before the last tick is closed
before that of the last tick is. -/
theorem card_hits_eq_one_iff (ht : Monotone t) (hfar : ∀ k, t k + w ≤ t (k + 2))
    (hq : t (q + 1) ≤ x) (hx : x < t (q + 2)) (hn : q + 2 ≤ n) :
    (hits t w n x).card = 1 ↔ (x < t q + w ↔ ¬ x < t (q + 1) + w) := by
  have hmem := mem_hits_iff ht hfar hq hx hn
  rw [Finset.card_eq_one]
  constructor
  · rintro ⟨a, ha⟩
    simp only [ha, Finset.mem_singleton] at hmem
    constructor
    · intro hbefore hafter
      have hfirst := (hmem q).mpr (Or.inl ⟨rfl, hbefore⟩)
      have hsecond := (hmem (q + 1)).mpr (Or.inr ⟨rfl, hafter⟩)
      omega
    · intro hafter
      rcases (hmem a).mp rfl with ⟨-, hbefore⟩ | ⟨-, hsecond⟩
      · exact hbefore
      · exact absurd hsecond hafter
  · intro hone
    by_cases hbefore : x < t q + w
    · refine ⟨q, Finset.ext fun k => ?_⟩
      rw [hmem, Finset.mem_singleton]
      constructor
      · rintro (⟨hk, -⟩ | ⟨-, hafter⟩)
        · exact hk
        · exact absurd hafter (hone.mp hbefore)
      · exact fun hk => Or.inl ⟨hk, hbefore⟩
    · have hafter : x < t (q + 1) + w := by
        by_contra hnot
        exact hbefore (hone.mpr hnot)
      refine ⟨q + 1, Finset.ext fun k => ?_⟩
      rw [hmem, Finset.mem_singleton]
      constructor
      · rintro (⟨-, hclose⟩ | ⟨hk, -⟩)
        · exact absurd hclose hbefore
        · exact hk
      · exact fun hk => Or.inr ⟨hk, hafter⟩

end Hits

end Dhas.Library
