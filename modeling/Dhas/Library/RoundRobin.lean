import Mathlib.Data.List.Nodup
import Mathlib.Data.Int.ModEq
import Mathlib.Order.Interval.Finset.Nat

/-!
# Round-robin allocation

`n` slots are handed out in turn: the allocation with number `k` gets the slot `k % n`, in
use or not. Two allocations share a slot exactly when their numbers differ by a multiple of
`n`, so what keeps the slots in use apart is how old the oldest user is.
-/

set_option autoImplicit false

namespace Dhas.Library

/-- The slot of the allocation with number `k`. -/
def slot (n k : ℕ) : ℕ := k % n

section RoundRobin

variable {n : ℕ}

/-- INTERNAL: a slot is one of the n slots. -/
theorem slot_lt (hn : 0 < n) (k : ℕ) : slot n k < n := Nat.mod_lt k hn

/-- INTERNAL: the first number has the first slot. -/
theorem slot_zero : slot n 0 = 0 := Nat.zero_mod n

/-- INTERNAL: the next slot, or the first one again. -/
theorem slot_succ (hn : 0 < n) (k : ℕ) :
    slot n (k + 1) = if slot n k + 1 < n then slot n k + 1 else 0 := by
  unfold slot
  split
  case isTrue h =>
    rw [Nat.add_mod, Nat.mod_eq_of_lt (Nat.lt_of_le_of_lt (Nat.le_add_left 1 (k % n)) h),
      Nat.mod_eq_of_lt h]
  case isFalse h =>
    have hlast : k % n + 1 = n := by
      have := Nat.mod_lt k hn
      omega
    rw [← Nat.mod_add_mod, hlast, Nat.mod_self]

/-- INTERNAL: allocations less than `n` apart have different slots. -/
theorem slot_ne {j k : ℕ} (hjk : j < k) (hkj : k < j + n) : slot n j ≠ slot n k := by
  intro h
  apply Nat.ne_of_lt hjk
  apply Nat.mod_injOn_Ico j n _ _ h
  · simp only [Finset.coe_Ico, Set.mem_Ico]
    omega
  · simp only [Finset.coe_Ico, Set.mem_Ico]
    omega

/-- INTERNAL: after n numbers the slots begin again. -/
theorem slot_add_self (k : ℕ) : slot n (k + n) = slot n k := Nat.add_mod_right k n

/-- INTERNAL: **when the slots in use are different and none was allocated more than `n`
allocations ago, the next allocation keeps them different exactly when none was allocated
`n` allocations ago.** -/
theorem slots_nodup_cons {k : ℕ} {live : List ℕ} (hlive : (live.map (slot n)).Nodup)
    (hage : ∀ j ∈ live, j < k ∧ k ≤ j + n) :
    ((k :: live).map (slot n)).Nodup ↔ ∀ j ∈ live, k < j + n := by
  rw [List.map_cons, List.nodup_cons, and_iff_left hlive, List.mem_map]
  constructor
  · intro hfresh j hj
    apply Nat.lt_of_le_of_ne (hage j hj).2
    rintro rfl
    exact hfresh ⟨j, hj, (slot_add_self j).symm⟩
  · rintro hyoung ⟨j, hj, hslot⟩
    exact slot_ne (hage j hj).1 (hyoung j hj) hslot

end RoundRobin

end Dhas.Library
