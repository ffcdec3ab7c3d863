import Mathlib.Data.Nat.Basic
import Mathlib.Algebra.Order.Ring.Nat

/-!
# Reading a file in a loop

A file of `len` bytes is read in chunks of `size`, and a short read takes it back to its
beginning. A file whose length is a multiple of the chunk has an empty chunk at its end. So the
position depends on the number of reads alone: from the beginning it comes round after
`len / size + 1` reads, wherever the reading started.
-/

set_option autoImplicit false

namespace Dhas.Library

/-- The position after a read: a read that does not get its `size` bytes rewinds. -/
def nextPosition (len size position : ℕ) : ℕ :=
  if position + size ≤ len then position + size else 0

/-- The position after a number of reads. -/
def positionAfter (len size start : ℕ) : ℕ → ℕ
  | 0 => start
  | reads + 1 => nextPosition len size (positionAfter len size start reads)

/-- The reads of one time round. -/
def loopReads (len size : ℕ) : ℕ := len / size + 1

section LoopedReads

variable {len size start : ℕ}

/-- INTERNAL: within one time round the chunks lie one behind the other. -/
theorem nextPosition_mul (len : ℕ) (hsize : 0 < size) {reads : ℕ} (h : reads ≤ len / size) :
    nextPosition len size (reads * size) =
      if reads = len / size then 0 else (reads + 1) * size := by
  have hle : (reads + 1) * size ≤ len ↔ reads + 1 ≤ len / size :=
    (Nat.le_div_iff_mul_le hsize).symm
  unfold nextPosition
  rw [Nat.succ_mul] at hle
  by_cases hlast : reads = len / size
  · rw [if_pos hlast, if_neg]
    rw [hle]
    omega
  · rw [if_neg hlast, if_pos]
    · rw [Nat.succ_mul]
    · rw [hle]
      omega

/-- **From the beginning the position comes round with the reads.** -/
theorem positionAfter_zero (hsize : 0 < size) (reads : ℕ) :
    positionAfter len size 0 reads = reads % loopReads len size * size := by
  induction reads with
  | zero => simp [positionAfter]
  | succ reads ih =>
    have hlt : reads % loopReads len size < loopReads len size := Nat.mod_lt _ (Nat.succ_pos _)
    have hstep := nextPosition_mul len hsize (Nat.le_of_lt_succ hlt)
    unfold positionAfter
    rw [ih, hstep]
    unfold loopReads at hlt ⊢
    by_cases hlast : reads % (len / size + 1) = len / size
    · rw [if_pos hlast]
      have hmod : (reads + 1) % (len / size + 1) = 0 := by
        rw [Nat.add_mod, hlast]
        by_cases hone : len / size = 0
        · simp [hone]
        · rw [Nat.mod_eq_of_lt (show 1 < len / size + 1 by omega), Nat.mod_self]
      rw [hmod, Nat.zero_mul]
    · rw [if_neg hlast]
      have hmod : (reads + 1) % (len / size + 1) = reads % (len / size + 1) + 1 := by
        rw [Nat.add_mod, Nat.mod_eq_of_lt (show 1 < len / size + 1 by omega),
          Nat.mod_eq_of_lt (by omega)]
      rw [hmod]

/-- INTERNAL: reading on from where the earlier reads ended. -/
theorem positionAfter_add (m n : ℕ) : positionAfter len size start (m + n) =
    positionAfter len size (positionAfter len size start m) n := by
  induction n with
  | zero => rfl
  | succ n ih => exact congrArg (nextPosition len size) ih

/-- INTERNAL: before the first short read the position moves on. -/
theorem positionAfter_first (hsize : 0 < size) {reads : ℕ} (h : reads * size ≤ len - start) :
    positionAfter len size start reads = start + reads * size := by
  induction reads with
  | zero => simp [positionAfter]
  | succ reads ih =>
    rw [Nat.succ_mul] at h ⊢
    unfold positionAfter
    rw [ih (by omega)]
    unfold nextPosition
    rw [if_pos (by omega)]
    omega

/-- INTERNAL: the first short read comes behind the last whole chunk. -/
theorem positionAfter_rewind (hsize : 0 < size) :
    positionAfter len size start ((len - start) / size + 1) = 0 := by
  have hwhole : (len - start) / size * size ≤ len - start := Nat.div_mul_le_self _ _
  have hshort : len - start < (len - start) / size * size + size := by
    have hlt := Nat.lt_div_mul_add (a := len - start) hsize
    omega
  unfold positionAfter
  rw [positionAfter_first hsize hwhole]
  unfold nextPosition
  rw [if_neg (by omega)]

/-- **The position after any number of reads**: the first time the file is read from where it
was, and from its beginning every other time. -/
theorem positionAfter_eq (hsize : 0 < size) (reads : ℕ) :
    positionAfter len size start reads =
      if reads ≤ (len - start) / size then start + reads * size
      else (reads - ((len - start) / size + 1)) % loopReads len size * size := by
  split
  case isTrue h =>
    apply positionAfter_first hsize
    exact Nat.le_trans (Nat.mul_le_mul_right size h) (Nat.div_mul_le_self _ _)
  case isFalse h =>
    obtain ⟨more, rfl⟩ : ∃ more, reads = (len - start) / size + 1 + more :=
      Nat.exists_eq_add_of_le (by omega)
    rw [positionAfter_add, positionAfter_rewind hsize, positionAfter_zero hsize,
      Nat.add_sub_cancel_left]

end LoopedReads

end Dhas.Library
