import Mathlib.Data.List.Basic

/-!
# Vectors that grow

A vector keeps its items in an allocation of some capacity. An item that is added when the vector
is full goes to a new allocation, and a reference into the old one is no longer valid. By how much
a vector grows is left to the implementation.
-/

set_option autoImplicit false

namespace Dhas.Library

/-- The capacity of the new allocation. -/
structure Growth where
  next : ℕ → ℕ
  lt_next : ∀ n, n < next n

structure GrowingVector (α : Type*) where
  items : List α
  capacity : ℕ
  /-- the number of the allocation -/
  allocation : ℕ
  fits : items.length ≤ capacity

namespace GrowingVector

variable {α : Type*}

def empty : GrowingVector α := ⟨[], 0, 0, Nat.le_refl 0⟩

def push_back (g : Growth) (v : GrowingVector α) (a : α) : GrowingVector α :=
  if h : v.items.length < v.capacity then
    { v with items := v.items ++ [a], fits := by simpa [Nat.succ_le_iff] using h }
  else
    { items := v.items ++ [a]
      capacity := g.next v.capacity
      allocation := v.allocation + 1
      fits := by
        have hlt := g.lt_next v.capacity
        have hfits := v.fits
        simp only [List.length_append, List.length_singleton]
        omega }

/-- An assignment through a reference to an item. -/
def set (v : GrowingVector α) (i : ℕ) (a : α) : GrowingVector α :=
  { v with items := v.items.set i a, fits := by simpa using v.fits }

/-- INTERNAL: the item is the last one, wherever the vector is stored. -/
@[simp] theorem items_push_back (g : Growth) (v : GrowingVector α) (a : α) :
    (v.push_back g a).items = v.items ++ [a] := by
  unfold push_back
  split <;> rfl

/-- INTERNAL: an item is written in its place. -/
@[simp] theorem items_set (v : GrowingVector α) (i : ℕ) (a : α) :
    (v.set i a).items = v.items.set i a := rfl

/-- INTERNAL: a write moves nothing. -/
@[simp] theorem allocation_set (v : GrowingVector α) (i : ℕ) (a : α) :
    (v.set i a).allocation = v.allocation := rfl

/-- INTERNAL: the references stay valid exactly when there was room. -/
theorem allocation_push_back_eq_iff (g : Growth) (v : GrowingVector α) (a : α) :
    (v.push_back g a).allocation = v.allocation ↔ v.items.length < v.capacity := by
  unfold push_back
  split
  case isTrue h => exact iff_of_true rfl h
  case isFalse h => exact iff_of_false (Nat.succ_ne_self _) h

end GrowingVector

end Dhas.Library
