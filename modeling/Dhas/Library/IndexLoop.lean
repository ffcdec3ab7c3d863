import Mathlib.Data.List.Basic

/-!
# Loops over an index

A loop that counts an index up to `n` is a fold over `List.range n`. The last turn of such a
loop comes off at the end of the range, and a loop that only reads the element at its index is
a fold over the elements.
-/

set_option autoImplicit false

namespace Dhas.Library

variable {α β : Type*}

/-- INTERNAL: the items before the next index are the items before this one and the item here. -/
theorem take_succ_getD {l : List α} {n : ℕ} (hn : n < l.length) (d : α) :
    l.take (n + 1) = l.take n ++ [l.getD n d] := by
  rw [List.take_add_one, List.getD_eq_getElem?_getD, List.getElem?_eq_getElem hn]
  rfl

/-- INTERNAL: a loop that reads the element at its index goes through the elements. -/
theorem foldl_range_getD (f : β → α → β) (b : β) (l : List α) (d : α) {n : ℕ}
    (hn : n ≤ l.length) :
    (List.range n).foldl (fun b i => f b (l.getD i d)) b = (l.take n).foldl f b := by
  induction n with
  | zero => rfl
  | succ n ih =>
    rw [List.range_succ, List.foldl_append, ih (by omega), take_succ_getD hn d, List.foldl_append]
    rfl

section Fallible

variable {f : β → ℕ → Option β} {b c : β} {n : ℕ}

/-- INTERNAL: a loop of one more round. -/
theorem foldlM_range_succ (h : (List.range n).foldlM f b = some c) :
    (List.range (n + 1)).foldlM f b = f c n := by
  rw [List.range_succ, List.foldlM_append, h]
  simp

/-- INTERNAL: a loop does not get over a turn that always fails. -/
theorem foldlM_range_eq_none {i : ℕ} (hi : i < n) (h : ∀ c, f c i = none) :
    (List.range n).foldlM f b = none := by
  induction n with
  | zero => omega
  | succ n ih =>
    rw [List.range_succ, List.foldlM_append]
    rcases Nat.lt_succ_iff_lt_or_eq.mp hi with hlt | rfl
    · rw [ih hlt]
      rfl
    · cases (List.range i).foldlM f b with
      | none => rfl
      | some c => simp [h c]

end Fallible

end Dhas.Library
