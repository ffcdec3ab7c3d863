import Mathlib.Data.List.Basic

/-!
# Bounded first-in first-out queues

A queue with a fixed capacity. `put` refuses an element when the queue is full and
leaves it as it is; `get` takes the oldest element. That the queue never holds more
than its capacity is a field, so no operation has to prove it again.
-/

set_option autoImplicit false

namespace Dhas.Library

/-- A queue of at most `capacity` elements, the oldest first. -/
structure BoundedQueue (α : Type*) where
  capacity : ℕ
  items : List α
  bounded : items.length ≤ capacity

namespace BoundedQueue

variable {α : Type*}

/-- The empty queue of a given capacity. -/
def empty (capacity : ℕ) : BoundedQueue α := ⟨capacity, [], Nat.zero_le _⟩

/-- There is room for one more element. -/
def HasRoom (q : BoundedQueue α) : Prop := q.items.length < q.capacity

instance (q : BoundedQueue α) : Decidable q.HasRoom :=
  inferInstanceAs (Decidable (_ < _))

/-- Append an element; a full queue refuses it. -/
def put (q : BoundedQueue α) (a : α) : BoundedQueue α :=
  if h : q.items.length < q.capacity then
    { q with items := q.items ++ [a], bounded := by rw [List.length_append]; exact h }
  else q

/-- Take the oldest element; `none` when there is none. -/
def get (q : BoundedQueue α) : Option (α × BoundedQueue α) :=
  match h : q.items with
  | [] => none
  | a :: as =>
    some (a, { q with items := as, bounded := by have := q.bounded; simp [h] at this; omega })

/-- Take elements until there is none: the loop `while (get(x));`. -/
def clear (q : BoundedQueue α) : BoundedQueue α :=
  { q with items := [], bounded := Nat.zero_le _ }

/-- Taking elements until there is none gives the elements of the list. -/
def Drains : BoundedQueue α → List α → Prop
  | q, [] => q.get = none
  | q, a :: as => ∃ q', q.get = some (a, q') ∧ Drains q' as

/-- INTERNAL: what is put is the last item, when there is room for it. -/
theorem items_put (q : BoundedQueue α) (a : α) :
    (q.put a).items = if q.HasRoom then q.items ++ [a] else q.items := by
  by_cases h : q.items.length < q.capacity
  · simp [put, HasRoom, h]
  · simp [put, HasRoom, h]

/-- INTERNAL: what is put into a queue with room is its last item. -/
theorem items_put_of_hasRoom {q : BoundedQueue α} (h : q.HasRoom) (a : α) :
    (q.put a).items = q.items ++ [a] := by
  rw [items_put, if_pos h]

/-- INTERNAL: a full queue drops what is put. -/
theorem put_of_not_hasRoom {q : BoundedQueue α} (h : ¬ q.HasRoom) (a : α) : q.put a = q := by
  unfold put
  exact dif_neg h

/-- INTERNAL: `get` takes the head of the queue. -/
theorem get_eq_some_iff {q q' : BoundedQueue α} {a : α} :
    q.get = some (a, q') ↔ q.items = a :: q'.items ∧ q'.capacity = q.capacity := by
  obtain ⟨c, items, hc⟩ := q
  obtain ⟨c', items', hc'⟩ := q'
  cases items with
  | nil => simp [get]
  | cons b bs =>
    simp only [get, Option.some.injEq, Prod.mk.injEq, mk.injEq, List.cons.injEq]
    exact ⟨fun ⟨h, hc, hi⟩ => ⟨⟨h, hi⟩, hc.symm⟩, fun ⟨⟨h, hi⟩, hc⟩ => ⟨h, hc.symm, hi⟩⟩

/-- INTERNAL: nothing is got exactly when the queue is empty. -/
theorem get_eq_none_iff {q : BoundedQueue α} : q.get = none ↔ q.items = [] := by
  obtain ⟨c, items, hc⟩ := q
  cases items <;> simp [get]

/-- INTERNAL: the capacity never changes. -/
theorem capacity_put (q : BoundedQueue α) (a : α) : (q.put a).capacity = q.capacity := by
  unfold put
  split <;> rfl

/-- INTERNAL: a list that fits is accepted as a whole. -/
theorem items_foldl_put {as : List α} {q : BoundedQueue α}
    (h : q.items.length + as.length ≤ q.capacity) : (as.foldl put q).items = q.items ++ as := by
  induction as generalizing q with
  | nil => rw [List.foldl_nil, List.append_nil]
  | cons a as ih =>
    rw [List.length_cons] at h
    have hroom : q.HasRoom := by
      unfold HasRoom
      omega
    have hput := items_put_of_hasRoom hroom a
    rw [List.foldl_cons, ih, hput, List.append_assoc, List.singleton_append]
    rw [hput, capacity_put, List.length_append, List.length_singleton]
    omega

/-- INTERNAL: a queue drains in its order, and to its end. -/
theorem drains_iff {q : BoundedQueue α} {as : List α} : q.Drains as ↔ q.items = as := by
  induction as generalizing q with
  | nil => exact get_eq_none_iff
  | cons a as ih =>
    constructor
    · rintro ⟨q', hget, hdrains⟩
      rw [(get_eq_some_iff.mp hget).1, ih.mp hdrains]
    · intro hitems
      cases hget : q.get with
      | none =>
        rw [get_eq_none_iff, hitems] at hget
        cases hget
      | some r =>
        obtain ⟨b, rest⟩ := r
        have hcons := (get_eq_some_iff.mp hget).1
        rw [hitems, List.cons.injEq] at hcons
        obtain ⟨rfl, hrest⟩ := hcons
        exact ⟨rest, hget, ih.mpr hrest.symm⟩

end BoundedQueue

end Dhas.Library
