import Mathlib.Data.List.Nodup

/-!
# Linked lists in a heap

A heap maps addresses to cells, and `next` reads the link of a cell. `IsList` says which
addresses a chain of links visits, and ends; `Reaches` is what following the links can
find. `lastCell` is the loop that walks to the end of a chain.
-/

set_option autoImplicit false

namespace Dhas.Library

variable {α ν : Type}

section

variable (heap : α → Option ν) (next : ν → Option α)

/-- Following the links from `start` visits the addresses of the list and then ends. -/
def IsList : Option α → List α → Prop
  | start, [] => start = none
  | start, a :: l => start = some a ∧ ∃ v, heap a = some v ∧ IsList (next v) l

/-- The address is found by following the links from a start. -/
inductive Reaches : Option α → α → Prop
  | head (a : α) : Reaches (some a) a
  | next {a b : α} {v : ν} : heap a = some v → Reaches (next v) b → Reaches (some a) b

/-- The last cell of a chain, walking at most as many steps as given; `none` when the walk
meets a free address or does not end. -/
def lastCell : ℕ → α → Option α
  | 0, _ => none
  | n + 1, a =>
    match heap a with
    | none => none
    | some v =>
      match next v with
      | none => some a
      | some b => lastCell n b

end

variable {heap heap' : α → Option ν} {next : ν → Option α} {start : Option α} {l : List α}

/-- INTERNAL: the frame rule. Cells outside the chain do not matter, and of those on it only
the link does. -/
theorem IsList.frame (h : IsList heap next start l)
    (hframe : ∀ a ∈ l, ∀ v, heap a = some v → ∃ v', heap' a = some v' ∧ next v' = next v) :
    IsList heap' next start l := by
  induction l generalizing start with
  | nil => exact h
  | cons a l ih =>
    obtain ⟨hstart, v, hv, htail⟩ := h
    obtain ⟨v', hv', hnext⟩ := hframe a List.mem_cons_self v hv
    have htail' := ih htail fun b hb => hframe b (List.mem_cons_of_mem a hb)
    exact ⟨hstart, v', hv', hnext ▸ htail'⟩

/-- INTERNAL: only the addresses of the chain are found by following its links. -/
theorem IsList.mem_of_reaches {a : α} (h : IsList heap next start l)
    (hr : Reaches heap next start a) : a ∈ l := by
  induction hr generalizing l with
  | head a =>
    cases l with
    | nil => cases h
    | cons b l =>
      have hab : some a = some b := h.1
      rw [Option.some.inj hab]
      exact List.mem_cons_self
  | @next a b v hv _ ih =>
    cases l with
    | nil => cases h
    | cons c l =>
      obtain ⟨hstart, w, hw, htail⟩ := h
      obtain rfl := Option.some.inj hstart
      obtain rfl : v = w := Option.some.inj (hv.symm.trans hw)
      exact List.mem_cons_of_mem a (ih htail)

/-- INTERNAL: every node of a list is allocated. -/
theorem IsList.alloc {a : α} (h : IsList heap next start l) (ha : a ∈ l) :
    ∃ v, heap a = some v := by
  induction l generalizing start with
  | nil => cases ha
  | cons b l ih =>
    obtain ⟨-, v, hv, htail⟩ := h
    rcases List.mem_cons.mp ha with rfl | ha
    · exact ⟨v, hv⟩
    · exact ih htail ha

/-- INTERNAL: the walk finds the last cell when it may take as many steps as the chain is
long. -/
theorem IsList.lastCell {a : α} {n : ℕ} (h : IsList heap next (some a) l)
    (hn : l.length ≤ n) : lastCell heap next n a = l.getLast? := by
  induction l generalizing a n with
  | nil => cases h
  | cons b l ih =>
    obtain ⟨hstart, v, hv, htail⟩ := h
    obtain rfl := Option.some.inj hstart
    obtain ⟨m, rfl⟩ : ∃ m, n = m + 1 := ⟨n - 1, by simp at hn; omega⟩
    rw [Dhas.Library.lastCell, hv]
    cases l with
    | nil =>
      have hnext : next v = none := htail
      simp [hnext]
    | cons c l =>
      have hnext : next v = some c := htail.1
      simp only [hnext]
      rw [ih (hnext ▸ htail) (by simp at hn ⊢; omega)]
      simp

/-- INTERNAL: linking a new cell behind the last one. -/
theorem IsList.append {z b : α} {w u : ν} (h : IsList heap next start l)
    (hlast : l.getLast? = some z) (hnodup : l.Nodup) (hb : b ∉ l)
    (hz : heap' z = some w) (hw : next w = some b) (hu : heap b = some u) (hend : next u = none)
    (hsame : ∀ a, a ≠ z → heap' a = heap a) : IsList heap' next start (l ++ [b]) := by
  induction l generalizing start with
  | nil => cases hlast
  | cons a l ih =>
    obtain ⟨hstart, v, hv, htail⟩ := h
    cases l with
    | nil =>
      obtain rfl : a = z := by simpa using hlast
      have hba : b ≠ a := fun heq => hb (by simp [heq])
      exact ⟨hstart, w, hz, hw, u, by rw [hsame b hba, hu], hend⟩
    | cons c l =>
      have hlast' : (c :: l).getLast? = some z := by simpa using hlast
      have hmem : z ∈ c :: l := List.mem_of_getLast? hlast'
      have haz : a ≠ z := fun heq => (List.nodup_cons.mp hnodup).1 (heq ▸ hmem)
      refine ⟨hstart, v, by rw [hsame a haz, hv], ?_⟩
      exact ih htail hlast' (List.nodup_cons.mp hnodup).2
        fun hmem => hb (List.mem_cons_of_mem a hmem)

end Dhas.Library
