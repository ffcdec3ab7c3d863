import Mathlib.Data.List.Basic

/-!
# Cursors over a tree

A cursor stands on a node of a tree and moves to its first child or to its next sibling. A move
that is not possible leaves it where it is and says so. `seek` is the loop that moves to the
next sibling until the label of the node is the right one, and ignores what the move says.
-/

set_option autoImplicit false

namespace Dhas.Library

/-- A tree with a label at every node. -/
inductive LabelTree (α : Type*) where
  | node (label : α) (children : List (LabelTree α))

namespace LabelTree

variable {α : Type*}

def label : LabelTree α → α
  | node label _ => label

def children : LabelTree α → List (LabelTree α)
  | node _ children => children

end LabelTree

/-- A node, with its siblings to the right. -/
structure TreeCursor (α : Type*) where
  tree : LabelTree α
  rest : List (LabelTree α)

namespace TreeCursor

variable {α : Type*}

def root (tree : LabelTree α) : TreeCursor α := ⟨tree, []⟩

/-- The flag: there is a child. -/
def firstChild (c : TreeCursor α) : TreeCursor α × Bool :=
  match c.tree.children with
  | [] => (c, false)
  | tree :: rest => (⟨tree, rest⟩, true)

/-- The flag: there is a sibling to the right. -/
def nextSibling (c : TreeCursor α) : TreeCursor α × Bool :=
  match c.rest with
  | [] => (c, false)
  | tree :: rest => (⟨tree, rest⟩, true)

/-- The first node that satisfies `p`, from the cursor to the right; `none` when `rounds` checks
do not find one. -/
def seek (p : LabelTree α → Bool) : ℕ → TreeCursor α → Option (TreeCursor α)
  | 0, _ => none
  | rounds + 1, c => if p c.tree then some c else seek p rounds c.nextSibling.1

variable {p : LabelTree α → Bool}

/-- INTERNAL: the loop stops at the first node that satisfies `p`. The induction is on the
siblings. -/
theorem seek_of_find? {rest : List (LabelTree α)} {tree found : LabelTree α}
    (h : (tree :: rest).find? p = some found) :
    ∃ rounds right, seek p rounds ⟨tree, rest⟩ = some ⟨found, right⟩ := by
  by_cases htree : p tree = true
  · rw [List.find?_cons_of_pos htree] at h
    obtain rfl := Option.some.inj h
    exact ⟨1, rest, if_pos htree⟩
  · rw [List.find?_cons_of_neg htree] at h
    induction rest generalizing tree with
    | nil => cases h
    | cons next rest ih =>
      by_cases hnext : p next = true
      · rw [List.find?_cons_of_pos hnext] at h
        obtain rfl := Option.some.inj h
        refine ⟨2, rest, ?_⟩
        rw [seek, if_neg htree, nextSibling]
        exact if_pos hnext
      · rw [List.find?_cons_of_neg hnext] at h
        obtain ⟨rounds, right, hseek⟩ := ih h hnext
        refine ⟨rounds + 1, right, ?_⟩
        rw [seek, if_neg htree, nextSibling]
        exact hseek

/-- INTERNAL: without such a node it never ends. The induction is on the rounds; the cursor ends
up on the last sibling and stays there. -/
theorem seek_eq_none (rounds : ℕ) {c : TreeCursor α} (h : ∀ tree ∈ c.tree :: c.rest, ¬ p tree) :
    seek p rounds c = none := by
  induction rounds generalizing c with
  | zero => rfl
  | succ rounds ih =>
    rw [seek, if_neg (h c.tree List.mem_cons_self)]
    apply ih
    unfold nextSibling
    split
    · exact h
    case h_2 tree rest hrest =>
      intro t ht
      apply h t
      rw [hrest]
      exact List.mem_cons_of_mem c.tree ht

/-- INTERNAL: the first child of the root is the first of its children. -/
theorem firstChild_root {tree first : LabelTree α} {others : List (LabelTree α)}
    (h : tree.children = first :: others) : (root tree).firstChild = (⟨first, others⟩, true) := by
  simp only [firstChild, root, h]

/-- INTERNAL: a tree without children has no first child, and the cursor stays. -/
theorem firstChild_eq_false {c : TreeCursor α} (h : c.tree.children = []) :
    c.firstChild = (c, false) := by
  simp only [firstChild, h]

end TreeCursor

end Dhas.Library
