import Dhas.Program.Presence
import Mathlib.Data.List.TakeWhile

/-!
# The note of a presence document

`onUpdateActive` looks among the children of the root for the first one named `note`, and does
not look at what `nextSibling` says: when there are children and none has that name, the loop
stands on the last one for ever.
-/

set_option autoImplicit false

namespace Dhas.Analysis.PresenceNote

open Dhas.Library Dhas.Program

def IsNote (node : XMLNode) : Prop := getTag node = "note".toList

instance (node : XMLNode) : Decidable (IsNote node) := inferInstanceAs (Decidable (_ = _))

/-- The characters of an element. -/
def textOf (node : XMLNode) : CString := node.children.flatMap getValue

/-- There is nothing in the element, or a text: `note` has a string for its content. A document
has no NUL. -/
def HasString (node : XMLNode) : Prop :=
  node.children = [] ∨
    ∃ value, node.children = [.node (.text value) []] ∧ Char.ofNat 0 ∉ value

/-- A pidf+xml document. The children of its root are any elements and texts. -/
structure PidfDocument where
  root : XMLNode
  notes : ∀ child ∈ root.children, IsNote child → HasString child

/-- The text of the first child of the root that is named `note`. -/
def PidfDocument.status (document : PidfDocument) : CString :=
  match document.root.children.find? (IsNote ·) with
  | some note => textOf note
  | none => []

/-- The NOTIFY with a document. -/
def PidfDocument.notify (document : PidfDocument) (contentType : CString) (newCount : ℤ) :
    NotifyMessage :=
  ⟨contentType, "pidf+xml".toList, newCount, some document.root⟩

/-- `onUpdateActive` ends, and has used the text of the first note. -/
def UsesNote (document : PidfDocument) (pSubscription : Option Subscription)
    (msg : NotifyMessage) : Prop :=
  ∃ rounds, SIPEngine.onUpdateActive rounds pSubscription msg =
    some (SIPEngine.showPresence pSubscription document.status)

variable {document : PidfDocument} {pSubscription : Option Subscription} {contentType : CString}
  {newCount : ℤ} {note first : XMLNode} {others : List XMLNode}

/-- INTERNAL: the value of the first child of a note is its text. -/
theorem value_of_hasString (h : HasString note) (right : List XMLNode) :
    (if (TreeCursor.mk note right).firstChild.2 then
      cString (getValue (TreeCursor.mk note right).firstChild.1.tree) else []) = textOf note := by
  rcases h with hnil | ⟨value, hvalue, hnul⟩
  · rw [TreeCursor.firstChild_eq_false hnil]
    simp [textOf, hnil]
  · have hstring : cString value = value := by
      refine List.takeWhile_eq_self_iff.mpr fun c hc => ?_
      have hne : c ≠ Char.ofNat 0 := fun heq => hnul (heq ▸ hc)
      exact decide_eq_true hne
    simp [TreeCursor.firstChild, hvalue, textOf, getValue, LabelTree.label, hstring]

/-- INTERNAL: only a document is looked into. SOURCE: SIPEngine.cpp:507-549 -/
theorem onUpdateActive_notify (rounds : ℕ) :
    SIPEngine.onUpdateActive rounds pSubscription (document.notify contentType newCount) =
      (SIPEngine.presenceStatus rounds (some document.root)).map
        (SIPEngine.showPresence pSubscription) := by
  have hpidf : (document.notify contentType newCount).subType = "pidf+xml".toList := rfl
  unfold SIPEngine.onUpdateActive
  rw [if_neg, if_pos hpidf]
  · rfl
  · rintro ⟨-, hsummary⟩
    rw [hpidf] at hsummary
    exact absurd hsummary (by decide)

/-- INTERNAL: the loop goes along the children of the root. -/
theorem presenceStatus_of_cons (rounds : ℕ) (h : document.root.children = first :: others) :
    SIPEngine.presenceStatus rounds (some document.root) =
      ((TreeCursor.mk first others).seek (IsNote ·) rounds).map fun cursor =>
        let (cursor, child) := cursor.firstChild
        if child then cString (getValue cursor.tree) else [] := by
  unfold SIPEngine.presenceStatus
  simp only [TreeCursor.firstChild_root h]
  rfl

/-- **`onUpdateActive` ends, and uses the text of the first note, exactly when the root has no
children or one of them is named `note`.** For every pidf+xml document and every state of the
subscription. SOURCE: SIPEngine.cpp:504-550 -/
theorem usesNote_iff (document : PidfDocument) (pSubscription : Option Subscription)
    (contentType : CString) (newCount : ℤ) :
    UsesNote document pSubscription (document.notify contentType newCount) ↔
      document.root.children = [] ∨ ∃ child ∈ document.root.children, IsNote child := by
  unfold UsesNote
  simp only [onUpdateActive_notify]
  cases hchildren : document.root.children with
  | nil =>
    refine iff_of_true ⟨0, ?_⟩ (.inl rfl)
    have hroot : (TreeCursor.root document.root).firstChild =
        (TreeCursor.root document.root, false) := TreeCursor.firstChild_eq_false hchildren
    simp [SIPEngine.presenceStatus, hroot, PidfDocument.status, hchildren]
  | cons first others =>
    by_cases hnote : ∃ child ∈ first :: others, IsNote child
    · refine iff_of_true ?_ (.inr hnote)
      obtain ⟨note, hfind⟩ : ∃ note, (first :: others).find? (IsNote ·) = some note := by
        rw [← Option.isSome_iff_exists, List.find?_isSome]
        simpa using hnote
      obtain ⟨rounds, right, hseek⟩ := TreeCursor.seek_of_find? hfind
      have hmem : note ∈ document.root.children := hchildren ▸ List.mem_of_find?_eq_some hfind
      have hnamed : IsNote note := by simpa using List.find?_some hfind
      have hvalue := value_of_hasString (document.notes note hmem hnamed) right
      refine ⟨rounds, ?_⟩
      rw [presenceStatus_of_cons rounds hchildren, hseek]
      simp only [Option.map_some, PidfDocument.status, hchildren, hfind]
      rw [hvalue]
    · refine iff_of_false ?_ ?_
      · rintro ⟨rounds, hends⟩
        have hnever : (TreeCursor.mk first others).seek (IsNote ·) rounds = none := by
          apply TreeCursor.seek_eq_none
          intro child hchild hnamed
          exact hnote ⟨child, hchild, of_decide_eq_true hnamed⟩
        rw [presenceStatus_of_cons rounds hchildren, hnever] at hends
        cases hends
      · rintro (hnil | hnamed)
        · cases hnil
        · exact hnote hnamed

/-- A document with a tuple, and a note behind it. -/
def tupleAndNote : PidfDocument where
  root := .node (.element "presence".toList) [.node (.element "tuple".toList) [],
    .node (.element "note".toList) [.node (.text "On the phone".toList) []]]
  notes := by
    intro child hchild hnote
    rcases List.mem_cons.mp hchild with rfl | hchild
    · exact absurd hnote (by decide)
    · rw [List.mem_singleton.mp hchild]
      exact .inr ⟨_, rfl, by decide⟩

example : tupleAndNote.status = "On the phone".toList ∧
    SIPEngine.onUpdateActive 2 (some ⟨[]⟩) (tupleAndNote.notify "application".toList 0) =
      some (SIPEngine.showPresence (some ⟨[]⟩) tupleAndNote.status) := by
  decide

/-- A document with a tuple and no note. -/
def tupleOnly : PidfDocument where
  root := .node (.element "presence".toList) [.node (.element "tuple".toList) []]
  notes := by
    intro child hchild hnote
    rw [List.mem_singleton.mp hchild] at hnote
    exact absurd hnote (by decide)

/-- The loop stands on the tuple for ever. SOURCE: SIPEngine.cpp:528-531 -/
theorem tupleOnly_neverEnds : (∀ rounds, SIPEngine.onUpdateActive rounds (some ⟨[]⟩)
      (tupleOnly.notify "application".toList 0) = none) ∧
    ¬ UsesNote tupleOnly (some ⟨[]⟩) (tupleOnly.notify "application".toList 0) := by
  have hnever (rounds : ℕ) : SIPEngine.onUpdateActive rounds (some ⟨[]⟩)
      (tupleOnly.notify "application".toList 0) = none := by
    rw [onUpdateActive_notify, presenceStatus_of_cons rounds rfl, TreeCursor.seek_eq_none]
    · rfl
    · intro child hchild
      rw [List.mem_singleton.mp hchild]
      decide
  refine ⟨hnever, ?_⟩
  rintro ⟨rounds, hends⟩
  rw [hnever rounds] at hends
  cases hends

end Dhas.Analysis.PresenceNote
