import Mathlib.Data.List.DropRight
import Dhas.Analysis.AlarmActions

/-!
# The zone labels of the alarm panel

The loop of `run` replaces the NULs in the 16 bytes of a label, and `assign` copies 15 of them. The
last byte of a label that takes the whole field is lost, unless it is white space, which the
trimming would remove as well.
-/

set_option autoImplicit false

namespace Dhas.Analysis.ZoneLabels

open Dhas.Program Dhas.Analysis.AlarmRecords Dhas.Analysis.AlarmActions

/-! ## Trimming -/

section Trim

variable {α : Type} (p : α → Bool)

/-- Without the elements at both ends for which `p` holds. -/
def trim (l : List α) : List α := (l.dropWhile p).rdropWhile p

variable {p}

/-- INTERNAL: an element that is trimmed away may be left out. -/
theorem trim_concat_pos (l : List α) {c : α} (hc : p c) : trim p (l ++ [c]) = trim p l := by
  unfold trim
  rw [List.dropWhile_append]
  split
  case isTrue hempty =>
    rw [List.dropWhile_cons_of_pos hc, List.isEmpty_iff.mp hempty]
    rfl
  case isFalse => exact List.rdropWhile_concat_pos p _ c hc

/-- INTERNAL: blanks at the end are trimmed. -/
theorem trim_append_pos (l : List α) {pad : List α} (hpad : ∀ c ∈ pad, p c) :
    trim p (l ++ pad) = trim p l := by
  induction pad using List.reverseRecOn with
  | nil => rw [List.append_nil]
  | append_singleton pad c ih =>
    rw [← List.append_assoc, trim_concat_pos _ (hpad c (by simp))]
    exact ih fun d hd => hpad d (by simp [hd])

/-- INTERNAL: an element that is not trimmed away may not. -/
theorem trim_concat_ne (l : List α) {c : α} (hc : ¬ p c) : trim p l ≠ trim p (l ++ [c]) := by
  have hshort : (trim p l).length ≤ (l.dropWhile p).length :=
    (List.rdropWhile_prefix p (l.dropWhile p)).length_le
  have hlong : (trim p (l ++ [c])).length = (l.dropWhile p).length + 1 := by
    unfold trim
    rw [List.dropWhile_append]
    split
    case isTrue hempty =>
      rw [List.dropWhile_cons_of_neg hc, List.isEmpty_iff.mp hempty,
        List.rdropWhile_singleton, if_neg hc]
      rfl
    case isFalse => rw [List.rdropWhile_concat_neg p _ c hc, List.length_append]; rfl
  intro heq
  rw [← heq] at hlong
  omega

end Trim

/-! ## The labels -/

/-- A string in the field of a record. -/
structure ZoneLabel where
  bytes : List UInt8
  padding : List UInt8
  no_nul : 0 ∉ bytes
  blank : ∀ b ∈ padding, b = 0 ∨ b = 0x20
  fills : bytes.length + padding.length = 16

/-- A byte as a character. -/
def toChar (b : UInt8) : Char := Char.ofNat b.toNat

/-- The string without the white space at its ends. -/
def ZoneLabel.trimmed (label : ZoneLabel) : CString := trim isSpace (label.bytes.map toChar)

/-- INTERNAL: what is copied and trimmed. -/
theorem labelText_eq_trim (data : AlarmData) :
    data.labelText =
      trim isSpace ((data.label.map fun b => if b = 0 then ' ' else toChar b).take 15) := rfl

/-- INTERNAL: the field behind the loop that replaces the NULs. -/
theorem replaced_eq (label : ZoneLabel) :
    ((label.bytes ++ label.padding).map fun b => if b = 0 then ' ' else toChar b) =
      label.bytes.map toChar ++ List.replicate label.padding.length ' ' := by
  rw [List.map_append]
  congr 1
  · apply List.map_congr_left
    intro b hb
    have hne : b ≠ 0 := fun hzero => label.no_nul (hzero ▸ hb)
    exact if_neg hne
  · rw [List.map_eq_replicate_iff]
    intro b hb
    rcases label.blank b hb with rfl | rfl
    · rfl
    · rfl

/-- INTERNAL: **the text of a label is the string that was put there exactly when its 16th byte, if
it has one, is white space.**
SOURCE: AlarmModule.cpp:126-129 -/
theorem labelText_eq_trimmed_iff (label : ZoneLabel) {data : AlarmData}
    (hfield : data.label = label.bytes ++ label.padding) :
    data.labelText = label.trimmed ↔ ∀ b, label.bytes[15]? = some b → isSpace (toChar b) := by
  have hfills := label.fills
  rw [labelText_eq_trim, hfield, replaced_eq]
  unfold ZoneLabel.trimmed
  by_cases hfull : label.bytes.length = 16
  · obtain ⟨init, last, hbytes⟩ : ∃ init last, label.bytes = init ++ [last] :=
      ⟨label.bytes.dropLast, label.bytes.getLast (by grind),
        (List.dropLast_concat_getLast _).symm⟩
    have hinit : init.length = 15 := by
      rw [hbytes, List.length_append, List.length_singleton] at hfull
      omega
    have hpadding : label.padding.length = 0 := by omega
    have htake : ((init ++ [last]).map toChar).take 15 = init.map toChar := by
      rw [List.map_append, List.take_left' (by rw [List.length_map, hinit])]
    have hlast : (init ++ [last])[15]? = some last := by
      rw [← hinit]
      exact List.getElem?_concat_length
    rw [hpadding, List.replicate_zero, List.append_nil, hbytes, htake, hlast]
    rw [List.map_append, List.map_singleton]
    constructor
    · intro heq b hb
      obtain rfl : last = b := Option.some.inj hb
      by_contra hspace
      exact trim_concat_ne _ hspace heq
    · intro hspace
      exact (trim_concat_pos _ (hspace last rfl)).symm
  · have hle : (label.bytes.map toChar).length ≤ 15 := by
      rw [List.length_map]
      omega
    have hnone : label.bytes[15]? = none := by
      apply List.getElem?_eq_none
      rwa [List.length_map] at hle
    have hblanks : ∀ c ∈ (List.replicate label.padding.length ' ').take
        (15 - (label.bytes.map toChar).length), isSpace c := by
      intro c hc
      rw [List.eq_of_mem_replicate (List.mem_of_mem_take hc)]
      rfl
    rw [List.take_append, List.take_of_length_le hle, trim_append_pos _ hblanks, hnone]
    simp

/-- INTERNAL: the label is the last member of an event, and the only one of that name. -/
theorem event_label (data : AlarmData) : data.event.get "label" = some (.str data.labelText) := by
  have hkeys : ∀ member ∈ data.action, member.1 ≠ "label" := by
    unfold AlarmData.action
    grind
  have hnone : data.action.find? (fun member => member.1 = "label") = none := by
    apply List.find?_eq_none.mpr
    simpa using hkeys
  show JSON.get (("event", jsonText "alarm") :: (data.action ++ [("label", .str data.labelText)]))
    "label" = _
  rw [get_cons (by decide)]
  unfold JSON.get
  simp [List.find?_append, hnone]

/-- **The label of an event is the trimmed string exactly when the string does not end with a 16th
byte that is no white space.** The string and its padding are any, and so is the rest of the
record.
SOURCE: AlarmModule.cpp:10-20, 126-133 -/
theorem label_eq_trimmed_iff (label : ZoneLabel) (record : AlarmRecord)
    (hfield : (AlarmData.ofBytes record.bytes).label = label.bytes ++ label.padding) :
    (∀ event ∈ serialEvents record, event.get "label" = some (.str label.trimmed)) ↔
      ∀ b, label.bytes[15]? = some b → isSpace (toChar b) := by
  have hiff := labelText_eq_trimmed_iff label hfield
  rw [serialEvents_eq, List.forall_mem_singleton, event_label, ← hiff]
  simp

/-- A record with a string of 16 bytes in the field of the label. -/
def labelRecord (bytes : List UInt8) (h : bytes.length = 16) : AlarmRecord where
  bytes := List.replicate 15 0 ++ bytes ++ List.replicate 6 0
  length_eq := by simp [h, AlarmData.size]

/-- The bytes of a text. -/
def textBytes (s : String) : List UInt8 := s.toList.map fun c => UInt8.ofNat c.toNat

/-- The label `FRONT DOOR`, with NULs and a blank behind it. -/
def frontDoor : ZoneLabel where
  bytes := textBytes "FRONT DOOR"
  padding := [0, 0x20, 0, 0, 0, 0]
  no_nul := by decide
  blank := by simp
  fills := rfl

/-- The label of the front door is announced without its padding. -/
theorem frontDoor_label :
    frontDoor.bytes[15]? = none ∧
      ∀ event ∈ serialEvents (labelRecord (frontDoor.bytes ++ frontDoor.padding) (by decide)),
        event.get "label" = some (.str frontDoor.trimmed) := by
  have hshort : frontDoor.bytes[15]? = none := by decide
  refine ⟨hshort, ?_⟩
  apply (label_eq_trimmed_iff frontDoor
    (labelRecord (frontDoor.bytes ++ frontDoor.padding) (by decide)) (by decide)).mpr
  rw [hshort]
  exact fun b hb => absurd hb (Option.some_ne_none b).symm

/-- The label `UPSTAIRS WINDOWS`, which fills the field. -/
def upstairsWindows : ZoneLabel where
  bytes := textBytes "UPSTAIRS WINDOWS"
  padding := []
  no_nul := by decide
  blank := by simp
  fills := rfl

/-- **The event of `UPSTAIRS WINDOWS` has the label `UPSTAIRS WINDOW`.** -/
theorem upstairsWindows_cut :
    ∃ event ∈ serialEvents (labelRecord upstairsWindows.bytes (by decide)),
      event.get "label" = some (jsonText "UPSTAIRS WINDOW") ∧
        event.get "label" ≠ some (.str upstairsWindows.trimmed) := by
  refine ⟨(AlarmData.ofBytes (labelRecord upstairsWindows.bytes (by decide)).bytes).event, ?_, ?_⟩
  · decide
  · decide

end Dhas.Analysis.ZoneLabels
