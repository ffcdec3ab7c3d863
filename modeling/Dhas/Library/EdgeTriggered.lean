import Mathlib.Data.List.Basic

/-!
# Edge-triggered readiness

What a reader does not see of a source that is registered for edge-triggered notification. The
source holds what came and was not read. It is announced when something comes, and once at its
registration; a wait reports an announcement one time, and the reader then comes to it once. An
arrival that finds the source announced is merged into that announcement, and a read may find
nothing.

When each read takes one element, what is unread and not announced is a matter of counting
(`Balanced`): nothing but an announcement that brings no element of its own makes it less.
-/

set_option autoImplicit false

namespace Dhas.Library

variable {α : Type*}

/-- A source, with the history of what came to it. -/
structure EdgeTriggered (α : Type*) where
  /-- everything that came -/
  arrived : List α
  /-- everything that was read -/
  taken : List α
  unread : List α
  announced : Bool
  /-- a wait reported it, and it was not read since -/
  reported : Bool
  /-- the arrivals that found it announced -/
  merged : ℕ
  /-- the reads that found nothing -/
  idle : ℕ
  /-- the announcements that came without an element -/
  spurious : ℕ
  deriving DecidableEq

namespace EdgeTriggered

/-- The source at its registration, which announces it. -/
def new : EdgeTriggered α where
  arrived := []
  taken := []
  unread := []
  announced := true
  reported := false
  merged := 0
  idle := 0
  spurious := 1

def arrive (d : EdgeTriggered α) (xs : List α) : EdgeTriggered α :=
  { d with
    arrived := d.arrived ++ xs
    unread := d.unread ++ xs
    announced := true
    merged := if d.announced then d.merged + 1 else d.merged }

/-- It is announced, and nothing came. -/
def stir (d : EdgeTriggered α) : EdgeTriggered α :=
  if d.announced then d else { d with announced := true, spurious := d.spurious + 1 }

/-- A wait is over. -/
def report (d : EdgeTriggered α) : EdgeTriggered α :=
  { d with announced := false, reported := d.announced }

/-- The reader takes at most `n` elements. -/
def read (n : ℕ) (d : EdgeTriggered α) : EdgeTriggered α :=
  { d with
    taken := d.taken ++ d.unread.take n
    unread := d.unread.drop n
    reported := false
    idle := if d.unread.isEmpty then d.idle + 1 else d.idle }

/-- Nothing will make the reader come to it. -/
def Rests (d : EdgeTriggered α) : Prop := d.announced = false ∧ d.reported = false

instance (d : EdgeTriggered α) : Decidable d.Rests := inferInstanceAs (Decidable (_ ∧ _))

/-- The announcements that an element did not get, or that were spent on none. -/
def missed (d : EdgeTriggered α) : ℕ := d.merged + d.idle

/-- Nothing is lost, and every element that is unread has an announcement or missed one. -/
structure Balanced (d : EdgeTriggered α) : Prop where
  inOrder : d.arrived = d.taken ++ d.unread
  count : d.unread.length + d.spurious = d.missed + d.announced.toNat + d.reported.toNat

section Balanced

variable {d : EdgeTriggered α}

/-- INTERNAL: a new descriptor is balanced: nothing has arrived. -/
theorem balanced_new : (new : EdgeTriggered α).Balanced where
  inOrder := rfl
  count := rfl

/-- INTERNAL: one element comes. -/
theorem Balanced.arrive (h : d.Balanced) (x : α) : (d.arrive [x]).Balanced where
  inOrder := by simp [EdgeTriggered.arrive, h.inOrder]
  count := by
    have hcount := h.count
    cases hannounced : d.announced
    · simp only [EdgeTriggered.arrive, missed, hannounced] at hcount ⊢
      simp only [List.length_append, List.length_singleton, Bool.toNat_false,
        Bool.toNat_true, Bool.false_eq_true, if_false] at hcount ⊢
      omega
    · simp only [EdgeTriggered.arrive, missed, hannounced] at hcount ⊢
      simp only [List.length_append, List.length_singleton, Bool.toNat_true, if_true] at hcount ⊢
      omega

/-- INTERNAL: an announcement without an element is accounted for. -/
theorem Balanced.stir (h : d.Balanced) : d.stir.Balanced := by
  unfold EdgeTriggered.stir
  split
  · exact h
  · rename_i hannounced
    have hcount := h.count
    rw [Bool.not_eq_true] at hannounced
    rw [missed, hannounced, Bool.toNat_false] at hcount
    exact ⟨h.inOrder, by simp only [missed, Bool.toNat_true]; omega⟩

/-- INTERNAL: an announcement becomes a report. -/
theorem Balanced.report (h : d.Balanced) (hreported : d.reported = false) :
    d.report.Balanced where
  inOrder := h.inOrder
  count := by
    have hcount := h.count
    rw [missed, hreported, Bool.toNat_false] at hcount
    simp only [EdgeTriggered.report, missed, Bool.toNat_false]
    omega

/-- INTERNAL: a report is spent on one element, or on none. -/
theorem Balanced.read (h : d.Balanced) (hreported : d.reported = true) :
    (d.read 1).Balanced where
  inOrder := by
    simp only [EdgeTriggered.read, List.append_assoc, List.take_append_drop]
    exact h.inOrder
  count := by
    have hcount := h.count
    rw [missed, hreported, Bool.toNat_true] at hcount
    simp only [EdgeTriggered.read, missed, List.length_drop, Bool.toNat_false]
    cases hunread : d.unread with
    | nil =>
      rw [hunread, List.length_nil] at hcount
      simp only [List.isEmpty_nil, List.length_nil, if_true]
      omega
    | cons x xs =>
      rw [hunread, List.length_cons] at hcount
      simp only [List.isEmpty_cons, List.length_cons, Bool.false_eq_true, if_false]
      omega

/-- INTERNAL: at rest, what is unread is what missed its announcement. -/
theorem Balanced.rests (h : d.Balanced) (hrests : d.Rests) :
    d.unread.length + d.spurious = d.missed := by
  have hcount := h.count
  rw [hrests.1, hrests.2] at hcount
  exact hcount

end Balanced

/-! ## What only grows -/

/-- What is counted does not become less, and announcements without an element stay as many. -/
def Grows (d d' : EdgeTriggered α) : Prop := d.missed ≤ d'.missed ∧ d'.spurious = d.spurious

section Grows

variable {d d' d'' : EdgeTriggered α}

/-- INTERNAL: nothing happens. -/
theorem Grows.refl (d : EdgeTriggered α) : d.Grows d := ⟨Nat.le_refl _, rfl⟩

/-- INTERNAL: one run of steps after the other. -/
theorem Grows.trans (h : d.Grows d') (h' : d'.Grows d'') : d.Grows d'' :=
  ⟨Nat.le_trans h.1 h'.1, h'.2.trans h.2⟩

/-- INTERNAL: an arrival brings its elements and its announcement. -/
theorem grows_arrive (d : EdgeTriggered α) (xs : List α) : d.Grows (d.arrive xs) := by
  refine ⟨?_, rfl⟩
  simp only [missed, arrive]
  split <;> omega

/-- INTERNAL: a report misses nothing. -/
theorem grows_report (d : EdgeTriggered α) : d.Grows d.report := ⟨Nat.le_refl _, rfl⟩

/-- INTERNAL: a read takes what is there, or finds nothing. -/
theorem grows_read (n : ℕ) (d : EdgeTriggered α) : d.Grows (d.read n) := by
  refine ⟨?_, rfl⟩
  simp only [missed, read]
  split <;> omega

/-- INTERNAL: between two rests, what is unread grows by the announcements that were missed. -/
theorem Grows.unread_length (h : d.Grows d') (hd : d.Balanced) (hd' : d'.Balanced)
    (hrests : d.Rests) (hrests' : d'.Rests) :
    d.unread.length ≤ d'.unread.length ∧
      d'.unread.length = d.unread.length + (d'.missed - d.missed) := by
  have hcount := hd.rests hrests
  have hcount' := hd'.rests hrests'
  obtain ⟨hmissed, hspurious⟩ := h
  omega

end Grows

end EdgeTriggered

end Dhas.Library
