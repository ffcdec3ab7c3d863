import Dhas.Model.DyingLink

/-!
# Reading a message when the link dies

The loop of `waitForUnsolicitedMessage` ends for a return code below -1, "because -2 =
stopping". `getByte` has no such code: it gives -1 for a port without data and for a port that
is closed. So the loop ends only by what it has read: a type that it does not know, or a
complete message. When the peer closes the connection before that, it reads -1 forever, and
nothing reconnects.
-/

set_option autoImplicit false

namespace Dhas.Analysis.LinkDeath

open Dhas.Program Dhas.Model
open Dhas.Program.InsteonModem Dhas.Model.DyingLink

/-- INTERNAL: behind the type, the loop ends when the message is complete.
SOURCE: InsteonModem.cpp:135-193 -/
theorem contents_isSome {index length : ℕ} (hindex : 1 < index) (hlength : index < length)
    (cmd : UInt8) (buf : FrameBuffer) (now : ℤ) (reads : List ReadResult) :
    (unsolicitedLoop index cmd length buf now reads).isSome = true ↔
      length ≤ index + (reads.filterMap ReadResult.byte).length := by
  induction reads generalizing index buf now with
  | nil =>
    have hlt : ¬ length ≤ index := by omega
    simpa [unsolicitedLoop] using hlt
  | cons r reads ih =>
    cases hbyte : r.byte with
    | none =>
      rw [List.filterMap_cons_none hbyte, ← ih hindex hlength buf (now + r.elapsed)]
      simp only [unsolicitedLoop, hbyte]
    | some b =>
      have hne : index ≠ 1 := by omega
      rw [List.filterMap_cons_some hbyte, List.length_cons]
      simp only [unsolicitedLoop, hbyte, if_neg hne]
      by_cases hlast : index + 1 = length
      · rw [if_pos hlast]
        exact iff_of_true rfl (by omega)
      · rw [if_neg hlast, ih (by omega) (by omega)]
        omega

/-- INTERNAL: the loop ends when what it has read decides what becomes of the message.
SOURCE: InsteonModem.cpp:128-193 -/
theorem unsolicitedLoop_isSome (buf : FrameBuffer) (now : ℤ) (reads : List ReadResult) :
    (unsolicitedLoop 1 0 0 buf now reads).isSome = true ↔
      MessageOver (reads.filterMap ReadResult.byte) := by
  induction reads generalizing now with
  | nil => simp [unsolicitedLoop, MessageOver]
  | cons r reads ih =>
    cases hbyte : r.byte with
    | none =>
      rw [List.filterMap_cons_none hbyte, ← ih (now + r.elapsed)]
      simp only [unsolicitedLoop, hbyte]
    | some type =>
      rw [List.filterMap_cons_some hbyte]
      simp only [unsolicitedLoop, hbyte, if_true]
      cases htype : messageLength type with
      | none =>
        refine iff_of_true rfl fun length hlength => ?_
        rw [htype] at hlength
        cases hlength
      | some length =>
        have htwo := (messageLength_bounds htype).1
        have hover : MessageOver (type :: reads.filterMap ReadResult.byte) ↔
            length ≤ 2 + (reads.filterMap ReadResult.byte).length := by
          rw [Nat.add_comm]
          constructor
          · intro h
            exact h length htype
          · intro h length' hlength'
            rw [htype] at hlength'
            cases hlength'
            exact h
        rw [hover]
        simp only [Option.map_some]
        by_cases hlast : 1 + 1 = length
        · rw [if_pos hlast]
          exact iff_of_true rfl (by omega)
        · rw [if_neg hlast]
          exact contents_isSome (by omega) (by omega) type _ _ reads

/-- INTERNAL: what is decided stays decided when more bytes come. -/
theorem messageOver_append {bytes : List UInt8} (h : MessageOver bytes) (more : List UInt8) :
    MessageOver (bytes ++ more) := by
  cases bytes with
  | nil => exact h.elim
  | cons type contents =>
    intro length hlength
    have hle := h length hlength
    show length ≤ (contents ++ more).length + 2
    rw [List.length_append]
    omega

/-- INTERNAL: one more read. -/
theorem received_succ (p : IPSerialPort) (reads : ℕ → LinkRead) (n : ℕ) :
    received p reads (n + 1) = received p reads n ++ (readAt p reads n).byte.toList := by
  unfold received firstReads
  rw [List.range_succ, List.map_append, List.filterMap_append, List.map_singleton]
  cases hbyte : (readAt p reads n).byte <;> simp [hbyte]

/-- INTERNAL: what was received stays received. -/
theorem received_add (p : IPSerialPort) (reads : ℕ → LinkRead) (n k : ℕ) :
    ∃ more, received p reads (n + k) = received p reads n ++ more := by
  induction k with
  | zero => exact ⟨[], (List.append_nil _).symm⟩
  | succ k ih =>
    obtain ⟨more, hmore⟩ := ih
    refine ⟨more ++ (readAt p reads (n + k)).byte.toList, ?_⟩
    rw [← Nat.add_assoc, received_succ, hmore, List.append_assoc]

/-- INTERNAL: a port whose peer has closed the connection stays closed, and gives no byte.
SOURCE: IPSerialPort.cpp:66-103 -/
theorem closed_after {p : IPSerialPort} {reads : ℕ → LinkRead} {n : ℕ}
    (hclose : (reads n).result = .failed) (k : ℕ) :
    (portAt p reads (n + 1 + k)).mSocket = false := by
  induction k with
  | zero =>
    show ((portAt p reads n).Read 1 (reads n).result).1.mSocket = false
    rw [hclose]
    unfold IPSerialPort.Read
    split
    · assumption
    · rfl
  | succ k ih =>
    show ((portAt p reads (n + 1 + k)).Read 1 (reads (n + 1 + k)).result).1.mSocket = false
    unfold IPSerialPort.Read
    rw [if_pos ih]
    exact ih

/-- INTERNAL: nothing is received from the read on that finds the connection closed.
SOURCE: IPSerialPort.cpp:66-103 -/
theorem received_after {p : IPSerialPort} {reads : ℕ → LinkRead} {n : ℕ}
    (hclose : (reads n).result = .failed) (k : ℕ) :
    received p reads (n + k) = received p reads n := by
  induction k with
  | zero => rfl
  | succ k ih =>
    have hbyte : (readAt p reads (n + k)).byte = none := by
      show ((portAt p reads (n + k)).Read 1 (reads (n + k)).result).2.bind List.head? = none
      cases k with
      | zero =>
        rw [Nat.add_zero, hclose]
        unfold IPSerialPort.Read
        split <;> rfl
      | succ k =>
        have hclosed := closed_after (p := p) hclose k
        rw [Nat.add_assoc, Nat.add_comm 1 k] at hclosed
        unfold IPSerialPort.Read
        rw [if_pos hclosed]
        rfl
    rw [← Nat.add_assoc, received_succ, hbyte, ih]
    exact List.append_nil _

/-- INTERNAL: the loop returns when some number of reads is enough.
SOURCE: InsteonModem.cpp:106-194 -/
theorem returns_iff_exists {σ : Type} (H : IInsteonMessageHandler σ) (m : InsteonModem σ)
    (p : IPSerialPort) (reads : ℕ → LinkRead) :
    Returns H m p reads ↔ ∃ k, MessageOver (received p reads k) := by
  apply exists_congr
  intro k
  unfold waitForUnsolicitedMessage
  rw [Option.isSome_map, advance_now, advance_reads]
  exact unsolicitedLoop_isSome _ _ _

/-- INTERNAL: after the close no further read decides anything.
SOURCE: IPSerialPort.cpp:66-103 -/
theorem exists_messageOver_iff {p : IPSerialPort} {reads : ℕ → LinkRead} {n : ℕ}
    (hclose : (reads n).result = .failed) :
    (∃ k, MessageOver (received p reads k)) ↔ MessageOver (received p reads n) := by
  refine ⟨?_, fun hover => ⟨n, hover⟩⟩
  rintro ⟨k, hover⟩
  rcases Nat.le_total k n with hle | hle
  · obtain ⟨more, hmore⟩ := received_add p reads k (n - k)
    rw [Nat.add_sub_cancel' hle] at hmore
    rw [hmore]
    exact messageOver_append hover more
  · have hsame := received_after (p := p) hclose (k - n)
    rw [Nat.add_sub_cancel' hle] at hsame
    rw [← hsame]
    exact hover

/-- **Reading a message stops when the link dies, exactly when there is nothing more to read.**
For every port, whatever it gives before the peer closes the connection at the read `n` and
after that: `waitForUnsolicitedMessage` returns after finitely many reads if and only if the
bytes before the close have an unknown type or make a complete message.
SOURCE: InsteonModem.cpp:106-194, IPSerialPort.cpp:66-103 -/
theorem returns_iff {σ : Type} (H : IInsteonMessageHandler σ) (m : InsteonModem σ)
    (p : IPSerialPort) (reads : ℕ → LinkRead) (n : ℕ) (hclose : (reads n).result = .failed) :
    Returns H m p reads ↔ MessageOver (received p reads n) :=
  (returns_iff_exists H m p reads).trans (exists_messageOver_iff hclose)

/-- A connection that gives these bytes and is then closed. -/
def closing (bytes : List UInt8) (n : ℕ) : LinkRead :=
  match bytes[n]? with
  | some b => ⟨0, .data [b]⟩
  | none => ⟨0, .failed⟩

/-- A handler that does nothing. -/
def noHandler : IInsteonMessageHandler Unit where
  onInsteonMessage := fun _ _ s => ⟨s, [], false⟩
  onInsteonAllLinkRecordResponse := fun _ _ s => ⟨s, [], false⟩
  onInsteonMessageSent := fun _ _ _ s => ⟨s, [], false⟩

/-- A modem on a connected port. -/
def newModem : InsteonModem Unit := .new ⟨true, true, []⟩ false () 0

/-- The message 0x55 is complete with its type. -/
theorem returns_closing_complete : Returns noHandler newModem ⟨true, 0, false⟩ (closing [0x55]) :=
  (returns_iff noHandler newModem ⟨true, 0, false⟩ (closing [0x55]) 1 rfl).mpr
    (fun length h => by cases h; decide)

/-- The connection is closed behind the type of a standard message. -/
theorem closing_never_returns :
    (closing [0x50] 1).result = .failed ∧
      ¬ Returns noHandler newModem ⟨true, 0, false⟩ (closing [0x50]) := by
  have hclose : (closing [0x50] 1).result = .failed := rfl
  refine ⟨hclose, ?_⟩
  rw [returns_iff_exists, exists_messageOver_iff hclose]
  intro hover
  exact absurd (hover 11 rfl) (by decide)

end Dhas.Analysis.LinkDeath
