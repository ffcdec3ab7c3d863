import Dhas.Model.AckDelivery

/-!
# Which command an ACK completes

A device that waits compares the command byte of an ACK with that of the last message it
sent. The comparison cannot tell a late ACK of an earlier transmission from the one that is
awaited when both are of the same command, and it is not made at all while a status request
is awaited.
-/

set_option autoImplicit false

namespace Dhas.Analysis

open Dhas.Library Dhas.Program Dhas.Model
open Dhas.Model.AckDelivery

/-- A waiting device took a frame for the answer: it became idle, its level changed, or the
command of the last message was cleared. -/
def Accepts (d d' : InsteonDevice) : Prop :=
  d'.mTransmissionStatus = .Idle ∨ d'.mDeviceParameter ≠ d.mDeviceParameter ∨
    (d.mLastDirectMessageSent.cmd1 ≠ 0 ∧ d'.mLastDirectMessageSent.cmd1 = 0)

/-- Whenever a waiting device accepts an ACK, it is that of the transmission it has
recorded. -/
def CompletesItsCommand (s : AckDelivery) : Act → Prop
  | .deliver tag buf =>
    s.device.mTransmissionStatus = .WaitingAckOfDirectMessage →
      Accepts s.device (s.handle buf).device → s.recorded = some tag
  | _ => True

/-- What a delivery must meet: an ACK that reaches a waiting device answers the recorded
transmission, or differs from its command byte, which is not that of a status request. -/
def Distinguishable (s : AckDelivery) : Act → Prop
  | .deliver tag buf =>
    s.device.mTransmissionStatus = .WaitingAckOfDirectMessage → s.recorded ≠ some tag →
      s.device.mLastDirectMessageSent.cmd1 ≠ buf.cmd1 ∧
        s.device.mLastDirectMessageSent.cmd1 ≠ 0x19
  | _ => True

/-- INTERNAL: a waiting device accepts an ACK exactly when it does not ignore it.
SOURCE: InsteonDevice.cpp:108-152 -/
theorem accepts_iff {d : InsteonDevice} {buf : FrameBuffer} (hack : buf.status = 0b001)
    (hwait : d.mTransmissionStatus = .WaitingAckOfDirectMessage) :
    Accepts d (d.onInsteonMessage buf).device ↔ d.ignoresAck buf = false := by
  constructor
  · intro h
    by_contra hign
    have hign : d.ignoresAck buf = true := by simpa using hign
    rw [InsteonDevice.onInsteonMessage_ignored hign] at h
    rcases h with hidle | hlevel | ⟨hne, hzero⟩
    · rw [hwait] at hidle
      cases hidle
    · exact hlevel rfl
    · exact hne hzero
  · intro hign
    exact .inl (InsteonDevice.onInsteonMessage_settled ⟨hign, .inl hack⟩)

/-- INTERNAL: one step completes its own command exactly when it is distinguishable. -/
theorem completes_iff {s s' : AckDelivery} {a : Act} (h : step s a = some s') :
    CompletesItsCommand s a ↔ Distinguishable s a := by
  cases a with
  | deliver tag buf =>
    simp only [step] at h
    split at h
    case h_2 => cases h
    case h_1 cmd1 htag =>
      simp only [Option.ite_none_right_eq_some, Option.some.injEq] at h
      obtain ⟨⟨hack, -⟩, rfl⟩ := h
      apply forall_congr'
      intro hwait
      rw [handle, accepts_iff hack hwait, InsteonDevice.ignoresAck_eq_false_iff hack]
      constructor
      · intro hc hne
        by_contra hmatch
        exact hne (hc fun hother => by_contra fun hquery => hmatch ⟨hother, hquery⟩)
      · intro hd hmatch
        by_contra hne
        obtain ⟨hother, hquery⟩ := hd hne
        exact hquery (hmatch hother)
  | _ => exact Iff.rfl

/-- **In a run of a switch every ACK that it accepts while it waits answers the
recorded transmission exactly when every other ACK that is delivered meanwhile has another
command byte and no status request is awaited.** SOURCE: InsteonDevice.cpp:22-58, 108-152,
SwitchDevice.cpp:61-119 -/
theorem ackCompletes_iff (name : CString) (id : InsteonID) (unset : InsteonDirectMessage)
    (now : ℤ) (acts : List Act) :
    Along step CompletesItsCommand (init name id unset now) acts ↔
      Along step Distinguishable (init name id unset now) acts :=
  along_iff_along (I := fun _ => True) (fun _ _ _ _ h => completes_iff h)
    (fun _ _ _ _ _ _ => trivial) trivial

/-- An ACK frame with the given command bytes. -/
def ackFrame (cmd1 cmd2 : UInt8) : FrameBuffer := [0, 0x50, 0, 0, 1, 0, 0, 0, 0x2F, cmd1, cmd2]

/-- The switch is turned on, the ACK is late, and after the timeout the command is sent
again: now the first ACK arrives. -/
def lateAck : List Act :=
  [.transmit ⟨false, 0x11, 255, []⟩ true, .tick 2, .isIdle,
    .transmit ⟨false, 0x11, 255, []⟩ true, .deliver 0 (ackFrame 0x11 255)]

/-- The ACK of the first transmission completes the second.
SOURCE: InsteonDevice.cpp:123-134 -/
theorem lateAck_completes_wrong :
    ¬ Along step CompletesItsCommand (init [] 1 ⟨false, 0, 0, []⟩ 0) lateAck := by
  intro h
  have hlast := (h _ rfl).2 _ rfl |>.2 _ rfl |>.2 _ rfl |>.2 _ rfl
  exact absurd (hlast.1 rfl (.inl rfl)) (by decide)

end Dhas.Analysis
