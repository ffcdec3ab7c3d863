import Dhas.Program.InsteonDevices

/-!
# Duplicate ACKs

An ACK that a device accepts makes it forget the command byte of its last message. A second
ACK with the same command byte is then ignored, unless this byte is 0, which only the answer to
a status request has. That one is handled again, but it is no longer taken for the answer to a
status request, and no device does anything with the command 0.
-/

set_option autoImplicit false

namespace Dhas.Analysis

open Dhas.Program

/-- INTERNAL: an ACK with command 0 that no status request is remembered for does nothing.
SOURCE: SwitchDevice.cpp:61-119, IOLinc.cpp:55-93, EZFloraDevice.cpp:98-117 -/
theorem processEvent_zero {d : InsteonDevice} {buf : FrameBuffer} (hstatus : buf.status = 0b001)
    (hcmd1 : buf.cmd1 = 0) (hlast : d.mLastDirectMessageSent.cmd1 = 0) :
    d.processEvent buf = ⟨d, [], []⟩ := by
  have hcommand : ackedCommand d buf = 0 := by
    unfold ackedCommand
    rw [hlast, if_neg (by decide), hcmd1]
  unfold InsteonDevice.processEvent
  cases d.deviceClass with
  | switchDevice =>
    show SwitchDevice.processEvent d buf = _
    unfold SwitchDevice.processEvent
    simp only [hstatus, hcommand, if_true]
    rw [if_neg (by decide), if_neg (by decide), if_neg (by decide)]
  | ezFlora mStatusByte mMeter =>
    show EZFloraDevice.processEvent d mStatusByte mMeter buf = _
    unfold EZFloraDevice.processEvent
    rw [hstatus, hcmd1, if_neg (by decide)]
  | ioLinc =>
    show IOLinc.processEvent d buf = _
    unfold IOLinc.processEvent
    rw [if_pos hstatus, hcommand, if_neg (by decide)]

/-- INTERNAL: an ACK leaves a device as it is that waits for nothing.
SOURCE: InsteonDevice.cpp:139-144 -/
theorem afterEvent_settled {d : InsteonDevice} {buf : FrameBuffer} (hstatus : buf.status = 0b001)
    (hidle : d.mTransmissionStatus = .Idle) (hlast : d.mLastDirectMessageSent.cmd1 = 0) :
    d.afterEvent buf = d := by
  obtain ⟨deviceClass, name, id, time, ⟨extended, cmd1, cmd2, data⟩, initialized, param,
    status⟩ := d
  cases hidle
  cases hlast
  unfold InsteonDevice.afterEvent
  rw [if_pos hstatus]
  rfl

/-- INTERNAL: what a device remembers behind an ACK that it has accepted.
SOURCE: InsteonDevice.cpp:137-144 -/
theorem onInsteonMessage_settles {d : InsteonDevice} {buf : FrameBuffer}
    (hstatus : buf.status = 0b001) (haccepted : d.ignoresAck buf = false) :
    (d.onInsteonMessage buf).device.mTransmissionStatus = .Idle ∧
      (d.onInsteonMessage buf).device.mLastDirectMessageSent.cmd1 = 0 := by
  rw [InsteonDevice.onInsteonMessage_accepted haccepted]
  unfold InsteonDevice.afterEvent
  rw [if_pos hstatus]
  exact ⟨rfl, rfl⟩

/-- **Duplicate ACKs are harmless.** For every device in every state and every ACK frame: the
same frame once more leaves the device as it is, adds no event and writes nothing to the modem.
SOURCE: InsteonDevice.cpp:108-152, SwitchDevice.cpp:61-155, IOLinc.cpp:55-112,
EZFloraDevice.cpp:98-166 -/
theorem duplicate_ack_harmless (d : InsteonDevice) (buf : FrameBuffer)
    (hstatus : buf.status = 0b001) :
    (d.onInsteonMessage buf).device.onInsteonMessage buf =
      ⟨(d.onInsteonMessage buf).device, [], []⟩ := by
  cases hignored : d.ignoresAck buf with
  | true =>
    have hfirst := InsteonDevice.onInsteonMessage_ignored hignored
    rw [hfirst]
    exact hfirst
  | false =>
    obtain ⟨hidle, hlast⟩ := onInsteonMessage_settles hstatus hignored
    generalize (d.onInsteonMessage buf).device = d' at hidle hlast
    by_cases hcmd1 : buf.cmd1 = 0
    · have haccepted : d'.ignoresAck buf = false := by
        rw [InsteonDevice.ignoresAck_eq_false_iff hstatus]
        exact fun hne => absurd (hlast.trans hcmd1.symm) hne
      rw [InsteonDevice.onInsteonMessage_accepted haccepted,
        processEvent_zero hstatus hcmd1 hlast, afterEvent_settled hstatus hidle hlast]
    · apply InsteonDevice.onInsteonMessage_ignored
      rw [← Bool.not_eq_false, InsteonDevice.ignoresAck_eq_false_iff hstatus, hlast]
      intro haccepted
      have hne : (0 : UInt8) ≠ buf.cmd1 := fun h => hcmd1 h.symm
      exact absurd (haccepted hne) (by decide)

/-- An ACK with command 0x11 reaches a switch that has sent this command, twice. -/
theorem duplicate_ack_harmless_on :
    (((InsteonDevice.new .switchDevice [] 1 ⟨false, 0x11, 255, []⟩).onInsteonMessage
      [0, 0x50, 0, 0, 1, 0, 0, 0, 0x2F, 0x11, 255]).device.onInsteonMessage
        [0, 0x50, 0, 0, 1, 0, 0, 0, 0x2F, 0x11, 255]).json = [] := by
  rw [duplicate_ack_harmless _ _ (by decide)]

end Dhas.Analysis
