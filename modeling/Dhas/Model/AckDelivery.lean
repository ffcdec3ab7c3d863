import Dhas.Library.Run
import Dhas.Program.InsteonDevices

/-!
# Delivery of device ACKs

One switch and a network that may deliver the ACK of any earlier transmission, as late, as
often and in whatever order it likes. Every transmission of a direct message is tagged by
its number; `sent` keeps the first command byte of each, and `recorded` is the tag of the
one in `mLastDirectMessageSent`.

The ACK of a command repeats its first byte, except that of a status request (0x19), which
carries a byte of the device's link database there.
-/

set_option autoImplicit false

namespace Dhas.Model

open Dhas.Program

structure AckDelivery where
  device : InsteonDevice
  now : ℤ
  sent : List UInt8
  recorded : Option ℕ

namespace AckDelivery

inductive Act where
  /-- the clock goes on -/
  | tick (seconds : ℕ)
  /-- a direct message is transmitted; the flag: the modem's echo came, and
  `setLastDirectMessageSent` is called -/
  | transmit (msg : InsteonDirectMessage) (echoed : Bool)
  /-- the loop of the module asks the device -/
  | isIdle
  /-- the ACK of a transmission arrives -/
  | deliver (tag : ℕ) (buf : FrameBuffer)
  /-- any other frame of the device arrives, such as a NAK -/
  | receive (buf : FrameBuffer)

/-- A new switch. -/
def init (name : CString) (id : InsteonID) (unset : InsteonDirectMessage) (now : ℤ) :
    AckDelivery where
  device := (SwitchDevice.new name id unset).1
  now := now
  sent := []
  recorded := none

/-- The frame is an ACK of a command. -/
def IsAckOf (cmd1 : UInt8) (buf : FrameBuffer) : Prop :=
  buf.status = 0b001 ∧ (cmd1 = 0x19 ∨ buf.cmd1 = cmd1)

instance (cmd1 : UInt8) (buf : FrameBuffer) : Decidable (IsAckOf cmd1 buf) :=
  inferInstanceAs (Decidable (_ ∧ _))

/-- The device gets a frame. -/
def handle (s : AckDelivery) (buf : FrameBuffer) : AckDelivery :=
  { s with device := (s.device.onInsteonMessage buf).device }

def step (s : AckDelivery) : Act → Option AckDelivery
  | .tick seconds => some { s with now := s.now + seconds }
  | .transmit msg echoed =>
    let s' := { s with sent := s.sent ++ [msg.cmd1] }
    some (if echoed then
      { s' with
        device := s.device.setLastDirectMessageSent s.now msg
        recorded := some s.sent.length }
    else s')
  | .isIdle => some { s with device := (s.device.isIdle s.now).2 }
  | .deliver tag buf =>
    match s.sent[tag]? with
    | some cmd1 => if IsAckOf cmd1 buf then some (s.handle buf) else none
    | none => none
  | .receive buf => if buf.status = 0b001 then none else some (s.handle buf)

end AckDelivery

end Dhas.Model
