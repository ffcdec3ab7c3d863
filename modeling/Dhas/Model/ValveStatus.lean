import Dhas.Library.Run
import Dhas.Program.InsteonDevices

/-!
# The valve status of an EZFlora

One EZFlora in its module: the messages to it that the modem acknowledges, among them the
extended 0x40 ones that set a program, the frames that it sends in whatever order (ACKs,
NAKs, status broadcasts), and the timeouts.
-/

set_option autoImplicit false

namespace Dhas.Model

open Dhas.Program

structure ValveStatus where
  device : InsteonDevice
  now : ℤ

namespace ValveStatus

inductive Act where
  /-- the clock goes on -/
  | tick (seconds : ℕ)
  /-- the modem acknowledged a direct message to the device -/
  | messageSent (msg : InsteonDirectMessage)
  /-- the loop of the module asks the device -/
  | isIdle
  /-- a frame of the device arrives -/
  | receive (buf : FrameBuffer)

/-- A new EZFlora. -/
def init (name : CString) (id : InsteonID) (unset : InsteonDirectMessage) (now : ℤ) :
    ValveStatus where
  device := (EZFloraDevice.new name id unset).1
  now := now

def step (s : ValveStatus) : Act → Option ValveStatus
  | .tick seconds => some { s with now := s.now + seconds }
  | .messageSent msg => some { s with device := s.device.setLastDirectMessageSent s.now msg }
  | .isIdle => some { s with device := (s.device.isIdle s.now).2 }
  | .receive buf => some { s with device := (s.device.onInsteonMessage buf).device }

end ValveStatus

/-- `mStatusByte`, which only an EZFlora has. -/
def mStatusByte (d : InsteonDevice) : Option UInt8 :=
  match d.deviceClass with
  | .ezFlora mStatusByte _ => some mStatusByte
  | .switchDevice | .ioLinc => none

/-- A status broadcast. -/
def IsStatusBroadcast (buf : FrameBuffer) : Prop := buf.status = 0b100 ∧ buf.cmd1 = 0x27

/-- The status says that a valve is open. -/
def ValveBit (status : UInt8) : Prop := status &&& 0b10000000 ≠ 0

/-- The status says that a program is running. -/
def ProgramBit (status : UInt8) : Prop := status &&& 0b00100000 ≠ 0

instance (status : UInt8) : Decidable (ValveBit status) := inferInstanceAs (Decidable (_ ≠ _))

instance (status : UInt8) : Decidable (ProgramBit status) := inferInstanceAs (Decidable (_ ≠ _))

end Dhas.Model
