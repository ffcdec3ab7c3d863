import Dhas.Library.Run
import Dhas.Program.InsteonModule

/-!
# A switch and its load

A switch in the wall, which obeys the direct messages that reach it, and the `SwitchDevice` that
follows it. Each command is one step: the device writes its message, the modem acknowledges it,
the switch obeys and acknowledges, and the device gets this ACK before anything else is sent.
Nothing is lost and nobody touches the switch.

The ACK echoes both command bytes. That of a status request has the level in the second one, and
whatever it likes in the first.
-/

set_option autoImplicit false

namespace Dhas.Model

open Dhas.Program

structure SwitchLoad where
  device : InsteonDevice
  /-- the level of the switch in the wall -/
  physical : UInt8

namespace SwitchLoad

inductive Command where
  | turnOnOrOff (on : Bool) (level subdev : UInt8)
  | toggle (subdev : UInt8)
  /-- a status request -/
  | query

structure Act where
  command : Command
  /-- the time at which the modem acknowledges the message -/
  t : ℤ
  /-- the ACK of the switch -/
  ack : FrameBuffer

/-- The messages that the command writes. -/
def messages (d : InsteonDevice) : Command → List IInsteonMessage
  | .turnOnOrOff on level subdev => d.turnOnOrOff on level subdev
  | .toggle subdev => d.toggle subdev
  | .query => [standardMessage d.mID 0x19 0]

/-- What the switch makes of a direct message. -/
def obey (msg : InsteonDirectMessage) (level : UInt8) : UInt8 :=
  if msg.cmd1 = 0x11 ∨ msg.cmd1 = 0x12 then msg.cmd2
  else if msg.cmd1 = 0x13 ∨ msg.cmd1 = 0x14 then 0
  else level

/-- The frame is the ACK of a switch that is now at the level. -/
def Answers (msg : InsteonDirectMessage) (level : UInt8) (buf : FrameBuffer) : Prop :=
  buf.status = 0b001 ∧
    if msg.cmd1 = 0x19 then buf.cmd2 = level else buf.cmd1 = msg.cmd1 ∧ buf.cmd2 = msg.cmd2

instance (msg : InsteonDirectMessage) (level : UInt8) (buf : FrameBuffer) :
    Decidable (Answers msg level buf) :=
  inferInstanceAs (Decidable (_ ∧ _))

def step (s : SwitchLoad) (a : Act) : Option SwitchLoad :=
  match messages s.device a.command with
  | [cmd] =>
    let msg := Insteon.directMessage cmd
    let physical := obey msg s.physical
    if Answers msg physical a.ack then
      some { device := ((s.device.setLastDirectMessageSent a.t msg).onInsteonMessage a.ack).device
             physical := physical }
    else none
  | _ => none

end SwitchLoad

end Dhas.Model
