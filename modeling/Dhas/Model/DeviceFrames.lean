import Dhas.Library.Run
import Dhas.Program.InsteonDevices

/-!
# A device and its frames

One device that gets frames, of any kind and in any order, while messages to it are
acknowledged by the modem in between.
-/

set_option autoImplicit false

namespace Dhas.Model

open Dhas.Program

namespace DeviceFrames

inductive Act where
  | onInsteonMessage (buf : FrameBuffer)
  | setLastDirectMessageSent (t : ℤ) (cmd : InsteonDirectMessage)

def step (d : InsteonDevice) : Act → Option InsteonDevice
  | .onInsteonMessage buf => some (d.onInsteonMessage buf).device
  | .setLastDirectMessageSent t cmd => some (d.setLastDirectMessageSent t cmd)

/-- The 'level' of the device in the listing. -/
def listed (d : InsteonDevice) : Option JSONValue := d.toJSON.get "level"

/-- The frame is taken for the answer to the first status request. -/
def IsFirstStatus (d : InsteonDevice) (buf : FrameBuffer) : Prop :=
  buf.status = 0b001 ∧ ackedCommand d buf = 0x19 ∧ d.mInitialized = false

end DeviceFrames

end Dhas.Model
