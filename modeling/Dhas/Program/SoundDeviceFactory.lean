import Dhas.Program.SoundDevice

/-!
# The factory of the sound devices

`libs/sound/SoundDeviceFactory.cpp`: the RTP sessions get their local ports from a counter
that starts again at the low port when it reaches the high one. Ports are `unsigned int`.
-/

set_option autoImplicit false

namespace Dhas.Program.Sound

structure SoundDeviceFactory where
  mNextPort : ℕ
  mLowPort : ℕ
  mHighPort : ℕ
  mLocalIP : CString
  usingRTP : Bool

namespace SoundDeviceFactory

/-- The constructor with a range of ports. -/
def new (lport hport : ℕ) : SoundDeviceFactory where
  mHighPort := hport
  mLowPort := lport
  mNextPort := lport
  mLocalIP := []
  usingRTP := true

def setLocalIP (f : SoundDeviceFactory) (localIP : CString) : SoundDeviceFactory :=
  if f.usingRTP then { f with mLocalIP := localIP } else f

/-- The counter after one more session. -/
def portAfter (f : SoundDeviceFactory) : ℕ :=
  let mNextPort := (f.mNextPort + 2) % 2 ^ 32
  if f.mHighPort ≤ mNextPort then f.mLowPort else mNextPort

/-- `createRTPSession()`; no session without RTP. `capacity` is that of its sound queue. -/
def createRTPSession (f : SoundDeviceFactory) (capacity : ℕ) :
    Option RTPSession × SoundDeviceFactory :=
  if f.usingRTP then
    (some ((RTPSession.new capacity).setLocalAddress f.mLocalIP f.mNextPort),
      { f with mNextPort := f.portAfter })
  else (none, f)

/-- How many ports `lport`, `lport + 2`, ... there are below `hport`. -/
def portCount (lport hport : ℕ) : ℕ := (hport - lport + 1) / 2

end SoundDeviceFactory

end Dhas.Program.Sound
