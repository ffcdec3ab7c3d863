import Dhas.Library.Run
import Dhas.Program.SoundDevice

/-!
# The sound devices under every order of calls

Sounds are put on the queue, music is set, the queue is cleared, and the device is started and
stopped, in any order and between any two rounds of `work()` of its thread. `put` is a `play`
or a `silence`, with any bytes.
-/

set_option autoImplicit false

namespace Dhas.Model

open Dhas.Library Dhas.Program Dhas.Program.Sound

namespace SoundDevices

inductive Act where
  | put (bytes : List UInt8)
  | setMusic (filename : CString)
  | clearQueue
  | start
  | stop
  /-- with the time stamp that the RTP library gives -/
  | work (current_send_ts : ℕ)
  deriving DecidableEq

/-- One call to an RTP session, or one round of its thread. -/
def rtpStep (files : Files) (s : Sound.RTPSession) : Act → Option Sound.RTPSession
  | .put bytes => some { s with toISoundDevice := s.put bytes }
  | .setMusic filename =>
    some { s with
      toISoundDevice := s.toISoundDevice.setMusic files Sound.RTPSession.getSampleSize filename }
  | .clearQueue => some { s with toISoundDevice := s.toISoundDevice.clearQueue }
  | .start => s.start
  | .stop => some s.stop
  | .work current_send_ts => if s.joinable then s.work current_send_ts else none

/-- One call to a sound card, or one round of its thread. `pcm` is the card that `start()`
opens; the sample size is asked of the open card. -/
def cardStep (files : Files) (pcm : AlsaPCM) (s : SoundCard) : Act → Option SoundCard
  | .put bytes => s.mpAlsaPCM.map fun pcm =>
    if pcm.sampleSize = 0 then s else { s with toISoundDevice := s.put bytes }
  | .setMusic filename => s.mpAlsaPCM.map fun pcm =>
    { s with toISoundDevice := s.toISoundDevice.setMusic files pcm.sampleSize filename }
  | .clearQueue => some { s with toISoundDevice := s.toISoundDevice.clearQueue }
  | .start => s.start pcm
  | .stop => some s.stop
  | .work _ => if s.joinable then s.work else none

end SoundDevices

end Dhas.Model
