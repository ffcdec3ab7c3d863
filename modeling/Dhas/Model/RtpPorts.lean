import Dhas.Library.Run
import Dhas.Program.SoundDeviceFactory

/-!
# The sessions of a factory

Sessions are created by one factory, by `makeCall` and `onOffer`, and destroyed in any order.
`created` numbers them.
-/

set_option autoImplicit false

namespace Dhas.Model

open Dhas.Library Dhas.Program Dhas.Program.Sound

structure LiveSession where
  number : ℕ
  session : RTPSession

structure RtpPorts where
  factory : SoundDeviceFactory
  created : ℕ
  live : List LiveSession

namespace RtpPorts

inductive Act where
  /-- `makeCall` or `onOffer` -/
  | createRTPSession
  /-- `~RTPSession` -/
  | destroy (number : ℕ)

/-- The factory of `SIPEngine`. SOURCE: SIPEngine.cpp:30-31 -/
def init (rtplow rtphigh : ℕ) (localip : CString) : RtpPorts where
  factory := (SoundDeviceFactory.new rtplow rtphigh).setLocalIP localip
  created := 0
  live := []

/-- Both callers use the session that they get. `capacity` is that of a sound queue. -/
def step (capacity : ℕ) (s : RtpPorts) : Act → Option RtpPorts
  | .createRTPSession =>
    match s.factory.createRTPSession capacity with
    | (some session, factory) =>
      some ⟨factory, s.created + 1, ⟨s.created, session⟩ :: s.live⟩
    | (none, _) => none
  | .destroy number =>
    if number ∈ s.live.map LiveSession.number then
      some { s with live := s.live.filter fun e => e.number ≠ number }
    else none

/-- The local ports of the sessions alive. -/
def ports (s : RtpPorts) : List ℕ := s.live.map fun e => e.session.mLocalPort

end RtpPorts

end Dhas.Model
