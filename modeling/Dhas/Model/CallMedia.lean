import Dhas.Library.Run
import Dhas.Program.CallMedia

/-!
# A call under every order of callbacks

The SIP stack calls back in any order, with any offers and answers, until the call is
destroyed. The factory is the one of the engine; other calls may have moved its counter.
-/

set_option autoImplicit false

namespace Dhas.Model

open Dhas.Library Dhas.Program Dhas.Program.Sound

namespace CallMedia

inductive Callback where
  | onNewSessionServer
  | onNewSessionClient
  | onOffer (peerIP : CString) (peerPort : ℕ)
  | onAnswer (peerIP : CString) (peerPort : ℕ)
  | onConnected
  | onTerminated

/-- How the call came to be. -/
inductive Beginning where
  | makeCall
  | incomming

/-- The factory of the engine, with its counter at any port. -/
def engineFactory (rtplow rtphigh next : ℕ) (localip : CString) : SoundDeviceFactory :=
  { (SoundDeviceFactory.new rtplow rtphigh).setLocalIP localip with mNextPort := next }

/-- The call at its beginning. -/
def begin (factory : SoundDeviceFactory) (capacity : ℕ) : Beginning → Option CallMedia
  | .makeCall => CallMedia.makeCall factory capacity
  | .incomming => some (CallMedia.newCall factory)

/-- One callback. `capacity` is that of a sound queue. -/
def step (capacity : ℕ) (c : CallMedia) (callback : Callback) : Option CallMedia :=
  if c.terminated then none
  else
    match callback with
    | .onNewSessionServer => some c.onNewSessionServer
    | .onNewSessionClient => some c.onNewSessionClient
    | .onOffer peerIP peerPort => c.onOffer capacity peerIP peerPort
    | .onAnswer peerIP peerPort => c.onAnswer peerIP peerPort
    | .onConnected => c.onConnected
    | .onTerminated => some c.onTerminated

end CallMedia

end Dhas.Model
