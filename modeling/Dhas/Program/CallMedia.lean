import Dhas.Program.SoundDeviceFactory
import Dhas.Program.Telephony

/-!
# The media sessions of a call

The RTP sessions in `modules/Phone/Call.cpp` and `SIPEngine.cpp`: they are created by
`makeCall` and `onOffer`, belong to the call through `mRtpSession`, are started by `onAnswer`
and `onConnected`, stopped by `onTerminated` and deleted by `~Call`. Sessions are objects on
the heap; the other members of a call and its actions are in `Dhas.Program.Telephony`.

Of the session descriptions only the local address is kept. A call through a null pointer
gives `none`, and so does the `start()` of a session that was stopped, which hands a null pointer
to the RTP library. `stopped`, which records the sessions whose `stop()` returned, and
`terminated`, which says that a thread was assigned to a joinable one and the program was aborted,
are not in the source.
-/

set_option autoImplicit false

namespace Dhas.Program

open Dhas.Program.Sound

abbrev SessionId := ℕ

/-- What `mInviteSessionHandle` refers to. -/
inductive InviteSession where
  | server
  | client
  deriving DecidableEq

structure CallMedia where
  factory : SoundDeviceFactory
  sessions : SessionId → Option Sound.RTPSession
  /-- sessions below this were created -/
  created : ℕ
  mRtpSession : Option SessionId
  mCallState : CallState
  mIncomming : Bool
  mInviteSessionHandle : Option InviteSession
  /-- the local addresses in the offer and the answers that were sent -/
  described : List (CString × ℕ)
  stopped : List SessionId
  terminated : Bool

namespace CallMedia

def setSession (c : CallMedia) (n : SessionId) (session : Option Sound.RTPSession) : CallMedia :=
  { c with sessions := Function.update c.sessions n session }

/-- `new Call(dum, am)` -/
def newCall (factory : SoundDeviceFactory) : CallMedia where
  factory := factory
  sessions := fun _ => none
  created := 0
  mRtpSession := none
  mCallState := .Initial
  mIncomming := false
  mInviteSessionHandle := none
  described := []
  stopped := []
  terminated := false

/-- `getRTPSession()`, to be used: the session and its address. -/
def getRTPSession (c : CallMedia) : Option (SessionId × Sound.RTPSession) :=
  c.mRtpSession.bind fun n => (c.sessions n).map (n, ·)

/-- `createRTPSession()` and `setRTPSession(rtpSession)`. The session that the call had is
not looked at. -/
def createRTPSession (c : CallMedia) (capacity : ℕ) : Option CallMedia :=
  match c.factory.createRTPSession capacity with
  | (some session, factory) =>
    some { c.setSession c.created (some session) with
      factory := factory
      created := c.created + 1
      mRtpSession := some c.created }
  | (none, _) => none

/-- The local address goes into a session description. -/
def describe (c : CallMedia) (session : Sound.RTPSession) : CallMedia :=
  { c with described := c.described ++ [(session.mLocalIP, session.mLocalPort)] }

/-- `rtpSession->start()`: a thread that is assigned to a joinable one aborts the program. -/
def start (c : CallMedia) (n : SessionId) (session : Sound.RTPSession) : Option CallMedia :=
  if session.joinable then some { c with terminated := true }
  else session.start.map fun session => c.setSession n (some session)

/-- `rtpSession->stop()` -/
def stop (c : CallMedia) (n : SessionId) (session : Sound.RTPSession) : CallMedia :=
  { c.setSession n (some session.stop) with stopped := c.stopped ++ [n] }

/-- `delete rtpSession`, whose destructor calls `stop()`. -/
def delete (c : CallMedia) (n : SessionId) (session : Sound.RTPSession) : CallMedia :=
  (c.stop n session).setSession n none

/-- `makeCall`, with the call that it constructs. SOURCE: SIPEngine.cpp:152-161 -/
def makeCall (factory : SoundDeviceFactory) (capacity : ℕ) : Option CallMedia :=
  ((newCall factory).createRTPSession capacity).bind fun c =>
    c.getRTPSession.map fun (_, session) => c.describe session

/-- SOURCE: SIPEngine.cpp:380-399 -/
def onNewSessionServer (c : CallMedia) : CallMedia :=
  { c with mInviteSessionHandle := some .server, mIncomming := true }

/-- SOURCE: SIPEngine.cpp:401-406 -/
def onNewSessionClient (c : CallMedia) : CallMedia :=
  { c with mInviteSessionHandle := some .client }

/-- Only a server session is answered. SOURCE: SIPEngine.cpp:443-473 -/
def answerIncomming (c : CallMedia) : Option CallMedia :=
  c.getRTPSession.map fun (_, session) =>
    if c.mInviteSessionHandle = some .server then c.describe session else c

/-- SOURCE: SIPEngine.cpp:424-441 -/
def onOffer (c : CallMedia) (capacity : ℕ) (peerIP : CString) (peerPort : ℕ) : Option CallMedia :=
  (c.createRTPSession capacity).bind fun c =>
    c.getRTPSession.bind fun (n, session) =>
      (c.setSession n (some (session.setPeerAddress peerIP peerPort))).answerIncomming

/-- SOURCE: SIPEngine.cpp:306-322 -/
def onAnswer (c : CallMedia) (peerIP : CString) (peerPort : ℕ) : Option CallMedia :=
  c.getRTPSession.bind fun (n, session) =>
    (c.start n (session.setPeerAddress peerIP peerPort)).map fun c =>
      { c with mCallState := .Answered }

/-- SOURCE: SIPEngine.cpp:286-296 -/
def onConnected (c : CallMedia) : Option CallMedia :=
  c.getRTPSession.bind fun (n, session) =>
    { c with mCallState := .Answered }.start n session

/-- SOURCE: SIPEngine.cpp:408-422 -/
def onTerminated (c : CallMedia) : CallMedia :=
  match c.getRTPSession with
  | some (n, session) => c.stop n session
  | none => c

/-- `~Call`, without the chain of its actions. SOURCE: Call.cpp:20-29 -/
def destroyCall (c : CallMedia) : CallMedia :=
  match c.getRTPSession with
  | some (n, session) => { c.delete n session with mRtpSession := none }
  | none => c

end CallMedia

end Dhas.Program
