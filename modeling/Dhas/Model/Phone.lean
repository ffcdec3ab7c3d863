import Dhas.Library.Run
import Dhas.Program.Telephony

/-!
# The calls under every order of commands and callbacks

The thread of the dialog usage manager executes the commands of its queue and the callbacks
of the SIP stack, one at a time; the REST callbacks post commands from their own thread, and
so does the sound thread of a call. The order is left open.

`SIPEngine.cpp:143-181` (`makeCall`), `260-327` (`onProvisional`, `onConnected`, `onAnswer`),
`PhoneModule.cpp:156-159` (`onAnswer`). Sounds are left to `Dhas.Model.PhoneSound`: here the
notification that a sound queue is empty may come at any time.
-/

set_option autoImplicit false

namespace Dhas.Model

open Dhas.Library Dhas.Program

inductive PhoneAct where
  -- the REST callbacks
  | asyncAddAction (call : CallId) (actionClass : PhoneActionClass)
  | releaseCall (call : CallId)
  -- the sound thread of a call
  | onSoundQueueEmpty (call : CallId) (seen : ℕ)
  -- `makeCall` of a REST callback, or an incoming call (`onNewCallUas`)
  | newCall (incomming : Bool)
  -- the thread of the dialog usage manager
  | onProvisional (call : CallId)
  | onConnected (call : CallId)
  | onAnswer (call : CallId)
  | dumPost
  | dumProcess
  | destroyCall (call : CallId)

/-- A callback for a live call; the thread of the dialog usage manager is not executing a
command. -/
def callback (p : Telephony) (c : CallId) (k : Call → Option Telephony) : Option Telephony :=
  if p.posting = [] then (p.calls c).bind k else none

/-- 180: the call rings. SOURCE: SIPEngine.cpp:260-280 -/
def onProvisional (p : Telephony) (c : CallId) : Option Telephony :=
  callback p c fun call =>
    if call.mCallState = .Initial then
      some (p.setCall c (some { call with mCallState := .Ringing }))
    else some p

/-- The ACK of an incoming call: nothing is posted. SOURCE: SIPEngine.cpp:286-296 -/
def onConnected (p : Telephony) (c : CallId) : Option Telephony :=
  callback p c fun call =>
    if call.mIncomming then some (p.setCall c (some { call with mCallState := .Answered }))
    else none

/-- The answer to an outgoing call. SOURCE: SIPEngine.cpp:306-323, PhoneModule.cpp:156-159 -/
def onAnswer (p : Telephony) (c : CallId) : Option Telephony :=
  callback p c fun call =>
    if call.mIncomming then none
    else some ((p.setCall c (some { call with mCallState := .Answered })).onCallAnswered c)

/-- One step of one of the threads. -/
def phoneStep (p : Telephony) : PhoneAct → Option Telephony
  | .asyncAddAction c k => if c < p.callCount then some (p.asyncAddAction c k) else none
  | .releaseCall c => if c < p.callCount then some (p.releaseCall c) else none
  | .onSoundQueueEmpty c seen => if c < p.callCount then some (p.onSoundQueueEmpty c seen) else none
  | .newCall incomming => some (p.newCall incomming)
  | .onProvisional c => onProvisional p c
  | .onConnected c => onConnected p c
  | .onAnswer c => onAnswer p c
  | .dumPost => p.dumPost
  | .dumProcess => if p.posting = [] then p.dumProcess.map Prod.fst else none
  | .destroyCall c => callback p c fun _ => p.destroyCall c

end Dhas.Model
