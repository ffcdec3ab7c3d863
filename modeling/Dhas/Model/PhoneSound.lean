import Dhas.Program.RTPSession
import Dhas.Model.Phone

/-!
# The calls with their sounds

`Dhas.Model.Phone` with the sound queue of every call and the thread that empties it. While
the thread of the dialog usage manager puts the sounds of a play action on the queue one by
one, or clears the queue, the sound threads and the REST callbacks go on. The notification
that a queue is empty is now posted by the sound thread of the call only.

A call has one session, from its beginning to its end.
-/

set_option autoImplicit false

namespace Dhas.Model

open Dhas.Library Dhas.Program

/-- What the thread of the dialog usage manager is doing. -/
inductive DumPc where
  | idle
  /-- in the loop of `PlayPhoneAction::invoke` -/
  | playing (call : CallId) (action : ActionId) (folder : CString) (sounds : List CString)
  /-- in `clearQueue()` -/
  | clearing (call : CallId)

structure PhoneSound where
  phone : Telephony
  sessions : CallId → Option RTPSession
  pc : DumPc

namespace PhoneSound

inductive Act where
  /-- a step that is not about sounds, or that starts or ends a session too -/
  | phone (act : PhoneAct)
  /-- `PlayPhoneAction::invoke` puts the next sound on the queue -/
  | enqueueSound
  /-- `PhoneModule::onDigit` -/
  | onDigit (call : CallId)
  /-- `clearQueue` takes the next sound from the queue -/
  | clearQueue
  /-- the sound thread of a call -/
  | work (call : CallId)

def init : PhoneSound := ⟨Telephony.init, fun _ => none, .idle⟩

def setSession (s : PhoneSound) (c : CallId) (session : Option RTPSession) : PhoneSound :=
  { s with sessions := Function.update s.sessions c session }

/-- The dialog usage manager is between two commands or callbacks. -/
def whenIdle (s : PhoneSound) (k : Option PhoneSound) : Option PhoneSound :=
  match s.pc with
  | .idle => k
  | _ => none

/-- What a command does next: a play action with sounds puts them on the queue. -/
def afterCommand : Option SoundRequest → DumPc
  | some request => .playing request.call request.action request.folder request.sounds
  | none => .idle

/-- The steps of the calls. `capacity` is that of a sound queue. -/
def phoneAct (capacity : ℕ) (s : PhoneSound) (act : PhoneAct) : Option PhoneSound :=
  match act with
  | .onSoundQueueEmpty _ _ => none
  | .newCall incomming =>
    (phoneStep s.phone (.newCall incomming)).map fun phone =>
      { s with phone := phone }.setSession s.phone.callCount (some (.new capacity))
  | .onConnected c =>
    s.whenIdle <| (phoneStep s.phone (.onConnected c)).bind fun phone =>
      ((s.sessions c).bind RTPSession.start).map fun session =>
        { s with phone := phone }.setSession c (some session)
  | .onAnswer c =>
    s.whenIdle <| (phoneStep s.phone (.onAnswer c)).bind fun phone =>
      ((s.sessions c).bind RTPSession.start).map fun session =>
        { s with phone := phone }.setSession c (some session)
  | .destroyCall c =>
    s.whenIdle <| (phoneStep s.phone (.destroyCall c)).map fun phone =>
      { s with phone := phone }.setSession c none
  | .onProvisional c =>
    s.whenIdle <| (phoneStep s.phone (.onProvisional c)).map fun phone => { s with phone := phone }
  | .dumProcess =>
    s.whenIdle <| if s.phone.posting = [] then
      s.phone.dumProcess.map fun (phone, request) =>
        { s with phone := phone, pc := afterCommand request }
    else none
  | act => (phoneStep s.phone act).map fun phone => { s with phone := phone }

/-- The next sound of the play string. SOURCE: PlayPhoneAction.cpp:29-44 -/
def enqueueNext (files : CString → Option ℕ) (s : PhoneSound) : Option PhoneSound :=
  match s.pc with
  | .playing c a folder (sound :: sounds) =>
    (s.sessions c).map fun session =>
      { s with pc := if sounds = [] then .idle else .playing c a folder sounds }.setSession c
        (some (enqueueSound files session a folder sound))
  | _ => none

/-- A digit was pressed: the queue is cleared. SOURCE: PhoneModule.cpp:245-262 -/
def onDigit (s : PhoneSound) (c : CallId) : Option PhoneSound :=
  s.whenIdle <| if s.phone.posting = [] ∧ (s.phone.calls c).isSome then
    some { s with pc := .clearing c }
  else none

def clearNext (s : PhoneSound) : Option PhoneSound :=
  match s.pc with
  | .clearing c =>
    (s.sessions c).map fun session =>
      { s with pc := if session.clearQueue.2 then .idle else .clearing c }.setSession c
        (some session.clearQueue.1)
  | _ => none

/-- One step of the sound thread of a call. SOURCE: RTPSession.cpp:91-145, Call.cpp:110-116 -/
def work (s : PhoneSound) (c : CallId) : Option PhoneSound :=
  (s.sessions c).bind fun session =>
    if session.started then
      match session.work.2 with
      | none => some (s.setSession c (some session.work.1))
      | some seen => (phoneStep s.phone (.onSoundQueueEmpty c seen)).map fun phone =>
        { s with phone := phone }.setSession c (some session.work.1)
    else none

/-- One step of one of the threads. -/
def step (files : CString → Option ℕ) (capacity : ℕ) (s : PhoneSound) : Act → Option PhoneSound
  | .phone act => s.phoneAct capacity act
  | .enqueueSound => s.enqueueNext files
  | .onDigit c => s.onDigit c
  | .clearQueue => s.clearNext
  | .work c => s.work c

end PhoneSound

end Dhas.Model
