import Dhas.Program.SoundListParser
import Mathlib.Logic.Function.Basic
import Dhas.Library.LinkedList

/-!
# Calls and their actions

`modules/Phone/Call.cpp`, `IPhoneAction.cpp`, its three subclasses and `ActionMachine.cpp`.
Calls and actions are objects on the heap. An action is deleted by a command, so a pointer
to it may dangle: an access to a free address, and a walk along links that does not end,
give `none`.

`dum` is the command queue of the dialog usage manager, whose thread runs everything here
but `asyncAddAction`, `releaseCall` and `onSoundQueueEmpty`. What that thread posts while it
executes a command is collected in `posting`, and reaches the queue one by one (`dumPost`)
before the next command, so that commands of other threads may come in between. Nothing in
the execution of a command reads the queue.

`trace` is not in the source. It records what happened to the actions, for the statements.
So does the number in a `NotifySoundsEmpty` command: how many sounds had been put on the
sound queue when the worker found it empty.
-/

set_option autoImplicit false

namespace Dhas.Program

open Dhas.Library

abbrev ActionId := ℕ
abbrev CallId := ℕ

/-- The subclass of an action, with its own fields. -/
inductive PhoneActionClass where
  | play (mPlayString mSoundsFolder : CString)
  | release
  | transfer (mDestination : CString)
  deriving DecidableEq

structure IPhoneAction where
  actionClass : PhoneActionClass
  mpNextAction : Option ActionId
  mInvoked : Bool
  mCleaned : Bool
  deriving DecidableEq

/-- The constructor. -/
def IPhoneAction.new (actionClass : PhoneActionClass) : IPhoneAction :=
  ⟨actionClass, none, false, false⟩

inductive CallState where
  | Initial
  | Ringing
  | Answered
  deriving DecidableEq

structure Call where
  mCallState : CallState
  mIncomming : Bool
  mpCurrentAction : Option ActionId
  mRtpObservers : List ActionId
  deriving DecidableEq

/-- The commands of `AppDialogSetActionCommand`, `AppDialogSetNotifySoundsEmptyCommand` and
`AppDialogSetEndCommand`. -/
inductive DumCommand where
  | Add (call : CallId) (action : ActionId)
  | Run (call : CallId)
  | Delete (call : CallId) (action : ActionId)
  | NotifySoundsEmpty (call : CallId) (seen : ℕ)
  | End (call : CallId)
  deriving DecidableEq

/-- What happened to the actions, in order. -/
inductive PhoneEvent where
  | added (call : CallId) (action : ActionId)
  | invoked (call : CallId) (action : ActionId)
  | terminated (call : CallId) (action : ActionId)
  | deletePosted (action : ActionId)
  | deleted (action : ActionId)
  deriving DecidableEq

/-- The sounds that an invoked action is about to put on the queue of its call. -/
structure SoundRequest where
  call : CallId
  action : ActionId
  folder : CString
  sounds : List CString

structure Telephony where
  actions : ActionId → Option IPhoneAction
  /-- addresses below this were allocated -/
  allocated : ℕ
  calls : CallId → Option Call
  callCount : ℕ
  dum : List DumCommand
  posting : List DumCommand
  trace : List PhoneEvent

namespace Telephony

def init : Telephony := ⟨fun _ => none, 0, fun _ => none, 0, [], [], []⟩

/-- `mpDum->post(cmd)` on the thread of the dialog usage manager. -/
def post (p : Telephony) (cmd : DumCommand) : Telephony :=
  { p with posting := p.posting ++ [cmd] }

/-- `mpDum->post(cmd)` on any other thread. -/
def postOtherThread (p : Telephony) (cmd : DumCommand) : Telephony :=
  { p with dum := p.dum ++ [cmd] }

def record (p : Telephony) (e : PhoneEvent) : Telephony := { p with trace := p.trace ++ [e] }

def setAction (p : Telephony) (a : ActionId) (action : Option IPhoneAction) : Telephony :=
  { p with actions := Function.update p.actions a action }

def setCall (p : Telephony) (c : CallId) (call : Option Call) : Telephony :=
  { p with calls := Function.update p.calls c call }

/-! ## Call -/

/-- `new Call`, at an address that was not used before. -/
def newCall (p : Telephony) (incomming : Bool) : Telephony :=
  { p.setCall p.callCount (some ⟨.Initial, incomming, none, []⟩) with
    callCount := p.callCount + 1 }

def setCurrentAction (p : Telephony) (c : CallId) (a : Option ActionId) : Option Telephony :=
  (p.calls c).map fun call => p.setCall c (some { call with mpCurrentAction := a })

def addRTPObserver (p : Telephony) (c : CallId) (obs : ActionId) : Option Telephony :=
  (p.calls c).map fun call =>
    if obs ∈ call.mRtpObservers then p
    else p.setCall c (some { call with mRtpObservers := call.mRtpObservers ++ [obs] })

def removeRTPObserver (p : Telephony) (c : CallId) (obs : ActionId) : Option Telephony :=
  (p.calls c).map fun call =>
    p.setCall c (some { call with mRtpObservers := call.mRtpObservers.erase obs })

/-! ## ActionMachine: the commands -/

/-- `asyncAddAction(call, new ...)`, which the callbacks of the REST engine use. -/
def asyncAddAction (p : Telephony) (c : CallId) (actionClass : PhoneActionClass) : Telephony :=
  { p.setAction p.allocated (some (IPhoneAction.new actionClass)) with
    allocated := p.allocated + 1 }.postOtherThread (.Add c p.allocated)

def asyncRunAction (p : Telephony) (c : CallId) : Telephony := p.post (.Run c)

/-- `clean(call)` of the subclass. -/
def clean (p : Telephony) (c : CallId) (a : ActionId) : PhoneActionClass → Option Telephony
  | .play _ _ => p.removeRTPObserver c a
  | .release => some p
  | .transfer _ => some p

/-- `asyncDelAction(call, action)`: an action is cleaned and its deletion is posted once. -/
def asyncDelAction (p : Telephony) (c : CallId) (a : ActionId) : Option Telephony :=
  (p.actions a).bind fun action =>
    if action.mCleaned then some p
    else ((p.setAction a (some { action with mCleaned := true })).clean c a
      action.actionClass).map fun p => (p.post (.Delete c a)).record (.deletePosted a)

/-- `actionTerminated(call, action)` -/
def actionTerminated (p : Telephony) (c : CallId) (a : ActionId) : Option Telephony :=
  (p.actions a).bind fun action =>
    let nextAction := action.mpNextAction
    ((p.record (.terminated c a)).setCurrentAction c nextAction).bind fun p =>
      (p.asyncDelAction c a).map fun p =>
        if nextAction.isSome then p.asyncRunAction c else p

/-- The loop of `destroyChain`, with a bound on its rounds. -/
def destroyLoop (c : CallId) : ℕ → Option ActionId → Telephony → Option Telephony
  | _, none, p => some p
  | 0, some _, _ => none
  | n + 1, some a, p =>
    (p.asyncDelAction c a).bind fun p =>
      (p.actions a).bind fun action => destroyLoop c n action.mpNextAction p

/-- `destroyChain(call)`. A chain has no more cells than were ever allocated. -/
def destroyChain (p : Telephony) (c : CallId) : Option Telephony :=
  (p.calls c).bind fun call =>
    (p.setCurrentAction c none).bind fun p =>
      destroyLoop c p.allocated call.mpCurrentAction p

/-- `~Call` -/
def destroyCall (p : Telephony) (c : CallId) : Option Telephony :=
  (p.destroyChain c).map fun p => p.setCall c none

/-- `Call::appendAction(action)` -/
def appendAction (p : Telephony) (c : CallId) (a : ActionId) : Option Telephony :=
  (p.calls c).bind fun call =>
    match call.mpCurrentAction with
    | none =>
      (p.setCurrentAction c (some a)).map fun p =>
        if call.mCallState = .Answered then p.asyncRunAction c else p
    | some current =>
      (lastCell p.actions IPhoneAction.mpNextAction p.allocated current).bind fun last =>
        (p.actions last).map fun action =>
          p.setAction last (some { action with mpNextAction := some a })

/-- `addAction(call, action)` -/
def addAction (p : Telephony) (c : CallId) (a : ActionId) : Option Telephony :=
  (p.actions a).bind fun _ => (p.record (.added c a)).appendAction c a

/-! ## IPhoneAction -/

/-- `invoke(call)` of the subclass. A play action without sounds terminates at once; one
with sounds returns them. The other two end the call. -/
def invoke (p : Telephony) (c : CallId) (a : ActionId) :
    PhoneActionClass → Option (Telephony × Option SoundRequest)
  | .play mPlayString mSoundsFolder =>
    (p.addRTPObserver c a).bind fun p =>
      let list := SoundListParser.getSoundList mPlayString
      if list = [] then (p.actionTerminated c a).map (·, none)
      else some (p, some ⟨c, a, mSoundsFolder, list⟩)
  | .release => some (p.post (.End c), none)
  | .transfer _ => some (p.post (.End c), none)

/-- `invokeAction(call)`: an action is invoked once. -/
def invokeAction (p : Telephony) (c : CallId) (a : ActionId) :
    Option (Telephony × Option SoundRequest) :=
  (p.actions a).bind fun action =>
    if action.mInvoked then some (p, none)
    else
      (((p.setAction a (some { action with mInvoked := true })).record (.invoked c a)
        ).setCurrentAction c (some a)).bind fun p => p.invoke c a action.actionClass

/-- `runAction(call)` -/
def runAction (p : Telephony) (c : CallId) : Option (Telephony × Option SoundRequest) :=
  (p.calls c).bind fun call =>
    match call.mpCurrentAction with
    | none => some (p, none)
    | some a => p.invokeAction c a

/-- `deleteAction(action)` -/
def deleteAction (p : Telephony) (a : ActionId) : Option Telephony :=
  (p.actions a).map fun _ => (p.setAction a none).record (.deleted a)

/-- `onRTPSessionSoundQueueEmpty(call)` of each of the observers in turn. -/
def notifyObservers (p : Telephony) (c : CallId) (list : List ActionId) : Option Telephony :=
  list.foldlM (fun p a => p.actionTerminated c a) p

/-- `notifySoundsEmpty()`, over a copy of the list of observers. -/
def notifySoundsEmpty (p : Telephony) (c : CallId) : Option Telephony :=
  (p.calls c).bind fun call => p.notifyObservers c call.mRtpObservers

/-- `onCallAnswered()` after the state was set. -/
def onCallAnswered (p : Telephony) (c : CallId) : Telephony := p.asyncRunAction c

/-- `executeCommand()`. An `End` command holds a handle, and has no effect of its own here:
the stack ends the call later, if it still exists. -/
def executeCommand (p : Telephony) : DumCommand → Option (Telephony × Option SoundRequest)
  | .Add c a => (p.addAction c a).map (·, none)
  | .Run c => p.runAction c
  | .Delete _ a => (p.deleteAction a).map (·, none)
  | .NotifySoundsEmpty c _ => (p.notifySoundsEmpty c).map (·, none)
  | .End _ => some (p, none)

/-- The next of the posted commands reaches the queue. -/
def dumPost (p : Telephony) : Option Telephony :=
  match p.posting with
  | [] => none
  | cmd :: rest => some { p with dum := p.dum ++ [cmd], posting := rest }

/-- `DialogUsageManager::process` takes the first command. -/
def dumProcess (p : Telephony) : Option (Telephony × Option SoundRequest) :=
  match p.dum with
  | [] => none
  | cmd :: rest => { p with dum := rest }.executeCommand cmd

/-! ## The other threads -/

/-- `releaseCall(call)` of the engine, called by a callback of the REST engine. -/
def releaseCall (p : Telephony) (c : CallId) : Telephony := p.postOtherThread (.End c)

/-- `Call::onSoundQueueEmpty()`, on the thread of the sound device. -/
def onSoundQueueEmpty (p : Telephony) (c : CallId) (seen : ℕ) : Telephony :=
  p.postOtherThread (.NotifySoundsEmpty c seen)

end Telephony

end Dhas.Program
