import Dhas.Model.Phone

/-!
# The calls that nobody answers

`SIPEngine::onProvisional` and `AppDialogSetRONACommand.cpp`, on top of the calls of
`Dhas.Model.Phone`. When a call begins to ring, a command is posted through the timers of the
SIP stack, which hand it to the dialog usage manager when its time is over or later. The
command ends the call if it still rings then.

The thread of the dialog usage manager takes these commands and those of `Telephony.dum` from
one queue. Here the order between the two kinds is left open. That the stack destroys a call
that was ended is a step of its own, which may come at any time.

`now` is in milliseconds. `trace` is not in the source: it records what the commands are about.
-/

set_option autoImplicit false

namespace Dhas.Model

open Dhas.Library Dhas.Program

inductive RingEvent where
  | rang (call : CallId) (t : ℕ)
  | answered (call : CallId)
  | destroyed (call : CallId)
  /-- `mHandle->end()` of the command -/
  | ended (call : CallId) (t : ℕ)
  deriving DecidableEq

structure UnansweredCalls where
  phone : Telephony
  now : ℕ
  /-- the timers of the SIP stack: when the command is due, and the call of its handle -/
  timers : List (ℕ × CallId)
  /-- the commands that reached the dialog usage manager -/
  commands : List CallId
  trace : List RingEvent

namespace UnansweredCalls

inductive Act where
  /-- a step of `Dhas.Model.Phone` other than `onProvisional` -/
  | phone (act : PhoneAct)
  | onProvisional (call : CallId) (statusCode : ℕ)
  | tick
  /-- `SipStack::process` finds a timer whose time is over -/
  | expire (timer : ℕ × CallId)
  /-- `DialogUsageManager::process` takes the next of these commands -/
  | execute

def init : UnansweredCalls := ⟨Telephony.init, 0, [], [], []⟩

def record (s : UnansweredCalls) (events : List RingEvent) : UnansweredCalls :=
  { s with trace := s.trace ++ events }

/-- `getCallState()` of the call, if it was not destroyed. -/
def getCallState (p : Telephony) (c : CallId) : Option CallState :=
  (p.calls c).map (·.mCallState)

/-- `mDum->getSipStack().post(cmd,mRONATimeout,mDum)`: the timeout is in seconds. -/
def post (mRONATimeout : ℕ) (s : UnansweredCalls) (c : CallId) : UnansweredCalls :=
  { s with timers := s.timers ++ [(s.now + 1000 * mRONATimeout, c)] }

/-- A 180 makes a new call ring; any other status does nothing. SOURCE: SIPEngine.cpp:260-280 -/
def onProvisional (mRONATimeout : ℕ) (s : UnansweredCalls) (c : CallId) (statusCode : ℕ) :
    Option UnansweredCalls :=
  if statusCode = 180 then
    (Model.onProvisional s.phone c).map fun phone =>
      if getCallState s.phone c = some .Initial then
        ({ s with phone := phone }.post mRONATimeout c).record [.rang c s.now]
      else { s with phone := phone }
  else some s

/-- What the other callbacks of the stack say of the ringing. -/
def heard : PhoneAct → List RingEvent
  | .onConnected c => [.answered c]
  | .onAnswer c => [.answered c]
  | .destroyCall c => [.destroyed c]
  | _ => []

/-- `AppDialogSetRONACommand::executeCommand()`. The handle is valid until the call is destroyed.
SOURCE: AppDialogSetRONACommand.cpp:11-25 -/
def executeCommand (s : UnansweredCalls) (c : CallId) : UnansweredCalls :=
  if getCallState s.phone c = some .Ringing then s.record [.ended c s.now] else s

def step (mRONATimeout : ℕ) (s : UnansweredCalls) : Act → Option UnansweredCalls
  | .phone (.onProvisional _) => none
  | .phone act =>
    (phoneStep s.phone act).map fun phone => { s with phone := phone }.record (heard act)
  | .onProvisional c statusCode => s.onProvisional mRONATimeout c statusCode
  | .tick => some { s with now := s.now + 1 }
  | .expire timer =>
    if timer ∈ s.timers ∧ timer.1 ≤ s.now then
      some { s with timers := s.timers.erase timer, commands := s.commands ++ [timer.2] }
    else none
  | .execute =>
    match s.commands with
    | [] => none
    | c :: rest => if s.phone.posting = [] then some ({ s with commands := rest }.executeCommand c)
      else none

end UnansweredCalls

end Dhas.Model
