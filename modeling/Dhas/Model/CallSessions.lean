import Dhas.Library.Run
import Dhas.Program.PhoneModule

/-!
# The sessions of the calls

The SIP stack begins the session of a call once, and says at most once that it has terminated,
after it has begun. A call that was refused is terminated too. The order is left open.

`trace` is not in the source. It records what the callbacks were about and what they returned.
-/

set_option autoImplicit false

namespace Dhas.Model

open Dhas.Library Dhas.Program

inductive SessionEvent where
  /-- `accepted` is what `onNewCallUas` or `onNewCallUac` returned -/
  | begun (call : CallId) (incoming accepted : Bool)
  | terminated (call : CallId)
  deriving DecidableEq

structure CallSessions where
  phone : PhoneModule
  trace : List SessionEvent
  /-- the events that were passed to `processEvent` -/
  events : List CallReleased

namespace CallSessions

inductive Act where
  /-- an incoming call, with the users of its addresses -/
  | newServerSession (call : CallId) (mFrom mTo : CString)
  | newClientSession (call : CallId)
  | terminated (call : CallId)

/-- The calls with their Call-IDs, and the addresses that `makeCall` gives to outgoing ones. -/
def init (ids mFrom mTo : CallId → CString) : CallSessions :=
  ⟨⟨fun c => ⟨ids c, mFrom c, mTo c, false⟩, ∅⟩, [], []⟩

/-- The session of a call has begun. -/
def Begun (trace : List SessionEvent) (c : CallId) : Prop :=
  ∃ incoming accepted, .begun c incoming accepted ∈ trace

instance (trace : List SessionEvent) (c : CallId) : Decidable (Begun trace c) :=
  inferInstanceAs (Decidable (∃ incoming accepted, SessionEvent.begun c incoming accepted ∈ trace))

/-- A new session, with what the module says of it. -/
def begin (s : CallSessions) (c : CallId) (incoming : Bool) (result : PhoneModule × Bool) :
    Option CallSessions :=
  if Begun s.trace c then none
  else some { s with phone := result.1, trace := s.trace ++ [.begun c incoming result.2] }

/-- A callback of the SIP stack. -/
def step (s : CallSessions) : Act → Option CallSessions
  | .newServerSession c mFrom mTo =>
    s.begin c true (SIPEngine.onNewServerSession s.phone c mFrom mTo)
  | .newClientSession c => s.begin c false (SIPEngine.onNewClientSession s.phone c)
  | .terminated c =>
    if Begun s.trace c ∧ .terminated c ∉ s.trace then
      some {
        phone := (SIPEngine.onTerminated s.phone c).1
        trace := s.trace ++ [.terminated c]
        events := s.events ++ [(SIPEngine.onTerminated s.phone c).2] }
    else none

end CallSessions

end Dhas.Model
