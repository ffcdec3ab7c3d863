import Mathlib.Data.List.AList
import Dhas.Program.Telephony

/-!
# The list of calls

`PhoneModule::onNewCallUas`, `onNewCallUac` and `onCallTerminated` of
`modules/Phone/PhoneModule.cpp`, and the callbacks of the SIP stack in `SIPEngine.cpp` that call
them. A call is an object on the heap, which lives while it is in the list. What
`onTerminated` does to the sounds of the call is left out.
-/

set_option autoImplicit false

namespace Dhas.Program

/-- What the list of calls needs of a `Call`. -/
structure SipCall where
  /-- `getID()`, the Call-ID -/
  id : CString
  /-- the user of the address -/
  mFrom : CString
  mTo : CString
  mIncomming : Bool

/-- The event that a call was released. -/
structure CallReleased where
  fromUser : CString
  toUser : CString
  id : CString
  dir : CString
  deriving DecidableEq

structure PhoneModule where
  calls : CallId → SipCall
  mCallsList : AList fun _ : CString => CallId

namespace PhoneModule

/-- With the event that is passed to `processEvent`. -/
def onCallTerminated (m : PhoneModule) (c : CallId) : PhoneModule × CallReleased :=
  let call := m.calls c
  ({ m with mCallsList := m.mCallsList.erase call.id },
    ⟨call.mFrom, call.mTo, call.id,
      if call.mIncomming then "incoming".toList else "outgoing".toList⟩)

def onNewCallUas (m : PhoneModule) (c : CallId) : PhoneModule × Bool :=
  if m.mCallsList.entries.any fun it => (m.calls it.2).mIncomming then (m, false)
  else ({ m with mCallsList := m.mCallsList.insert (m.calls c).id c }, true)

def onNewCallUac (m : PhoneModule) (c : CallId) : PhoneModule × Bool :=
  ({ m with mCallsList := m.mCallsList.insert (m.calls c).id c }, true)

end PhoneModule

namespace SIPEngine

/-- `onNewSession` of a server. The flag: the call is not refused. -/
def onNewServerSession (m : PhoneModule) (c : CallId) (mFrom mTo : CString) :
    PhoneModule × Bool :=
  let call := { m.calls c with mIncomming := true, mFrom := mFrom, mTo := mTo }
  { m with calls := Function.update m.calls c call }.onNewCallUas c

/-- `onNewSession` of a client. The engine does not look at the result. -/
def onNewClientSession (m : PhoneModule) (c : CallId) : PhoneModule × Bool :=
  m.onNewCallUac c

def onTerminated (m : PhoneModule) (c : CallId) : PhoneModule × CallReleased :=
  m.onCallTerminated c

end SIPEngine

end Dhas.Program
