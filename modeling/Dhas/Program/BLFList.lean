import Mathlib.Data.List.AList
import Mathlib.Logic.Function.Basic
import Dhas.Program.Presence

/-!
# The list of subscriptions

`PhoneModule::subscribeBLF`, `onNewDevicePresence` and `onPresence` of
`modules/Phone/PhoneModule.cpp`, and what `SIPEngine.cpp` does with a `Subscription`. A
`Subscription` is an object on the heap, and the list maps its address to the status that was shown
last. Each object is made for one SUBSCRIBE.
-/

set_option autoImplicit false

namespace Dhas.Program

structure BLFSubscription extends Subscription where
  mDevice : CString

/-- The event that the status of a device has changed. -/
structure DevicePresence where
  device : CString
  status : CString
  deriving DecidableEq

structure PhoneBLF where
  /-- the objects by their addresses -/
  subscriptions : ℕ → BLFSubscription
  /-- how many there are, and the address of the next one -/
  created : ℕ
  mBLFList : AList fun _ : ℕ => CString
  /-- the events that were passed to `processEvent` -/
  events : List DevicePresence

namespace PhoneBLF

def new : PhoneBLF := ⟨fun _ => ⟨⟨[]⟩, []⟩, 0, ∅, []⟩

/-- `pSub->mDeviceStatus = status` -/
def setDeviceStatus (m : PhoneBLF) (pSub : ℕ) (status : CString) : PhoneBLF :=
  { m with
    subscriptions := Function.update m.subscriptions pSub
      { m.subscriptions pSub with mDeviceStatus := status } }

/-- SOURCE: PhoneModule.cpp:161-171 -/
def onNewDevicePresence (m : PhoneBLF) (pSub : ℕ) : PhoneBLF :=
  if pSub ∈ m.mBLFList then m
  else { m with mBLFList := m.mBLFList.insert pSub "unknown".toList }

/-- SOURCE: PhoneModule.cpp:178-202 -/
def onPresence (m : PhoneBLF) (pSub : ℕ) : PhoneBLF :=
  let state := (m.subscriptions pSub).mDeviceStatus
  match m.mBLFList.lookup pSub with
  | none => m
  | some shown =>
    if state ≠ shown then
      let list := m.mBLFList.insert pSub state
      { m with
        mBLFList := if state = "terminated".toList then list.erase pSub else list
        events := m.events ++ [⟨(m.subscriptions pSub).mDevice, state⟩] }
    else m

namespace SIPEngine

/-- With the address of the subscription whose SUBSCRIBE is sent.
SOURCE: SIPEngine.cpp:97-115 -/
def subscribeBLF (m : PhoneBLF) (device : CString) : PhoneBLF × ℕ :=
  ({ m with
    subscriptions := Function.update m.subscriptions m.created ⟨⟨"N/A".toList⟩, device⟩
    created := m.created + 1 }, m.created)

/-- What `onUpdateActive` does with the status that it has read. SOURCE: SIPEngine.cpp:536-544 -/
def onUpdateActive (m : PhoneBLF) (pSub : ℕ) (presenceStatus : CString) : PhoneBLF :=
  if (m.subscriptions pSub).mDeviceStatus ≠ presenceStatus then
    (m.setDeviceStatus pSub presenceStatus).onPresence pSub
  else m

/-- SOURCE: SIPEngine.cpp:561-570 -/
def onTerminated (m : PhoneBLF) (pSub : ℕ) : PhoneBLF :=
  (m.setDeviceStatus pSub "terminated".toList).onPresence pSub

/-- SOURCE: SIPEngine.cpp:572-579 -/
def onNewSubscription (m : PhoneBLF) (pSub : ℕ) : PhoneBLF := m.onNewDevicePresence pSub

end SIPEngine

/-- With the address of the subscription whose SUBSCRIBE is sent, if one is.
SOURCE: PhoneModule.cpp:278-290 -/
def subscribeBLF (m : PhoneBLF) (device : CString) : PhoneBLF × Option ℕ :=
  if m.mBLFList.keys.any fun pSub => (m.subscriptions pSub).mDevice = device then (m, none)
  else
    let r := SIPEngine.subscribeBLF m device
    (r.1, some r.2)

end PhoneBLF

end Dhas.Program
