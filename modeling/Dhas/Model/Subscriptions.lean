import Dhas.Library.Run
import Dhas.Program.BLFList

/-!
# The subscriptions to the state of devices

Requests for a device come at any time, and so do the callbacks of the SIP stack about the
subscriptions whose SUBSCRIBE was sent. A subscription is announced before a NOTIFY updates it,
and nothing comes after its end; whether it is announced again in between, and the order among
different subscriptions, are left open.

`trace` is not in the source. It records what the requests and the callbacks were about; a NOTIFY
is recorded when its status is another one than the subscription has.
-/

set_option autoImplicit false

namespace Dhas.Model

open Dhas.Library Dhas.Program

inductive SubscriptionEvent where
  /-- the SUBSCRIBE of a subscription to a device -/
  | sent (pSub : ℕ) (device : CString)
  | announced (pSub : ℕ)
  | statusChanged (pSub : ℕ) (status : CString)
  | terminated (pSub : ℕ)
  deriving DecidableEq

/-- The subscription whose SUBSCRIBE was sent. -/
def SubscriptionEvent.sentFor : SubscriptionEvent → Option ℕ
  | .sent pSub _ => some pSub
  | _ => none

structure Subscriptions where
  phone : PhoneBLF
  trace : List SubscriptionEvent

namespace Subscriptions

inductive Act where
  /-- /phone/blf -/
  | request (device : CString)
  | newSubscription (pSub : ℕ)
  /-- with the status that the NOTIFY says -/
  | updateActive (pSub : ℕ) (presenceStatus : CString)
  | terminated (pSub : ℕ)

def init : Subscriptions := ⟨.new, []⟩

/-- The SUBSCRIBE was sent, and the subscription has not ended. -/
def Open (trace : List SubscriptionEvent) (pSub : ℕ) : Prop :=
  (∃ device, .sent pSub device ∈ trace) ∧ .terminated pSub ∉ trace

instance (trace : List SubscriptionEvent) (pSub : ℕ) : Decidable (Open trace pSub) :=
  have : Decidable (∃ device, SubscriptionEvent.sent pSub device ∈ trace) :=
    decidable_of_iff (∃ e ∈ trace, e.sentFor = some pSub) (by
      constructor
      · rintro ⟨e, he, hsent⟩
        cases e with
        | sent p device =>
          obtain rfl := Option.some.inj hsent
          exact ⟨device, he⟩
        | announced | statusChanged | terminated => cases hsent
      · rintro ⟨device, he⟩
        exact ⟨_, he, rfl⟩)
  inferInstanceAs (Decidable ((∃ device, SubscriptionEvent.sent pSub device ∈ trace) ∧
    SubscriptionEvent.terminated pSub ∉ trace))

/-- A request, or a callback of the SIP stack. -/
def step (s : Subscriptions) : Act → Option Subscriptions
  | .request device =>
    match s.phone.subscribeBLF device with
    | (phone, none) => some { s with phone := phone }
    | (phone, some pSub) => some ⟨phone, s.trace ++ [.sent pSub device]⟩
  | .newSubscription pSub =>
    if Open s.trace pSub then
      some ⟨PhoneBLF.SIPEngine.onNewSubscription s.phone pSub, s.trace ++ [.announced pSub]⟩
    else none
  | .updateActive pSub presenceStatus =>
    if Open s.trace pSub ∧ .announced pSub ∈ s.trace then
      some {
        phone := PhoneBLF.SIPEngine.onUpdateActive s.phone pSub presenceStatus
        trace :=
          if (s.phone.subscriptions pSub).mDeviceStatus ≠ presenceStatus then
            s.trace ++ [.statusChanged pSub presenceStatus]
          else s.trace }
    else none
  | .terminated pSub =>
    if Open s.trace pSub then
      some ⟨PhoneBLF.SIPEngine.onTerminated s.phone pSub, s.trace ++ [.terminated pSub]⟩
    else none

end Subscriptions

end Dhas.Model
