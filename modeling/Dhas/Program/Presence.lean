import Dhas.Library.TreeCursor
import Dhas.Program.CString

/-!
# The state of another phone

`SIPEngine::onUpdateActive` of `modules/Phone/SIPEngine.cpp`. A document is a tree of elements
and texts, and `XMLCursor` of the SIP stack a cursor over it. The document is well formed, so the
parser does not throw.

Of a subscription only `mDeviceStatus` is used here.
-/

set_option autoImplicit false

namespace Dhas.Program

open Dhas.Library

inductive XMLLabel where
  | element (tag : CString)
  | text (value : CString)
  deriving DecidableEq

abbrev XMLNode := LabelTree XMLLabel

abbrev XMLCursor := TreeCursor XMLLabel

/-- A text has no tag. -/
def getTag (node : XMLNode) : CString :=
  match node.label with
  | .element tag => tag
  | .text _ => []

/-- An element has no value of its own. -/
def getValue (node : XMLNode) : CString :=
  match node.label with
  | .element _ => []
  | .text value => value

/-- A NOTIFY of a subscription. -/
structure NotifyMessage where
  contentType : CString
  subType : CString
  /-- the new voice messages in a message summary -/
  newCount : ℤ
  /-- the document in the body -/
  contents : Option XMLNode

structure Subscription where
  mDeviceStatus : CString
  deriving DecidableEq

/-- A call of the `TelephonyObserver`. -/
inductive ObserverCall where
  | onMWI (num : ℤ)
  | onPresence (pSub : Subscription)
  deriving DecidableEq

namespace SIPEngine

/-- The text of the first child of the first `note`; `none` when `rounds` siblings do not lead
to a `note`. -/
def presenceStatus (rounds : ℕ) (contents : Option XMLNode) : Option CString :=
  match contents with
  | none => some []
  | some document =>
    let (cursor, child) := (TreeCursor.root document).firstChild
    if child then
      (cursor.seek (getTag · = "note".toList) rounds).map fun cursor =>
        let (cursor, child) := cursor.firstChild
        if child then cString (getValue cursor.tree) else []
    else some []

/-- The subscription takes the status, and the observer is told when it is a new one. -/
def showPresence (pSubscription : Option Subscription) (presenceStatus : CString) :
    Option Subscription × List ObserverCall :=
  match pSubscription with
  | none => (none, [])
  | some s =>
    if s.mDeviceStatus ≠ presenceStatus then
      (some ⟨presenceStatus⟩, [.onPresence ⟨presenceStatus⟩])
    else (some s, [])

/-- `onUpdateActive`, with a bound on the rounds of its loop; `none` when it needs more. -/
def onUpdateActive (rounds : ℕ) (pSubscription : Option Subscription) (msg : NotifyMessage) :
    Option (Option Subscription × List ObserverCall) :=
  if msg.contentType = "application".toList ∧ msg.subType = "simple-message-summary".toList then
    some (pSubscription, [.onMWI msg.newCount])
  else if msg.subType = "pidf+xml".toList then
    (presenceStatus rounds msg.contents).map (showPresence pSubscription)
  else some (pSubscription, [])

end SIPEngine

end Dhas.Program
