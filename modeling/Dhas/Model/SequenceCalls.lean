import Dhas.Library.Sequencer
import Dhas.Program.SprinklersNode

/-!
# A node that is called until its sequence is over

The module thread calls `run` of a node from time to time. Each call reads the clock once and
finds the send queue as the other senders left it, so the queues that the calls find are
arbitrary. What a call queues is the difference between the queue that it finds and the one
that it leaves.
-/

set_option autoImplicit false

namespace Dhas.Model

open Dhas.Library Dhas.Program

/-- A call of `run`: `t`, which `time(0)` gives too, and the queue that the call finds. -/
structure RunCall where
  t : ℤ
  sendQueue : DWNSendQueue

namespace SequenceCalls

/-- The queues that the calls leave. -/
def leftQueues : SprinklersNode → List RunCall → List DWNSendQueue
  | _, [] => []
  | n, c :: calls =>
    let r := n.run c.sendQueue c.t c.t
    r.2 :: leftQueues r.1 calls

/-- The items that `sequence_callback` decodes. -/
def items (seq : CString) : List SequenceItem :=
  (decodeSequence seq).map SprinklersNode.sequenceItem

/-- The duration of an item in seconds. -/
def duration (si : SequenceItem) : ℤ := si.1

/-- The queue after the command of an action, or after none. -/
def queueCommand (ip : CString) (q : DWNSendQueue) :
    Option (Sequencer.Action SequenceItem) → DWNSendQueue
  | none => q
  | some (.item si) => q.sendToNode ip (SprinklersNode.valveOn si.2) 2
  | some .finish => q.sendToNode ip SprinklersNode.allOff 2

/-- The places of the calls at which the commands of a sequence come that was started at
`now`: the first item at the first call that is not before `now`, each further item at the
first later call when the one before it is over, and then the all-off command. A sequence
without an item has no command. -/
def CommandTimes (ts : List ℤ) (now : ℤ) (sis : List SequenceItem) (js : List ℕ) : Prop :=
  match sis with
  | [] => js = []
  | si :: sis => Sequencer.Timeline duration ts 0 now (si :: sis) js

/-- The command of the call at place `i`, when the commands of the sequence come at `js`. -/
def commandAt (sis : List SequenceItem) (js : List ℕ) (i : ℕ) :
    Option (Sequencer.Action SequenceItem) :=
  (js.zip (Sequencer.actions sis)).lookup i

end SequenceCalls

end Dhas.Model
