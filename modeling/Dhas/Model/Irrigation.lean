import Dhas.Library.Run
import Dhas.Program.SprinklersNode

/-!
# A node, its send queue and its callers

One irrigation node on the shared send queue. The module thread calls `run` and takes
entries off the queue; REST threads call `sequence_callback` and `valveOff_callback`; the
other senders (`valveOn_callback`, `/dwn/sendraw`, the other nodes) put entries of their
own on the queue. Every call is one step, in any order and with any clock readings.

`placed` is the history of what `run` and `valveOff_callback` put on the queue.
-/

set_option autoImplicit false

namespace Dhas.Model

open Dhas.Library Dhas.Program

structure Irrigation where
  node : SprinklersNode
  sendQueue : DWNSendQueue
  placed : List DataBuffer

namespace Irrigation

inductive Call where
  | sequence_callback (seq : CString) (now : ℤ)
  | valveOff_callback
  | run (t now : ℤ)
  /-- Another sender on the same queue. -/
  | sendToNode (id : CString) (data : List UInt8) (size : UInt8)
  /-- The module thread takes the oldest entry. -/
  | drain

def init (ip : CString) : Irrigation where
  node := SprinklersNode.new ip
  sendQueue := DWNSendQueue.new
  placed := []

/-- The state after a call of the node that returned `r`: what it appended to the send
queue goes to the history. -/
def after (s : Irrigation) (r : SprinklersNode × DWNSendQueue) : Irrigation where
  node := r.1
  sendQueue := r.2
  placed := s.placed ++ r.2.items.drop s.sendQueue.items.length

def step (s : Irrigation) : Call → Option Irrigation
  | .sequence_callback seq now => some { s with node := (s.node.sequence_callback now seq).1 }
  | .valveOff_callback => some (s.after (s.node.valveOff_callback s.sendQueue))
  | .run t now => some (s.after (s.node.run s.sendQueue t now))
  | .sendToNode id data size =>
    some { s with sendQueue := s.sendQueue.sendToNode id data size }
  | .drain => s.sendQueue.get.map fun r => { s with sendQueue := r.2 }

/-- An entry is the command (letter, '1'). -/
def isValveOn (e : DataBuffer) : Bool := e.data.length = 2 && e.data.getD 1 0 = 0x31

/-- The last command `run` or `valveOff_callback` placed turns a valve on. -/
def LastOn (s : Irrigation) : Prop := s.placed.getLast?.any isValveOn = true

instance (s : Irrigation) : Decidable s.LastOn := inferInstanceAs (Decidable (_ = _))

/-- INTERNAL: no valve is on after the command that closes all of them. -/
theorem isValveOn_allOff (ip : CString) :
    isValveOn ⟨ip, SprinklersNode.allOff⟩ = false := rfl

/-- INTERNAL: a valve is on after its own command. -/
theorem isValveOn_valveOn (ip : CString) (valve : UInt8) :
    isValveOn ⟨ip, SprinklersNode.valveOn valve⟩ = true := rfl

/-- INTERNAL: sending a command of two bytes: with room it becomes the last one placed, on
a full queue it is lost and the history stays.
SOURCE: DWNSendQueue.cpp:24-35 -/
theorem after_sendToNode_lastOn (s : Irrigation) (n : SprinklersNode) (ip : CString)
    (a b : UInt8) :
    (s.after (n, s.sendQueue.sendToNode ip [a, b] 2)).LastOn ↔
      if s.sendQueue.HasRoom then isValveOn ⟨ip, [a, b]⟩ = true else s.LastOn := by
  have hsend : s.sendQueue.sendToNode ip [a, b] 2 = s.sendQueue.put ⟨ip, [a, b]⟩ := rfl
  unfold LastOn after
  rw [hsend]
  by_cases hroom : s.sendQueue.HasRoom
  · simp [BoundedQueue.items_put_of_hasRoom hroom, hroom]
  · simp [BoundedQueue.put_of_not_hasRoom hroom, hroom]

end Irrigation

end Dhas.Model
