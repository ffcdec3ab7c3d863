import Dhas.Library.Run
import Dhas.Library.Trace
import Dhas.Program.SprinklersNode

/-!
# A stop while the node is called

The module thread is in `run` of a node while a REST thread is in `valveOff_callback` of it.
Both take from the ring buffer and set `mNextSequenceTime`, and nothing keeps one out while the
other is at work, so each of their steps may come at any point. The module thread takes entries
off the send queue between two calls of `run`, the other senders put entries of their own on it,
and a new sequence may be started at any point.

The history tells the sequences from one another: they are numbered in the order in which they
were started. A stop has the number of the last sequence at the time when it was asked for, and
a valve-on command has the number of the sequence of its item.
-/

set_option autoImplicit false

namespace Dhas.Model

open Dhas.Library Dhas.Program

namespace ValveStop

/-- Where the module thread is in `run`. -/
inductive RunPc where
  | idle
  /-- The clock was not before `mNextSequenceTime`. -/
  | due
  /-- An item of a sequence was taken off the ring buffer. -/
  | taken (si : SequenceItem) (sequence : ℕ)
  /-- `mNextSequenceTime` was set behind the item. -/
  | scheduled (si : SequenceItem) (sequence : ℕ)
  /-- There was no item. -/
  | empty
  /-- The all-off command for the end was queued. -/
  | complete

/-- Where the REST thread is in `valveOff_callback`; the number is that of the last sequence
when it was called. -/
inductive OffPc where
  | idle
  | reset (sequence : ℕ)
  | drained (sequence : ℕ)

/-- A command that was queued. -/
inductive Placed where
  | valveOn (valve : UInt8) (sequence : ℕ)
  | stop (sequence : ℕ)
  | complete
  deriving DecidableEq

inductive Act where
  /-- `run(t)` compares the clock -/
  | compare (t : ℤ)
  | take
  | setNext (now : ℤ)
  /-- `run` queues the command of the item, or the all-off command when there was none -/
  | queue
  /-- `run` resets the time behind the all-off command -/
  | forget
  | reset
  | drain
  | queueOff
  | sequence_callback (seq : CString) (now : ℤ)
  /-- another sender -/
  | sendToNode (id : CString) (data : List UInt8) (size : UInt8)
  /-- the module thread takes an entry off the send queue -/
  | get
  deriving DecidableEq

end ValveStop

open ValveStop in
structure ValveStop where
  node : SprinklersNode
  sendQueue : DWNSendQueue
  runPc : RunPc
  offPc : OffPc
  /-- how many sequences were started -/
  sequences : ℕ
  placed : List Placed

namespace ValveStop

def init (ip : CString) : ValveStop where
  node := SprinklersNode.new ip
  sendQueue := DWNSendQueue.new
  runPc := .idle
  offPc := .idle
  sequences := 0
  placed := []

/-- The history after a command; a full send queue drops it. -/
def record (s : ValveStop) (p : Placed) : List Placed :=
  if s.sendQueue.HasRoom then s.placed ++ [p] else s.placed

/-- A command of the node goes to the send queue. -/
def place (s : ValveStop) (command : List UInt8) (p : Placed) : ValveStop :=
  { s with
    sendQueue := s.sendQueue.sendToNode s.node.ip command 2
    placed := s.record p }

/-- SOURCE: SprinklersNode.cpp:131-181 -/
def step (s : ValveStop) : Act → Option ValveStop
  | .compare t =>
    match s.runPc with
    | .idle => some { s with runPc := if t < s.node.mNextSequenceTime then .idle else .due }
    | _ => none
  | .take =>
    match s.runPc with
    | .due =>
      match s.node.mpSequence.get with
      | none => some { s with runPc := .empty }
      | some (si, rest) =>
        some { s with node := { s.node with mpSequence := rest }, runPc := .taken si s.sequences }
    | _ => none
  | .setNext now =>
    match s.runPc with
    | .taken si g =>
      some { s with
        node := { s.node with mNextSequenceTime := now + si.1 }, runPc := .scheduled si g }
    | _ => none
  | .queue =>
    match s.runPc with
    | .scheduled si g =>
      some { s.place (SprinklersNode.valveOn si.2) (.valveOn si.2 g) with runPc := .idle }
    | .empty => some { s.place SprinklersNode.allOff .complete with runPc := .complete }
    | _ => none
  | .forget =>
    match s.runPc with
    | .complete =>
      some { s with
        node := { s.node with mNextSequenceTime := TIMETMAX, mCurrentSequence := [] }
        runPc := .idle }
    | _ => none
  | .reset =>
    match s.offPc with
    | .idle =>
      some { s with
        node := { s.node with mCurrentSequence := [], mNextSequenceTime := TIMETMAX }
        offPc := .reset s.sequences }
    | _ => none
  | .drain =>
    match s.offPc with
    | .reset h =>
      some { s with
        node := { s.node with mpSequence := s.node.mpSequence.clear }, offPc := .drained h }
    | _ => none
  | .queueOff =>
    match s.offPc with
    | .drained h => some { s.place SprinklersNode.allOff (.stop h) with offPc := .idle }
    | _ => none
  | .sequence_callback seq now =>
    some { s with
      node := (s.node.sequence_callback now seq).1, sequences := s.sequences + 1 }
  | .sendToNode id data size =>
    some { s with sendQueue := s.sendQueue.sendToNode id data size }
  | .get =>
    match s.runPc with
    | .idle => s.sendQueue.get.map fun r => { s with sendQueue := r.2 }
    | _ => none

/-- The sequence of the item that `run` has taken and not queued yet. -/
def held (s : ValveStop) : Option ℕ :=
  match s.runPc with
  | .taken _ g => some g
  | .scheduled _ g => some g
  | _ => none

/-- The number of the stop whose all-off command comes next. -/
def stopping (s : ValveStop) : Option ℕ :=
  match s.offPc with
  | .drained h => some h
  | _ => none

/-- The steps of a call of `run(t)` that reads the clock again as `now`. -/
def runActs (n : SprinklersNode) (t now : ℤ) : List Act :=
  if t < n.mNextSequenceTime then [.compare t]
  else if n.mpSequence.get.isSome then [.compare t, .take, .setNext now, .queue]
  else [.compare t, .take, .queue, .forget]

/-- INTERNAL: a call of `run` that nothing comes between is the `run` of the node.
SOURCE: SprinklersNode.cpp:148-173 -/
theorem run_runActs (s : ValveStop) (hidle : s.runPc = .idle) (t now : ℤ) :
    ∃ s', run step s (runActs s.node t now) = some s' ∧ s'.runPc = .idle ∧
      (s'.node, s'.sendQueue) = s.node.run s.sendQueue t now := by
  obtain ⟨n, q, runPc, offPc, sequences, placed⟩ := s
  cases hidle
  unfold runActs SprinklersNode.run
  by_cases ht : t < n.mNextSequenceTime
  · rw [if_pos ht, if_pos ht]
    exact ⟨_, rfl, if_pos ht, rfl⟩
  · rw [if_neg ht, if_neg ht]
    cases hget : n.mpSequence.get with
    | none =>
      refine ⟨{ node := { n with mNextSequenceTime := TIMETMAX, mCurrentSequence := [] }
                sendQueue := q.sendToNode n.ip SprinklersNode.allOff 2
                runPc := .idle, offPc := offPc, sequences := sequences
                placed := if q.HasRoom then placed ++ [.complete] else placed }, ?_, rfl, rfl⟩
      simp [step, ht, hget, place, record]
    | some r =>
      refine ⟨{ node := { n with mpSequence := r.2, mNextSequenceTime := now + r.1.1 }
                sendQueue := q.sendToNode n.ip (SprinklersNode.valveOn r.1.2) 2
                runPc := .idle, offPc := offPc, sequences := sequences
                placed := if q.HasRoom then placed ++ [.valveOn r.1.2 sequences] else placed },
        ?_, rfl, rfl⟩
      simp [step, ht, hget, place, record]

/-- INTERNAL: a stop that nothing comes between is `valveOff_callback`.
SOURCE: SprinklersNode.cpp:131-139, 175-181 -/
theorem run_valveOff (s : ValveStop) (hidle : s.offPc = .idle) :
    ∃ s', run step s [.reset, .drain, .queueOff] = some s' ∧ s'.offPc = .idle ∧
      (s'.node, s'.sendQueue) = s.node.valveOff_callback s.sendQueue := by
  obtain ⟨n, q, runPc, offPc, sequences, placed⟩ := s
  cases hidle
  exact ⟨_, rfl, rfl, rfl⟩

end ValveStop

end Dhas.Model
