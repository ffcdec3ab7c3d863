import Dhas.Library.BoundedQueue
import Dhas.Program.CString

/-!
# The irrigation controller node

`modules/DHASWifiNodesModule/SprinklersNode.cpp` and `DWNSendQueue.cpp`. A node keeps a
ring buffer of (duration, valve) items and the time of its next action. The send queue
is shared by all nodes of the module, so the node's functions take it and return it.

`dumaislib`'s `MPSCRingBuffer` is a queue of bounded capacity: `put` on a full buffer
drops the element, and `sendToNode` and `addInSequence` do not look at its result.

Clock readings are integers. `time_t` is 64 bits wide and the only sum formed with it,
`time(0) + si.first`, leaves that range in the last `2 ^ 32` seconds of it only.
-/

set_option autoImplicit false

namespace Dhas.Program

open Dhas.Library

/-- dumaislib's ring buffer. -/
abbrev MPSCRingBuffer (α : Type) := BoundedQueue α

/-- An entry of the send queue: the first `size` bytes of `data` and whom they go to. -/
structure DataBuffer where
  destination : CString
  data : List UInt8
  deriving DecidableEq

/-- The send queue of the module, `MPSCRingBuffer<DataBuffer>(500)`. -/
abbrev DWNSendQueue := MPSCRingBuffer DataBuffer

def DWNSendQueue.new : DWNSendQueue := BoundedQueue.empty 500

/-- `size` is an `unsigned char` and `memcpy` copies that many bytes. -/
def DWNSendQueue.sendToNode (q : DWNSendQueue) (id : CString) (data : List UInt8)
    (size : UInt8) : DWNSendQueue :=
  q.put { destination := id, data := data.take size.toNat }

/-- `std::pair<unsigned int, unsigned char>`: a duration and a valve. -/
abbrev SequenceItem := ℕ × UInt8

/-- `std::numeric_limits<time_t>::max()` -/
def TIMETMAX : ℤ := 2 ^ 63 - 1

structure SprinklersNode where
  ip : CString
  mpSequence : MPSCRingBuffer SequenceItem
  mNextSequenceTime : ℤ
  mCurrentSequence : CString

namespace SprinklersNode

/-- The constructor, with the address `discoverNode` gives the node. -/
def new (ip : CString) : SprinklersNode where
  ip := ip
  mpSequence := BoundedQueue.empty 100
  mNextSequenceTime := TIMETMAX
  mCurrentSequence := []

end SprinklersNode

/-- The characters `[a-z]` of the pattern. -/
def isLetter (c : Char) : Bool := 'a' ≤ c && c ≤ 'z'

/-- The characters `[0-9]` of the pattern. -/
def isDigit (c : Char) : Bool := '0' ≤ c && c ≤ '9'

/-- INTERNAL: the letters that the source takes for digits. -/
theorem isDigit_iff {c : Char} : isDigit c = true ↔ c.isDigit = true := by
  simp [isDigit, Char.isDigit, Char.le_def]

/-- The matches of `([a-z])([0-9]*)` that `std::sregex_iterator` enumerates: each one is
the leftmost and takes as many digits as there are. A match cannot start with a digit,
so the search may go on right after the letter. -/
def sequenceMatches : CString → List (Char × CString)
  | [] => []
  | c :: cs =>
    if isLetter c then (c, cs.takeWhile isDigit) :: sequenceMatches cs
    else sequenceMatches cs

/-- `std::pair<char,int>` of one match; `none` when `std::stoul` throws. -/
def decodeMatch (m : Char × CString) : Option (Char × ℤ) :=
  (stoul m.2).map fun n => (m.1, toInt n)

/-- An exception in the loop is caught and the empty list is returned. -/
def decodeSequence (seq : CString) : List (Char × ℤ) :=
  ((sequenceMatches seq).mapM decodeMatch).getD []

namespace SprinklersNode

def clearSequence (n : SprinklersNode) : SprinklersNode :=
  { n with mCurrentSequence := [], mNextSequenceTime := TIMETMAX,
           mpSequence := n.mpSequence.clear }

/-- `now` is the `time(0)` of the call. -/
def addInSequence (n : SprinklersNode) (now : ℤ) (valve : UInt8) (duration : ℕ) :
    SprinklersNode :=
  { n with mpSequence := n.mpSequence.put (duration, valve),
           mNextSequenceTime :=
             if n.mNextSequenceTime = TIMETMAX then now else n.mNextSequenceTime }

/-- The body of the loop over the decoded pairs. -/
def addDecoded (now : ℤ) (n : SprinklersNode) (it : Char × ℤ) : SprinklersNode :=
  n.addInSequence now (UInt8.ofNat (it.1.toNat - 'a'.toNat)) (toUnsigned it.2)

/-- Returns the node and the "items" of the reply. -/
def sequence_callback (n : SprinklersNode) (now : ℤ) (seq : CString) : SprinklersNode × ℤ :=
  let n := n.clearSequence
  let list := decodeSequence seq
  let n := { n with mCurrentSequence := seq }
  (list.foldl (addDecoded now) n, toInt list.length)

/-- The two bytes `'a'-1` and `'0'`: all valves off. -/
def allOff : List UInt8 := [0x60, 0x30]

/-- The two bytes `'a' + valve` and `'1'`. -/
def valveOn (valve : UInt8) : List UInt8 := [0x61 + valve, 0x31]

def valveOff_callback (n : SprinklersNode) (q : DWNSendQueue) : SprinklersNode × DWNSendQueue :=
  (n.clearSequence, q.sendToNode n.ip allOff 2)

/-- `t` is the clock `runNodes` read and `now` the `time(0)` read here. -/
def run (n : SprinklersNode) (q : DWNSendQueue) (t now : ℤ) : SprinklersNode × DWNSendQueue :=
  if t < n.mNextSequenceTime then (n, q)
  else
    match n.mpSequence.get with
    | none =>
      ({ n with mNextSequenceTime := TIMETMAX, mCurrentSequence := [] },
        q.sendToNode n.ip allOff 2)
    | some (si, rest) =>
      ({ n with mpSequence := rest, mNextSequenceTime := now + si.1 },
        q.sendToNode n.ip (valveOn si.2) 2)

/-- INTERNAL: a follow-up that is scheduled stays scheduled while items are added.
SOURCE: SprinklersNode.cpp:183-188 -/
theorem foldl_addDecoded_next {now : ℤ} (list : List (Char × ℤ)) {n : SprinklersNode}
    (h : n.mNextSequenceTime ≠ TIMETMAX) :
    (list.foldl (addDecoded now) n).mNextSequenceTime = n.mNextSequenceTime := by
  induction list generalizing n with
  | nil => rfl
  | cons it list ih =>
    have hstep : (addDecoded now n it).mNextSequenceTime = n.mNextSequenceTime := by
      simp [addDecoded, addInSequence, h]
    rw [List.foldl_cons, ih (hstep.symm ▸ h), hstep]

/-- INTERNAL: when nothing was scheduled, the first item added is scheduled for `now`; when
there is no item, nothing is scheduled.
SOURCE: SprinklersNode.cpp:183-188 -/
theorem foldl_addDecoded_next_of_eq {now : ℤ} (list : List (Char × ℤ)) {n : SprinklersNode}
    (h : n.mNextSequenceTime = TIMETMAX) :
    (list.foldl (addDecoded now) n).mNextSequenceTime = if list = [] then TIMETMAX else now := by
  induction list generalizing n with
  | nil => simpa using h
  | cons it list ih =>
    have hstep : (addDecoded now n it).mNextSequenceTime = now := by
      simp [addDecoded, addInSequence, h]
    rw [List.foldl_cons, if_neg (List.cons_ne_nil _ _)]
    by_cases hnow : now = TIMETMAX
    · rw [ih (hstep.trans hnow)]
      split
      · exact hnow.symm
      · rfl
    · rw [foldl_addDecoded_next list (hstep.symm ▸ hnow), hstep]

/-- INTERNAL: what `sequence_callback` schedules.
SOURCE: SprinklersNode.cpp:96-110 -/
theorem sequence_callback_next (n : SprinklersNode) (now : ℤ) (seq : CString) :
    (n.sequence_callback now seq).1.mNextSequenceTime =
      if decodeSequence seq = [] then TIMETMAX else now :=
  foldl_addDecoded_next_of_eq _ rfl

/-- The item of a decoded pair, as `addInSequence` gives it to the ring buffer. -/
def sequenceItem (it : Char × ℤ) : SequenceItem :=
  (toUnsigned it.2, UInt8.ofNat (it.1.toNat - 'a'.toNat))

/-- INTERNAL: the loop gives the items of the pairs to the ring buffer, in their order.
SOURCE: SprinklersNode.cpp:104-107 -/
theorem foldl_addDecoded_mpSequence {now : ℤ} (list : List (Char × ℤ)) (n : SprinklersNode) :
    (list.foldl (addDecoded now) n).mpSequence =
      (list.map sequenceItem).foldl BoundedQueue.put n.mpSequence := by
  induction list generalizing n with
  | nil => rfl
  | cons it list ih =>
    rw [List.foldl_cons, ih, List.map_cons, List.foldl_cons]
    rfl

/-- INTERNAL: what `sequence_callback` leaves in the ring buffer.
SOURCE: SprinklersNode.cpp:96-110 -/
theorem sequence_callback_mpSequence (n : SprinklersNode) (now : ℤ) (seq : CString) :
    (n.sequence_callback now seq).1.mpSequence =
      ((decodeSequence seq).map sequenceItem).foldl BoundedQueue.put n.mpSequence.clear :=
  foldl_addDecoded_mpSequence _ _

/-- INTERNAL: the callback answers with the number of items, cut to an int. -/
theorem sequence_callback_items (n : SprinklersNode) (now : ℤ) (seq : CString) :
    (n.sequence_callback now seq).2 = toInt (decodeSequence seq).length := by
  simp only [sequence_callback]

/-- INTERNAL: the items leave the node's address alone. -/
theorem foldl_addDecoded_ip {now : ℤ} (list : List (Char × ℤ)) (n : SprinklersNode) :
    (list.foldl (addDecoded now) n).ip = n.ip := by
  induction list generalizing n with
  | nil => rfl
  | cons it list ih => rw [List.foldl_cons, ih]; rfl

end SprinklersNode

end Dhas.Program
