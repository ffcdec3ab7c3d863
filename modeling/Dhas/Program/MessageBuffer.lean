import Dhas.Library.IndexLoop
import Dhas.Program.InsteonMessages

/-!
# The bytes of a message

The constructors of `IInsteonMessage.cpp` and `StandardOrExtendedMessage.cpp`, assignment by
assignment. A buffer is allocated without contents, so a byte that nothing was assigned to is
`none`, and an assignment behind the end of the buffer makes the whole construction `none`.
-/

set_option autoImplicit false

namespace Dhas.Program

open Dhas.Library

/-- `unsigned char mBuffer[size]` -/
abbrev MessageBuffer := List (Option UInt8)

namespace MessageBuffer

/-- `mBuffer[i] = v` -/
def write (b : MessageBuffer) (i : ℕ) (v : UInt8) : Option MessageBuffer :=
  if i < b.length then some (b.set i (some v)) else none

/-- `mPayload[i] = v` -/
def writePayload (b : MessageBuffer) (i : ℕ) (v : UInt8) : Option MessageBuffer :=
  b.write (i + 2) v

/-- `IInsteonMessage(cmd,size,echoSize)` -/
def base (cmd : UInt8) (size : ℕ) : Option MessageBuffer := do
  let b ← write (List.replicate size none) 0 0x02
  b.write 1 cmd

/-- What both constructors of `StandardOrExtendedMessage` assign first. -/
def header (id : InsteonID) (flags cmd1 cmd2 : UInt8) (b : MessageBuffer) :
    Option MessageBuffer := do
  let b ← b.writePayload 0 ((id >>> 16) &&& 0xFF).toUInt8
  let b ← b.writePayload 1 ((id >>> 8) &&& 0xFF).toUInt8
  let b ← b.writePayload 2 (id &&& 0xFF).toUInt8
  let b ← b.writePayload 3 flags
  let b ← b.writePayload 4 cmd1
  b.writePayload 5 cmd2

/-- `StandardOrExtendedMessage(id,cmd1,cmd2)` -/
def standard (id : InsteonID) (cmd1 cmd2 : UInt8) : Option MessageBuffer := do
  let b ← base 0x62 8
  b.header id 0x0F cmd1 cmd2

/-- The sum that the checksum is made of. -/
def sumOfData (cmd1 cmd2 : UInt8) (data : Vector UInt8 14) : UInt32 :=
  (List.range 13).foldl (fun tmp i => tmp + (data.toList.getD i 0).toUInt32)
    (cmd1.toUInt32 + cmd2.toUInt32)

/-- `StandardOrExtendedMessage(id,cmd1,cmd2,data,i2cs)` -/
def extended (id : InsteonID) (cmd1 cmd2 : UInt8) (data : Vector UInt8 14) (i2cs : Bool) :
    Option MessageBuffer := do
  let b ← base 0x62 22
  let b ← b.header id 0x1F cmd1 cmd2
  let b ← (List.range 14).foldlM (fun b i => b.writePayload (i + 6) (data.toList.getD i 0)) b
  if i2cs then b.writePayload 19 ((~~~sumOfData cmd1 cmd2 data + 1) &&& 0xFF).toUInt8
  else some b

/-- INTERNAL: assigning a whole list behind what is assigned already.
SOURCE: StandardOrExtendedMessage.cpp:22 -/
theorem foldlM_write (head : MessageBuffer) {k : ℕ} (hk : head.length = k) (l : List UInt8)
    {n : ℕ} (hn : n ≤ l.length) :
    (List.range n).foldlM (fun b i => write b (i + k) (l.getD i 0))
        (head ++ List.replicate l.length none) =
      some (head ++ ((l.take n).map some ++ List.replicate (l.length - n) none)) := by
  induction n with
  | zero => simp
  | succ n ih =>
    have hlength : (head ++ ((l.take n).map some ++
        List.replicate (l.length - n) (none : Option UInt8))).length = k + l.length := by
      simp [hk]
      omega
    obtain ⟨m, hm⟩ : ∃ m, l.length - n = m + 1 := ⟨l.length - n - 1, by omega⟩
    have hm' : l.length - (n + 1) = m := by omega
    rw [foldlM_range_succ (ih (by omega)), write, hlength, if_pos (by omega),
      List.set_append_right _ _ (by omega), List.set_append_right _ _ (by simp; omega), hm,
      List.replicate_succ, take_succ_getD hn 0, hm']
    have hindex : n + k - head.length - ((l.take n).map some).length = 0 := by
      simp
      omega
    rw [hindex]
    simp

/-- INTERNAL: **the standard constructor assigns the bytes of the message**, all of them and
none behind them.
SOURCE: StandardOrExtendedMessage.cpp:4-12, IInsteonMessage.cpp:9-17 -/
theorem standard_eq (id : InsteonID) (cmd1 cmd2 : UInt8) :
    standard id cmd1 cmd2 = some ((standardMessage id cmd1 cmd2).getBuffer.map some) := rfl

/-- INTERNAL: **the extended constructor assigns the bytes of the message**, all of them and
none behind them.
SOURCE: StandardOrExtendedMessage.cpp:14-31, IInsteonMessage.cpp:9-17 -/
theorem extended_eq (id : InsteonID) (cmd1 cmd2 : UInt8) (data : Vector UInt8 14) (i2cs : Bool) :
    extended id cmd1 cmd2 data i2cs =
      some ((extendedMessage id cmd1 cmd2 data i2cs).getBuffer.map some) := by
  have hdata : data.toList.length = 14 := by simp
  have hsum : ((~~~sumOfData cmd1 cmd2 data + 1) &&& 0xFF).toUInt8 =
      i2csChecksum cmd1 cmd2 data.toList := by
    unfold i2csChecksum sumOfData
    rw [foldl_range_getD (fun (tmp : UInt32) (d : UInt8) => tmp + d.toUInt32) _ data.toList 0
      (by omega)]
  obtain ⟨head, hhead, hlength⟩ : ∃ head : MessageBuffer,
      head = (0x02 :: 0x62 :: (destinationBytes id ++ [0x1F, cmd1, cmd2])).map some ∧
        head.length = 8 := ⟨_, rfl, rfl⟩
  have hbase : base 0x62 22 = some (some 0x02 :: some 0x62 :: List.replicate 20 none) := rfl
  have hheader : header id 0x1F cmd1 cmd2 (some 0x02 :: some 0x62 :: List.replicate 20 none) =
      some (head ++ List.replicate 14 none) := hhead ▸ rfl
  have hloop : (List.range 14).foldlM (fun b i => writePayload b (i + 6) (data.toList.getD i 0))
      (head ++ List.replicate 14 none) = some (head ++ data.toList.map some) := by
    have hwrite := foldlM_write head hlength data.toList (n := 14) (by omega)
    rw [hdata, List.take_of_length_le (by omega), Nat.sub_self, List.replicate_zero,
      List.append_nil] at hwrite
    exact hwrite
  unfold extended
  simp only [hbase, Option.bind_eq_bind, Option.bind_some, hheader, hloop, hsum]
  cases i2cs with
  | false =>
    rw [hhead]
    rfl
  | true =>
    have hset : (head ++ data.toList.map some).set 21
        (some (i2csChecksum cmd1 cmd2 data.toList)) =
        head ++ (data.toList.set 13 (i2csChecksum cmd1 cmd2 data.toList)).map some := by
      rw [List.set_append_right _ _ (by omega), hlength, List.map_set]
    have hroom : 19 + 2 < (head ++ data.toList.map some).length := by
      rw [List.length_append, List.length_map]
      omega
    rw [if_pos rfl, writePayload, write, if_pos hroom, hset, hhead]
    rfl

end MessageBuffer

end Dhas.Program
