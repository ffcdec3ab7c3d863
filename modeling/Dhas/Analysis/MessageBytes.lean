import Dhas.Program.MessageBuffer
import Mathlib.Algebra.Order.Ring.Int

/-!
# The bytes of a message and what is read from them

The constructors write the payload byte by byte, and the accessors read it with offsets of their
own. `Encodes` says that a constructor fills its buffer exactly, and that the accessors give
back what it was called with. The last byte of an I2CS message makes the sum of its commands
and data a multiple of 256.
-/

set_option autoImplicit false

namespace Dhas.Analysis.MessageBytes

open Dhas.Program

/-- A constructor fills a buffer of the size with the bytes of a message, and the accessors of
the message give back the arguments. -/
structure Encodes (buffer : Option MessageBuffer) (m : IInsteonMessage) (size : ℕ)
    (id : InsteonID) (cmd1 cmd2 : UInt8) (extended : Bool) : Prop where
  /-- every byte is assigned, and nothing outside the buffer -/
  assigned : buffer = some (m.getBuffer.map some)
  length : m.getBuffer.length = size
  size : m.mSize = size
  start : m.getBuffer.take 2 = [0x02, 0x62]
  getDestination : m.getDestination.toNat = id.toNat % 2 ^ 24
  command1 : m.command1 = cmd1
  command2 : m.command2 = cmd2
  isExtended : m.isExtended = extended

/-- INTERNAL: the mask keeps the low 24 bits. -/
theorem toNat_and_mask (id : InsteonID) : (id &&& 0xFFFFFF).toNat = id.toNat % 2 ^ 24 := by
  have hmask : (0xFFFFFF : UInt32).toNat = 2 ^ 24 - 1 := rfl
  rw [UInt32.toNat_and, hmask, Nat.and_two_pow_sub_one_eq_mod]

/-- INTERNAL: a standard message.
SOURCE: StandardOrExtendedMessage.cpp:4-12, 38-61 -/
theorem standard_encodes (id : InsteonID) (cmd1 cmd2 : UInt8) :
    Encodes (MessageBuffer.standard id cmd1 cmd2) (standardMessage id cmd1 cmd2) 8 id cmd1 cmd2
      false where
  assigned := MessageBuffer.standard_eq id cmd1 cmd2
  length := rfl
  size := rfl
  start := rfl
  getDestination := by rw [standardMessage_getDestination, toNat_and_mask]
  command1 := rfl
  command2 := rfl
  isExtended := standardMessage_isExtended id cmd1 cmd2

/-- INTERNAL: an extended message of either form.
SOURCE: StandardOrExtendedMessage.cpp:14-61 -/
theorem extended_encodes (id : InsteonID) (cmd1 cmd2 : UInt8) (data : Vector UInt8 14)
    (i2cs : Bool) :
    Encodes (MessageBuffer.extended id cmd1 cmd2 data i2cs)
      (extendedMessage id cmd1 cmd2 data i2cs) 22 id cmd1 cmd2 true where
  assigned := MessageBuffer.extended_eq id cmd1 cmd2 data i2cs
  length := by
    have hsize := (extendedMessage id cmd1 cmd2 data i2cs).size_eq
    show (extendedMessage id cmd1 cmd2 data i2cs).mPayload.length + 2 = 22
    exact hsize.symm
  size := rfl
  start := rfl
  getDestination := by rw [extendedMessage_getDestination, toNat_and_mask]
  command1 := rfl
  command2 := rfl
  isExtended := extendedMessage_isExtended id cmd1 cmd2 data i2cs

/-- INTERNAL: the data bytes of an extended message.
SOURCE: StandardOrExtendedMessage.cpp:50-53 -/
theorem extendedMessage_copyData (id : InsteonID) (cmd1 cmd2 : UInt8) (data : Vector UInt8 14)
    (i2cs : Bool) :
    (extendedMessage id cmd1 cmd2 data i2cs).copyData = extendedData cmd1 cmd2 data i2cs := by
  show (extendedData cmd1 cmd2 data i2cs).take 14 = _
  exact List.take_of_length_le (Nat.le_of_eq (extendedData_length cmd1 cmd2 data i2cs))

/-- INTERNAL: the sum of bytes in an `unsigned int`.
SOURCE: StandardOrExtendedMessage.cpp:26-27 -/
theorem toNat_foldl_add (l : List UInt8) (s : UInt32) :
    (l.foldl (fun tmp d => tmp + d.toUInt32) s).toNat =
      (s.toNat + (l.map UInt8.toNat).sum) % 2 ^ 32 := by
  induction l generalizing s with
  | nil =>
    have hlt := s.toNat_lt
    simp only [List.foldl_nil, List.map_nil, List.sum_nil]
    omega
  | cons d l ih =>
    rw [List.foldl_cons, ih, List.map_cons, List.sum_cons, UInt32.toNat_add, UInt8.toNat_toUInt32]
    omega

/-- INTERNAL: the two's complement of a sum, as a byte.
SOURCE: StandardOrExtendedMessage.cpp:28-29 -/
theorem toNat_complement (tmp : UInt32) :
    (((~~~tmp + 1) &&& 0xFF).toUInt8.toNat + tmp.toNat) % 256 = 0 := by
  have hmask : (0xFF : UInt32).toNat = 2 ^ 8 - 1 := rfl
  have hone : (1 : UInt32).toNat = 1 := rfl
  have hnot : (~~~tmp).toNat = 2 ^ 32 - 1 - tmp.toNat := UInt32.toNat_not tmp
  have hlt := tmp.toNat_lt
  rw [UInt32.toNat_toUInt8, UInt32.toNat_and, hmask, Nat.and_two_pow_sub_one_eq_mod,
    UInt32.toNat_add, hnot, hone]
  omega

/-- INTERNAL: **the checksum law**: the commands, the first 13 data bytes and the checksum add up
to a multiple of 256.
SOURCE: StandardOrExtendedMessage.cpp:24-30 -/
theorem i2csChecksum_sum (cmd1 cmd2 : UInt8) (data : List UInt8) :
    (cmd1.toNat + cmd2.toNat + ((data.take 13).map UInt8.toNat).sum +
      (i2csChecksum cmd1 cmd2 data).toNat) % 256 = 0 := by
  have hsum := toNat_foldl_add (data.take 13) (cmd1.toUInt32 + cmd2.toUInt32)
  have hcomplement := toNat_complement
    ((data.take 13).foldl (fun tmp d => tmp + d.toUInt32) (cmd1.toUInt32 + cmd2.toUInt32))
  rw [hsum, UInt32.toNat_add, UInt8.toNat_toUInt32, UInt8.toNat_toUInt32] at hcomplement
  unfold i2csChecksum
  dsimp only
  omega

/-- INTERNAL: the data bytes of an I2CS message: the first 13 as they are, and the checksum.
SOURCE: StandardOrExtendedMessage.cpp:22-30 -/
theorem extendedData_i2cs (cmd1 cmd2 : UInt8) (data : Vector UInt8 14) :
    extendedData cmd1 cmd2 data true =
      data.toList.take 13 ++ [i2csChecksum cmd1 cmd2 data.toList] := by
  have hlength : data.toList.length = 14 := by simp
  unfold extendedData
  rw [if_pos rfl, List.set_eq_take_append_cons_drop, if_pos (by omega),
    List.drop_of_length_le (by omega)]

/-- **Frames encode and decode exactly.** For every id, commands and data bytes: the standard
constructor fills a buffer of 8 bytes and both extended forms one of 22, and the accessors give
back the arguments, the id without its top byte; `copyData` gives the data of the plain form,
and for the I2CS form its first 13 bytes and a 14th that makes the sum of the commands and of
the 14 bytes a multiple of 256.
SOURCE: StandardOrExtendedMessage.cpp:4-61, IInsteonMessage.cpp:9-37 -/
theorem frames_encode_decode (id : InsteonID) (cmd1 cmd2 : UInt8) (data : Vector UInt8 14) :
    Encodes (MessageBuffer.standard id cmd1 cmd2) (standardMessage id cmd1 cmd2) 8 id cmd1 cmd2
      false ∧
    (∀ i2cs, Encodes (MessageBuffer.extended id cmd1 cmd2 data i2cs)
      (extendedMessage id cmd1 cmd2 data i2cs) 22 id cmd1 cmd2 true) ∧
    (extendedMessage id cmd1 cmd2 data false).copyData = data.toList ∧
    (extendedMessage id cmd1 cmd2 data true).copyData.length = 14 ∧
    (extendedMessage id cmd1 cmd2 data true).copyData.take 13 = data.toList.take 13 ∧
    (cmd1.toNat + cmd2.toNat +
      ((extendedMessage id cmd1 cmd2 data true).copyData.map UInt8.toNat).sum) % 256 = 0 := by
  have hlength : data.toList.length = 14 := by simp
  refine ⟨standard_encodes id cmd1 cmd2, extended_encodes id cmd1 cmd2 data, ?_, ?_, ?_, ?_⟩
  · rw [extendedMessage_copyData]
    rfl
  · rw [extendedMessage_copyData, extendedData_length]
  · rw [extendedMessage_copyData, extendedData_i2cs, List.take_append_of_le_length]
    · rw [List.take_take, Nat.min_self]
    · rw [List.length_take]
      omega
  · have hsum := i2csChecksum_sum cmd1 cmd2 data.toList
    rw [extendedMessage_copyData, extendedData_i2cs, List.map_append, List.sum_append,
      List.map_singleton, List.sum_singleton, ← Nat.add_assoc]
    exact hsum

end Dhas.Analysis.MessageBytes
