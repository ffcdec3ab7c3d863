import Mathlib.Data.List.Basic
import Mathlib.Data.Nat.Notation

/-!
# Messages to the Insteon modem

`libs/insteon/InsteonDefs.h`, `IInsteonMessage.cpp` and its five subclasses. A message is
what is written to the serial port: `0x02`, a command byte and a payload. The modem echoes
it and adds one byte, its answer.
-/

set_option autoImplicit false

namespace Dhas.Program

abbrev InsteonID := UInt32

/-- The subclass of a message. -/
inductive InsteonMessageClass where
  | standardOrExtended
  | groupCleanup
  | allLinkDatabase
  | imConfiguration
  | startAllLinking
  deriving DecidableEq

/-- The command bytes of a subclass. -/
def InsteonMessageClass.commands : InsteonMessageClass → List UInt8
  | .standardOrExtended | .groupCleanup => [0x62]
  | .allLinkDatabase => [0x69, 0x6A]
  | .imConfiguration => [0x6B]
  | .startAllLinking => [0x64]

structure IInsteonMessage where
  messageClass : InsteonMessageClass
  cmd : UInt8
  mPayload : List UInt8
  mSize : ℕ
  mEchoSize : ℕ
  /-- the command byte is one of the subclass -/
  cmd_mem : cmd ∈ messageClass.commands
  /-- the buffer has room for exactly the payload -/
  size_eq : mSize = mPayload.length + 2
  /-- the echo is the message and the modem's answer -/
  echoSize_eq : mEchoSize = mSize + 1
  deriving DecidableEq

namespace IInsteonMessage

def getBuffer (m : IInsteonMessage) : List UInt8 := 0x02 :: m.cmd :: m.mPayload

def getMessageID (m : IInsteonMessage) : UInt8 := m.cmd

/-- `mPayload[i]` -/
def payload (m : IInsteonMessage) (i : ℕ) : UInt8 := m.mPayload.getD i 0

/-- `(a<<16)|(b<<8)|c` -/
def idOfBytes (a b c : UInt8) : InsteonID :=
  (a.toUInt32 <<< 16) ||| (b.toUInt32 <<< 8) ||| c.toUInt32

/-- `getDestination()`. A message to the modem itself has destination 0. -/
def getDestination (m : IInsteonMessage) : InsteonID :=
  match m.messageClass with
  | .standardOrExtended | .groupCleanup =>
    idOfBytes (m.payload 0) (m.payload 1) (m.payload 2)
  | .allLinkDatabase | .imConfiguration | .startAllLinking => 0

/-- INTERNAL: the ALL-Link record requests are the messages 0x69 and 0x6A. -/
theorem messageID_allLink_iff (m : IInsteonMessage) :
    m.getMessageID = 0x69 ∨ m.getMessageID = 0x6A ↔ m.messageClass = .allLinkDatabase := by
  have hmem := m.cmd_mem
  cases hc : m.messageClass <;> simp only [hc, InsteonMessageClass.commands] at hmem <;>
    simp [getMessageID] at hmem ⊢ <;> grind

def needAck (m : IInsteonMessage) : Bool :=
  match m.messageClass with
  | .imConfiguration => false
  | .standardOrExtended | .groupCleanup | .allLinkDatabase | .startAllLinking => true

/-- INTERNAL: an ALL-Link record request is for the modem itself and needs an ACK. -/
theorem allLink_waits {m : IInsteonMessage}
    (h : m.getMessageID = 0x69 ∨ m.getMessageID = 0x6A) :
    m.getDestination = 0 ∧ m.needAck = true := by
  have hclass := m.messageID_allLink_iff.mp h
  simp [getDestination, needAck, hclass]

/-! `StandardOrExtendedMessage` -/

def isExtended (m : IInsteonMessage) : Bool := m.payload 3 &&& 0x10 ≠ 0

def command1 (m : IInsteonMessage) : UInt8 := m.payload 4

def command2 (m : IInsteonMessage) : UInt8 := m.payload 5

/-- `copyData(buf)` -/
def copyData (m : IInsteonMessage) : List UInt8 := (m.mPayload.drop 6).take 14

end IInsteonMessage

/-- The three bytes of a destination, `(id >> 16)&0xFF`, `(id >> 8)&0xFF`, `(id)&0xFF`. -/
def destinationBytes (id : InsteonID) : List UInt8 :=
  [((id >>> 16) &&& 0xFF).toUInt8, ((id >>> 8) &&& 0xFF).toUInt8, (id &&& 0xFF).toUInt8]

/-- `StandardOrExtendedMessage(id,cmd1,cmd2)` -/
def standardMessage (id : InsteonID) (cmd1 cmd2 : UInt8) : IInsteonMessage where
  messageClass := .standardOrExtended
  cmd := 0x62
  mPayload := destinationBytes id ++ [0x0F, cmd1, cmd2]
  mSize := 8
  mEchoSize := 9
  cmd_mem := by decide
  size_eq := rfl
  echoSize_eq := rfl

/-- The last data byte of an I2CS message: the two's complement of the sum of the commands
and of the other data bytes. -/
def i2csChecksum (cmd1 cmd2 : UInt8) (data : List UInt8) : UInt8 :=
  let tmp := (data.take 13).foldl (fun tmp d => tmp + d.toUInt32)
    (cmd1.toUInt32 + cmd2.toUInt32)
  ((~~~tmp + 1) &&& 0xFF).toUInt8

/-- The 14 data bytes as they stand in the payload. -/
def extendedData (cmd1 cmd2 : UInt8) (data : Vector UInt8 14) (i2cs : Bool) : List UInt8 :=
  if i2cs then data.toList.set 13 (i2csChecksum cmd1 cmd2 data.toList) else data.toList

/-- INTERNAL: the data of an extended message is 14 bytes, with either checksum. -/
theorem extendedData_length (cmd1 cmd2 : UInt8) (data : Vector UInt8 14) (i2cs : Bool) :
    (extendedData cmd1 cmd2 data i2cs).length = 14 := by
  cases i2cs <;> simp [extendedData]

/-- `StandardOrExtendedMessage(id,cmd1,cmd2,data,i2cs)` -/
def extendedMessage (id : InsteonID) (cmd1 cmd2 : UInt8) (data : Vector UInt8 14)
    (i2cs : Bool) : IInsteonMessage where
  messageClass := .standardOrExtended
  cmd := 0x62
  mPayload := destinationBytes id ++ [0x1F, cmd1, cmd2] ++ extendedData cmd1 cmd2 data i2cs
  mSize := 22
  mEchoSize := 23
  cmd_mem := by decide
  size_eq := by simp [destinationBytes, extendedData_length]
  echoSize_eq := rfl

/-- `GroupCleanupMessage(id,cmd1,cmd2)` -/
def groupCleanupMessage (id : InsteonID) (cmd1 cmd2 : UInt8) : IInsteonMessage where
  messageClass := .groupCleanup
  cmd := 0x62
  mPayload := destinationBytes id ++ [0x4F, cmd1, cmd2]
  mSize := 8
  mEchoSize := 9
  cmd_mem := by decide
  size_eq := rfl
  echoSize_eq := rfl

/-- `AllLinkDatabaseMessage(first)` -/
def allLinkDatabaseMessage (first : Bool) : IInsteonMessage where
  messageClass := .allLinkDatabase
  cmd := if first then 0x69 else 0x6A
  mPayload := []
  mSize := 2
  mEchoSize := 3
  cmd_mem := by cases first <;> decide
  size_eq := rfl
  echoSize_eq := rfl

/-- `IMConfigurationMessage(config)` -/
def imConfigurationMessage (config : UInt8) : IInsteonMessage where
  messageClass := .imConfiguration
  cmd := 0x6B
  mPayload := [config]
  mSize := 3
  mEchoSize := 4
  cmd_mem := by decide
  size_eq := rfl
  echoSize_eq := rfl

/-- INTERNAL: the bytes of a destination are put together again without the top byte.
SOURCE: StandardOrExtendedMessage.cpp:6-8, 58-61 -/
theorem idOfBytes_destinationBytes (id : InsteonID) :
    IInsteonMessage.idOfBytes ((id >>> 16) &&& 0xFF).toUInt8 ((id >>> 8) &&& 0xFF).toUInt8
      (id &&& 0xFF).toUInt8 = id &&& 0xFFFFFF := by
  unfold IInsteonMessage.idOfBytes
  apply UInt32.toNat_inj.mp
  have hbyte : (0xFF : UInt32).toNat = 2 ^ 8 - 1 := rfl
  have hmask : (0xFFFFFF : UInt32).toNat = 2 ^ 24 - 1 := rfl
  have h16 : (16 : UInt32).toNat % 32 = 16 := rfl
  have h8 : (8 : UInt32).toNat % 32 = 8 := rfl
  simp only [UInt32.toNat_or, UInt32.toNat_and, UInt32.toNat_shiftLeft,
    UInt32.toNat_shiftRight, UInt8.toNat_toUInt32, UInt32.toNat_toUInt8, hbyte, hmask, h16, h8]
  -- bit by bit: each bit below 24 comes from one of the three bytes
  apply Nat.eq_of_testBit_eq
  intro i
  simp only [Nat.testBit_or, Nat.testBit_and, Nat.testBit_shiftLeft, Nat.testBit_shiftRight,
    Nat.testBit_mod_two_pow, Nat.testBit_two_pow_sub_one]
  rcases Nat.lt_or_ge i 8 with h | h
  · grind
  rcases Nat.lt_or_ge i 16 with h | h
  · grind
  rcases Nat.lt_or_ge i 24 with h | h <;> grind

/-- INTERNAL: the destination is the low 24 bits of the id. -/
@[simp] theorem standardMessage_getDestination (id : InsteonID) (cmd1 cmd2 : UInt8) :
    (standardMessage id cmd1 cmd2).getDestination = id &&& 0xFFFFFF :=
  idOfBytes_destinationBytes id

/-- INTERNAL: the destination is the low 24 bits of the id. -/
@[simp] theorem extendedMessage_getDestination (id : InsteonID) (cmd1 cmd2 : UInt8)
    (data : Vector UInt8 14) (i2cs : Bool) :
    (extendedMessage id cmd1 cmd2 data i2cs).getDestination = id &&& 0xFFFFFF :=
  idOfBytes_destinationBytes id

/-- INTERNAL: the destination is the low 24 bits of the id. -/
@[simp] theorem groupCleanupMessage_getDestination (id : InsteonID) (cmd1 cmd2 : UInt8) :
    (groupCleanupMessage id cmd1 cmd2).getDestination = id &&& 0xFFFFFF :=
  idOfBytes_destinationBytes id

/-- INTERNAL: a standard message has no extended flag. -/
theorem standardMessage_isExtended (id : InsteonID) (cmd1 cmd2 : UInt8) :
    (standardMessage id cmd1 cmd2).isExtended = false := by
  show decide ((0x0F : UInt8) &&& 0x10 ≠ 0) = false
  decide

/-- INTERNAL: an extended message has the extended flag. -/
theorem extendedMessage_isExtended (id : InsteonID) (cmd1 cmd2 : UInt8) (data : Vector UInt8 14)
    (i2cs : Bool) : (extendedMessage id cmd1 cmd2 data i2cs).isExtended = true := by
  show decide ((0x1F : UInt8) &&& 0x10 ≠ 0) = true
  decide

end Dhas.Program
