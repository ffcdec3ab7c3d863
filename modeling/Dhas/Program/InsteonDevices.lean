import Dhas.Program.InsteonModem
import Dhas.Program.JSON

/-!
# Insteon devices

`libs/insteon/InsteonDevice.cpp` and the devices that the module constructs:
`SwitchDevice.cpp`, `EZFloraDevice.cpp` and `IOLinc.cpp`. A device that writes to the modem
only puts messages on its queue, so its functions return these messages.

The constructor leaves `mLastDirectMessageSent` unset; it is a parameter here.
-/

set_option autoImplicit false

namespace Dhas.Program

/-! ## Devices -/

inductive InsteonDeviceType where
  | OnOff
  | EZFlora
  | ThermostatDevice
  | IOLincDevice
  | KeypadLincDevice
  deriving DecidableEq

/-- The value of the enumerator. -/
def InsteonDeviceType.toNat : InsteonDeviceType → ℕ
  | .OnOff => 0
  | .EZFlora => 1
  | .ThermostatDevice => 2
  | .IOLincDevice => 3
  | .KeypadLincDevice => 4

inductive TransmissionStatus where
  | Idle
  | WaitingAckOfDirectMessage
  deriving DecidableEq

structure InsteonDirectMessage where
  extended : Bool
  cmd1 : UInt8
  cmd2 : UInt8
  data : List UInt8
  deriving DecidableEq

/-- The subclass of a device, with its own fields. -/
inductive InsteonDeviceClass where
  | switchDevice
  | ezFlora (mStatusByte : UInt8) (mMeter : ℤ)
  | ioLinc
  deriving DecidableEq

structure InsteonDevice where
  deviceClass : InsteonDeviceClass
  mName : CString
  mID : InsteonID
  mLastMessageTimeStamp : ℤ
  mLastDirectMessageSent : InsteonDirectMessage
  mInitialized : Bool
  mDeviceParameter : UInt8
  mTransmissionStatus : TransmissionStatus
  deriving DecidableEq

namespace InsteonDevice

/-- The constructor. `mLastMessageTimeStamp = true;` stores 1. -/
def new (deviceClass : InsteonDeviceClass) (name : CString) (id : InsteonID)
    (unset : InsteonDirectMessage) : InsteonDevice where
  deviceClass := deviceClass
  mName := name
  mID := id
  mLastMessageTimeStamp := 1
  mLastDirectMessageSent := unset
  mInitialized := false
  mDeviceParameter := 0
  mTransmissionStatus := .Idle

/-- `isIdle()` at time `t`. A device that waits times out two seconds after its message. -/
def isIdle (d : InsteonDevice) (t : ℤ) : Bool × InsteonDevice :=
  let d :=
    if t - d.mLastMessageTimeStamp ≥ 2 ∧ d.mTransmissionStatus ≠ .Idle then
      { d with mTransmissionStatus := .Idle, mLastMessageTimeStamp := 0 }
    else d
  (decide (d.mTransmissionStatus = .Idle), d)

/-- INTERNAL: the check leaves the device alone unless its message has timed out.
SOURCE: InsteonDevice.cpp:22-36 -/
theorem isIdle_cases (d : InsteonDevice) (t : ℤ) :
    (d.isIdle t).2 = d ∨
      (d.mTransmissionStatus = .WaitingAckOfDirectMessage ∧ d.mLastMessageTimeStamp + 2 ≤ t ∧
        (d.isIdle t).2.mTransmissionStatus = .Idle) := by
  unfold isIdle
  dsimp only
  split
  case isFalse => exact .inl rfl
  case isTrue h =>
    refine .inr ⟨?_, by omega, rfl⟩
    cases hs : d.mTransmissionStatus with
    | Idle => exact absurd hs h.2
    | WaitingAckOfDirectMessage => rfl

/-- INTERNAL: the device is idle when its status, after the look at the clock, is. -/
theorem isIdle_fst (d : InsteonDevice) (t : ℤ) :
    (d.isIdle t).1 = decide ((d.isIdle t).2.mTransmissionStatus = .Idle) := rfl

/-- `setLastDirectMessageSent(cmd)` at time `t`. -/
def setLastDirectMessageSent (d : InsteonDevice) (t : ℤ) (cmd : InsteonDirectMessage) :
    InsteonDevice :=
  { d with
    mLastMessageTimeStamp := t
    mLastDirectMessageSent := cmd
    mTransmissionStatus := .WaitingAckOfDirectMessage }

def setInitialized (d : InsteonDevice) : InsteonDevice := { d with mInitialized := true }

def setDeviceParameter (d : InsteonDevice) (param : UInt8) : InsteonDevice :=
  { d with mDeviceParameter := param }

end InsteonDevice

/-- `(flags & 0b11100000)>>5` of the flags byte. -/
def FrameBuffer.status (buf : FrameBuffer) : UInt8 := (buf.at 8 &&& 0b11100000) >>> 5

/-- `cmd1 = buf[9]` -/
def FrameBuffer.cmd1 (buf : FrameBuffer) : UInt8 := buf.at 9

/-- `cmd2 = buf[10]` -/
def FrameBuffer.cmd2 (buf : FrameBuffer) : UInt8 := buf.at 10

/-- The sender, `(buf[2]<<16)|(buf[3]<<8)|buf[4]`. -/
def FrameBuffer.sender (buf : FrameBuffer) : InsteonID :=
  IInsteonMessage.idOfBytes (buf.at 2) (buf.at 3) (buf.at 4)

/-- What `processEvent` leaves: the device, the JSON object and the messages it wrote. -/
structure EventResult where
  device : InsteonDevice
  json : JSON
  commands : List IInsteonMessage

/-- The members `event`, `id` and `name`. -/
def eventHeader (d : InsteonDevice) (event : String) : JSON :=
  [("event", jsonText event), ("id", .num d.mID.toNat), ("name", .str d.mName)]

/-- The group cleanup message of a switch or an IOLinc, which name their type. -/
def groupCleanupEvent (d : InsteonDevice) (type : String) (buf : FrameBuffer) : EventResult :=
  let json := eventHeader d "insteon" ++ [("trigger", jsonText "unsolicited")]
  if buf.cmd1 = 0x11 ∨ buf.cmd1 = 0x12 then
    ⟨d.setDeviceParameter 255, json ++ [("type", jsonText type), ("value", jsonByte 255)], []⟩
  else if buf.cmd1 = 0x13 ∨ buf.cmd1 = 0x14 then
    ⟨d.setDeviceParameter 0, json ++ [("type", jsonText type), ("value", jsonByte 0)], []⟩
  else ⟨d, json, []⟩

/-- The answer to a status request, with the level to store: the first one is not
notified. -/
def statusEvent (d : InsteonDevice) (type : InsteonDeviceType) (level : UInt8)
    (buf : FrameBuffer) : EventResult :=
  let d := d.setDeviceParameter level
  if d.mInitialized then
    ⟨d, eventHeader d "insteon" ++ [("trigger", jsonText "unsolicited"),
      ("type", .num type.toNat), ("value", jsonByte buf.cmd2)], []⟩
  else ⟨d.setInitialized, [], []⟩

/-- The "status request" command does not echo the command in the message; it is deduced
from the last message sent. -/
def ackedCommand (d : InsteonDevice) (buf : FrameBuffer) : UInt8 :=
  if d.mLastDirectMessageSent.cmd1 = 0x19 then 0x19 else buf.cmd1

namespace SwitchDevice

/-- The constructor, with the message it writes. -/
def new (name : CString) (id : InsteonID) (unset : InsteonDirectMessage) :
    InsteonDevice × List IInsteonMessage :=
  (InsteonDevice.new .switchDevice name id unset, [standardMessage id 0x19 0])

def toggle (d : InsteonDevice) : List IInsteonMessage :=
  if d.mDeviceParameter = 0 then [standardMessage d.mID 0x11 255]
  else [standardMessage d.mID 0x14 0]

def turnOnOrOff (d : InsteonDevice) (on : Bool) (level : UInt8) : List IInsteonMessage :=
  if on then
    let cmd := if level = 255 then 0x12 else 0x11
    [standardMessage d.mID cmd level]
  else [standardMessage d.mID 0x14 0]

def getLevel (d : InsteonDevice) : UInt8 := d.mDeviceParameter

/-- An acknowledged on or off command. -/
def ackEvent (d : InsteonDevice) (level : UInt8) : EventResult :=
  ⟨d.setDeviceParameter level, eventHeader d "insteon" ++ [("trigger", jsonText "ack"),
    ("type", jsonText "switch"), ("value", jsonByte level)], []⟩

def processEvent (d : InsteonDevice) (buf : FrameBuffer) : EventResult :=
  if buf.status = 0b001 then
    let command := ackedCommand d buf
    if command = 0x19 then statusEvent d .OnOff buf.cmd2 buf
    else if command = 0x11 ∨ command = 0x12 then ackEvent d 255
    else if command = 0x13 ∨ command = 0x14 then ackEvent d 0
    else ⟨d, [], []⟩
  else if buf.status = 0b010 then groupCleanupEvent d "switch" buf
  else if buf.status = 0b110 then
    -- a dimmer was changed by hand: its level has to be asked for
    if buf.cmd1 = 0x18 then ⟨d, [], [standardMessage d.mID 0x19 0]⟩ else ⟨d, [], []⟩
  else ⟨d, [], []⟩

end SwitchDevice

namespace IOLinc

def new (name : CString) (id : InsteonID) (unset : InsteonDirectMessage) :
    InsteonDevice × List IInsteonMessage :=
  (InsteonDevice.new .ioLinc name id unset, [standardMessage id 0x19 1])

def getState (d : InsteonDevice) : Bool := d.mDeviceParameter = 0

/-- The relay is only ever triggered by the "on" command. -/
def turnOnOrOff (d : InsteonDevice) (on : Bool) : List IInsteonMessage :=
  if getState d ^^ on then [standardMessage d.mID 0x11 255] else []

def toggle (d : InsteonDevice) : List IInsteonMessage := [standardMessage d.mID 0x11 255]

def processEvent (d : InsteonDevice) (buf : FrameBuffer) : EventResult :=
  if buf.status = 0b001 then
    if ackedCommand d buf = 0x19 then
      statusEvent d .IOLincDevice (if buf.cmd2 = 0 then 0 else 255) buf
    else ⟨d, [], []⟩
  else if buf.status = 0b010 then groupCleanupEvent d "iolinc" buf
  else ⟨d, [], []⟩

end IOLinc

namespace EZFloraDevice

def new (name : CString) (id : InsteonID) (unset : InsteonDirectMessage) :
    InsteonDevice × List IInsteonMessage :=
  (InsteonDevice.new (.ezFlora 0 0) name id unset, [standardMessage id 0x44 0x09])

def getOpenedValve (mStatusByte : UInt8) : ℤ :=
  if mStatusByte &&& 0b10000000 ≠ 0 then (mStatusByte &&& 0b00000111).toNat else -1

def getRunningProgram (mStatusByte : UInt8) : ℤ :=
  if mStatusByte &&& 0b00100000 ≠ 0 then ((mStatusByte &&& 0b00011000) >>> 3).toNat else -1

/-- A valve for 0 to 7, a program for 8 to 11. Both ways the meter is cleared before
something is started. -/
def turnOnOrOff (d : InsteonDevice) (on : Bool) (subdev : UInt8) : List IInsteonMessage :=
  if subdev ≤ 7 then
    if on then [standardMessage d.mID 0x44 0x0F, standardMessage d.mID 0x40 subdev]
    else [standardMessage d.mID 0x41 subdev]
  else if subdev ≤ 11 then
    if on then [standardMessage d.mID 0x44 0x0F, standardMessage d.mID 0x42 (subdev - 8)]
    else [standardMessage d.mID 0x43 (subdev - 8)]
  else []

def toggle (d : InsteonDevice) (mStatusByte : UInt8) (subdev : UInt8) :
    List IInsteonMessage :=
  if subdev ≤ 7 then
    turnOnOrOff d (decide (getOpenedValve mStatusByte ≠ subdev.toNat)) subdev
  else if subdev ≤ 11 then
    turnOnOrOff d (decide (getRunningProgram mStatusByte ≠ (subdev.toNat : ℤ) - 8)) subdev
  else []

/-- The event for a new valve status. There is none for the answer to a status request. -/
def valveEvent (d : InsteonDevice) (mStatusByte : UInt8) (mMeter : ℤ) (buf : FrameBuffer) :
    JSON :=
  let valveStatus := buf.cmd2
  let runningProgram := valveStatus &&& 0b00100000 ≠ 0
  let runningValve := valveStatus &&& 0b10000000 ≠ 0
  if buf.cmd1 = 0x44 then []
  else if ¬ runningProgram ∧ ¬ runningValve then
    eventHeader d "wateroff" ++ [("type", .num InsteonDeviceType.EZFlora.toNat),
      ("meter", .num mMeter)]
  else if runningValve then
    let valve := valveStatus &&& 0b00000111
    let opened := getOpenedValve mStatusByte
    -- a valve that was open before is closed now
    let previousValve := if (valve.toNat : ℤ) ≠ opened then opened else -1
    eventHeader d "wateron" ++ [("type", .num InsteonDeviceType.EZFlora.toNat),
      ("meter", .num mMeter), ("previousvalve", .num previousValve),
      ("valve", jsonByte valve)]
  else []

def processEvent (d : InsteonDevice) (mStatusByte : UInt8) (mMeter : ℤ) (buf : FrameBuffer) :
    EventResult :=
  if (buf.status = 0b001 ∧ 0x40 ≤ buf.cmd1 ∧ buf.cmd1 ≤ 0x44) ∨
      (buf.status = 0b100 ∧ buf.cmd1 = 0x27) then
    if d.mLastDirectMessageSent.cmd1 = 0x40 ∧ d.mLastDirectMessageSent.extended then
      -- the answer to an extended 0x40 message looks like one to "turn on valve"
      ⟨d, [], []⟩
    else
      ⟨{ d with deviceClass := .ezFlora buf.cmd2 mMeter },
        valveEvent d mStatusByte mMeter buf, []⟩
  else ⟨d, [], []⟩

end EZFloraDevice

namespace InsteonDevice

def processEvent (d : InsteonDevice) (buf : FrameBuffer) : EventResult :=
  match d.deviceClass with
  | .switchDevice => SwitchDevice.processEvent d buf
  | .ezFlora mStatusByte mMeter => EZFloraDevice.processEvent d mStatusByte mMeter buf
  | .ioLinc => IOLinc.processEvent d buf

def toggle (d : InsteonDevice) (subdev : UInt8) : List IInsteonMessage :=
  match d.deviceClass with
  | .switchDevice => SwitchDevice.toggle d
  | .ezFlora mStatusByte _ => EZFloraDevice.toggle d mStatusByte subdev
  | .ioLinc => IOLinc.toggle d

def turnOnOrOff (d : InsteonDevice) (on : Bool) (level subdev : UInt8) :
    List IInsteonMessage :=
  match d.deviceClass with
  | .switchDevice => SwitchDevice.turnOnOrOff d on level
  | .ezFlora _ _ => EZFloraDevice.turnOnOrOff d on subdev
  | .ioLinc => IOLinc.turnOnOrOff d on

/-- The id as `std::hex` writes it in six places, with `0x` before it. -/
def hexID (id : InsteonID) : CString :=
  let digits := Nat.toDigits 16 id.toNat
  "0x".toList ++ List.replicate (6 - digits.length) '0' ++ digits

/-- What `toJSON` adds to the listing of the devices.
SOURCE: SwitchDevice.cpp:158-166, IOLinc.cpp:115-123, EZFloraDevice.cpp:168-179 -/
def toJSON (d : InsteonDevice) : JSON :=
  [("id", .str (hexID d.mID)), ("name", .str d.mName)] ++
    match d.deviceClass with
    | .switchDevice =>
      [("type", .num InsteonDeviceType.OnOff.toNat), ("level", jsonByte (SwitchDevice.getLevel d))]
    | .ezFlora mStatusByte mMeter =>
      [("type", .num InsteonDeviceType.EZFlora.toNat),
        ("valve", .num (EZFloraDevice.getOpenedValve mStatusByte)),
        ("program", .num (EZFloraDevice.getRunningProgram mStatusByte)), ("meter", .num mMeter)]
    | .ioLinc =>
      [("type", .num InsteonDeviceType.IOLincDevice.toNat),
        ("level", .num (if IOLinc.getState d then 255 else 0))]

/-- The frame is an ACK that `onInsteonMessage` ignores: its command is not that of the
last message sent, and that was not a status request. -/
def ignoresAck (d : InsteonDevice) (buf : FrameBuffer) : Bool :=
  buf.status = 0b001 && d.mLastDirectMessageSent.cmd1 ≠ buf.cmd1 &&
    d.mLastDirectMessageSent.cmd1 ≠ 0x19

/-- INTERNAL: an ACK is accepted for its command, or while a status request is awaited.
SOURCE: InsteonDevice.cpp:123-134 -/
theorem ignoresAck_eq_false_iff {d : InsteonDevice} {buf : FrameBuffer}
    (hack : buf.status = 0b001) :
    d.ignoresAck buf = false ↔
      (d.mLastDirectMessageSent.cmd1 ≠ buf.cmd1 → d.mLastDirectMessageSent.cmd1 = 0x19) := by
  simp [ignoresAck, hack]

/-- What `onInsteonMessage` does after `processEvent`. -/
def afterEvent (d : InsteonDevice) (buf : FrameBuffer) : InsteonDevice :=
  if buf.status = 0b001 then
    { d with
      mTransmissionStatus := .Idle
      mLastDirectMessageSent := { d.mLastDirectMessageSent with cmd1 := 0 } }
  else if buf.status = 0b101 then { d with mTransmissionStatus := .Idle }
  else d

/-- The frame settles the message that the device waits for: an ACK that is not ignored,
or a NAK. -/
def Settled (d : InsteonDevice) (buf : FrameBuffer) : Prop :=
  d.ignoresAck buf = false ∧ (buf.status = 0b001 ∨ buf.status = 0b101)

def onInsteonMessage (d : InsteonDevice) (buf : FrameBuffer) : EventResult :=
  if d.ignoresAck buf then ⟨d, [], []⟩
  else
    let r := d.processEvent buf
    { r with device := r.device.afterEvent buf }

/-! ## What a frame can change -/

/-- The device has stored a level, and nothing else of it has changed. -/
def StoresLevel (d d' : InsteonDevice) : Prop :=
  ∃ param initialized,
    d' = { d with mDeviceParameter := param, mInitialized := initialized }

/-- INTERNAL: a device that nothing changed. -/
theorem StoresLevel.refl (d : InsteonDevice) : StoresLevel d d := ⟨_, _, rfl⟩

/-- INTERNAL: a parameter is stored as the level. -/
theorem setDeviceParameter_storesLevel (d : InsteonDevice) (param : UInt8) :
    StoresLevel d (d.setDeviceParameter param) := ⟨_, _, rfl⟩

/-- INTERNAL: the event of a group cleanup stores its level. -/
theorem groupCleanupEvent_storesLevel (d : InsteonDevice) (type : String)
    (buf : FrameBuffer) : StoresLevel d (groupCleanupEvent d type buf).device := by
  unfold groupCleanupEvent
  dsimp only
  split
  · exact setDeviceParameter_storesLevel d 255
  · split
    · exact setDeviceParameter_storesLevel d 0
    · exact .refl d

/-- INTERNAL: the event of a status stores its level. -/
theorem statusEvent_storesLevel (d : InsteonDevice) (type : InsteonDeviceType)
    (level : UInt8) (buf : FrameBuffer) :
    StoresLevel d (statusEvent d type level buf).device := by
  unfold statusEvent
  dsimp only
  split
  case isTrue => exact setDeviceParameter_storesLevel d level
  case isFalse => exact ⟨_, _, rfl⟩

/-- INTERNAL: an event of a switch.
SOURCE: SwitchDevice.cpp:61-155 -/
theorem switchDevice_storesLevel (d : InsteonDevice) (buf : FrameBuffer) :
    StoresLevel d (SwitchDevice.processEvent d buf).device := by
  unfold SwitchDevice.processEvent
  dsimp only
  split
  · split
    · exact statusEvent_storesLevel d _ _ buf
    · split
      · exact setDeviceParameter_storesLevel d 255
      · split
        · exact setDeviceParameter_storesLevel d 0
        · exact .refl d
  · split
    · exact groupCleanupEvent_storesLevel d _ buf
    · split
      · split <;> exact .refl d
      · exact .refl d

/-- INTERNAL: an event of an IOLinc.
SOURCE: IOLinc.cpp:55-112 -/
theorem ioLinc_storesLevel (d : InsteonDevice) (buf : FrameBuffer) :
    StoresLevel d (IOLinc.processEvent d buf).device := by
  unfold IOLinc.processEvent
  split
  · split
    · exact statusEvent_storesLevel d _ _ buf
    · exact .refl d
  · split
    · exact groupCleanupEvent_storesLevel d _ buf
    · exact .refl d

/-- INTERNAL: an EZFlora stores the status of its valves, and nothing else of it changes.
SOURCE: EZFloraDevice.cpp:98-166 -/
theorem ezFlora_storesStatus {d : InsteonDevice} {mStatusByte : UInt8} {mMeter : ℤ}
    (hclass : d.deviceClass = .ezFlora mStatusByte mMeter) (buf : FrameBuffer) :
    ∃ status, (EZFloraDevice.processEvent d mStatusByte mMeter buf).device =
      { d with deviceClass := .ezFlora status mMeter } := by
  have hsame : d = { d with deviceClass := .ezFlora mStatusByte mMeter } := by
    rw [← hclass]
  unfold EZFloraDevice.processEvent
  split
  · split
    · exact ⟨mStatusByte, hsame⟩
    · exact ⟨buf.cmd2, rfl⟩
  · exact ⟨mStatusByte, hsame⟩

/-- INTERNAL: what comes behind an event is about the last message only.
SOURCE: InsteonDevice.cpp:137-150 -/
theorem afterEvent_eq (d : InsteonDevice) (buf : FrameBuffer) :
    ∃ status sent, d.afterEvent buf =
      { d with mTransmissionStatus := status, mLastDirectMessageSent := sent } := by
  unfold afterEvent
  split
  · exact ⟨_, _, rfl⟩
  · split <;> exact ⟨_, _, rfl⟩

/-- INTERNAL: an event leaves the device's class alone. -/
@[simp] theorem afterEvent_deviceClass (d : InsteonDevice) (buf : FrameBuffer) :
    (d.afterEvent buf).deviceClass = d.deviceClass := by
  obtain ⟨status, sent, h⟩ := d.afterEvent_eq buf
  rw [h]

/-- INTERNAL: an event leaves the device's id alone. -/
@[simp] theorem afterEvent_mID (d : InsteonDevice) (buf : FrameBuffer) :
    (d.afterEvent buf).mID = d.mID := by
  obtain ⟨status, sent, h⟩ := d.afterEvent_eq buf
  rw [h]

/-- INTERNAL: what is done after an event leaves the level alone. -/
@[simp] theorem afterEvent_mDeviceParameter (d : InsteonDevice) (buf : FrameBuffer) :
    (d.afterEvent buf).mDeviceParameter = d.mDeviceParameter := by
  obtain ⟨status, sent, h⟩ := d.afterEvent_eq buf
  rw [h]

/-- INTERNAL: a frame that is ignored does nothing.
SOURCE: InsteonDevice.cpp:123-134 -/
theorem onInsteonMessage_ignored {d : InsteonDevice} {buf : FrameBuffer}
    (h : d.ignoresAck buf = true) : d.onInsteonMessage buf = ⟨d, [], []⟩ := by
  unfold onInsteonMessage
  rw [if_pos h]

/-- INTERNAL: any other frame is an event.
SOURCE: InsteonDevice.cpp:108-152 -/
theorem onInsteonMessage_accepted {d : InsteonDevice} {buf : FrameBuffer}
    (h : d.ignoresAck buf = false) :
    d.onInsteonMessage buf =
      { d.processEvent buf with device := (d.processEvent buf).device.afterEvent buf } := by
  unfold onInsteonMessage
  rw [h]
  rfl

/-- INTERNAL: a field that no event and nothing behind it changes.
SOURCE: InsteonDevice.cpp:108-152 -/
theorem onInsteonMessage_frame {β : Type} (field : InsteonDevice → β) {d : InsteonDevice}
    {buf : FrameBuffer} (hafter : ∀ e : InsteonDevice, field (e.afterEvent buf) = field e)
    (hevent : field (d.processEvent buf).device = field d) :
    field (d.onInsteonMessage buf).device = field d := by
  cases h : d.ignoresAck buf with
  | true => rw [onInsteonMessage_ignored h]
  | false =>
    rw [onInsteonMessage_accepted h]
    exact (hafter _).trans hevent

/-- The device waits for the same answer as before. -/
def SameTransmission (d d' : InsteonDevice) : Prop :=
  d'.mTransmissionStatus = d.mTransmissionStatus ∧
    d'.mLastMessageTimeStamp = d.mLastMessageTimeStamp ∧
    d'.mLastDirectMessageSent = d.mLastDirectMessageSent

/-- INTERNAL: `processEvent` of every device leaves the transmission alone, and the id.
SOURCE: SwitchDevice.cpp, EZFloraDevice.cpp, IOLinc.cpp -/
theorem processEvent_transmission (d : InsteonDevice) (buf : FrameBuffer) :
    SameTransmission d (d.processEvent buf).device ∧ (d.processEvent buf).device.mID = d.mID := by
  unfold processEvent
  split
  case h_1 =>
    obtain ⟨param, initialized, h⟩ := switchDevice_storesLevel d buf
    rw [h]
    exact ⟨⟨rfl, rfl, rfl⟩, rfl⟩
  case h_2 hclass =>
    obtain ⟨status, h⟩ := ezFlora_storesStatus hclass buf
    rw [h]
    exact ⟨⟨rfl, rfl, rfl⟩, rfl⟩
  case h_3 =>
    obtain ⟨param, initialized, h⟩ := ioLinc_storesLevel d buf
    rw [h]
    exact ⟨⟨rfl, rfl, rfl⟩, rfl⟩

/-- INTERNAL: a frame that settles the message makes the device idle.
SOURCE: InsteonDevice.cpp:137-150 -/
theorem onInsteonMessage_settled {d : InsteonDevice} {buf : FrameBuffer}
    (h : d.Settled buf) : (d.onInsteonMessage buf).device.mTransmissionStatus = .Idle := by
  obtain ⟨hack, hstatus⟩ := h
  rcases hstatus with hstatus | hstatus <;> simp [onInsteonMessage, hack, afterEvent, hstatus]

/-- INTERNAL: any other frame leaves the transmission alone.
SOURCE: InsteonDevice.cpp:108-152 -/
theorem onInsteonMessage_not_settled {d : InsteonDevice} {buf : FrameBuffer}
    (h : ¬ d.Settled buf) :
    (d.onInsteonMessage buf).device.mTransmissionStatus = d.mTransmissionStatus ∧
      (d.onInsteonMessage buf).device.mLastMessageTimeStamp = d.mLastMessageTimeStamp := by
  unfold onInsteonMessage
  split
  case isTrue => exact ⟨rfl, rfl⟩
  case isFalse hack =>
    have hstatus : ¬ (buf.status = 0b001 ∨ buf.status = 0b101) := fun hs =>
      h ⟨by simpa using hack, hs⟩
    simp only [not_or] at hstatus
    have ht := (d.processEvent_transmission buf).1
    simp only [afterEvent, if_neg hstatus.1, if_neg hstatus.2]
    exact ⟨ht.1, ht.2.1⟩

/-! ## What a device writes -/

/-- INTERNAL: the event of a group cleanup sends nothing. -/
theorem groupCleanupEvent_commands (d : InsteonDevice) (type : String) (buf : FrameBuffer) :
    (groupCleanupEvent d type buf).commands = [] := by
  unfold groupCleanupEvent
  dsimp only
  split
  · rfl
  · split <;> rfl

/-- INTERNAL: the event of a status sends nothing. -/
theorem statusEvent_commands (d : InsteonDevice) (type : InsteonDeviceType) (level : UInt8)
    (buf : FrameBuffer) : (statusEvent d type level buf).commands = [] := by
  unfold statusEvent
  dsimp only
  split <;> rfl

/-- INTERNAL: a device writes direct messages only. -/
theorem onInsteonMessage_commands {d : InsteonDevice} {buf : FrameBuffer}
    {cmd : IInsteonMessage} (h : cmd ∈ (d.onInsteonMessage buf).commands) :
    cmd.messageClass = .standardOrExtended := by
  unfold onInsteonMessage at h
  split at h
  · cases h
  · unfold processEvent at h
    dsimp only at h
    split at h
    · grind [SwitchDevice.processEvent, SwitchDevice.ackEvent, standardMessage,
        statusEvent_commands, groupCleanupEvent_commands]
    · grind [EZFloraDevice.processEvent]
    · grind [IOLinc.processEvent, statusEvent_commands, groupCleanupEvent_commands]

/-- INTERNAL: and they are for the device itself. -/
theorem onInsteonMessage_destination {d : InsteonDevice} {buf : FrameBuffer}
    {cmd : IInsteonMessage} (h : cmd ∈ (d.onInsteonMessage buf).commands) :
    cmd.getDestination = d.mID &&& 0xFFFFFF := by
  unfold onInsteonMessage at h
  split at h
  · cases h
  · unfold processEvent at h
    dsimp only at h
    split at h
    · grind [SwitchDevice.processEvent, SwitchDevice.ackEvent, standardMessage_getDestination,
        statusEvent_commands, groupCleanupEvent_commands]
    · grind [EZFloraDevice.processEvent]
    · grind [IOLinc.processEvent, statusEvent_commands, groupCleanupEvent_commands]

/-- INTERNAL: a frame leaves the device's id alone. -/
theorem onInsteonMessage_mID (d : InsteonDevice) (buf : FrameBuffer) :
    (d.onInsteonMessage buf).device.mID = d.mID :=
  onInsteonMessage_frame mID (fun e => e.afterEvent_mID buf) (d.processEvent_transmission buf).2

/-- INTERNAL: a frame does not change the class of a device that keeps no valve status. -/
theorem onInsteonMessage_deviceClass {d : InsteonDevice}
    (h : d.deviceClass = .switchDevice ∨ d.deviceClass = .ioLinc) (buf : FrameBuffer) :
    (d.onInsteonMessage buf).device.deviceClass = d.deviceClass := by
  apply onInsteonMessage_frame deviceClass fun e => e.afterEvent_deviceClass buf
  unfold processEvent
  rcases h with hclass | hclass
  · rw [hclass]
    obtain ⟨param, initialized, hevent⟩ := switchDevice_storesLevel d buf
    exact (congrArg deviceClass hevent).trans hclass
  · rw [hclass]
    obtain ⟨param, initialized, hevent⟩ := ioLinc_storesLevel d buf
    exact (congrArg deviceClass hevent).trans hclass

/-- INTERNAL: a switch writes standard or extended messages only. -/
theorem turnOnOrOff_commands {d : InsteonDevice} {on : Bool} {level subdev : UInt8}
    {cmd : IInsteonMessage} (h : cmd ∈ d.turnOnOrOff on level subdev) :
    cmd.messageClass = .standardOrExtended := by
  unfold turnOnOrOff at h
  split at h
  · grind [SwitchDevice.turnOnOrOff, standardMessage]
  · grind [EZFloraDevice.turnOnOrOff, standardMessage]
  · grind [IOLinc.turnOnOrOff, standardMessage]

/-- INTERNAL: a toggle writes standard or extended messages only. -/
theorem toggle_commands {d : InsteonDevice} {subdev : UInt8} {cmd : IInsteonMessage}
    (h : cmd ∈ d.toggle subdev) : cmd.messageClass = .standardOrExtended := by
  unfold toggle at h
  split at h
  · grind [SwitchDevice.toggle, standardMessage]
  · grind [EZFloraDevice.toggle, EZFloraDevice.turnOnOrOff, standardMessage]
  · grind [IOLinc.toggle, standardMessage]

end InsteonDevice

end Dhas.Program
