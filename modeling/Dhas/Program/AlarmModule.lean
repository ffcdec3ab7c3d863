import Dhas.Program.JSON

/-!
# The alarm panel

`modules/Alarm/AlarmModule.cpp` and the reading side of `common/IPSerialPort.cpp`. A turn of the
loop reconnects the port if it has to, reads once, and makes an event of what it read if that is
a whole record.

The network is an input of the turn: the clock, whether `connect` succeeds, and what `read`
returns. A `char` is its byte.
-/

set_option autoImplicit false

namespace Dhas.Program

/-! ## IPSerialPort -/

/-- What `read` on the socket returns. -/
inductive SocketRead where
  /-- -1 with `EAGAIN` or `EWOULDBLOCK` -/
  | noData
  /-- 0, or -1 with another error -/
  | failed
  | data (bytes : List UInt8)
  deriving DecidableEq

structure IPSerialPort where
  /-- `mSocket != 0` -/
  mSocket : Bool
  mLastReconnect : ℤ
  mFailedReconnect : Bool
  deriving DecidableEq

namespace IPSerialPort

def new : IPSerialPort := ⟨false, 0, true⟩

/-- `none` is a result below 0. -/
def Read (p : IPSerialPort) (maxSize : ℕ) (r : SocketRead) : IPSerialPort × Option (List UInt8) :=
  if p.mSocket = false then (p, none)
  else
    match r with
    | .noData => (p, none)
    | .failed => ({ p with mSocket := false }, none)
    | .data bytes => (p, some (bytes.take maxSize))

/-- At time `t`; `connects` says whether the connection succeeds. -/
def Reconnect (p : IPSerialPort) (t : ℤ) (connects : Bool) : IPSerialPort × Bool :=
  if p.mSocket = true then (p, true)
  else if p.mLastReconnect + 2 > t then (p, false)
  else if connects then (⟨true, t, false⟩, true)
  else (⟨false, t, true⟩, false)

end IPSerialPort

/-! ## AlarmModule -/

/-- The members of the record that `run` looks at. -/
structure AlarmData where
  group : UInt8
  subgroup : UInt8
  label : List UInt8
  deriving DecidableEq

namespace AlarmData

/-- `sizeof(AlarmData)` -/
def size : ℕ := 37

/-- The record whose bytes these are: the group is behind `pad1`, the label behind `pad2` and the
label type. -/
def ofBytes (bytes : List UInt8) : AlarmData where
  group := bytes.getD 7 0
  subgroup := bytes.getD 8 0
  label := (bytes.drop 15).take 16

/-- The action of the event, and the numbers that go with it.
SOURCE: AlarmModule.cpp:75-123 -/
def action (data : AlarmData) : JSON :=
  if data.group = 0 then [("action", jsonText "zoneon")]
  else if data.group = 1 then [("action", jsonText "zoneoff")]
  else if data.group = 2 then
    if data.subgroup = 14 then [("action", jsonText "Exit delay")]
    else if data.subgroup = 13 then [("action", jsonText "Entry delay")]
    else [("action", jsonText "Unknown-A"), ("subgroup", jsonByte data.subgroup),
      ("group", jsonByte data.group)]
  else if data.group = 29 then
    [("action", jsonText "Armed"), ("usernumber", jsonByte data.subgroup)]
  else if data.group = 31 then
    [("action", jsonText "Disarmed"), ("usernumber", jsonByte data.subgroup)]
  else [("action", jsonText "Unknown-B"), ("subgroup", jsonByte data.subgroup),
    ("group", jsonByte data.group)]

/-- The label, with blanks for its NUL characters, and without the white space at its ends.
SOURCE: AlarmModule.cpp:125-129 -/
def labelText (data : AlarmData) : CString :=
  let chars := data.label.map fun b => if b = 0 then ' ' else Char.ofNat b.toNat
  ((chars.take 15).dropWhile isSpace).reverse.dropWhile isSpace |>.reverse

/-- The event of a record. -/
def event (data : AlarmData) : JSON :=
  ("event", jsonText "alarm") :: data.action ++ [("label", .str data.labelText)]

end AlarmData

structure AlarmModule where
  mpSerialPort : IPSerialPort
  /-- the events given to `mpEventProcessor` -/
  events : List JSON
  deriving DecidableEq

/-- What the network does in a turn of the loop. -/
structure AlarmTurn where
  t : ℤ
  connects : Bool
  read : SocketRead
  deriving DecidableEq

namespace AlarmModule

/-- A turn of the loop. SOURCE: AlarmModule.cpp:58-136 -/
def turn (m : AlarmModule) (net : AlarmTurn) : AlarmModule :=
  let port := m.mpSerialPort.Reconnect net.t net.connects
  let r := if port.2 then port.1.Read AlarmData.size net.read else (port.1, none)
  match r.2 with
  | some bytes =>
    if bytes.length = AlarmData.size then
      { mpSerialPort := r.1, events := m.events ++ [(AlarmData.ofBytes bytes).event] }
    else { m with mpSerialPort := r.1 }
  | none => { m with mpSerialPort := r.1 }

def run (m : AlarmModule) (turns : List AlarmTurn) : AlarmModule := turns.foldl turn m

end AlarmModule

end Dhas.Program
