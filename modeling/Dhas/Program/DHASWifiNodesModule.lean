import Std.Data.TreeMap.Lemmas
import Dhas.Program.JSON
import Dhas.Program.SprinklersNode

/-!
# The wifi nodes

`modules/DHASWifiNodesModule`: the registry of the nodes, what it does with an advertisement,
with what a node sends and with the heartbeats, and what the drivers make of the data of their
nodes. The sockets are in the environment: whether `connect` succeeds, with which descriptor, and
what `recv` returns are parameters, and so are the clock readings and what `Dumais::JSON` reads
in a message of an IO board.

A step that follows a null driver gives `none`.
-/

set_option autoImplicit false

namespace Dhas.Program

open Dhas.Library

/-! ## The drivers -/

/-- What a driver adds to an event: its members, and the list `pgms` of an IO board. -/
structure DriverReply where
  members : JSON
  pgms : Option (List UInt8)
  deriving DecidableEq

/-- The number of the highest bit that is set, and 0 when there is none. -/
def valveOfBits (bits : UInt8) : ℕ :=
  (List.range 8).foldl (fun valve i => if bits.toNat.testBit i then i + 1 else valve) 0

/-- SOURCE: SprinklersNode.cpp:19-47 -/
def SprinklersNode.processData (buf : List UInt8) : Option DriverReply :=
  match buf with
  | [command, bits] =>
    if command = 0x52 then  -- 'R'
      some ⟨[("node", jsonText "sprinklernode"), ("valvechanged", .num (valveOfBits bits))], none⟩
    else if command = 0x53 then  -- 'S'
      some ⟨[("node", jsonText "sprinklernode"), ("valvestatus", .num (valveOfBits bits))], none⟩
    else none
  | _ => none

/-- What `IOBoard::processData` looks up in a message. -/
structure IOBoardData where
  type : CString
  pins : List Bool
  pin : ℤ
  group : ℤ
  subgroup : ℤ
  label : CString

namespace IOBoard

/-- The levels of the pins, of which an `uint8_t` is the number. -/
def pgms (pins : List Bool) : List UInt8 :=
  (pins.take (pins.length % 2 ^ 8)).map fun level => if level then 1 else 0

/-- What becomes of a message of the alarm panel; the members that `action` returns come behind
the label. -/
def alarmAction (group subGroup : ℤ) : Option JSON :=
  if group = 0 then some [("action", jsonText "zoneoff")]
  else if group = 1 then some [("action", jsonText "zoneon")]
  else if group = 2 then
    if subGroup = 14 then some [("action", jsonText "Exit delay")]
    else if subGroup = 13 then some [("action", jsonText "Entry delay")]
    else none
  else if group = 29 then some [("action", jsonText "Armed"), ("usernumber", .num subGroup)]
  else if group = 31 then some [("action", jsonText "Disarmed"), ("usernumber", .num subGroup)]
  else none

/-- SOURCE: IOBoard.cpp:16-109 -/
def processData (data : IOBoardData) : Option DriverReply :=
  if data.type = "initial".toList then
    some ⟨[("node", jsonText "ioboardnode")], some (pgms data.pins)⟩
  else if data.type = "alarm".toList then
    (alarmAction data.group data.subgroup).map fun action =>
      ⟨[("node", jsonText "ioboardnode"), ("subtype", jsonText "alarmpanel"),
        ("zonelabel", .str data.label)] ++ action, none⟩
  else if data.type = "changed".toList then
    some ⟨[("node", jsonText "ioboardnode"), ("subtype", jsonText "changed"),
      ("pin", .num data.pin)], some (pgms data.pins)⟩
  else none

end IOBoard

inductive Driver where
  | sprinklersNode (node : SprinklersNode)
  | ioBoard

/-- A driver, with the `NodeInfo` of its node. -/
structure IDWN where
  mName : CString
  id : CString
  ip : CString
  driver : Driver

namespace IDWN

/-- A new driver of the class that is registered under the name. -/
def createDriverInstance (name : CString) : Option IDWN :=
  if name = "ESP8266 IRRIGATION CONTROLLER".toList then
    some ⟨name, [], [], .sprinklersNode (.new [])⟩
  else if name = "EDISON IO CONTROLLER".toList then some ⟨name, [], [], .ioBoard⟩
  else none

/-- `getInfo().ip = ip` and `getInfo().id = id` -/
def setInfo (d : IDWN) (ip id : CString) : IDWN :=
  { d with
    ip := ip
    id := id
    driver :=
      match d.driver with
      | .sprinklersNode node => .sprinklersNode { node with ip := ip }
      | .ioBoard => .ioBoard }

def processData (parse : List UInt8 → IOBoardData) (d : IDWN) (buf : List UInt8) :
    Option DriverReply :=
  match d.driver with
  | .sprinklersNode _ => SprinklersNode.processData buf
  | .ioBoard => IOBoard.processData (parse buf)

/-- `run(t)`; `now` is the clock that the driver reads. -/
def run (d : IDWN) (q : DWNSendQueue) (t now : ℤ) : IDWN × DWNSendQueue :=
  match d.driver with
  | .sprinklersNode node =>
    let r := node.run q t now
    ({ d with driver := .sprinklersNode r.1 }, r.2)
  | .ioBoard => (d, q)

end IDWN

/-! ## The module -/

structure DHASWifiNode where
  socket : ℤ
  lastHeartBeat : ℤ
  /-- `none` is the null pointer -/
  driver : Option IDWN

/-- An event given to `mpEventProcessor`, with the list that a driver may add. -/
structure DwnMessage where
  json : JSON
  pgms : Option (List UInt8)
  deriving DecidableEq

/-- What the module did. -/
inductive WifiItem where
  | processEvent (message : DwnMessage)
  /-- `lastHeartBeat` of a node was set -/
  | heartBeat (ip : CString)
  /-- `processData` of a driver was called -/
  | processData (ip : CString) (buf : List UInt8)
  | send (ip : CString) (data : List UInt8)
  deriving DecidableEq

/-- What `recv` returns. -/
inductive Recv where
  /-- -1 with `EAGAIN` -/
  | again
  /-- 0, or -1 with another error -/
  | failed
  | data (buf : List UInt8)
  deriving DecidableEq

structure DHASWifiNodesModule where
  mNodes : Std.TreeMap CString DHASWifiNode
  mSendQueue : DWNSendQueue
  trace : List WifiItem

namespace DHASWifiNodesModule

def NODE_HEARTBEAT : ℤ := 5

def MAX_NODES_COUNT : ℕ := 20

def new : DHASWifiNodesModule := ⟨∅, DWNSendQueue.new, []⟩

def record (m : DHASWifiNodesModule) (item : WifiItem) : DHASWifiNodesModule :=
  { m with trace := m.trace ++ [item] }

/-- The event of a node that comes or goes. -/
def nodeMessage (type : String) (ip name id : CString) : DwnMessage where
  json := [("event", jsonText "dwn"), ("type", jsonText type), ("ip", .str ip),
    ("name", .str name), ("id", .str id)]
  pgms := none

/-- What `receiveFromNode` and `checkHeartBeats` do with a node that is lost. -/
def closeNode (m : DHASWifiNodesModule) (driver : IDWN) : DHASWifiNodesModule :=
  { m.record (.processEvent (nodeMessage "closed" driver.ip driver.mName driver.id)) with
    mNodes := m.mNodes.erase driver.ip }

/-- `"yo!\r\n"` -/
def heartBeat : List UInt8 := [0x79, 0x6f, 0x21, 0x0d, 0x0a]

/-- `ip` is the key of the node. SOURCE: DHASWifiNodesModule.cpp:72-131 -/
def receiveFromNode (parse : List UInt8 → IOBoardData) (m : DHASWifiNodesModule) (ip : CString)
    (node : DHASWifiNode) (r : Recv) (now : ℤ) : Option DHASWifiNodesModule :=
  match r with
  | .again => some m
  | .failed => node.driver.map m.closeNode
  | .data buf =>
    if buf = heartBeat then
      some { m.record (.heartBeat ip) with
        mNodes := m.mNodes.insert ip { node with lastHeartBeat := now } }
    else
      node.driver.map fun driver =>
        let m := m.record (.processData ip buf)
        match driver.processData parse buf with
        | some reply =>
          m.record (.processEvent
            { json := reply.members ++ [("event", jsonText "dwn"), ("ip", .str driver.ip),
                ("name", .str driver.mName), ("id", .str driver.id)]
              pgms := reply.pgms })
        | none => m

/-- The body of the loop of `runNodes`. -/
def runNode (t now : ℤ) (m : DHASWifiNodesModule) (it : CString × DHASWifiNode) :
    Option DHASWifiNodesModule :=
  it.2.driver.map fun driver =>
    let r := driver.run m.mSendQueue t now
    { m with
      mNodes := m.mNodes.insert it.1 { it.2 with driver := some r.1 }
      mSendQueue := r.2 }

def runNodes (m : DHASWifiNodesModule) (t now : ℤ) : Option DHASWifiNodesModule :=
  m.mNodes.toList.foldlM (runNode t now) m

/-- The body of the loop of `checkHeartBeats`, with the clock minus three heartbeats. -/
def checkHeartBeat (t : ℤ) (m : DHASWifiNodesModule) (it : CString × DHASWifiNode) :
    Option DHASWifiNodesModule :=
  if it.2.lastHeartBeat ≤ t then it.2.driver.map m.closeNode else some m

/-- Every node that was there is visited once. SOURCE: DHASWifiNodesModule.cpp:145-176 -/
def checkHeartBeats (m : DHASWifiNodesModule) (now : ℤ) : Option DHASWifiNodesModule :=
  m.mNodes.toList.foldlM (checkHeartBeat (now - 3 * NODE_HEARTBEAT)) m

/-- `connected` is the descriptor that `connectNode` leaves in the node when it succeeds.
SOURCE: DHASWifiNodesModule.cpp:215-265 -/
def discoverNode (m : DHASWifiNodesModule) (name ip id : CString) (now : ℤ)
    (connected : Option ℤ) : DHASWifiNodesModule :=
  if ip = "0.0.0.0".toList then m
  else if m.mNodes.contains ip then m
  else if MAX_NODES_COUNT ≤ m.mNodes.size then m
  else
    match IDWN.createDriverInstance name, connected with
    | some driver, some socket =>
      { m.record (.processEvent (nodeMessage "new" ip name id)) with
        mNodes := m.mNodes.insert ip
          { socket := socket, lastHeartBeat := now, driver := some (driver.setInfo ip id) } }
    | _, _ => m

/-- The loop over `mNodes` for a descriptor that is ready. -/
def findSocket (m : DHASWifiNodesModule) (fd : ℤ) : Option (CString × DHASWifiNode) :=
  m.mNodes.toList.find? fun it => it.2.socket = fd

/-- The loop over `mSendQueue`. -/
def sendQueued (m : DHASWifiNodesModule) : DHASWifiNodesModule :=
  { m with
    mSendQueue := m.mSendQueue.clear
    trace := m.trace ++ (m.mSendQueue.items.filter fun data =>
      m.mNodes.contains data.destination).map fun data => .send data.destination data.data }

/-- INTERNAL: a turn of the loop over `mSendQueue` that finds an entry.
SOURCE: DHASWifiNodesModule.cpp:372-379 -/
theorem sendQueued_of_get_eq_some {m : DHASWifiNodesModule} {data : DataBuffer}
    {rest : DWNSendQueue} (h : m.mSendQueue.get = some (data, rest)) :
    m.sendQueued =
      { m with
        mSendQueue := rest
        trace := if m.mNodes.contains data.destination then
          m.trace ++ [WifiItem.send data.destination data.data] else m.trace }.sendQueued := by
  obtain ⟨hitems, hcapacity⟩ := BoundedQueue.get_eq_some_iff.mp h
  have hclear : m.mSendQueue.clear = rest.clear := by
    simp [BoundedQueue.clear, hcapacity]
  unfold sendQueued
  rw [hitems, hclear]
  by_cases hnode : m.mNodes.contains data.destination <;> simp [hnode]

/-- INTERNAL: the loop over `mSendQueue` ends when there is no entry.
SOURCE: DHASWifiNodesModule.cpp:372-379 -/
theorem sendQueued_of_get_eq_none {m : DHASWifiNodesModule} (h : m.mSendQueue.get = none) :
    m.sendQueued = m := by
  have hitems := BoundedQueue.get_eq_none_iff.mp h
  obtain ⟨nodes, ⟨capacity, items, hbounded⟩, trace⟩ := m
  cases hitems
  simp [sendQueued, BoundedQueue.clear]

/-- Returns the module and the "status" of the reply. The size of the string goes through an
`unsigned char`. -/
def sendRaw_callback (m : DHASWifiNodesModule) (destination : CString) (data : List UInt8) :
    DHASWifiNodesModule × CString :=
  ({ m with mSendQueue := m.mSendQueue.sendToNode destination data (UInt8.ofNat data.length) },
    "ok".toList)

end DHASWifiNodesModule

end Dhas.Program
