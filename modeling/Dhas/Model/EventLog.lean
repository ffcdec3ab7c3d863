import Dhas.Library.Run
import Dhas.Program.AlarmModule
import Dhas.Program.BLFList
import Dhas.Program.DHASWifiNodesModule
import Dhas.Program.Mysql
import Dhas.Program.OnAlarm
import Dhas.Program.WeatherModule

/-!
# The way of an event to the log

The modules, the timer and the schedule pass events to `processEvent`, the event loop hands them to
the `EventLogger`, and a thread of its own takes them from there. The steps of the three come in any
order.
-/

set_option autoImplicit false

namespace Dhas.Model

open Dhas.Library Dhas.Program

/-- Who calls `processEvent`, and with what. -/
inductive Producer where
  /-- `EventProcessor::processSchedule` -/
  | scheduled (e : ScheduledEvent)
  /-- `EventProcessor::onAlarm`, with what the modules append -/
  | timer (t : ℤ) (periodic : EventDocument)
  /-- `EventProcessor::checkSun` -/
  | sunrise (t : ℤ)
  | sunset (t : ℤ)
  | alarm (data : AlarmData)
  | thermostat (e : ModeChange)
  | presence (e : DevicePresence)
  /-- the events of `PhoneModule` about a call -/
  | call (fromUser toUser id : CString) (callevent : JSON)
  /-- a node comes or goes -/
  | node (type : String) (ip name id : CString)
  /-- what a driver makes of the data of its node -/
  | nodeData (reply : DriverReply) (ip name id : CString)
  /-- the members that an Insteon device adds -/
  | insteon (members : JSON)

namespace Producer

/-- The list that a driver may add. -/
def pgmsMember (pgms : Option (List UInt8)) : EventDocument :=
  match pgms with
  | none => []
  | some levels => [("pgms", .list (levels.map jsonByte))]

/-- SOURCE: PhoneModule.cpp:210-217, 251-258, 267-274 -/
def callDocument (fromUser toUser id : CString) (callevent : JSON) : EventDocument :=
  [("event", .value (jsonText "call")),
    ("call", .object [("from", .str fromUser), ("to", .str toUser), ("id", .str id)]),
    ("callevent", .object callevent)]

/-- SOURCE: DHASWifiNodesModule.cpp:121-127 -/
def nodeDataDocument (reply : DriverReply) (ip name id : CString) : EventDocument :=
  reply.members.document ++ pgmsMember reply.pgms ++
    JSON.document [("event", jsonText "dwn"), ("ip", .str ip), ("name", .str name), ("id", .str id)]

/-- The event, before it is stamped. -/
def document : Producer → EventDocument
  | .scheduled e => e.toJSON.document
  | .timer t periodic => (EventProcessor.timerMessage t).document ++ periodic
  | .sunrise t => (EventProcessor.sunMessage "sunrise" t).document
  | .sunset t => (EventProcessor.sunMessage "sunset" t).document
  | .alarm data => data.event.document
  | .thermostat e => e.json.document
  | .presence e =>
    JSON.document [("event", jsonText "presence"), ("device", .str e.device),
      ("status", .str e.status)]
  | .call fromUser toUser id callevent => callDocument fromUser toUser id callevent
  | .node type ip name id => (DHASWifiNodesModule.nodeMessage type ip name id).json.document
  | .nodeData reply ip name id => nodeDataDocument reply ip name id
  | .insteon members => members.document

end Producer

structure EventLog where
  mMessageQueue : List EventDocument
  mpMysql : Mysql

namespace EventLog

inductive Act where
  /-- `processEvent` at time `t` -/
  | processEvent (p : Producer) (t : ℤ)
  /-- the event loop notifies the logger of all that is in the queue -/
  | timeSlice
  | unPoolDocument

def init : EventLog := ⟨[], .new⟩

/-- A step of the program. -/
def next (text : EventText) (escape : CString → CString) (s : EventLog) : Act → EventLog
  | .processEvent p t => { s with mMessageQueue := s.mMessageQueue ++ [p.document.stamp t] }
  | .timeSlice => ⟨[], s.mMessageQueue.foldl (EventLogger.notifyEvent text) s.mpMysql⟩
  | .unPoolDocument => { s with mpMysql := (s.mpMysql.unPoolDocument text escape).1 }

def step (text : EventText) (escape : CString → CString) (s : EventLog) (act : Act) :
    Option EventLog := some (next text escape s act)

end EventLog

end Dhas.Model
