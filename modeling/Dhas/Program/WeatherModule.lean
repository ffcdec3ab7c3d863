import Dhas.Program.JSON

/-!
# The thermostats

`WeatherModule::getXMLValue`, `parseState`, `run`, `setIP_callback`, `getTemperature` and
`appendPeriodicData` of `modules/Weather/WeatherModule.cpp`. All the patterns that are searched for
have one form: an opening tag, of which there may be alternatives, one character of a class or a
run of them, and `</`. What `getURL` returns for a device is an input of a turn of the loop, and so
is the clock.
-/

set_option autoImplicit false

namespace Dhas.Program

/-! ## The patterns -/

structure XMLPattern where
  /-- the names between `<` and `>`, of which one must stand there -/
  tags : List String
  /-- the class in brackets -/
  chars : Char → Bool
  /-- a `*` stands behind it -/
  many : Bool

namespace XMLPattern

/-- `<tag>` -/
def opening (tag : String) : CString := '<' :: tag.toList ++ ['>']

/-- `</` -/
def closing : CString := ['<', '/']

/-- What stands behind an opening tag, when it is of the class. -/
def value (p : XMLPattern) (text : CString) : Option CString :=
  if p.many then some (text.takeWhile p.chars)
  else (text.head?.filter p.chars).map fun c => [c]

/-- A match that begins with this tag at the beginning of the text. -/
def matchTag (p : XMLPattern) (text : CString) (tag : String) : Option CString :=
  if (opening tag).isPrefixOf text then
    let rest := text.drop (opening tag).length
    (p.value rest).filter fun v => closing.isPrefixOf (rest.drop v.length)
  else none

def matchAt (p : XMLPattern) (text : CString) : Option CString := p.tags.findSome? (p.matchTag text)

/-- `std::regex_search`: the value at the first match. -/
def regex_search (p : XMLPattern) : CString → Option CString
  | [] => p.matchAt []
  | c :: cs => (p.matchAt (c :: cs)).or (p.regex_search cs)

end XMLPattern

/-- `[-\\.0-9]` -/
def isNumeric (c : Char) : Bool := c = '-' || c = '.' || c.isDigit

/-- `[0-1]` -/
def isBit (c : Char) : Bool := c = '0' || c = '1'

/-- `[0-2]` -/
def isMode (c : Char) : Bool := c = '0' || c = '1' || c = '2'

/-! ## WeatherModule -/

inductive HeatMode where
  | off
  | heat
  | cool
  deriving DecidableEq

/-- The value of the enumeration. -/
def HeatMode.toInt : HeatMode → ℤ
  | .off => 0
  | .heat => 1
  | .cool => 2

structure ThermostatInfo where
  /-- the four that are set -/
  temperatures : List CString
  setpoint : CString
  heat : Bool
  cool : Bool
  fan : Bool
  schedule : Bool
  filter : CString
  mode : HeatMode
  deriving DecidableEq

structure Device where
  mServer : CString
  mTemperatures : List CString
  mRunStatus : HeatMode
  deriving DecidableEq

/-- The event that a thermostat has changed its status. -/
structure ModeChange where
  devid : ℕ
  status : HeatMode
  deriving DecidableEq

def ModeChange.json (e : ModeChange) : JSON :=
  [("devid", .num e.devid), ("event", jsonText "thermostat"), ("type", jsonText "modechange"),
    ("status", .num e.status.toInt)]

structure WeatherModule where
  mLastPollTime : ℤ
  mDevices : List Device
  /-- the events that were passed to `processEvent` -/
  events : List ModeChange
  deriving DecidableEq

/-- What a timer event has of the thermostats. -/
structure PeriodicData where
  thermostatrunstatus : HeatMode
  temperatures : List CString

namespace WeatherModule

/-- At the beginning of `run`. -/
def new : WeatherModule := ⟨0, [], []⟩

/-- SOURCE: WeatherModule.cpp:84-90 -/
def getXMLValue (subject : CString) (str : XMLPattern) : CString :=
  (str.regex_search subject).getD "N/A".toList

/-- `<heat>([0-1])</` -/
def heatPattern : XMLPattern := ⟨["heat"], isBit, false⟩

/-- `<cool>([0-1])</` -/
def coolPattern : XMLPattern := ⟨["cool"], isBit, false⟩

/-- SOURCE: WeatherModule.cpp:92-117 -/
def parseState (str : CString) : ThermostatInfo where
  temperatures := [
    getXMLValue str ⟨["indoorTemp", "sensor1temp"], isNumeric, true⟩,
    getXMLValue str ⟨["outdoorTemp", "sensor2temp"], isNumeric, true⟩,
    getXMLValue str ⟨["humidity", "sensor3temp"], isNumeric, true⟩,
    getXMLValue str ⟨["sensor4temp"], isNumeric, true⟩]
  setpoint := getXMLValue str ⟨["setTemp"], isNumeric, true⟩
  filter := getXMLValue str ⟨["filtChng"], Char.isDigit, true⟩
  schedule := getXMLValue str ⟨["hold"], isBit, true⟩ = "11".toList
  mode :=
    let temp := getXMLValue str ⟨["heatMode"], isMode, false⟩
    if temp = "2".toList then .cool else if temp = "1".toList then .heat else .off
  heat := getXMLValue str heatPattern = "1".toList
  cool := getXMLValue str coolPattern = "1".toList
  fan := getXMLValue str ⟨["fan"], isBit, false⟩ = "1".toList

/-- What a poll does with a device. SOURCE: WeatherModule.cpp:136-140 -/
def update (dev : Device) (st : CString) : Device :=
  let info := parseState st
  { dev with
    mTemperatures := info.temperatures
    mRunStatus := if info.cool then .cool else if info.heat then .heat else .off }

/-- The loop over the devices, from number `i` on: the devices behind it, and the events.
`getURL` is what the request to a device returns. SOURCE: WeatherModule.cpp:131-153 -/
def poll (getURL : ℕ → CString) : ℕ → List Device → List Device × List ModeChange
  | _, [] => ([], [])
  | i, dev :: devices =>
    let rest := poll getURL (i + 1) devices
    if dev.mServer ≠ [] then
      let polled := update dev (getURL i)
      (polled :: rest.1,
        if polled.mRunStatus ≠ dev.mRunStatus then ⟨i, polled.mRunStatus⟩ :: rest.2 else rest.2)
    else (dev :: rest.1, rest.2)

/-- A turn of the loop of `run` at time `t`. SOURCE: WeatherModule.cpp:125-155 -/
def turn (m : WeatherModule) (t : ℤ) (getURL : ℕ → CString) : WeatherModule :=
  if m.mLastPollTime ≤ t then
    let r := poll getURL 0 m.mDevices
    { mLastPollTime := t + 30, mDevices := r.1, events := m.events ++ r.2 }
  else m

/-- SOURCE: WeatherModule.cpp:162-178 -/
def setIP_callback (m : WeatherModule) (ip : CString) : WeatherModule :=
  { m with mDevices := m.mDevices ++ [⟨ip, List.replicate 4 "N/A".toList, .off⟩] }

/-- SOURCE: WeatherModule.cpp:41-47 -/
def getTemperature (m : WeatherModule) (devid id : ℕ) : CString :=
  match m.mDevices[devid]? with
  | none => []
  | some dev => if 3 < id then [] else dev.mTemperatures.getD id []

/-- What is added to a timer event; `none` when there is no device, and `mDevices[0]` is out of
range. SOURCE: WeatherModule.cpp:219-232 -/
def appendPeriodicData (m : WeatherModule) : Option PeriodicData :=
  m.mDevices.head?.map fun dev => {
    thermostatrunstatus := dev.mRunStatus
    temperatures := (List.range m.mDevices.length).flatMap fun devid =>
      (List.range 4).map (m.getTemperature devid) }

end WeatherModule

end Dhas.Program
