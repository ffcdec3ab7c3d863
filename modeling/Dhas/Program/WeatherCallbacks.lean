import Dhas.Program.HTTPCommunication
import Dhas.Program.WeatherModule

/-!
# The requests of the weather module

The REST callbacks of `modules/Weather/WeatherModule.cpp` that ask a thermostat for something: each
finds the device by its number, and sends one request, to which the thermostat answers with its
state document. What `convertInfoToJSON` writes is that of the `ThermostatInfo`.
-/

set_option autoImplicit false

namespace Dhas.Program

/-- What a callback does: nothing, the "status" of an error, or `getURL` and `parseState`. -/
inductive ThermostatCallback where
  | nothing
  | error
  | getURL (server url : CString)
  deriving DecidableEq

namespace WeatherModule

/-- `devid`, and the device; a text that is not a number counts as 0, and the number is compared
as a `size_t`. -/
def device (m : WeatherModule) (id : CString) : Option Device :=
  m.mDevices[HTTPCommunication.sizeT ((stoi id).getD 0)]?

/-- A callback that asks the device with the number for a page. -/
def request (m : WeatherModule) (id url : CString) : ThermostatCallback :=
  match m.device id with
  | none => .nothing
  | some dev => .getURL dev.mServer url

def getThermostat_callback (m : WeatherModule) (id : CString) : ThermostatCallback :=
  m.request id "/state.xml".toList

def resetfilter_callback (m : WeatherModule) (id : CString) : ThermostatCallback :=
  m.request id "/state.xml?rstFilt=1".toList

def setpoint_callback (m : WeatherModule) (id temp : CString) : ThermostatCallback :=
  m.request id ("/state.xml?setTemp=".toList ++ temp)

def toggleschedule_callback (m : WeatherModule) (id : CString) : ThermostatCallback :=
  m.request id "/state.xml?hold=1".toList

/-- The number that `setmode_callback` finds for a mode; empty for any other text. -/
def modenum (mode : CString) : CString :=
  if mode = "heat".toList then "1".toList
  else if mode = "cool".toList then "2".toList
  else if mode = "off".toList then "0".toList
  else []

/-- SOURCE: WeatherModule.cpp:263-285 -/
def setmode_callback (m : WeatherModule) (id mode : CString) : ThermostatCallback :=
  match m.device id with
  | none => .nothing
  | some dev =>
    if modenum mode = [] then .error
    else .getURL dev.mServer ("/state.xml?heatMode=".toList ++ modenum mode)

end WeatherModule

end Dhas.Program
