import Dhas.Library.RequestHead
import Dhas.Library.Run
import Dhas.Program.WeatherCallbacks

/-!
# What the thermostats are asked for

The polls of the weather module and its REST callbacks open a connection each. What the server of
the thermostat reads there is the requests that the text of the connection is made of, each with
its path and the parameters of its query. Beside the texts stands what was asked for. A server name
that is not resolved ends the process, as `gethostbyname` gives a null pointer; a connection that
fails carries no text.
-/

set_option autoImplicit false

namespace Dhas.Model

open Dhas.Library Dhas.Program

/-- A printing character, and no space: what a server takes for a part of the target. HTTP/1.1
forbids some of these (`#`, quotation marks, angle brackets, braces, the backslash), and a server
may refuse them; here they are read as they are, and so is a percent sign, which is not decoded. -/
def isVisible (c : Char) : Bool := '!' ≤ c ∧ c ≤ '~'

/-- A `GET` request of HTTP/1.1. -/
def requestSyntax : RequestSyntax Char where
  before := "GET ".toList
  after := " HTTP/1.1".toList ++ ['\r', '\n']
  cr := '\r'
  lf := '\n'
  inTarget := isVisible
  before_ne_nil := by decide
  after_cons := ⟨' ', "HTTP/1.1".toList ++ ['\r', '\n'], rfl, rfl⟩

/-- What stands before and behind the first occurrence of a character. -/
def cutAt (c : Char) (s : CString) : CString × CString :=
  (s.takeWhile (· ≠ c), (s.dropWhile (· ≠ c)).drop 1)

/-- The path of a target, and the names and the values of its query. -/
def readTarget (target : CString) : CString × List (CString × CString) :=
  let parts := cutAt '?' target
  (parts.1, if parts.2 = [] then [] else (parts.2.splitOn '&').map (cutAt '='))

/-- The requests that a server reads; `none` for a text that is no request. -/
def readRequests (text : CString) : Option (List (CString × List (CString × CString))) :=
  (requestSyntax.read text).map (List.map readTarget)

/-- What a thermostat may be asked for, which it answers with its state. -/
inductive ThermostatRequest where
  | state
  | resetFilter
  | setTemp (temp : CString)
  | heatMode (mode : HeatMode)
  /-- the schedule is put on hold, or taken up -/
  | hold
  deriving DecidableEq

namespace ThermostatRequest

def parameters : ThermostatRequest → List (CString × CString)
  | state => []
  | resetFilter => [("rstFilt".toList, "1".toList)]
  | setTemp temp => [("setTemp".toList, temp)]
  | heatMode mode => [("heatMode".toList, decimal mode.toInt)]
  | hold => [("hold".toList, "1".toList)]

/-- What the server reads when it was asked. -/
def reading (r : ThermostatRequest) : CString × List (CString × CString) :=
  ("/state.xml".toList, r.parameters)

end ThermostatRequest

/-- A request to the REST interface, with the parameters of the callback. -/
inductive RestCall where
  | getThermostat (id : CString)
  | resetfilter (id : CString)
  | setpoint (id temp : CString)
  | setmode (id mode : CString)
  | toggleschedule (id : CString)

namespace RestCall

def callback (m : WeatherModule) : RestCall → ThermostatCallback
  | getThermostat id => m.getThermostat_callback id
  | resetfilter id => m.resetfilter_callback id
  | setpoint id temp => m.setpoint_callback id temp
  | setmode id mode => m.setmode_callback id mode
  | toggleschedule id => m.toggleschedule_callback id

def id : RestCall → CString
  | getThermostat id | resetfilter id | setpoint id _ | setmode id _ | toggleschedule id => id

/-- The modes that a thermostat can be set to. -/
def mode (text : CString) : Option HeatMode :=
  if text = "heat".toList then some .heat
  else if text = "cool".toList then some .cool
  else if text = "off".toList then some .off
  else none

/-- What the call is for. -/
def meaning : RestCall → Option ThermostatRequest
  | getThermostat _ => some .state
  | resetfilter _ => some .resetFilter
  | setpoint _ temp => some (.setTemp temp)
  | setmode _ text => (mode text).map .heatMode
  | toggleschedule _ => some .hold

/-- What the call asks of whom. -/
def asks (m : WeatherModule) (call : RestCall) : Option (CString × ThermostatRequest) :=
  (m.device call.id).bind fun dev => call.meaning.map fun r => (dev.mServer, r)

end RestCall

structure ThermostatRequests where
  module : WeatherModule
  /-- the connections, each with the server and the text that is sent to it -/
  sent : List (CString × CString)
  asked : List (CString × ThermostatRequest)

namespace ThermostatRequests

inductive Act where
  | setIP (ip : CString)
  /-- a turn of the loop at time `t`; `pages` is what the devices answer that can be reached -/
  | turn (t : ℤ) (pages : ℕ → Option CString)
  /-- a REST callback; the device can be reached or not -/
  | call (c : RestCall) (connected : Bool)

def init : ThermostatRequests := ⟨.new, [], []⟩

/-- The servers that a turn of the loop gets a page from. -/
def polled (m : WeatherModule) (t : ℤ) (pages : ℕ → Option CString) : List CString :=
  if m.mLastPollTime ≤ t then
    ((m.mDevices.zipIdx.filter fun it => it.1.mServer ≠ [] ∧ (pages it.2).isSome)).map
      fun it => it.1.mServer
  else []

/-- What is sent, and what was asked for. -/
def record (s : ThermostatRequests) (texts : List (CString × CString))
    (asked : List (CString × ThermostatRequest)) : ThermostatRequests :=
  { s with sent := s.sent ++ texts, asked := s.asked ++ asked }

/-- The text of a connection, with its server. -/
def connection (server url : CString) : CString × CString :=
  (server, HTTPCommunication.requestText server url)

/-- `resolves` is whether `gethostbyname` finds a server.
SOURCE: WeatherModule.cpp:125-155, 159-175, 188-298 -/
def step (resolves : CString → Bool) (s : ThermostatRequests) : Act → Option ThermostatRequests
  | .setIP ip => some { s with module := s.module.setIP_callback ip }
  | .turn t pages =>
    let servers := polled s.module t pages
    if s.module.mLastPollTime ≤ t →
        ∀ dev ∈ s.module.mDevices, dev.mServer ≠ [] → resolves dev.mServer then
      some ({ s with module := s.module.turn t fun i => (pages i).getD [] }.record
        (servers.map fun server => connection server "/state.xml".toList)
        (servers.map fun server => (server, .state)))
    else none
  | .call c connected =>
    match c.callback s.module with
    | .getURL server url =>
      if resolves server then
        if connected then
          some (s.record [connection server url] (c.asks s.module).toList)
        else some s
      else none
    | .error | .nothing =>
      some (if connected then s.record [] (c.asks s.module).toList else s)

end ThermostatRequests

end Dhas.Model
