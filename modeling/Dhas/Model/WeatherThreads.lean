import Dhas.Library.GrowingVector
import Dhas.Program.WeatherModule
import Mathlib.Logic.Function.Basic

/-!
# The devices of two threads

`WeatherModule::run` holds a reference to a device while it waits for `getURL`, and
`setIP_callback`, on the thread of the web server, adds a device at any time; the alarm reads the
devices. Each step here is one that the others may come between: the alarm, which may interrupt
`push_back` in the program, is taken to come before or behind a whole `setIP_callback`. A
reference into an allocation that was given up, or to a device that there is not, makes what
follows undefined, and no step is taken after it.

What was called is recorded: a turn of the loop when it is over, with what its requests have
returned, and the devices that were added meanwhile behind it.
-/

set_option autoImplicit false

namespace Dhas.Model

open Dhas.Library Dhas.Program

/-- A call that nothing comes between. -/
inductive WeatherCall where
  | turn (t : ℤ) (getURL : ℕ → CString)
  | setIP (ip : CString)

def WeatherCall.apply (m : WeatherModule) : WeatherCall → WeatherModule
  | .turn t getURL => m.turn t getURL
  | .setIP ip => m.setIP_callback ip

/-- What the calls lead to, one after the other. -/
def afterCalls (calls : List WeatherCall) : WeatherModule := calls.foldl WeatherCall.apply .new

/-- The loop over the devices. -/
structure DeviceLoop where
  /-- the time of the turn -/
  t : ℤ
  /-- the allocation that the references point into -/
  allocation : ℕ
  i : ℕ
  /-- the number of the devices when the loop began -/
  last : ℕ
  /-- in `getURL` -/
  requesting : Bool
  /-- what `getURL` has returned -/
  pages : ℕ → CString
  /-- the devices that were added since the loop began -/
  added : List CString

structure WeatherThreads where
  mDevices : GrowingVector Device
  mLastPollTime : ℤ
  events : List ModeChange
  loop : Option DeviceLoop
  undefined : Bool
  calls : List WeatherCall

namespace WeatherThreads

inductive Act where
  /-- `run` reads the time -/
  | turn (t : ℤ)
  /-- the loop goes on to a device, or is over -/
  | device
  /-- `getURL` returns -/
  | getURL (st : CString)
  | setIP (ip : CString)
  /-- `appendPeriodicData` -/
  | alarm

/-- At the beginning of `run`. -/
def init : WeatherThreads := ⟨.empty, 0, [], none, false, []⟩

/-- What the threads share. -/
def module (s : WeatherThreads) : WeatherModule := ⟨s.mLastPollTime, s.mDevices.items, s.events⟩

/-- The device that is added. SOURCE: WeatherModule.cpp:163-169 -/
def newDevice (ip : CString) : Device := ⟨ip, List.replicate 4 "N/A".toList, .off⟩

/-- The device that the reference of the loop points to. -/
def dev (s : WeatherThreads) (p : DeviceLoop) : Option Device :=
  if p.allocation = s.mDevices.allocation then s.mDevices.items[p.i]? else none

/-- The calls that are recorded when the loop is over. -/
def loopCalls (p : DeviceLoop) : List WeatherCall := .turn p.t p.pages :: p.added.map .setIP

/-- SOURCE: WeatherModule.cpp:126-131 -/
def turn (s : WeatherThreads) (t : ℤ) : Option WeatherThreads :=
  match s.loop with
  | some _ => none
  | none =>
    if s.mLastPollTime ≤ t then
      let p : DeviceLoop :=
        ⟨t, s.mDevices.allocation, 0, s.mDevices.items.length, false, fun _ => [], []⟩
      some { s with mLastPollTime := t + 30, loop := some p }
    else some { s with calls := s.calls ++ [.turn t fun _ => []] }

/-- SOURCE: WeatherModule.cpp:131-135, 150 -/
def device (s : WeatherThreads) : Option WeatherThreads :=
  match s.loop with
  | none => none
  | some p =>
    if p.requesting then none
    else if p.i < p.last then
      match s.dev p with
      | none => some { s with undefined := true }
      | some dev =>
        if dev.mServer ≠ [] then some { s with loop := some { p with requesting := true } }
        else some { s with loop := some { p with i := p.i + 1 } }
    else some { s with loop := none, calls := s.calls ++ loopCalls p }

/-- SOURCE: WeatherModule.cpp:135-150 -/
def getURL (s : WeatherThreads) (st : CString) : Option WeatherThreads :=
  match s.loop with
  | none => none
  | some p =>
    if p.requesting then
      match s.dev p with
      | none => some { s with undefined := true }
      | some dev =>
        let polled := WeatherModule.update dev st
        let e : ModeChange := ⟨p.i, polled.mRunStatus⟩
        let pages := Function.update p.pages p.i st
        some { s with
          mDevices := s.mDevices.set p.i polled
          events := s.events ++ if polled.mRunStatus ≠ dev.mRunStatus then [e] else []
          loop := some { p with i := p.i + 1, requesting := false, pages := pages } }
    else none

/-- SOURCE: WeatherModule.cpp:159-175 -/
def setIP (g : Growth) (s : WeatherThreads) (ip : CString) : WeatherThreads :=
  let s' := { s with mDevices := s.mDevices.push_back g (newDevice ip) }
  match s.loop with
  | none => { s' with calls := s.calls ++ [.setIP ip] }
  | some p => { s' with loop := some { p with added := p.added ++ [ip] } }

/-- SOURCE: WeatherModule.cpp:219-232 -/
def alarm (s : WeatherThreads) : WeatherThreads :=
  match s.module.appendPeriodicData with
  | none => { s with undefined := true }
  | some _ => s

def step (g : Growth) (s : WeatherThreads) (a : Act) : Option WeatherThreads :=
  if s.undefined then none
  else
    match a with
    | .turn t => s.turn t
    | .device => s.device
    | .getURL st => s.getURL st
    | .setIP ip => some (s.setIP g ip)
    | .alarm => some s.alarm

end WeatherThreads

end Dhas.Model
