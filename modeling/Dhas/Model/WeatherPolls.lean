import Dhas.Library.Run
import Dhas.Library.Substring
import Dhas.Program.WeatherModule

/-!
# The polls of the thermostats

A device is polled when the time has come, and what the request returns is a state document or a
text of a request that failed. Devices are added at any time between the turns of the loop.
-/

set_option autoImplicit false

namespace Dhas.Model

open Dhas.Library Dhas.Program Dhas.Program.WeatherModule

/-- The names of the tags that `parseState` looks for. -/
def expectedTags : List String :=
  ["indoorTemp", "sensor1temp", "outdoorTemp", "sensor2temp", "humidity", "sensor3temp",
    "sensor4temp", "setTemp", "filtChng", "hold", "heatMode", "heat", "cool", "fan"]

/-- The text says whether the thermostat heats and whether it cools. -/
def IsDocument (text : CString) : Prop :=
  (heatPattern.regex_search text).isSome ∧ (coolPattern.regex_search text).isSome

/-- The text has none of the tags. -/
def Failed (text : CString) : Prop :=
  ∀ tag ∈ expectedTags, findSub (XMLPattern.opening tag) text = none

/-- What a request returns. -/
structure StatePage where
  text : CString
  ok : IsDocument text ∨ Failed text

namespace WeatherPolls

inductive Act where
  /-- a turn of the loop at time `t`; `pages` is what the devices return -/
  | turn (t : ℤ) (pages : ℕ → StatePage)
  | setIP (ip : CString)

def next (m : WeatherModule) : Act → WeatherModule
  | .turn t pages => m.turn t fun i => (pages i).text
  | .setIP ip => m.setIP_callback ip

def step (m : WeatherModule) (act : Act) : Option WeatherModule := some (next m act)

end WeatherPolls

end Dhas.Model
