import Dhas.Program.WeatherModule

/-!
# State documents

What a thermostat returns is a text with tags. An element is an opening tag that is followed by a
closing one, with the text between them; that the two tags are of one name is not asked for, and
tags may stand anywhere. A text without tags, such as that of a request that failed, is a document
without elements.

The thermostats as the poll is meant to keep them: each device with the document that it returned
last. `Dhas.Analysis.DocumentPolls` shows that the module keeps just this.
-/

set_option autoImplicit false

namespace Dhas.Model

open Dhas.Program

/-! ## Documents -/

/-- What stands in a tag, with its attributes. -/
structure TagName where
  name : CString
  noTag : ∀ c ∈ name, c ≠ '<' ∧ c ≠ '>'
  noSlash : name.head? ≠ some '/'

/-- What stands behind a tag. -/
structure TagText where
  text : CString
  noTag : '<' ∉ text

inductive Tag where
  | opening (name : TagName)
  | closing (name : TagName)

def Tag.render : Tag → CString
  | .opening n => '<' :: (n.name ++ ['>'])
  | .closing n => '<' :: ('/' :: n.name ++ ['>'])

def renderTags : List (Tag × TagText) → CString
  | [] => []
  | (tag, t) :: tags => tag.render ++ (t.text ++ renderTags tags)

structure StateDocument where
  lead : TagText
  tags : List (Tag × TagText)

structure StateElement where
  name : CString
  content : CString
  deriving DecidableEq

def closes : List (Tag × TagText) → Bool
  | (.closing _, _) :: _ => true
  | _ => false

def elementsOf : List (Tag × TagText) → List StateElement
  | [] => []
  | (.opening n, t) :: tags =>
    if closes tags then ⟨n.name, t.text⟩ :: elementsOf tags else elementsOf tags
  | (.closing _, _) :: tags => elementsOf tags

namespace StateDocument

def render (doc : StateDocument) : CString := doc.lead.text ++ renderTags doc.tags

/-- The content of the first element that has one of the names, and a content that is accepted. -/
def read (doc : StateDocument) (names : List String) (accepts : CString → Bool) : CString :=
  (((elementsOf doc.tags).find? fun e =>
    names.any (fun name => name.toList = e.name) && accepts e.content).map
      StateElement.content).getD "N/A".toList

/-- A text of one character. -/
def single (accepts : Char → Bool) (s : CString) : Bool := s.length = 1 && s.all accepts

/-- What a document says. -/
def info (doc : StateDocument) : ThermostatInfo where
  temperatures := [
    doc.read ["indoorTemp", "sensor1temp"] (·.all isNumeric),
    doc.read ["outdoorTemp", "sensor2temp"] (·.all isNumeric),
    doc.read ["humidity", "sensor3temp"] (·.all isNumeric),
    doc.read ["sensor4temp"] (·.all isNumeric)]
  setpoint := doc.read ["setTemp"] (·.all isNumeric)
  filter := doc.read ["filtChng"] (·.all Char.isDigit)
  schedule := doc.read ["hold"] (·.all isBit) = "11".toList
  mode :=
    let heatMode := doc.read ["heatMode"] (single isMode)
    if heatMode = "2".toList then .cool else if heatMode = "1".toList then .heat else .off
  heat := doc.read ["heat"] (single isBit) = "1".toList
  cool := doc.read ["cool"] (single isBit) = "1".toList
  fan := doc.read ["fan"] (single isBit) = "1".toList

end StateDocument

/-! ## Thermostats -/

structure Thermostat where
  mServer : CString
  /-- the document that it returned last -/
  last : Option StateDocument

namespace Thermostat

def temperatures (d : Thermostat) : List CString :=
  match d.last with
  | none => List.replicate 4 "N/A".toList
  | some doc => doc.info.temperatures

def status (d : Thermostat) : HeatMode :=
  match d.last with
  | none => .off
  | some doc => if doc.info.cool then .cool else if doc.info.heat then .heat else .off

def polled (docs : ℕ → StateDocument) (i : ℕ) (d : Thermostat) : Thermostat :=
  if d.mServer ≠ [] then { d with last := some (docs i) } else d

/-- The event of a device, when its status is another one. -/
def change (e : (Thermostat × Thermostat) × ℕ) : Option ModeChange :=
  if e.1.2.status ≠ e.1.1.status then some ⟨e.2, e.1.2.status⟩ else none

end Thermostat

structure Thermostats where
  mLastPollTime : ℤ
  devices : List Thermostat
  events : List ModeChange

namespace Thermostats

inductive Act where
  | turn (t : ℤ) (docs : ℕ → StateDocument)
  | setIP (ip : CString)

def init : Thermostats := ⟨0, [], []⟩

/-- The events of a poll. -/
def changed (devices devices' : List Thermostat) : List ModeChange :=
  (devices.zip devices').zipIdx.filterMap Thermostat.change

def next (s : Thermostats) : Act → Thermostats
  | .turn t docs =>
    if s.mLastPollTime ≤ t then
      let devices := s.devices.mapIdx (Thermostat.polled docs)
      ⟨t + 30, devices, s.events ++ changed s.devices devices⟩
    else s
  | .setIP ip => { s with devices := s.devices ++ [⟨ip, none⟩] }

/-- What the module does, when the devices return the texts of the documents. -/
def moduleNext (m : WeatherModule) : Act → WeatherModule
  | .turn t docs => m.turn t fun i => (docs i).render
  | .setIP ip => m.setIP_callback ip

/-- The device as the module keeps it. -/
def device (d : Thermostat) : Device := ⟨d.mServer, d.temperatures, d.status⟩

def module (s : Thermostats) : WeatherModule := ⟨s.mLastPollTime, s.devices.map device, s.events⟩

end Thermostats

end Dhas.Model
