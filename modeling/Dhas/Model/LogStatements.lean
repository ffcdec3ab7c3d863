import Dhas.Library.Quoting
import Dhas.Model.EventLog
import Dhas.Program.InsteonDevices

/-!
# The statements of the log

What the database makes of the commands that `unPoolDocument` sends: a statement is one insert of a
row with a number and two quoted strings, and nothing else, or it is not read. Strings are quoted as
MySQL documents it. Neither the client library, which escapes them, nor `Dumais::JSON`, which reads
the time and the kind of an event in its text, is part of the repository: what is relied on of the
two is `EscapesStrings` and `ReadsBack`.

The events are those that the program passes to `processEvent`: the members of an Insteon event and
of a node's data are what the devices and the drivers make of a frame or a message.
-/

set_option autoImplicit false

namespace Dhas.Model

open Dhas.Library Dhas.Program

/-! ## Statements -/

/-- The apostrophe. -/
def apostrophe : Char := Char.ofNat 39

/-- What is written behind the backslash. -/
def sqlCode (c : Char) : Option Char :=
  if c = Char.ofNat 0 then some '0'
  else if c = '\n' then some 'n'
  else if c = '\r' then some 'r'
  else if c = Char.ofNat 26 then some 'Z'
  else if c = backslash ∨ c = Char.ofNat 39 ∨ c = quote then some c
  else none

/-- What a character behind a backslash stands for; the wildcards keep it. -/
def sqlDecode (c : Char) : List Char :=
  if c = '0' then [Char.ofNat 0]
  else if c = 'n' then ['\n']
  else if c = 'r' then ['\r']
  else if c = 'Z' then [Char.ofNat 26]
  else if c = 'b' then [Char.ofNat 8]
  else if c = 't' then ['\t']
  else if c = '%' ∨ c = '_' then [backslash, c]
  else [c]

/-- INTERNAL: the code of a character stands for it. -/
theorem sqlDecode_sqlCode (a b : Char) (h : sqlCode a = some b) : sqlDecode b = [a] := by
  unfold sqlCode at h
  split_ifs at h with hnul hn hr hz hself
  · obtain rfl := Option.some.inj h
    rw [hnul]
    decide
  · obtain rfl := Option.some.inj h
    rw [hn]
    decide
  · obtain rfl := Option.some.inj h
    rw [hr]
    decide
  · obtain rfl := Option.some.inj h
    rw [hz]
    decide
  · obtain rfl := Option.some.inj h
    rcases hself with rfl | rfl | rfl <;> decide

/-- INTERNAL: the characters that end a string or a pair have a code. -/
theorem sqlCode_plain (a : Char) (h : sqlCode a = none) : a ≠ apostrophe ∧ a ≠ backslash := by
  constructor
  · rintro rfl
    exact absurd h (by decide)
  · rintro rfl
    exact absurd h (by decide)

/-- The strings of a statement. -/
def sqlQuoting : Quoting Char where
  close := apostrophe
  esc := backslash
  code := sqlCode
  decode := sqlDecode
  esc_ne_close := by decide
  decode_code := sqlDecode_sqlCode
  plain := sqlCode_plain

/-- What `mysql_real_escape_string` is documented to do: the text can be used in a string of a
statement, where it is read as the data, and it ends with a NUL of its own only. -/
structure EscapesStrings (escape : CString → CString) : Prop where
  read : ∀ data rest, rest.head? ≠ some apostrophe →
    sqlQuoting.read (escape data ++ apostrophe :: rest) = some (data, rest)
  no_nul : ∀ data, Char.ofNat 0 ∉ escape data

/-- A row of the table `events`. -/
structure LogRow where
  timestamp : ℤ
  event : CString
  data : CString
  deriving DecidableEq

/-- What follows a text that has to stand here. -/
def skip (text s : CString) : Option CString :=
  if text.isPrefixOf s then some (s.drop text.length) else none

def insertHead : CString := "insert into events (timestamp,event,data) VALUES(".toList

/-- A comma, and the quotation mark of a string. -/
def nextString : CString := [',', apostrophe]

def insertEnd : CString := [')', ';']

/-- The value of a number that was scanned. -/
def numberValue (number : Scan) : ℤ :=
  if number.negative then -number.magnitude else number.magnitude

/-- The row that a statement inserts. -/
def readInsert (s : CString) : Option LogRow := do
  let values ← skip insertHead s
  let number := scanNumber 10 values
  let event ← (skip nextString number.rest).bind sqlQuoting.read
  let data ← (skip nextString event.2).bind sqlQuoting.read
  if data.2 = insertEnd then some ⟨numberValue number, event.1, data.1⟩ else none

/-! ## Events -/

/-- Somewhere the program makes this event. -/
inductive Made : Producer → Prop
  | scheduled (e : ScheduledEvent) : Made (.scheduled e)
  | timer (t : ℤ) (periodic : EventDocument) : Made (.timer t periodic)
  | sunrise (t : ℤ) : Made (.sunrise t)
  | sunset (t : ℤ) : Made (.sunset t)
  | alarm (data : AlarmData) : Made (.alarm data)
  | thermostat (e : ModeChange) : Made (.thermostat e)
  | presence (e : DevicePresence) : Made (.presence e)
  | call (fromUser toUser id : CString) (callevent : JSON) :
      Made (.call fromUser toUser id callevent)
  | node (type : String) (ip name id : CString) : Made (.node type ip name id)
  | nodeData {parse : List UInt8 → IOBoardData} {d : IDWN} {buf : List UInt8} {reply : DriverReply}
      (h : d.processData parse buf = some reply) (ip name id : CString) :
      Made (.nodeData reply ip name id)
  | insteon {d : InsteonDevice} {buf : FrameBuffer}
      (h : ((d.onInsteonMessage buf).json.get "event").isSome) :
      Made (.insteon (d.onInsteonMessage buf).json)

structure ProgramEvent where
  producer : Producer
  made : Made producer

/-- `json[key].str()` -/
def eventText (message : EventDocument) (key : String) : CString :=
  match message.find? fun member => member.1 = key with
  | some (_, .value v) => v.text
  | _ => "{invalid}".toList

/-- `json["timestamp"].toInt()` -/
def eventTime (message : EventDocument) : ℤ :=
  match message.find? fun member => member.1 = "timestamp" with
  | some (_, .value (.num v)) => v
  | _ => 0

/-- The time and the kind that were written into the text of an event are read back from it. -/
structure ReadsBack (text : EventText) (message : EventDocument) : Prop where
  time : text.timestamp (text.stringify message) = eventTime message
  kind : text.event (text.stringify message) = eventText message "event"

/-! ## The log -/

structure LogStatements where
  log : EventLog
  /-- the events that were passed to `processEvent` -/
  pushed : List EventDocument

namespace LogStatements

inductive Act where
  | processEvent (e : ProgramEvent) (t : ℤ)
  | timeSlice
  | unPoolDocument

def init : LogStatements := ⟨.init, []⟩

/-- What `processEvent` puts in the queue. -/
def pushedMessage (e : ProgramEvent) (t : ℤ) : EventDocument := e.producer.document.stamp t

def step (text : EventText) (escape : CString → CString) (s : LogStatements) :
    Act → Option LogStatements
  | .processEvent e t => some {
      log := s.log.next text escape (.processEvent e.producer t)
      pushed := s.pushed ++ [pushedMessage e t] }
  | .timeSlice => some { s with log := s.log.next text escape .timeSlice }
  | .unPoolDocument => some { s with log := s.log.next text escape .unPoolDocument }

end LogStatements

end Dhas.Model
