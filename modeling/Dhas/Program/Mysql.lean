import Dhas.Library.BoundedQueue
import Dhas.Program.EventProcessor

/-!
# The log of the events

`Mysql::addDocument` and `unPoolDocument` of `Mysql.cpp`, which `EventLogger` passes every event
to. The buffer `str` has 2048 bytes. What is written behind its end is undefined; here the number of
bytes is recorded, and the rest goes on as with a buffer that is large enough.

Neither `Dumais::JSON` nor the client library of the database is part of the repository:
`EventText` stands for the first, and the function that escapes is a parameter. What is done when a
query fails is left out.
-/

set_option autoImplicit false

namespace Dhas.Program

open Dhas.Library

/-- `stringify(false)`, and what is read in a text behind `parse`. -/
structure EventText where
  stringify : EventDocument → CString
  /-- `j["timestamp"].toInt()` -/
  timestamp : CString → ℤ
  /-- `j["event"].str()` -/
  event : CString → CString

/-! ## The usual notation

`enc` is what the library writes for a character of a string. -/

section Written

variable (enc : Char → CString)

def quoted (s : CString) : CString := quote :: (s.flatMap enc ++ [quote])

def bracketed (values : List CString) : CString := '[' :: ([','].intercalate values ++ [']'])

/-- An object with these members. -/
def braced (members : List CString) : CString :=
  Char.ofNat 123 :: ([','].intercalate members ++ [Char.ofNat 125])

def JSONValue.written : JSONValue → CString
  | .str s => quoted enc s
  | .num v => decimal v

def writtenMember (key : String) (value : CString) : CString :=
  quoted enc key.toList ++ ':' :: value

def JSON.written (json : JSON) : CString :=
  braced (json.map fun member => writtenMember enc member.1 (member.2.written enc))

def EventValue.written : EventValue → CString
  | .value v => v.written enc
  | .list values => bracketed (values.map (JSONValue.written enc))
  | .object members => members.written enc

def EventDocument.written (message : EventDocument) : CString :=
  braced (message.map fun member => writtenMember enc member.1 (member.2.written enc))

/-- The library writes an event without blanks, in its own way for the characters of a string. -/
def EventText.WritesUsual (text : EventText) : Prop :=
  ∀ message, text.stringify message = message.written enc

end Written

/-- Events written like the flat objects, and read as such. -/
def plainEventText : EventText where
  stringify := EventDocument.written escape
  timestamp data :=
    match (plainText.parse data).get "timestamp" with
    | some (.num v) => v
    | _ => 0
  event data := (plainText.parse data).str "event"

/-- INTERNAL: a flat object is written as `plainText` writes it. -/
theorem written_document (json : JSON) :
    json.document.written escape = plainText.stringify json := by
  have hmember (member : String × JSONValue) :
      writtenMember escape member.1 (member.2.written escape) = writeMember member := by
    obtain ⟨key, value⟩ := member
    cases value with
    | str s => rfl
    | num v => rfl
  have hmembers (members : JSON) :
      [','].intercalate (members.map writeMember) ++ [Char.ofNat 125] = writeMembers members := by
    induction members with
    | nil => rfl
    | cons member members ih =>
      cases members with
      | nil => simp [writeMembers]
      | cons next members =>
        rw [List.map_cons, List.map_cons, List.intercalate_cons_cons, ← List.map_cons,
          List.append_assoc, ih]
        simp [writeMembers]
  show Char.ofNat 123 :: ([','].intercalate _ ++ [Char.ofNat 125]) =
    Char.ofNat 123 :: writeMembers json
  rw [← hmembers, JSON.document, List.map_map]
  simp only [Function.comp_def, EventValue.written, hmember]

/-- INTERNAL: the kind of a flat event is read back. -/
theorem event_plainEventText (json : JSON) :
    plainEventText.event (plainEventText.stringify json.document) = json.str "event" := by
  show (plainText.parse (json.document.written escape)).str "event" = json.str "event"
  rw [written_document, parse_plainText]

/-- INTERNAL: the time of a flat event is read back. -/
theorem timestamp_plainEventText (json : JSON) :
    plainEventText.timestamp (plainEventText.stringify json.document) =
      match json.get "timestamp" with
      | some (.num v) => v
      | _ => 0 := by
  show (match (plainText.parse (json.document.written escape)).get "timestamp" with
    | some (.num v) => v
    | _ => 0) = _
  rw [written_document, parse_plainText]

/-! ## Mysql -/

/-- The characters that are written with a backslash. -/
def isEscaped (c : Char) : Bool :=
  c = Char.ofNat 0 || c = '\n' || c = '\r' || c = backslash || c = Char.ofNat 39 || c = quote ||
    c = Char.ofNat 26

/-- `mysql_real_escape_string` as documented: one byte more for each character that is escaped. The
final NUL is not counted. -/
def EscapesAsDocumented (escape : CString → CString) : Prop :=
  ∀ data, (escape data).length = data.length + data.countP isEscaped

/-- What is written for a character. -/
def escapedChar (c : Char) : CString :=
  if c = Char.ofNat 0 then [backslash, '0']
  else if c = '\n' then [backslash, 'n']
  else if c = '\r' then [backslash, 'r']
  else if c = Char.ofNat 26 then [backslash, 'Z']
  else if c = backslash ∨ c = Char.ofNat 39 ∨ c = quote then [backslash, c]
  else [c]

def mysql_real_escape_string (data : CString) : CString := data.flatMap escapedChar

/-- INTERNAL: an escaped letter takes two bytes. -/
theorem length_escapedChar (c : Char) :
    (escapedChar c).length = if isEscaped c then 2 else 1 := by
  unfold escapedChar isEscaped
  grind

/-- INTERNAL: a text grows by one character for each that the documentation lists. -/
theorem mysql_real_escape_string_documented : EscapesAsDocumented mysql_real_escape_string := by
  intro data
  induction data with
  | nil => rfl
  | cons c data ih =>
    unfold mysql_real_escape_string at ih ⊢
    rw [List.flatMap_cons, List.length_append, List.length_cons, List.countP_cons, ih,
      length_escapedChar]
    split <;> omega

structure Mysql where
  mpRequests : BoundedQueue CString
  /-- the commands that were passed to `mysql_real_query` -/
  queries : List CString
  /-- how many bytes were written to `str`, each time -/
  written : List ℕ

namespace Mysql

def MAXREQUESTS : ℕ := 100

/-- `sizeof(str)` -/
def strSize : ℕ := 2048

def new : Mysql := ⟨.empty MAXREQUESTS, [], []⟩

/-- A request that does not fit the queue is dropped. SOURCE: Mysql.cpp:40-51 -/
def addDocument (text : EventText) (m : Mysql) (json : EventDocument) : Mysql :=
  { m with mpRequests := m.mpRequests.put (text.stringify json) }

/-- SOURCE: Mysql.cpp:65-72 -/
def insertCommand (text : EventText) (data str : CString) : CString :=
  "insert into events (timestamp,event,data) VALUES(".toList ++ decimal (text.timestamp data) ++
    ",'".toList ++ text.event data ++ "','".toList ++ cString str ++ "');".toList

/-- SOURCE: Mysql.cpp:53-86 -/
def unPoolDocument (text : EventText) (escape : CString → CString) (m : Mysql) : Mysql × Bool :=
  match m.mpRequests.get with
  | none => (m, false)
  | some (data, requests) =>
    let str := escape data
    ({ mpRequests := requests
       queries := m.queries ++ [insertCommand text data str]
       written := m.written ++ [str.length + 1] }, true)

end Mysql

/-- SOURCE: EventLogger.cpp:9-13 -/
def EventLogger.notifyEvent (text : EventText) (mpMysql : Mysql) (jsonEvent : EventDocument) :
    Mysql := mpMysql.addDocument text jsonEvent

end Dhas.Program
