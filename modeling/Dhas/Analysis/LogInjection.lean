import Dhas.Analysis.ListedModules
import Dhas.Library.Run
import Dhas.Model.LogStatements
import Mathlib.Data.List.TakeWhile

/-!
# No event writes into a statement

The text of an event is quoted and escaped before it goes into a statement, and its kind is not. A
name, a label or a number that comes from outside is in the text only: the kinds are a few words of
the program, and the first member `event` of an event says which. So each statement is one insert,
whatever the strings of the events are.
-/

set_option autoImplicit false

namespace Dhas.Analysis.LogInjection

open Dhas.Library Dhas.Program Dhas.Model
open Dhas.Model.LogStatements

/-- The row for an event. -/
def row (text : EventText) (message : EventDocument) : LogRow :=
  ⟨eventTime message, eventText message "event", text.stringify message⟩

/-- As long as nothing was written behind the end of `str`, the statements are inserts of the rows
of events that were pushed, in this order. -/
def InsertsRows (text : EventText) (s : LogStatements) : Prop :=
  (∀ bytes ∈ s.log.mpMysql.written, bytes ≤ Mysql.strSize) →
    (s.log.mpMysql.queries.map readInsert).Sublist (s.pushed.map fun message =>
      some (row text message))

/-- What is pushed is read back. -/
def PushesReadable (text : EventText) (_ : LogStatements) : Act → Prop
  | .processEvent e t => ReadsBack text (pushedMessage e t)
  | _ => True

/-! ## A statement -/

section Statement

variable {s rest : CString}

/-- INTERNAL: a text that stands at the beginning is skipped. -/
theorem skip_append (s rest : CString) : skip s (s ++ rest) = some rest := by
  have hprefix : s.isPrefixOf (s ++ rest) = true :=
    List.isPrefixOf_iff_prefix.mpr (List.prefix_append s rest)
  rw [skip, if_pos hprefix, List.drop_left]

/-- INTERNAL: an escaped text goes into the command up to its own NUL. SOURCE: Mysql.cpp:61-71 -/
theorem cString_escape {escape : CString → CString} (h : EscapesStrings escape)
    (data : CString) : cString (escape data) = escape data := by
  rw [cString, List.takeWhile_eq_self_iff]
  intro c hc
  simp only [ne_eq, decide_not, Bool.not_eq_true', decide_eq_false_iff_not]
  rintro rfl
  exact h.no_nul data hc

/-- INTERNAL: **a statement is the insert of its row, if the kind needs no escapes.**
SOURCE: Mysql.cpp:62-73 -/
theorem readInsert_insertCommand {escape : CString → CString} (h : EscapesStrings escape)
    (text : EventText) (data : CString) (hevent : ∀ c ∈ text.event data, sqlCode c = none) :
    readInsert (Mysql.insertCommand text data (escape data)) =
      some ⟨text.timestamp data, text.event data, data⟩ := by
  have hcommand : Mysql.insertCommand text data (escape data) =
      insertHead ++ (decimal (text.timestamp data) ++ (nextString ++ (text.event data ++
        apostrophe :: (nextString ++ (escape data ++ apostrophe :: insertEnd))))) := by
    have hparts : Mysql.insertCommand text data (escape data) =
        insertHead ++ decimal (text.timestamp data) ++ nextString ++ text.event data ++
          (apostrophe :: nextString) ++ cString (escape data) ++ (apostrophe :: insertEnd) := rfl
    rw [hparts, cString_escape h]
    simp only [List.append_assoc, List.cons_append]
  have hnumber (rest : CString) : scanNumber 10 (decimal (text.timestamp data) ++
      (nextString ++ rest)) =
        ⟨decide (text.timestamp data < 0), (text.timestamp data).natAbs, true,
          nextString ++ rest⟩ := by
    apply scanNumber_decimal
    intro c hc
    obtain rfl : ',' = c := Option.some.inj hc
    decide
  have hname (rest : CString) : sqlQuoting.read (text.event data ++ apostrophe ::
      (nextString ++ rest)) = some (text.event data, nextString ++ rest) := by
    have hfirst : (nextString ++ rest).head? ≠ some sqlQuoting.close := by
      rw [nextString, List.cons_append, List.head?_cons]
      decide
    have hread := Quoting.read_write (text.event data) hfirst
    rwa [sqlQuoting.write_of_plain hevent] at hread
  have hdata : sqlQuoting.read (escape data ++ apostrophe :: insertEnd) = some (data, insertEnd) :=
    h.read data insertEnd (by decide)
  have hvalue : numberValue ⟨decide (text.timestamp data < 0), (text.timestamp data).natAbs, true,
      nextString ++ (text.event data ++ apostrophe :: (nextString ++
        (escape data ++ apostrophe :: insertEnd)))⟩ = text.timestamp data := by
    simp only [numberValue, decide_eq_true_eq]
    split <;> omega
  rw [hcommand, readInsert, skip_append, Option.bind_eq_bind, Option.bind_some, hnumber]
  dsimp only
  simp only [Option.bind_eq_bind, skip_append, Option.bind_some, hname, hdata, if_true, hvalue]

/-- INTERNAL: what is written for a character is its pair, or the character. -/
theorem writeChar_sqlQuoting (c : Char) : sqlQuoting.writeChar c = escapedChar c := by
  simp only [Quoting.writeChar, sqlQuoting, sqlCode, escapedChar]
  split_ifs <;> rfl

/-- INTERNAL: the NUL is escaped too. -/
theorem nul_notMem_escapedChar (c : Char) : Char.ofNat 0 ∉ escapedChar c := by
  unfold escapedChar
  split_ifs with hnul hn hr hz hself
  · decide
  · decide
  · decide
  · decide
  · rcases hself with rfl | rfl | rfl <;> decide
  · rw [List.mem_singleton]
    exact fun h => hnul h.symm

/-- INTERNAL: the documented list of characters, each behind a backslash. -/
theorem mysql_real_escape_string_escapesStrings : EscapesStrings mysql_real_escape_string where
  read := by
    intro data rest hrest
    have hwrite : mysql_real_escape_string data = sqlQuoting.write data := by
      rw [mysql_real_escape_string, Quoting.write, funext writeChar_sqlQuoting]
    rw [hwrite]
    exact Quoting.read_write data hrest
  no_nul := by
    intro data hnul
    rw [mysql_real_escape_string, List.mem_flatMap] at hnul
    obtain ⟨c, -, hc⟩ := hnul
    exact nul_notMem_escapedChar c hc

end Statement

/-! ## The kinds of the events -/

section Kinds

/-- All kinds that the program writes. -/
def kinds : List String :=
  ["scheduledevent", "timer", "sunrise", "sunset", "alarm", "thermostat", "presence", "call", "dwn",
    "insteon", "wateron", "wateroff"]

/-- INTERNAL: no kind has a character that would have to be escaped. -/
theorem kinds_plain {kind : String} (hkind : kind ∈ kinds) :
    ∀ c ∈ kind.toList, sqlCode c = none := by
  have hall : (kinds.all fun kind => kind.toList.all fun c => (sqlCode c).isNone) = true := by
    decide
  intro c hc
  have hkinds := List.all_eq_true.mp (List.all_eq_true.mp hall kind hkind) c hc
  exact Option.isNone_iff_eq_none.mp hkinds

/-- INTERNAL: members with other names do not say what the kind is. -/
theorem eventText_append_of_forall {message : EventDocument} {key : String}
    (hkey : ∀ member ∈ message, member.1 ≠ key) (more : EventDocument) :
    eventText (message ++ more) key = eventText more key := by
  have hnone : (message.find? fun member => member.1 = key) = none := by
    rw [List.find?_eq_none]
    intro member hmember
    simpa using hkey member hmember
  unfold eventText
  rw [List.find?_append, hnone, Option.none_or]

/-- INTERNAL: the first member is read. -/
theorem eventText_cons (value : JSONValue) (more : EventDocument) (key : String) :
    eventText ((key, .value value) :: more) key = value.text := by
  simp [eventText]

/-- INTERNAL: an event of an Insteon device begins with its kind. -/
theorem eventText_insteon {d : InsteonDevice} {buf : FrameBuffer}
    (hevent : ((d.onInsteonMessage buf).json.get "event").isSome) (more : EventDocument) :
    ∃ kind ∈ kinds, eventText ((d.onInsteonMessage buf).json.document ++ more) "event" =
      kind.toList := by
  rcases ListedModules.onInsteonMessage_names d buf with hnil | ⟨kind, hkind, rest, hjson⟩
  · rw [hnil] at hevent
    cases hevent
  · have hmem : ∀ kind ∈ ListedModules.insteonKinds, kind ∈ kinds := by decide
    refine ⟨kind, hmem kind hkind, ?_⟩
    rw [hjson]
    exact eventText_cons _ _ _

/-- INTERNAL: what a driver adds does not say what kind the event is of.
SOURCE: SprinklersNode.cpp:19-47, IOBoard.cpp:16-117 -/
theorem processData_members {parse : List UInt8 → IOBoardData} {d : IDWN} {buf : List UInt8}
    {reply : DriverReply} (h : d.processData parse buf = some reply) :
    ∀ member ∈ reply.members, member.1 ≠ "event" := by
  have haction {group subGroup : ℤ} {action : JSON}
      (haction : IOBoard.alarmAction group subGroup = some action) :
      ∀ member ∈ action, member.1 ≠ "event" := by
    unfold IOBoard.alarmAction at haction
    split_ifs at haction <;> cases haction <;> simp
  unfold IDWN.processData at h
  split at h
  case h_1 =>
    unfold SprinklersNode.processData at h
    split at h
    case h_1 => split_ifs at h <;> cases h <;> simp
    case h_2 => cases h
  case h_2 =>
    unfold IOBoard.processData at h
    split_ifs at h
    · cases h
      simp
    · obtain ⟨action, hsome, rfl⟩ := Option.map_eq_some_iff.mp h
      have hmembers := haction hsome
      simpa using hmembers
    · cases h
      simp

/-- INTERNAL: **an event that the program makes is of one of the kinds.** -/
theorem kind_of_made {p : Producer} (h : Made p) (t : ℤ) :
    ∃ kind ∈ kinds, eventText (p.document.stamp t) "event" = kind.toList := by
  cases h with
  | scheduled e => exact ⟨"scheduledevent", by decide, rfl⟩
  | timer t' periodic => exact ⟨"timer", by decide, rfl⟩
  | sunrise t' => exact ⟨"sunrise", by decide, rfl⟩
  | sunset t' => exact ⟨"sunset", by decide, rfl⟩
  | alarm data => exact ⟨"alarm", by decide, rfl⟩
  | thermostat e => exact ⟨"thermostat", by decide, rfl⟩
  | presence e => exact ⟨"presence", by decide, rfl⟩
  | call fromUser toUser id callevent => exact ⟨"call", by decide, rfl⟩
  | node type ip name id => exact ⟨"dwn", by decide, rfl⟩
  | nodeData h ip name id =>
    refine ⟨"dwn", by decide, ?_⟩
    have hmembers := processData_members h
    rw [Producer.document, EventDocument.stamp, Producer.nodeDataDocument, List.append_assoc,
      List.append_assoc, eventText_append_of_forall, eventText_append_of_forall]
    · rfl
    · unfold Producer.pgmsMember
      split <;> simp
    · rintro member hmember
      obtain ⟨added, hadded, rfl⟩ := List.mem_map.mp hmember
      exact hmembers added hadded
  | insteon h => exact eventText_insteon h _

end Kinds

/-! ## The runs -/

section Runs

variable {text : EventText} {escape : CString → CString} {s s' : LogStatements} {a : Act}

/-- The statement for an event. -/
def statement (text : EventText) (escape : CString → CString) (message : EventDocument) : CString :=
  Mysql.insertCommand text (text.stringify message) (escape (text.stringify message))

/-- The text of the event says its time and its kind, which needs no escapes. -/
def Readable (text : EventText) (message : EventDocument) : Prop :=
  ReadsBack text message ∧ ∀ c ∈ eventText message "event", sqlCode c = none

/-- INTERNAL: the statement of an event is the insert of its row. SOURCE: Mysql.cpp:53-73 -/
theorem readInsert_statement (hescape : EscapesStrings escape) {message : EventDocument}
    (h : Readable text message) :
    readInsert (statement text escape message) = some (row text message) := by
  obtain ⟨hback, hplain⟩ := h
  have hread := readInsert_insertCommand hescape text (text.stringify message)
    (by rw [hback.kind]; exact hplain)
  rw [statement, hread, row, hback.kind, hback.time]

/-- The statements are those of the events that were taken from the ring, the others wait in the
ring or in the queue, and all of them were pushed in this order. -/
structure LogOk (text : EventText) (escape : CString → CString) (taken waiting : List EventDocument)
    (s : LogStatements) : Prop where
  queries : s.log.mpMysql.queries = taken.map (statement text escape)
  requests : s.log.mpMysql.mpRequests.items = waiting.map text.stringify
  order : (taken ++ waiting ++ s.log.mMessageQueue).Sublist s.pushed
  readable : ∀ message ∈ s.pushed, Readable text message

/-- INTERNAL: the events that find room on the ring keep their order. -/
theorem notifyEvents_requests (messages waiting : List EventDocument) {m : Mysql}
    (h : m.mpRequests.items = waiting.map text.stringify) :
    ∃ accepted : List EventDocument, accepted.Sublist messages ∧
      (messages.foldl (EventLogger.notifyEvent text) m).mpRequests.items =
        (waiting ++ accepted).map text.stringify ∧
      (messages.foldl (EventLogger.notifyEvent text) m).queries = m.queries := by
  induction messages generalizing m waiting with
  | nil => exact ⟨[], List.Sublist.refl [], by simpa using h, rfl⟩
  | cons message messages ih =>
    have hput : (EventLogger.notifyEvent text m message).mpRequests =
        m.mpRequests.put (text.stringify message) := rfl
    by_cases hroom : m.mpRequests.HasRoom
    · have hitems : (EventLogger.notifyEvent text m message).mpRequests.items =
          (waiting ++ [message]).map text.stringify := by
        rw [hput, BoundedQueue.items_put_of_hasRoom hroom, h, List.map_append]
        rfl
      obtain ⟨accepted, hsub, haccepted, hqueries⟩ := ih (waiting ++ [message]) hitems
      refine ⟨message :: accepted, hsub.cons_cons message, ?_, hqueries⟩
      rw [List.foldl_cons, haccepted, List.append_assoc, List.singleton_append]
    · have hitems : (EventLogger.notifyEvent text m message).mpRequests.items =
          waiting.map text.stringify := by
        rw [hput, BoundedQueue.put_of_not_hasRoom hroom, h]
      obtain ⟨accepted, hsub, haccepted, hqueries⟩ := ih waiting hitems
      exact ⟨accepted, hsub.cons message, haccepted, hqueries⟩

/-- INTERNAL: **every step keeps the account of the log**, one case a thread.
SOURCE: EventProcessor.cpp:145-187, EventLogger.cpp:9-13, Mysql.cpp:40-86 -/
theorem step_logOk {taken waiting : List EventDocument} (h : LogOk text escape taken waiting s)
    (hreadable : PushesReadable text s a) (hstep : step text escape s a = some s') :
    ∃ taken' waiting', LogOk text escape taken' waiting' s' := by
  cases a with
  | processEvent e t =>
    obtain rfl := Option.some.inj hstep
    refine ⟨taken, waiting, h.queries, h.requests, ?_, ?_⟩
    · show (taken ++ waiting ++ (s.log.mMessageQueue ++ [pushedMessage e t])).Sublist _
      rw [← List.append_assoc]
      exact h.order.append (List.Sublist.refl _)
    · intro m hm
      rcases List.mem_append.mp hm with hold | hnew
      · exact h.readable m hold
      · obtain rfl := List.mem_singleton.mp hnew
        obtain ⟨kind, hkind, htext⟩ := kind_of_made e.made t
        refine ⟨hreadable, ?_⟩
        rw [pushedMessage, htext]
        exact kinds_plain hkind
  | timeSlice =>
    obtain rfl := Option.some.inj hstep
    obtain ⟨accepted, hsub, hrequests, hqueries⟩ :=
      notifyEvents_requests s.log.mMessageQueue waiting h.requests
    refine ⟨taken, waiting ++ accepted, hqueries.trans h.queries, hrequests, ?_, h.readable⟩
    show (taken ++ (waiting ++ accepted) ++ []).Sublist s.pushed
    rw [List.append_nil, ← List.append_assoc]
    exact ((List.Sublist.refl _).append hsub).trans h.order
  | unPoolDocument =>
    obtain rfl := Option.some.inj hstep
    cases hget : s.log.mpMysql.mpRequests.get with
    | none =>
      have hsame : s.log.next text escape .unPoolDocument = s.log := by
        simp [EventLog.next, Mysql.unPoolDocument, hget]
      rw [hsame]
      exact ⟨taken, waiting, h⟩
    | some r =>
      obtain ⟨data, requests⟩ := r
      obtain ⟨hitems, -⟩ := BoundedQueue.get_eq_some_iff.mp hget
      rw [h.requests] at hitems
      obtain ⟨next, waiting', rfl, rfl, hrest⟩ := List.map_eq_cons_iff.mp hitems
      refine ⟨taken ++ [next], waiting', ?_, ?_, ?_, h.readable⟩
      · simp [EventLog.next, Mysql.unPoolDocument, hget, h.queries, statement]
      · simpa [EventLog.next, Mysql.unPoolDocument, hget] using hrest.symm
      · have horder := h.order
        rw [← List.singleton_append, ← List.append_assoc] at horder
        exact horder

/-- INTERNAL: the statements that were sent are inserts. -/
theorem LogOk.insertsRows (hescape : EscapesStrings escape) {taken waiting : List EventDocument}
    (h : LogOk text escape taken waiting s) :
    InsertsRows text s := by
  intro _
  have htaken : taken.Sublist s.pushed := by
    refine List.Sublist.trans ?_ h.order
    rw [List.append_assoc]
    exact List.sublist_append_left taken _
  have hrows : s.log.mpMysql.queries.map readInsert =
      taken.map fun message => some (row text message) := by
    rw [h.queries, List.map_map]
    apply List.map_congr_left
    intro message hmessage
    exact readInsert_statement hescape (h.readable message (htaken.subset hmessage))
  rw [hrows]
  exact htaken.map _

end Runs

/-- **In every run, each statement that is sent to the database is one insert of the row of an event
that was pushed, with its time, its kind and its text, in the order in which the events were pushed,
whatever their strings are.** SOURCE: Mysql.cpp:40-86, EventLogger.cpp:9-13 -/
theorem insertsRows_throughout (text : EventText) {escape : CString → CString}
    (hescape : EscapesStrings escape) (acts : List Act)
    (hreadable : Along (step text escape) (PushesReadable text) init acts) :
    Throughout (step text escape) (InsertsRows text) init acts := by
  refine throughout_of_along (I := fun s => ∃ taken waiting, LogOk text escape taken waiting s)
    ?_ ?_ ⟨[], [], rfl, rfl, List.Sublist.refl [], nofun⟩ hreadable
  · rintro s ⟨taken, waiting, h⟩
    exact h.insertsRows hescape
  · rintro s a s' ⟨taken, waiting, h⟩ hreads hstep
    exact step_logOk h hreads hstep

/-- A device whose name would end the string and the statement. -/
def hostile : ProgramEvent where
  producer := .presence ⟨"201'); drop table events; -- ".toList, "busy".toList⟩
  made := .presence _

/-- The event, stamped. -/
def hostileJSON (t : ℤ) : JSON :=
  [("event", jsonText "presence"), ("device", .str "201'); drop table events; -- ".toList),
    ("status", .str "busy".toList), ("timestamp", .num (toUnsigned t))]

/-- Two such events, and both go to the database. -/
def hostileRun : List Act :=
  [.processEvent hostile 5, .processEvent hostile 6, .timeSlice, .unPoolDocument, .unPoolDocument]

/-- INTERNAL: the event is flat, and `plainEventText` reads its time and its kind back. -/
theorem readsBack_hostile (t : ℤ) : ReadsBack plainEventText (pushedMessage hostile t) := by
  have hdocument : pushedMessage hostile t = (hostileJSON t).document := rfl
  rw [hdocument]
  exact ⟨timestamp_plainEventText (hostileJSON t), event_plainEventText (hostileJSON t)⟩

/-- What follows the name of the device is part of the row, in both statements. -/
theorem insertsRows_hostile :
    (run (step plainEventText mysql_real_escape_string) init hostileRun).isSome ∧
    Throughout (step plainEventText mysql_real_escape_string) (InsertsRows plainEventText) init
      hostileRun := by
  refine ⟨rfl, insertsRows_throughout plainEventText mysql_real_escape_string_escapesStrings
    hostileRun ?_⟩
  rintro _ ⟨⟩
  refine ⟨readsBack_hostile 5, ?_⟩
  rintro _ ⟨⟩
  refine ⟨readsBack_hostile 6, ?_⟩
  rintro _ ⟨⟩
  refine ⟨trivial, ?_⟩
  rintro _ ⟨⟩
  refine ⟨trivial, ?_⟩
  rintro _ ⟨⟩
  exact ⟨trivial, trivial⟩

end Dhas.Analysis.LogInjection
