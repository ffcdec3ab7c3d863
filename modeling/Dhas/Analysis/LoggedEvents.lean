import Mathlib.Algebra.BigOperators.Group.List.Basic
import Dhas.Model.EventLog

/-!
# The size of a logged event

`unPoolDocument` escapes the text of an event into `str`, whatever its length. The room that a text
takes there is counted through the notation of the event down to the characters of its strings, and
no other part of the program bounds these.
-/

set_option autoImplicit false

namespace Dhas.Analysis.LoggedEvents

open Dhas.Library Dhas.Program Dhas.Model Dhas.Model.EventLog

/-! ## The room of a text -/

/-- The bytes that a text takes when it is escaped, without the final NUL. -/
def room (data : CString) : ℕ := data.length + data.countP isEscaped

/-- INTERNAL: the empty text takes no room. -/
@[simp] theorem room_nil : room [] = 0 := rfl

/-- INTERNAL: a letter takes two bytes when it is escaped. -/
@[simp] theorem room_cons (c : Char) (data : CString) :
    room (c :: data) = (if isEscaped c then 2 else 1) + room data := by
  unfold room
  rw [List.length_cons, List.countP_cons]
  split <;> omega

/-- INTERNAL: the room of two texts, one after the other. -/
@[simp] theorem room_append (data more : CString) :
    room (data ++ more) = room data + room more := by
  unfold room
  rw [List.length_append, List.countP_append]
  omega

/-- INTERNAL: a text takes at least its length. -/
theorem length_le_room (data : CString) : data.length ≤ room data := Nat.le_add_right _ _

/-- INTERNAL: a text without letters to escape takes its length. -/
theorem room_eq_length {data : CString} (h : ∀ c ∈ data, isEscaped c = false) :
    room data = data.length := by
  have hnone : data.countP isEscaped = 0 := by
    rw [List.countP_eq_zero]
    intro c hc
    simp [h c hc]
  unfold room
  omega

/-- INTERNAL: a number is written without characters that are escaped. -/
theorem room_decimal (v : ℤ) : room (decimal v) = (decimal v).length := by
  have hdigit {c : Char} (h : c.isDigit) : isEscaped c = false := by
    by_contra hescaped
    simp only [isEscaped, Bool.not_eq_false, Bool.or_eq_true, decide_eq_true_eq] at hescaped
    rcases hescaped with (((((rfl | rfl) | rfl) | rfl) | rfl) | rfl) | rfl <;>
      exact absurd h (by decide)
  apply room_eq_length
  intro c hc
  rcases mem_decimal hc with rfl | hc
  · decide
  · exact hdigit hc

/-- INTERNAL: a list is written with a comma less than it has values. -/
theorem room_intercalate (values : List CString) :
    room ([','].intercalate values) = (values.map room).sum + (values.length - 1) := by
  induction values with
  | nil => rfl
  | cons value values ih =>
    cases values with
    | nil => simp
    | cons next values =>
      have hcomma : isEscaped ',' = false := by decide
      rw [List.intercalate_cons_cons, room_append, room_append, ih]
      simp [hcomma]
      omega

/-! ## The room of an event -/

section Weight

variable (enc : Char → CString)

/-- The room of the characters of a string. -/
def textWeight (s : CString) : ℕ := (s.map fun c => room (enc c)).sum

/-- Two brackets, and commas between the parts. -/
def listWeight (weights : List ℕ) : ℕ := 2 + (weights.sum + (weights.length - 1))

/-- The quotation marks of a string are escaped. -/
def valueWeight : JSONValue → ℕ
  | .str s => textWeight enc s + 4
  | .num v => (decimal v).length

/-- A key, a colon and a value. -/
def memberWeight (key : String) (weight : ℕ) : ℕ := textWeight enc key.toList + 5 + weight

def objectWeight (json : JSON) : ℕ :=
  listWeight (json.map fun member => memberWeight enc member.1 (valueWeight enc member.2))

def eventValueWeight : EventValue → ℕ
  | .value v => valueWeight enc v
  | .list values => listWeight (values.map (valueWeight enc))
  | .object members => objectWeight enc members

/-- The room of an event, from its members. -/
def weight (message : EventDocument) : ℕ :=
  listWeight (message.map fun member => memberWeight enc member.1 (eventValueWeight enc member.2))

variable {enc}

/-- INTERNAL: the two quotation marks are escaped, too. -/
theorem room_quoted (s : CString) : room (quoted enc s) = textWeight enc s + 4 := by
  have hflatMap : room (s.flatMap enc) = textWeight enc s := by
    induction s with
    | nil => rfl
    | cons c s ih =>
      rw [List.flatMap_cons, room_append, ih]
      rfl
  have hquote : isEscaped quote = true := by decide
  simp [quoted, hflatMap, hquote]
  omega

/-- INTERNAL: the room of a member is its weight. -/
theorem room_writtenMember (key : String) (value : CString) :
    room (writtenMember enc key value) = memberWeight enc key (room value) := by
  have hcolon : isEscaped ':' = false := by decide
  rw [writtenMember, room_append, room_quoted, room_cons, hcolon]
  simp only [memberWeight, Bool.false_eq_true, if_false]
  omega

/-- INTERNAL: the room of a list is its weight. -/
theorem room_bracketed (values : List CString) :
    room (bracketed values) = listWeight (values.map room) := by
  have hopen : isEscaped '[' = false := by decide
  have hclose : isEscaped ']' = false := by decide
  simp [bracketed, listWeight, room_intercalate, hopen, hclose]
  omega

/-- INTERNAL: the room of an object is its weight. -/
theorem room_braced (members : List CString) :
    room (braced members) = listWeight (members.map room) := by
  have hopen : isEscaped (Char.ofNat 123) = false := by decide
  have hclose : isEscaped (Char.ofNat 125) = false := by decide
  rw [braced, room_cons, room_append, room_cons, room_nil, room_intercalate, hopen, hclose]
  simp only [listWeight, List.length_map, Bool.false_eq_true, if_false]
  omega

/-- INTERNAL: the room of a value is its weight. -/
theorem room_writtenValue (v : JSONValue) : room (v.written enc) = valueWeight enc v := by
  cases v with
  | str s => exact room_quoted s
  | num v => exact room_decimal v

/-- INTERNAL: the members of an object are counted one by one. -/
theorem room_writtenObject (json : JSON) : room (json.written enc) = objectWeight enc json := by
  rw [JSON.written, room_braced, List.map_map]
  unfold objectWeight
  congr 1
  apply List.map_congr_left
  intro member _
  rw [Function.comp_apply, room_writtenMember, room_writtenValue]

/-- INTERNAL: the room of an event's value is its weight. -/
theorem room_writtenEventValue (v : EventValue) :
    room (v.written enc) = eventValueWeight enc v := by
  cases v with
  | value v => exact room_writtenValue v
  | list values =>
    show room (bracketed (values.map (JSONValue.written enc))) = _
    rw [room_bracketed, List.map_map]
    show listWeight _ = listWeight _
    congr 1
    apply List.map_congr_left
    intro v _
    exact room_writtenValue v
  | object members => exact room_writtenObject members

/-- INTERNAL: **the room of the text of an event is the sum over its members.** -/
theorem room_written (message : EventDocument) :
    room (message.written enc) = weight enc message := by
  rw [EventDocument.written, room_braced, List.map_map]
  unfold weight
  congr 1
  apply List.map_congr_left
  intro member _
  rw [Function.comp_apply, room_writtenMember, room_writtenEventValue]

/-- What the members add, each with the comma behind it. -/
def membersWeight (enc : Char → CString) (message : EventDocument) : ℕ :=
  (message.map fun member => memberWeight enc member.1 (eventValueWeight enc member.2) + 1).sum

/-- INTERNAL: the weight of two documents, one after the other. -/
theorem membersWeight_append (message more : EventDocument) :
    membersWeight enc (message ++ more) = membersWeight enc message + membersWeight enc more := by
  unfold membersWeight
  rw [List.map_append, List.sum_append]

/-- INTERNAL: an event takes what its members add, and its timestamp. -/
theorem weight_stamp (message : EventDocument) (t : ℤ) :
    weight enc (message.stamp t) = membersWeight enc message +
      (textWeight enc "timestamp".toList + (decimal (toUnsigned t)).length + 7) := by
  have hsum : membersWeight enc message = (message.map fun member =>
      memberWeight enc member.1 (eventValueWeight enc member.2)).sum + message.length := by
    unfold membersWeight
    rw [List.sum_map_add]
    simp
  rw [hsum]
  simp [weight, EventDocument.stamp, listWeight, memberWeight, eventValueWeight, valueWeight]
  omega

/-- INTERNAL: a string is written in at least as many characters as it has. -/
theorem length_le_textWeight (henc : ∀ c, enc c ≠ []) (s : CString) :
    s.length ≤ textWeight enc s := by
  induction s with
  | nil => exact Nat.zero_le _
  | cons c s ih =>
    have hc := List.length_pos_of_ne_nil (henc c)
    have hroom := length_le_room (enc c)
    simp only [textWeight, List.map_cons, List.sum_cons, List.length_cons] at ih ⊢
    omega

end Weight

/-! ## The events of the program -/

section Producers

/-- INTERNAL: a letter of a string takes four bytes at most. -/
theorem room_escape_le (c : Char) : room (escape c) ≤ 4 := by
  unfold escape
  split
  case isTrue h => rcases h with rfl | rfl <;> decide
  case isFalse =>
    split
    case isTrue => decide
    case isFalse =>
      rw [room_cons, room_nil]
      split <;> omega

/-- INTERNAL: a string takes four bytes for each letter at most. -/
theorem textWeight_escape_le (s : CString) : textWeight escape s ≤ 4 * s.length := by
  induction s with
  | nil => exact Nat.le_refl 0
  | cons c s ih =>
    have hc := room_escape_le c
    simp only [textWeight, List.map_cons, List.sum_cons, List.length_cons] at ih ⊢
    omega

/-- INTERNAL: a number below a power of ten has so many digits at most. -/
theorem length_decimal_le {n k : ℕ} (hk : 0 < k) (h : n < 10 ^ k) : (decimal n).length ≤ k :=
  (Nat.length_toDigits_le_iff (by omega) hk).mpr h

/-- INTERNAL: a time stamp has ten digits at most. -/
theorem length_timestamp_le (t : ℤ) : (decimal (toUnsigned t)).length ≤ 10 := by
  apply length_decimal_le (by omega)
  unfold toUnsigned
  omega

/-- INTERNAL: **what a scheduled event adds: its name, its parameter and five numbers.** -/
theorem membersWeight_scheduled (e : ScheduledEvent) :
    membersWeight escape (Producer.scheduled e).document =
      textWeight escape e.mName + textWeight escape e.mParam + (decimal e.mID).length +
        (decimal e.mMinute).length + (decimal e.mHour).length +
        (decimal (toUnsigned e.mTimeout)).length + 98 := by
  have hkeys : textWeight escape "id".toList = 2 ∧ textWeight escape "name".toList = 4 ∧
      textWeight escape "param".toList = 5 ∧ textWeight escape "min".toList = 3 ∧
      textWeight escape "hour".toList = 4 ∧ textWeight escape "timeout".toList = 7 := by decide
  have hevent : textWeight escape "event".toList = 5 ∧
      textWeight escape "scheduledevent".toList = 14 := by decide
  simp only [membersWeight, Producer.document, JSON.document, ScheduledEvent.toJSON, List.map_cons,
    List.map_nil, List.sum_cons, List.sum_nil, memberWeight, eventValueWeight, valueWeight,
    jsonText, hkeys, hevent]
  omega

/-- **A scheduled event is short exactly when its name and its parameter leave room for its
numbers.** SOURCE: RESTInterface.cpp:103-109, EventProcessor.cpp:186-197 -/
theorem scheduled_short_iff (e : ScheduledEvent) (t : ℤ) :
    weight escape ((Producer.scheduled e).document.stamp t) < Mysql.strSize ↔
      textWeight escape e.mName + textWeight escape e.mParam + (decimal e.mID).length +
        (decimal e.mMinute).length + (decimal e.mHour).length +
        (decimal (toUnsigned e.mTimeout)).length + (decimal (toUnsigned t)).length < 1934 := by
  have htimestamp : textWeight escape "timestamp".toList = 9 := by decide
  rw [weight_stamp, membersWeight_scheduled, htimestamp]
  unfold Mysql.strSize
  omega

/-- INTERNAL: the action of an alarm takes a hundred bytes at most. -/
theorem membersWeight_action_le (data : AlarmData) :
    membersWeight escape data.action.document ≤ 100 := by
  have hbyte (b : UInt8) : (decimal b.toNat).length ≤ 3 :=
    length_decimal_le (by omega) (by have := b.toNat_lt; omega)
  have hgroup := hbyte data.group
  have hsubgroup := hbyte data.subgroup
  have hkeys : textWeight escape "action".toList = 6 ∧ textWeight escape "subgroup".toList = 8 ∧
      textWeight escape "group".toList = 5 ∧ textWeight escape "usernumber".toList = 10 := by decide
  have htexts : textWeight escape "zoneon".toList = 6 ∧ textWeight escape "zoneoff".toList = 7 ∧
      textWeight escape "Exit delay".toList = 10 ∧ textWeight escape "Entry delay".toList = 11 ∧
      textWeight escape "Unknown-A".toList = 9 ∧ textWeight escape "Unknown-B".toList = 9 ∧
      textWeight escape "Armed".toList = 5 ∧ textWeight escape "Disarmed".toList = 8 := by decide
  unfold AlarmData.action
  split_ifs <;>
    simp only [membersWeight, JSON.document, memberWeight, eventValueWeight, valueWeight, jsonText,
      jsonByte, List.map_cons, List.map_nil, List.sum_cons, List.sum_nil, hkeys, htexts] <;>
    omega

/-- INTERNAL: a label has fifteen letters at most. -/
theorem length_labelText_le (data : AlarmData) : data.labelText.length ≤ 15 := by
  have htrim (chars : CString) : (chars.dropWhile isSpace).length ≤ chars.length :=
    (List.dropWhile_suffix _).length_le
  unfold AlarmData.labelText
  generalize data.label.map _ = chars
  calc (((chars.take 15).dropWhile isSpace).reverse.dropWhile isSpace).reverse.length
    _ ≤ ((chars.take 15).dropWhile isSpace).length := by
        rw [List.length_reverse]
        exact (htrim _).trans_eq List.length_reverse
    _ ≤ (chars.take 15).length := htrim _
    _ ≤ 15 := List.length_take_le 15 chars

/-- INTERNAL: **an event of the alarm panel is always short.** -/
theorem weight_alarm_le (data : AlarmData) (t : ℤ) :
    weight escape ((Producer.alarm data).document.stamp t) < Mysql.strSize := by
  have hdocument : (Producer.alarm data).document =
      [("event", .value (jsonText "alarm"))] ++ data.action.document ++
        [("label", .value (.str data.labelText))] := by
    simp [Producer.document, AlarmData.event, JSON.document]
  have haction := membersWeight_action_le data
  have hevent : membersWeight escape [("event", .value (jsonText "alarm"))] = 20 := by decide
  have hlabel : membersWeight escape [("label", .value (.str data.labelText))] =
      textWeight escape data.labelText + 15 := by
    have hkey : textWeight escape "label".toList = 5 := by decide
    simp only [membersWeight, List.map_cons, List.map_nil, List.sum_cons, List.sum_nil,
      memberWeight, eventValueWeight, valueWeight, hkey]
    omega
  have htext := textWeight_escape_le data.labelText
  have hlength := length_labelText_le data
  have htimestamp : textWeight escape "timestamp".toList = 9 := by decide
  have hdigits := length_timestamp_le t
  rw [weight_stamp, hdocument, membersWeight_append, membersWeight_append, hevent, hlabel,
    htimestamp]
  unfold Mysql.strSize
  omega

end Producers

/-! ## The runs -/

/-- All that was written to `str` is inside of it. -/
def InsideBuffer (s : EventLog) : Prop := ∀ bytes ∈ s.mpMysql.written, bytes ≤ Mysql.strSize

/-- What is passed to `processEvent` is one of these events, at one of its times. -/
def PushedFrom (E : Set (Producer × ℤ)) (_ : EventLog) : Act → Prop
  | .processEvent p t => (p, t) ∈ E
  | .timeSlice | .unPoolDocument => True

section Runs

variable {text : EventText} {escape : CString → CString}

/-- The events that are on their way fit the buffer, with the final NUL. -/
structure AllShort (text : EventText) (s : EventLog) : Prop where
  queue : ∀ message ∈ s.mMessageQueue, room (text.stringify message) < Mysql.strSize
  requests : ∀ data ∈ s.mpMysql.mpRequests.items, room data < Mysql.strSize
  inside : InsideBuffer s

/-- INTERNAL: at first nothing is queued. -/
theorem allShort_init : AllShort text init where
  queue _ h := absurd h List.not_mem_nil
  requests _ h := absurd h List.not_mem_nil
  inside _ h := absurd h List.not_mem_nil

/-- INTERNAL: an event that finds no room in the queue is dropped, so every request is the text of
an event. -/
theorem mem_requests_notifyEvent (messages : List EventDocument) (m : Mysql) {data : CString}
    (h : data ∈ (messages.foldl (EventLogger.notifyEvent text) m).mpRequests.items) :
    data ∈ m.mpRequests.items ∨ ∃ message ∈ messages, data = text.stringify message := by
  induction messages generalizing m with
  | nil => exact Or.inl h
  | cons message messages ih =>
    rw [List.foldl_cons] at h
    rcases ih _ h with hmem | ⟨later, hlater, hdata⟩
    · change data ∈ (m.mpRequests.put (text.stringify message)).items at hmem
      rw [BoundedQueue.items_put] at hmem
      split at hmem
      case isTrue =>
        rw [List.mem_append, List.mem_singleton] at hmem
        exact hmem.imp_right fun hdata => ⟨message, List.mem_cons_self, hdata⟩
      case isFalse => exact Or.inl hmem
    · exact Or.inr ⟨later, List.mem_cons_of_mem _ hlater, hdata⟩

/-- INTERNAL: a notification writes nothing yet. -/
theorem written_notifyEvent (text : EventText) (messages : List EventDocument) (m : Mysql) :
    (messages.foldl (EventLogger.notifyEvent text) m).written = m.written := by
  induction messages generalizing m with
  | nil => rfl
  | cons message messages ih =>
    rw [List.foldl_cons, ih]
    rfl

/-- What `unPoolDocument` does: nothing without a request, and otherwise it writes the text of the
first, escaped. -/
theorem unPoolDocument_cases (text : EventText) (escape : CString → CString) (m : Mysql) :
    m.mpRequests.items = [] ∧ (m.unPoolDocument text escape).1 = m ∨
      ∃ data requests, m.mpRequests.items = data :: requests ∧
        (m.unPoolDocument text escape).1.mpRequests.items = requests ∧
        (m.unPoolDocument text escape).1.written = m.written ++ [(escape data).length + 1] := by
  unfold Mysql.unPoolDocument
  cases hget : m.mpRequests.get with
  | none => exact Or.inl ⟨BoundedQueue.get_eq_none_iff.mp hget, rfl⟩
  | some r => exact Or.inr ⟨r.1, r.2.items, (BoundedQueue.get_eq_some_iff.mp hget).1, rfl, rfl⟩

/-- INTERNAL: what is written for a text is its room and the final NUL. -/
theorem length_escape (hescape : EscapesAsDocumented escape) (data : CString) :
    (escape data).length = room data := hescape data

/-- INTERNAL: **a step keeps short events on their way, if those that are pushed are short.** -/
theorem allShort_step (hescape : EscapesAsDocumented escape) {E : Set (Producer × ℤ)}
    (hshort : ∀ e ∈ E, room (text.stringify (e.1.document.stamp e.2)) < Mysql.strSize)
    {s s' : EventLog} {act : Act} (h : AllShort text s) (hfrom : PushedFrom E s act)
    (hstep : step text escape s act = some s') : AllShort text s' := by
  obtain rfl := Option.some.inj hstep
  cases act with
  | processEvent p t =>
    refine ⟨?_, h.requests, h.inside⟩
    intro message hmessage
    rcases List.mem_append.mp hmessage with hold | hnew
    · exact h.queue message hold
    · rw [List.mem_singleton.mp hnew]
      exact hshort (p, t) hfrom
  | timeSlice =>
    refine ⟨fun _ hnil => absurd hnil List.not_mem_nil, ?_, ?_⟩
    · intro data hdata
      rcases mem_requests_notifyEvent s.mMessageQueue s.mpMysql hdata with hold | hnew
      · exact h.requests data hold
      · obtain ⟨message, hmessage, rfl⟩ := hnew
        exact h.queue message hmessage
    · intro bytes hbytes
      apply h.inside
      rwa [← written_notifyEvent text s.mMessageQueue s.mpMysql]
  | unPoolDocument =>
    rcases unPoolDocument_cases text escape s.mpMysql with
      ⟨-, hsame⟩ | ⟨data, requests, hitems, hrequests, hwritten⟩
    · refine ⟨h.queue, ?_, ?_⟩
      · simpa only [next, hsame] using h.requests
      · simpa only [next, hsame] using h.inside
    · have hdata : room data < Mysql.strSize := h.requests data (by simp [hitems])
      refine ⟨h.queue, ?_, ?_⟩
      · intro later hlater
        apply h.requests
        rw [hitems]
        exact List.mem_cons_of_mem _ (hrequests ▸ hlater)
      · intro bytes hbytes
        change bytes ∈ (s.mpMysql.unPoolDocument text escape).1.written at hbytes
        rw [hwritten, List.mem_append, List.mem_singleton] at hbytes
        rcases hbytes with hold | rfl
        · exact h.inside bytes hold
        · rw [length_escape hescape]
          exact hdata

/-- INTERNAL: an event that is alone on its way is written. -/
theorem short_of_insideBuffer (hescape : EscapesAsDocumented escape) {p : Producer} {t : ℤ}
    (h : Throughout (step text escape) InsideBuffer init
      [.processEvent p t, .timeSlice, .unPoolDocument]) :
    room (text.stringify (p.document.stamp t)) < Mysql.strSize := by
  obtain ⟨s, hrun, hwritten⟩ : ∃ s,
      run (step text escape) init [.processEvent p t, .timeSlice, .unPoolDocument] = some s ∧
        s.mpMysql.written = [(escape (text.stringify (p.document.stamp t))).length + 1] :=
    ⟨_, rfl, rfl⟩
  have hinside := h.last hrun ((escape (text.stringify (p.document.stamp t))).length + 1)
    (by simp [hwritten])
  rwa [length_escape hescape] at hinside

end Runs

/-- **Whatever events are pushed, logging them stays inside the buffer in every run exactly when
each of them is short**: its members, its timestamp and its punctuation, with all that is escaped
counted twice, take less than the 2048 bytes.
SOURCE: Mysql.cpp:40-86, EventProcessor.cpp:145-184, EventLogger.cpp:9-13 -/
theorem insideBuffer_throughout_iff {text : EventText} {escape : CString → CString}
    {enc : Char → CString} (hescape : EscapesAsDocumented escape) (husual : text.WritesUsual enc)
    (E : Set (Producer × ℤ)) :
    (∀ acts, Along (step text escape) (PushedFrom E) init acts →
      Throughout (step text escape) InsideBuffer init acts) ↔
      ∀ e ∈ E, weight enc (e.1.document.stamp e.2) < Mysql.strSize := by
  have hroom (message : EventDocument) : room (text.stringify message) = weight enc message := by
    rw [husual, room_written]
  constructor
  · rintro hinside ⟨p, t⟩ hE
    rw [← hroom]
    apply short_of_insideBuffer hescape
    apply hinside
    intro s _
    refine ⟨hE, fun s' _ => ⟨trivial, fun s'' _ => ⟨trivial, trivial⟩⟩⟩
  · intro hshort acts hfrom
    refine throughout_of_along (I := AllShort text) (fun s h => h.inside) ?_ allShort_init hfrom
    intro s act s' h hpush hstep
    apply allShort_step hescape _ h hpush hstep
    intro e he
    rw [hroom]
    exact hshort e he

/-- **The events of the alarm panel never leave the buffer.** -/
theorem alarms_insideBuffer : plainEventText.WritesUsual escape ∧ ∀ acts,
    Along (step plainEventText mysql_real_escape_string)
      (PushedFrom {e | ∃ data, e.1 = .alarm data}) init acts →
    Throughout (step plainEventText mysql_real_escape_string) InsideBuffer init acts := by
  have husual : plainEventText.WritesUsual escape := fun _ => rfl
  refine ⟨husual, ?_⟩
  apply (insideBuffer_throughout_iff mysql_real_escape_string_documented husual _).mpr
  rintro ⟨_, t⟩ ⟨data, rfl⟩
  exact weight_alarm_le data t

/-- An event of `/events/add?name=aa...`, with 2100 characters, for midnight. -/
def longEvent : ScheduledEvent where
  mName := List.replicate 2100 'a'
  mParam := []
  mMinute := 0
  mHour := 0
  mTimeout := 86400
  mID := 1

/-- **A scheduled event with a long name is written behind the end of the buffer.** -/
theorem longEvent_leaves_buffer :
    ¬ Throughout (step plainEventText mysql_real_escape_string) InsideBuffer init
      [.processEvent (.scheduled longEvent) 86400, .timeSlice, .unPoolDocument] := by
  intro h
  have hshort := short_of_insideBuffer mysql_real_escape_string_documented h
  have hroom : room (plainEventText.stringify ((Producer.scheduled longEvent).document.stamp 86400))
      = weight escape ((Producer.scheduled longEvent).document.stamp 86400) := room_written _
  have henc (c : Char) : escape c ≠ [] := by
    unfold escape
    split_ifs <;> simp
  rw [hroom, scheduled_short_iff] at hshort
  have hlong := length_le_textWeight henc longEvent.mName
  have hlength : longEvent.mName.length = 2100 := List.length_replicate
  omega

end Dhas.Analysis.LoggedEvents
