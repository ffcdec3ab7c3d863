import Dhas.Program.JSON
import Mathlib.Data.List.AList
import Mathlib.Data.List.Induction

/-!
# The schedule

`ScheduledEvent.cpp`, `Schedule.cpp` and `EventProcessor::processSchedule`. A
`ScheduledEvent*` is an address; the objects that live at the addresses are part of the
schedule here, and `new` and `delete` change them. `mEventList` is a `std::map`, iterated in
the order of its keys. The database is a map from the bytes of a key to the bytes of its
data, which a cursor visits in an order of its own.

The database hands out data without a terminating NUL and `addEvent` passes on the buffer
of a temporary string; the bytes are taken to be followed by a NUL and to be intact.
-/

set_option autoImplicit false

namespace Dhas.Program

/-! ## Time -/

/-- The date in a `struct tm`. -/
structure Date where
  tm_mday : ℤ
  tm_mon : ℤ
  tm_year : ℤ

/-- `localtime`, and `mktime` of a date, an hour and a minute, in the zone of the machine. -/
structure TimeZone where
  localtime : ℤ → Date
  mktime : Date → ℤ → ℤ → ℤ

/-- Coordinated universal time. The years are counted from March and in eras of 400 years,
which have 146097 days. -/
def utc : TimeZone where
  localtime t :=
    let day := t / 86400 + 719468
    let dayOfEra := day % 146097
    let year := (dayOfEra - dayOfEra / 1460 + dayOfEra / 36524 - dayOfEra / 146096) / 365
    let dayOfYear := dayOfEra - (365 * year + year / 4 - year / 100)
    let month := (5 * dayOfYear + 2) / 153
    { tm_mday := dayOfYear - (153 * month + 2) / 5 + 1
      tm_mon := if month < 10 then month + 2 else month - 10
      tm_year := year + 400 * (day / 146097) - 1900 + if month < 10 then 0 else 1 }
  mktime date hour min :=
    let year := date.tm_year + 1900 - if date.tm_mon < 2 then 1 else 0
    let month := if date.tm_mon < 2 then date.tm_mon + 10 else date.tm_mon - 2
    let day := year * 365 + year / 4 - year / 100 + year / 400 + (153 * month + 2) / 5 +
      date.tm_mday - 1
    (day - 719468) * 86400 + hour * 3600 + min * 60

example : utc.mktime (utc.localtime 1709164800) 13 5 = 1709164800 + 13 * 3600 + 5 * 60 := by
  decide

/-! ## Scheduled events -/

structure ScheduledEvent where
  mName : CString
  mParam : CString
  mMinute : ℤ
  mHour : ℤ
  mTimeout : ℤ
  mID : ℤ
  deriving DecidableEq

namespace ScheduledEvent

/-- The constructor, for an object at the address `this` and at time `t`. -/
def new (zone : TimeZone) (this : UInt64) (t : ℤ) (name param : CString) (min hour : ℤ) :
    ScheduledEvent where
  mName := name
  mParam := param
  mMinute := min
  mHour := hour
  mTimeout :=
    let t2 := zone.mktime (zone.localtime t) hour min
    if t2 > t then t2 else t2 + 60 * 60 * 24
  mID := toInt (toInt this.toNat + toInt t)

/-- INTERNAL: the id is the sum of the address and the time, cut to an int.
SOURCE: ScheduledEvent.cpp:13 -/
theorem mID_new (zone : TimeZone) (this : UInt64) (t : ℤ) (name param : CString) (min hour : ℤ) :
    (new zone this t name param min hour).mID = toInt (toInt this.toNat + toInt t) := by
  simp only [new]

/-- The constructor that reads a record. -/
def ofJSON (json : JSON) : ScheduledEvent where
  mName := json.str "name"
  mParam := json.str "param"
  mID := atoi (json.str "id")
  mMinute := atoi (json.str "min")
  mHour := atoi (json.str "hour")
  mTimeout := atoi (json.str "timeout")

def isDue (e : ScheduledEvent) (t : ℤ) : Bool := decide (t ≥ e.mTimeout)

def toJSON (e : ScheduledEvent) : JSON :=
  [("event", jsonText "scheduledevent"), ("id", .num e.mID), ("name", .str e.mName),
    ("param", .str e.mParam), ("min", .num e.mMinute), ("hour", .num e.mHour),
    ("timeout", .num (toUnsigned e.mTimeout))]

end ScheduledEvent

/-! ## The schedule -/

structure Schedule where
  objects : UInt64 → Option ScheduledEvent
  mEventList : Std.TreeMap ℤ UInt64
  mpDB : AList fun _ : CString => CString

namespace Schedule

/-- `ScheduledEvent(json)` of the parsed data of a record. -/
def readEvent (text : JSONText) (data : CString) : ScheduledEvent :=
  ScheduledEvent.ofJSON (text.parse (cString data))

/-- `new ScheduledEvent(json)` and its entry in the map, for one record of the cursor. -/
def readRecord (text : JSONText) (s : Schedule) (data : CString) (this : UInt64) : Schedule :=
  let pEvent := readEvent text data
  { s with
    objects := Function.update s.objects this (some pEvent)
    mEventList := s.mEventList.insert pEvent.mID this }

/-- The constructor. `cursor` holds the data of the records as the cursor returns them, each
with the address of the object made from it. -/
def new (text : JSONText) (mpDB : AList fun _ : CString => CString)
    (cursor : List (CString × UInt64)) : Schedule :=
  cursor.foldl (fun s record => s.readRecord text record.1 record.2) ⟨fun _ => none, ∅, mpDB⟩

def addEvent (text : JSONText) (s : Schedule) (pEvent : UInt64) : Schedule :=
  match s.objects pEvent with
  | none => s
  | some e =>
    { s with
      mEventList := s.mEventList.insert e.mID pEvent
      mpDB := s.mpDB.insert (decimal e.mID) (text.stringify e.toJSON) }

def removeEvent (s : Schedule) (id : ℤ) : Schedule :=
  match s.mEventList[id]? with
  | none => s
  | some pEvent =>
    { objects := Function.update s.objects pEvent none
      mEventList := s.mEventList.erase id
      mpDB := s.mpDB.erase (decimal id) }

def getDueEvents (s : Schedule) (t : ℤ) : List ScheduledEvent :=
  s.mEventList.toList.filterMap fun entry => (s.objects entry.2).filter (·.isDue t)

/-- The loop of `processSchedule`: each event of the list is passed to `processEvent` and
removed by its id. -/
def fire : List ScheduledEvent → Schedule → List JSON × Schedule
  | [], s => ([], s)
  | event :: list, s =>
    let r := fire list (s.removeEvent event.mID)
    (event.toJSON :: r.1, r.2)

/-- `EventProcessor::processSchedule`, with the messages that it passes to `processEvent`. -/
def processSchedule (s : Schedule) (t : ℤ) : List JSON × Schedule :=
  fire (s.getDueEvents t) s

/-! ## What the schedule holds -/

/-- The event stored under an id. -/
def contents (s : Schedule) (id : ℤ) : Option ScheduledEvent :=
  s.mEventList[id]?.bind s.objects

/-- The record stored under an id. -/
def record (s : Schedule) (id : ℤ) : Option CString := s.mpDB.lookup (decimal id)

/-- Every entry of the map leads to a live object, whose id is the key. -/
def KeysMatch (s : Schedule) : Prop :=
  ∀ id p, s.mEventList[id]? = some p → ∃ e, s.objects p = some e ∧ e.mID = id

/-- INTERNAL: an event is scheduled when its pointer is in the map. -/
theorem contents_eq_some {s : Schedule} {id : ℤ} {e : ScheduledEvent} :
    s.contents id = some e ↔ ∃ p, s.mEventList[id]? = some p ∧ s.objects p = some e :=
  Option.bind_eq_some_iff

/-- INTERNAL: an event is scheduled under its own id. -/
theorem KeysMatch.mID {s : Schedule} (h : s.KeysMatch) {id : ℤ} {e : ScheduledEvent}
    (he : s.contents id = some e) : e.mID = id := by
  obtain ⟨p, hp, hobject⟩ := contents_eq_some.mp he
  obtain ⟨e', he', hid⟩ := h id p hp
  rw [hobject] at he'
  obtain rfl := Option.some.inj he'
  exact hid

/-- INTERNAL: no event is scheduled under two ids. -/
theorem KeysMatch.injective {s : Schedule} (h : s.KeysMatch) {id id' : ℤ} {p : UInt64}
    (hid : s.mEventList[id]? = some p) (hid' : s.mEventList[id']? = some p) : id = id' := by
  obtain ⟨e, he, hmID⟩ := h id p hid
  obtain ⟨e', he', hmID'⟩ := h id' p hid'
  rw [he] at he'
  obtain rfl := Option.some.inj he'
  exact hmID.symm.trans hmID'

/-- INTERNAL: no entry leads to an address without an object. -/
theorem KeysMatch.ne_of_free {s : Schedule} (h : s.KeysMatch) {this : UInt64}
    (hfree : s.objects this = none) {id : ℤ} {p : UInt64} (hp : s.mEventList[id]? = some p) :
    p ≠ this := by
  rintro rfl
  obtain ⟨e, he, -⟩ := h id p hp
  rw [hfree] at he
  cases he

/-- INTERNAL: every pointer of the map is an object. -/
theorem KeysMatch.contents_isSome {s : Schedule} (h : s.KeysMatch) (id : ℤ) :
    (s.contents id).isSome = s.mEventList[id]?.isSome := by
  cases hid : s.mEventList[id]? with
  | none => simp [contents, hid]
  | some p =>
    obtain ⟨e, he, -⟩ := h id p hid
    simp [contents, hid, he]

/-! ### Adding -/

section AddEvent

variable {text : JSONText} {s : Schedule} {p : UInt64} {e : ScheduledEvent}

/-- INTERNAL: what an addition writes: the map and the table. -/
theorem addEvent_eq (he : s.objects p = some e) :
    s.addEvent text p =
      { s with
        mEventList := s.mEventList.insert e.mID p
        mpDB := s.mpDB.insert (decimal e.mID) (text.stringify e.toJSON) } := by
  unfold addEvent
  rw [he]

/-- INTERNAL: an addition creates no object. -/
theorem objects_addEvent (he : s.objects p = some e) :
    (s.addEvent text p).objects = s.objects := by
  rw [addEvent_eq he]

/-- INTERNAL: an addition writes the map at the event's id only. -/
theorem getElem?_addEvent (he : s.objects p = some e) (id : ℤ) :
    (s.addEvent text p).mEventList[id]? = if id = e.mID then some p else s.mEventList[id]? := by
  rw [addEvent_eq he, Std.TreeMap.getElem?_insert]
  simp only [Std.LawfulEqCmp.compare_eq_iff_eq]
  exact if_congr eq_comm rfl rfl

/-- INTERNAL: the event is stored under its id, and the others stay.
SOURCE: Schedule.cpp:38-58 -/
theorem contents_addEvent (he : s.objects p = some e) (id : ℤ) :
    (s.addEvent text p).contents id = if id = e.mID then some e else s.contents id := by
  unfold contents
  rw [getElem?_addEvent he, objects_addEvent he]
  split
  · exact he
  · rfl

/-- INTERNAL: the database is written under the same id. -/
theorem record_addEvent (he : s.objects p = some e) (id : ℤ) :
    (s.addEvent text p).record id =
      if id = e.mID then some (text.stringify e.toJSON) else s.record id := by
  unfold record
  rw [addEvent_eq he]
  split
  case isTrue hid => rw [hid, AList.lookup_insert]
  case isFalse hid => exact AList.lookup_insert_ne fun h => hid (decimal_injective h)

/-- INTERNAL: an event is added under its own id. -/
theorem KeysMatch.addEvent (h : s.KeysMatch) (he : s.objects p = some e) :
    (s.addEvent text p).KeysMatch := by
  intro id q hq
  rw [getElem?_addEvent he] at hq
  rw [objects_addEvent he]
  split at hq
  case isTrue hid =>
    obtain rfl := Option.some.inj hq
    exact ⟨e, he, hid.symm⟩
  case isFalse => exact h id q hq

end AddEvent

/-! ### Removing -/

section RemoveEvent

variable {s : Schedule} (h : s.KeysMatch)

/-- INTERNAL: a removal clears the map at one id only. -/
theorem getElem?_removeEvent (s : Schedule) (id id' : ℤ) :
    (s.removeEvent id).mEventList[id']? = if id' = id then none else s.mEventList[id']? := by
  unfold removeEvent
  split
  case h_1 hnone =>
    split
    case isTrue hid => rw [hid, hnone]
    case isFalse => rfl
  case h_2 p hp =>
    show (s.mEventList.erase id)[id']? = _
    rw [Std.TreeMap.getElem?_erase]
    simp only [Std.LawfulEqCmp.compare_eq_iff_eq]
    exact if_congr eq_comm rfl rfl

/-- INTERNAL: only the object stored under the id is deleted. -/
theorem objects_removeEvent (s : Schedule) (id : ℤ) (q : UInt64) :
    (s.removeEvent id).objects q = if s.mEventList[id]? = some q then none else s.objects q := by
  unfold removeEvent
  split
  case h_1 hnone => simp [hnone]
  case h_2 p hp =>
    simp only [hp, Option.some.injEq]
    by_cases hq : p = q
    · rw [hq, Function.update_self, if_pos rfl]
    · rw [Function.update_of_ne (Ne.symm hq), if_neg hq]

include h

/-- INTERNAL: the event under the id goes, the others stay. SOURCE: Schedule.cpp:60-83 -/
theorem contents_removeEvent (id id' : ℤ) :
    (s.removeEvent id).contents id' = if id' = id then none else s.contents id' := by
  unfold contents
  rw [getElem?_removeEvent]
  split
  case isTrue => rfl
  case isFalse hid =>
    cases hp : s.mEventList[id']? with
    | none => rfl
    | some p =>
      show (s.removeEvent id).objects p = s.objects p
      rw [objects_removeEvent, if_neg]
      exact fun hq => hid (h.injective hp hq)

/-- INTERNAL: a removal keeps the other events under their ids. -/
theorem KeysMatch.removeEvent (id : ℤ) : (s.removeEvent id).KeysMatch := by
  intro id' p hp
  rw [getElem?_removeEvent] at hp
  split at hp
  case isTrue => cases hp
  case isFalse hid =>
    obtain ⟨e, he, hmID⟩ := h id' p hp
    refine ⟨e, ?_, hmID⟩
    rw [objects_removeEvent, if_neg, he]
    exact fun hq => hid (h.injective hp hq)

omit h in
/-- INTERNAL: the record under the id goes with the event, the others stay. -/
theorem record_removeEvent (id id' : ℤ) :
    (s.removeEvent id).record id' =
      if id' = id ∧ s.mEventList[id]?.isSome then none else s.record id' := by
  unfold record removeEvent
  split
  case h_1 hnone => simp [hnone]
  case h_2 p hp =>
    show (s.mpDB.erase (decimal id)).lookup (decimal id') = _
    simp only [hp, Option.isSome_some, and_true]
    split
    case isTrue hid => rw [hid, AList.lookup_erase]
    case isFalse hid => exact AList.lookup_erase_ne fun h => hid (decimal_injective h)

end RemoveEvent

/-! ### Firing -/

/-- INTERNAL: what is due is what is stored and has come to its time.
SOURCE: Schedule.cpp:85-100 -/
theorem KeysMatch.mem_getDueEvents {s : Schedule} (h : s.KeysMatch) {t : ℤ} {e : ScheduledEvent} :
    e ∈ s.getDueEvents t ↔ s.contents e.mID = some e ∧ e.mTimeout ≤ t := by
  unfold getDueEvents ScheduledEvent.isDue
  simp only [List.mem_filterMap, Option.filter_eq_some_iff, decide_eq_true_eq]
  constructor
  · rintro ⟨⟨id, p⟩, hmem, he, hdue⟩
    have hp := Std.TreeMap.mem_toList_iff_getElem?_eq_some.mp hmem
    have hcontents : s.contents id = some e := contents_eq_some.mpr ⟨p, hp, he⟩
    rw [h.mID hcontents]
    exact ⟨hcontents, hdue⟩
  · rintro ⟨hcontents, hdue⟩
    obtain ⟨p, hp, he⟩ := contents_eq_some.mp hcontents
    exact ⟨(e.mID, p), Std.TreeMap.mem_toList_iff_getElem?_eq_some.mpr hp, he, hdue⟩

/-- INTERNAL: no event is listed twice. -/
theorem KeysMatch.nodup_getDueEvents {s : Schedule} (h : s.KeysMatch) (t : ℤ) :
    (s.getDueEvents t).Nodup := by
  have hkeys : s.mEventList.toList.Pairwise fun a b => ¬ compare a.1 b.1 = .eq :=
    Std.TreeMap.distinct_keys_toList
  unfold getDueEvents
  rw [List.Nodup, List.pairwise_filterMap]
  apply hkeys.imp_of_mem
  rintro ⟨id, p⟩ ⟨id', p'⟩ hmem hmem' hne e he e' he' heq
  rw [Option.filter_eq_some_iff] at he he'
  have hp := Std.TreeMap.mem_toList_iff_getElem?_eq_some.mp hmem
  have hp' := Std.TreeMap.mem_toList_iff_getElem?_eq_some.mp hmem'
  have hid := h.mID (contents_eq_some.mpr ⟨p, hp, he.1⟩)
  have hid' := h.mID (contents_eq_some.mpr ⟨p', hp', he'.1⟩)
  apply hne
  rw [Std.LawfulEqCmp.compare_eq_iff_eq]
  show id = id'
  rw [← hid, ← hid', heq]

/-- INTERNAL: every due event is queued, in the order of the list. -/
theorem fire_fst (list : List ScheduledEvent) (s : Schedule) :
    (fire list s).1 = list.map (·.toJSON) := by
  induction list generalizing s with
  | nil => rfl
  | cons e list ih => rw [fire, ih, List.map_cons]

/-- INTERNAL: what removing by id keeps, the whole loop keeps. -/
theorem fire_invariant {I : Schedule → Prop} (hI : ∀ s id, I s → I (s.removeEvent id))
    {list : List ScheduledEvent} {s : Schedule} (h : I s) : I (fire list s).2 := by
  induction list generalizing s with
  | nil => exact h
  | cons e list ih => exact ih (hI s e.mID h)

/-- INTERNAL: the events that have fired are no longer in the map. -/
theorem getElem?_fire (list : List ScheduledEvent) (s : Schedule) (id : ℤ) :
    (fire list s).2.mEventList[id]? =
      if id ∈ list.map (·.mID) then none else s.mEventList[id]? := by
  induction list generalizing s with
  | nil => simp [fire]
  | cons e list ih =>
    rw [fire, ih, getElem?_removeEvent]
    simp only [List.map_cons, List.mem_cons]
    split <;> split <;> simp_all

/-- INTERNAL: the loop removes the listed ids. -/
theorem KeysMatch.contents_fire {list : List ScheduledEvent} {s : Schedule} (h : s.KeysMatch)
    (id : ℤ) : (fire list s).2.contents id =
      if id ∈ list.map (·.mID) then none else s.contents id := by
  induction list generalizing s with
  | nil => simp [fire]
  | cons e list ih =>
    rw [fire, ih (h.removeEvent e.mID), contents_removeEvent h]
    simp only [List.map_cons, List.mem_cons]
    split <;> split <;> simp_all

/-- INTERNAL: a tick leaves the events whose time has not come.
SOURCE: EventProcessor.cpp:189-201 -/
theorem KeysMatch.contents_processSchedule {s : Schedule} (h : s.KeysMatch) (t id : ℤ) :
    (s.processSchedule t).2.contents id =
      (s.contents id).filter fun e => decide (t < e.mTimeout) := by
  unfold processSchedule
  rw [h.contents_fire]
  cases he : s.contents id with
  | none => simp
  | some e =>
    have hdue : id ∈ (s.getDueEvents t).map (·.mID) ↔ e.mTimeout ≤ t := by
      rw [List.mem_map]
      constructor
      · rintro ⟨e', he', rfl⟩
        obtain ⟨hcontents, htime⟩ := h.mem_getDueEvents.mp he'
        rw [he] at hcontents
        obtain rfl := Option.some.inj hcontents
        exact htime
      · intro htime
        have hmID := h.mID he
        exact ⟨e, h.mem_getDueEvents.mpr ⟨hmID ▸ he, htime⟩, hmID⟩
    simp only [hdue, Option.filter_some, decide_eq_true_eq]
    split <;> split <;> first | rfl | omega

/-! ### Reading the database -/

section New

variable {text : JSONText} {mpDB : AList fun _ : CString => CString}
  {cursor : List (CString × UInt64)}

/-- INTERNAL: the constructor reads the last record last. -/
theorem new_append_singleton (record : CString × UInt64) :
    new text mpDB (cursor ++ [record]) =
      (new text mpDB cursor).readRecord text record.1 record.2 := by
  unfold new
  rw [List.foldl_append]
  rfl

/-- INTERNAL: the constructor keeps the database that it was given. -/
theorem mpDB_new : (new text mpDB cursor).mpDB = mpDB := by
  induction cursor using List.reverseRecOn with
  | nil => rfl
  | append_singleton cursor record ih =>
    rw [new_append_singleton]
    exact ih

/-- INTERNAL: the objects are those made from the records. SOURCE: Schedule.cpp:18-25 -/
theorem objects_new (haddress : (cursor.map (·.2)).Nodup) {p : UInt64} {e : ScheduledEvent} :
    (new text mpDB cursor).objects p = some e ↔
      ∃ data, (data, p) ∈ cursor ∧ readEvent text data = e := by
  induction cursor using List.reverseRecOn with
  | nil => simp [new]
  | append_singleton cursor record ih =>
    obtain ⟨data, this⟩ := record
    rw [List.map_append, List.nodup_append] at haddress
    have hne : ∀ data', (data', this) ∉ cursor := fun data' hmem =>
      haddress.2.2 this (List.mem_map.mpr ⟨(data', this), hmem, rfl⟩) this (by simp) rfl
    rw [new_append_singleton]
    show Function.update (new text mpDB cursor).objects this (some (readEvent text data)) p =
      some e ↔ _
    by_cases hp : p = this
    · subst hp
      simp [hne]
    · rw [Function.update_of_ne hp, ih haddress.1]
      simp [hp]

/-- INTERNAL: the entries lead from the id of a record to its object.
SOURCE: Schedule.cpp:18-25 -/
theorem getElem?_new (hids : (cursor.map fun record => (readEvent text record.1).mID).Nodup)
    {id : ℤ} {p : UInt64} :
    (new text mpDB cursor).mEventList[id]? = some p ↔
      ∃ data, (data, p) ∈ cursor ∧ (readEvent text data).mID = id := by
  induction cursor using List.reverseRecOn with
  | nil => simp [new]
  | append_singleton cursor record ih =>
    obtain ⟨data, this⟩ := record
    rw [List.map_append, List.nodup_append] at hids
    have hne : ∀ data' p', (data', p') ∈ cursor →
        (readEvent text data').mID ≠ (readEvent text data).mID := fun data' p' hmem =>
      hids.2.2 _ (List.mem_map.mpr ⟨(data', p'), hmem, rfl⟩) _ (by simp)
    rw [new_append_singleton]
    show ((new text mpDB cursor).mEventList.insert (readEvent text data).mID this)[id]? = some p ↔ _
    rw [Std.TreeMap.getElem?_insert]
    simp only [Std.LawfulEqCmp.compare_eq_iff_eq, List.mem_append, List.mem_singleton,
      Prod.mk.injEq]
    split
    case isTrue hid =>
      subst hid
      constructor
      · rintro ⟨⟩
        exact ⟨data, .inr ⟨rfl, rfl⟩, rfl⟩
      · rintro ⟨data', hmem | ⟨-, rfl⟩, heq⟩
        · exact absurd heq (hne data' p hmem)
        · rfl
    case isFalse hid =>
      rw [ih hids.1]
      constructor
      · rintro ⟨data', hmem, heq⟩
        exact ⟨data', .inl hmem, heq⟩
      · rintro ⟨data', hmem | ⟨rfl, -⟩, heq⟩
        · exact ⟨data', hmem, heq⟩
        · exact absurd heq hid

end New

end Schedule

end Dhas.Program
