import Dhas.Program.RESTInterface
import Dhas.Analysis.ScheduleStore

/-!
# The listing of the scheduled events

A client sees the schedule through `/events/show` only, and removes an event by the id that it
read there. What the two promise together, in every state of every life of the process: the
listing shows each event once, an id that is given back takes exactly its object out of the
listing, an event that is added takes the place of one with its id, and a restart shows the
same listing, although the schedule that it restores may have other times.
-/

set_option autoImplicit false

namespace Dhas.Analysis.ListedEvents

open Dhas.Library Dhas.Program Dhas.Model Dhas.Program.RESTInterface
open Dhas.Model.ScheduleRun

/-- INTERNAL: an entry names the id of its event. -/
@[simp] theorem scheduledevent_id (e : ScheduledEvent) :
    (scheduledevent e).get "id" = some (.num e.mID) := rfl

/-- The object shows that id. -/
def HasId (id : ℤ) (entry : JSON) : Prop := entry.get "id" = some (.num id)

instance (id : ℤ) (entry : JSON) : Decidable (HasId id entry) :=
  inferInstanceAs (Decidable (_ = _))

/-- INTERNAL: an entry has the id of its event, and no other. -/
theorem hasId_scheduledevent {id : ℤ} {e : ScheduledEvent} :
    HasId id (scheduledevent e) ↔ e.mID = id := by
  unfold HasId
  rw [scheduledevent_id, Option.some.injEq, JSONValue.num.injEq]

/-- What `/events/show` shows of a schedule, and what the other requests do to it. -/
structure ListsEvents (zone : TimeZone) (text : JSONText) (s : Schedule) : Prop where
  /-- no two objects show the same id -/
  distinct : ((showevents_callback s).map fun entry => entry.get "id").Nodup
  /-- the objects are those of the events, with the ids that they are stored under -/
  complete : ∀ entry, entry ∈ showevents_callback s ↔
    ∃ id e, s.contents id = some e ∧ e.mID = id ∧ entry = scheduledevent e
  /-- an id of the listing that is given back takes its object out, and no other -/
  removed : ∀ (p : String → CString) (id : ℤ), ∀ entry ∈ showevents_callback s, HasId id entry →
    p "id" = decimal id →
      showevents_callback (removeevent_callback s p) = (showevents_callback s).erase entry
  /-- an event that is added is listed beside those with other ids -/
  added : ∀ (this : UInt64) (t : ℤ) (p : String → CString), s.objects this = none →
    ∃ entry id, HasId id entry ∧ entry.get "name" = some (.str (p "name")) ∧
      entry.get "param" = some (.str (p "p")) ∧
      (showevents_callback (addevent_callback zone text s this t p)).Perm
        (entry :: (showevents_callback s).filter fun other => ¬ HasId id other)
  /-- a restart shows the same listing -/
  restarted : ∀ cursor, Reads s.mpDB cursor →
    showevents_callback (Schedule.new text s.mpDB cursor) = showevents_callback s

section Listing

variable {s : Schedule}

instance : Std.Irrefl fun e e' : ScheduledEvent => e.mID < e'.mID where
  irrefl e := Int.lt_irrefl e.mID

/-- INTERNAL: an object at a free address is not listed before it is added. -/
theorem contents_construct {text : JSONText} (h : InStep text s) {this : UInt64}
    (hfree : s.objects this = none) (e : ScheduledEvent) (id : ℤ) :
    Schedule.contents { s with objects := Function.update s.objects this (some e) } id =
      s.contents id := by
  unfold Schedule.contents
  cases hid : s.mEventList[id]? with
  | none => simp
  | some q => simp [Function.update_of_ne (h.keys.ne_of_free hfree hid)]

/-- INTERNAL: the ids of the listing ascend. -/
theorem distinct_showevents (h : s.KeysMatch) :
    ((showevents_callback s).map fun entry => entry.get "id").Nodup := by
  unfold showevents_callback
  rw [List.map_map]
  apply List.pairwise_map.mpr
  apply h.pairwise_getAllEvents.imp
  intro e e' hlt heq
  have hid := JSONValue.num.inj (Option.some.inj heq)
  omega

/-- INTERNAL: no entry is listed twice. -/
theorem nodup_showevents (h : s.KeysMatch) : (showevents_callback s).Nodup :=
  (distinct_showevents h).of_map _

/-- INTERNAL: an entry is listed for each event that is scheduled. -/
theorem mem_showevents (h : s.KeysMatch) {entry : JSON} : entry ∈ showevents_callback s ↔
    ∃ id e, s.contents id = some e ∧ e.mID = id ∧ entry = scheduledevent e := by
  unfold showevents_callback
  rw [List.mem_map]
  constructor
  · rintro ⟨e, he, rfl⟩
    exact ⟨e.mID, e, h.mem_getAllEvents.mp he, rfl, rfl⟩
  · rintro ⟨id, e, he, rfl, rfl⟩
    exact ⟨e, h.mem_getAllEvents.mpr he, rfl⟩

/-- INTERNAL: the events without the one that is removed, in the same order.
SOURCE: Schedule.cpp:60-83 -/
theorem getAllEvents_removeEvent (h : s.KeysMatch) (id : ℤ) :
    (s.removeEvent id).getAllEvents = s.getAllEvents.filter fun e => e.mID ≠ id := by
  have hremoved := h.removeEvent id
  apply hremoved.pairwise_getAllEvents.eq_of_mem_iff (h.pairwise_getAllEvents.filter _)
  intro e
  rw [hremoved.mem_getAllEvents, List.mem_filter, h.mem_getAllEvents,
    Schedule.contents_removeEvent h]
  split
  case isTrue hid => simp [hid]
  case isFalse hid => simp [hid]

/-- INTERNAL: an id takes exactly its object out of the listing. -/
theorem showevents_removeEvent (h : s.KeysMatch) {id : ℤ} {entry : JSON}
    (hentry : entry ∈ showevents_callback s) (hid : HasId id entry) :
    showevents_callback (s.removeEvent id) = (showevents_callback s).erase entry := by
  obtain ⟨id', e, he, hmID, rfl⟩ := (mem_showevents h).mp hentry
  obtain rfl : id' = id := hmID.symm.trans (hasId_scheduledevent.mp hid)
  rw [(nodup_showevents h).erase_eq_filter]
  unfold showevents_callback
  rw [getAllEvents_removeEvent h, List.filter_map]
  congr 1
  apply List.filter_congr
  intro e' he'
  by_cases hother : e'.mID = id'
  · have hsame : e' = e := by
      have hcontents := h.mem_getAllEvents.mp he'
      rw [hother, he] at hcontents
      exact (Option.some.inj hcontents).symm
    simp [hsame, hmID]
  · have hne : scheduledevent e' ≠ scheduledevent e := by
      intro heq
      apply hother
      rw [← hasId_scheduledevent, heq, hasId_scheduledevent]
      exact hmID
    simp [hother, hne]

/-- INTERNAL: an event that is added is listed beside those with other ids.
SOURCE: Schedule.cpp:38-58 -/
theorem showevents_addEvent (text : JSONText) {p : UInt64} {e : ScheduledEvent}
    (h : s.KeysMatch) (he : s.objects p = some e) :
    (showevents_callback (s.addEvent text p)).Perm (scheduledevent e ::
      (showevents_callback s).filter fun other => ¬ HasId e.mID other) := by
  have hadded : (s.addEvent text p).KeysMatch := h.addEvent he
  have hnot : scheduledevent e ∉
      (showevents_callback s).filter fun other => ¬ HasId e.mID other := by
    simp [HasId]
  apply (List.perm_ext_iff_of_nodup (nodup_showevents hadded)
    (((nodup_showevents h).filter _).cons hnot)).mpr
  intro entry
  rw [mem_showevents hadded, List.mem_cons, List.mem_filter, mem_showevents h]
  simp only [Schedule.contents_addEvent he, decide_not, Bool.not_eq_true', decide_eq_false_iff_not]
  constructor
  · rintro ⟨id, e', he', hid, rfl⟩
    split at he'
    case isTrue =>
      obtain rfl := Option.some.inj he'
      exact .inl rfl
    case isFalse hne =>
      refine .inr ⟨⟨id, e', he', hid, rfl⟩, fun hmID => hne ?_⟩
      exact hid.symm.trans (hasId_scheduledevent.mp hmID)
  · rintro (rfl | ⟨⟨id, e', he', hid, rfl⟩, hne⟩)
    · exact ⟨e.mID, e, if_pos rfl, rfl, rfl⟩
    · refine ⟨id, e', ?_, hid, rfl⟩
      rw [if_neg fun heq => hne (hasId_scheduledevent.mpr (hid.trans heq)), he']

end Listing

section Restart

variable {zone : TimeZone} {text : JSONText} {s : Schedule}

/-- INTERNAL: a listing does not show what a restart forgets of a time.
SOURCE: RESTInterface.cpp:84-101, ScheduledEvent.cpp:37-45, 118-127 -/
theorem showevents_new (htext : text.RoundTrips) (h : InStep text s)
    {cursor : List (CString × UInt64)} (hreads : Reads s.mpDB cursor) :
    showevents_callback (Schedule.new text s.mpDB cursor) = showevents_callback s := by
  apply Schedule.getAllEvents_map_congr (h.restart htext hreads).keys h.keys
  intro id
  rw [h.contents_new htext hreads, Option.map_map]
  congr 1
  funext e
  simp only [Function.comp_apply, scheduledevent, reread, toUnsigned_toInt]

/-- INTERNAL: two stores in step are listed exactly. -/
theorem listsEvents_of_inStep (htext : text.RoundTrips) (h : InStep text s) :
    ListsEvents zone text s where
  distinct := distinct_showevents h.keys
  complete := fun _ => mem_showevents h.keys
  removed := by
    intro p id entry hentry hid hp
    obtain ⟨id', e, he, hmID, rfl⟩ := (mem_showevents h.keys).mp hentry
    have hint : toInt id = id := by
      rw [← hasId_scheduledevent.mp hid]
      exact (h.intFields he).mID
    unfold removeevent_callback
    rw [hp, atoi_decimal_of_int hint]
    exact showevents_removeEvent h.keys hentry hid
  added := by
    intro this t p hfree
    unfold addevent_callback
    dsimp only
    generalize hnew : ScheduledEvent.new zone this t (p "name") (p "p") (atoi (p "min"))
      (atoi (p "hour")) = e
    have hints : IntFields e := by
      rw [← hnew]
      exact intFields_new _ _ _ _ _ _ _
    have hconstructed := h.construct hfree hints
    have hobject : Function.update s.objects this (some e) this = some e :=
      Function.update_self this (some e) s.objects
    have hperm := showevents_addEvent text hconstructed.keys hobject
    have hsame : showevents_callback { s with objects := Function.update s.objects this (some e) } =
        showevents_callback s := by
      apply Schedule.getAllEvents_map_congr hconstructed.keys h.keys
      intro id
      rw [contents_construct h hfree]
    rw [hsame] at hperm
    refine ⟨scheduledevent e, e.mID, hasId_scheduledevent.mpr rfl, ?_, ?_, hperm⟩
    · rw [← hnew]
      rfl
    · rw [← hnew]
      rfl
  restarted := fun _ hreads => showevents_new htext h hreads

end Restart

/-- **The listing is exact in every state of every life: each event is shown once, its id
removes it and nothing else, and a restart shows the same.**
SOURCE: RESTInterface.cpp:84-117, Schedule.cpp:6-83, 102-113 -/
theorem listsEvents_throughout (zone : TimeZone) (text : JSONText) (htext : text.RoundTrips)
    (now : ℤ) (acts : List LifeAct) :
    Throughout (lifeStep zone text) (fun s => ListsEvents zone text s.schedule) (initial now)
      acts := by
  apply throughout_invariant (I := fun s => InStep text s.schedule)
  · exact fun s h => listsEvents_of_inStep htext h
  · exact fun s a s' h hstep => lifeStep_inStep htext h hstep
  · exact inStep_initial text now

/-- Two events are added, and one of them is removed. -/
def twoPumps : List LifeAct :=
  [.act (.construct 0x55d0c0ffe060 "pump".toList "on".toList "0".toList "6".toList),
    .act (.addEvent 0x55d0c0ffe060),
    .act (.construct 0x55d0c0ffe100 "pump".toList "off".toList "30".toList "6".toList),
    .act (.addEvent 0x55d0c0ffe100), .act (.removeEvent 643027296)]

/-- The listing is exact with the notation that the program uses. -/
theorem listsEvents_twoPumps :
    Throughout (lifeStep utc plainText) (fun s => ListsEvents utc plainText s.schedule)
      (initial 1700000000) twoPumps :=
  listsEvents_throughout utc plainText plainText_roundTrips 1700000000 twoPumps

end Dhas.Analysis.ListedEvents
