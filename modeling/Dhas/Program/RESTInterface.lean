import Dhas.Program.Schedule
import Mathlib.Data.List.Sort

/-!
# The schedule over REST

`RESTInterface.cpp:84-117`: the callbacks of `/events/show`, `/events/add` and `/events/remove`,
with `Schedule::getAllEvents` behind the first. The listing is determined by what the schedule
holds under each id.
-/

set_option autoImplicit false

namespace Dhas.Program

namespace Schedule

/-- The events in the order of `mEventList`. -/
def getAllEvents (s : Schedule) : List ScheduledEvent :=
  s.mEventList.toList.filterMap fun entry => s.objects entry.2

end Schedule

/-! ## The callbacks -/

namespace RESTInterface

/-- The object `scheduledevent` of the listing. -/
def scheduledevent (event : ScheduledEvent) : JSON :=
  [("id", .num event.mID), ("name", .str event.mName), ("param", .str event.mParam),
    ("minute", .num event.mMinute), ("hour", .num event.mHour),
    ("timeout", .num (toUnsigned event.mTimeout))]

/-- The list `events`. -/
def showevents_callback (s : Schedule) : List JSON := s.getAllEvents.map scheduledevent

/-- The event is constructed at a free address at time `t`, and added. -/
def addevent_callback (zone : TimeZone) (text : JSONText) (s : Schedule) (this : UInt64) (t : ℤ)
    (p : String → CString) : Schedule :=
  let pEvent := ScheduledEvent.new zone this t (p "name") (p "p") (atoi (p "min")) (atoi (p "hour"))
  { s with objects := Function.update s.objects this (some pEvent) }.addEvent text this

def removeevent_callback (s : Schedule) (p : String → CString) : Schedule :=
  s.removeEvent (atoi (p "id"))

end RESTInterface

/-! ## What is listed -/

namespace Schedule

/-- INTERNAL: the events are listed by their ids, in ascending order.
SOURCE: Schedule.cpp:102-113 -/
theorem getAllEvents_eq (s : Schedule) :
    s.getAllEvents = s.mEventList.keys.filterMap s.contents := by
  unfold getAllEvents
  rw [← Std.TreeMap.map_fst_toList_eq_keys, List.filterMap_map]
  apply List.filterMap_congr
  rintro ⟨id, p⟩ hmem
  have hp := Std.TreeMap.mem_toList_iff_getElem?_eq_some.mp hmem
  simp [contents, hp]

/-- INTERNAL: the events are listed by increasing id. -/
theorem ordered_ids (s : Schedule) : s.mEventList.keys.Pairwise (· < ·) :=
  Std.TreeMap.ordered_keys.imp fun h => Int.compare_eq_lt.mp h

/-- INTERNAL: the ids of the map are those that an event is scheduled under. -/
theorem KeysMatch.mem_keys {s : Schedule} (h : s.KeysMatch) {id : ℤ} :
    id ∈ s.mEventList.keys ↔ (s.contents id).isSome := by
  rw [h.contents_isSome, Std.TreeMap.mem_keys, Std.TreeMap.mem_iff_isSome_getElem?]

/-- INTERNAL: the events that are listed are those that are scheduled. -/
theorem KeysMatch.mem_getAllEvents {s : Schedule} (h : s.KeysMatch) {e : ScheduledEvent} :
    e ∈ s.getAllEvents ↔ s.contents e.mID = some e := by
  rw [getAllEvents_eq, List.mem_filterMap]
  constructor
  · rintro ⟨id, -, he⟩
    rw [h.mID he]
    exact he
  · intro he
    exact ⟨e.mID, h.mem_keys.mpr (by rw [he]; rfl), he⟩

/-- INTERNAL: no two events of the list have the same id. -/
theorem KeysMatch.pairwise_getAllEvents {s : Schedule} (h : s.KeysMatch) :
    s.getAllEvents.Pairwise fun e e' => e.mID < e'.mID := by
  rw [getAllEvents_eq, List.pairwise_filterMap]
  apply s.ordered_ids.imp
  intro id id' hlt e he e' he'
  rw [h.mID he, h.mID he']
  exact hlt

/-- INTERNAL: two schedules that hold the same under every id, up to what `f` forgets, list the
same. -/
theorem getAllEvents_map_congr {β : Type} {s s' : Schedule} (h : s.KeysMatch) (h' : s'.KeysMatch)
    (f : ScheduledEvent → β) (hsame : ∀ id, (s.contents id).map f = (s'.contents id).map f) :
    s.getAllEvents.map f = s'.getAllEvents.map f := by
  have hkeys : s.mEventList.keys = s'.mEventList.keys := by
    apply s.ordered_ids.eq_of_mem_iff s'.ordered_ids
    intro id
    have hsome := congrArg Option.isSome (hsame id)
    rw [Option.isSome_map, Option.isSome_map] at hsome
    rw [h.mem_keys, h'.mem_keys, hsome]
  rw [getAllEvents_eq, getAllEvents_eq, List.map_filterMap, List.map_filterMap, hkeys]
  exact List.filterMap_congr fun id _ => hsame id

end Schedule

end Dhas.Program
