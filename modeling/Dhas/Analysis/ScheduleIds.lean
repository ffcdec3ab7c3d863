import Dhas.Model.ScheduleRun

/-!
# The ids of scheduled events

The id of an event is its address plus the time of its construction, both cut to 32 bits,
and it is the key in the map and in the database. Two pending events with one id: the second
takes the place of the first.
-/

set_option autoImplicit false

namespace Dhas.Analysis

open Dhas.Library Dhas.Program Dhas.Model
open Dhas.Model.ScheduleRun

/-- The event was added, and since then its own id has not been passed to `removeEvent` and
it has not been fired. -/
def StillPending (s : ScheduleRun) (p : UInt64) (e : ScheduledEvent) : Prop :=
  Since (fun _ x => x = .added p e)
    (fun x => x ≠ .removeCalled e.mID ∧ ∀ t, x ≠ .fired t p e) s.trace

/-- Every pending event is in `mEventList`, under its id. -/
def NoneLost (s : ScheduleRun) : Prop :=
  ∀ p e, StillPending s p e →
    s.schedule.mEventList[e.mID]? = some p ∧ s.schedule.objects p = some e

/-- Address and construction time of an added event differ in sum, modulo `2 ^ 32`, from
those of every other event in the map. -/
def FreshId (s : ScheduleRun) : Act → Prop
  | .addEvent p => ∀ (id : ℤ) (q : UInt64), s.schedule.mEventList[id]? = some q → q ≠ p →
      (q.toNat + s.born q) % 2 ^ 32 ≠ (p.toNat + s.born p) % 2 ^ 32
  | _ => True

/-- INTERNAL: two ids are equal when the sums agree modulo `2 ^ 32`.
SOURCE: ScheduledEvent.cpp:10-13 -/
theorem toInt_add_toInt_inj {a b c d : ℤ} :
    toInt (toInt a + toInt b) = toInt (toInt c + toInt d) ↔
      (a + b) % 2 ^ 32 = (c + d) % 2 ^ 32 := by
  unfold toInt
  rw [Int.bmod_add_bmod, Int.add_bmod_bmod, Int.bmod_add_bmod, Int.add_bmod_bmod,
    Int.bmod_def, Int.bmod_def]
  split <;> split <;> omega

/-- What every run keeps. -/
structure Tracked (s : ScheduleRun) : Prop where
  keys : s.schedule.KeysMatch
  born : ∀ p e, s.schedule.objects p = some e →
    e.mID = toInt (toInt p.toNat + toInt (s.born p))
  pending : ∀ (id : ℤ) p e, s.schedule.mEventList[id]? = some p →
    s.schedule.objects p = some e → StillPending s p e

/-- INTERNAL: at first no event is scheduled. -/
theorem tracked_initial (now : ℤ) : Tracked (initial now) where
  keys id p hp := by simp [initial] at hp
  born p e he := by cases he
  pending id p e hp := by simp [initial] at hp

/-- INTERNAL: what the trace of a new event means for a pending one. -/
theorem stillPending_append_singleton {s s' : ScheduleRun} {x : Event} {p : UInt64}
    {e : ScheduledEvent} (htrace : s'.trace = s.trace ++ [x]) :
    StillPending s' p e ↔ x = .added p e ∨
      (StillPending s p e ∧ x ≠ .removeCalled e.mID ∧ ∀ t, x ≠ .fired t p e) := by
  unfold StillPending
  rw [htrace, since_append_singleton]

/-- INTERNAL: a tick ends the pending of the events that it fires.
SOURCE: EventProcessor.cpp:189-201 -/
theorem stillPending_processSchedule {s s' : ScheduleRun} {t : ℤ} {p : UInt64} {e : ScheduledEvent}
    (htrace : s'.trace =
      s.trace ++ (dueObjects s.schedule t).map fun due => Event.fired t due.1 due.2) :
    StillPending s' p e ↔ StillPending s p e ∧ (p, e) ∉ dueObjects s.schedule t := by
  unfold StillPending
  rw [htrace, since_append_iff]
  · apply and_congr_right'
    simp only [List.forall_mem_map]
    constructor
    · intro h hmem
      exact (h (p, e) hmem).2 t rfl
    · intro h due hdue
      refine ⟨by simp, ?_⟩
      rintro t' ⟨⟩
      exact h hdue
  · simp only [List.forall_mem_map]
    intro due _ _ h
    cases h

/-- INTERNAL: what a tick leaves in the map. -/
theorem getElem?_processSchedule {s : Schedule} (h : s.KeysMatch) (t id : ℤ) (p : UInt64) :
    (s.processSchedule t).2.mEventList[id]? = some p ↔
      s.mEventList[id]? = some p ∧ ∀ e, (p, e) ∉ dueObjects s t := by
  unfold Schedule.processSchedule
  rw [Schedule.getElem?_fire]
  constructor
  · intro hp
    split at hp
    case isTrue => cases hp
    case isFalse hid =>
      refine ⟨hp, fun e hmem => hid ?_⟩
      obtain ⟨-, he, -⟩ := mem_dueObjects.mp hmem
      have hcontents : s.contents id = some e := Schedule.contents_eq_some.mpr ⟨p, hp, he⟩
      rw [← map_snd_dueObjects, List.map_map]
      exact List.mem_map.mpr ⟨(p, e), hmem, h.mID hcontents⟩
  · rintro ⟨hp, hdue⟩
    rw [if_neg, hp]
    intro hid
    obtain ⟨e, he, hmID⟩ := List.mem_map.mp hid
    obtain ⟨hcontents, htime⟩ := h.mem_getDueEvents.mp he
    rw [hmID] at hcontents
    obtain ⟨q, hq, hobject⟩ := Schedule.contents_eq_some.mp hcontents
    rw [hp] at hq
    obtain rfl := Option.some.inj hq
    exact hdue e (mem_dueObjects.mpr ⟨⟨id, hp⟩, hobject, htime⟩)

/-- INTERNAL: removing by id deletes only objects that leave the map. -/
theorem keysMatch_processSchedule {s : Schedule} (h : s.KeysMatch) (t : ℤ) :
    (s.processSchedule t).2.KeysMatch :=
  Schedule.fire_invariant (fun _ id hs => hs.removeEvent id) h

/-- INTERNAL: the objects that stay in the map are not touched. -/
theorem objects_processSchedule {s : Schedule} (h : s.KeysMatch) {t id : ℤ} {p : UInt64}
    (hp : (s.processSchedule t).2.mEventList[id]? = some p) :
    (s.processSchedule t).2.objects p = s.objects p := by
  obtain ⟨e, he, -⟩ := keysMatch_processSchedule h t id p hp
  have hcontents : (s.processSchedule t).2.contents id = some e :=
    Schedule.contents_eq_some.mpr ⟨p, hp, he⟩
  unfold Schedule.processSchedule at hcontents
  rw [h.contents_fire] at hcontents
  split at hcontents
  case isTrue => cases hcontents
  case isFalse =>
    obtain ⟨q, hq, hobject⟩ := Schedule.contents_eq_some.mp hcontents
    rw [((getElem?_processSchedule h t id p).mp hp).1] at hq
    obtain rfl := Option.some.inj hq
    rw [he, hobject]

/-- INTERNAL: a tick makes no objects. -/
theorem objects_of_processSchedule {s : Schedule} {t : ℤ} {p : UInt64} {e : ScheduledEvent}
    (he : (s.processSchedule t).2.objects p = some e) : s.objects p = some e := by
  have hkept : ∀ p e, (s.processSchedule t).2.objects p = some e → s.objects p = some e := by
    apply Schedule.fire_invariant
      (I := fun s' => ∀ p e, s'.objects p = some e → s.objects p = some e)
    · intro s' id h p e he
      rw [Schedule.objects_removeEvent] at he
      split at he
      case isTrue => cases he
      case isFalse => exact h p e he
    · exact fun p e he => he
  exact hkept p e he

section Steps

variable {zone : TimeZone} {text : JSONText} {s s' : ScheduleRun} {a : Act}

/-- INTERNAL: a new object has the id of its constructor, and no event in the map is at its
address. SOURCE: ScheduledEvent.cpp:10-13 -/
theorem Tracked.construct (h : Tracked s) {this : UInt64} (hfree : s.schedule.objects this = none)
    (name param : CString) (min hour : ℤ) :
    Tracked { s with
      schedule := { s.schedule with
        objects := Function.update s.schedule.objects this
          (some (ScheduledEvent.new zone this s.now name param min hour)) }
      born := Function.update s.born this s.now } where
  keys id q hq := by
    dsimp only
    rw [Function.update_of_ne (h.keys.ne_of_free hfree hq)]
    exact h.keys id q hq
  born q e he := by
    dsimp only at he ⊢
    by_cases hthis : q = this
    · subst hthis
      rw [Function.update_self] at he ⊢
      rw [← Option.some.inj he, ScheduledEvent.mID_new]
    · rw [Function.update_of_ne hthis] at he ⊢
      exact h.born q e he
  pending id q e hq he := by
    dsimp only at he
    rw [Function.update_of_ne (h.keys.ne_of_free hfree hq)] at he
    exact h.pending id q e hq he

/-- INTERNAL: the added event is pending, and so are the others. SOURCE: Schedule.cpp:38-58 -/
theorem Tracked.addEvent (h : Tracked s) {p : UInt64} {e : ScheduledEvent}
    (he : s.schedule.objects p = some e) :
    Tracked { s with
      schedule := s.schedule.addEvent text p
      trace := s.trace ++ [.added p e] } where
  keys := h.keys.addEvent he
  born q e' he' := by
    dsimp only at he'
    rw [Schedule.objects_addEvent he] at he'
    exact h.born q e' he'
  pending id q e' hq he' := by
    dsimp only at hq he'
    rw [Schedule.getElem?_addEvent he] at hq
    rw [Schedule.objects_addEvent he] at he'
    rw [stillPending_append_singleton rfl]
    split at hq
    case isTrue =>
      obtain rfl := Option.some.inj hq
      rw [he] at he'
      obtain rfl := Option.some.inj he'
      exact .inl rfl
    case isFalse =>
      exact .inr ⟨h.pending id q e' hq he', Event.noConfusion, fun _ => Event.noConfusion⟩

/-- INTERNAL: what stays in the map has another id, so it stays pending.
SOURCE: Schedule.cpp:60-83 -/
theorem Tracked.removeEvent (h : Tracked s) (id : ℤ) :
    Tracked { s with
      schedule := s.schedule.removeEvent id
      trace := s.trace ++ [.removeCalled id] } where
  keys := h.keys.removeEvent id
  born q e he := by
    dsimp only at he
    rw [Schedule.objects_removeEvent] at he
    split at he
    case isTrue => cases he
    case isFalse => exact h.born q e he
  pending id' q e hq he := by
    dsimp only at hq he
    rw [Schedule.getElem?_removeEvent] at hq
    rw [Schedule.objects_removeEvent] at he
    split at hq
    case isTrue => cases hq
    case isFalse hid =>
      split at he
      case isTrue => cases he
      case isFalse =>
        have hmID := h.keys.mID (Schedule.contents_eq_some.mpr ⟨q, hq, he⟩)
        rw [stillPending_append_singleton rfl]
        refine .inr ⟨h.pending id' q e hq he, ?_, fun _ => Event.noConfusion⟩
        rintro ⟨⟩
        exact hid hmID.symm

/-- INTERNAL: what is not due stays in the map and stays pending.
SOURCE: EventProcessor.cpp:189-201 -/
theorem Tracked.processSchedule (h : Tracked s) (t : ℤ) :
    Tracked { s with
      schedule := (s.schedule.processSchedule t).2
      messages := s.messages ++ (s.schedule.processSchedule t).1
      trace := s.trace ++ (dueObjects s.schedule t).map fun due => .fired t due.1 due.2 } where
  keys := keysMatch_processSchedule h.keys t
  born q e he := h.born q e (objects_of_processSchedule he)
  pending id q e hq he := by
    dsimp only at hq he
    rw [objects_processSchedule h.keys hq] at he
    obtain ⟨hmap, hdue⟩ := (getElem?_processSchedule h.keys t id q).mp hq
    exact (stillPending_processSchedule rfl).mpr ⟨h.pending id q e hmap he, hdue e⟩

/-- INTERNAL: the ids stay what the constructor made them, and what is in the map is
pending. -/
theorem step_tracked (h : Tracked s) (hstep : step zone text s a = some s') : Tracked s' := by
  obtain ⟨seconds, -, rfl⟩ | ⟨this, name, param, min, hour, -, hfree, rfl⟩ | ⟨p, e, -, he, rfl⟩ |
    ⟨id, -, rfl⟩ | ⟨t, -, rfl⟩ := step_cases hstep
  · exact ⟨h.keys, h.born, h.pending⟩
  · exact h.construct hfree name param (atoi min) (atoi hour)
  · exact h.addEvent he
  · exact h.removeEvent id
  · exact h.processSchedule t

/-- INTERNAL: a step loses a pending event only by adding another one with its id. -/
theorem step_noneLost (h : Tracked s) (hlost : NoneLost s) (hfresh : FreshId s a)
    (hstep : step zone text s a = some s') : NoneLost s' := by
  obtain ⟨seconds, -, rfl⟩ | ⟨this, name, param, min, hour, -, hfree, rfl⟩ | ⟨p, e, rfl, he, rfl⟩ |
    ⟨id, -, rfl⟩ | ⟨t, -, rfl⟩ := step_cases hstep
  · exact hlost
  · intro q e hq
    obtain ⟨hmap, he⟩ := hlost q e hq
    refine ⟨hmap, ?_⟩
    have hne : q ≠ this := by
      rintro rfl
      rw [hfree] at he
      cases he
    dsimp only
    rw [Function.update_of_ne hne]
    exact he
  · intro q e' hq
    dsimp only
    rw [Schedule.getElem?_addEvent he, Schedule.objects_addEvent he]
    rcases (stillPending_append_singleton rfl).mp hq with heq | ⟨hq, -, -⟩
    · cases heq
      exact ⟨if_pos rfl, he⟩
    · obtain ⟨hmap, he'⟩ := hlost q e' hq
      refine ⟨?_, he'⟩
      split
      case isTrue hid =>
        -- equal ids: by the condition it is the same object
        by_contra hne
        apply hfresh e'.mID q hmap fun hqp => hne (congrArg some hqp.symm)
        rw [← toInt_add_toInt_inj, ← h.born q e' he', ← h.born p e he, hid]
      case isFalse => exact hmap
  · intro q e hq
    rcases (stillPending_append_singleton rfl).mp hq with heq | ⟨hq, hid, -⟩
    · cases heq
    · obtain ⟨hmap, he⟩ := hlost q e hq
      have hne : e.mID ≠ id := fun heq => hid (congrArg Event.removeCalled heq.symm)
      dsimp only
      rw [Schedule.getElem?_removeEvent, if_neg hne, Schedule.objects_removeEvent, if_neg]
      · exact ⟨hmap, he⟩
      · exact fun hidq => hne (h.keys.injective hmap hidq)
  · intro q e hq
    obtain ⟨hq, hdue⟩ := (stillPending_processSchedule rfl).mp hq
    obtain ⟨hmap, he⟩ := hlost q e hq
    have hmap' : (s.schedule.processSchedule t).2.mEventList[e.mID]? = some q := by
      rw [getElem?_processSchedule h.keys]
      refine ⟨hmap, fun e' he' => ?_⟩
      rw [(mem_dueObjects.mp he').2.1] at he
      obtain rfl := Option.some.inj he
      exact hdue he'
    refine ⟨hmap', ?_⟩
    dsimp only
    rw [objects_processSchedule h.keys hmap', he]

/-- INTERNAL: two events with one id are in the map only when they are the same. -/
theorem freshId_of_noneLost (h : Tracked s) (hstep : step zone text s a = some s')
    (hlost : NoneLost s') : FreshId s a := by
  cases a with
  | addEvent p =>
    obtain ⟨e, he, rfl⟩ : ∃ e, s.schedule.objects p = some e ∧
        s' = { s with
          schedule := s.schedule.addEvent text p
          trace := s.trace ++ [.added p e] } := by
      simpa using step_cases hstep
    intro id q hq hqp hsum
    obtain ⟨e', he', rfl⟩ := h.keys id q hq
    have hpending := h.pending e'.mID q e' hq he'
    have hid : e'.mID = e.mID := by
      rw [h.born q e' he', h.born p e he, toInt_add_toInt_inj]
      exact hsum
    have hmap := (hlost q e' ((stillPending_append_singleton rfl).mpr
      (.inr ⟨hpending, Event.noConfusion, fun _ => Event.noConfusion⟩))).1
    dsimp only at hmap
    rw [Schedule.getElem?_addEvent he, if_pos hid] at hmap
    exact hqp (Option.some.inj hmap).symm
  | tick | construct | removeEvent | processSchedule => trivial

end Steps

/-- INTERNAL: at first no event can be lost. -/
theorem noneLost_initial (now : ℤ) : NoneLost (initial now) :=
  fun _ _ h => absurd h not_since_nil

/-- **No scheduled event is lost exactly in the runs in which every added event differs from
all others in the map in the sum of its address and its construction time, modulo 2^32.**
SOURCE: ScheduledEvent.cpp:4-35, Schedule.cpp:38-83, RESTInterface.cpp:103-117 -/
theorem noneLost_throughout_iff (zone : TimeZone) (text : JSONText) (now : ℤ) (acts : List Act) :
    Throughout (step zone text) NoneLost (initial now) acts ↔
      Along (step zone text) FreshId (initial now) acts :=
  throughout_iff_along (I := fun s => Tracked s ∧ NoneLost s) (fun _ h => h.2)
    (fun _ _ _ h hfresh hstep => ⟨step_tracked h.1 hstep, step_noneLost h.1 h.2 hfresh hstep⟩)
    (fun _ _ _ h hstep hlost => freshId_of_noneLost h.1 hstep hlost)
    ⟨tracked_initial now, noneLost_initial now⟩

/-- An event is added, and 96 seconds later another one, whose address is smaller by 96. -/
def sameId : List Act :=
  [.construct 0x55d0c0ffe060 "lights".toList "off".toList "30".toList "23".toList,
    .addEvent 0x55d0c0ffe060, .tick 96,
    .construct 0x55d0c0ffe000 "pump".toList "on".toList "0".toList "6".toList,
    .addEvent 0x55d0c0ffe000]

/-- The first event is no longer in the map. SOURCE: ScheduledEvent.cpp:12-13 -/
theorem sameId_lost : ¬ Throughout (step utc plainText) NoneLost (initial 1700000000) sameId := by
  intro h
  have hend : NoneLost _ := h.last rfl
  have hlights := hend 0x55d0c0ffe060 _ ⟨[], _, _, rfl, rfl, by simp⟩
  exact absurd hlights.1 (by decide)

end Dhas.Analysis
