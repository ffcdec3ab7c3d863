import Dhas.Library.Run
import Dhas.Library.Trace
import Dhas.Program.Schedule

/-!
# Runs of the schedule

The REST callbacks add and remove events and the timer fires the due ones, in any order. The
record of what happened and the time at which each object was constructed are kept beside
the schedule. `RESTInterface.cpp:103-117`, `EventProcessor.cpp:189-201`.

A restart ends the process and constructs the schedule anew from the database.
-/

set_option autoImplicit false

namespace Dhas.Model

open Dhas.Library Dhas.Program

namespace ScheduleRun

/-- What is recorded. -/
inductive Event where
  | added (p : UInt64) (e : ScheduledEvent)
  | removeCalled (id : ℤ)
  | fired (t : ℤ) (p : UInt64) (e : ScheduledEvent)
  deriving DecidableEq

inductive Act where
  | tick (seconds : ℕ)
  -- `new ScheduledEvent(name, p, atoi(min), atoi(hour))` at the address `this`
  | construct (this : UInt64) (name param min hour : CString)
  | addEvent (pEvent : UInt64)
  | removeEvent (id : ℤ)
  | processSchedule (t : ℤ)

/-- A step of the running process, or its restart. -/
inductive LifeAct where
  | act (a : Act)
  | restart (cursor : List (CString × UInt64))

end ScheduleRun

/-- The schedule, the time, the messages passed to `processEvent`, and beside them the time
at which the object at an address was constructed and the record. -/
structure ScheduleRun where
  schedule : Schedule
  now : ℤ
  messages : List JSON
  born : UInt64 → ℤ
  trace : List ScheduleRun.Event

namespace ScheduleRun

/-- The process starts with an empty database. -/
def initial (now : ℤ) : ScheduleRun where
  schedule := ⟨fun _ => none, ∅, ∅⟩
  now := now
  messages := []
  born := fun _ => now
  trace := []

/-- The due events with their addresses. -/
def dueObjects (s : Schedule) (t : ℤ) : List (UInt64 × ScheduledEvent) :=
  s.mEventList.toList.filterMap fun entry =>
    ((s.objects entry.2).filter (·.isDue t)).map fun e => (entry.2, e)

/-- One call, taken as one step. -/
def step (zone : TimeZone) (text : JSONText) (s : ScheduleRun) : Act → Option ScheduleRun
  | .tick seconds => some { s with now := s.now + seconds }
  | .construct this name param min hour =>
    if (s.schedule.objects this).isNone then
      let pEvent := ScheduledEvent.new zone this s.now name param (atoi min) (atoi hour)
      some { s with
        schedule := { s.schedule with
          objects := Function.update s.schedule.objects this (some pEvent) }
        born := Function.update s.born this s.now }
    else none
  | .addEvent pEvent => do
    let e ← s.schedule.objects pEvent
    return { s with
      schedule := s.schedule.addEvent text pEvent
      trace := s.trace ++ [.added pEvent e] }
  | .removeEvent id =>
    some { s with
      schedule := s.schedule.removeEvent id
      trace := s.trace ++ [.removeCalled id] }
  | .processSchedule t =>
    some { s with
      schedule := (s.schedule.processSchedule t).2
      messages := s.messages ++ (s.schedule.processSchedule t).1
      trace := s.trace ++ (dueObjects s.schedule t).map fun due => .fired t due.1 due.2 }

/-- The cursor returns every record once, and the objects made from them have different
addresses. -/
def Reads (mpDB : AList fun _ : CString => CString) (cursor : List (CString × UInt64)) : Prop :=
  (cursor.map (·.1)).Perm (mpDB.entries.map (·.2)) ∧ (cursor.map (·.2)).Nodup

instance (mpDB : AList fun _ : CString => CString) (cursor : List (CString × UInt64)) :
    Decidable (Reads mpDB cursor) := inferInstanceAs (Decidable (_ ∧ _))

/-- One call of the running process, or a restart. -/
def lifeStep (zone : TimeZone) (text : JSONText) (s : ScheduleRun) : LifeAct → Option ScheduleRun
  | .act a => step zone text s a
  | .restart cursor =>
    if Reads s.schedule.mpDB cursor then
      some { s with schedule := Schedule.new text s.schedule.mpDB cursor }
    else none

/-- INTERNAL: the due events are those of `getDueEvents`. -/
theorem map_snd_dueObjects (s : Schedule) (t : ℤ) :
    (dueObjects s t).map (·.2) = s.getDueEvents t := by
  unfold dueObjects Schedule.getDueEvents
  rw [List.map_filterMap]
  congr 1
  funext entry
  rw [Option.map_map]
  exact Option.map_id'

/-- INTERNAL: the due objects are those of the map whose time has come. -/
theorem mem_dueObjects {s : Schedule} {t : ℤ} {p : UInt64} {e : ScheduledEvent} :
    (p, e) ∈ dueObjects s t ↔
      (∃ id : ℤ, s.mEventList[id]? = some p) ∧ s.objects p = some e ∧ e.mTimeout ≤ t := by
  unfold dueObjects ScheduledEvent.isDue
  simp only [List.mem_filterMap, Option.map_eq_some_iff, Option.filter_eq_some_iff,
    decide_eq_true_eq, Prod.mk.injEq]
  constructor
  · rintro ⟨⟨id, q⟩, hmem, e', ⟨he, hdue⟩, rfl, rfl⟩
    exact ⟨⟨id, Std.TreeMap.mem_toList_iff_getElem?_eq_some.mp hmem⟩, he, hdue⟩
  · rintro ⟨⟨id, hp⟩, he, hdue⟩
    exact ⟨(id, p), Std.TreeMap.mem_toList_iff_getElem?_eq_some.mpr hp, e, ⟨he, hdue⟩, rfl, rfl⟩

/-- INTERNAL: what the steps can do. -/
theorem step_cases {zone : TimeZone} {text : JSONText} {s s' : ScheduleRun} {a : Act}
    (h : step zone text s a = some s') :
    (∃ seconds, a = .tick seconds ∧ s' = { s with now := s.now + (seconds : ℕ) }) ∨
    (∃ this name param min hour, a = .construct this name param min hour ∧
      s.schedule.objects this = none ∧
      s' = { s with
        schedule := { s.schedule with
          objects := Function.update s.schedule.objects this
            (some (ScheduledEvent.new zone this s.now name param (atoi min) (atoi hour))) }
        born := Function.update s.born this s.now }) ∨
    (∃ p e, a = .addEvent p ∧ s.schedule.objects p = some e ∧
      s' = { s with
        schedule := s.schedule.addEvent text p
        trace := s.trace ++ [.added p e] }) ∨
    (∃ id, a = .removeEvent id ∧
      s' = { s with
        schedule := s.schedule.removeEvent id
        trace := s.trace ++ [.removeCalled id] }) ∨
    (∃ t, a = .processSchedule t ∧
      s' = { s with
        schedule := (s.schedule.processSchedule t).2
        messages := s.messages ++ (s.schedule.processSchedule t).1
        trace := s.trace ++ (dueObjects s.schedule t).map fun due => .fired t due.1 due.2 }) := by
  cases a with
  | tick seconds => exact .inl ⟨seconds, rfl, (Option.some.inj h).symm⟩
  | construct this name param min hour =>
    rw [step, Option.ite_none_right_eq_some] at h
    refine .inr (.inl ⟨this, name, param, min, hour, rfl, ?_, (Option.some.inj h.2).symm⟩)
    exact Option.isNone_iff_eq_none.mp h.1
  | addEvent p =>
    simp only [step, Option.bind_eq_bind, Option.bind_eq_some_iff] at h
    obtain ⟨e, he, hs⟩ := h
    exact .inr (.inr (.inl ⟨p, e, rfl, he, (Option.some.inj hs).symm⟩))
  | removeEvent id => exact .inr (.inr (.inr (.inl ⟨id, rfl, (Option.some.inj h).symm⟩)))
  | processSchedule t => exact .inr (.inr (.inr (.inr ⟨t, rfl, (Option.some.inj h).symm⟩)))

end ScheduleRun

end Dhas.Model
