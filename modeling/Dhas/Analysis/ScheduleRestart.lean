import Dhas.Analysis.ScheduleStore

/-!
# A restart restores the schedule

Name, parameter, minute, hour and id of an event come back as they were. The timeout comes
back when it fits an `int`: it is written as an `unsigned int` and read with `atoi`.
-/

set_option autoImplicit false

namespace Dhas.Analysis

open Dhas.Library Dhas.Program Dhas.Model
open Dhas.Model.ScheduleRun

/-- Two events agree in everything that is stored beside the id. -/
structure SameEvent (e e' : ScheduledEvent) : Prop where
  mName : e.mName = e'.mName
  mParam : e.mParam = e'.mParam
  mMinute : e.mMinute = e'.mMinute
  mHour : e.mHour = e'.mHour
  mTimeout : e.mTimeout = e'.mTimeout

/-- Two schedules have the same ids, and the same event under each. -/
def SameSchedule (restored running : Schedule) : Prop :=
  ∀ id : ℤ, restored.mEventList[id]?.isSome = running.mEventList[id]?.isSome ∧
    ∀ e e', restored.contents id = some e → running.contents id = some e' → SameEvent e e'

/-- A schedule constructed from the database now, in whatever order the cursor returns the
records, is the same. -/
def Restores (text : JSONText) (s : ScheduleRun) : Prop :=
  ∀ cursor, Reads s.schedule.mpDB cursor →
    SameSchedule (Schedule.new text s.schedule.mpDB cursor) s.schedule

/-- The timeout of an added event fits a signed 32-bit `int`. -/
def TimeoutFits (s : ScheduleRun) : LifeAct → Prop
  | .act (.addEvent p) => ∀ e, s.schedule.objects p = some e →
      -(2 ^ 31) ≤ e.mTimeout ∧ e.mTimeout < 2 ^ 31
  | _ => True

/-- Every stored timeout comes back from a restart. -/
def TimeoutsKept (s : Schedule) : Prop :=
  ∀ id e, s.contents id = some e → toInt e.mTimeout = e.mTimeout

/-- INTERNAL: only the values of an int are not cut. -/
theorem toInt_eq_self_iff {v : ℤ} : toInt v = v ↔ -(2 ^ 31) ≤ v ∧ v < 2 ^ 31 := by
  constructor
  · intro h
    have hrange := toInt_range v
    omega
  · rintro ⟨hlow, hhigh⟩
    exact toInt_eq_self hlow hhigh

section Restores

variable {text : JSONText} {s : Schedule}

/-- INTERNAL: the database can be read, for instance with the addresses that are in use. -/
theorem InStep.exists_reads (h : InStep text s) : ∃ cursor, Reads s.mpDB cursor := by
  refine ⟨s.mpDB.entries.map fun record => (record.2, s.mEventList[atoi record.1]?.getD 0), ?_, ?_⟩
  · rw [List.map_map]
    exact List.Perm.refl _
  · rw [List.map_map]
    refine List.Nodup.map_on ?_ s.mpDB.nodupKeys.nodup
    intro record hrecord record' hrecord' heq
    obtain ⟨e, he, hkey, -⟩ := h.exists_of_mem_entries hrecord
    obtain ⟨e', he', hkey', -⟩ := h.exists_of_mem_entries hrecord'
    obtain ⟨p, hp, -⟩ := Schedule.contents_eq_some.mp he
    obtain ⟨p', hp', -⟩ := Schedule.contents_eq_some.mp he'
    have hid := atoi_decimal_of_int (h.intFields he).mID
    have hid' := atoi_decimal_of_int (h.intFields he').mID
    have haddress : p = p' := by
      simpa [hkey, hkey', hid, hid', hp, hp'] using heq
    have hmID := h.keys.injective hp (haddress ▸ hp')
    apply s.mpDB.nodupKeys.eq_of_fst_eq hrecord hrecord'
    rw [hkey, hkey', hmID]

/-- INTERNAL: a restart gives back the schedule exactly when it gives back the timeouts. -/
theorem InStep.sameSchedule_iff (htext : text.RoundTrips) (h : InStep text s)
    {cursor : List (CString × UInt64)} (hreads : Reads s.mpDB cursor) :
    SameSchedule (Schedule.new text s.mpDB cursor) s ↔ TimeoutsKept s := by
  have hcontents := h.contents_new htext hreads
  constructor
  · intro hsame id e he
    have hrestored : (Schedule.new text s.mpDB cursor).contents id = some (reread e) := by
      rw [hcontents, he]
      rfl
    exact ((hsame id).2 _ e hrestored he).mTimeout
  · intro hkept id
    refine ⟨?_, fun e e' he he' => ?_⟩
    · rw [← (h.restart htext hreads).keys.contents_isSome, ← h.keys.contents_isSome, hcontents,
        Option.isSome_map]
    · rw [hcontents, he'] at he
      obtain rfl := Option.some.inj he
      exact ⟨rfl, rfl, rfl, rfl, hkept id e' he'⟩

end Restores

section Steps

variable {zone : TimeZone} {text : JSONText} {s s' : ScheduleRun} {a : LifeAct}

/-- INTERNAL: **a restart restores the events when their timeouts are ints.** -/
theorem restores_iff (htext : text.RoundTrips) (h : InStep text s.schedule) :
    Restores text s ↔ TimeoutsKept s.schedule := by
  constructor
  · intro hrestores
    obtain ⟨cursor, hreads⟩ := h.exists_reads
    exact (h.sameSchedule_iff htext hreads).mp (hrestores cursor hreads)
  · intro hkept cursor hreads
    exact (h.sameSchedule_iff htext hreads).mpr hkept

/-- INTERNAL: an event whose timeout fits is added without harm, and the other calls add
nothing. -/
theorem lifeStep_timeoutsKept (htext : text.RoundTrips) (h : InStep text s.schedule)
    (hkept : TimeoutsKept s.schedule) (hfits : TimeoutFits s a)
    (hstep : lifeStep zone text s a = some s') : TimeoutsKept s'.schedule := by
  cases a with
  | act a =>
    obtain ⟨seconds, -, rfl⟩ | ⟨this, name, param, min, hour, -, hfree, rfl⟩ | ⟨p, e, rfl, he, rfl⟩ |
      ⟨id, -, rfl⟩ | ⟨t, -, rfl⟩ := step_cases hstep
    · exact hkept
    · intro id e he
      apply hkept id e
      obtain ⟨p, hp, hobject⟩ := Schedule.contents_eq_some.mp he
      dsimp only at hp hobject
      rw [Function.update_of_ne (h.keys.ne_of_free hfree hp)] at hobject
      exact Schedule.contents_eq_some.mpr ⟨p, hp, hobject⟩
    · intro id e' he'
      rw [Schedule.contents_addEvent he] at he'
      split at he'
      case isTrue =>
        obtain rfl := Option.some.inj he'
        exact toInt_eq_self_iff.mpr (hfits e he)
      case isFalse => exact hkept id e' he'
    · intro id' e he
      rw [Schedule.contents_removeEvent h.keys] at he
      split at he
      case isTrue => cases he
      case isFalse => exact hkept id' e he
    · intro id e he
      unfold Schedule.processSchedule at he
      rw [h.keys.contents_fire] at he
      split at he
      case isTrue => cases he
      case isFalse => exact hkept id e he
  | restart cursor =>
    rw [lifeStep, Option.ite_none_right_eq_some] at hstep
    obtain ⟨hreads, hs⟩ := hstep
    obtain rfl := Option.some.inj hs
    intro id e he
    rw [h.contents_new htext hreads, Option.map_eq_some_iff] at he
    obtain ⟨e', -, rfl⟩ := he
    exact toInt_toInt e'.mTimeout

/-- INTERNAL: an added event is stored, so its timeout must fit. -/
theorem timeoutFits_of_kept (hstep : lifeStep zone text s a = some s')
    (hkept : TimeoutsKept s'.schedule) : TimeoutFits s a := by
  cases a with
  | act a =>
    cases a with
    | addEvent p =>
      intro e he
      have hcall : step zone text s (.addEvent p) = some s' := hstep
      obtain rfl : s' = { s with
          schedule := s.schedule.addEvent text p
          trace := s.trace ++ [.added p e] } := by
        simpa [he] using step_cases hcall
      apply toInt_eq_self_iff.mp
      apply hkept e.mID
      rw [Schedule.contents_addEvent he, if_pos rfl]
    | tick | construct | removeEvent | processSchedule => trivial
  | restart cursor => trivial

end Steps

/-- **A restart at any time gives back the schedule exactly in the runs in which every added
event has a timeout that fits a signed 32-bit `int`.**
SOURCE: Schedule.cpp:6-30, 38-83, ScheduledEvent.cpp:37-45, 118-127 -/
theorem restores_throughout_iff (zone : TimeZone) (text : JSONText) (htext : text.RoundTrips)
    (now : ℤ) (acts : List LifeAct) :
    Throughout (lifeStep zone text) (Restores text) (initial now) acts ↔
      Along (lifeStep zone text) TimeoutFits (initial now) acts := by
  refine throughout_iff_along
    (I := fun s => InStep text s.schedule ∧ TimeoutsKept s.schedule) ?_ ?_ ?_ ?_
  · intro s h
    exact (restores_iff htext h.1).mpr h.2
  · intro s a s' h hfits hstep
    exact ⟨lifeStep_inStep htext h.1 hstep, lifeStep_timeoutsKept htext h.1 h.2 hfits hstep⟩
  · intro s a s' h hstep hrestores
    have hinStep := lifeStep_inStep htext h.1 hstep
    exact timeoutFits_of_kept hstep ((restores_iff htext hinStep).mp hrestores)
  · refine ⟨inStep_initial text now, fun id e he => ?_⟩
    simp [initial, Schedule.contents] at he

/-- An event is added in the evening for six in the morning. -/
def forTheMorning : List LifeAct :=
  [.act (.construct 0x55d0c0ffe060 "pump".toList "on".toList "0".toList "6".toList),
    .act (.addEvent 0x55d0c0ffe060), .act (.tick 3600)]

/-- In 2023 every restart gives the event back. -/
theorem forTheMorning_restored :
    Throughout (lifeStep utc plainText) (Restores plainText) (initial 1700000000) forTheMorning := by
  rw [restores_throughout_iff utc plainText plainText_roundTrips]
  rintro s ⟨⟩
  refine ⟨trivial, ?_⟩
  rintro s ⟨⟩
  refine ⟨?_, fun s _ => ⟨trivial, trivial⟩⟩
  intro e he
  obtain rfl := Option.some.inj he
  decide

/-- 2^31 seconds have passed in the morning, and a restart takes the event back to
1901. SOURCE: ScheduledEvent.cpp:44, 126 -/
theorem forTheMorning_notRestored :
    ¬ Throughout (lifeStep utc plainText) (Restores plainText) (initial 2147480000)
      forTheMorning := by
  intro h
  have hend : Restores plainText _ := h.last rfl
  have hrun : run (lifeStep utc plainText) (initial 2147480000) forTheMorning = some _ := rfl
  have hinStep := run_inStep plainText_roundTrips hrun
  have hkept := (restores_iff plainText_roundTrips hinStep).mp hend
  exact absurd (hkept 1090507296 _ rfl) (by decide)

end Dhas.Analysis
