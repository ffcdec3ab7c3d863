import Dhas.Model.ScheduleRun
import Mathlib.Data.List.TakeWhile

/-!
# The map and the database of the schedule

`addEvent` and `removeEvent` change both stores under the same id, so that the database
always holds the text of every stored event and nothing else. A restart reads these texts.
The timeout is written as an `unsigned int` and read with `atoi`, so it comes back as the
`int` with the same low 32 bits.
-/

set_option autoImplicit false

namespace Dhas.Analysis

open Dhas.Library Dhas.Program Dhas.Model
open Dhas.Model.ScheduleRun

/-! ## One event -/

/-- The fields that are an `int` have a value of that type. -/
structure IntFields (e : ScheduledEvent) : Prop where
  mID : toInt e.mID = e.mID
  mMinute : toInt e.mMinute = e.mMinute
  mHour : toInt e.mHour = e.mHour

/-- An event after a restart. -/
def reread (e : ScheduledEvent) : ScheduledEvent := { e with mTimeout := toInt e.mTimeout }

/-- INTERNAL: the constructor cuts its numbers to ints.
SOURCE: ScheduledEvent.cpp:4-35 -/
theorem intFields_new (zone : TimeZone) (this : UInt64) (t : ℤ) (name param min hour : CString) :
    IntFields (ScheduledEvent.new zone this t name param (atoi min) (atoi hour)) where
  mID := by rw [ScheduledEvent.mID_new, toInt_toInt]
  mMinute := toInt_toInt _
  mHour := toInt_toInt _

/-- INTERNAL: what is read from a record are ints.
SOURCE: ScheduledEvent.cpp:37-45 -/
theorem intFields_readEvent (text : JSONText) (data : CString) :
    IntFields (Schedule.readEvent text data) where
  mID := toInt_toInt _
  mMinute := toInt_toInt _
  mHour := toInt_toInt _

/-- INTERNAL: the cut to an int keeps the low 32 bits. -/
theorem toInt_toUnsigned (v : ℤ) : toInt (toUnsigned v) = toInt v := by
  unfold toUnsigned
  rw [Int.toNat_of_nonneg (by omega)]
  exact Int.emod_bmod v (2 ^ 32)

/-- INTERNAL: what is read back is written like the original. -/
theorem toJSON_reread (e : ScheduledEvent) : (reread e).toJSON = e.toJSON := by
  simp only [ScheduledEvent.toJSON, reread, toUnsigned_toInt]

/-- INTERNAL: what is read from the text of an event.
SOURCE: ScheduledEvent.cpp:37-45, 118-127 -/
theorem readEvent_stringify {text : JSONText} (h : text.RoundTrips) {e : ScheduledEvent}
    (he : IntFields e) : Schedule.readEvent text (text.stringify e.toJSON) = reread e := by
  have hdata : cString (text.stringify e.toJSON) = text.stringify e.toJSON := by
    unfold cString
    rw [List.takeWhile_eq_self_iff]
    intro c hc
    rw [decide_eq_true_eq]
    rintro rfl
    exact h.no_nul e.toJSON hc
  have htimeout : atoi (decimal (toUnsigned e.mTimeout)) = toInt e.mTimeout := by
    rw [← toInt_toUnsigned]
    apply atoi_decimal
    · unfold toUnsigned
      omega
    · unfold toUnsigned
      omega
  unfold Schedule.readEvent ScheduledEvent.ofJSON
  simp only [hdata, h.str_parse]
  simp [ScheduledEvent.toJSON, JSON.str, JSON.get, JSONValue.text, jsonText, reread, htimeout,
    atoi_decimal_of_int he.mID, atoi_decimal_of_int he.mMinute, atoi_decimal_of_int he.mHour]

/-! ## Both stores -/

/-- The map and the database hold the same events. -/
structure InStep (text : JSONText) (s : Schedule) : Prop where
  keys : s.KeysMatch
  ints : ∀ p e, s.objects p = some e → IntFields e
  records : ∀ id, s.record id = (s.contents id).map fun e => text.stringify e.toJSON
  recordKeys : ∀ k, k ∈ s.mpDB → ∃ id, k = decimal id

section InStep

variable {text : JSONText} {s : Schedule}

/-- INTERNAL: at first there is no event and no record. -/
theorem inStep_initial (text : JSONText) (now : ℤ) : InStep text (initial now).schedule where
  keys id p hp := by simp [initial] at hp
  ints p e he := by cases he
  records id := by simp [initial, Schedule.record, Schedule.contents]
  recordKeys k hk := absurd hk (AList.notMem_empty k)

/-- INTERNAL: what is stored is an `int` wherever the code has one. -/
theorem InStep.intFields (h : InStep text s) {id : ℤ} {e : ScheduledEvent}
    (he : s.contents id = some e) : IntFields e := by
  obtain ⟨p, -, hobject⟩ := Schedule.contents_eq_some.mp he
  exact h.ints p e hobject

/-- INTERNAL: a new object changes neither store. -/
theorem InStep.construct (h : InStep text s) {this : UInt64} (hfree : s.objects this = none)
    {e : ScheduledEvent} (he : IntFields e) :
    InStep text { s with objects := Function.update s.objects this (some e) } := by
  have hcontents : ∀ id, Schedule.contents
      { s with objects := Function.update s.objects this (some e) } id = s.contents id := by
    intro id
    unfold Schedule.contents
    cases hid : s.mEventList[id]? with
    | none => simp
    | some q => simp [Function.update_of_ne (h.keys.ne_of_free hfree hid)]
  refine ⟨fun id q hq => ?_, fun q e' he' => ?_, fun id => ?_, h.recordKeys⟩
  · dsimp only
    rw [Function.update_of_ne (h.keys.ne_of_free hfree hq)]
    exact h.keys id q hq
  · dsimp only at he'
    by_cases hq : q = this
    · rw [hq, Function.update_self] at he'
      exact Option.some.inj he' ▸ he
    · rw [Function.update_of_ne hq] at he'
      exact h.ints q e' he'
  · rw [hcontents]
    exact h.records id

/-- INTERNAL: both stores get the event under its id. SOURCE: Schedule.cpp:38-58 -/
theorem InStep.addEvent (h : InStep text s) {p : UInt64} {e : ScheduledEvent}
    (he : s.objects p = some e) : InStep text (s.addEvent text p) := by
  refine ⟨h.keys.addEvent he, fun q e' he' => ?_, fun id => ?_, fun k hk => ?_⟩
  · rw [Schedule.objects_addEvent he] at he'
    exact h.ints q e' he'
  · rw [Schedule.record_addEvent he, Schedule.contents_addEvent he]
    split
    · rfl
    · exact h.records id
  · rw [Schedule.addEvent_eq he, AList.mem_insert] at hk
    rcases hk with rfl | hk
    · exact ⟨e.mID, rfl⟩
    · exact h.recordKeys k hk

/-- INTERNAL: both stores lose the event under the id. SOURCE: Schedule.cpp:60-83 -/
theorem InStep.record_removeEvent (h : InStep text s) (id id' : ℤ) :
    (s.removeEvent id).record id' = if id' = id then none else s.record id' := by
  rw [Schedule.record_removeEvent]
  by_cases hid : id' = id
  · subst hid
    cases hmap : s.mEventList[id']? with
    | none => simp [h.records, Schedule.contents, hmap]
    | some p => simp
  · simp [hid]

/-- INTERNAL: an event and its record are removed together. -/
theorem InStep.removeEvent (h : InStep text s) (id : ℤ) : InStep text (s.removeEvent id) := by
  refine ⟨h.keys.removeEvent id, fun q e he => ?_, fun id' => ?_, fun k hk => ?_⟩
  · rw [Schedule.objects_removeEvent] at he
    split at he
    case isTrue => cases he
    case isFalse => exact h.ints q e he
  · rw [h.record_removeEvent, Schedule.contents_removeEvent h.keys]
    split
    · rfl
    · exact h.records id'
  · apply h.recordKeys k
    unfold Schedule.removeEvent at hk
    split at hk
    case h_1 => exact hk
    case h_2 => exact (AList.mem_erase.mp hk).2

/-- INTERNAL: a tick removes the records with the events. -/
theorem InStep.processSchedule (h : InStep text s) (t : ℤ) :
    InStep text (s.processSchedule t).2 :=
  Schedule.fire_invariant (fun _ id hs => hs.removeEvent id) h

end InStep

/-! ## Restarts -/

section Restart

variable {text : JSONText} {s : Schedule} {cursor : List (CString × UInt64)}
variable (htext : text.RoundTrips) (h : InStep text s) (hreads : Reads s.mpDB cursor)

include h in
/-- INTERNAL: a record belongs to a stored event. -/
theorem InStep.exists_of_mem_entries {record : Sigma fun _ : CString => CString}
    (hrecord : record ∈ s.mpDB.entries) :
    ∃ e, s.contents e.mID = some e ∧ record.1 = decimal e.mID ∧
      record.2 = text.stringify e.toJSON := by
  obtain ⟨key, data⟩ := record
  have hlookup : s.mpDB.lookup key = some data := AList.mem_lookup_iff.mpr hrecord
  obtain ⟨id, rfl⟩ := h.recordKeys key (AList.lookup_isSome.mp (by simp [hlookup]))
  have hdata : s.record id = some data := hlookup
  rw [h.records, Option.map_eq_some_iff] at hdata
  obtain ⟨e, he, htext⟩ := hdata
  have hmID := h.keys.mID he
  exact ⟨e, hmID ▸ he, hmID ▸ rfl, htext.symm⟩

include h in
/-- INTERNAL: the text of a stored event is the data of a record. -/
theorem InStep.mem_entries {id : ℤ} {e : ScheduledEvent} (he : s.contents id = some e) :
    text.stringify e.toJSON ∈ s.mpDB.entries.map (·.2) := by
  have hdata : s.record id = some (text.stringify e.toJSON) := by
    rw [h.records, he]
    rfl
  exact List.mem_map.mpr ⟨⟨decimal id, _⟩, AList.mem_lookup_iff.mp hdata, rfl⟩

include htext h hreads

/-- INTERNAL: the events read have different ids. -/
theorem InStep.nodup_ids :
    (cursor.map fun record => (Schedule.readEvent text record.1).mID).Nodup := by
  have hkeys : s.mpDB.entries.map (·.1) =
      s.mpDB.entries.map fun record => decimal (Schedule.readEvent text record.2).mID := by
    apply List.map_congr_left
    intro record hrecord
    obtain ⟨e, he, hkey, hdata⟩ := h.exists_of_mem_entries hrecord
    rw [hkey, hdata, readEvent_stringify htext (h.intFields he)]
    rfl
  have hperm := hreads.1.map fun data => (Schedule.readEvent text data).mID
  rw [List.map_map, List.map_map] at hperm
  apply hperm.nodup_iff.mpr
  apply List.Nodup.of_map decimal
  rw [List.map_map]
  have hnodup : (s.mpDB.entries.map (·.1)).Nodup := s.mpDB.keys_nodup
  rw [hkeys] at hnodup
  exact hnodup

/-- **A restart gives back every event, with its timeout cut to 32 bits.** -/
theorem InStep.contents_new (id : ℤ) :
    (Schedule.new text s.mpDB cursor).contents id = (s.contents id).map reread := by
  apply Option.ext
  intro e'
  rw [Schedule.contents_eq_some, Option.map_eq_some_iff]
  simp only [Schedule.getElem?_new (h.nodup_ids htext hreads), Schedule.objects_new hreads.2]
  constructor
  · rintro ⟨p, ⟨data, hmem, hid⟩, data', hmem', rfl⟩
    have hdata : data' = data :=
      congrArg Prod.fst (List.inj_on_of_nodup_map hreads.2 hmem' hmem rfl)
    obtain ⟨record, hrecord, hrdata⟩ := List.mem_map.mp
      (hreads.1.mem_iff.mp (List.mem_map.mpr ⟨(data, p), hmem, rfl⟩))
    obtain ⟨e, he, -, hetext⟩ := h.exists_of_mem_entries hrecord
    have hread : Schedule.readEvent text data = reread e := by
      rw [show data = _ from hrdata.symm, hetext, readEvent_stringify htext (h.intFields he)]
    rw [hread] at hid
    refine ⟨e, ?_, ?_⟩
    · rw [← hid]
      exact he
    · rw [hdata, hread]
  · rintro ⟨e, he, rfl⟩
    obtain ⟨⟨data, p⟩, hmem, hdata⟩ := List.mem_map.mp
      (hreads.1.mem_iff.mpr (h.mem_entries he))
    have hread : Schedule.readEvent text data = reread e := by
      rw [show data = _ from hdata, readEvent_stringify htext (h.intFields he)]
    have hid : (Schedule.readEvent text data).mID = id := by
      rw [hread, ← h.keys.mID he]
      rfl
    exact ⟨p, ⟨data, hmem, hid⟩, data, hmem, hread⟩

/-- INTERNAL: after a restart every event has its record. -/
theorem InStep.restart : InStep text (Schedule.new text s.mpDB cursor) := by
  have hids := h.nodup_ids htext hreads
  refine ⟨fun id p hp => ?_, fun p e he => ?_, fun id => ?_, fun k hk => ?_⟩
  · obtain ⟨data, hmem, hid⟩ := (Schedule.getElem?_new hids).mp hp
    exact ⟨Schedule.readEvent text data, (Schedule.objects_new hreads.2).mpr ⟨data, hmem, rfl⟩, hid⟩
  · obtain ⟨data, -, rfl⟩ := (Schedule.objects_new hreads.2).mp he
    exact intFields_readEvent text data
  · have hrecord : (Schedule.new text s.mpDB cursor).record id = s.record id := by
      unfold Schedule.record
      rw [Schedule.mpDB_new]
    rw [hrecord, h.records, h.contents_new htext hreads, Option.map_map]
    congr 1
    funext e
    show _ = text.stringify (reread e).toJSON
    rw [toJSON_reread]
  · rw [Schedule.mpDB_new] at hk
    exact h.recordKeys k hk

end Restart

/-! ## Whole runs -/

section Runs

variable {zone : TimeZone} {text : JSONText} {s s' : ScheduleRun}

/-- INTERNAL: every call keeps the two stores in step. -/
theorem step_inStep {a : Act} (h : InStep text s.schedule) (hstep : step zone text s a = some s') :
    InStep text s'.schedule := by
  obtain ⟨seconds, -, rfl⟩ | ⟨this, name, param, min, hour, -, hfree, rfl⟩ | ⟨p, e, -, he, rfl⟩ |
    ⟨id, -, rfl⟩ | ⟨t, -, rfl⟩ := step_cases hstep
  · exact h
  · exact h.construct hfree (intFields_new _ _ _ _ _ _ _)
  · exact h.addEvent he
  · exact h.removeEvent id
  · exact h.processSchedule t

/-- INTERNAL: a restart keeps the two stores in step. -/
theorem lifeStep_inStep (htext : text.RoundTrips) {a : LifeAct} (h : InStep text s.schedule)
    (hstep : lifeStep zone text s a = some s') : InStep text s'.schedule := by
  cases a with
  | act a => exact step_inStep h hstep
  | restart cursor =>
    rw [lifeStep, Option.ite_none_right_eq_some] at hstep
    obtain ⟨hreads, hs⟩ := hstep
    obtain rfl := Option.some.inj hs
    exact h.restart htext hreads

/-- **The map and the database hold the same events at the end of every run.** -/
theorem run_inStep (htext : text.RoundTrips) {now : ℤ} {acts : List LifeAct}
    (h : run (lifeStep zone text) (initial now) acts = some s) : InStep text s.schedule :=
  run_invariant (I := fun s => InStep text s.schedule)
    (fun _ _ _ hs hstep => lifeStep_inStep htext hs hstep) (inStep_initial text now) h

end Runs

end Dhas.Analysis
