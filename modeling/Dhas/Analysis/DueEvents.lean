import Dhas.Analysis.ScheduleStore

/-!
# A tick fires the due events

`processSchedule` works on copies and removes by id. The key in the map is the id of the
event, so it removes what it has fired, from the map and from the database.
-/

set_option autoImplicit false

namespace Dhas.Analysis

open Dhas.Library Dhas.Program Dhas.Model
open Dhas.Model.ScheduleRun

/-- What a call of `processSchedule` at `t` does: `messages` are passed on, and `s` becomes
`s'`. -/
structure TickExact (s : Schedule) (t : ℤ) (messages : List JSON) (s' : Schedule) : Prop where
  fired : ∃ due : List ScheduledEvent, due.Nodup ∧
    (∀ e, e ∈ due ↔ (∃ id, s.contents id = some e) ∧ e.mTimeout ≤ t) ∧
    messages = due.map (·.toJSON)
  removed : ∀ id e, s.contents id = some e → e.mTimeout ≤ t →
    s'.mEventList[id]? = none ∧ s'.record id = none
  untouched : ∀ id e, s.contents id = some e → t < e.mTimeout →
    s'.contents id = some e ∧ s'.record id = s.record id ∧ (s.record id).isSome
  nothingNew : ∀ id : ℤ, s.mEventList[id]? = none →
    s'.mEventList[id]? = none ∧ s'.record id = none

/-- Since an event with this id was last added, none has been removed or fired. -/
def Armed (trace : List Event) (id : ℤ) : Prop :=
  Since (fun _ x => ∃ p e, x = .added p e ∧ e.mID = id)
    (fun x => x ≠ .removeCalled id ∧ ∀ t p e, x = .fired t p e → e.mID ≠ id) trace

/-- An event is fired only when it has been added, and only once. -/
def FiredOnce (past : List Event) (x : Event) : Prop :=
  ∀ t p e, x = .fired t p e → Armed past e.mID

/-- The message that an event of the record stands for. -/
def message : Event → Option JSON
  | .fired _ _ e => some e.toJSON
  | _ => none

/-- The keys are the ids, every tick fires exactly the due events, no event was fired before
its time or twice, and the messages are those of the fired events. -/
structure TicksExact (s : ScheduleRun) : Prop where
  keys : s.schedule.KeysMatch
  tick : ∀ t,
    TickExact s.schedule t (s.schedule.processSchedule t).1 (s.schedule.processSchedule t).2
  onTime : ∀ t p e, .fired t p e ∈ s.trace → e.mTimeout ≤ t
  once : Always FiredOnce s.trace
  messages : s.messages = s.trace.filterMap message

/-! ## One tick -/

section Tick

variable {text : JSONText} {s : Schedule}

/-- INTERNAL: the messages are those of the due events. -/
theorem fst_processSchedule (s : Schedule) (t : ℤ) :
    (s.processSchedule t).1 = (s.getDueEvents t).map (·.toJSON) :=
  Schedule.fire_fst _ _

/-- INTERNAL: without an entry in the map there is no record.
SOURCE: Schedule.cpp:38-83 -/
theorem InStep.record_eq_none (h : InStep text s) {id : ℤ} (hid : s.contents id = none) :
    s.mEventList[id]? = none ∧ s.record id = none := by
  constructor
  · rw [← Option.isNone_iff_eq_none, ← Option.not_isSome, ← h.keys.contents_isSome, hid]
    rfl
  · rw [h.records, hid]
    rfl

/-- **Both stores lose exactly the events that are fired.** -/
theorem InStep.tickExact (h : InStep text s) (t : ℤ) :
    TickExact s t (s.processSchedule t).1 (s.processSchedule t).2 := by
  have h' := h.processSchedule t
  have hcontents := h.keys.contents_processSchedule t
  refine ⟨⟨s.getDueEvents t, h.keys.nodup_getDueEvents t, fun e => ?_, fst_processSchedule s t⟩,
    fun id e he hdue => ?_, fun id e he hlater => ?_, fun id hid => ?_⟩
  · rw [h.keys.mem_getDueEvents]
    constructor
    · rintro ⟨he, hdue⟩
      exact ⟨⟨e.mID, he⟩, hdue⟩
    · rintro ⟨⟨id, he⟩, hdue⟩
      exact ⟨h.keys.mID he ▸ he, hdue⟩
  · apply h'.record_eq_none
    rw [hcontents, he]
    simpa using hdue
  · have he' : (s.processSchedule t).2.contents id = some e := by
      rw [hcontents, he]
      simpa using hlater
    refine ⟨he', ?_, ?_⟩
    · rw [h'.records, h.records, he', he]
    · rw [h.records, he]
      rfl
  · apply h'.record_eq_none
    rw [hcontents, Schedule.contents, hid]
    rfl

/-- INTERNAL: the events fired in one tick have different ids. -/
theorem nodup_ids_dueObjects (h : s.KeysMatch) (t : ℤ) :
    ((dueObjects s t).map fun due => due.2.mID).Nodup := by
  have hdue : ((dueObjects s t).map (·.2)).Nodup := by
    rw [map_snd_dueObjects]
    exact h.nodup_getDueEvents t
  have hids : (((dueObjects s t).map (·.2)).map (·.mID)).Nodup := by
    apply List.Nodup.map_on _ hdue
    intro e he e' he' hmID
    rw [map_snd_dueObjects, h.mem_getDueEvents] at he he'
    rw [hmID, he'.1] at he
    exact (Option.some.inj he.1).symm
  rwa [List.map_map] at hids

end Tick

/-! ## Whole runs -/

/-- What every run keeps beside the two stores. -/
structure FiringsOk (s : ScheduleRun) : Prop where
  armed : ∀ id e, s.schedule.contents id = some e → Armed s.trace id
  onTime : ∀ t p e, .fired t p e ∈ s.trace → e.mTimeout ≤ t
  once : Always FiredOnce s.trace
  messages : s.messages = s.trace.filterMap message

/-- INTERNAL: at first nothing has fired. -/
theorem firingsOk_initial (now : ℤ) : FiringsOk (initial now) where
  armed id e he := by simp [initial, Schedule.contents] at he
  onTime t p e he := by cases he
  once := always_nil
  messages := rfl

section Runs

variable {zone : TimeZone} {text : JSONText} {s s' : ScheduleRun}

/-- INTERNAL: what a recorded call other than a tick leaves. -/
theorem FiringsOk.append (h : FiringsOk s) {x : Event} (hx : ∀ t p e, x ≠ .fired t p e)
    {schedule : Schedule}
    (harmed : ∀ id e, schedule.contents id = some e → Armed (s.trace ++ [x]) id) :
    FiringsOk { s with schedule := schedule, trace := s.trace ++ [x] } where
  armed := harmed
  onTime t p e he := by
    rcases List.mem_append.mp he with he | he
    · exact h.onTime t p e he
    · exact absurd (List.mem_singleton.mp he).symm (hx t p e)
  once := by
    rw [always_append_singleton]
    exact ⟨h.once, fun t p e he => absurd he (hx t p e)⟩
  messages := by
    have hnone : message x = none := by
      cases x with
      | fired t p e => exact absurd rfl (hx t p e)
      | added | removeCalled => rfl
    simp [h.messages, hnone]

/-- INTERNAL: fired events leave armed what has another id. -/
theorem armed_append_fired (trace : List Event) (t : ℤ) (fired : List (UInt64 × ScheduledEvent))
    (id : ℤ) :
    Armed (trace ++ fired.map fun due => .fired t due.1 due.2) id ↔
      Armed trace id ∧ ∀ due ∈ fired, due.2.mID ≠ id := by
  unfold Armed
  rw [since_append_iff]
  · apply and_congr_right'
    simp only [List.forall_mem_map]
    constructor
    · intro h due hdue
      exact (h due hdue).2 t due.1 due.2 rfl
    · intro h due hdue
      refine ⟨Event.noConfusion, ?_⟩
      rintro t' p e ⟨⟩
      exact h due hdue
  · simp only [List.forall_mem_map]
    rintro due - - ⟨p, e, hadded, -⟩
    cases hadded

/-- INTERNAL: a tick fires armed events, each once, and leaves the others armed. -/
theorem FiringsOk.processSchedule (h : FiringsOk s) (hstore : InStep text s.schedule) (t : ℤ) :
    FiringsOk { s with
      schedule := (s.schedule.processSchedule t).2
      messages := s.messages ++ (s.schedule.processSchedule t).1
      trace := s.trace ++ (dueObjects s.schedule t).map fun due => .fired t due.1 due.2 } := by
  have hkeys := hstore.keys
  have hdue : ∀ p e, (p, e) ∈ dueObjects s.schedule t →
      s.schedule.contents e.mID = some e ∧ e.mTimeout ≤ t := by
    intro p e hmem
    apply hkeys.mem_getDueEvents.mp
    rw [← map_snd_dueObjects]
    exact List.mem_map.mpr ⟨(p, e), hmem, rfl⟩
  refine ⟨fun id e he => ?_, fun t' p e he => ?_, ?_, ?_⟩
  · dsimp only at he ⊢
    rw [hkeys.contents_processSchedule, Option.filter_eq_some_iff, decide_eq_true_eq] at he
    rw [armed_append_fired]
    refine ⟨h.armed id e he.1, ?_⟩
    rintro due hmem rfl
    obtain ⟨hcontents, htime⟩ := hdue due.1 due.2 hmem
    rw [he.1] at hcontents
    obtain rfl := Option.some.inj hcontents
    exact absurd he.2 (by omega)
  · rcases List.mem_append.mp he with he | he
    · exact h.onTime t' p e he
    · obtain ⟨due, hmem, ⟨⟩⟩ := List.mem_map.mp he
      exact (hdue due.1 due.2 hmem).2
  · dsimp only
    rw [always_append_iff]
    refine ⟨h.once, ?_⟩
    rintro before x after hevents t' p e rfl
    obtain ⟨fired, rest, hdues, rfl, hrest⟩ := List.map_eq_append_iff.mp hevents
    obtain ⟨⟨p, e⟩, later, rfl, ⟨⟩, -⟩ := List.map_eq_cons_iff.mp hrest
    have hmem : (p, e) ∈ dueObjects s.schedule t := by
      rw [hdues]
      exact List.mem_append_right _ List.mem_cons_self
    rw [armed_append_fired]
    refine ⟨h.armed e.mID e (hdue p e hmem).1, ?_⟩
    -- the ids of the events fired in one tick differ
    have hnodup := nodup_ids_dueObjects hkeys t
    rw [hdues, List.map_append, List.nodup_append] at hnodup
    intro due hfired
    exact hnodup.2.2 due.2.mID (List.mem_map.mpr ⟨due, hfired, rfl⟩) e.mID (by simp)
  · dsimp only
    rw [h.messages, fst_processSchedule, ← map_snd_dueObjects, List.filterMap_append,
      List.filterMap_map, List.map_map]
    congr 1
    have hjson := List.filterMap_eq_map (f := fun due : UInt64 × ScheduledEvent => due.2.toJSON)
    exact hjson.symm ▸ rfl

/-- INTERNAL: **one step of a schedule whose store is in step.** -/
theorem step_firingsOk {a : Act} (h : FiringsOk s) (hstore : InStep text s.schedule)
    (hstep : step zone text s a = some s') : FiringsOk s' := by
  obtain ⟨seconds, -, rfl⟩ | ⟨this, name, param, min, hour, -, hfree, rfl⟩ | ⟨p, e, -, he, rfl⟩ |
    ⟨id, -, rfl⟩ | ⟨t, -, rfl⟩ := step_cases hstep
  · exact ⟨h.armed, h.onTime, h.once, h.messages⟩
  · refine ⟨fun id e he => ?_, h.onTime, h.once, h.messages⟩
    obtain ⟨p, hp, hobject⟩ := Schedule.contents_eq_some.mp he
    dsimp only at hp hobject
    rw [Function.update_of_ne (hstore.keys.ne_of_free hfree hp)] at hobject
    exact h.armed id e (Schedule.contents_eq_some.mpr ⟨p, hp, hobject⟩)
  · apply h.append (fun _ _ _ => Event.noConfusion)
    intro id e' he'
    rw [Schedule.contents_addEvent he] at he'
    unfold Armed
    rw [since_append_singleton]
    split at he'
    case isTrue hid => exact .inl ⟨p, e, rfl, hid.symm⟩
    case isFalse =>
      exact .inr ⟨h.armed id e' he', Event.noConfusion, fun _ _ _ => Event.noConfusion⟩
  · apply h.append (fun _ _ _ => Event.noConfusion)
    intro id' e he
    rw [Schedule.contents_removeEvent hstore.keys] at he
    unfold Armed
    rw [since_append_singleton]
    split at he
    case isTrue => cases he
    case isFalse hid =>
      refine .inr ⟨h.armed id' e he, ?_, fun _ _ _ => Event.noConfusion⟩
      rintro ⟨⟩
      exact hid rfl
  · exact h.processSchedule hstore t

/-- INTERNAL: what is read from the database was armed before. -/
theorem lifeStep_firingsOk (htext : text.RoundTrips) {a : LifeAct} (h : FiringsOk s)
    (hstore : InStep text s.schedule) (hstep : lifeStep zone text s a = some s') :
    FiringsOk s' := by
  cases a with
  | act a => exact step_firingsOk h hstore hstep
  | restart cursor =>
    rw [lifeStep, Option.ite_none_right_eq_some] at hstep
    obtain ⟨hreads, hs⟩ := hstep
    obtain rfl := Option.some.inj hs
    refine ⟨fun id e he => ?_, h.onTime, h.once, h.messages⟩
    rw [hstore.contents_new htext hreads, Option.map_eq_some_iff] at he
    obtain ⟨e', he', -⟩ := he
    exact h.armed id e' he'

/-- INTERNAL: the invariant says that the ticks are exact. -/
theorem ticksExact_of_ok (h : FiringsOk s) (hstore : InStep text s.schedule) : TicksExact s where
  keys := hstore.keys
  tick := hstore.tickExact
  onTime := h.onTime
  once := h.once
  messages := h.messages

end Runs

/-- **Every tick fires exactly the due events, in every run of calls, and also in the runs
with restarts when the texts in the database can be read back.**
SOURCE: EventProcessor.cpp:189-201, Schedule.cpp:38-100, ScheduledEvent.cpp:65-86 -/
theorem ticksExact_throughout (zone : TimeZone) (text : JSONText) (now : ℤ) :
    (∀ acts, Throughout (step zone text) TicksExact (initial now) acts) ∧
      (text.RoundTrips →
        ∀ acts, Throughout (lifeStep zone text) TicksExact (initial now) acts) := by
  have hinit : InStep text (initial now).schedule ∧ FiringsOk (initial now) :=
    ⟨inStep_initial text now, firingsOk_initial now⟩
  constructor
  · intro acts
    apply throughout_invariant (I := fun s => InStep text s.schedule ∧ FiringsOk s)
    · rintro s ⟨hstore, h⟩
      exact ticksExact_of_ok h hstore
    · rintro s a s' ⟨hstore, h⟩ hstep
      exact ⟨step_inStep hstore hstep, step_firingsOk h hstore hstep⟩
    · exact hinit
  · intro htext acts
    apply throughout_invariant (I := fun s => InStep text s.schedule ∧ FiringsOk s)
    · rintro s ⟨hstore, h⟩
      exact ticksExact_of_ok h hstore
    · rintro s a s' ⟨hstore, h⟩ hstep
      exact ⟨lifeStep_inStep htext hstore hstep, lifeStep_firingsOk htext h hstore hstep⟩
    · exact hinit

/-- An event for six in the morning, made at ten in the evening. -/
def pump : ScheduledEvent :=
  .new utc 0x55d0c0ffe060 1700000000 "pump".toList "on".toList 0 6

/-- The process is restarted in the night, and the event comes from the database at another
address. A tick a minute before its time and two after it. -/
def morning : List LifeAct :=
  [.act (.construct 0x55d0c0ffe060 "pump".toList "on".toList "0".toList "6".toList),
    .act (.addEvent 0x55d0c0ffe060), .act (.tick 3600),
    .restart [(plainText.stringify pump.toJSON, 0x55d0c0ffe0a0)],
    .act (.processSchedule 1700027940), .act (.processSchedule 1700028000),
    .act (.processSchedule 1700028060)]

/-- The event is fired once, by the first tick after its time, and the restart does not matter. -/
theorem ticksExact_morning :
    (run (lifeStep utc plainText) (initial 1700000000) morning).map (·.messages) =
        some [pump.toJSON] ∧
      Throughout (lifeStep utc plainText) TicksExact (initial 1700000000) morning :=
  ⟨by decide +kernel, (ticksExact_throughout utc plainText 1700000000).2 plainText_roundTrips _⟩

end Dhas.Analysis
