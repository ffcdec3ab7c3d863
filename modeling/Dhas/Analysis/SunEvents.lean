import Dhas.Model.AlarmTicks

/-!
# Sunrise and sunset

`checkSun` announces an instant when it lies in the minute that begins with the time an alarm
reads. These minutes fit together while the alarms are equally late. When one is a second later
than the one before it, the second between their minutes is in neither; when it is a second
earlier, in both. That second is the one at which the timer fires, so only an instant on a full
minute can be missed or announced twice.
-/

set_option autoImplicit false

namespace Dhas.Analysis.SunEvents

open Dhas.Library Dhas.Program Dhas.Program.EventProcessor Dhas.Model

/-- An instant at which the timer fires, and the alarms then and a minute before are equally
late. All other instants are steady. -/
def SteadyAt (ticks : Ticks) (x : ℤ) : Prop :=
  ∀ k : ℕ, x = firstAlarm ticks.started + interval * (k + 1 : ℕ) →
    ticks.late k = ticks.late (k + 1)

/-! ## The messages and the windows -/

section Windows

variable {event : String} {f : ℕ → List JSON} {t : ℕ → ℤ} {x : ℤ}

/-- INTERNAL: an event in each window that has the instant. -/
theorem announced_flatMap
    (hf : ∀ k, announced event (f k) = if t k ≤ x ∧ x < t k + 60 then 1 else 0) (n : ℕ) :
    announced event ((List.range n).flatMap f) = (hits t 60 n x).card := by
  unfold hits
  induction n with
  | zero => rfl
  | succ n ih =>
    rw [List.range_succ, List.flatMap_append, announced_append, ih, List.flatMap_singleton, hf,
      Finset.range_add_one, Finset.filter_insert]
    by_cases hit : t n ≤ x ∧ x < t n + 60
    · rw [if_pos hit, if_pos hit, Finset.card_insert_of_notMem]
      intro hmem
      exact Nat.lt_irrefl n (Finset.mem_range.mp (Finset.mem_filter.mp hmem).1)
    · rw [if_neg hit, if_neg hit, Nat.add_zero]

end Windows

/-! ## The other messages of an alarm -/

section Alarms

variable {event : String} {appendPeriodicData : JSON → JSON}

/-- INTERNAL: what `checkSun` announces is not announced by anything else in an alarm. -/
theorem announced_onAlarm (hevent : event = "sunrise" ∨ event = "sunset")
    (hkeep : ∀ json, (appendPeriodicData json).get "event" = json.get "event")
    (sunrise sunset : ℤ) (mpSchedule : Schedule) (t : ℤ) :
    announced event (onAlarm appendPeriodicData sunrise sunset mpSchedule t).1 =
      announced event (checkSun sunrise sunset t) := by
  have hother : jsonText "scheduledevent" ≠ jsonText event ∧ jsonText "timer" ≠ jsonText event := by
    rcases hevent with rfl | rfl <;> decide
  have hdue : announced event (mpSchedule.processSchedule t).1 = 0 := by
    apply List.countP_eq_zero.mpr
    intro message hmessage
    unfold Schedule.processSchedule at hmessage
    rw [Schedule.fire_fst] at hmessage
    obtain ⟨e, -, rfl⟩ := List.mem_map.mp hmessage
    rw [decide_eq_true_iff]
    exact fun heq => hother.1 (Option.some.inj heq)
  have htimer : announced event [appendPeriodicData (timerMessage t)] = 0 := by
    apply List.countP_eq_zero.mpr
    intro message hmessage
    rw [List.mem_singleton.mp hmessage, decide_eq_true_iff, hkeep]
    exact fun heq => hother.2 (Option.some.inj heq)
  show announced event ((mpSchedule.processSchedule t).1 ++
    ([appendPeriodicData (timerMessage t)] ++ checkSun sunrise sunset t)) = _
  rw [announced_append, announced_append, hdue, htimer, Nat.zero_add, Nat.zero_add]

/-- INTERNAL: in a run of alarms, whatever happens to the schedule, the sun is announced by the
calls of `checkSun` only. -/
theorem announced_alarms (hevent : event = "sunrise" ∨ event = "sunset")
    (hkeep : ∀ json, (appendPeriodicData json).get "event" = json.get "event")
    (between : ℕ → Schedule → Schedule) (ticks : Ticks) (sunrise sunset : ℤ) (r : TimerRun)
    (n : ℕ) :
    announced event
        (TimerRun.alarms appendPeriodicData between ticks sunrise sunset r n).messages =
      announced event r.messages + announced event (sunMessages ticks sunrise sunset n) := by
  unfold sunMessages
  induction n with
  | zero => rfl
  | succ n ih =>
    rw [List.range_succ, List.flatMap_append, announced_append, List.flatMap_singleton,
      TimerRun.alarms]
    show announced event (_ ++ _) = _
    rw [announced_append, ih, announced_onAlarm hevent hkeep, Nat.add_assoc]

end Alarms

/-! ## Exactly once -/

section Once

variable {ticks : Ticks} {n q : ℕ} {x : ℤ}

/-- INTERNAL: between two alarms there are only two full minutes. -/
theorem steadyAt_iff (hopen : ticks.time (q + 1) ≤ x) (hclose : x < ticks.time (q + 2)) :
    SteadyAt ticks x ↔
      (x = firstAlarm ticks.started + 60 * (q + 1) → ticks.late q = ticks.late (q + 1)) ∧
      (x = firstAlarm ticks.started + 60 * (q + 2) → ticks.late (q + 1) = ticks.late (q + 2)) := by
  unfold SteadyAt interval
  constructor
  · intro hsteady
    refine ⟨fun hx => hsteady q ?_, fun hx => hsteady (q + 1) ?_⟩
    · rw [hx]
      omega
    · rw [hx]
      omega
  · rintro ⟨hthis, hnext⟩ k hk
    unfold Ticks.time interval at hopen hclose
    have hbounds := ticks.late_bounds (q + 1)
    have hbounds' := ticks.late_bounds (q + 2)
    have hplace : k = q ∨ k = q + 1 := by omega
    rcases hplace with rfl | rfl
    · apply hthis
      rw [hk]
      omega
    · apply hnext
      rw [hk]
      omega

/-- INTERNAL: which windows have an instant between two alarms. -/
theorem card_hits_time (hfirst : ticks.time 1 < x) (hlast : x < ticks.time (n - 2)) :
    (hits ticks.time 60 n x).card = 1 ↔ SteadyAt ticks x := by
  have hn : 1 ≤ n - 2 := by
    by_contra hzero
    have hle := ticks.time_le_time (show n - 2 ≤ 1 by omega)
    omega
  obtain ⟨q, hq, hopen, hclose⟩ := exists_tick (le_of_lt hfirst) hlast hn
  rw [card_hits_eq_one_iff (fun a b => ticks.time_le_time) ticks.time_add_le hopen hclose
    (by omega), steadyAt_iff hopen hclose]
  have hbefore := ticks.late_bounds q
  have hthis := ticks.late_bounds (q + 1)
  have hnext := ticks.late_bounds (q + 2)
  unfold Ticks.time interval at hopen hclose ⊢
  generalize firstAlarm ticks.started = start at hopen hclose ⊢
  omega

/-- INTERNAL: the announcements are counted by the windows that have the instant.
SOURCE: EventProcessor.cpp:72-90 -/
theorem announced_sunMessages (ticks : Ticks) (n : ℕ) {sunrise sunset : ℤ}
    (hapart : 3600 ≤ |sunrise - sunset|) :
    announced "sunrise" (sunMessages ticks sunrise sunset n) =
        (hits ticks.time 60 n sunrise).card ∧
      announced "sunset" (sunMessages ticks sunrise sunset n) =
        (hits ticks.time 60 n sunset).card := by
  constructor
  · exact announced_flatMap (fun k => announced_sunrise sunrise sunset (ticks.time k)) n
  · apply announced_flatMap
    intro k
    exact announced_sunset (le_trans (by omega) hapart) (ticks.time k)

/-- **Sunrise and sunset**: both are announced exactly once, in every run of alarms with the two
instants after the second alarm and before the last but one, exactly when both are steady.
SOURCE: EventProcessor.cpp:16-28, 51-61, 72-90 -/
theorem announcedOnce_iff (ticks : Ticks) (n : ℕ) (sunrise sunset : ℤ)
    (hrise : ticks.time 1 < sunrise ∧ sunrise < ticks.time (n - 2))
    (hset : ticks.time 1 < sunset ∧ sunset < ticks.time (n - 2))
    (hapart : 3600 ≤ |sunrise - sunset|) :
    (announced "sunrise" (sunMessages ticks sunrise sunset n) = 1 ∧
        announced "sunset" (sunMessages ticks sunrise sunset n) = 1) ↔
      SteadyAt ticks sunrise ∧ SteadyAt ticks sunset := by
  obtain ⟨hsunrise, hsunset⟩ := announced_sunMessages ticks n hapart
  rw [hsunrise, hsunset, card_hits_time hrise.1 hrise.2, card_hits_time hset.1 hset.2]

/-- **In a run of whole alarms, whatever happens to the schedule before each, and whatever the
modules append to the periodic event**, the sunrise and the sunset are announced exactly once under
the same condition. SOURCE: EventProcessor.cpp:16-28, 72-90, 189-206 -/
theorem announcedOnce_alarms_iff (appendPeriodicData : JSON → JSON)
    (hkeep : ∀ json, (appendPeriodicData json).get "event" = json.get "event")
    (between : ℕ → Schedule → Schedule) (ticks : Ticks) (mpSchedule : Schedule) (n : ℕ)
    (sunrise sunset : ℤ) (hrise : ticks.time 1 < sunrise ∧ sunrise < ticks.time (n - 2))
    (hset : ticks.time 1 < sunset ∧ sunset < ticks.time (n - 2))
    (hapart : 3600 ≤ |sunrise - sunset|) :
    let r := TimerRun.alarms appendPeriodicData between ticks sunrise sunset ⟨mpSchedule, []⟩ n
    (announced "sunrise" r.messages = 1 ∧ announced "sunset" r.messages = 1) ↔
      SteadyAt ticks sunrise ∧ SteadyAt ticks sunset := by
  have hnothing (event : String) : announced event [] = 0 := rfl
  obtain ⟨hsunrise, hsunset⟩ := announced_sunMessages ticks n hapart
  dsimp only
  rw [announced_alarms (.inl rfl) hkeep, announced_alarms (.inr rfl) hkeep, hnothing, hnothing,
    Nat.zero_add, Nat.zero_add, hsunrise, hsunset, card_hits_time hrise.1 hrise.2,
    card_hits_time hset.1 hset.2]

/-- Alarms that are never late. -/
def promptTicks : Ticks := ⟨0, fun _ => 0, fun _ => Or.inl rfl⟩

/-- A sunrise on a full minute and a sunset an hour later, half a minute after one. -/
theorem promptTicks_once :
    announced "sunrise" (sunMessages promptTicks 600 4230 100) = 1 ∧
      announced "sunset" (sunMessages promptTicks 600 4230 100) = 1 := by
  have hsteady : ∀ x, SteadyAt promptTicks x := fun x k _ => rfl
  exact (announcedOnce_iff promptTicks 100 600 4230 (by decide) (by decide) (by decide)).mpr
    ⟨hsteady 600, hsteady 4230⟩

/-- Alarms of which two are a second late. -/
def lateTicks : Ticks where
  started := 0
  late k := if k = 9 ∨ k = 79 then 1 else 0
  late_eq k := by
    by_cases h : k = 9 ∨ k = 79
    · rw [if_pos h]
      exact Or.inr rfl
    · rw [if_neg h]
      exact Or.inl rfl

/-- The sunrise at the time of the first late alarm is missed, the sunset a minute after the other
one is announced twice. -/
theorem lateTicks_missed_twice :
    (lateTicks.time 1 < 600 ∧ 600 < lateTicks.time (100 - 2)) ∧
      (lateTicks.time 1 < 4860 ∧ 4860 < lateTicks.time (100 - 2)) ∧
      3600 ≤ |(600 : ℤ) - 4860| ∧
      announced "sunrise" (sunMessages lateTicks 600 4860 100) = 0 ∧
      announced "sunset" (sunMessages lateTicks 600 4860 100) = 2 := by
  refine ⟨by decide, by decide, by decide, by decide +kernel, by decide +kernel⟩

end Once

end Dhas.Analysis.SunEvents
