import Dhas.Model.SunDays
import Dhas.Analysis.SunEvents

/-!
# The sun of each day

`WeatherHelper` keeps the instants of one day until five in the morning of the next one, in UTC.
While the alarms come, some call asks for them soon after that, so that every answer, from the
first such hour on, is about the day of the clock: the sunrise and the sunset of each day are
announced, exactly once where the alarms are steady, and `/gettime` says when it is night.
-/

set_option autoImplicit false

namespace Dhas.Analysis.SunCalendar

open Dhas.Library Dhas.Program Dhas.Model Dhas.Analysis.SunEvents
open Dhas.Model.SunDays EventProcessor

/-! ## The days -/

/-- The last second of a day, which is given as a number of days since 1970. -/
def dayEnd (day : ℤ) : ℤ := (day + 1) * 86400 + GMT_CORRECTION

/-- The time belongs to the day. -/
def InDay (day t : ℤ) : Prop := dayEnd (day - 1) < t ∧ t ≤ dayEnd day

instance (day t : ℤ) : Decidable (InDay day t) := inferInstanceAs (Decidable (_ ∧ _))

/-- The sunrise of a day. There are 10957 days from 1970 to 2000. -/
def sunriseOf (calculate : ℤ → ℤ × ℤ) (day : ℤ) : ℤ := (calculate (day - 10957)).1

def sunsetOf (calculate : ℤ → ℤ × ℤ) (day : ℤ) : ℤ := (calculate (day - 10957)).2

/-- The sun rises and sets once a day, not in the first and the last five minutes of the day, and
not in the same minute. -/
structure DailySun (calculate : ℤ → ℤ × ℤ) : Prop where
  rise : ∀ day, dayEnd (day - 1) + 300 ≤ sunriseOf calculate day ∧
    sunriseOf calculate day + 300 ≤ dayEnd day
  set : ∀ day, dayEnd (day - 1) + 300 ≤ sunsetOf calculate day ∧
    sunsetOf calculate day + 300 ≤ dayEnd day
  apart : ∀ day, 60 ≤ |sunriseOf calculate day - sunsetOf calculate day|

/-- The messages with an event that the alarms of a day passed on. -/
def announcedOn (event : String) (day : ℤ) (alarms : List (ℤ × List JSON)) : ℕ :=
  announced event ((alarms.filter fun alarm => InDay day alarm.1).flatMap (·.2))

/-- The announcements and the answers of a run, for each of its days. -/
structure SunDaily (calculate : ℤ → ℤ × ℤ) (ticks : Ticks) (s : SunDays) : Prop where
  /-- an alarm announces what happens in the minute from it on -/
  exact : ∀ alarm ∈ s.alarms, ∀ day, ticks.started ≤ dayEnd (day - 1) → InDay day alarm.1 →
    announced "sunrise" alarm.2 =
        (if alarm.1 ≤ sunriseOf calculate day ∧ sunriseOf calculate day < alarm.1 + 60
          then 1 else 0) ∧
      announced "sunset" alarm.2 =
        (if alarm.1 ≤ sunsetOf calculate day ∧ sunsetOf calculate day < alarm.1 + 60
          then 1 else 0)
  /-- and a day that is over had one sunrise and one sunset, if both are steady -/
  once : ∀ day, ticks.started ≤ dayEnd (day - 1) → dayEnd day ≤ ticks.time s.alarms.length →
    ((announcedOn "sunrise" day s.alarms = 1 ∧ announcedOn "sunset" day s.alarms = 1) ↔
      SteadyAt ticks (sunriseOf calculate day) ∧ SteadyAt ticks (sunsetOf calculate day))
  /-- an answer that was read within one day says whether the sun is up on that day -/
  night : ∀ a ∈ s.answers, ∀ day, ticks.started ≤ dayEnd (day - 1) → InDay day a.t →
    InDay day a.last → a.json.get "night" = some (jsonText
      (if sunriseOf calculate day ≤ a.t ∧ a.t < sunsetOf calculate day
        then "false" else "true"))

/-! ## One call -/

/-- The object as it is after a calculation on a day. -/
def ofDay (calculate : ℤ → ℤ × ℤ) (day : ℤ) : WeatherHelper :=
  ⟨dayEnd day, sunsetOf calculate day, sunriseOf calculate day⟩

/-- An answer at a time is about this day: it is the day of the time, or that of the first
calculation, which may have been made before the day began. -/
def AnswersFor (started t day : ℤ) : Prop :=
  t ≤ dayEnd day ∧ (dayEnd (day - 1) < t ∨ day * 86400 ≤ started + 200)

section Calls

variable {calculate : ℤ → ℤ × ℤ} {started since now t day : ℤ} {w : WeatherHelper}
  {r : ClockReading}

/-- INTERNAL: the whole days are counted from the first day of 2000. -/
theorem wholeDays_eq (ht : JAN12000 ≤ t) : WeatherHelper.wholeDays t = t / 86400 - 10957 := by
  unfold WeatherHelper.wholeDays JAN12000 at *
  rw [Int.tdiv_eq_ediv_of_nonneg (by omega)]
  omega

/-- INTERNAL: a calculation depends on the day only. -/
theorem recalculate_eq (ht : JAN12000 ≤ t) :
    WeatherHelper.recalculate calculate t = ofDay calculate (t / 86400) := by
  unfold WeatherHelper.recalculate ofDay dayEnd sunriseOf sunsetOf
  rw [wholeDays_eq ht]

/-- INTERNAL: after the day of the start, there is one answer for a time. -/
theorem AnswersFor.day_eq {day' : ℤ} (h : AnswersFor started t day') (hday : InDay day t)
    (hstarted : started ≤ dayEnd (day - 1)) : day' = day := by
  obtain ⟨hlate, hearly⟩ := h
  obtain ⟨hopen, hclose⟩ := hday
  unfold dayEnd GMT_CORRECTION at *
  omega

/-- The object, when a call asked for the instants at the time `since` or later. -/
def Kept (calculate : ℤ → ℤ × ℤ) (started since now : ℤ) (w : WeatherHelper) : Prop :=
  (w.mLastDay = 0 ∧ since ≤ started) ∨
    ∃ day, w = ofDay calculate day ∧ since ≤ dayEnd day ∧
      (dayEnd (day - 1) < now ∨ day * 86400 ≤ started + 200)

/-- INTERNAL: a call that is made at most two minutes after the last one.
SOURCE: WeatherHelper.cpp:30-38, 74-91 -/
theorem Kept.refresh (h : Kept calculate started since now w) (hjan : JAN12000 ≤ started)
    (hstarted : started ≤ now) (ht : now ≤ r.t) (hagain : r.t ≤ r.again)
    (hsoon : r.again ≤ since + 122) :
    ∃ day, w.refresh calculate r = ofDay calculate day ∧ AnswersFor started r.t day := by
  have hpast : JAN12000 ≤ r.again := by omega
  unfold WeatherHelper.refresh
  rcases h with ⟨hzero, hsince⟩ | ⟨day, rfl, hsince, hearly⟩
  · have hlate : r.t > w.mLastDay := by
      rw [hzero]
      unfold JAN12000 at hjan
      omega
    rw [if_pos hlate, recalculate_eq hpast]
    refine ⟨r.again / 86400, rfl, ?_⟩
    unfold AnswersFor dayEnd GMT_CORRECTION
    omega
  · by_cases hlate : r.t > (ofDay calculate day).mLastDay
    · rw [if_pos hlate, recalculate_eq hpast]
      refine ⟨r.again / 86400, rfl, ?_⟩
      have hlate : r.t > dayEnd day := hlate
      unfold AnswersFor dayEnd GMT_CORRECTION at *
      omega
    · rw [if_neg hlate]
      have hlate : ¬ r.t > dayEnd day := hlate
      refine ⟨day, rfl, ?_, ?_⟩
      · omega
      · omega

end Calls

/-! ## The steps -/

/-- The time of the last alarm; the start when there was none. -/
def before (ticks : Ticks) : ℕ → ℤ
  | 0 => ticks.started
  | k + 1 => ticks.time k

/-- The number of the alarms that have asked for the sun. -/
def asked (s : SunDays) : ℕ :=
  match s.alarm with
  | .getSunSet _ => s.entered - 1
  | _ => s.entered

/-- What a party has read so far. -/
def AlarmRead (calculate : ℤ → ℤ × ℤ) (ticks : Ticks) (s : SunDays) : Prop :=
  match s.alarm with
  | .idle => s.alarms.length = s.entered
  | .getSunSet t => s.alarms.length + 1 = s.entered ∧ t = ticks.time s.alarms.length
  | .getSunRise t sunset =>
    s.alarms.length + 1 = s.entered ∧ t = ticks.time s.alarms.length ∧
      ∃ n day, t ≤ n ∧ n ≤ s.now ∧ AnswersFor ticks.started n day ∧
        sunset = sunsetOf calculate day

def GettimeRead (calculate : ℤ → ℤ × ℤ) (ticks : Ticks) (s : SunDays) : Prop :=
  match s.gettime with
  | .idle => True
  | .getSunRise t => t ≤ s.now
  | .getSunSet t sunrise =>
    ∃ n day, t ≤ n ∧ n ≤ s.now ∧ AnswersFor ticks.started n day ∧
      sunrise = sunriseOf calculate day

/-- What `checkSun` has passed on is about the days of its readings. -/
def AlarmOk (calculate : ℤ → ℤ × ℤ) (ticks : Ticks) (alarm : ℤ × List JSON) : Prop :=
  ∃ n n' day day', alarm.1 ≤ n ∧ n ≤ n' ∧ n' ≤ alarm.1 + 61 ∧
    AnswersFor ticks.started n day ∧ AnswersFor ticks.started n' day' ∧
    alarm.2 = checkSun (sunriseOf calculate day') (sunsetOf calculate day) alarm.1

def AnswerOk (calculate : ℤ → ℤ × ℤ) (ticks : Ticks) (a : GettimeAnswer) : Prop :=
  ∃ n day day', a.t ≤ n ∧ n ≤ a.last ∧ AnswersFor ticks.started n day ∧
    AnswersFor ticks.started a.last day' ∧
    a.json = gettimeAnswer a.t (sunriseOf calculate day) (sunsetOf calculate day')

structure CalendarOk (calculate : ℤ → ℤ × ℤ) (ticks : Ticks) (s : SunDays) : Prop where
  begun : before ticks s.entered ≤ s.now
  kept : Kept calculate ticks.started (before ticks (asked s)) s.now s.weather
  alarmRead : AlarmRead calculate ticks s
  gettimeRead : GettimeRead calculate ticks s
  times : s.alarms.map (·.1) = (List.range s.alarms.length).map ticks.time
  alarms : ∀ alarm ∈ s.alarms, AlarmOk calculate ticks alarm
  answers : ∀ a ∈ s.answers, AnswerOk calculate ticks a

section Steps

variable {calculate : ℤ → ℤ × ℤ} {ticks : Ticks} {s s' : SunDays} {r : ClockReading}

/-- INTERNAL: the last alarm is not before the start. -/
theorem started_le_before (ticks : Ticks) (k : ℕ) : ticks.started ≤ before ticks k := by
  cases k with
  | zero => exact Int.le_refl _
  | succ k =>
    have hlate := ticks.late_bounds k
    show ticks.started ≤ ticks.time k
    rw [ticks.time_eq]
    omega

/-- INTERNAL: the next alarm comes within a minute, up to a second. -/
theorem before_le_time (ticks : Ticks) (k : ℕ) :
    before ticks k ≤ ticks.time k ∧ ticks.time k ≤ before ticks k + 61 := by
  have hlate := ticks.late_bounds k
  cases k with
  | zero =>
    show ticks.started ≤ _ ∧ _ ≤ ticks.started + 61
    rw [ticks.time_eq]
    omega
  | succ k =>
    have hlate' := ticks.late_bounds (k + 1)
    have hbefore := ticks.late_bounds k
    show ticks.time k ≤ _ ∧ _ ≤ ticks.time k + 61
    rw [ticks.time_succ]
    omega

/-- INTERNAL: what is read before the next alarm is read two minutes after the last time that an
alarm asked for the sun, at most. -/
theorem before_asked (ticks : Ticks) (s : SunDays) :
    before ticks (asked s) ≤ before ticks s.entered ∧
      ticks.time s.entered ≤ before ticks (asked s) + 122 := by
  have hnext := before_le_time ticks s.entered
  have hsame : before ticks s.entered ≤ before ticks s.entered ∧
      ticks.time s.entered ≤ before ticks s.entered + 122 := by omega
  unfold asked
  split
  · cases hentered : s.entered with
    | zero =>
      rw [hentered] at hsame
      exact hsame
    | succ k =>
      have hlast := before_le_time ticks k
      rw [hentered] at hnext
      have hk : before ticks (k + 1) = ticks.time k := rfl
      rw [Nat.add_sub_cancel]
      omega
  · exact hsame

/-- INTERNAL: at first no alarm has begun. -/
theorem calendarOk_init (mSunset mSunrise : ℤ) :
    CalendarOk calculate ticks (init ticks mSunset mSunrise) where
  begun := Int.le_refl _
  kept := .inl ⟨rfl, Int.le_refl _⟩
  alarmRead := rfl
  gettimeRead := trivial
  times := rfl
  alarms := fun _ h => by cases h
  answers := fun _ h => by cases h

/-- INTERNAL: a call that reads before the next alarm. -/
theorem CalendarOk.refresh (h : CalendarOk calculate ticks s) (hjan : JAN12000 ≤ ticks.started)
    (hreads : Reads ticks s r) :
    ∃ day, s.weather.refresh calculate r = ofDay calculate day ∧
      AnswersFor ticks.started r.t day := by
  obtain ⟨hnow, hagain, hdue⟩ := hreads
  have hasked := before_asked ticks s
  have hstarted := started_le_before ticks s.entered
  have hbegun := h.begun
  apply h.kept.refresh hjan
  · omega
  · exact hnow
  · exact hagain
  · omega

/-- INTERNAL: what is kept after the call. -/
theorem CalendarOk.kept_after (h : CalendarOk calculate ticks s) (hjan : JAN12000 ≤ ticks.started)
    (hreads : Reads ticks s r) {since : ℤ} (hsince : since ≤ before ticks s.entered) :
    Kept calculate ticks.started since r.again (s.weather.refresh calculate r) := by
  obtain ⟨day, hrefresh, hlate, hearly⟩ := h.refresh hjan hreads
  obtain ⟨hnow, hagain, -⟩ := hreads
  have hbegun := h.begun
  refine .inr ⟨day, hrefresh, ?_, ?_⟩
  · omega
  · omega

/-- INTERNAL: the other party, and the clock, may go on. -/
theorem AlarmRead.later (h : AlarmRead calculate ticks s) (halarm : s'.alarm = s.alarm)
    (halarms : s'.alarms = s.alarms) (hentered : s'.entered = s.entered) (hnow : s.now ≤ s'.now) :
    AlarmRead calculate ticks s' := by
  unfold AlarmRead at h ⊢
  rw [halarm, halarms, hentered]
  split at h
  · exact h
  · exact h
  · obtain ⟨hlength, ht, n, day, hn, hn', hanswers, hsunset⟩ := h
    exact ⟨hlength, ht, n, day, hn, le_trans hn' hnow, hanswers, hsunset⟩

/-- INTERNAL: what the request has read stays as the time goes on. -/
theorem GettimeRead.later (h : GettimeRead calculate ticks s) (hgettime : s'.gettime = s.gettime)
    (hnow : s.now ≤ s'.now) : GettimeRead calculate ticks s' := by
  unfold GettimeRead at h ⊢
  rw [hgettime]
  split at h
  · trivial
  · exact le_trans h hnow
  · obtain ⟨n, day, hn, hn', hanswers, hsunrise⟩ := h
    exact ⟨n, day, hn, le_trans hn' hnow, hanswers, hsunrise⟩

/-- INTERNAL: what the helper keeps stays as the time goes on. -/
theorem Kept.later {started since now now' : ℤ} {w : WeatherHelper}
    (h : Kept calculate started since now w) (hnow : now ≤ now') :
    Kept calculate started since now' w := by
  rcases h with hzero | ⟨day, hw, hsince, hearly⟩
  · exact .inl hzero
  · refine .inr ⟨day, hw, hsince, ?_⟩
    omega

/-- INTERNAL: an alarm begins. -/
theorem CalendarOk.onAlarm (h : CalendarOk calculate ticks s) (hidle : s.alarm = .idle)
    (hnow : s.now ≤ ticks.time s.entered) :
    CalendarOk calculate ticks { s with
      now := ticks.time s.entered
      entered := s.entered + 1
      alarm := .getSunSet (ticks.time s.entered) } := by
  have hasked : asked s = s.entered := by
    unfold asked
    rw [hidle]
  have hlength : s.alarms.length = s.entered := by
    have hread := h.alarmRead
    unfold AlarmRead at hread
    rw [hidle] at hread
    exact hread
  refine ⟨Int.le_refl _, ?_, ?_, h.gettimeRead.later rfl hnow, h.times, h.alarms, h.answers⟩
  · have hkept := h.kept.later hnow
    rw [hasked] at hkept
    exact hkept
  · show s.alarms.length + 1 = s.entered + 1 ∧ _ = ticks.time s.alarms.length
    rw [hlength]
    exact ⟨rfl, rfl⟩

/-- INTERNAL: a request reads the time. -/
theorem CalendarOk.gettime (h : CalendarOk calculate ticks s) {t : ℤ} (hnow : s.now ≤ t) :
    CalendarOk calculate ticks { s with now := t, gettime := .getSunRise t } :=
  ⟨le_trans h.begun hnow, h.kept.later hnow, h.alarmRead.later rfl rfl rfl hnow, Int.le_refl _,
    h.times, h.alarms, h.answers⟩

/-- INTERNAL: the two calls of `checkSun`. SOURCE: EventProcessor.cpp:72-90 -/
theorem CalendarOk.checkSun (h : CalendarOk calculate ticks s) (hjan : JAN12000 ≤ ticks.started)
    (hstep : step calculate ticks s (.checkSun r) = some s') : CalendarOk calculate ticks s' := by
  rw [step, Option.ite_none_right_eq_some] at hstep
  obtain ⟨hreads, hmatch⟩ := hstep
  obtain ⟨day, hrefresh, hanswers⟩ := h.refresh hjan hreads
  obtain ⟨hnow, hagain, hdue⟩ := hreads
  have hnow' : s.now ≤ r.again := le_trans hnow hagain
  have hbegun : before ticks s.entered ≤ r.again := le_trans h.begun hnow'
  have hread := h.alarmRead
  unfold AlarmRead at hread
  split at hmatch
  case h_1 => cases hmatch
  case h_2 t halarm =>
    obtain rfl := Option.some.inj hmatch
    rw [halarm] at hread
    obtain ⟨hlength, ht⟩ := hread
    have hbefore : before ticks s.entered = t := by
      rw [← hlength, ht]
      rfl
    have hbegun' := h.begun
    refine ⟨hbegun, ?_, ⟨hlength, ht, r.t, day, ?_, hagain, hanswers, ?_⟩,
      h.gettimeRead.later rfl hnow', h.times, h.alarms, h.answers⟩
    · exact h.kept_after hjan ⟨hnow, hagain, hdue⟩ (Int.le_refl _)
    · omega
    · show (s.weather.refresh calculate r).mSunset = _
      rw [hrefresh]
      rfl
  case h_3 t sunset halarm =>
    obtain rfl := Option.some.inj hmatch
    rw [halarm] at hread
    obtain ⟨hlength, ht, n, day', hn, hn', hanswers', hsunset⟩ := hread
    have hrise : (s.weather.getSunRise calculate r).2 = sunriseOf calculate day := by
      show (s.weather.refresh calculate r).mSunrise = _
      rw [hrefresh]
      rfl
    have htime := before_le_time ticks s.entered
    have hbefore : before ticks s.entered = t := by
      rw [← hlength, ht]
      rfl
    refine ⟨hbegun, ?_, ?_, h.gettimeRead.later rfl hnow', ?_, ?_, h.answers⟩
    · exact h.kept_after hjan ⟨hnow, hagain, hdue⟩ (Int.le_refl _)
    · show (s.alarms ++ [_]).length = s.entered
      rw [List.length_append]
      exact hlength
    · show List.map (fun alarm : ℤ × List JSON => alarm.1) (s.alarms ++ [_]) = _
      rw [List.map_append, h.times, List.length_append, List.length_singleton, List.range_succ,
        List.map_append, ht]
      rfl
    · intro alarm halarm'
      rcases List.mem_append.mp halarm' with hold | hnew
      · exact h.alarms alarm hold
      · obtain rfl := List.mem_singleton.mp hnew
        refine ⟨n, r.t, day', day, hn, le_trans hn' hnow, ?_, hanswers', hanswers, ?_⟩
        · show r.t ≤ t + 61
          omega
        · show EventProcessor.checkSun _ _ t = EventProcessor.checkSun _ _ t
          rw [hrise, hsunset]

/-- INTERNAL: the two calls of `gettime_callback`. SOURCE: RESTInterface.cpp:119-131 -/
theorem CalendarOk.answer (h : CalendarOk calculate ticks s) (hjan : JAN12000 ≤ ticks.started)
    (hstep : step calculate ticks s (.answer r) = some s') : CalendarOk calculate ticks s' := by
  rw [step, Option.ite_none_right_eq_some] at hstep
  obtain ⟨hreads, hmatch⟩ := hstep
  obtain ⟨day, hrefresh, hanswers⟩ := h.refresh hjan hreads
  have hkept := h.kept_after hjan hreads (before_asked ticks s).1
  obtain ⟨hnow, hagain, hdue⟩ := hreads
  have hnow' : s.now ≤ r.again := le_trans hnow hagain
  have hbegun : before ticks s.entered ≤ r.again := le_trans h.begun hnow'
  have hread := h.gettimeRead
  unfold GettimeRead at hread
  split at hmatch
  case h_1 => cases hmatch
  case h_2 t hgettime =>
    obtain rfl := Option.some.inj hmatch
    rw [hgettime] at hread
    refine ⟨hbegun, hkept, h.alarmRead.later rfl rfl rfl hnow',
      ⟨r.t, day, le_trans hread hnow, hagain, hanswers, ?_⟩, h.times, h.alarms, h.answers⟩
    show (s.weather.refresh calculate r).mSunrise = _
    rw [hrefresh]
    rfl
  case h_3 t sunrise hgettime =>
    obtain rfl := Option.some.inj hmatch
    rw [hgettime] at hread
    obtain ⟨n, day', hn, hn', hanswers', hsunrise⟩ := hread
    have hset : (s.weather.getSunSet calculate r).2 = sunsetOf calculate day := by
      show (s.weather.refresh calculate r).mSunset = _
      rw [hrefresh]
      rfl
    refine ⟨hbegun, hkept, h.alarmRead.later rfl rfl rfl hnow', trivial, h.times, h.alarms, ?_⟩
    intro a ha
    rcases List.mem_append.mp ha with hold | hnew
    · exact h.answers a hold
    · obtain rfl := List.mem_singleton.mp hnew
      refine ⟨n, day', day, hn, le_trans hn' hnow, hanswers', hanswers, ?_⟩
      show gettimeAnswer t _ _ = gettimeAnswer t _ _
      rw [hset, hsunrise]

/-- INTERNAL: **one step.** -/
theorem step_calendarOk {a : Act} (hjan : JAN12000 ≤ ticks.started)
    (h : CalendarOk calculate ticks s) (hstep : step calculate ticks s a = some s') :
    CalendarOk calculate ticks s' := by
  cases a with
  | onAlarm =>
    rw [step, Option.ite_none_right_eq_some] at hstep
    obtain ⟨⟨hidle, hnow⟩, hs⟩ := hstep
    obtain rfl := Option.some.inj hs
    exact h.onAlarm hidle hnow
  | checkSun r => exact h.checkSun hjan hstep
  | gettime t =>
    rw [step, Option.ite_none_right_eq_some] at hstep
    obtain ⟨⟨-, hnow, -⟩, hs⟩ := hstep
    obtain rfl := Option.some.inj hs
    exact h.gettime hnow
  | answer r => exact h.answer hjan hstep

end Steps

/-! ## The days of a run -/

section Days

variable {calculate : ℤ → ℤ × ℤ} {ticks : Ticks} {s : SunDays} {day : ℤ}

/-- INTERNAL: what an alarm of a day passes on is about the sun of that day. The readings of the
last alarm may be those of the next day. -/
theorem AlarmOk.exact {alarm : ℤ × List JSON} (h : AlarmOk calculate ticks alarm)
    (hsun : DailySun calculate) (hstarted : ticks.started ≤ dayEnd (day - 1))
    (hday : InDay day alarm.1) :
    announced "sunrise" alarm.2 =
        (if alarm.1 ≤ sunriseOf calculate day ∧ sunriseOf calculate day < alarm.1 + 60
          then 1 else 0) ∧
      announced "sunset" alarm.2 =
        (if alarm.1 ≤ sunsetOf calculate day ∧ sunsetOf calculate day < alarm.1 + 60
          then 1 else 0) := by
  obtain ⟨n, n', first, second, hn, hn', hlast, hfirst, hsecond, hmessages⟩ := h
  have hnext : dayEnd (day + 1) = dayEnd day + 86400 := by
    unfold dayEnd
    omega
  have hnextStarted : ticks.started ≤ dayEnd (day + 1 - 1) := by
    rw [Int.add_sub_cancel]
    unfold dayEnd at hstarted ⊢
    omega
  have hreading {m d : ℤ} (hm : alarm.1 ≤ m) (hm' : m ≤ alarm.1 + 61)
      (hanswers : AnswersFor ticks.started m d) :
      (m ≤ dayEnd day ∧ d = day) ∨ (dayEnd day < m ∧ d = day + 1) := by
    obtain ⟨hopen, hclose⟩ := hday
    by_cases hsame : m ≤ dayEnd day
    · exact .inl ⟨hsame, hanswers.day_eq ⟨lt_of_lt_of_le hopen hm, hsame⟩ hstarted⟩
    · have hover : dayEnd day < m := lt_of_not_ge hsame
      refine .inr ⟨hover, hanswers.day_eq ⟨?_, ?_⟩ hnextStarted⟩
      · rwa [Int.add_sub_cancel]
      · rw [hnext]
        omega
  have hrise := hsun.rise day
  have hset := hsun.set day
  have hrise' := hsun.rise (day + 1)
  have hset' := hsun.set (day + 1)
  rw [Int.add_sub_cancel] at hrise' hset'
  have hclose := hday.2
  have hapart : 60 ≤ |sunriseOf calculate second - sunsetOf calculate first| := by
    rcases hreading hn (le_trans hn' hlast) hfirst with ⟨-, rfl⟩ | ⟨hover, rfl⟩
    · rcases hreading (le_trans hn hn') hlast hsecond with ⟨-, rfl⟩ | ⟨-, rfl⟩
      · exact hsun.apart _
      · apply le_abs.mpr
        omega
    · rcases hreading (le_trans hn hn') hlast hsecond with ⟨hsame, -⟩ | ⟨-, rfl⟩
      · omega
      · exact hsun.apart _
  rw [hmessages, announced_sunrise, announced_sunset hapart]
  constructor
  · rcases hreading (le_trans hn hn') hlast hsecond with ⟨-, rfl⟩ | ⟨hover, rfl⟩
    · rfl
    · rw [if_neg (by omega), if_neg (by omega)]
  · rcases hreading hn (le_trans hn' hlast) hfirst with ⟨-, rfl⟩ | ⟨hover, rfl⟩
    · rfl
    · rw [if_neg (by omega), if_neg (by omega)]

/-- INTERNAL: an answer that was read within one day. -/
theorem AnswerOk.night {a : GettimeAnswer} (h : AnswerOk calculate ticks a)
    (hstarted : ticks.started ≤ dayEnd (day - 1)) (hday : InDay day a.t)
    (hlast : InDay day a.last) :
    a.json.get "night" = some (jsonText
      (if sunriseOf calculate day ≤ a.t ∧ a.t < sunsetOf calculate day
        then "false" else "true")) := by
  obtain ⟨n, first, second, hn, hn', hfirst, hsecond, hjson⟩ := h
  have hreading : InDay day n := ⟨lt_of_lt_of_le hday.1 hn, le_trans hn' hlast.2⟩
  rw [hjson, hfirst.day_eq hreading hstarted, hsecond.day_eq hlast hstarted]
  show some (jsonText (if _ ∨ _ then "true" else "false")) = _
  by_cases hup : sunriseOf calculate day ≤ a.t ∧ a.t < sunsetOf calculate day
  · rw [if_pos hup, if_neg (by omega)]
  · rw [if_neg hup, if_pos (by omega)]

/-- INTERNAL: alarms that announce an event once or not at all. -/
theorem announced_filter {event : String} {alarms : List (ℤ × List JSON)} {P Q : ℤ → Prop}
    [DecidablePred P] [DecidablePred Q] (hQP : ∀ t, Q t → P t)
    (h : ∀ alarm ∈ alarms, P alarm.1 → announced event alarm.2 = if Q alarm.1 then 1 else 0) :
    announced event ((alarms.filter fun alarm => P alarm.1).flatMap (·.2)) =
      (alarms.map (·.1)).countP Q := by
  induction alarms with
  | nil => rfl
  | cons alarm alarms ih =>
    have htail := ih fun other hother => h other (List.mem_cons_of_mem _ hother)
    rw [List.map_cons, List.countP_cons]
    by_cases hP : P alarm.1
    · rw [List.filter_cons_of_pos (by simpa using hP), List.flatMap_cons, announced_append, htail,
        h alarm List.mem_cons_self hP, Nat.add_comm]
      by_cases hQ : Q alarm.1
      · simp [hQ]
      · simp [hQ]
    · have hQ : ¬ Q alarm.1 := fun hQ => hP (hQP _ hQ)
      rw [List.filter_cons_of_neg (by simpa using hP), htail]
      simp [hQ]

/-- INTERNAL: what the alarms of a day announce at an instant of that day. -/
theorem CalendarOk.announcedOn_eq (h : CalendarOk calculate ticks s) {event : String} {x : ℤ}
    (hx : dayEnd (day - 1) + 300 ≤ x ∧ x + 300 ≤ dayEnd day)
    (hexact : ∀ alarm ∈ s.alarms, InDay day alarm.1 →
      announced event alarm.2 = if alarm.1 ≤ x ∧ x < alarm.1 + 60 then 1 else 0) :
    announcedOn event day s.alarms = (hits ticks.time 60 s.alarms.length x).card := by
  have hinside : ∀ t, (t ≤ x ∧ x < t + 60) → InDay day t := by
    intro t ht
    unfold InDay
    omega
  unfold announcedOn
  rw [announced_filter hinside hexact, h.times, List.countP_map, List.countP_eq_length_filter]
  rfl

/-- INTERNAL: the invariant says that the sun is announced daily, when it rises and sets every
day. -/
theorem CalendarOk.sunDaily (h : CalendarOk calculate ticks s) (hsun : DailySun calculate) :
    SunDaily calculate ticks s where
  exact := fun alarm halarm day hstarted hday =>
    (h.alarms alarm halarm).exact hsun hstarted hday
  once := by
    intro day hstarted hover
    have hrise := hsun.rise day
    have hset := hsun.set day
    have hexact alarm halarm hday := (h.alarms alarm halarm).exact hsun hstarted hday
    rw [h.announcedOn_eq hrise fun alarm halarm hday => (hexact alarm halarm hday).1,
      h.announcedOn_eq hset fun alarm halarm hday => (hexact alarm halarm hday).2]
    have hinside {x : ℤ} (hx : dayEnd (day - 1) + 300 ≤ x ∧ x + 300 ≤ dayEnd day) :
        (hits ticks.time 60 s.alarms.length x).card = 1 ↔ SteadyAt ticks x := by
      apply card_hits_time
      · have hlate := ticks.late_bounds 1
        rw [ticks.time_eq]
        omega
      · have hlength := ticks.time_eq s.alarms.length
        have hlate := ticks.late_bounds s.alarms.length
        have hlate' := ticks.late_bounds (s.alarms.length - 2)
        rw [ticks.time_eq]
        omega
    rw [hinside hrise, hinside hset]
  night := fun a ha day hstarted hday hlast => (h.answers a ha).night hstarted hday hlast

end Days

/-- **The sunrise and the sunset of every day are announced, exactly once where the alarms are
steady, and `/gettime` knows the night, over any number of days.**
SOURCE: WeatherHelper.cpp:19-91, EventProcessor.cpp:16-28, 72-90, RESTInterface.cpp:119-131 -/
theorem sunDaily_throughout (calculate : ℤ → ℤ × ℤ) (hsun : DailySun calculate) (ticks : Ticks)
    (hstarted : JAN12000 ≤ ticks.started) (mSunset mSunrise : ℤ) (acts : List Act) :
    Throughout (step calculate ticks) (SunDaily calculate ticks)
      (init ticks mSunset mSunrise) acts := by
  apply throughout_invariant (fun _ h => CalendarOk.sunDaily h hsun)
  · exact fun s a s' h hstep => step_calendarOk hstarted h hstep
  · exact calendarOk_init mSunset mSunrise

/-- Sunrise at noon and sunset at ten in the evening, in UTC. -/
def equator (wholeDays : ℤ) : ℤ × ℤ :=
  (JAN12000 + 86400 * wholeDays + 43200, JAN12000 + 86400 * wholeDays + 79200)

/-- INTERNAL: it rises and sets at the same hours every day. -/
theorem dailySun_equator : DailySun equator := by
  have hrise (day : ℤ) : sunriseOf equator day = 86400 * day + 43200 := by
    unfold sunriseOf equator JAN12000
    omega
  have hset (day : ℤ) : sunsetOf equator day = 86400 * day + 79200 := by
    unfold sunsetOf equator JAN12000
    omega
  refine ⟨fun day => ?_, fun day => ?_, fun day => ?_⟩
  · rw [hrise]
    unfold dayEnd GMT_CORRECTION
    omega
  · rw [hset]
    unfold dayEnd GMT_CORRECTION
    omega
  · rw [hrise, hset]
    apply le_abs.mpr
    omega

/-- An alarm and its two questions. -/
def minute (t : ℤ) : List Act := [.onAlarm, .checkSun ⟨t, t⟩, .checkSun ⟨t, t⟩]

/-- The first alarms, one after the other. -/
def minutes (ticks : Ticks) : ℕ → List Act
  | 0 => []
  | n + 1 => minutes ticks n ++ minute (ticks.time n)

/-- INTERNAL: the alarms can come one after the other, by induction on their number. -/
theorem run_minutes (calculate : ℤ → ℤ × ℤ) (ticks : Ticks) (mSunset mSunrise : ℤ) (n : ℕ) :
    ∃ s, run (step calculate ticks) (init ticks mSunset mSunrise) (minutes ticks n) = some s ∧
      s.entered = n ∧ s.alarm = .idle ∧ s.alarms.length = n ∧ s.now ≤ ticks.time n := by
  induction n with
  | zero =>
    have hfirst := ticks.time_eq 0
    have hlate := ticks.late_bounds 0
    refine ⟨_, rfl, rfl, rfl, rfl, ?_⟩
    show ticks.started ≤ ticks.time 0
    omega
  | succ n ih =>
    obtain ⟨s, hrun, hentered, halarm, hlength, hnow⟩ := ih
    have hnext : ticks.time n ≤ ticks.time (n + 1) := ticks.time_le_time (Nat.le_succ n)
    rw [minutes, run_append, hrun, Option.bind_some]
    simp only [minute, run_cons, run_nil, step, Reads, after, halarm, hentered, hnow, hnext,
      Int.le_refl, and_self, if_true, Option.bind_some]
    refine ⟨_, rfl, rfl, rfl, ?_, hnext⟩
    simp [hlength]

/-- Alarms from the first minute of the year 2000 on, all of them late. -/
def newYearTicks : Ticks := ⟨JAN12000, fun _ => 1, fun _ => Or.inr rfl⟩

/-- From midnight to five o'clock of the next day there are 1740 alarms. The day that begins at five
has one sunrise and one sunset then. -/
theorem sunDaily_newYear :
    ∃ s, run (step equator newYearTicks) (init newYearTicks 0 0) (minutes newYearTicks 1740) =
        some s ∧
      announcedOn "sunrise" 10957 s.alarms = 1 ∧ announcedOn "sunset" 10957 s.alarms = 1 := by
  -- the list of 5220 calls is not to be unfolded
  generalize hn : 1740 = n
  obtain ⟨s, hrun, -, -, hlength, -⟩ := run_minutes equator newYearTicks 0 0 n
  have hdaily := sunDaily_throughout equator dailySun_equator newYearTicks (Int.le_refl _) 0 0
    (minutes newYearTicks n)
  have hsteady (x : ℤ) : SteadyAt newYearTicks x := fun _ _ => rfl
  have hover : dayEnd 10957 ≤ newYearTicks.time s.alarms.length := by
    rw [hlength, ← hn]
    decide
  exact ⟨s, hrun, ((hdaily.last hrun).once 10957 (by decide) hover).mpr ⟨hsteady _, hsteady _⟩⟩

end Dhas.Analysis.SunCalendar
