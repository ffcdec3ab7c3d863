import Dhas.Model.LocalClock

/-!
# The timeout of a scheduled event

The constructor takes the instant that `mktime` gives for today, and a day of 86400 seconds later
when that is over. This is the next instant at which the local clock shows the hour and minute
unless the clock is changed. Which changes matter depends on today's reading: whether the clock
is set forward over it, and whether its instant is over.
-/

set_option autoImplicit false

namespace Dhas.Analysis.EventTimeout

open Dhas.Library Dhas.Program Dhas.Model

/-- The seconds of the day at `hour`:`min`. -/
def timeOfDay (hour min : ℤ) : ℤ := 3600 * hour + 60 * min

/-- What the clock shows today at `hour`:`min`. -/
def today (clock : DaylightClock) (t hour min : ℤ) : ℤ :=
  86400 * clock.day t + timeOfDay hour min

/-- The clock is not changed in a way that matters, where `x` is what `mktime` gives for today.
When `x` is to come, the clock is not set back in the hour before it, after `t`, nor to the day
before, between `t` and the instant a day before `x`. When `x` is over, the clock has the same
offset at `x`, at `t` and a day after `x`. When the clock is set forward over today's time, `mktime`
goes by the offset of daylight saving, for today if `x` is over, for tomorrow if not. -/
def Steady (clock : DaylightClock) (t hour min x : ℤ) : Prop :=
  if clock.Skipped (today clock t hour min) then
    x + (clock.standard + 3600) =
      if t < x then today clock t hour min + 86400 else today clock t hour min
  else if t < x then
    ¬ (t < x - 3600 ∧ clock.SetBack (x - 3600) x) ∧ ¬ clock.SetBack t (x - 86400)
  else clock.dst t = clock.dst x ∧ clock.dst (x + 86400) = clock.dst x

instance (clock : DaylightClock) (t hour min x : ℤ) : Decidable (Steady clock t hour min x) := by
  unfold Steady
  infer_instance

/-- INTERNAL: an hour and a minute are a time of the day. -/
theorem timeOfDay_range {hour min : ℤ} (hhour : 0 ≤ hour ∧ hour ≤ 23)
    (hmin : 0 ≤ min ∧ min ≤ 59) : 0 ≤ timeOfDay hour min ∧ timeOfDay hour min < 86400 := by
  unfold timeOfDay
  omega

/-- INTERNAL: tomorrow's time is shown a day after today's. -/
theorem tomorrow_eq (clock : DaylightClock) (t hour min : ℤ) :
    86400 * (clock.day t + 1) + timeOfDay hour min = today clock t hour min + 86400 := by
  unfold today
  omega

section Timeout

variable {clock : DaylightClock} {t hour min x : ℤ} (hhour : 0 ≤ hour ∧ hour ≤ 23)
  (hmin : 0 ≤ min ∧ min ≤ 59)
include hhour hmin

/-- INTERNAL: today's time is shown at `x`. SOURCE: ScheduledEvent.cpp:24-34 -/
theorem isNext_of_shown (hx : clock.wall x = today clock t hour min) :
    clock.IsNext t (timeOfDay hour min) (if x > t then x else x + 60 * 60 * 24) ↔
      Steady clock t hour min x := by
  obtain ⟨htod, hday⟩ := timeOfDay_range hhour hmin
  have hskip : ¬ clock.Skipped (today clock t hour min) :=
    fun h => (DaylightClock.skipped_iff clock).mp h x hx
  unfold Steady
  rw [if_neg hskip]
  by_cases htx : t < x
  · rw [if_pos htx, if_pos htx]
    exact DaylightClock.isNext_ahead_iff htod hday hx htx
  · rw [if_neg htx, if_neg htx]
    exact DaylightClock.isNext_behind_iff htod hday hx (Int.not_lt.mp htx)

/-- INTERNAL: the clock is set forward over today's time. SOURCE: ScheduledEvent.cpp:24-34 -/
theorem isNext_of_skipped (hskip : clock.Skipped (today clock t hour min)) :
    clock.IsNext t (timeOfDay hour min) (if x > t then x else x + 60 * 60 * 24) ↔
      Steady clock t hour min x := by
  obtain ⟨htod, hday⟩ := timeOfDay_range hhour hmin
  have htomorrow := tomorrow_eq clock t hour min
  rw [DaylightClock.isNext_skipped_iff htod hday hskip, htomorrow]
  unfold Steady
  rw [if_pos hskip]
  by_cases htx : t < x
  · rw [if_pos htx, if_pos htx]
  · rw [if_neg htx, if_neg htx]
    omega

end Timeout

/-- **The timeout is the next instant at which the local clock shows the hour and minute,
exactly when the clock is not changed in one of the ways that matter.** For every clock with
daylight saving, every zone that goes by it, every time, hour and minute, also when the clock is
set forward over them today.
SOURCE: ScheduledEvent.cpp:4-35, RESTInterface.cpp:103-109 -/
theorem timeout_isNext_iff (clock : DaylightClock) (zone : TimeZone) (this : UInt64)
    (name param : CString) (t hour min : ℤ) (hzone : GoesBy zone clock)
    (hhour : 0 ≤ hour ∧ hour ≤ 23) (hmin : 0 ≤ min ∧ min ≤ 59) :
    clock.IsNext t (timeOfDay hour min)
        (ScheduledEvent.new zone this t name param min hour).mTimeout ↔
      Steady clock t hour min (zone.mktime (zone.localtime t) hour min) := by
  by_cases hskip : clock.Skipped (today clock t hour min)
  · exact isNext_of_skipped hhour hmin hskip
  · have hshown := mt (DaylightClock.skipped_iff clock).mpr hskip
    push Not at hshown
    obtain ⟨x, hx⟩ := hshown
    have hmktime := hzone.mktime (clock.wall t) hour min x hhour.1 hhour.2 hmin.1 hmin.2 hx
    rw [← hzone.localtime] at hmktime
    exact isNext_of_shown hhour hmin hmktime

/-- The clock of New York in the spring of 2024, set forward on March 10. -/
def newYork : DaylightClock := setForward (-18000) 1710054000

/-- On March 9 at 13:00 an event for 14:00 is set right. -/
theorem timeout_isNext_newYork :
    newYork.IsNext 1710007200 (timeOfDay 14 0)
      (ScheduledEvent.new (zoneOf newYork) 0 1710007200 [] [] 0 14).mTimeout :=
  (timeout_isNext_iff newYork (zoneOf newYork) 0 [] [] 1710007200 14 0 (goesBy_zoneOf newYork)
    (by decide) (by decide)).mpr (by decide)

/-- An event for 8:00 comes at 9:00 on March 10. SOURCE: ScheduledEvent.cpp:30-34 -/
theorem timeout_hour_late :
    GoesBy (zoneOf newYork) newYork ∧
      newYork.wall 1710072000 = today newYork 1710007200 8 0 + 86400 ∧
      (ScheduledEvent.new (zoneOf newYork) 0 1710007200 [] [] 0 8).mTimeout =
        1710072000 + 3600 ∧
      ¬ newYork.IsNext 1710007200 (timeOfDay 8 0)
        (ScheduledEvent.new (zoneOf newYork) 0 1710007200 [] [] 0 8).mTimeout := by
  refine ⟨goesBy_zoneOf newYork, by decide, by decide, fun h => ?_⟩
  exact absurd h.reads (by decide)

end Dhas.Analysis.EventTimeout
