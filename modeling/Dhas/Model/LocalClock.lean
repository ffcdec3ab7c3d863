import Dhas.Library.DaylightClock
import Dhas.Program.Schedule

/-!
# The zone of the machine

What the schedule relies on from `localtime` and `mktime`: `localtime` gives the date that the
local clock shows, and `mktime` with `tm_isdst` -1 an instant at which the clock shows the date,
hour and minute, if there is one. Where there is none, or more than one, nothing more is said.

`zoneOf` is such a zone over the calendar of `utc`.
-/

set_option autoImplicit false

namespace Dhas.Model

open Dhas.Library Dhas.Program

/-- The zone goes by the clock. -/
structure GoesBy (zone : TimeZone) (clock : DaylightClock) : Prop where
  localtime : ∀ t, zone.localtime t = utc.localtime (clock.wall t)
  mktime : ∀ s hour min x, 0 ≤ hour → hour ≤ 23 → 0 ≤ min → min ≤ 59 →
    clock.wall x = 86400 * (s / 86400) + (3600 * hour + 60 * min) →
    clock.wall (zone.mktime (utc.localtime s) hour min) =
      86400 * (s / 86400) + (3600 * hour + 60 * min)

/-! ## The calendar -/

/-- INTERNAL: the day of the year, from the day of an era and what is left of the divisions by
the lengths of 4, 100 and 400 years. -/
theorem dayOfYear_bounds {d y q c l p e : ℤ}
    (hday : 0 ≤ d ∧ d ≤ 146096)
    (hyear : 0 ≤ d - p + e - l - 365 * y ∧
      d - p + e - l - 365 * y ≤ 364)
    (hq : 0 ≤ y - 4 * q ∧ y - 4 * q ≤ 3) (hc : 0 ≤ y - 100 * c ∧ y - 100 * c ≤ 99)
    (hcycle : 0 ≤ d - 1460 * p ∧ d - 1460 * p ≤ 1459)
    (hera : 0 ≤ d - 36524 * e ∧ d - 36524 * e ≤ 36523)
    (hleap : 0 ≤ d - 146096 * l ∧ d - 146096 * l ≤ 146095) :
    0 ≤ d - (365 * y + q - c) ∧ d - (365 * y + q - c) ≤ 365 := by
  have hera' : e = 0 ∨ e = 1 ∨ e = 2 ∨ e = 3 ∨ e = 4 := by omega
  have hleap' : l = 0 ∨ l = 1 := by omega
  have hc' : c = 0 ∨ c = 1 ∨ c = 2 ∨ c = 3 := by omega
  rcases hera' with rfl | rfl | rfl | rfl | rfl <;> rcases hleap' with rfl | rfl <;>
    rcases hc' with rfl | rfl | rfl | rfl <;> omega

/-- INTERNAL: `mktime` takes a date back to the day it came from. -/
theorem utc_mktime_localtime (s hour min : ℤ) :
    utc.mktime (utc.localtime s) hour min = 86400 * (s / 86400) + (3600 * hour + 60 * min) := by
  have hday : 0 ≤ (s / 86400 + 719468) % 146097 ∧ (s / 86400 + 719468) % 146097 ≤ 146096 := by
    omega
  simp only [utc]
  generalize hera : (s / 86400 + 719468) / 146097 = era
  generalize hdoe : (s / 86400 + 719468) % 146097 = day at hday ⊢
  generalize hyear : (day - day / 1460 + day / 36524 - day / 146096) / 365 = year
  have hyear' : 0 ≤ year ∧ year ≤ 399 := by omega
  have hdoy := dayOfYear_bounds (y := year) (q := year / 4) (c := year / 100)
    (p := day / 1460) (e := day / 36524) (l := day / 146096) hday (by omega) (by omega)
    (by omega) (by omega) (by omega) (by omega)
  generalize hdoy' : day - (365 * year + year / 4 - year / 100) = doy at hdoy ⊢
  generalize hmonth : (5 * doy + 2) / 153 = month
  have hmonth' : 0 ≤ month ∧ month ≤ 11 := by omega
  have hfour : (year + 400 * era) / 4 = year / 4 + 100 * era := by omega
  have hhundred : (year + 400 * era) / 100 = year / 100 + 4 * era := by omega
  have hera' : (year + 400 * era) / 400 = era := by omega
  by_cases hlow : month < 10
  · have hnot : ¬ month + 2 < 2 := by omega
    simp only [if_pos hlow, if_neg hnot]
    rw [show month + 2 - 2 = month by omega,
      show year + 400 * era - 1900 + 0 + 1900 - 0 = year + 400 * era by omega, hfour, hhundred,
      hera']
    omega
  · have hlt : month - 10 < 2 := by omega
    simp only [if_neg hlow, if_pos hlt]
    rw [show month - 10 + 10 = month by omega,
      show year + 400 * era - 1900 + 1 + 1900 - 1 = year + 400 * era by omega, hfour, hhundred,
      hera']
    omega

/-! ## A zone for every clock -/

/-- The calendar of UTC with the readings of the clock. For a time that the clock shows twice
`mktime` takes the one with daylight saving. -/
def zoneOf (clock : DaylightClock) : TimeZone where
  localtime t := utc.localtime (clock.wall t)
  mktime date hour min :=
    let winter := utc.mktime date hour min - clock.standard
    if clock.dst (winter - 3600) then winter - 3600 else winter

/-- INTERNAL: the time zone that a clock makes goes by that clock. -/
theorem goesBy_zoneOf (clock : DaylightClock) : GoesBy (zoneOf clock) clock where
  localtime := fun _ => rfl
  mktime := by
    intro s hour min x _ _ _ _ hx
    simp only [zoneOf, utc_mktime_localtime]
    generalize 86400 * (s / 86400) + (3600 * hour + 60 * min) = w at hx ⊢
    have hxx := clock.wall_eq x
    split
    case isTrue hdst =>
      have hsaving : clock.saving (w - clock.standard - 3600) = 3600 := if_pos hdst
      have := clock.wall_eq (w - clock.standard - 3600)
      omega
    case isFalse hdst =>
      have hsaving : clock.saving (w - clock.standard - 3600) = 0 := if_neg hdst
      have := clock.wall_eq (w - clock.standard)
      rcases clock.saving_cases x with h | h
      · rw [show w - clock.standard = x by omega]
        exact hx
      · rw [show w - clock.standard - 3600 = x by omega] at hsaving
        omega

/-- A clock that is set forward once, at `change`. -/
def setForward (standard change : ℤ) : DaylightClock where
  standard := standard
  dst x := decide (change ≤ x)
  changed_once := by
    intro a b c hab hbc _ h
    rw [decide_eq_decide] at h ⊢
    omega

end Dhas.Model
