import Dhas.Library.Windows
import Dhas.Program.OnAlarm

/-!
# The alarms of a run

The timer fires at every full minute after the constructor, and `onAlarm` reads the clock in whole
seconds when it gets to run: in the second that the timer fires, or in the next one. Between two
alarms the REST callbacks change the schedule. `EventProcessor.cpp:16-28, 51-61`.
-/

set_option autoImplicit false

namespace Dhas.Model

open Dhas.Program

/-- When the constructor ran, and how late each alarm is. -/
structure Ticks where
  started : ℤ
  late : ℕ → ℤ
  late_eq : ∀ k, late k = 0 ∨ late k = 1

namespace Ticks

open EventProcessor

/-- The time that an alarm reads. -/
def time (ticks : Ticks) (k : ℕ) : ℤ :=
  firstAlarm ticks.started + interval * k + ticks.late k

variable {ticks : Ticks}

/-- INTERNAL: an alarm reads the beginning of its minute, or the second after. -/
theorem time_eq (ticks : Ticks) (k : ℕ) :
    ticks.time k = 60 * (ticks.started / 60 + 1 + k) + ticks.late k := by
  unfold time interval
  rw [firstAlarm_eq]
  omega

/-- INTERNAL: an alarm is at most a second late. -/
theorem late_bounds (ticks : Ticks) (k : ℕ) : 0 ≤ ticks.late k ∧ ticks.late k ≤ 1 := by
  have hlate := ticks.late_eq k
  omega

/-- INTERNAL: an alarm is a minute after the one before it, up to a second. -/
theorem time_succ (ticks : Ticks) (k : ℕ) :
    ticks.time (k + 1) = ticks.time k + 60 + (ticks.late (k + 1) - ticks.late k) := by
  unfold time interval
  rw [Nat.cast_succ]
  omega

/-- INTERNAL: a later alarm reads no earlier time. -/
theorem time_le_time (ticks : Ticks) {a b : ℕ} (h : a ≤ b) : ticks.time a ≤ ticks.time b := by
  induction b, h using Nat.le_induction with
  | base => exact Int.le_refl _
  | succ k hk ih =>
    have hstep := ticks.time_succ k
    have hthis := ticks.late_bounds k
    have hnext := ticks.late_bounds (k + 1)
    omega

/-- INTERNAL: the minute of an alarm ends before the second next one. -/
theorem time_add_le (ticks : Ticks) (k : ℕ) : ticks.time k + 60 ≤ ticks.time (k + 2) := by
  have hstep := ticks.time_succ k
  have hstep' := ticks.time_succ (k + 1)
  have hthis := ticks.late_bounds k
  have hnext := ticks.late_bounds (k + 1 + 1)
  rw [show k + 1 + 1 = k + 2 from rfl] at hstep' hnext
  omega

end Ticks

/-- What the calls of `checkSun` pass to `processEvent` in the first alarms. -/
def sunMessages (ticks : Ticks) (sunrise sunset : ℤ) (n : ℕ) : List JSON :=
  (List.range n).flatMap fun k => EventProcessor.checkSun sunrise sunset (ticks.time k)

/-- The schedule, and all messages that were passed to `processEvent`. -/
structure TimerRun where
  mpSchedule : Schedule
  messages : List JSON

/-- The first alarms, with what happens to the schedule before each. -/
def TimerRun.alarms (appendPeriodicData : JSON → JSON) (between : ℕ → Schedule → Schedule)
    (ticks : Ticks) (sunrise sunset : ℤ) (r : TimerRun) : ℕ → TimerRun
  | 0 => r
  | n + 1 =>
    let r' := TimerRun.alarms appendPeriodicData between ticks sunrise sunset r n
    let out := EventProcessor.onAlarm appendPeriodicData sunrise sunset
      (between n r'.mpSchedule) (ticks.time n)
    ⟨out.2, r'.messages ++ out.1⟩

end Dhas.Model
