import Dhas.Library.Run
import Dhas.Model.AlarmTicks
import Dhas.Program.WeatherHelper

/-!
# The sun over many days

The alarms of `Dhas.Model.AlarmTicks` ask `WeatherHelper` for the two instants, and so does the
callback of `/gettime`, of which one runs at a time. Each call of `WeatherHelper` is a step, and
the two parties take their steps in any order. The clock that they read never goes back. The alarms
come at their times: an alarm is over when the next one is due, and nothing reads the clock between
the time of an alarm and the alarm.

`EventProcessor.cpp:16-28, 72-90`, `RESTInterface.cpp:119-131`.
-/

set_option autoImplicit false

namespace Dhas.Model

open Dhas.Library Dhas.Program

/-- Where `onAlarm` is: `checkSun` asks for the sunset first. -/
inductive AlarmPc where
  | idle
  | getSunSet (t : ℤ)
  | getSunRise (t sunset : ℤ)
  deriving DecidableEq

/-- Where `gettime_callback` is: it asks for the sunrise first. -/
inductive GettimePc where
  | idle
  | getSunRise (t : ℤ)
  | getSunSet (t sunrise : ℤ)
  deriving DecidableEq

/-- An answer of `/gettime`, with the last time that was read for it. -/
structure GettimeAnswer where
  t : ℤ
  last : ℤ
  json : JSON

structure SunDays where
  weather : WeatherHelper
  /-- the last reading of the clock -/
  now : ℤ
  /-- the number of alarms so far -/
  entered : ℕ
  alarm : AlarmPc
  gettime : GettimePc
  /-- the alarms that are over: the time of each, and what `checkSun` passed on -/
  alarms : List (ℤ × List JSON)
  answers : List GettimeAnswer

namespace SunDays

inductive Act where
  /-- `onAlarm` reads the time -/
  | onAlarm
  /-- the next step of `checkSun` -/
  | checkSun (r : ClockReading)
  /-- `gettime_callback` reads the time -/
  | gettime (t : ℤ)
  /-- the next step of `gettime_callback` -/
  | answer (r : ClockReading)

def init (ticks : Ticks) (mSunset mSunrise : ℤ) : SunDays :=
  ⟨WeatherHelper.new mSunset mSunrise, ticks.started, 0, .idle, .idle, [], []⟩

/-- The clock does not go back, and the next alarm is not due. -/
def Reads (ticks : Ticks) (s : SunDays) (r : ClockReading) : Prop :=
  s.now ≤ r.t ∧ r.t ≤ r.again ∧ r.again ≤ ticks.time s.entered

instance (ticks : Ticks) (s : SunDays) (r : ClockReading) : Decidable (Reads ticks s r) :=
  inferInstanceAs (Decidable (_ ∧ _ ∧ _))

/-- A call of `WeatherHelper`, which was reading the clock. -/
def after (calculate : ℤ → ℤ × ℤ) (s : SunDays) (r : ClockReading) : SunDays :=
  { s with weather := s.weather.refresh calculate r, now := r.again }

def step (calculate : ℤ → ℤ × ℤ) (ticks : Ticks) (s : SunDays) : Act → Option SunDays
  | .onAlarm =>
    let t := ticks.time s.entered
    if s.alarm = .idle ∧ s.now ≤ t then
      some { s with now := t, entered := s.entered + 1, alarm := .getSunSet t }
    else none
  | .checkSun r =>
    if Reads ticks s r then
      match s.alarm with
      | .idle => none
      | .getSunSet t =>
        some { s.after calculate r with
          alarm := .getSunRise t (s.weather.getSunSet calculate r).2 }
      | .getSunRise t sunset =>
        let sunrise := (s.weather.getSunRise calculate r).2
        some { s.after calculate r with
          alarm := .idle
          alarms := s.alarms ++ [(t, EventProcessor.checkSun sunrise sunset t)] }
    else none
  | .gettime t =>
    if s.gettime = .idle ∧ s.now ≤ t ∧ t ≤ ticks.time s.entered then
      some { s with now := t, gettime := .getSunRise t }
    else none
  | .answer r =>
    if Reads ticks s r then
      match s.gettime with
      | .idle => none
      | .getSunRise t =>
        some { s.after calculate r with
          gettime := .getSunSet t (s.weather.getSunRise calculate r).2 }
      | .getSunSet t sunrise =>
        let sunset := (s.weather.getSunSet calculate r).2
        some { s.after calculate r with
          gettime := .idle
          answers := s.answers ++ [⟨t, r.t, gettimeAnswer t sunrise sunset⟩] }
    else none

end SunDays

end Dhas.Model
