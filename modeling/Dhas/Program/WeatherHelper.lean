import Dhas.Program.JSON

/-!
# The times of the sun

`WeatherHelper.cpp`, and the answer of `gettime_callback` in `RESTInterface.cpp`. The two instants
are kept until the clock is past `mLastDay`, and are calculated again then. The calculation itself
is done in floating point, from the number of whole days since the year 2000: it is a parameter,
which gives the sunrise and the sunset of a day.

A call reads the clock once, and a second time when it calculates.
-/

set_option autoImplicit false

namespace Dhas.Program

def JAN12000 : ℤ := 946684800

def GMT_CORRECTION : ℤ := 5 * 60 * 60

/-- The readings of the clock in one call. -/
structure ClockReading where
  /-- `time(&t)` in `getSunRise` and `getSunSet` -/
  t : ℤ
  /-- `time(&t)` in `recalculate` -/
  again : ℤ
  deriving DecidableEq

structure WeatherHelper where
  mLastDay : ℤ
  mSunset : ℤ
  mSunrise : ℤ
  deriving DecidableEq

namespace WeatherHelper

/-- The constructor leaves the instants as they are. -/
def new (mSunset mSunrise : ℤ) : WeatherHelper := ⟨0, mSunset, mSunrise⟩

/-- `(t-JAN12000)/(60*60*24)`, which is converted to a `time_t`. -/
def wholeDays (t : ℤ) : ℤ := (t - JAN12000).tdiv 86400

variable (calculate : ℤ → ℤ × ℤ)

/-- SOURCE: WeatherHelper.cpp:37-72 -/
def recalculate (t : ℤ) : WeatherHelper where
  mLastDay := (t / 86400 + 1) * 86400 + GMT_CORRECTION
  mSunrise := (calculate (wholeDays t)).1
  mSunset := (calculate (wholeDays t)).2

/-- `if (t>mLastDay) recalculate();` -/
def refresh (w : WeatherHelper) (r : ClockReading) : WeatherHelper :=
  if r.t > w.mLastDay then recalculate calculate r.again else w

/-- SOURCE: WeatherHelper.cpp:74-81 -/
def getSunRise (w : WeatherHelper) (r : ClockReading) : WeatherHelper × ℤ :=
  (w.refresh calculate r, (w.refresh calculate r).mSunrise)

/-- SOURCE: WeatherHelper.cpp:83-91 -/
def getSunSet (w : WeatherHelper) (r : ClockReading) : WeatherHelper × ℤ :=
  (w.refresh calculate r, (w.refresh calculate r).mSunset)

end WeatherHelper

/-- The answer of `/gettime`. SOURCE: RESTInterface.cpp:126-130 -/
def gettimeAnswer (t sunrise sunset : ℤ) : JSON :=
  let night := t ≥ sunset ∨ t < sunrise
  [("timestamp", .num (toUnsigned t)), ("night", jsonText (if night then "true" else "false"))]

end Dhas.Program
