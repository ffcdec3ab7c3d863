import Dhas.Program.Schedule

/-!
# The timer of the event processor

`EventProcessor.cpp`: the timer that the constructor sets, `onAlarm` and `checkSun`. The messages
are the ones passed to `processEvent`. What the modules append to the message of the timer is a
parameter.
-/

set_option autoImplicit false

namespace Dhas.Program

namespace EventProcessor

/-- When the timer fires for the first time, if the constructor reads the time `t`: `it_value`
later. SOURCE: EventProcessor.cpp:52-57 -/
def firstAlarm (t : ℤ) : ℤ := t + (60 - t % 60)

/-- `it_interval` -/
def interval : ℤ := 60

def sunMessage (event : String) (t : ℤ) : JSON :=
  [("event", jsonText event), ("timestamp", .num (toUnsigned t))]

/-- SOURCE: EventProcessor.cpp:72-90 -/
def checkSun (sunrise sunset t : ℤ) : List JSON :=
  if sunrise ≥ t ∧ sunrise < t + 60 then [sunMessage "sunrise" t]
  else if sunset ≥ t ∧ sunset < t + 60 then [sunMessage "sunset" t]
  else []

def timerMessage (t : ℤ) : JSON := [("event", jsonText "timer"), ("timestamp", .num (toUnsigned t))]

/-- The messages of one alarm and the schedule after it. SOURCE: EventProcessor.cpp:16-28 -/
def onAlarm (appendPeriodicData : JSON → JSON) (sunrise sunset : ℤ) (mpSchedule : Schedule)
    (t : ℤ) : List JSON × Schedule :=
  let due := mpSchedule.processSchedule t
  (due.1 ++ appendPeriodicData (timerMessage t) :: checkSun sunrise sunset t, due.2)

/-- INTERNAL: the first alarm is at the start of the next minute. -/
theorem firstAlarm_eq (t : ℤ) : firstAlarm t = 60 * (t / 60 + 1) := by
  unfold firstAlarm
  omega

/-- The messages with an event. -/
def announced (event : String) (messages : List JSON) : ℕ :=
  messages.countP fun message => message.get "event" = some (jsonText event)

/-- INTERNAL: what is announced in two runs, one after the other. -/
theorem announced_append (event : String) (messages more : List JSON) :
    announced event (messages ++ more) = announced event messages + announced event more :=
  List.countP_append

/-- INTERNAL: a sunrise is announced in the minute from the alarm on.
SOURCE: EventProcessor.cpp:76 -/
theorem announced_sunrise (sunrise sunset t : ℤ) :
    announced "sunrise" (checkSun sunrise sunset t) =
      if t ≤ sunrise ∧ sunrise < t + 60 then 1 else 0 := by
  unfold checkSun
  by_cases hrise : sunrise ≥ t ∧ sunrise < t + 60
  · rw [if_pos hrise, if_pos hrise]
    rfl
  · rw [if_neg hrise, if_neg hrise]
    by_cases hset : sunset ≥ t ∧ sunset < t + 60
    · rw [if_pos hset]
      rfl
    · rw [if_neg hset]
      rfl

/-- INTERNAL: and a sunset, when there is no sunrise in the same minute.
SOURCE: EventProcessor.cpp:82 -/
theorem announced_sunset {sunrise sunset : ℤ} (hapart : 60 ≤ |sunrise - sunset|) (t : ℤ) :
    announced "sunset" (checkSun sunrise sunset t) =
      if t ≤ sunset ∧ sunset < t + 60 then 1 else 0 := by
  unfold checkSun
  by_cases hset : sunset ≥ t ∧ sunset < t + 60
  · have hrise : ¬ (sunrise ≥ t ∧ sunrise < t + 60) := by
      rintro ⟨hopen, hclose⟩
      rcases le_abs.mp hapart with hlate | hlate <;> omega
    rw [if_neg hrise, if_pos hset, if_pos hset]
    rfl
  · rw [if_neg hset, if_neg hset]
    by_cases hrise : sunrise ≥ t ∧ sunrise < t + 60
    · rw [if_pos hrise]
      rfl
    · rw [if_neg hrise]
      rfl

end EventProcessor

end Dhas.Program
