import Mathlib.Data.Int.Basic

/-!
# Clocks with daylight saving

A local clock that shows the time in force at an instant: a standard offset, and an hour more
while daylight saving is in force. Within four days the clock is changed at most once.

The clock is neither monotone nor injective, so the next instant at which it reads a given time
of the day cannot be found by adding days. What can go wrong is collected here: a reading that
is skipped when the clock is set forward, and two instants with one reading when it is set back.
-/

set_option autoImplicit false

namespace Dhas.Library

structure DaylightClock where
  /-- the offset of the standard time -/
  standard : ℤ
  /-- daylight saving is in force -/
  dst : ℤ → Bool
  /-- when both ends of a stretch of less than four days agree, so does what is between them -/
  changed_once : ∀ a b c, a ≤ b → b ≤ c → c < a + 4 * 86400 → dst a = dst c → dst b = dst a

namespace DaylightClock

variable (clock : DaylightClock)

/-- What daylight saving adds at an instant. -/
def saving (x : ℤ) : ℤ := if clock.dst x then 3600 else 0

/-- What the clock shows, in seconds. -/
def wall (x : ℤ) : ℤ := x + clock.standard + clock.saving x

/-- The number of the day that the clock shows. -/
def day (x : ℤ) : ℤ := clock.wall x / 86400

/-- The clock is set forward over the reading `w`: daylight saving comes into force in the hour
before the instant at which the standard time is `w`. -/
def Skipped (w : ℤ) : Prop :=
  clock.dst (w - clock.standard - 3600) = false ∧ clock.dst (w - clock.standard) = true

/-- The clock is set back between two instants. -/
def SetBack (a b : ℤ) : Prop := a < b ∧ clock.dst a = true ∧ clock.dst b = false

instance (w : ℤ) : Decidable (clock.Skipped w) := inferInstanceAs (Decidable (_ ∧ _))

instance (a b : ℤ) : Decidable (clock.SetBack a b) := inferInstanceAs (Decidable (_ ∧ _ ∧ _))

/-- `x` is the next instant after `t` at which the clock reads `tod` seconds of the day. -/
structure IsNext (t tod x : ℤ) : Prop where
  after : t < x
  reads : clock.wall x % 86400 = tod
  first : ∀ y, t < y → clock.wall y % 86400 = tod → x ≤ y

section Saving

/-- INTERNAL: the reading of the clock by its offset. -/
theorem wall_eq (x : ℤ) : clock.wall x = x + clock.standard + clock.saving x := rfl

/-- INTERNAL: daylight saving adds an hour or nothing. -/
theorem saving_cases (x : ℤ) : clock.saving x = 0 ∨ clock.saving x = 3600 := by
  unfold saving
  cases clock.dst x
  · exact .inl rfl
  · exact .inr rfl

/-- INTERNAL: daylight saving is in force when it adds an hour. -/
theorem dst_eq_true_iff (x : ℤ) : clock.dst x = true ↔ clock.saving x = 3600 := by
  unfold saving
  cases clock.dst x <;> simp

/-- INTERNAL: daylight saving is not in force when it adds nothing. -/
theorem dst_eq_false_iff (x : ℤ) : clock.dst x = false ↔ clock.saving x = 0 := by
  unfold saving
  cases clock.dst x <;> simp

/-- INTERNAL: two instants have the same offset when daylight saving adds the same. -/
theorem dst_eq_iff (x y : ℤ) : clock.dst x = clock.dst y ↔ clock.saving x = clock.saving y := by
  unfold saving
  cases clock.dst x <;> cases clock.dst y <;> simp

/-- INTERNAL: within four days the clock is not changed to and fro. -/
theorem saving_between {a b c : ℤ} (hab : a ≤ b) (hbc : b ≤ c) (hac : c < a + 4 * 86400)
    (h : clock.saving a = clock.saving c) : clock.saving b = clock.saving a :=
  (clock.dst_eq_iff b a).mp (clock.changed_once a b c hab hbc hac ((clock.dst_eq_iff a c).mpr h))

/-- INTERNAL: the clock is set forward over a reading when it adds an hour in the hour before. -/
theorem skipped_iff_saving (w : ℤ) : clock.Skipped w ↔
    clock.saving (w - clock.standard - 3600) = 0 ∧ clock.saving (w - clock.standard) = 3600 := by
  unfold Skipped
  rw [dst_eq_false_iff, dst_eq_true_iff]

/-- INTERNAL: **a reading is never shown exactly when the clock is set forward over it.** -/
theorem skipped_iff {w : ℤ} : clock.Skipped w ↔ ∀ x, clock.wall x ≠ w := by
  rw [skipped_iff_saving]
  constructor
  · rintro ⟨hwinter, hsummer⟩ x hx
    have hxx := clock.wall_eq x
    rcases clock.saving_cases x with h | h
    · rw [show w - clock.standard = x by omega] at hsummer
      omega
    · rw [show w - clock.standard - 3600 = x by omega] at hwinter
      omega
  · intro h
    have hsummer := h (w - clock.standard - 3600)
    have hwinter := h (w - clock.standard)
    unfold wall at hsummer hwinter
    have := clock.saving_cases (w - clock.standard - 3600)
    have := clock.saving_cases (w - clock.standard)
    omega

/-- INTERNAL: around a reading that was skipped, an instant has daylight saving exactly behind
the change. -/
theorem skipped_side {w : ℤ} (h : clock.Skipped w) {x : ℤ}
    (hlow : w - clock.standard - 3 * 86400 < x) (hhigh : x < w - clock.standard + 3 * 86400) :
    (clock.saving x = 0 ∧ x < w - clock.standard) ∨
      clock.saving x = 3600 ∧ w - clock.standard - 3600 < x := by
  have hskip := (clock.skipped_iff_saving w).mp h
  rcases clock.saving_cases x with hx | hx
  · refine .inl ⟨hx, ?_⟩
    by_contra hle
    have := clock.saving_between (a := w - clock.standard - 3600) (b := w - clock.standard)
      (c := x) (by omega) (by omega) (by omega) (by omega)
    omega
  · refine .inr ⟨hx, ?_⟩
    by_contra hle
    have := clock.saving_between (a := x) (b := w - clock.standard - 3600)
      (c := w - clock.standard) (by omega) (by omega) (by omega) (by omega)
    omega

/-- INTERNAL: around a reading that was skipped, the clock only goes forward. -/
theorem wall_lt_of_skipped {w : ℤ} (h : clock.Skipped w) {x y : ℤ} (hxy : x < y)
    (hlow : w - clock.standard - 3 * 86400 < x) (hhigh : y < w - clock.standard + 3 * 86400) :
    clock.wall x < clock.wall y := by
  have hskip := (clock.skipped_iff_saving w).mp h
  have hx := clock.skipped_side h hlow (by omega)
  have hy := clock.skipped_side h (by omega) hhigh
  -- the clock would be set back after it was set forward
  have hback : ¬ (clock.saving x = 3600 ∧ clock.saving y = 0) := by
    intro hxy'
    have := clock.saving_between (a := w - clock.standard - 3600) (b := x) (c := y) (by omega)
      (by omega) (by omega) (by omega)
    omega
  unfold wall
  omega

end Saving

/-! ## The next reading -/

section Next

variable {clock} {t tod : ℤ} (htod : 0 ≤ tod) (hday : tod < 86400)
include htod hday

/-- INTERNAL: an instant that reads `tod` shows it on some day. -/
theorem reads_iff (clock : DaylightClock) (t x : ℤ) :
    clock.wall x % 86400 = tod ↔ ∃ k, clock.wall x = 86400 * (clock.day t + k) + tod := by
  constructor
  · intro h
    exact ⟨clock.wall x / 86400 - clock.day t, by omega⟩
  · rintro ⟨k, hk⟩
    omega

/-- INTERNAL: **when the clock is set forward over today's reading, tomorrow's is the next one**,
by the clock of daylight saving. -/
theorem isNext_skipped_iff (hskip : clock.Skipped (86400 * clock.day t + tod)) {x : ℤ} :
    clock.IsNext t tod x ↔
      x + (clock.standard + 3600) = 86400 * (clock.day t + 1) + tod := by
  have hdiv : clock.day t = clock.wall t / 86400 := rfl
  have ht := clock.wall_eq t
  have htsaving := clock.saving_cases t
  -- tomorrow's reading, shown by the clock of daylight saving
  obtain ⟨y, hyty⟩ : ∃ y, y + (clock.standard + 3600) = 86400 * (clock.day t + 1) + tod :=
    ⟨_, Int.sub_add_cancel ..⟩
  have hsummer : clock.saving y = 3600 := by
    have hside := clock.skipped_side hskip (x := y) (by omega) (by omega)
    omega
  have hy := clock.wall_eq y
  have hty : t < y := by
    by_contra hle
    rcases Int.lt_or_eq_of_le (Int.not_lt.mp hle) with hlt' | heq
    · have := clock.wall_lt_of_skipped hskip (x := y) (y := t) hlt' (by omega) (by omega)
      omega
    · rw [heq] at hsummer hyty
      omega
  have hunique : ∀ z, t < z → clock.wall z % 86400 = tod → y ≤ z := by
    intro z htz hz
    by_contra hlt
    obtain ⟨k, hk⟩ := (reads_iff htod hday clock t z).mp hz
    have hzy := clock.wall_lt_of_skipped hskip (x := z) (y := y) (by omega) (by omega) (by omega)
    have htz' := clock.wall_lt_of_skipped hskip (x := t) (y := z) (by omega) (by omega) (by omega)
    have hzero : k = 0 := by omega
    rw [hzero, Int.add_zero] at hk
    exact clock.skipped_iff.mp hskip z hk
  have hnext : clock.IsNext t tod y := ⟨hty, by omega, hunique⟩
  constructor
  · intro h
    have hle := h.first y hty hnext.reads
    have hge := hunique x h.after h.reads
    omega
  · intro hx
    rw [show x = y by omega]
    exact hnext

/-- INTERNAL: **today's reading, at an instant to come.** It is the next one unless the clock is
set back in the hour before and shows it twice, or is set back to the day before and shows
yesterday's. -/
theorem isNext_ahead_iff {x : ℤ} (hx : clock.wall x = 86400 * clock.day t + tod) (htx : t < x) :
    clock.IsNext t tod x ↔
      ¬ (t < x - 3600 ∧ clock.SetBack (x - 3600) x) ∧ ¬ clock.SetBack t (x - 86400) := by
  have hdiv : clock.day t = clock.wall t / 86400 := rfl
  have ht := clock.wall_eq t
  have hxx := clock.wall_eq x
  have htsaving := clock.saving_cases t
  have hxsaving := clock.saving_cases x
  unfold SetBack
  simp only [dst_eq_true_iff, dst_eq_false_iff]
  constructor
  · intro h
    constructor
    · rintro ⟨htx', -, hsummer, hwinter⟩
      have := clock.wall_eq (x - 3600)
      have := h.first (x - 3600) htx' (by omega)
      omega
    · rintro ⟨htx', -, hwinter⟩
      have := clock.wall_eq (x - 86400)
      have := h.first (x - 86400) htx' (by omega)
      omega
  · rintro ⟨hhour, hyesterday⟩
    refine ⟨htx, by omega, fun y hty hy => ?_⟩
    by_contra hlt
    obtain ⟨k, hk⟩ := (reads_iff htod hday clock t y).mp hy
    have hyy := clock.wall_eq y
    have hysaving := clock.saving_cases y
    obtain hk0 | hk1 : k = 0 ∨ k = -1 := by omega
    · -- the same reading twice: the clock is set back between the two
      rw [hk0] at hk
      have hyx : y = x - 3600 := by omega
      rw [← hyx] at hhour
      exact hhour ⟨hty, by omega, by omega, by omega⟩
    · -- yesterday's reading: the clock was set back between `t` and `y`
      rw [hk1] at hk
      have hback : clock.saving t = 3600 ∧ clock.saving y = 0 := by omega
      have hyx : clock.saving x = 0 := by
        rcases hxsaving with h | h
        · exact h
        · have := clock.saving_between (a := t) (b := y) (c := x) (by omega) (by omega)
            (by omega) (by omega)
          omega
      have hyx' : y = x - 86400 := by omega
      rw [← hyx'] at hyesterday
      exact hyesterday ⟨hty, hback⟩

/-- INTERNAL: **a day after an instant that showed today's reading.** The next reading is there
when the clock has the same offset at the instant, now, and a day after the instant. -/
theorem isNext_behind_iff {x : ℤ} (hx : clock.wall x = 86400 * clock.day t + tod) (hxt : x ≤ t) :
    clock.IsNext t tod (x + 86400) ↔
      clock.dst t = clock.dst x ∧ clock.dst (x + 86400) = clock.dst x := by
  have hdiv : clock.day t = clock.wall t / 86400 := rfl
  have ht := clock.wall_eq t
  have hxx := clock.wall_eq x
  have hxx' := clock.wall_eq (x + 86400)
  have htsaving := clock.saving_cases t
  have hxsaving := clock.saving_cases x
  have hxsaving' := clock.saving_cases (x + 86400)
  rw [dst_eq_iff, dst_eq_iff]
  constructor
  · intro h
    have hreads := h.reads
    have hafter := h.after
    have hsame : clock.saving x = clock.saving (x + 86400) := by omega
    exact ⟨clock.saving_between hxt (by omega) (by omega) hsame, hsame.symm⟩
  · rintro ⟨hnow, hsame⟩
    refine ⟨by omega, by omega, fun y hty hy => ?_⟩
    by_contra hlt
    obtain ⟨k, hk⟩ := (reads_iff htod hday clock t y).mp hy
    -- the clock is not changed between the two instants
    have := clock.saving_between (a := x) (b := y) (c := x + 86400) (by omega) (by omega)
      (by omega) hsame.symm
    have := clock.wall_eq y
    omega

end Next

end DaylightClock

end Dhas.Library
