import Dhas.Program.SoundDevice
import Mathlib.Algebra.Order.Ring.Int
import Mathlib.Data.Nat.Find

/-!
# How long a silence is

`getSample` counts up to `mSamplingRate*mDuration*mSampleSize`, which is stored in an
`unsigned int`. Whatever the chunks are, a silence gives that many bytes. It is the number that
was asked for when the product is not negative and fits; a negative duration makes a silence of
days.
-/

set_option autoImplicit false

namespace Dhas.Analysis.SilenceLength

open Dhas.Program Dhas.Program.Sound

/-- The silence that `ISoundDevice::silence` puts on the queue of a device. -/
def silence (sampleRate sampleSize : ℕ) (seconds : ℤ) : SilenceSound :=
  ⟨seconds, sampleRate, sampleSize, 0⟩

/-- The silence after `k` reads of these sizes. -/
def after (s : SilenceSound) (sizes : ℕ → ℕ) : ℕ → SilenceSound
  | 0 => s
  | k + 1 => ((after s sizes k).getSample (sizes k)).2

/-- What the read after `k` others writes; its length is what the read returns. -/
def written (s : SilenceSound) (sizes : ℕ → ℕ) (k : ℕ) : List UInt8 :=
  ((after s sizes k).getSample (sizes k)).1

/-- The number of bytes that the first `k` reads ask for. -/
def asked (sizes : ℕ → ℕ) (k : ℕ) : ℕ := ((List.range k).map sizes).sum

/-- The reads up to the first one that returns less than it was asked for write zeros, no more
than they were asked for, and `total` of them together. -/
def GivesZeros (s : SilenceSound) (sizes : ℕ → ℕ) (total : ℕ) : Prop :=
  ∃ n, (∀ k < n, (written s sizes k).length = sizes k) ∧
    (written s sizes n).length < sizes n ∧
    (∀ k ≤ n, (written s sizes k).length ≤ sizes k ∧ ∀ b ∈ written s sizes k, b = 0) ∧
    ((List.range (n + 1)).map fun k => (written s sizes k).length).sum = total

/-- INTERNAL: how far the reads have come. The induction is on their number.
SOURCE: SilenceSound.cpp:18-30 -/
theorem after_mIndex (sampleRate sampleSize : ℕ) (seconds : ℤ) (sizes : ℕ → ℕ) (k : ℕ) :
    after (silence sampleRate sampleSize seconds) sizes k =
      { silence sampleRate sampleSize seconds with
        mIndex := min (asked sizes k) (silence sampleRate sampleSize seconds).maxSize } := by
  generalize hs : silence sampleRate sampleSize seconds = s
  have hindex : s.mIndex = 0 := by rw [← hs, silence]
  induction k with
  | zero =>
    simp only [after, asked, List.range_zero, List.map_nil, List.sum_nil, Nat.zero_min]
    rw [← hindex]
  | succ k ih =>
    have hasked : asked sizes (k + 1) = asked sizes k + sizes k := by
      simp [asked, List.range_succ]
    have hmax (i : ℕ) : SilenceSound.maxSize { s with mIndex := i } = s.maxSize := rfl
    have hindex' : min (asked sizes k) s.maxSize +
        min (sizes k) (s.maxSize - min (asked sizes k) s.maxSize) =
          min (asked sizes k + sizes k) s.maxSize := by omega
    simp only [after, ih, SilenceSound.getSample, hmax, hasked, hindex']

section Reads

variable (sampleRate sampleSize : ℕ) (seconds : ℤ) (sizes : ℕ → ℕ)

/-- INTERNAL: what the first reads write is zeroes, up to the length of the silence. -/
theorem written_eq (k : ℕ) : written (silence sampleRate sampleSize seconds) sizes k =
    List.replicate (min (sizes k)
      ((silence sampleRate sampleSize seconds).maxSize - asked sizes k)) 0 := by
  have hmax (i : ℕ) : SilenceSound.maxSize
      { silence sampleRate sampleSize seconds with mIndex := i } =
        (silence sampleRate sampleSize seconds).maxSize := rfl
  have hleft (a m : ℕ) : m - min a m = m - a := by omega
  rw [written, after_mIndex]
  simp only [SilenceSound.getSample, hmax, hleft]

/-- INTERNAL: **the reads up to the first short one give all bytes of the silence.**
SOURCE: SilenceSound.cpp:18-30 -/
theorem givesZeros_iff (total : ℕ) (hsizes : ∀ k, 0 < sizes k) :
    GivesZeros (silence sampleRate sampleSize seconds) sizes total ↔
      (silence sampleRate sampleSize seconds).maxSize = total := by
  have hwritten := written_eq sampleRate sampleSize seconds sizes
  generalize silence sampleRate sampleSize seconds = s at hwritten ⊢
  have hsum (n : ℕ) : ((List.range n).map fun k => (written s sizes k).length).sum =
      min (asked sizes n) s.maxSize := by
    induction n with
    | zero => simp [asked]
    | succ n ih =>
      have hasked : asked sizes (n + 1) = asked sizes n + sizes n := by
        simp [asked, List.range_succ]
      rw [List.range_succ, List.map_append, List.sum_append, ih, hasked, List.map_singleton,
        List.sum_singleton, hwritten, List.length_replicate]
      omega
  have hlength (k : ℕ) : (written s sizes k).length =
      min (sizes k) (s.maxSize - asked sizes k) := by
    rw [hwritten, List.length_replicate]
  have hstep (k : ℕ) : asked sizes (k + 1) = asked sizes k + sizes k := by
    simp [asked, List.range_succ]
  constructor
  · rintro ⟨n, -, hshort, -, htotal⟩
    rw [hsum, hstep] at htotal
    rw [hlength] at hshort
    omega
  · rintro rfl
    -- the reads ask for more than there is in the end
    have hexists : ∃ n, s.maxSize < asked sizes (n + 1) := by
      have hle (k : ℕ) : k ≤ asked sizes k := by
        induction k with
        | zero => exact Nat.zero_le _
        | succ k ih =>
          have := hstep k
          have := hsizes k
          omega
      exact ⟨s.maxSize, hle _⟩
    refine ⟨Nat.find hexists, fun k hk => ?_, ?_, fun k _ => ⟨?_, ?_⟩, ?_⟩
    · have hfull := Nat.find_min hexists hk
      rw [hstep] at hfull
      rw [hlength]
      omega
    · have hshort := Nat.find_spec hexists
      rw [hstep] at hshort
      rw [hlength]
      have := hsizes (Nat.find hexists)
      omega
    · rw [hlength]
      omega
    · rw [hwritten]
      exact fun b hb => List.eq_of_mem_replicate hb
    · have hshort := Nat.find_spec hexists
      rw [hsum]
      omega

end Reads

/-- INTERNAL: when the product that is stored as an `unsigned int` is what was asked for.
SOURCE: SilenceSound.cpp:21 -/
theorem maxSize_eq_iff (sampleRate sampleSize : ℕ) (seconds : ℤ) :
    (silence sampleRate sampleSize seconds).maxSize = sampleRate * sampleSize * seconds.toNat ↔
      (0 ≤ seconds ∧ sampleRate * sampleSize * seconds < 2 ^ 32) ∨
        (seconds < 0 ∧ (2 ^ 32 : ℤ) ∣ sampleRate * sampleSize * seconds) := by
  have hproduct : (sampleRate : ℤ) * seconds * sampleSize = sampleRate * sampleSize * seconds := by
    rw [Int.mul_assoc, Int.mul_comm seconds, ← Int.mul_assoc]
  have hmax : (silence sampleRate sampleSize seconds).maxSize =
      ((sampleRate * sampleSize * seconds : ℤ) % 2 ^ 32).toNat := by
    rw [← hproduct]
    rfl
  rw [hmax]
  rcases Int.lt_or_le seconds 0 with hneg | hpos
  · have hzero : seconds.toNat = 0 := by omega
    rw [hzero, Nat.mul_zero, Int.dvd_iff_emod_eq_zero]
    generalize (sampleRate * sampleSize * seconds : ℤ) = product
    omega
  · obtain ⟨n, rfl⟩ := Int.eq_ofNat_of_zero_le hpos
    have hcast : (sampleRate * sampleSize * (n : ℤ)) = ((sampleRate * sampleSize * n : ℕ) : ℤ) := by
      push_cast
      rfl
    rw [Int.toNat_natCast, hcast]
    generalize sampleRate * sampleSize * n = product
    omega

/-- **A silence lasts as long as asked exactly when the number of its bytes is not negative and
fits an `unsigned int`** (or is negative and a multiple of 2^32, which makes it 0). For every
sampling rate, frame size, duration and sequence of positive chunk sizes.
SOURCE: SilenceSound.cpp:7-30, ISoundDevice.cpp:16-23 -/
theorem silence_lasts_iff (sampleRate sampleSize : ℕ) (seconds : ℤ) (sizes : ℕ → ℕ)
    (hsizes : ∀ k, 0 < sizes k) :
    GivesZeros (silence sampleRate sampleSize seconds) sizes
        (sampleRate * sampleSize * seconds.toNat) ↔
      (0 ≤ seconds ∧ sampleRate * sampleSize * seconds < 2 ^ 32) ∨
        (seconds < 0 ∧ (2 ^ 32 : ℤ) ∣ sampleRate * sampleSize * seconds) :=
  (givesZeros_iff sampleRate sampleSize seconds sizes _ hsizes).trans
    (maxSize_eq_iff sampleRate sampleSize seconds)

/-- Four seconds on a call, read in the chunks of the session. -/
theorem silence_lasts_call :
    GivesZeros (silence RTPSession.getSampleRate RTPSession.getSampleSize 4)
      (fun _ => CONF_RTP_PAYLOAD_SIZE) 32000 :=
  (silence_lasts_iff RTPSession.getSampleRate RTPSession.getSampleSize 4
    (fun _ => CONF_RTP_PAYLOAD_SIZE) (fun _ => by decide)).mpr (.inl (by decide))

/-- A silence of -1 seconds on a call has more than four thousand million bytes, which
take six days. SOURCE: SilenceSound.cpp:21-22 -/
theorem silence_negative :
    (silence RTPSession.getSampleRate RTPSession.getSampleSize (-1)).maxSize = 4294959296 ∧
      ¬ GivesZeros (silence RTPSession.getSampleRate RTPSession.getSampleSize (-1))
        (fun _ => CONF_RTP_PAYLOAD_SIZE)
        (RTPSession.getSampleRate * RTPSession.getSampleSize * (-1 : ℤ).toNat) := by
  have hmax : (silence RTPSession.getSampleRate RTPSession.getSampleSize (-1)).maxSize =
      4294959296 := by decide
  refine ⟨hmax, ?_⟩
  rw [givesZeros_iff _ _ _ _ _ (fun _ => by decide), hmax]
  decide

end Dhas.Analysis.SilenceLength
