import Dhas.Program.AlsaPCM
import Mathlib.Data.List.TakeWhile

/-!
# Where the writes of a chunk are

`playChunk` goes on behind the frames that the card has taken, ends after a broken or suspended
stream and tries again when the card is busy. Any other error code is taken for a number of
frames: the position goes back to before the chunk, and the length grows.
-/

set_option autoImplicit false

namespace Dhas.Analysis.ChunkWrites

open Dhas.Program

/-- The position is behind the frames that were accepted, and while the loop goes on, what it is
about to write lies in the chunk. -/
structure Inside (mFrameSize numFrames : ℕ) (s : PlayChunk) : Prop where
  position : s.buf = mFrameSize * s.accepted
  start : 0 ≤ s.buf
  length : s.numFrames ≠ 0 → s.buf + mFrameSize * s.numFrames ≤ mFrameSize * numFrames

/-- A result is a number of frames up to the number asked for, or an error code. A suspended
card is resumed in the end. -/
def ValidAnswer (s : PlayChunk) (answer : WriteAnswer) : Prop :=
  ((-(2 ^ 31) ≤ answer.result ∧ answer.result < 0) ∨
      (0 ≤ answer.result ∧ answer.result ≤ s.numFrames)) ∧
    (answer.result = -ESTRPIPE → ∃ error ∈ answer.resumes, error ≠ -EAGAIN)

/-- A number of frames, or an error that the loop knows. -/
def KnownResult (result : ℤ) : Prop :=
  0 ≤ result ∨ result = -EPIPE ∨ result = -ESTRPIPE ∨ result = -EAGAIN

section Chunk

variable (mFrameSize numFrames : ℕ) (answers : ℕ → WriteAnswer)

/-- A call of `snd_pcm_writei` is answered by a result of the kind `C`, as long as the loop goes
on. -/
def EveryCall (C : PlayChunk → WriteAnswer → Prop) : Prop :=
  ∀ k s, PlayChunk.after mFrameSize (.start numFrames) answers k = some s → s.numFrames ≠ 0 →
    C s (answers k)

/-- The loop stays in the chunk, and ends if the results are neither -EAGAIN nor 0 from some
call on. -/
structure WritesChunk : Prop where
  inside : ∀ k s, PlayChunk.after mFrameSize (.start numFrames) answers k = some s →
    Inside mFrameSize numFrames s
  ends : (∃ K, ∀ k ≥ K, (answers k).result ≠ -EAGAIN ∧ (answers k).result ≠ 0) →
    ∃ k s, PlayChunk.after mFrameSize (.start numFrames) answers k = some s ∧ s.numFrames = 0

end Chunk

/-- The invariant of the loop: what is left to write is the rest of the chunk, or nothing after
an error. -/
structure LoopOk (mFrameSize numFrames : ℕ) (s : PlayChunk) : Prop where
  position : s.buf = mFrameSize * s.accepted
  accepted : s.accepted ≤ numFrames
  rest : s.numFrames ≠ 0 → s.accepted + s.numFrames = numFrames

/-- INTERNAL: the loop reads inside the chunk. -/
theorem LoopOk.inside {mFrameSize numFrames : ℕ} {s : PlayChunk}
    (h : LoopOk mFrameSize numFrames s) : Inside mFrameSize numFrames s where
  position := h.position
  start := by
    rw [h.position]
    exact_mod_cast Nat.zero_le _
  length := by
    intro hne
    rw [h.position, ← h.rest hne]
    push_cast
    rw [Int.mul_add]

/-- INTERNAL: `recover` returns when the card is resumed. SOURCE: AlsaPCM.cpp:6-17 -/
theorem recover_returns {error : ℤ} {resumes : List ℤ}
    (h : error = -ESTRPIPE → ∃ e ∈ resumes, e ≠ -EAGAIN) :
    ∃ result, recover error resumes = some result := by
  unfold recover
  split
  · exact ⟨_, rfl⟩
  · split
    case isTrue herror =>
      obtain ⟨e, hmem, hne⟩ := h herror
      split
      case h_1 hnil =>
        have hall := List.dropWhile_eq_nil_iff.mp hnil e hmem
        exact absurd (of_decide_eq_true hall) hne
      case h_2 => exact ⟨_, rfl⟩
    · exact ⟨_, rfl⟩

section Round

variable {mFrameSize numFrames : ℕ} {s : PlayChunk} {answer : WriteAnswer}
  (hframe : 0 < mFrameSize) (hchunk : numFrames * mFrameSize < 2 ^ 31)
  (h : LoopOk mFrameSize numFrames s) (hne : s.numFrames ≠ 0) (hvalid : ValidAnswer s answer)
include hframe hchunk h hne hvalid

/-- INTERNAL: the results are small enough to be stored as an `int`. -/
theorem toInt_result : toInt answer.result = answer.result ∧ numFrames < 2 ^ 31 := by
  have hle : numFrames ≤ numFrames * mFrameSize := Nat.le_mul_of_pos_right numFrames hframe
  have hrest := h.rest hne
  refine ⟨?_, by omega⟩
  rcases hvalid.1 with ⟨hlow, hneg⟩ | ⟨hpos, hhigh⟩
  · exact toInt_eq_self hlow (by omega)
  · exact toInt_eq_self (by omega) (by omega)

/-- INTERNAL: a number of frames moves the position on, and leaves the rest of the chunk.
SOURCE: AlsaPCM.cpp:160-163 -/
theorem round_frames {count : ℕ} (hcount : answer.result = count) :
    ∃ s', s.round mFrameSize answer = some s' ∧ LoopOk mFrameSize numFrames s' ∧
      s'.numFrames = s.numFrames - count := by
  obtain ⟨hresult, hsmall⟩ := toInt_result hframe hchunk h hne hvalid
  have hrest := h.rest hne
  have hhigh : count ≤ s.numFrames := by
    rcases hvalid.1 with ⟨-, hneg⟩ | ⟨-, hhigh⟩
    · omega
    · omega
  have hmove : toInt ((count : ℤ) * mFrameSize) = mFrameSize * count := by
    have hle : count * mFrameSize ≤ numFrames * mFrameSize :=
      Nat.mul_le_mul_right mFrameSize (by omega)
    have hcast : (count : ℤ) * mFrameSize = ((count * mFrameSize : ℕ) : ℤ) := by push_cast; rfl
    rw [Int.mul_comm (mFrameSize : ℤ), hcast]
    exact toInt_eq_self (by omega) (by omega)
  have hleft : (((s.numFrames : ℤ) - count) % 2 ^ 64).toNat = s.numFrames - count := by omega
  have hnot : ¬ (answer.result = -EPIPE ∨ answer.result = -ESTRPIPE) ∧ answer.result ≠ -EAGAIN := by
    unfold EPIPE ESTRPIPE EAGAIN
    omega
  unfold PlayChunk.round
  simp only [hresult]
  rw [if_neg hnot.1, if_pos hnot.2, hcount, hmove, hleft, Int.toNat_natCast]
  refine ⟨_, rfl, ⟨?_, ?_, ?_⟩, rfl⟩
  · show s.buf + _ = mFrameSize * ((s.accepted + count : ℕ) : ℤ)
    rw [h.position]
    push_cast
    rw [Int.mul_add]
  · show s.accepted + count ≤ numFrames
    omega
  · show s.numFrames - count ≠ 0 → s.accepted + count + (s.numFrames - count) = numFrames
    omega

/-- INTERNAL: **a round with a result that the loop knows.** It keeps the invariant, and a result
other than 0 and -EAGAIN leaves less to write. SOURCE: AlsaPCM.cpp:154-164 -/
theorem round_known (hknown : KnownResult answer.result) :
    ∃ s', s.round mFrameSize answer = some s' ∧ LoopOk mFrameSize numFrames s' ∧
      s'.numFrames ≤ s.numFrames ∧
      (answer.result ≠ -EAGAIN → answer.result ≠ 0 → s'.numFrames < s.numFrames) := by
  obtain ⟨hresult, -⟩ := toInt_result hframe hchunk h hne hvalid
  have hbroken (herror : answer.result = -EPIPE ∨ answer.result = -ESTRPIPE) :
      s.round mFrameSize answer = some { s with numFrames := 0 } := by
    obtain ⟨error, hrecover⟩ := recover_returns hvalid.2
    unfold PlayChunk.round
    simp only [hresult]
    rw [if_pos herror, hrecover]
    rfl
  have hended : LoopOk mFrameSize numFrames { s with numFrames := 0 } :=
    ⟨h.position, h.accepted, fun hzero => absurd rfl hzero⟩
  have hless : (0 : ℕ) < s.numFrames := Nat.pos_of_ne_zero hne
  rcases hknown with hpos | hpipe | hstrpipe | hagain
  · obtain ⟨count, hcount⟩ := Int.eq_ofNat_of_zero_le hpos
    obtain ⟨s', hround, hok, hleft⟩ := round_frames hframe hchunk h hne hvalid hcount
    refine ⟨s', hround, hok, ?_, ?_⟩
    · omega
    · omega
  · exact ⟨_, hbroken (.inl hpipe), hended, Nat.zero_le _, fun _ _ => hless⟩
  · exact ⟨_, hbroken (.inr hstrpipe), hended, Nat.zero_le _, fun _ _ => hless⟩
  · refine ⟨s, ?_, h, Nat.le_refl _, fun hne => absurd hagain hne⟩
    unfold PlayChunk.round
    simp only [hagain]
    rfl

/-- INTERNAL: any other error makes the length grow. SOURCE: AlsaPCM.cpp:160-162 -/
theorem round_unknown (hunknown : ¬ KnownResult answer.result) :
    ∃ s', s.round mFrameSize answer = some s' ∧ ¬ Inside mFrameSize numFrames s' := by
  obtain ⟨hresult, hsmall⟩ := toInt_result hframe hchunk h hne hvalid
  have hrest := h.rest hne
  simp only [KnownResult, not_or] at hunknown
  obtain ⟨hneg, hpipe, hstrpipe, hagain⟩ := hunknown
  have hlow : -(2 ^ 31) ≤ answer.result := by
    rcases hvalid.1 with ⟨hlow, -⟩ | ⟨hpos, -⟩
    · exact hlow
    · exact absurd hpos hneg
  unfold PlayChunk.round
  simp only [hresult]
  rw [if_neg (not_or.mpr ⟨hpipe, hstrpipe⟩), if_pos hagain]
  refine ⟨_, rfl, fun hinside => ?_⟩
  have hgrown : (((s.numFrames : ℤ) - answer.result) % 2 ^ 64).toNat =
      s.numFrames + (-answer.result).toNat := by omega
  have hlength := hinside.length
  rw [hinside.position] at hlength
  simp only [hgrown] at hlength
  have haccepted : answer.result.toNat = 0 := by omega
  rw [haccepted, Nat.add_zero, ← Int.mul_add] at hlength
  have hle := hlength (by omega)
  have hcast : mFrameSize * (s.accepted + (s.numFrames + (-answer.result).toNat)) ≤
      mFrameSize * numFrames := by exact_mod_cast hle
  have := Nat.le_of_mul_le_mul_left hcast hframe
  omega

end Round

/-! ## The loop -/

/-- INTERNAL: the loop starts at the chunk's first frame. -/
theorem loopOk_start (mFrameSize numFrames : ℕ) :
    LoopOk mFrameSize numFrames (.start numFrames) where
  position := by simp [PlayChunk.start]
  accepted := Nat.zero_le _
  rest := by simp [PlayChunk.start]

/-- INTERNAL: the loop goes on with the next round, while there is something left to write. -/
theorem after_succ {mFrameSize k : ℕ} {s s' : PlayChunk} {answers : ℕ → WriteAnswer}
    (hs' : PlayChunk.after mFrameSize s answers k = some s') :
    PlayChunk.after mFrameSize s answers (k + 1) =
      if s'.numFrames = 0 then some s' else s'.round mFrameSize (answers k) := by
  rw [PlayChunk.after, hs', Option.bind_some]

section Loop

variable {mFrameSize numFrames : ℕ} {answers : ℕ → WriteAnswer}
  (hframe : 0 < mFrameSize) (hchunk : numFrames * mFrameSize < 2 ^ 31)
  (hvalid : EveryCall mFrameSize numFrames answers ValidAnswer)
include hframe hchunk hvalid

/-- INTERNAL: with results that the loop knows, the invariant holds after every round. The
induction is on the rounds. -/
theorem after_known
    (hknown : EveryCall mFrameSize numFrames answers fun _ answer => KnownResult answer.result)
    (k : ℕ) : ∃ s, PlayChunk.after mFrameSize (.start numFrames) answers k = some s ∧
      LoopOk mFrameSize numFrames s := by
  induction k with
  | zero => exact ⟨_, rfl, loopOk_start mFrameSize numFrames⟩
  | succ k ih =>
    obtain ⟨s, hs, hok⟩ := ih
    rw [after_succ hs]
    split
    case isTrue => exact ⟨s, rfl, hok⟩
    case isFalse hne =>
      obtain ⟨s', hround, hok', -⟩ :=
        round_known hframe hchunk hok hne (hvalid k s hs hne) (hknown k s hs hne)
      exact ⟨s', hround, hok'⟩

/-- INTERNAL: and the loop ends when the card goes on to take frames. The induction is on the
frames that are left. -/
theorem ends_known
    (hknown : EveryCall mFrameSize numFrames answers fun _ answer => KnownResult answer.result)
    {K : ℕ} (htaken : ∀ k ≥ K, (answers k).result ≠ -EAGAIN ∧ (answers k).result ≠ 0)
    (left : ℕ) : ∀ k ≥ K, ∀ s, PlayChunk.after mFrameSize (.start numFrames) answers k = some s →
      s.numFrames ≤ left →
      ∃ k s, PlayChunk.after mFrameSize (.start numFrames) answers k = some s ∧
        s.numFrames = 0 := by
  induction left with
  | zero =>
    intro k _ s hs hleft
    exact ⟨k, s, hs, Nat.le_zero.mp hleft⟩
  | succ left ih =>
    intro k hk s hs hleft
    by_cases hzero : s.numFrames = 0
    · exact ⟨k, s, hs, hzero⟩
    · obtain ⟨t, ht, hok⟩ := after_known hframe hchunk hvalid hknown k
      obtain rfl := Option.some.inj (hs.symm.trans ht)
      obtain ⟨s', hround, -, -, hless⟩ :=
        round_known hframe hchunk hok hzero (hvalid k s hs hzero) (hknown k s hs hzero)
      have hnext : PlayChunk.after mFrameSize (.start numFrames) answers (k + 1) = some s' := by
        rw [after_succ hs, if_neg hzero, hround]
      have := hless (htaken k hk).1 (htaken k hk).2
      exact ih (k + 1) (by omega) s' hnext (by omega)

end Loop

/-- **`playChunk` writes inside the chunk, goes on behind what was accepted and ends, exactly
when every call of `snd_pcm_writei` is answered by a number of frames, -EPIPE, -ESTRPIPE or
-EAGAIN.** For every chunk whose bytes an `int` can count and every sequence of results.
SOURCE: AlsaPCM.cpp:6-17, 149-165 -/
theorem writesChunk_iff (mFrameSize numFrames : ℕ) (answers : ℕ → WriteAnswer)
    (hframe : 0 < mFrameSize) (hchunk : numFrames * mFrameSize < 2 ^ 31)
    (hvalid : EveryCall mFrameSize numFrames answers ValidAnswer) :
    WritesChunk mFrameSize numFrames answers ↔
      EveryCall mFrameSize numFrames answers fun _ answer => KnownResult answer.result := by
  constructor
  · intro h
    -- up to the first result that the loop does not know, the invariant holds
    have hfirst (k : ℕ) : ∃ s, PlayChunk.after mFrameSize (.start numFrames) answers k = some s ∧
        LoopOk mFrameSize numFrames s ∧ (s.numFrames ≠ 0 → KnownResult (answers k).result) := by
      have hstep {k : ℕ} {s : PlayChunk} (hok : LoopOk mFrameSize numFrames s)
          (hs : PlayChunk.after mFrameSize (.start numFrames) answers k = some s)
          (hne : s.numFrames ≠ 0) : KnownResult (answers k).result := by
        by_contra hunknown
        obtain ⟨s', hround, houtside⟩ :=
          round_unknown hframe hchunk hok hne (hvalid k s hs hne) hunknown
        refine houtside (h.inside (k + 1) s' ?_)
        rw [after_succ hs, if_neg hne, hround]
      induction k with
      | zero =>
        have hok := loopOk_start mFrameSize numFrames
        exact ⟨_, rfl, hok, hstep hok rfl⟩
      | succ k ih =>
        obtain ⟨s, hs, hok, hknown⟩ := ih
        by_cases hzero : s.numFrames = 0
        · have hnext : PlayChunk.after mFrameSize (.start numFrames) answers (k + 1) = some s := by
            rw [after_succ hs, if_pos hzero]
          exact ⟨s, hnext, hok, fun hne => absurd hzero hne⟩
        · obtain ⟨s', hround, hok', -⟩ :=
            round_known hframe hchunk hok hzero (hvalid k s hs hzero) (hknown hzero)
          have hnext : PlayChunk.after mFrameSize (.start numFrames) answers (k + 1) =
              some s' := by
            rw [after_succ hs, if_neg hzero, hround]
          exact ⟨s', hnext, hok', hstep hok' hnext⟩
    intro k s hs hne
    obtain ⟨t, ht, -, hknown⟩ := hfirst k
    obtain rfl := Option.some.inj (hs.symm.trans ht)
    exact hknown hne
  · intro hknown
    constructor
    · intro k s hs
      obtain ⟨t, ht, hok⟩ := after_known hframe hchunk hvalid hknown k
      obtain rfl := Option.some.inj (hs.symm.trans ht)
      exact hok.inside
    · rintro ⟨K, htaken⟩
      obtain ⟨s, hs, -⟩ := after_known hframe hchunk hvalid hknown K
      exact ends_known hframe hchunk hvalid hknown htaken s.numFrames K (Nat.le_refl K) s hs
        (Nat.le_refl _)

/-- A card that takes fifty frames a call. -/
def fifty (_ : ℕ) : WriteAnswer := ⟨50, []⟩

/-- INTERNAL: the device takes 50 frames at every call. -/
@[simp]
theorem fifty_result (k : ℕ) : (fifty k).result = 50 := rfl

/-- INTERNAL: two rounds write a chunk of a hundred frames. The induction is on the rounds. -/
theorem after_fifty (k : ℕ) :
    PlayChunk.after 4 (.start 100) fifty (k + 2) = some ⟨400, 0, 100⟩ := by
  induction k with
  | zero => decide +kernel
  | succ k ih =>
    rw [after_succ ih]
    rfl

/-- SOURCE: AlsaPCM.cpp:149-165 -/
theorem writesChunk_fifty : WritesChunk 4 100 fifty := by
  refine (writesChunk_iff 4 100 fifty (by decide) (by decide) ?_).mpr ?_
  · intro k s hs hne
    refine ⟨.inr ⟨by simp, ?_⟩, by simp [ESTRPIPE]⟩
    match k with
    | 0 =>
      obtain rfl := Option.some.inj hs
      decide
    | 1 =>
      obtain rfl : s = ⟨200, 50, 50⟩ := Option.some.inj (hs.symm.trans (by decide +kernel))
      decide
    | k + 2 =>
      obtain rfl := Option.some.inj (hs.symm.trans (after_fifty k))
      exact absurd rfl hne
  · intro _ _ _ _
    exact .inl (by simp)

/-- A device that is gone: `-EBADFD` puts the position 308 bytes before a chunk of 100 frames,
and 177 frames are left to write. SOURCE: AlsaPCM.cpp:160-162 -/
theorem badState_before_chunk :
    PlayChunk.after 4 (.start 100) (fun _ => ⟨-77, []⟩) 1 = some ⟨-308, 177, 0⟩ ∧
      ¬ WritesChunk 4 100 fun _ => ⟨-77, []⟩ := by
  have hround :
      PlayChunk.after 4 (.start 100) (fun _ => ⟨-77, []⟩) 1 = some ⟨-308, 177, 0⟩ := by
    decide +kernel
  refine ⟨hround, fun h => ?_⟩
  have hstart : (0 : ℤ) ≤ -308 := (h.inside 1 _ hround).start
  omega

end Dhas.Analysis.ChunkWrites
