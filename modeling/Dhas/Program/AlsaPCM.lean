import Dhas.Program.CString

/-!
# Writing to the sound card

`recover` and `AlsaPCM::playChunk` of `libs/sound/AlsaPCM.cpp`. The sound card is what the calls
of `snd_pcm_writei` return, and for each of them the results of the calls of `snd_pcm_resume` in
`recover`. The device is open.

`buf` is the position in the chunk, in bytes. `accepted` is not in the source: it counts the
frames that the card has taken.
-/

set_option autoImplicit false

namespace Dhas.Program

def EAGAIN : ℤ := 11

def EPIPE : ℤ := 32

def ESTRPIPE : ℤ := 86

/-- `recover(handle, error)`, with what `snd_pcm_resume` returns; `none` when it is called again
and again. `snd_pcm_prepare` is called unless the card was resumed. -/
def recover (error : ℤ) (resumes : List ℤ) : Option ℤ :=
  if error ≠ -EPIPE ∧ error ≠ -ESTRPIPE then some error
  else if error = -ESTRPIPE then
    match resumes.dropWhile (· = -EAGAIN) with
    | [] => none
    | _ :: _ => some 0
  else some 0

/-- What the card answers to a call of `snd_pcm_writei`. -/
structure WriteAnswer where
  /-- a number of frames, or a negative error code -/
  result : ℤ
  /-- the results of `snd_pcm_resume` in the call of `recover` -/
  resumes : List ℤ

/-- The variables of `playChunk`. -/
structure PlayChunk where
  buf : ℤ
  numFrames : ℕ
  accepted : ℕ
  deriving DecidableEq

namespace PlayChunk

def start (numFrames : ℕ) : PlayChunk := ⟨0, numFrames, 0⟩

/-- A round of the loop. `l` is an `int`, and `numFrames` a `size_t`. -/
def round (mFrameSize : ℕ) (s : PlayChunk) (answer : WriteAnswer) : Option PlayChunk :=
  let l := toInt answer.result
  if l = -EPIPE ∨ l = -ESTRPIPE then
    (recover l answer.resumes).map fun _ => { s with numFrames := 0 }
  else if l ≠ -EAGAIN then
    some {
      buf := s.buf + toInt (l * mFrameSize)
      numFrames := (((s.numFrames : ℤ) - l) % 2 ^ 64).toNat
      accepted := s.accepted + answer.result.toNat }
  else some s

/-- `while (numFrames > 0)`, after `k` rounds at most; `none` when `recover` did not return. -/
def after (mFrameSize : ℕ) (s : PlayChunk) (answers : ℕ → WriteAnswer) : ℕ → Option PlayChunk
  | 0 => some s
  | k + 1 => (after mFrameSize s answers k).bind fun s =>
    if s.numFrames = 0 then some s else s.round mFrameSize (answers k)

end PlayChunk

end Dhas.Program
