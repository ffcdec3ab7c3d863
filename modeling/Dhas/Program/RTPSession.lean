import Dhas.Library.BoundedQueue
import Dhas.Program.Telephony

/-!
# The sounds of a call

`libs/sound/RTPSession.cpp`, `ISoundDevice.cpp`, `SilenceSound.cpp` and `SoundFile.cpp`: the
queue of sounds of a call, and the thread that sends them. A sound is the number of bytes that
`getSample` has still to deliver, with the action it is for. Music is never set, and what is
sent does not matter here, so both are left out; so is the sleep of an idle thread, which may
wake up at any time.

`RTPSession` declares a member `mInterruptCurrentSound` of its own, and `clearQueue` sets the
one of `ISoundDevice`.

`queued`, `ended` and `cleared` are not in the source. They record which sounds were put on
the queue, which were played to their end and which were removed.
-/

set_option autoImplicit false

namespace Dhas.Program

open Dhas.Library

/-- A sound that was put on the queue: the action it is for, and how many were put before. -/
structure SoundTag where
  action : ActionId
  number : ℕ
  deriving DecidableEq

structure Sound where
  tag : SoundTag
  remaining : ℕ
  deriving DecidableEq

/-- Where the thread is in `work`. -/
inductive WorkPc where
  | top
  /-- in `notifyQueueEmpty()`: so many sounds had been put when the queue was found empty -/
  | notify (seen : ℕ)
  deriving DecidableEq

structure RTPSession where
  mSoundQueue : BoundedQueue Sound
  mCurrentSound : Option Sound
  mQueueWasEmpty : Bool
  mInterruptCurrentSound : Bool
  /-- the member of `ISoundDevice` with the same name -/
  deviceInterruptCurrentSound : Bool
  /-- `mThread` is running -/
  started : Bool
  pc : WorkPc
  queued : List SoundTag
  ended : List SoundTag
  cleared : List SoundTag

def CONF_RTP_PAYLOAD_SIZE : ℕ := 160

def sampleRate : ℕ := 8000

def sampleSize : ℕ := 1

namespace RTPSession

/-- The constructor. The queue has a capacity of its own. -/
def new (capacity : ℕ) : RTPSession where
  mSoundQueue := .empty capacity
  mCurrentSound := none
  mQueueWasEmpty := false
  mInterruptCurrentSound := false
  deviceInterruptCurrentSound := false
  started := false
  pc := .top
  queued := []
  ended := []
  cleared := []

/-- `start()`. A thread that runs already cannot be assigned to. -/
def start (s : RTPSession) : Option RTPSession :=
  if s.started then none
  else some { s with
    mCurrentSound := none
    mQueueWasEmpty := true
    mInterruptCurrentSound := false
    started := true }

/-- `mSoundQueue.put(sound)` for a sound of a given length; a full queue refuses it. -/
def put (s : RTPSession) (a : ActionId) (length : ℕ) : RTPSession :=
  if s.mSoundQueue.HasRoom then
    { s with
      mSoundQueue := s.mSoundQueue.put ⟨⟨a, s.queued.length⟩, length⟩
      queued := s.queued ++ [⟨a, s.queued.length⟩] }
  else s

/-- `silence(seconds)`: `maxSize` is an `unsigned int`. -/
def silence (s : RTPSession) (a : ActionId) (seconds : ℤ) : RTPSession :=
  s.put a (toUnsigned (sampleRate * seconds * sampleSize))

/-- `play(filename, G711)`, with the files that can be opened and the lengths of their
data. -/
def play (files : CString → Option ℕ) (s : RTPSession) (a : ActionId) (filename : CString) :
    RTPSession :=
  match files filename with
  | some length => s.put a length
  | none => s

/-- One round of the loop of `clearQueue()`, and what follows it. The flag: it is done. -/
def clearQueue (s : RTPSession) : RTPSession × Bool :=
  match s.mSoundQueue.get with
  | some (sound, queue) =>
    ({ s with mSoundQueue := queue, cleared := s.cleared ++ [sound.tag] }, false)
  | none => ({ s with deviceInterruptCurrentSound := true }, true)

/-- `getSample` of the current sound, which is deleted at its end. -/
def consume (s : RTPSession) (sound : Sound) : RTPSession :=
  let soundindex := min CONF_RTP_PAYLOAD_SIZE sound.remaining
  if soundindex < CONF_RTP_PAYLOAD_SIZE then
    { s with mCurrentSound := none, ended := s.ended ++ [sound.tag] }
  else if s.mInterruptCurrentSound then
    { s with mCurrentSound := none, cleared := s.cleared ++ [sound.tag] }
  else { s with mCurrentSound := some { sound with remaining := sound.remaining - soundindex } }

/-- One step of `work()`. The number: the observers are notified. -/
def work (s : RTPSession) : RTPSession × Option ℕ :=
  match s.pc with
  | .notify seen => ({ s with mQueueWasEmpty := true, pc := .top }, some seen)
  | .top =>
    match s.mCurrentSound with
    | some sound => (s.consume sound, none)
    | none =>
      match s.mSoundQueue.get with
      | some (sound, queue) =>
        ({ s with
          mSoundQueue := queue
          mCurrentSound := some sound
          mQueueWasEmpty := false
          mInterruptCurrentSound := false }, none)
      | none =>
        if s.mQueueWasEmpty then (s, none)
        else ({ s with pc := .notify s.queued.length }, none)

end RTPSession

/-- One round of the loop in `PlayPhoneAction::invoke`. SOURCE: PlayPhoneAction.cpp:29-44 -/
def enqueueSound (files : CString → Option ℕ) (s : RTPSession) (a : ActionId)
    (mSoundsFolder sound : CString) : RTPSession :=
  match sound with
  | '$' :: st => s.silence a (atoi st)
  | _ => s.play files a (mSoundsFolder ++ sound ++ "-ulaw.wav".toList)

end Dhas.Program
