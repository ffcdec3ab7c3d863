import Dhas.Library.Trace
import Dhas.Model.SoundDevices

/-!
# The worker thread of a sound device and its callers

The thread in `while (!mStopping) work()`, cut where another thread can come between: the test
of `mStopping`, the look at the queue, the test of the music, the wait of `setIdle()`, and the
chunk. The calls of any number of other threads come as two steps, what they store and the
`notify_all()` of `setWorking()`; `unsent` counts the calls between the two. A notification
wakes the thread up when it waits and has no effect otherwise, and the thread may wake up without
one. `mWaitLock` is taken by nobody else. `ISoundDevice.cpp:16-70`, `RTPSession.cpp:28-160`,
`SoundCard.cpp:32-128`.
-/

set_option autoImplicit false

namespace Dhas.Model

open Dhas.Library Dhas.Program Dhas.Program.Sound

/-- Where the thread of a device is. -/
inductive SoundWorkerPc where
  /-- before `start()` and after `stop()` -/
  | noThread
  /-- `while (!mStopping)` -/
  | stopTest
  /-- `if (!mCurrentSound)`, with the queue -/
  | taking
  /-- `if (!this->mMusic && !this->mCurrentSound)` -/
  | silentTest
  /-- `setIdle()`, before the wait -/
  | toWait
  | waiting (notified : Bool)
  /-- after the wait -/
  | woken
  /-- the chunk -/
  | sending
  /-- after the loop, to be joined -/
  | ended
  deriving DecidableEq

/-- `notify_all()` -/
def SoundWorkerPc.notify : SoundWorkerPc → SoundWorkerPc
  | .waiting _ => .waiting true
  | pc => pc

/-- The parts of a class of sound devices. -/
structure WorkerClass (δ : Type) where
  device : δ → ISoundDevice
  /-- what a call does, up to `setWorking()`; `stop` is its end, with the thread over -/
  call : δ → SoundDevices.Act → Option δ
  /-- `getSampleSize() != 0`; otherwise `play`, `silence` and `setMusic` return -/
  hasSamples : δ → Bool
  /-- `mStopping = true` -/
  setStopping : δ → δ
  takeSound : δ → δ
  setIdle : δ → δ
  sendChunk : δ → ℕ → Option δ

def rtpWorker (files : Files) : WorkerClass Sound.RTPSession where
  device := Sound.RTPSession.toISoundDevice
  call := SoundDevices.rtpStep files
  hasSamples _ := decide (Sound.RTPSession.getSampleSize ≠ 0)
  setStopping s := { s with mStopping := true }
  takeSound := Sound.RTPSession.takeSound
  setIdle := Sound.RTPSession.setIdle
  sendChunk := Sound.RTPSession.sendChunk

def cardWorker (files : Files) (pcm : AlsaPCM) : WorkerClass SoundCard where
  device := SoundCard.toISoundDevice
  call := SoundDevices.cardStep files pcm
  hasSamples s := (s.mpAlsaPCM.map fun pcm => decide (pcm.sampleSize ≠ 0)).getD false
  setStopping s := { s with mStopping := true }
  takeSound := SoundCard.takeSound
  setIdle := SoundCard.setIdle
  sendChunk s _ := s.mpAlsaPCM.map s.playChunk

namespace SoundWorker

/-- What is recorded. -/
inductive Item where
  /-- a sound was put on the queue -/
  | put
  | queueCleared
  /-- the thread looked at the queue -/
  | got
  | musicSet
  /-- the thread looked at the music -/
  | musicTested
  | stopSet
  /-- the thread looked at `mStopping` -/
  | stopTested
  deriving DecidableEq

inductive Act where
  /-- `play` or `silence` -/
  | put (bytes : List UInt8)
  | setMusic (filename : CString)
  | clearQueue
  | start
  | stop
  /-- the thread is over, and `stop` ends -/
  | join
  /-- the `notify_all()` of a call -/
  | notify
  /-- the next step of the thread -/
  | worker (current_send_ts : ℕ)
  /-- the wait ends without a notification -/
  | wakeUp
  deriving DecidableEq

end SoundWorker

structure SoundWorker (δ : Type) where
  device : δ
  pc : SoundWorkerPc
  /-- calls that have stored what they store, and not called `notify_all()` yet -/
  unsent : ℕ
  trace : List SoundWorker.Item

namespace SoundWorker

variable {δ : Type}

def init (d : δ) : SoundWorker δ := ⟨d, .noThread, 0, []⟩

/-- The next step of the thread. -/
def workerStep (W : WorkerClass δ) (s : SoundWorker δ) (current_send_ts : ℕ) :
    Option (SoundWorker δ) :=
  match s.pc with
  | .noThread => none
  | .stopTest =>
    some { s with
      pc := if (W.device s.device).mStopping then .ended else .taking
      trace := s.trace ++ [.stopTested] }
  | .taking =>
    some { s with
      device := W.takeSound s.device
      pc := .silentTest
      trace := s.trace ++ if (W.device s.device).mCurrentSound.isSome then [] else [.got] }
  | .silentTest =>
    some { s with
      pc := if (W.device s.device).Silent then .toWait else .sending
      trace := s.trace ++ [.musicTested] }
  | .toWait => some { s with pc := .waiting false }
  | .waiting false => none
  | .waiting true => some { s with pc := .woken }
  | .woken => some { s with device := W.setIdle s.device, pc := .stopTest }
  | .sending =>
    (W.sendChunk s.device current_send_ts).map fun device =>
      { s with device := device, pc := .stopTest }
  | .ended => none

/-- A call of `play`, `silence` or `setMusic`, up to its `notify_all()`. -/
def store (W : WorkerClass δ) (s : SoundWorker δ) (device : δ) (items : List Item) :
    SoundWorker δ :=
  { s with
    device := device
    unsent := if W.hasSamples s.device then s.unsent + 1 else s.unsent
    trace := s.trace ++ items }

def step (W : WorkerClass δ) (s : SoundWorker δ) : Act → Option (SoundWorker δ)
  | .put bytes =>
    (W.call s.device (.put bytes)).map fun device =>
      -- a full queue refuses the sound
      s.store W device
        (if (W.device device).playlist = (W.device s.device).playlist then [] else [.put])
  | .setMusic filename =>
    (W.call s.device (.setMusic filename)).map fun device =>
      s.store W device (if W.hasSamples s.device then [.musicSet] else [])
  | .clearQueue =>
    (W.call s.device .clearQueue).map fun device =>
      { s with device := device, trace := s.trace ++ [.queueCleared] }
  | .start =>
    (W.call s.device .start).map fun device =>
      { s with
        device := device
        -- a sound card without a chunk size gets no thread
        pc := if (W.device device).joinable then .stopTest else s.pc }
  | .stop =>
    if (W.device s.device).joinable then
      some { s with
        device := W.setStopping s.device
        unsent := s.unsent + 1
        trace := s.trace ++ [.stopSet] }
    else (W.call s.device .stop).map fun device => { s with device := device }
  | .join =>
    if s.pc = .ended then
      (W.call s.device .stop).map fun device => { s with device := device, pc := .noThread }
    else none
  | .notify =>
    if 0 < s.unsent then some { s with unsent := s.unsent - 1, pc := s.pc.notify } else none
  | .worker current_send_ts => s.workerStep W current_send_ts
  | .wakeUp => if s.pc = .waiting false then some { s with pc := .woken } else none

end SoundWorker

end Dhas.Model
