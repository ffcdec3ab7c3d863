import Dhas.Model.SoundDevices

/-!
# A sound device and its queue being cleared

What `RTPSession` and `SoundCard` play from is the same: music, a queue, a current sound, a
buffer, and a flag that says that the current sound is interrupted. `SoundDevice` is that, with
the calls that both classes share. The classes differ in one thing: whether the flag that
`clearQueue` sets is the one that `work()` looks at (`heeds`).

`ClearRun` watches a device while its queue is cleared: `cleared` is the number of sounds that
were queued before the last `clearQueue()`, `finishing` the sound that was current then, up to
the next round, and `late` has the cleared sounds of which bytes were sent otherwise.
-/

set_option autoImplicit false

namespace Dhas.Model

open Dhas.Library Dhas.Program Dhas.Program.Sound Dhas.Model.SoundDevices

structure SoundDevice where
  music : Option SoundFile
  queue : List ISound
  current : Option ISound
  interrupted : Bool
  buffer : List Cell
  /-- the bytes of a chunk -/
  chunk : ℕ
  /-- the bytes of a frame; whole frames are sent -/
  frame : ℕ
  /-- how many sounds were put on the queue -/
  queued : ℕ

namespace SoundDevice

/-- The next sound becomes the current one, uninterrupted. -/
def takeSound (d : SoundDevice) : SoundDevice :=
  match d.current, d.queue with
  | none, sound :: rest =>
    { d with queue := rest, current := some sound, interrupted := false }
  | _, _ => d

def Silent (d : SoundDevice) : Prop := d.music = none ∧ d.current = none

instance (d : SoundDevice) : Decidable d.Silent := inferInstanceAs (Decidable (_ ∧ _))

def filled (d : SoundDevice) : Filled :=
  fillBuffer d.chunk d.interrupted d.music d.current d.buffer

/-- A chunk is read. -/
def fill (d : SoundDevice) : SoundDevice :=
  { d with
    music := d.filled.mMusic
    current := d.filled.mCurrentSound
    buffer := d.filled.buffer }

/-- The whole frames of a chunk. -/
def payload (d : SoundDevice) : List Cell :=
  d.filled.buffer.take (d.filled.toSend / d.frame * d.frame)

/-- A round of the thread. -/
def work (d : SoundDevice) : SoundDevice :=
  if d.takeSound.Silent then d.takeSound else d.takeSound.fill

/-- What a round sends. -/
def sent (d : SoundDevice) : List Cell :=
  if d.takeSound.Silent then [] else d.takeSound.payload

/-- The buffer holds a chunk, of whole frames. -/
structure Open (d : SoundDevice) : Prop where
  frame : 0 < d.frame
  whole : d.frame ∣ d.chunk
  buffer : d.buffer.length = d.chunk

/-- What a call may do to a device whose `work()` looks at the flag that `clearQueue` sets, or
does not. -/
inductive Moves (heeds : Bool) (d : SoundDevice) : Act → SoundDevice → Prop where
  | put (bytes : List UInt8) :
    Moves heeds d (.put bytes)
      { d with queue := d.queue ++ [⟨d.queued, bytes⟩], queued := d.queued + 1 }
  | refuse (bytes : List UInt8) : Moves heeds d (.put bytes) d
  | setMusic (filename : CString) (music : Option SoundFile) :
    Moves heeds d (.setMusic filename) { d with music := music }
  | clearQueue :
    Moves heeds d .clearQueue { d with queue := [], interrupted := heeds || d.interrupted }
  | start (buffer : List Cell) (chunk frame : ℕ) :
    Moves heeds d .start
      { d with
        current := none
        interrupted := false
        buffer := buffer
        chunk := chunk
        frame := frame }
  | stop (frame : ℕ) : Moves heeds d .stop { d with frame := frame }
  | work (current_send_ts : ℕ) (hopen : d.takeSound.Open) :
    Moves heeds d (.work current_send_ts) d.work

end SoundDevice

/-- How a class plays from a sound device. -/
structure DeviceClass (δ : Type) where
  step : δ → Act → Option δ
  device : δ → ISoundDevice
  view : δ → SoundDevice
  /-- `work()` looks at the flag that `clearQueue` sets -/
  heeds : Bool

/-- The cells that were sent between two traces. -/
def sentSince (before after : List DeviceEvent) : List Cell :=
  (after.drop before.length).flatMap DeviceEvent.cells

/-- A class refines the sound device, on the states that satisfy an invariant. -/
structure DeviceClass.Refines {δ : Type} (C : DeviceClass δ) (Inv : δ → Prop) : Prop where
  keeps : ∀ d a d', Inv d → C.step d a = some d' → Inv d'
  moves : ∀ d a d', Inv d → C.step d a = some d' → (C.view d).Moves C.heeds a (C.view d')
  sends : ∀ d current_send_ts d', Inv d → C.step d (.work current_send_ts) = some d' →
    sentSince (C.device d).trace (C.device d').trace = (C.view d).sent

structure ClearRun (δ : Type) where
  device : δ
  cleared : ℕ
  finishing : Option ℕ
  late : List Cell

/-- The cell is of a sound that was queued before the last `clearQueue()`, and not of the one
that was current then and has its last round. -/
def IsLate (cleared : ℕ) (finishing : Option ℕ) (cell : Cell) : Prop :=
  match cell.origin with
  | .sound n => n < cleared ∧ finishing ≠ some n
  | _ => False

instance (cleared : ℕ) (finishing : Option ℕ) : DecidablePred (IsLate cleared finishing)
  | ⟨.sound n, _⟩ => inferInstanceAs (Decidable (n < cleared ∧ finishing ≠ some n))
  | ⟨.music, _⟩ => isFalse id
  | ⟨.unset, _⟩ => isFalse id

/-- `RTPSession` has a flag of its own, which `clearQueue` does not set. -/
def rtpClass (files : Files) : DeviceClass Sound.RTPSession where
  step := rtpStep files
  device := Sound.RTPSession.toISoundDevice
  view s :=
    { music := s.mMusic
      queue := s.mSoundQueue.items
      current := s.mCurrentSound
      interrupted := s.rtpInterruptCurrentSound
      buffer := s.mBuffer
      chunk := CONF_RTP_PAYLOAD_SIZE
      frame := Sound.RTPSession.getSampleSize
      queued := s.playlist.length }
  heeds := false

/-- `SoundCard` looks at the flag of `ISoundDevice`. -/
def cardClass (files : Files) (pcm : AlsaPCM) : DeviceClass SoundCard where
  step := cardStep files pcm
  device := SoundCard.toISoundDevice
  view s :=
    { music := s.mMusic
      queue := s.mSoundQueue.items
      current := s.mCurrentSound
      interrupted := s.mInterruptCurrentSound
      buffer := s.mBuffer
      chunk := s.mChunkSize
      frame := (s.mpAlsaPCM.map AlsaPCM.sampleSize).getD 0
      queued := s.playlist.length }
  heeds := true

namespace ClearRun

variable {δ : Type}

def start (d : δ) : ClearRun δ := ⟨d, 0, none, []⟩

/-- A call to the device, or a round of its thread. -/
def step (C : DeviceClass δ) (s : ClearRun δ) (a : Act) : Option (ClearRun δ) :=
  (C.step s.device a).map fun device =>
    match a with
    | .clearQueue =>
      { device := device
        cleared := (C.view s.device).queued
        finishing := (C.view s.device).current.map ISound.number
        late := s.late }
    | .work _ =>
      { device := device
        cleared := s.cleared
        finishing := none
        late := s.late ++ (sentSince (C.device s.device).trace (C.device device).trace).filter
          (IsLate s.cleared s.finishing) }
    | _ => { s with device := device }

end ClearRun

end Dhas.Model
