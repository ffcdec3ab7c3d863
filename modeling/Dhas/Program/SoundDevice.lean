import Dhas.Library.BoundedQueue
import Dhas.Program.CString

/-!
# The sound devices, byte by byte

`libs/sound`: `SoundFile.cpp`, `SilenceSound.cpp`, `ISoundDevice.cpp`, `RTPSession.cpp` and
`SoundCard.cpp`. Where `Dhas.Program.RTPSession` counts the bytes of a sound, this module has
the bytes, the music, the buffer of the device and what it sends.

A sound of the queue is the list of the bytes that `getSample` has still to deliver. That
`SoundFile` and `SilenceSound` behave like that up to their first short read is proved here.
A cell of a buffer carries, beside its byte, where the byte came from: a byte stays in the
buffer until another one is read over it.

`playlist`, `trace` and the numbers of the sounds are not in the source: they record what was
put on the queue and what the device did. `new` gives `false` to the members that the source
leaves unset until `start()`.
-/

set_option autoImplicit false

namespace Dhas.Program.Sound

open Dhas.Library

/-- Where a byte of a buffer came from. -/
inductive Origin where
  | unset
  | music
  | sound (number : ℕ)
  deriving DecidableEq

structure Cell where
  origin : Origin
  byte : UInt8
  deriving DecidableEq

/-! ## Sounds -/

/-- A file that was opened, read up to `position`; `none` when it could not be. -/
structure SoundFile where
  mSoundFile : Option (List UInt8)
  position : ℕ
  deriving DecidableEq

/-- `sizeof(riffHeader)` -/
def headerSize : ℕ := 44

/-- The files that exist in a supported format, with all their bytes. -/
abbrev Files := CString → Option (List UInt8)

def SoundFile.open (files : Files) (filename : CString) : SoundFile where
  mSoundFile := files filename
  position := headerSize

/-- A short read rewinds the file, to its header. SOURCE: SoundFile.cpp:76-89 -/
def SoundFile.getSample (f : SoundFile) (size : ℕ) : List UInt8 × SoundFile :=
  match f.mSoundFile with
  | none => ([], f)
  | some data =>
    let bytes := (data.drop f.position).take size
    (bytes, { f with position := if bytes.length < size then 0 else f.position + size })

structure SilenceSound where
  mDuration : ℤ
  mSamplingRate : ℕ
  mSampleSize : ℕ
  mIndex : ℕ

/-- `maxSize` is an `unsigned int`. -/
def SilenceSound.maxSize (s : SilenceSound) : ℕ :=
  toUnsigned (s.mSamplingRate * s.mDuration * s.mSampleSize)

/-- SOURCE: SilenceSound.cpp:18-30 -/
def SilenceSound.getSample (s : SilenceSound) (size : ℕ) : List UInt8 × SilenceSound :=
  let i := min size (s.maxSize - s.mIndex)
  (List.replicate i 0, { s with mIndex := s.mIndex + i })

/-- The rounds of the loop of `getSample`, with `left` of them still to come. -/
def SilenceSound.getSampleLoop (s : SilenceSound) : ℕ → List UInt8 × SilenceSound
  | 0 => ([], s)
  | left + 1 =>
    if s.mIndex < s.maxSize then
      let r := getSampleLoop { s with mIndex := s.mIndex + 1 } left
      (0 :: r.1, r.2)
    else ([], s)

/-- INTERNAL: the loop round by round. SOURCE: SilenceSound.cpp:18-30 -/
theorem SilenceSound.getSampleLoop_eq (s : SilenceSound) (size : ℕ) :
    s.getSampleLoop size = s.getSample size := by
  induction size generalizing s with
  | zero => simp [getSampleLoop, getSample]
  | succ left ih =>
    unfold getSampleLoop
    split
    case isTrue hlt =>
      have hmax : maxSize { s with mIndex := s.mIndex + 1 } = s.maxSize := rfl
      have hcount : min (left + 1) (s.maxSize - s.mIndex) =
          min left (s.maxSize - (s.mIndex + 1)) + 1 := by omega
      simp only [ih, getSample, hmax, hcount, List.replicate_succ]
      rw [Nat.add_assoc, Nat.add_comm 1]
    case isFalse hge =>
      have hcount : min (left + 1) (s.maxSize - s.mIndex) = 0 := by omega
      simp only [getSample, hcount, List.replicate_zero, Nat.add_zero]

/-- A sound on the queue: how many were put before it, and the bytes that are left of it. -/
structure ISound where
  number : ℕ
  bytes : List UInt8
  deriving DecidableEq

def ISound.getSample (s : ISound) (size : ℕ) : List UInt8 × ISound :=
  (s.bytes.take size, { s with bytes := s.bytes.drop size })

/-- The bytes that a file has still to deliver before its first short read. -/
def SoundFile.bytesLeft (f : SoundFile) : List UInt8 := (f.mSoundFile.getD []).drop f.position

def SilenceSound.bytesLeft (s : SilenceSound) : List UInt8 :=
  List.replicate (s.maxSize - s.mIndex) 0

/-- INTERNAL: a file delivers the bytes that are left of it, and after a read that is not short
the rest of them is left. SOURCE: SoundFile.cpp:76-89 -/
theorem SoundFile.getSample_bytes (f : SoundFile) (size : ℕ) :
    (f.getSample size).1 = f.bytesLeft.take size ∧
      (size ≤ (f.getSample size).1.length →
        (f.getSample size).2.bytesLeft = f.bytesLeft.drop size) := by
  unfold SoundFile.getSample SoundFile.bytesLeft
  split
  case h_1 hfile => simp [hfile]
  case h_2 data hfile =>
    refine ⟨by simp [hfile], fun hfull => ?_⟩
    simp only at hfull ⊢
    rw [if_neg (Nat.not_lt.mpr hfull), hfile, List.drop_drop]

/-- INTERNAL: a silence delivers the zeros that are left of it.
SOURCE: SilenceSound.cpp:18-30 -/
theorem SilenceSound.getSample_bytes (s : SilenceSound) (size : ℕ) :
    (s.getSample size).1 = s.bytesLeft.take size ∧
      (s.getSample size).2.bytesLeft = s.bytesLeft.drop size := by
  unfold SilenceSound.getSample SilenceSound.bytesLeft
  constructor
  · rw [List.take_replicate]
  · rw [List.drop_replicate]
    congr 1
    show s.maxSize - (s.mIndex + min size (s.maxSize - s.mIndex)) = s.maxSize - s.mIndex - size
    omega

/-! ## ISoundDevice -/

/-- What a device did, in order. -/
inductive DeviceEvent where
  | notifyQueueEmpty
  | setIdle
  | rtp_session_send_with_ts (payload : List Cell) (ts : ℕ)
  | playChunk (chunk : List Cell)
  deriving DecidableEq

/-- The cells that an event sent. -/
def DeviceEvent.cells : DeviceEvent → List Cell
  | .rtp_session_send_with_ts payload _ => payload
  | .playChunk chunk => chunk
  | _ => []

structure ISoundDevice where
  mMusic : Option SoundFile
  mSoundQueue : BoundedQueue ISound
  mCurrentSound : Option ISound
  mStopping : Bool
  mInterruptCurrentSound : Bool
  mQueueWasEmpty : Bool
  /-- `mThread.joinable()` -/
  joinable : Bool
  /-- the sounds that were put on the queue -/
  playlist : List (List UInt8)
  trace : List DeviceEvent

namespace ISoundDevice

/-- The queue has a capacity of its own. -/
def new (capacity : ℕ) : ISoundDevice where
  mMusic := none
  mSoundQueue := .empty capacity
  mCurrentSound := none
  mStopping := false
  mInterruptCurrentSound := false
  mQueueWasEmpty := false
  joinable := false
  playlist := []
  trace := []

def record (d : ISoundDevice) (e : DeviceEvent) : ISoundDevice := { d with trace := d.trace ++ [e] }

/-- `mSoundQueue.put(sound)`; a full queue refuses it. -/
def put (d : ISoundDevice) (bytes : List UInt8) : ISoundDevice :=
  if d.mSoundQueue.HasRoom then
    { d with
      mSoundQueue := d.mSoundQueue.put ⟨d.playlist.length, bytes⟩
      playlist := d.playlist ++ [bytes] }
  else d

/-- INTERNAL: a `put` changes the queue and nothing else. -/
theorem put_frame (d : ISoundDevice) (bytes : List UInt8) :
    (d.put bytes).mMusic = d.mMusic ∧ (d.put bytes).mCurrentSound = d.mCurrentSound ∧
      (d.put bytes).mStopping = d.mStopping ∧ (d.put bytes).joinable = d.joinable ∧
      (d.put bytes).trace = d.trace := by
  unfold put
  split <;> exact ⟨rfl, rfl, rfl, rfl, rfl⟩

/-- `silence(seconds)`, without its `setWorking()`. -/
def silence (d : ISoundDevice) (sampleRate sampleSize : ℕ) (seconds : ℤ) : ISoundDevice :=
  if sampleSize = 0 then d
  else d.put (SilenceSound.mk seconds sampleRate sampleSize 0).bytesLeft

/-- `play(filename, format)`, without its `setWorking()`. -/
def play (files : Files) (d : ISoundDevice) (sampleSize : ℕ) (filename : CString) : ISoundDevice :=
  if sampleSize = 0 then d
  else
    let file := SoundFile.open files filename
    if file.mSoundFile.isSome then d.put file.bytesLeft else d

/-- `setMusic(filename, format)`, without its `setWorking()`. A file that cannot be opened is
the music all the same. -/
def setMusic (files : Files) (d : ISoundDevice) (sampleSize : ℕ) (filename : CString) :
    ISoundDevice :=
  if sampleSize = 0 then d else { d with mMusic := some (SoundFile.open files filename) }

/-- `clearQueue()` -/
def clearQueue (d : ISoundDevice) : ISoundDevice :=
  { d with mSoundQueue := d.mSoundQueue.clear, mInterruptCurrentSound := true }

/-- `mSoundQueue.get(mCurrentSound)`, and what both devices do when it succeeds. -/
def nextSound (d : ISoundDevice) : Option ISoundDevice :=
  d.mSoundQueue.get.map fun r =>
    { d with mSoundQueue := r.2, mCurrentSound := some r.1, mQueueWasEmpty := false }

/-- What both devices do when there is no next sound: the observers are notified once. -/
def queueEmpty (d : ISoundDevice) : ISoundDevice :=
  if d.mQueueWasEmpty then d else { d.record .notifyQueueEmpty with mQueueWasEmpty := true }

/-- `!mMusic && !mCurrentSound` -/
def Silent (d : ISoundDevice) : Prop := d.mMusic = none ∧ d.mCurrentSound = none

instance (d : ISoundDevice) : Decidable d.Silent := inferInstanceAs (Decidable (_ ∧ _))

end ISoundDevice

/-- Bytes are read into a buffer: the cells after them keep what they had. -/
def overwrite (buffer : List Cell) (origin : Origin) (bytes : List UInt8) : List Cell :=
  bytes.map (Cell.mk origin) ++ buffer.drop bytes.length

/-- The sounds of a device after a chunk was read from them, the buffer, and how many bytes of
it are to be sent. -/
structure Filled where
  mMusic : Option SoundFile
  mCurrentSound : Option ISound
  buffer : List Cell
  toSend : ℕ

/-- `mMusic->getSample(size, mBuffer)`, if there is music. -/
def readMusic (size : ℕ) (mMusic : Option SoundFile) (buffer : List Cell) : List Cell :=
  match mMusic with
  | none => buffer
  | some music => overwrite buffer .music (music.getSample size).1

/-- `mCurrentSound->getSample(size, mBuffer)`, if there is a current sound. It is deleted at a
short read and when it is interrupted; without music no more is sent than was read. -/
def readSound (size : ℕ) (interrupt : Bool) (mMusic : Option SoundFile)
    (mCurrentSound : Option ISound) (buffer : List Cell) : Filled :=
  match mCurrentSound with
  | none => ⟨mMusic, none, buffer, size⟩
  | some sound =>
    let r := sound.getSample size
    let buffer := overwrite buffer (.sound sound.number) r.1
    if r.1.length < size ∨ interrupt = true then
      ⟨mMusic, none, buffer, if mMusic.isSome then size else r.1.length⟩
    else ⟨mMusic, some r.2, buffer, size⟩

/-- The chunk of both devices: the music, and the current sound over it. -/
def fillBuffer (size : ℕ) (interrupt : Bool) (mMusic : Option SoundFile)
    (mCurrentSound : Option ISound) (buffer : List Cell) : Filled :=
  readSound size interrupt (mMusic.map fun music => (music.getSample size).2) mCurrentSound
    (readMusic size mMusic buffer)

/-- INTERNAL: a sound that is interrupted, or has less than a chunk left, is deleted. -/
theorem readSound_discard {size : ℕ} {interrupt : Bool} (mMusic : Option SoundFile)
    {sound : ISound} (buffer : List Cell) (h : sound.bytes.length < size ∨ interrupt = true) :
    readSound size interrupt mMusic (some sound) buffer =
      ⟨mMusic, none, overwrite buffer (.sound sound.number) (sound.bytes.take size),
        if mMusic.isSome then size else (sound.bytes.take size).length⟩ := by
  unfold readSound
  apply if_pos
  apply h.imp_left
  intro hshort
  exact Nat.lt_of_le_of_lt (List.length_take_le' size sound.bytes) hshort

/-- INTERNAL: another sound goes on. -/
theorem readSound_continue {size : ℕ} {interrupt : Bool} (mMusic : Option SoundFile)
    {sound : ISound} (buffer : List Cell) (h : ¬ (sound.bytes.length < size ∨ interrupt = true)) :
    readSound size interrupt mMusic (some sound) buffer =
      ⟨mMusic, some { sound with bytes := sound.bytes.drop size },
        overwrite buffer (.sound sound.number) (sound.bytes.take size), size⟩ := by
  unfold readSound
  apply if_neg
  rw [not_or] at h ⊢
  refine ⟨?_, h.2⟩
  show ¬ (sound.bytes.take size).length < size
  rw [List.length_take]
  omega

/-- INTERNAL: what the current sound leaves in the buffer, deleted or not. -/
theorem readSound_buffer (size : ℕ) (interrupt : Bool) (mMusic : Option SoundFile)
    (mCurrentSound : Option ISound) (buffer : List Cell) :
    (readSound size interrupt mMusic mCurrentSound buffer).buffer =
      match mCurrentSound with
      | none => buffer
      | some sound => overwrite buffer (.sound sound.number) (sound.bytes.take size) := by
  cases mCurrentSound with
  | none => rfl
  | some sound =>
    by_cases h : sound.bytes.length < size ∨ interrupt = true
    · rw [readSound_discard mMusic buffer h]
    · rw [readSound_continue mMusic buffer h]

/-! ## RTPSession -/

def CONF_RTP_PAYLOAD_SIZE : ℕ := 160

structure RTPSession extends ISoundDevice where
  /-- `mSession != 0` -/
  mSession : Bool
  mPeerIP : CString
  mPeerPort : ℕ
  mLocalIP : CString
  mLocalPort : ℕ
  mUser_ts : ℕ
  mBuffer : List Cell
  mResetTime : Bool
  /-- The member `mInterruptCurrentSound` of this class, which hides the one of
  `ISoundDevice`. -/
  rtpInterruptCurrentSound : Bool

namespace RTPSession

def getSampleRate : ℕ := 8000

def getSampleSize : ℕ := 1

/-- The constructor. -/
def new (capacity : ℕ) : RTPSession where
  toISoundDevice := .new capacity
  mSession := true
  mPeerIP := []
  mPeerPort := 0
  mLocalIP := []
  mLocalPort := 0
  mUser_ts := 0
  mBuffer := List.replicate CONF_RTP_PAYLOAD_SIZE ⟨.unset, 0⟩
  mResetTime := false
  rtpInterruptCurrentSound := false

def setPeerAddress (s : RTPSession) (ip : CString) (peerPort : ℕ) : RTPSession :=
  { s with mPeerIP := ip, mPeerPort := peerPort }

def setLocalAddress (s : RTPSession) (ip : CString) (port : ℕ) : RTPSession :=
  { s with mLocalPort := port, mLocalIP := ip }

/-- `start()`; `none` when a session that `stop()` has destroyed is handed to the library as a null
pointer, or a thread is assigned to a joinable one, which terminates the program. -/
def start (s : RTPSession) : Option RTPSession :=
  if s.mSession = false ∨ s.joinable = true then none
  else some { s with
    mUser_ts := 0
    mCurrentSound := none
    mQueueWasEmpty := true
    rtpInterruptCurrentSound := false
    mResetTime := false
    mStopping := false
    joinable := true }

/-- `stop()`, with the thread over. -/
def stop (s : RTPSession) : RTPSession :=
  { s with
    mStopping := if s.joinable then true else s.mStopping
    joinable := false
    mSession := false }

/-- The first part of `work()`. SOURCE: RTPSession.cpp:93-106 -/
def takeSound (s : RTPSession) : RTPSession :=
  if s.mCurrentSound.isSome then s
  else
    match s.nextSound with
    | some d => { s with toISoundDevice := d, rtpInterruptCurrentSound := false }
    | none => { s with toISoundDevice := s.queueEmpty }

/-- `work()` when there is nothing to send, after its wait. SOURCE: RTPSession.cpp:108-114 -/
def setIdle (s : RTPSession) : RTPSession :=
  { s with toISoundDevice := s.record .setIdle, mResetTime := true }

/-- What `work()` reads into its buffer, and the payload that it sends. -/
def sent (s : RTPSession) (current_send_ts : ℕ) : RTPSession :=
  let r := fillBuffer CONF_RTP_PAYLOAD_SIZE s.rtpInterruptCurrentSound s.mMusic s.mCurrentSound
    s.mBuffer
  let ts := if s.mResetTime then current_send_ts else s.mUser_ts
  { s with
    mMusic := r.mMusic
    mCurrentSound := r.mCurrentSound
    mBuffer := r.buffer
    trace := s.trace ++ [.rtp_session_send_with_ts (r.buffer.take r.toSend) ts]
    mResetTime := false
    mUser_ts := (ts + r.toSend) % 2 ^ 32 }

/-- The last part of `work()`; `current_send_ts` is the time stamp that the library gives, and a
session that was destroyed is handed to it as a null pointer.
SOURCE: RTPSession.cpp:116-159 -/
def sendChunk (s : RTPSession) (current_send_ts : ℕ) : Option RTPSession :=
  if s.Silent then
    -- `silenceSuppresion`: nothing is read either
    some { s with mResetTime := true }
  else if s.mSession then some (s.sent current_send_ts)
  else none

/-- `work()` -/
def work (s : RTPSession) (current_send_ts : ℕ) : Option RTPSession :=
  let s := s.takeSound
  if s.Silent then some s.setIdle else s.sendChunk current_send_ts

/-- INTERNAL: a session is started when its thread does not run and it was not destroyed. -/
theorem start_eq_some {s s' : RTPSession} (h : s.start = some s') :
    s.joinable = false ∧ s.mSession = true ∧ s' = { s with
      mUser_ts := 0
      mCurrentSound := none
      mQueueWasEmpty := true
      rtpInterruptCurrentSound := false
      mResetTime := false
      mStopping := false
      joinable := true } := by
  obtain ⟨hnot, hs⟩ := Option.ite_none_left_eq_some.mp h
  rw [not_or, Bool.not_eq_false, Bool.not_eq_true] at hnot
  exact ⟨hnot.2, hnot.1, (Option.some.inj hs).symm⟩

/-- INTERNAL: a chunk of a session that is not silent is sent. SOURCE: RTPSession.cpp:116-159 -/
theorem sendChunk_eq_some {s s' : RTPSession} {current_send_ts : ℕ} (hloud : ¬ s.Silent)
    (h : s.sendChunk current_send_ts = some s') : s' = s.sent current_send_ts := by
  unfold sendChunk at h
  rw [if_neg hloud] at h
  obtain ⟨-, hs⟩ := Option.ite_none_right_eq_some.mp h
  exact (Option.some.inj hs).symm

/-- INTERNAL: a round is idle, or sends a payload. SOURCE: RTPSession.cpp:91-160 -/
theorem work_eq_some {s s' : RTPSession} {current_send_ts : ℕ}
    (h : s.work current_send_ts = some s') :
    (s.takeSound.Silent ∧ s' = s.takeSound.setIdle) ∨
      (¬ s.takeSound.Silent ∧ s' = s.takeSound.sent current_send_ts) := by
  unfold work at h
  by_cases hsilent : s.takeSound.Silent
  · simp only [if_pos hsilent] at h
    exact .inl ⟨hsilent, (Option.some.inj h).symm⟩
  · simp only [if_neg hsilent] at h
    exact .inr ⟨hsilent, sendChunk_eq_some hsilent h⟩

end RTPSession

/-! ## SoundCard -/

structure AlsaPCM where
  sampleRate : ℕ
  sampleSize : ℕ
  periodSizeInSamples : ℕ
  deriving DecidableEq

structure SoundCard extends ISoundDevice where
  mDevice : CString
  mChunkSize : ℕ
  mBuffer : List Cell
  mpAlsaPCM : Option AlsaPCM

namespace SoundCard

/-- The constructor. -/
def new (capacity : ℕ) (deviceName : CString) : SoundCard where
  toISoundDevice := .new capacity
  mDevice := deviceName
  mChunkSize := 0
  mBuffer := []
  mpAlsaPCM := none

/-- `start()`, with the sound card that is opened. A card without a chunk size gets no
thread. -/
def start (s : SoundCard) (pcm : AlsaPCM) : Option SoundCard :=
  let mChunkSize := pcm.periodSizeInSamples * pcm.sampleSize
  let s := { s with
    mCurrentSound := none
    mQueueWasEmpty := false
    mInterruptCurrentSound := false
    mpAlsaPCM := some pcm
    mChunkSize := mChunkSize }
  if mChunkSize = 0 then some s
  else if s.joinable then none
  else some { s with
    mBuffer := List.replicate mChunkSize ⟨.unset, 0⟩
    mStopping := false
    joinable := true }

/-- `stop()`, with the thread over. -/
def stop (s : SoundCard) : SoundCard :=
  { s with
    mStopping := if s.joinable then true else s.mStopping
    joinable := false
    mpAlsaPCM := none }

/-- The first part of `work()`. SOURCE: SoundCard.cpp:71-85 -/
def takeSound (s : SoundCard) : SoundCard :=
  if s.mCurrentSound.isSome then s
  else
    match s.nextSound with
    | some d => { s with toISoundDevice := { d with mInterruptCurrentSound := false } }
    | none => { s with toISoundDevice := s.queueEmpty }

/-- `work()` when there is nothing to play, after its wait. SOURCE: SoundCard.cpp:87-91 -/
def setIdle (s : SoundCard) : SoundCard := { s with toISoundDevice := s.record .setIdle }

/-- The last part of `work()`: whole frames are played. SOURCE: SoundCard.cpp:93-127 -/
def playChunk (s : SoundCard) (pcm : AlsaPCM) : SoundCard :=
  let r := fillBuffer s.mChunkSize s.mInterruptCurrentSound s.mMusic s.mCurrentSound s.mBuffer
  let numberOfFramesToSend := r.toSend / pcm.sampleSize
  { s with
    mMusic := r.mMusic
    mCurrentSound := r.mCurrentSound
    mBuffer := r.buffer
    trace := s.trace ++ [.playChunk (r.buffer.take (numberOfFramesToSend * pcm.sampleSize))] }

/-- `work()`; `none` when the card is not open. -/
def work (s : SoundCard) : Option SoundCard :=
  s.mpAlsaPCM.map fun pcm =>
    let s := s.takeSound
    if s.Silent then s.setIdle else s.playChunk pcm

end SoundCard

end Dhas.Program.Sound
