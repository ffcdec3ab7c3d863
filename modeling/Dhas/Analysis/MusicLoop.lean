import Dhas.Library.LoopedReads
import Dhas.Analysis.DeviceRefinement

/-!
# The music of an RTP session

Once music is set, every round of the session sends a whole payload: the next chunk of the file,
with the current sound over it. The sounds hide the music and do not hold it, so what a payload
has of the music depends on the number of payloads alone. At its end the file is read again from
its first byte, so its header is heard from the second time on.
-/

set_option autoImplicit false

namespace Dhas.Analysis.MusicLoop

open Dhas.Library Dhas.Program Dhas.Program.Sound Dhas.Model.SoundDevices
open Dhas.Analysis.DeviceRefinement

/-- The payloads of a trace. -/
def payloads (trace : List DeviceEvent) : List (List Cell) :=
  trace.filterMap fun
    | .rtp_session_send_with_ts payload _ => some payload
    | _ => none

/-- Where the chunk of this number begins in a file of `len` bytes: behind the header the first
time, and from the first byte of the file every other time. -/
def chunkStart (len number : ℕ) : ℕ :=
  let firstTime := (len - headerSize) / CONF_RTP_PAYLOAD_SIZE + 1
  if number < firstTime then headerSize + number * CONF_RTP_PAYLOAD_SIZE
  else (number - firstTime) % loopReads len CONF_RTP_PAYLOAD_SIZE * CONF_RTP_PAYLOAD_SIZE

/-- The file that is played, after a number of payloads. -/
def musicAfter (data : List UInt8) (sent : ℕ) : SoundFile where
  mSoundFile := some data
  position := chunkStart data.length sent

/-- The bytes of the file that go with the payload of this number. -/
def musicChunk (data : List UInt8) (number : ℕ) : List UInt8 :=
  ((musicAfter data number).bytesLeft).take CONF_RTP_PAYLOAD_SIZE

/-- A whole payload, in which every byte of the chunk is heard or hidden by a sound. -/
structure Heard (data : List UInt8) (number : ℕ) (payload : List Cell) : Prop where
  whole : payload.length = CONF_RTP_PAYLOAD_SIZE
  music : ∀ (i : ℕ) (b : UInt8), (musicChunk data number)[i]? = some b →
    ∃ cell : Cell, payload[i]? = some cell ∧
      (cell = ⟨.music, b⟩ ∨ ∃ sound, cell.origin = .sound sound)

/-- The music since it was set, when the trace had `before` events. -/
structure MusicPlays (data : List UInt8) (before : ℕ) (s : Sound.RTPSession) : Prop where
  position : s.mMusic = some (musicAfter data (payloads (s.trace.drop before)).length)
  heard : ∀ number payload, (payloads (s.trace.drop before))[number]? = some payload →
    Heard data number payload

/-! ## One payload -/

section Payload

variable {data : List UInt8} {sent : ℕ}

/-- INTERNAL: the chunks begin where the reads of the file leave its position. -/
theorem chunkStart_eq (len number : ℕ) :
    chunkStart len number = positionAfter len CONF_RTP_PAYLOAD_SIZE headerSize number := by
  rw [positionAfter_eq (by decide)]
  unfold chunkStart
  exact if_congr Nat.lt_succ_iff rfl rfl

/-- INTERNAL: the next chunk starts where the read of this one ended. -/
theorem chunkStart_succ (len number : ℕ) : chunkStart len (number + 1) =
    nextPosition len CONF_RTP_PAYLOAD_SIZE (chunkStart len number) := by
  rw [chunkStart_eq, chunkStart_eq]
  rfl

/-- INTERNAL: a read of the file. SOURCE: SoundFile.cpp:76-89 -/
theorem getSample_musicAfter : (musicAfter data sent).getSample CONF_RTP_PAYLOAD_SIZE =
    (musicChunk data sent, musicAfter data (sent + 1)) := by
  have hlength : (musicChunk data sent).length =
      min CONF_RTP_PAYLOAD_SIZE (data.length - (musicAfter data sent).position) := by
    simp [musicChunk, musicAfter, SoundFile.bytesLeft]
  have hchunk : (data.drop (musicAfter data sent).position).take CONF_RTP_PAYLOAD_SIZE =
      musicChunk data sent := rfl
  have hsize : 0 < CONF_RTP_PAYLOAD_SIZE := by decide
  unfold SoundFile.getSample
  show (_, _) = (_, _)
  rw [hchunk, hlength]
  congr 1
  unfold musicAfter
  congr 1
  rw [chunkStart_succ]
  unfold nextPosition
  by_cases hle : chunkStart data.length sent + CONF_RTP_PAYLOAD_SIZE ≤ data.length
  · rw [if_pos hle, if_neg]
    dsimp only [musicAfter]
    omega
  · rw [if_neg hle, if_pos]
    dsimp only [musicAfter]
    omega

/-- INTERNAL: the bytes that were read are the first cells of the buffer. -/
theorem getElem?_overwrite (buffer : List Cell) (origin : Origin) (bytes : List UInt8) (i : ℕ) :
    (overwrite buffer origin bytes)[i]? =
      if i < bytes.length then bytes[i]?.map (Cell.mk origin) else buffer[i]? := by
  unfold overwrite
  split
  case isTrue h =>
    rw [List.getElem?_append_left (by simpa using h), List.getElem?_map]
  case isFalse h =>
    rw [List.getElem?_append_right (by simpa using Nat.le_of_not_lt h), List.length_map,
      List.getElem?_drop]
    congr 1
    omega

/-- INTERNAL: **a payload with music**: the next chunk of the file, under the current sound.
SOURCE: RTPSession.cpp:116-146 -/
theorem fillBuffer_music (data : List UInt8) (sent : ℕ) (interrupt : Bool)
    (mCurrentSound : Option ISound) {buffer : List Cell}
    (hbuffer : buffer.length = CONF_RTP_PAYLOAD_SIZE) :
    let r := fillBuffer CONF_RTP_PAYLOAD_SIZE interrupt (some (musicAfter data sent))
      mCurrentSound buffer
    r.mMusic = some (musicAfter data (sent + 1)) ∧ r.toSend = CONF_RTP_PAYLOAD_SIZE ∧
      Heard data sent r.buffer := by
  intro r
  have hlength : r.buffer.length = CONF_RTP_PAYLOAD_SIZE := length_fillBuffer hbuffer
  have hmusic : readMusic CONF_RTP_PAYLOAD_SIZE (some (musicAfter data sent)) buffer =
      overwrite buffer .music (musicChunk data sent) := by
    show overwrite _ _ (SoundFile.getSample _ _).1 = _
    rw [getSample_musicAfter]
  have hr : r = readSound CONF_RTP_PAYLOAD_SIZE interrupt (some (musicAfter data (sent + 1)))
      mCurrentSound (overwrite buffer .music (musicChunk data sent)) := by
    show fillBuffer _ _ _ _ _ = _
    unfold fillBuffer
    rw [hmusic, Option.map_some, getSample_musicAfter]
  have hcell (i : ℕ) (b : UInt8) (hb : (musicChunk data sent)[i]? = some b) :
      (overwrite buffer .music (musicChunk data sent))[i]? = some ⟨.music, b⟩ := by
    obtain ⟨hi, -⟩ := List.getElem?_eq_some_iff.mp hb
    rw [getElem?_overwrite, if_pos hi, hb]
    rfl
  cases mCurrentSound with
  | none =>
    rw [hr] at hlength ⊢
    exact ⟨rfl, rfl, hlength, fun i b hb => ⟨_, hcell i b hb, .inl rfl⟩⟩
  | some sound =>
    have hover : r.buffer = overwrite (overwrite buffer .music (musicChunk data sent))
        (.sound sound.number) (sound.bytes.take CONF_RTP_PAYLOAD_SIZE) := by
      rw [hr, readSound_buffer]
    refine ⟨?_, ?_, hlength, fun i b hb => ?_⟩
    · rw [hr]
      unfold readSound
      dsimp only
      split <;> rfl
    · rw [hr]
      unfold readSound
      dsimp only
      split <;> rfl
    · rw [hover, getElem?_overwrite]
      split
      case isTrue hi =>
        rw [List.getElem?_eq_getElem hi]
        exact ⟨_, rfl, .inr ⟨sound.number, rfl⟩⟩
      case isFalse => exact ⟨_, hcell i b hb, .inl rfl⟩

end Payload

/-! ## One step -/

section Step

variable {files : Files} {data : List UInt8} {before : ℕ} {s s' : Sound.RTPSession}

/-- INTERNAL: the payloads of two traces, one after the other. -/
theorem payloads_append (trace events : List DeviceEvent) :
    payloads (trace ++ events) = payloads trace ++ payloads events := List.filterMap_append

/-- INTERNAL: the first part of a round takes a sound or notifies, and sends nothing.
SOURCE: RTPSession.cpp:93-106 -/
theorem takeSound_music (s : Sound.RTPSession) :
    s.takeSound.mMusic = s.mMusic ∧ s.takeSound.mBuffer = s.mBuffer ∧
      ∃ events, s.takeSound.trace = s.trace ++ events ∧ payloads events = [] := by
  unfold Sound.RTPSession.takeSound
  split
  · exact ⟨rfl, rfl, [], (List.append_nil _).symm, rfl⟩
  · split
    case h_1 d hnext =>
      obtain ⟨r, -, rfl⟩ := Option.map_eq_some_iff.mp hnext
      exact ⟨rfl, rfl, [], (List.append_nil _).symm, rfl⟩
    case h_2 =>
      unfold ISoundDevice.queueEmpty
      split
      · exact ⟨rfl, rfl, [], (List.append_nil _).symm, rfl⟩
      · exact ⟨rfl, rfl, [.notifyQueueEmpty], rfl, rfl⟩

/-- INTERNAL: what sends nothing leaves the music where it is. -/
theorem MusicPlays.frame (h : MusicPlays data before s) {events : List DeviceEvent}
    (hbefore : before ≤ s.trace.length) (hmusic : s'.mMusic = s.mMusic)
    (htrace : s'.trace = s.trace ++ events) (hevents : payloads events = []) :
    MusicPlays data before s' := by
  have hsent : payloads (s'.trace.drop before) = payloads (s.trace.drop before) := by
    rw [htrace, List.drop_append_of_le_length hbefore, payloads_append, hevents, List.append_nil]
  refine ⟨?_, ?_⟩
  · rw [hsent, hmusic]
    exact h.position
  · rw [hsent]
    exact h.heard

/-- INTERNAL: **a round sends the next payload.** SOURCE: RTPSession.cpp:91-160 -/
theorem MusicPlays.work (h : MusicPlays data before s) (hok : RtpOk s)
    (hbefore : before ≤ s.trace.length) {current_send_ts : ℕ}
    (hwork : s.work current_send_ts = some s') :
    MusicPlays data before s' ∧ before ≤ s'.trace.length := by
  obtain ⟨hmusic, hbuffer, events, htrace, hevents⟩ := takeSound_music s
  have htaken := h.frame hbefore hmusic htrace hevents
  have hbefore' : before ≤ s.takeSound.trace.length := by
    rw [htrace, List.length_append]
    omega
  have hloud : ¬ s.takeSound.Silent := by
    intro hsilent
    have hnone := hsilent.1
    rw [htaken.position] at hnone
    cases hnone
  obtain rfl := ((Sound.RTPSession.work_eq_some hwork).resolve_left fun h => hloud h.1).2
  generalize s.takeSound = t at htaken hbefore' hbuffer
  have hlength : t.mBuffer.length = CONF_RTP_PAYLOAD_SIZE := by
    rw [hbuffer]
    exact hok
  obtain ⟨hnext, hsend, hheard⟩ := fillBuffer_music data
    (payloads (t.trace.drop before)).length t.rtpInterruptCurrentSound t.mCurrentSound hlength
  rw [← htaken.position] at hnext hsend hheard
  unfold Sound.RTPSession.sent
  generalize fillBuffer CONF_RTP_PAYLOAD_SIZE t.rtpInterruptCurrentSound t.mMusic
    t.mCurrentSound t.mBuffer = r at hnext hsend hheard
  have hpayload : r.buffer.take r.toSend = r.buffer := by
    rw [hsend, List.take_of_length_le (Nat.le_of_eq hheard.whole)]
  refine ⟨?_, by simp; omega⟩
  have hsent (ts : ℕ) : payloads ((t.trace ++
      [DeviceEvent.rtp_session_send_with_ts (r.buffer.take r.toSend) ts]).drop before) =
        payloads (t.trace.drop before) ++ [r.buffer] := by
    rw [List.drop_append_of_le_length hbefore', payloads_append, hpayload]
    rfl
  refine ⟨?_, fun number payload hnumber => ?_⟩
  · simp only [hsent, List.length_append, List.length_singleton]
    exact hnext
  · simp only [hsent] at hnumber
    rcases Nat.lt_or_ge number (payloads (t.trace.drop before)).length with hlt | hge
    · rw [List.getElem?_append_left hlt] at hnumber
      exact htaken.heard number payload hnumber
    · rw [List.getElem?_append_right hge, List.getElem?_singleton] at hnumber
      obtain ⟨hzero, rfl⟩ := Option.ite_some_none_eq_some.mp hnumber
      obtain rfl : number = (payloads (t.trace.drop before)).length := by omega
      exact hheard

/-- Music is not set again. -/
def KeepsMusic (_ : Sound.RTPSession) : Act → Prop
  | .setMusic _ => False
  | _ => True

instance (s : Sound.RTPSession) (a : Act) : Decidable (KeepsMusic s a) := by
  unfold KeepsMusic
  split <;> infer_instance

/-- What every step keeps. -/
structure MusicOk (data : List UInt8) (before : ℕ) (s : Sound.RTPSession) : Prop where
  buffer : RtpOk s
  since : before ≤ s.trace.length
  plays : MusicPlays data before s

/-- INTERNAL: what leaves the buffer, the music and the trace alone. -/
theorem MusicOk.frame (h : MusicOk data before s) (hbuffer : s'.mBuffer = s.mBuffer)
    (hmusic : s'.mMusic = s.mMusic) (htrace : s'.trace = s.trace) : MusicOk data before s' where
  buffer := by
    unfold RtpOk
    rw [hbuffer]
    exact h.buffer
  since := by
    rw [htrace]
    exact h.since
  plays := h.plays.frame h.since hmusic (htrace.trans (List.append_nil _).symm) rfl

/-- INTERNAL: **one step that keeps the music.** -/
theorem rtpStep_musicOk {a : Act} (h : MusicOk data before s) (hkeeps : KeepsMusic s a)
    (hstep : rtpStep files s a = some s') : MusicOk data before s' := by
  cases a with
  | put bytes =>
    obtain rfl := Option.some.inj hstep
    obtain ⟨hmusic, -, -, -, htrace⟩ := s.toISoundDevice.put_frame bytes
    exact h.frame rfl hmusic htrace
  | setMusic filename => exact hkeeps.elim
  | clearQueue =>
    obtain rfl := Option.some.inj hstep
    exact h.frame rfl rfl rfl
  | start =>
    obtain ⟨-, -, rfl⟩ := Sound.RTPSession.start_eq_some hstep
    exact h.frame rfl rfl rfl
  | stop =>
    obtain rfl := Option.some.inj hstep
    exact h.frame rfl rfl rfl
  | work current_send_ts =>
    obtain ⟨-, hwork⟩ := Option.ite_none_right_eq_some.mp hstep
    obtain ⟨hplays, hsince⟩ := h.plays.work h.buffer h.since hwork
    exact ⟨h.buffer.work hwork, hsince, hplays⟩

/-- INTERNAL: the buffer always holds a payload. -/
theorem rtpStep_rtpOk {a : Act} (h : RtpOk s) (hstep : rtpStep files s a = some s') :
    RtpOk s' := by
  cases a with
  | put bytes | setMusic filename | clearQueue | stop =>
    obtain rfl := Option.some.inj hstep
    exact h
  | start =>
    obtain ⟨-, -, rfl⟩ := Sound.RTPSession.start_eq_some hstep
    exact h
  | work current_send_ts => exact h.work (Option.ite_none_right_eq_some.mp hstep).2

end Step

/-- **From the moment when music is set, every payload is whole and has the next chunk of the
file, whatever sounds are played and cleared, and whenever the session is started, and stopped
for good.** SOURCE: RTPSession.cpp:28-160, SoundFile.cpp:76-89, ISoundDevice.cpp:39-66 -/
theorem musicPlays_throughout (files : Files) (capacity : ℕ) (acts acts' : List Act)
    {s s' : Sound.RTPSession} {filename : CString} {data : List UInt8}
    (hfile : files filename = some data)
    (hrun : run (rtpStep files) (Sound.RTPSession.new capacity) acts = some s)
    (hset : rtpStep files s (.setMusic filename) = some s')
    (hkeeps : Along (rtpStep files) KeepsMusic s' acts') :
    Throughout (rtpStep files) (MusicPlays data s'.trace.length) s' acts' := by
  have hok : RtpOk s := by
    apply run_invariant (I := RtpOk) (fun _ _ _ hs hstep => rtpStep_rtpOk hs hstep) _ hrun
    simp [RtpOk, Sound.RTPSession.new]
  have hmusic : s'.mMusic = some (musicAfter data 0) := by
    obtain rfl := Option.some.inj hset
    simp [ISoundDevice.setMusic, Sound.RTPSession.getSampleSize, SoundFile.open, hfile,
      musicAfter, chunkStart]
  have hplays : MusicPlays data s'.trace.length s' := by
    refine ⟨?_, ?_⟩
    · rw [hmusic, List.drop_length]
      rfl
    · rw [List.drop_length]
      intro number payload hnumber
      simp [payloads] at hnumber
  apply throughout_of_along (I := MusicOk data s'.trace.length) (fun _ h => h.plays)
    (fun _ _ _ h hkeep hstep => rtpStep_musicOk h hkeep hstep) _ hkeeps
  exact ⟨rtpStep_rtpOk hok hset, Nat.le_refl _, hplays⟩

/-- A file with a header and three bytes. -/
def jingle : List UInt8 := List.replicate headerSize 1 ++ [2, 3, 4]

/-- A sound of one byte over the second time round. -/
theorem musicPlays_jingle : ∃ s s', run (rtpStep fun _ => some jingle)
      (Sound.RTPSession.new 4) [.start] = some s ∧
    rtpStep (fun _ => some jingle) s (.setMusic "jingle.wav".toList) = some s' ∧
    Throughout (rtpStep fun _ => some jingle) (MusicPlays jingle s'.trace.length) s'
      [.work 0, .put [9], .work 0, .clearQueue, .work 0] := by
  refine ⟨_, _, rfl, rfl, ?_⟩
  exact musicPlays_throughout (fun _ => some jingle) 4 [.start] _ rfl rfl rfl (by decide)

end Dhas.Analysis.MusicLoop
