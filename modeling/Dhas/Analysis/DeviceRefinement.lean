import Dhas.Model.ClearedDevice

/-!
# Both classes of sound devices refine one

`RTPSession` and `SoundCard` play as `SoundDevice` says: each call to them and each round of
their threads is one of its moves, and what they send is what it sends. The two differ in the
chunk, in the frame and in the flag that interrupts a sound.
-/

set_option autoImplicit false

namespace Dhas.Analysis.DeviceRefinement

open Dhas.Library Dhas.Program Dhas.Program.Sound Dhas.Model Dhas.Model.SoundDevices

/-- INTERNAL: a write inside the buffer does not make it longer. -/
theorem length_overwrite {buffer : List Cell} {origin : Origin} {bytes : List UInt8}
    (h : bytes.length ≤ buffer.length) :
    (overwrite buffer origin bytes).length = buffer.length := by
  unfold overwrite
  rw [List.length_append, List.length_map, List.length_drop]
  omega

/-- INTERNAL: a file gives no more bytes than were asked for. -/
theorem length_getSample_le (music : SoundFile) (size : ℕ) :
    (music.getSample size).1.length ≤ size := by
  rw [(music.getSample_bytes size).1]
  exact List.length_take_le _ _

/-- INTERNAL: the fill keeps the size of the buffer. -/
theorem length_fillBuffer {size : ℕ} {interrupt : Bool} {mMusic : Option SoundFile}
    {mCurrentSound : Option ISound} {buffer : List Cell} (h : buffer.length = size) :
    (fillBuffer size interrupt mMusic mCurrentSound buffer).buffer.length = size := by
  have hmusic : (readMusic size mMusic buffer).length = size := by
    cases mMusic with
    | none => exact h
    | some music =>
      have hle := length_getSample_le music size
      show (overwrite buffer .music (music.getSample size).1).length = size
      rw [length_overwrite (by omega), h]
  unfold fillBuffer
  rw [readSound_buffer]
  cases mCurrentSound with
  | none => exact hmusic
  | some sound =>
    have hle := List.length_take_le size sound.bytes
    show (overwrite _ _ (sound.bytes.take size)).length = size
    rw [length_overwrite (by omega), hmusic]

/-- INTERNAL: what was sent since is what the new events sent. -/
theorem sentSince_append (before events : List DeviceEvent) :
    sentSince before (before ++ events) = events.flatMap DeviceEvent.cells := by
  rw [sentSince, List.drop_left]

/-- INTERNAL: what the last event of a trace adds, when nothing was sent before it. -/
theorem sentSince_concat {before after events : List DeviceEvent}
    (htrace : after = before ++ events) (hevents : events.flatMap DeviceEvent.cells = [])
    (e : DeviceEvent) :
    sentSince before (after ++ [e]) = e.cells := by
  rw [htrace, List.append_assoc, sentSince_append, List.flatMap_append, hevents, List.nil_append,
    List.flatMap_singleton]

/-! ## What both classes inherit -/

section ISoundDevice

variable (d : ISoundDevice)

/-- INTERNAL: there is a next sound exactly when the queue is not empty. -/
theorem nextSound_cases :
    (d.nextSound = none ∧ d.mSoundQueue.items = []) ∨
      ∃ sound queue, d.nextSound = some { d with
          mSoundQueue := queue, mCurrentSound := some sound, mQueueWasEmpty := false } ∧
        d.mSoundQueue.items = sound :: queue.items := by
  unfold ISoundDevice.nextSound
  cases hget : d.mSoundQueue.get with
  | none => exact .inl ⟨rfl, BoundedQueue.get_eq_none_iff.mp hget⟩
  | some r => exact .inr ⟨r.1, r.2, rfl, (BoundedQueue.get_eq_some_iff.mp hget).1⟩

/-- INTERNAL: a device that finds its queue empty tells its observers, and sends no cell. -/
theorem queueEmpty_eq :
    ∃ events, d.queueEmpty = { d with trace := d.trace ++ events, mQueueWasEmpty := true } ∧
      events.flatMap DeviceEvent.cells = [] := by
  unfold ISoundDevice.queueEmpty
  split
  case isTrue hempty =>
    refine ⟨[], ?_, rfl⟩
    rw [List.append_nil, ← hempty]
  case isFalse => exact ⟨[.notifyQueueEmpty], rfl, rfl⟩

/-- INTERNAL: a sound is queued behind the others, or refused by a full queue. -/
theorem put_cases (bytes : List UInt8) :
    d.put bytes = d ∨
      ∃ queue, d.put bytes =
          { d with mSoundQueue := queue, playlist := d.playlist ++ [bytes] } ∧
        queue.items = d.mSoundQueue.items ++ [⟨d.playlist.length, bytes⟩] := by
  unfold ISoundDevice.put
  by_cases hroom : d.mSoundQueue.HasRoom
  · rw [if_pos hroom]
    exact .inr ⟨_, rfl, BoundedQueue.items_put_of_hasRoom hroom _⟩
  · rw [if_neg hroom]
    exact .inl rfl

end ISoundDevice

/-! ## RTPSession -/

section RTPSession

variable {files : Files}

/-- The buffer holds a payload. -/
def RtpOk (s : Sound.RTPSession) : Prop := s.mBuffer.length = CONF_RTP_PAYLOAD_SIZE

/-- INTERNAL: the first part of a round. SOURCE: RTPSession.cpp:93-106 -/
theorem view_rtp_takeSound (s : Sound.RTPSession) :
    (rtpClass files).view s.takeSound = ((rtpClass files).view s).takeSound := by
  unfold Sound.RTPSession.takeSound SoundDevice.takeSound
  cases hcurrent : s.mCurrentSound with
  | some sound => simp [rtpClass, hcurrent]
  | none =>
    rcases nextSound_cases s.toISoundDevice with ⟨hnext, hitems⟩ | ⟨sound, queue, hnext, hitems⟩
    · obtain ⟨events, hempty, -⟩ := queueEmpty_eq s.toISoundDevice
      simp [hnext, hempty, rtpClass, hcurrent, hitems]
    · simp [hnext, rtpClass, hcurrent, hitems]

/-- INTERNAL: a round. SOURCE: RTPSession.cpp:91-160 -/
theorem view_rtp_work {s s' : Sound.RTPSession} {current_send_ts : ℕ}
    (hwork : s.work current_send_ts = some s') :
    (rtpClass files).view s' = ((rtpClass files).view s).work := by
  unfold SoundDevice.work
  rw [← view_rtp_takeSound]
  rcases Sound.RTPSession.work_eq_some hwork with ⟨hsilent, rfl⟩ | ⟨hloud, rfl⟩
  · have hview : ((rtpClass files).view s.takeSound).Silent := hsilent
    rw [if_pos hview]
    rfl
  · have hview : ¬ ((rtpClass files).view s.takeSound).Silent := hloud
    rw [if_neg hview]
    rfl

/-- INTERNAL: before the chunk no cell is sent. SOURCE: RTPSession.cpp:93-106 -/
theorem trace_rtp_takeSound (s : Sound.RTPSession) :
    ∃ events, s.takeSound.trace = s.trace ++ events ∧ events.flatMap DeviceEvent.cells = [] := by
  unfold Sound.RTPSession.takeSound
  by_cases hcurrent : s.mCurrentSound.isSome
  · rw [if_pos hcurrent]
    exact ⟨[], (List.append_nil _).symm, rfl⟩
  · rw [if_neg hcurrent]
    rcases nextSound_cases s.toISoundDevice with ⟨hnext, -⟩ | ⟨sound, queue, hnext, -⟩
    · obtain ⟨events, hempty, hevents⟩ := queueEmpty_eq s.toISoundDevice
      rw [hnext, hempty]
      exact ⟨events, rfl, hevents⟩
    · rw [hnext]
      exact ⟨[], (List.append_nil _).symm, rfl⟩

/-- INTERNAL: a round sends the payload of the device. SOURCE: RTPSession.cpp:91-160 -/
theorem sentSince_rtp_work {s s' : Sound.RTPSession} {current_send_ts : ℕ}
    (hwork : s.work current_send_ts = some s') :
    sentSince s.trace s'.trace = ((rtpClass files).view s).sent := by
  obtain ⟨events, htrace, hevents⟩ := trace_rtp_takeSound s
  unfold SoundDevice.sent
  rw [← view_rtp_takeSound]
  rcases Sound.RTPSession.work_eq_some hwork with ⟨hsilent, rfl⟩ | ⟨hloud, rfl⟩
  · have hview : ((rtpClass files).view s.takeSound).Silent := hsilent
    rw [if_pos hview]
    exact sentSince_concat htrace hevents .setIdle
  · have hview : ¬ ((rtpClass files).view s.takeSound).Silent := hloud
    rw [if_neg hview]
    unfold Sound.RTPSession.sent
    rw [sentSince_concat htrace hevents]
    unfold SoundDevice.payload
    show _ = List.take (_ / 1 * 1) _
    rw [Nat.div_one, Nat.mul_one]
    rfl

/-- INTERNAL: the buffer of a session is that of its device, so it keeps its length. -/
theorem RtpOk.work {s s' : Sound.RTPSession} (h : RtpOk s) {current_send_ts : ℕ}
    (hwork : s.work current_send_ts = some s') : RtpOk s' := by
  have hbuffer : s'.mBuffer = ((rtpClass fun _ => none).view s).work.buffer :=
    congrArg SoundDevice.buffer (view_rtp_work hwork)
  have htake : ((rtpClass fun _ => none).view s).takeSound.buffer = s.mBuffer := by
    unfold SoundDevice.takeSound
    split <;> rfl
  have hchunk : ((rtpClass fun _ => none).view s).takeSound.chunk = CONF_RTP_PAYLOAD_SIZE := by
    unfold SoundDevice.takeSound
    split <;> rfl
  unfold RtpOk
  rw [hbuffer]
  unfold SoundDevice.work
  split
  · rw [htake, h]
  · show (fillBuffer _ _ _ _ _).buffer.length = _
    rw [hchunk, htake]
    exact length_fillBuffer h

/-- INTERNAL: **`RTPSession` refines the sound device**, with a flag of its own.
SOURCE: ISoundDevice.cpp:16-53, RTPSession.cpp:28-160 -/
theorem rtp_refines (files : Files) : (rtpClass files).Refines RtpOk where
  keeps := by
    intro s a s' h hstep
    cases a with
    | put bytes =>
      obtain rfl := Option.some.inj hstep
      exact h
    | setMusic filename =>
      obtain rfl := Option.some.inj hstep
      exact h
    | clearQueue =>
      obtain rfl := Option.some.inj hstep
      exact h
    | start =>
      obtain ⟨-, -, rfl⟩ := Sound.RTPSession.start_eq_some hstep
      exact h
    | stop =>
      obtain rfl := Option.some.inj hstep
      exact h
    | work current_send_ts => exact h.work (Option.ite_none_right_eq_some.mp hstep).2
  moves := by
    intro s a s' h hstep
    cases a with
    | put bytes =>
      obtain rfl := Option.some.inj hstep
      rcases put_cases s.toISoundDevice bytes with hput | ⟨queue, hput, hitems⟩
      · rw [hput]
        exact .refuse bytes
      · have hview : (rtpClass files).view { s with toISoundDevice := s.put bytes } =
            { (rtpClass files).view s with
              queue := s.mSoundQueue.items ++ [⟨s.playlist.length, bytes⟩]
              queued := s.playlist.length + 1 } := by
          simp [rtpClass, hput, hitems]
        rw [hview]
        exact .put bytes
    | setMusic filename =>
      obtain rfl := Option.some.inj hstep
      exact .setMusic filename _
    | clearQueue =>
      obtain rfl := Option.some.inj hstep
      exact .clearQueue
    | start =>
      obtain ⟨-, -, rfl⟩ := Sound.RTPSession.start_eq_some hstep
      exact .start s.mBuffer CONF_RTP_PAYLOAD_SIZE Sound.RTPSession.getSampleSize
    | stop =>
      obtain rfl := Option.some.inj hstep
      exact .stop Sound.RTPSession.getSampleSize
    | work current_send_ts =>
      obtain ⟨-, hwork⟩ := Option.ite_none_right_eq_some.mp hstep
      rw [view_rtp_work hwork]
      apply SoundDevice.Moves.work
      rw [← view_rtp_takeSound]
      have hbuffer : s.takeSound.mBuffer = s.mBuffer := by
        unfold Sound.RTPSession.takeSound
        split
        · rfl
        · split <;> rfl
      exact ⟨Nat.one_pos, one_dvd _, (congrArg List.length hbuffer).trans h⟩
  sends := by
    intro s current_send_ts s' _ hstep
    exact sentSince_rtp_work (Option.ite_none_right_eq_some.mp hstep).2

end RTPSession

/-! ## SoundCard -/

section SoundCard

variable {files : Files} {pcm : AlsaPCM}

/-- While there is a thread, the card is open and the buffer holds a chunk of it. -/
structure CardOk (pcm : AlsaPCM) (s : SoundCard) : Prop where
  card : ∀ p, s.mpAlsaPCM = some p → p = pcm
  chunk : s.joinable = true → s.mChunkSize = pcm.periodSizeInSamples * pcm.sampleSize
  whole : s.joinable = true → s.mChunkSize ≠ 0
  buffer : s.joinable = true → s.mBuffer.length = s.mChunkSize

/-- INTERNAL: the first part of a round. SOURCE: SoundCard.cpp:71-85 -/
theorem view_card_takeSound (s : SoundCard) :
    (cardClass files pcm).view s.takeSound = ((cardClass files pcm).view s).takeSound := by
  unfold SoundCard.takeSound SoundDevice.takeSound
  cases hcurrent : s.mCurrentSound with
  | some sound => simp [cardClass, hcurrent]
  | none =>
    rcases nextSound_cases s.toISoundDevice with ⟨hnext, hitems⟩ | ⟨sound, queue, hnext, hitems⟩
    · obtain ⟨events, hempty, -⟩ := queueEmpty_eq s.toISoundDevice
      simp [hnext, hempty, cardClass, hcurrent, hitems]
    · simp [hnext, cardClass, hcurrent, hitems]

/-- INTERNAL: a round. SOURCE: SoundCard.cpp:69-128 -/
theorem view_card_work {s s' : SoundCard} (hwork : s.work = some s') :
    (cardClass files pcm).view s' = ((cardClass files pcm).view s).work := by
  obtain ⟨p, -, rfl⟩ := Option.map_eq_some_iff.mp hwork
  unfold SoundDevice.work
  rw [← view_card_takeSound]
  by_cases hsilent : s.takeSound.Silent
  · have hview : ((cardClass files pcm).view s.takeSound).Silent := hsilent
    simp only [if_pos hsilent]
    rw [if_pos hview]
    rfl
  · have hview : ¬ ((cardClass files pcm).view s.takeSound).Silent := hsilent
    simp only [if_neg hsilent]
    rw [if_neg hview]
    rfl

/-- INTERNAL: before the chunk no cell is played. SOURCE: SoundCard.cpp:71-85 -/
theorem trace_card_takeSound (s : SoundCard) :
    ∃ events, s.takeSound.trace = s.trace ++ events ∧ events.flatMap DeviceEvent.cells = [] := by
  unfold SoundCard.takeSound
  by_cases hcurrent : s.mCurrentSound.isSome
  · rw [if_pos hcurrent]
    exact ⟨[], (List.append_nil _).symm, rfl⟩
  · rw [if_neg hcurrent]
    rcases nextSound_cases s.toISoundDevice with ⟨hnext, -⟩ | ⟨sound, queue, hnext, -⟩
    · obtain ⟨events, hempty, hevents⟩ := queueEmpty_eq s.toISoundDevice
      rw [hnext, hempty]
      exact ⟨events, rfl, hevents⟩
    · rw [hnext]
      exact ⟨[], (List.append_nil _).symm, rfl⟩

/-- INTERNAL: the first part of a round leaves the card and the buffer as they are. -/
theorem card_takeSound (s : SoundCard) :
    s.takeSound.mpAlsaPCM = s.mpAlsaPCM ∧ s.takeSound.mChunkSize = s.mChunkSize ∧
      s.takeSound.mBuffer = s.mBuffer ∧ s.takeSound.joinable = s.joinable := by
  unfold SoundCard.takeSound
  split
  · exact ⟨rfl, rfl, rfl, rfl⟩
  · rcases nextSound_cases s.toISoundDevice with ⟨hnext, -⟩ | ⟨sound, queue, hnext, -⟩
    · obtain ⟨events, hempty, -⟩ := queueEmpty_eq s.toISoundDevice
      rw [hnext, hempty]
      exact ⟨rfl, rfl, rfl, rfl⟩
    · rw [hnext]
      exact ⟨rfl, rfl, rfl, rfl⟩

/-- INTERNAL: a round plays the payload of the device. SOURCE: SoundCard.cpp:69-128 -/
theorem sentSince_card_work {s s' : SoundCard} (hwork : s.work = some s') :
    sentSince s.trace s'.trace = ((cardClass files pcm).view s).sent := by
  obtain ⟨p, hp, rfl⟩ := Option.map_eq_some_iff.mp hwork
  obtain ⟨events, htrace, hevents⟩ := trace_card_takeSound s
  unfold SoundDevice.sent
  rw [← view_card_takeSound]
  by_cases hsilent : s.takeSound.Silent
  · have hview : ((cardClass files pcm).view s.takeSound).Silent := hsilent
    simp only [if_pos hsilent]
    rw [if_pos hview]
    exact sentSince_concat htrace hevents .setIdle
  · have hview : ¬ ((cardClass files pcm).view s.takeSound).Silent := hsilent
    simp only [if_neg hsilent]
    rw [if_neg hview]
    have hframe : ((cardClass files pcm).view s.takeSound).frame = p.sampleSize := by
      show (s.takeSound.mpAlsaPCM.map AlsaPCM.sampleSize).getD 0 = p.sampleSize
      rw [(card_takeSound s).1, hp]
      rfl
    unfold SoundDevice.payload
    rw [hframe]
    exact sentSince_concat htrace hevents _

/-- INTERNAL: the card takes its next sound. -/
theorem CardOk.takeSound {s : SoundCard} (h : CardOk pcm s) : CardOk pcm s.takeSound := by
  obtain ⟨hcard, hchunk, hbuffer, hjoinable⟩ := card_takeSound s
  refine ⟨?_, ?_, ?_, ?_⟩
  · rw [hcard]
    exact h.card
  · rw [hjoinable, hchunk]
    exact h.chunk
  · rw [hjoinable, hchunk]
    exact h.whole
  · rw [hjoinable, hchunk, hbuffer]
    exact h.buffer

/-- INTERNAL: the card does one round. -/
theorem CardOk.work {s s' : SoundCard} (h : CardOk pcm s) (hwork : s.work = some s') :
    CardOk pcm s' := by
  obtain ⟨p, hp, rfl⟩ := Option.map_eq_some_iff.mp hwork
  have htake := h.takeSound
  by_cases hsilent : s.takeSound.Silent
  · simp only [if_pos hsilent]
    exact ⟨htake.card, htake.chunk, htake.whole, htake.buffer⟩
  · simp only [if_neg hsilent]
    exact {
      card := htake.card
      chunk := htake.chunk
      whole := htake.whole
      buffer := fun hthread => length_fillBuffer (htake.buffer hthread) }

/-- INTERNAL: **`SoundCard` refines the sound device**, with the flag that `clearQueue` sets.
SOURCE: ISoundDevice.cpp:16-53, SoundCard.cpp:21-128 -/
theorem card_refines (files : Files) (pcm : AlsaPCM) :
    (cardClass files pcm).Refines (CardOk pcm) where
  keeps := by
    intro s a s' h hstep
    cases a with
    | put bytes =>
      obtain ⟨p, -, rfl⟩ := Option.map_eq_some_iff.mp hstep
      split
      · exact h
      · have hthread : (s.put bytes).joinable = s.joinable := by
          unfold ISoundDevice.put
          split <;> rfl
        refine ⟨h.card, ?_, ?_, ?_⟩
        · exact fun hjoin => h.chunk (hthread ▸ hjoin)
        · exact fun hjoin => h.whole (hthread ▸ hjoin)
        · exact fun hjoin => h.buffer (hthread ▸ hjoin)
    | setMusic filename =>
      obtain ⟨p, -, rfl⟩ := Option.map_eq_some_iff.mp hstep
      unfold ISoundDevice.setMusic
      split <;> exact ⟨h.card, h.chunk, h.whole, h.buffer⟩
    | clearQueue =>
      obtain rfl := Option.some.inj hstep
      exact ⟨h.card, h.chunk, h.whole, h.buffer⟩
    | start =>
      unfold cardClass at hstep
      simp only [cardStep, SoundCard.start] at hstep
      split at hstep
      case isTrue hzero =>
        obtain rfl := Option.some.inj hstep
        refine ⟨fun p hp => (Option.some.inj hp).symm, fun _ => rfl, ?_, ?_⟩
        · exact fun hjoin => absurd ((h.chunk hjoin).trans hzero) (h.whole hjoin)
        · exact fun hjoin => absurd ((h.chunk hjoin).trans hzero) (h.whole hjoin)
      case isFalse hchunk =>
        obtain ⟨-, hs'⟩ := Option.ite_none_left_eq_some.mp hstep
        obtain rfl := Option.some.inj hs'
        exact ⟨fun p hp => (Option.some.inj hp).symm, fun _ => rfl, fun _ => hchunk,
          fun _ => List.length_replicate⟩
    | stop =>
      obtain rfl := Option.some.inj hstep
      refine ⟨?_, ?_, ?_, ?_⟩ <;> simp [SoundCard.stop]
    | work current_send_ts =>
      obtain ⟨-, hs'⟩ := Option.ite_none_right_eq_some.mp hstep
      exact h.work hs'
  moves := by
    intro s a s' h hstep
    cases a with
    | put bytes =>
      obtain ⟨p, -, rfl⟩ := Option.map_eq_some_iff.mp hstep
      by_cases hsize : p.sampleSize = 0
      · rw [if_pos hsize]
        exact .refuse bytes
      · rw [if_neg hsize]
        rcases put_cases s.toISoundDevice bytes with hput | ⟨queue, hput, hitems⟩
        · rw [hput]
          exact .refuse bytes
        · have hview : (cardClass files pcm).view { s with toISoundDevice := s.put bytes } =
              { (cardClass files pcm).view s with
                queue := s.mSoundQueue.items ++ [⟨s.playlist.length, bytes⟩]
                queued := s.playlist.length + 1 } := by
            simp [cardClass, hput, hitems]
          rw [hview]
          exact .put bytes
    | setMusic filename =>
      obtain ⟨p, -, rfl⟩ := Option.map_eq_some_iff.mp hstep
      unfold ISoundDevice.setMusic
      split
      · exact .setMusic filename s.mMusic
      · exact .setMusic filename _
    | clearQueue =>
      obtain rfl := Option.some.inj hstep
      exact .clearQueue
    | start =>
      unfold cardClass at hstep
      simp only [cardStep, SoundCard.start] at hstep
      split at hstep
      · obtain rfl := Option.some.inj hstep
        exact .start s.mBuffer _ pcm.sampleSize
      · obtain ⟨-, hs'⟩ := Option.ite_none_left_eq_some.mp hstep
        obtain rfl := Option.some.inj hs'
        exact .start (List.replicate _ _) _ pcm.sampleSize
    | stop =>
      obtain rfl := Option.some.inj hstep
      exact .stop 0
    | work current_send_ts =>
      obtain ⟨hjoin, hs'⟩ := Option.ite_none_right_eq_some.mp hstep
      obtain ⟨p, hp, -⟩ := Option.map_eq_some_iff.mp hs'
      obtain ⟨hcard, hchunk, hbuffer, -⟩ := card_takeSound s
      rw [view_card_work hs']
      apply SoundDevice.Moves.work
      rw [← view_card_takeSound]
      obtain rfl := h.card p hp
      have hframe : ((cardClass files p).view s.takeSound).frame = p.sampleSize := by
        show (s.takeSound.mpAlsaPCM.map AlsaPCM.sampleSize).getD 0 = p.sampleSize
        rw [hcard, hp]
        rfl
      have hwhole : s.takeSound.mChunkSize = p.periodSizeInSamples * p.sampleSize :=
        hchunk.trans (h.chunk hjoin)
      refine ⟨?_, ?_, ?_⟩
      · rw [hframe, Nat.pos_iff_ne_zero]
        intro hzero
        apply h.whole hjoin
        rw [h.chunk hjoin, hzero, Nat.mul_zero]
      · rw [hframe]
        exact ⟨p.periodSizeInSamples, hwhole.trans (Nat.mul_comm _ _)⟩
      · show s.takeSound.mBuffer.length = s.takeSound.mChunkSize
        rw [hbuffer, hchunk]
        exact h.buffer hjoin
  sends := by
    intro s current_send_ts s' _ hstep
    obtain ⟨-, hs'⟩ := Option.ite_none_right_eq_some.mp hstep
    exact sentSince_card_work hs'

end SoundCard

end Dhas.Analysis.DeviceRefinement
