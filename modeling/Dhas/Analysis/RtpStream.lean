import Mathlib.Data.List.Chain
import Dhas.Model.SoundDevices

/-!
# The RTP stream is the playlist

Without music and without `clearQueue`, the payloads that were sent, the rest of the current
sound and the sounds on the queue always make up the sounds that were put on the queue. So when
the queue is empty and no sound is current, the stream is the playlist; while a sound is
current, the rest of it is missing.
-/

set_option autoImplicit false

namespace Dhas.Analysis.RtpStream

open Dhas.Library Dhas.Program Dhas.Program.Sound Dhas.Model.SoundDevices

/-- Sounds are put on the queue, and the session is started and plays. -/
def PlaysOnly : Act → Prop
  | .put _ => True
  | .start => True
  | .work _ => True
  | _ => False

instance : DecidablePred PlaysOnly
  | .put _ => isTrue trivial
  | .setMusic _ => isFalse id
  | .clearQueue => isFalse id
  | .start => isTrue trivial
  | .stop => isFalse id
  | .work _ => isTrue trivial

/-- The bytes of all payloads. -/
def sentBytes (trace : List DeviceEvent) : List UInt8 :=
  (trace.flatMap DeviceEvent.cells).map Cell.byte

/-- The time stamp after a payload is its own and its length. -/
def Follows : DeviceEvent → DeviceEvent → Prop
  | .rtp_session_send_with_ts payload ts, .rtp_session_send_with_ts _ ts' =>
    ts' = (ts + payload.length) % 2 ^ 32
  | _, _ => True

/-- What the rounds of `work()` did: each sent a payload or was idle. -/
def rounds (trace : List DeviceEvent) : List DeviceEvent :=
  trace.filter (· ≠ .notifyQueueEmpty)

/-- A payload that comes right after another one follows it in time. -/
def Paced (trace : List DeviceEvent) : Prop := (rounds trace).IsChain Follows

/-- What a session has sent at the end of a run. -/
structure IsPlaylist (s : Sound.RTPSession) : Prop where
  bytes : sentBytes s.trace = s.playlist.flatten
  short : ∀ e ∈ s.trace, e.cells.length ≤ CONF_RTP_PAYLOAD_SIZE
  paced : Paced s.trace

/-- The rest of the current sound. -/
def currentBytes (mCurrentSound : Option ISound) : List UInt8 :=
  (mCurrentSound.map ISound.bytes).getD []

/-- What every step keeps. -/
structure Streams (s : Sound.RTPSession) : Prop where
  noMusic : s.mMusic = none
  notInterrupted : s.rtpInterruptCurrentSound = false
  bytes : sentBytes s.trace ++ currentBytes s.mCurrentSound ++
    s.mSoundQueue.items.flatMap ISound.bytes = s.playlist.flatten
  short : ∀ e ∈ s.trace, e.cells.length ≤ CONF_RTP_PAYLOAD_SIZE
  paced : Paced s.trace
  clock : ∀ payload ts,
    (rounds s.trace).getLast? = some (.rtp_session_send_with_ts payload ts) →
      s.mResetTime = false ∧ s.mUser_ts = (ts + payload.length) % 2 ^ 32
  beforeStart : s.joinable = false → s.trace = [] ∧ s.mCurrentSound = none

/-- INTERNAL: the bytes of one more event. -/
theorem sentBytes_append (trace : List DeviceEvent) (e : DeviceEvent) :
    sentBytes (trace ++ [e]) = sentBytes trace ++ e.cells.map Cell.byte := by
  simp [sentBytes]

/-- INTERNAL: one more round. -/
theorem rounds_append {trace : List DeviceEvent} {e : DeviceEvent} (he : e ≠ .notifyQueueEmpty) :
    rounds (trace ++ [e]) = rounds trace ++ [e] := by
  simp [rounds, he]

/-- INTERNAL: a notification is no round. -/
theorem rounds_append_notify (trace : List DeviceEvent) :
    rounds (trace ++ [.notifyQueueEmpty]) = rounds trace := by
  simp [rounds]

/-- INTERNAL: the bytes that were read are the head of the buffer. -/
theorem take_overwrite (buffer : List Cell) (origin : Origin) (bytes : List UInt8) :
    (overwrite buffer origin bytes).take bytes.length = bytes.map (Cell.mk origin) := by
  unfold overwrite
  rw [List.take_append_of_le_length (by simp), List.take_of_length_le (by simp)]

/-- INTERNAL: **a chunk of a sound**: without music and uninterrupted, the payload is the next
bytes of the current sound, and the rest of it stays. SOURCE: RTPSession.cpp:124-145 -/
theorem fillBuffer_sound {size : ℕ} {sound : ISound} {buffer : List Cell} {r : Filled}
    (h : fillBuffer size false none (some sound) buffer = r) :
    r.mMusic = none ∧ r.toSend = (sound.bytes.take size).length ∧
      r.buffer.take r.toSend = (sound.bytes.take size).map (Cell.mk (.sound sound.number)) ∧
      currentBytes r.mCurrentSound = sound.bytes.drop size := by
  simp only [fillBuffer, readMusic, readSound, ISound.getSample, Option.map_none, or_false,
    Option.isSome_none, if_false, Bool.false_eq_true] at h
  by_cases hshort : (sound.bytes.take size).length < size
  · rw [if_pos hshort] at h
    subst h
    refine ⟨rfl, rfl, take_overwrite .., ?_⟩
    show [] = sound.bytes.drop size
    rw [List.length_take] at hshort
    rw [List.drop_of_length_le (by omega)]
  · rw [if_neg hshort] at h
    subst h
    have hfull : (sound.bytes.take size).length = size := by
      have hle := List.length_take_le size sound.bytes
      omega
    refine ⟨rfl, hfull.symm, ?_, rfl⟩
    show (overwrite buffer (.sound sound.number) (sound.bytes.take size)).take size = _
    have hhead := take_overwrite buffer (.sound sound.number) (sound.bytes.take size)
    rwa [hfull] at hhead

/-! ## One step -/

/-- INTERNAL: a new session has sent nothing. -/
theorem streams_new (capacity : ℕ) : Streams (Sound.RTPSession.new capacity) where
  noMusic := rfl
  notInterrupted := rfl
  bytes := rfl
  short := by simp [Sound.RTPSession.new, ISoundDevice.new]
  paced := List.isChain_nil
  clock := by simp [Sound.RTPSession.new, ISoundDevice.new, rounds]
  beforeStart := fun _ => ⟨rfl, rfl⟩

/-- INTERNAL: a sound is put on the queue. SOURCE: ISoundDevice.cpp:16-36 -/
theorem Streams.put {s : Sound.RTPSession} (h : Streams s) (bytes : List UInt8) :
    Streams { s with toISoundDevice := s.put bytes } := by
  unfold ISoundDevice.put
  split
  case isTrue hroom =>
    exact {
      noMusic := h.noMusic
      notInterrupted := h.notInterrupted
      bytes := by
        show sentBytes s.trace ++ currentBytes s.mCurrentSound ++
          (s.mSoundQueue.put ⟨s.playlist.length, bytes⟩).items.flatMap ISound.bytes =
            (s.playlist ++ [bytes]).flatten
        rw [BoundedQueue.items_put_of_hasRoom hroom, List.flatMap_append, ← List.append_assoc,
          h.bytes]
        simp
      short := h.short
      paced := h.paced
      clock := h.clock
      beforeStart := h.beforeStart }
  case isFalse => exact h

/-- INTERNAL: the session is started, once. SOURCE: RTPSession.cpp:28-51 -/
theorem Streams.start {s s' : Sound.RTPSession} (h : Streams s) (hstep : s.start = some s') :
    Streams s' := by
  obtain ⟨hidle, -, rfl⟩ := Sound.RTPSession.start_eq_some hstep
  obtain ⟨htrace, hcurrent⟩ := h.beforeStart hidle
  exact {
    noMusic := h.noMusic
    notInterrupted := rfl
    bytes := by
      have hbytes := h.bytes
      rw [hcurrent] at hbytes
      exact hbytes
    short := h.short
    paced := h.paced
    clock := by simp [htrace, rounds]
    beforeStart := fun hstarted => absurd hstarted (by simp) }

/-- INTERNAL: one more event that sends no more than a payload. -/
theorem short_append_singleton {trace : List DeviceEvent} {e : DeviceEvent}
    (h : ∀ e ∈ trace, e.cells.length ≤ CONF_RTP_PAYLOAD_SIZE)
    (he : e.cells.length ≤ CONF_RTP_PAYLOAD_SIZE) :
    ∀ e' ∈ trace ++ [e], e'.cells.length ≤ CONF_RTP_PAYLOAD_SIZE := by
  intro e' he'
  rcases List.mem_append.mp he' with hbefore | hlast
  · exact h e' hbefore
  · rw [List.mem_singleton.mp hlast]
    exact he

/-- INTERNAL: a sound goes from the queue to the device. SOURCE: RTPSession.cpp:93-106 -/
theorem Streams.takeSound {s : Sound.RTPSession} (h : Streams s) (hjoinable : s.joinable = true) :
    Streams s.takeSound ∧ s.takeSound.joinable = true := by
  unfold Sound.RTPSession.takeSound ISoundDevice.nextSound
  split
  case isTrue => exact ⟨h, hjoinable⟩
  case isFalse hnone =>
    have hcurrent : s.mCurrentSound = none := by simpa using hnone
    cases hget : s.mSoundQueue.get with
    | some r =>
      obtain ⟨sound, queue⟩ := r
      have hitems := (BoundedQueue.get_eq_some_iff.mp hget).1
      refine ⟨?_, hjoinable⟩
      exact {
        noMusic := h.noMusic
        notInterrupted := rfl
        bytes := by
          have hbytes := h.bytes
          rw [hcurrent, hitems, List.flatMap_cons, ← List.append_assoc] at hbytes
          simpa [currentBytes] using hbytes
        short := h.short
        paced := h.paced
        clock := h.clock
        beforeStart := fun hidle => absurd (hidle.symm.trans hjoinable) (by simp) }
    | none =>
      unfold ISoundDevice.queueEmpty
      simp only [Option.map_none]
      split
      · exact ⟨h, hjoinable⟩
      · refine ⟨?_, hjoinable⟩
        exact {
          noMusic := h.noMusic
          notInterrupted := h.notInterrupted
          bytes := by
            have hbytes := h.bytes
            simpa [ISoundDevice.record, sentBytes_append, DeviceEvent.cells] using hbytes
          short := short_append_singleton h.short (Nat.zero_le _)
          paced := by
            have hpaced := h.paced
            unfold Paced at hpaced ⊢
            rwa [ISoundDevice.record, rounds_append_notify]
          clock := by
            intro p ts hlast
            rw [ISoundDevice.record, rounds_append_notify] at hlast
            exact h.clock p ts hlast
          beforeStart := fun hidle => absurd (hidle.symm.trans hjoinable) (by simp) }

/-- INTERNAL: an idle round. SOURCE: RTPSession.cpp:108-114 -/
theorem Streams.setIdle {s : Sound.RTPSession} (h : Streams s) (hjoinable : s.joinable = true) :
    Streams s.setIdle where
  noMusic := h.noMusic
  notInterrupted := h.notInterrupted
  bytes := by
    have hbytes := h.bytes
    simpa [Sound.RTPSession.setIdle, ISoundDevice.record, sentBytes_append, DeviceEvent.cells]
      using hbytes
  short := short_append_singleton h.short (Nat.zero_le _)
  paced := by
    have hpaced := h.paced
    unfold Paced at hpaced ⊢
    rw [Sound.RTPSession.setIdle, ISoundDevice.record, rounds_append (by simp)]
    apply hpaced.append (List.isChain_singleton _)
    intro x _ y hy
    obtain rfl := Option.some.inj hy
    cases x <;> trivial
  clock := by
    intro p ts hlast
    rw [Sound.RTPSession.setIdle, ISoundDevice.record, rounds_append (by simp)] at hlast
    simp at hlast
  beforeStart := fun hidle => absurd (hidle.symm.trans hjoinable) (by simp)

/-- INTERNAL: a round that sends a chunk of the current sound. SOURCE: RTPSession.cpp:116-159 -/
theorem Streams.sent {s : Sound.RTPSession} (h : Streams s) (hjoinable : s.joinable = true)
    {sound : ISound} (hcurrent : s.mCurrentSound = some sound) (current_send_ts : ℕ) :
    Streams (s.sent current_send_ts) := by
  obtain ⟨r, hr⟩ : ∃ r, fillBuffer CONF_RTP_PAYLOAD_SIZE s.rtpInterruptCurrentSound s.mMusic
    s.mCurrentSound s.mBuffer = r := ⟨_, rfl⟩
  have hfill : fillBuffer CONF_RTP_PAYLOAD_SIZE false none (some sound) s.mBuffer = r := by
    rw [← hr, h.notInterrupted, h.noMusic, hcurrent]
  obtain ⟨hmusic, hsend, hpayload, hrest⟩ := fillBuffer_sound hfill
  have hlength : (r.buffer.take r.toSend).length = r.toSend := by
    rw [hpayload, hsend, List.length_map]
  unfold Sound.RTPSession.sent
  rw [hr]
  exact {
    noMusic := hmusic
    notInterrupted := h.notInterrupted
    bytes := by
      have hbytes := h.bytes
      rw [hcurrent] at hbytes
      rw [← hbytes]
      show sentBytes (s.trace ++ [_]) ++ currentBytes r.mCurrentSound ++ _ = _
      rw [sentBytes_append, hrest]
      simp only [DeviceEvent.cells, hpayload, List.map_map, currentBytes, Option.map_some,
        Option.getD_some]
      rw [List.append_assoc (sentBytes s.trace)]
      congr 2
      exact (congrArg (· ++ _) (List.map_id _)).trans (List.take_append_drop _ _)
    short := by
      apply short_append_singleton h.short
      show (r.buffer.take r.toSend).length ≤ _
      rw [hlength, hsend]
      exact List.length_take_le _ _
    paced := by
      have hpaced := h.paced
      unfold Paced at hpaced ⊢
      rw [rounds_append (by simp)]
      apply hpaced.append (List.isChain_singleton _)
      intro x hx y hy
      obtain rfl := Option.some.inj hy
      cases x with
      | rtp_session_send_with_ts p ts =>
        obtain ⟨hreset, hts⟩ := h.clock p ts hx
        show (if s.mResetTime then current_send_ts else s.mUser_ts) = _
        rw [hreset, hts]
        rfl
      | notifyQueueEmpty => trivial
      | setIdle => trivial
      | playChunk chunk => trivial
    clock := by
      intro p ts hlast
      rw [rounds_append (by simp), List.getLast?_append_of_ne_nil _ (by simp)] at hlast
      obtain ⟨rfl, rfl⟩ : r.buffer.take r.toSend = p ∧
          (if s.mResetTime then current_send_ts else s.mUser_ts) = ts := by
        simpa using hlast
      refine ⟨rfl, ?_⟩
      rw [hlength]
    beforeStart := fun hidle => absurd (hidle.symm.trans hjoinable) (by simp) }

/-- INTERNAL: a round of the thread. SOURCE: RTPSession.cpp:91-160 -/
theorem Streams.work {s s' : Sound.RTPSession} (h : Streams s) (hjoinable : s.joinable = true)
    {current_send_ts : ℕ} (hwork : s.work current_send_ts = some s') : Streams s' := by
  obtain ⟨htake, hjoinable⟩ := h.takeSound hjoinable
  rcases Sound.RTPSession.work_eq_some hwork with ⟨-, rfl⟩ | ⟨hloud, rfl⟩
  · exact htake.setIdle hjoinable
  · obtain ⟨sound, hsound⟩ := Option.ne_none_iff_exists'.mp
      fun hnone => hloud ⟨htake.noMusic, hnone⟩
    exact htake.sent hjoinable hsound current_send_ts

/-- INTERNAL: every step of a session that only plays. -/
theorem Streams.step {files : Files} {s s' : Sound.RTPSession} {a : Act} (h : Streams s)
    (ha : PlaysOnly a) (hstep : rtpStep files s a = some s') : Streams s' := by
  cases a with
  | put bytes =>
    obtain rfl := Option.some.inj hstep
    exact h.put bytes
  | start => exact h.start hstep
  | work current_send_ts =>
    rw [rtpStep, Option.ite_none_right_eq_some] at hstep
    exact h.work hstep.1 hstep.2
  | setMusic filename => exact ha.elim
  | clearQueue => exact ha.elim
  | stop => exact ha.elim

/-- INTERNAL: **the account of a stream**: what was sent, the rest of the current sound and the
queue make up the playlist, at every point of every run that only plays. -/
theorem run_streams {files : Files} {acts : List Act} (hacts : ∀ a ∈ acts, PlaysOnly a)
    {s s' : Sound.RTPSession} (h : Streams s)
    (hrun : run (rtpStep files) s acts = some s') : Streams s' := by
  induction acts generalizing s with
  | nil => exact Option.some.inj hrun ▸ h
  | cons a acts ih =>
    obtain ⟨t, ht, hrest⟩ := Option.bind_eq_some_iff.mp hrun
    obtain ⟨ha, hacts⟩ := List.forall_mem_cons.mp hacts
    exact ih hacts (h.step ha ht) hrest

/-- **The RTP stream is the playlist**: whatever sounds are put on the queue and whenever, at
the end of a run that leaves no sound on the queue and none current the payloads are the bytes
of the sounds in the order of the queue. No payload is longer than 160 bytes, and the time
stamps of successive payloads are a payload apart.
SOURCE: RTPSession.cpp:91-160, SoundFile.cpp:76-89, SilenceSound.cpp:18-30 -/
theorem stream_isPlaylist (files : Files) (capacity : ℕ) (acts : List Act)
    (hacts : ∀ a ∈ acts, PlaysOnly a) {s : Sound.RTPSession}
    (hrun : run (rtpStep files) (Sound.RTPSession.new capacity) acts = some s) :
    (s.mSoundQueue.items = [] → s.mCurrentSound = none →
        sentBytes s.trace = s.playlist.flatten) ∧
      (∀ e ∈ s.trace, e.cells.length ≤ CONF_RTP_PAYLOAD_SIZE) ∧ Paced s.trace := by
  have h := run_streams hacts (streams_new capacity) hrun
  refine ⟨fun hqueue hcurrent => ?_, h.short, h.paced⟩
  have hbytes := h.bytes
  rw [hqueue, hcurrent] at hbytes
  simpa [currentBytes] using hbytes

/-- A sound of three bytes, and one that takes two payloads and is put on the queue meanwhile. -/
def twoSounds : List Act :=
  [.put [1, 2, 3], .start, .work 0, .put (List.replicate 200 4), .work 160, .work 320]

/-- The two sounds are played one after the other, in three payloads. -/
theorem shortSound_isPlaylist :
    ∃ s, run (rtpStep fun _ => none) (Sound.RTPSession.new 16) twoSounds = some s ∧
      s.playlist = [[1, 2, 3], List.replicate 200 4] ∧ (rounds s.trace).length = 3 ∧
      sentBytes s.trace = s.playlist.flatten := by
  have hqueue : ((run (rtpStep fun _ => none) (Sound.RTPSession.new 16) twoSounds).map fun s =>
      (s.playlist, (rounds s.trace).length, s.mSoundQueue.items, s.mCurrentSound)) =
        some ([[1, 2, 3], List.replicate 200 4], 3, [], none) := by
    decide +kernel
  obtain ⟨s, hrun, hs⟩ := Option.map_eq_some_iff.mp hqueue
  simp only [Prod.mk.injEq] at hs
  refine ⟨s, hrun, hs.1, hs.2.1, ?_⟩
  exact (stream_isPlaylist (fun _ => none) 16 twoSounds (by decide) hrun).1 hs.2.2.1 hs.2.2.2

/-- **While a sound is current the queue is empty, but the rest of the sound is not sent yet.** -/
theorem longSound_not_isPlaylist :
    ∃ s, run (rtpStep fun _ => none) (Sound.RTPSession.new 16)
        [.put (List.replicate 320 1), .start, .work 0] = some s ∧
      s.mSoundQueue.items = [] ∧ ¬ IsPlaylist s := by
  refine ⟨_, rfl, rfl, fun h => ?_⟩
  have hlength := congrArg List.length h.bytes
  revert hlength
  decide +kernel

end Dhas.Analysis.RtpStream
