import Dhas.Analysis.DeviceRefinement

/-!
# Whether `clearQueue()` silences a device

After `clearQueue()` the sound that was current may have one more round, which discards it, and
no byte of the sounds that were queued before may be sent otherwise. For a class that refines
the sound device that is the case exactly when no round meets one of two situations: the flag
that `clearQueue` sets is not the one that the round looks at, and the current sound has a whole
chunk left; or the music gives less than a chunk, and the rest of the buffer has bytes of a
cleared sound. `RTPSession` can meet both, `SoundCard` the second.
-/

set_option autoImplicit false

namespace Dhas.Analysis.ClearQueue

open Dhas.Library Dhas.Program Dhas.Program.Sound Dhas.Model Dhas.Model.SoundDevices
open Dhas.Analysis.DeviceRefinement

/-- Nothing of the cleared sounds was sent, and none of them is current, but for the one that
was current when the queue was cleared, in its last round. -/
def Silenced {δ : Type} (C : DeviceClass δ) (s : ClearRun δ) : Prop :=
  s.late = [] ∧
    (s.finishing = none → ∀ sound ∈ (C.view s.device).current, s.cleared ≤ sound.number)

instance {δ : Type} (C : DeviceClass δ) : DecidablePred (Silenced C) :=
  fun _ => inferInstanceAs (Decidable (_ ∧ _))

/-- How many bytes of the music a round reads. -/
def musicRead (d : SoundDevice) : ℕ :=
  match d.music with
  | none => 0
  | some music => (music.getSample d.chunk).1.length

/-- How many bytes of the current sound a round reads. -/
def soundRead (d : SoundDevice) : ℕ :=
  match d.current with
  | none => 0
  | some sound => (sound.bytes.take d.chunk).length

/-- A round ends the sound that was current when the queue was cleared, and sends no cell that an
earlier round left in the buffer, of a cleared sound. -/
structure LastRound (heeds : Bool) (cleared : ℕ) (finishing : Option ℕ) (d : SoundDevice) :
    Prop where
  ended : heeds = true ∨
    ∀ sound ∈ d.current, sound.number < cleared → sound.bytes.length < d.chunk
  fresh : d.music.isSome = true →
    ∀ cell ∈ d.buffer.drop (max (musicRead d) (soundRead d)), ¬ IsLate cleared finishing cell

/-- The condition on a step: every round is a last one. -/
def RoundsEnd {δ : Type} (C : DeviceClass δ) (s : ClearRun δ) : Act → Prop
  | .work _ => LastRound C.heeds s.cleared s.finishing (C.view s.device).takeSound
  | _ => True

/-! ## The chunk of a round -/

section Chunk

variable {d : SoundDevice}

/-- The cells of the sound, over those of the music, over what the buffer had. -/
theorem mem_filled_buffer {cell : Cell} (h : cell ∈ d.filled.buffer) :
    (∃ sound ∈ d.current, cell.origin = .sound sound.number) ∨ cell.origin = .music ∨
      cell ∈ d.buffer.drop (max (musicRead d) (soundRead d)) := by
  have hmusic : ∀ c ∈ (readMusic d.chunk d.music d.buffer).drop (soundRead d),
      c.origin = .music ∨ c ∈ d.buffer.drop (max (musicRead d) (soundRead d)) := by
    intro c hc
    unfold readMusic at hc
    unfold musicRead
    cases hm : d.music with
    | none =>
      simp only [hm] at hc
      simp only [Nat.zero_max]
      exact Or.inr hc
    | some music =>
      simp only [hm, overwrite] at hc ⊢
      rw [List.drop_append, List.drop_drop, List.length_map] at hc
      rcases List.mem_append.mp hc with hc | hc
      · obtain ⟨byte, -, rfl⟩ := List.mem_map.mp (List.mem_of_mem_drop hc)
        exact Or.inl rfl
      · refine Or.inr ?_
        have hmax : (music.getSample d.chunk).1.length +
            (soundRead d - (music.getSample d.chunk).1.length) =
              max (music.getSample d.chunk).1.length (soundRead d) := by omega
        rwa [hmax] at hc
  unfold SoundDevice.filled fillBuffer at h
  rw [readSound_buffer] at h
  unfold soundRead at hmusic ⊢
  cases hs : d.current with
  | none =>
    simp only [hs, List.drop_zero] at h hmusic
    exact Or.inr (hmusic cell h)
  | some sound =>
    simp only [hs, overwrite] at h hmusic
    rcases List.mem_append.mp h with h | h
    · obtain ⟨byte, -, rfl⟩ := List.mem_map.mp h
      exact Or.inl ⟨sound, rfl, rfl⟩
    · exact Or.inr (hmusic cell h)

/-- What the buffer had after both reads stays there. -/
theorem mem_filled_buffer_of_drop {cell : Cell}
    (h : cell ∈ d.buffer.drop (max (musicRead d) (soundRead d))) : cell ∈ d.filled.buffer := by
  have hmusic : cell ∈ (readMusic d.chunk d.music d.buffer).drop (soundRead d) := by
    unfold musicRead at h
    unfold readMusic
    cases hm : d.music with
    | none =>
      simp only [hm, Nat.zero_max] at h
      exact h
    | some music =>
      simp only [hm, overwrite] at h ⊢
      rw [List.drop_append, List.drop_drop, List.length_map]
      apply List.mem_append_right
      have hmax : (music.getSample d.chunk).1.length +
          (soundRead d - (music.getSample d.chunk).1.length) =
            max (music.getSample d.chunk).1.length (soundRead d) := by omega
      rwa [hmax]
  unfold SoundDevice.filled fillBuffer
  rw [readSound_buffer]
  unfold soundRead at hmusic
  cases hs : d.current with
  | none =>
    simp only [hs, List.drop_zero] at hmusic
    exact hmusic
  | some sound =>
    simp only [hs, overwrite] at hmusic ⊢
    exact List.mem_append_right _ hmusic

/-- With music the whole buffer is sent. -/
theorem payload_of_music (hopen : d.Open) (hmusic : d.music.isSome = true) :
    d.payload = d.filled.buffer := by
  have hsend : d.filled.toSend = d.chunk := by
    unfold SoundDevice.filled fillBuffer readSound
    cases d.current with
    | none => rfl
    | some sound =>
      simp only [Option.isSome_map, hmusic, if_true]
      split <;> rfl
  unfold SoundDevice.payload
  rw [hsend, Nat.div_mul_cancel hopen.whole]
  apply List.take_of_length_le
  exact Nat.le_of_eq (length_fillBuffer hopen.buffer)

/-- Without music only cells of the current sound are sent. -/
theorem mem_payload_of_noMusic {cell : Cell} {sound : ISound} (hmusic : d.music = none)
    (hcurrent : d.current = some sound) (h : cell ∈ d.payload) :
    cell.origin = .sound sound.number := by
  have hsend : d.filled.toSend = (sound.bytes.take d.chunk).length := by
    unfold SoundDevice.filled fillBuffer
    rw [hmusic, hcurrent]
    by_cases hover : sound.bytes.length < d.chunk ∨ d.interrupted = true
    · rw [readSound_discard _ _ hover]
      rfl
    · rw [readSound_continue _ _ hover, List.length_take]
      show d.chunk = _
      omega
  have hbuffer : d.filled.buffer =
      overwrite d.buffer (.sound sound.number) (sound.bytes.take d.chunk) := by
    unfold SoundDevice.filled fillBuffer
    rw [readSound_buffer, hmusic, hcurrent]
    rfl
  unfold SoundDevice.payload at h
  rw [hbuffer, hsend, overwrite, List.take_append_of_le_length] at h
  · obtain ⟨byte, -, rfl⟩ := List.mem_map.mp (List.mem_of_mem_take h)
    rfl
  · rw [List.length_map]
    exact Nat.div_mul_le_self _ _

end Chunk

/-! ## What the moves keep -/

section Watched

/-- The sounds on the queue came after it was cleared, and the current one did, or was current
then and is interrupted, where the class looks at the flag. -/
structure Watched (heeds : Bool) (cleared : ℕ) (finishing : Option ℕ) (d : SoundDevice) :
    Prop where
  bound : cleared ≤ d.queued
  queue : ∀ sound ∈ d.queue, cleared ≤ sound.number ∧ sound.number < d.queued
  current : ∀ sound ∈ d.current, sound.number < d.queued
  finishing : ∀ sound ∈ d.current, sound.number < cleared →
    finishing = some sound.number ∧ d.interrupted = heeds
  flag : heeds = false → d.interrupted = false

variable {heeds : Bool} {cleared : ℕ} {finishing : Option ℕ} {d d' : SoundDevice}

/-- INTERNAL: the sound that is taken from the queue was not cleared. -/
theorem Watched.takeSound (h : Watched heeds cleared finishing d) :
    Watched heeds cleared finishing d.takeSound := by
  unfold SoundDevice.takeSound
  split
  case h_1 sound rest hcurrent hqueue =>
    obtain ⟨⟨hsound, hbound⟩, hrest⟩ := List.forall_mem_cons.mp (hqueue ▸ h.queue)
    exact {
      bound := h.bound
      queue := hrest
      current := by
        intro taken htaken
        obtain rfl := Option.some.inj htaken
        exact hbound
      finishing := by
        intro taken htaken hlt
        obtain rfl := Option.some.inj htaken
        omega
      flag := fun _ => rfl }
  case h_2 => exact h

/-- INTERNAL: a round that reads a chunk discards the sound that was current when the queue was
cleared. -/
theorem Watched.fill (h : Watched heeds cleared finishing d)
    (hlast : LastRound heeds cleared finishing d) : Watched heeds cleared none d.fill := by
  have hcurrent : ∀ sound ∈ d.filled.mCurrentSound,
      cleared ≤ sound.number ∧ sound.number < d.queued := by
    intro sound hsound
    unfold SoundDevice.filled fillBuffer at hsound
    cases hs : d.current with
    | none =>
      rw [hs] at hsound
      simp [readSound] at hsound
    | some old =>
      rw [hs] at hsound
      by_cases hover : old.bytes.length < d.chunk ∨ d.interrupted = true
      · rw [readSound_discard _ _ hover] at hsound
        simp at hsound
      · rw [readSound_continue _ _ hover] at hsound
        obtain rfl := Option.some.inj hsound
        refine ⟨Nat.le_of_not_lt fun hlt => hover ?_, h.current old hs⟩
        have hlt : old.number < cleared := hlt
        rcases hlast.ended with hheeds | hshort
        · exact Or.inr ((h.finishing old hs hlt).2.trans hheeds)
        · exact Or.inl (hshort old hs hlt)
  exact {
    bound := h.bound
    queue := h.queue
    current := fun sound hsound => (hcurrent sound hsound).2
    finishing := by
      intro sound hsound hlt
      have hle := (hcurrent sound hsound).1
      omega
    flag := h.flag }

/-- INTERNAL: a round. -/
theorem Watched.work (h : Watched heeds cleared finishing d)
    (hlast : LastRound heeds cleared finishing d.takeSound) :
    Watched heeds cleared none d.work := by
  unfold SoundDevice.work
  split
  case isTrue hsilent =>
    have htake := h.takeSound
    refine ⟨htake.bound, htake.queue, ?_, ?_, htake.flag⟩
    · intro sound hsound
      rw [hsilent.2] at hsound
      cases hsound
    · intro sound hsound
      rw [hsilent.2] at hsound
      cases hsound
  case isFalse => exact h.takeSound.fill hlast

/-- INTERNAL: a round sends a cell of a cleared sound exactly when the music leaves it one in the
buffer. -/
theorem late_sent_iff (h : Watched heeds cleared finishing d) (hopen : d.takeSound.Open) :
    d.sent.filter (IsLate cleared finishing) = [] ↔
      (d.takeSound.music.isSome = true →
        ∀ cell ∈ d.takeSound.buffer.drop (max (musicRead d.takeSound) (soundRead d.takeSound)),
          ¬ IsLate cleared finishing cell) := by
  have hwatched := h.takeSound
  unfold SoundDevice.sent
  generalize d.takeSound = t at hopen hwatched ⊢
  have hsound : ∀ cell : Cell, (∃ sound ∈ t.current, cell.origin = .sound sound.number) →
      ¬ IsLate cleared finishing cell := by
    rintro ⟨origin, byte⟩ ⟨sound, hsound, rfl⟩ ⟨hlt, hne⟩
    exact hne (hwatched.finishing sound hsound hlt).1
  rw [List.filter_eq_nil_iff]
  simp only [decide_eq_true_eq]
  by_cases hmusic : t.music.isSome = true
  · have hsilent : ¬ t.Silent := fun hsilent => by simp [hsilent.1] at hmusic
    rw [if_neg hsilent, payload_of_music hopen hmusic]
    constructor
    · intro hall _ cell hcell
      exact hall cell (mem_filled_buffer_of_drop hcell)
    · intro hfresh cell hcell
      rcases mem_filled_buffer hcell with hof | horigin | hdrop
      · exact hsound cell hof
      · obtain ⟨origin, byte⟩ := cell
        obtain rfl : origin = .music := horigin
        exact id
      · exact hfresh hmusic cell hdrop
  · refine ⟨fun _ hsome => absurd hsome hmusic, fun _ cell hcell => ?_⟩
    have hnone : t.music = none := by simpa using hmusic
    by_cases hsilent : t.Silent
    · rw [if_pos hsilent] at hcell
      cases hcell
    · rw [if_neg hsilent] at hcell
      obtain ⟨sound, hcurrent⟩ := Option.ne_none_iff_exists'.mp
        fun hcurrent => hsilent ⟨hnone, hcurrent⟩
      exact hsound cell ⟨sound, hcurrent, mem_payload_of_noMusic hnone hcurrent hcell⟩

/-- INTERNAL: the calls that neither clear the queue nor are a round. -/
theorem Watched.call {a : Act} (h : Watched heeds cleared finishing d)
    (hmove : d.Moves heeds a d') (hclear : a ≠ .clearQueue)
    (hwork : ∀ current_send_ts, a ≠ .work current_send_ts) :
    Watched heeds cleared finishing d' := by
  cases hmove with
  | put bytes =>
    refine ⟨Nat.le_succ_of_le h.bound, ?_, ?_, h.finishing, h.flag⟩
    · intro sound hsound
      show _ ∧ sound.number < d.queued + 1
      rcases List.mem_append.mp hsound with hsound | hsound
      · have hbounds := h.queue sound hsound
        omega
      · rw [List.mem_singleton.mp hsound]
        have hbound := h.bound
        exact ⟨hbound, Nat.lt_succ_self _⟩
    · intro sound hsound
      exact Nat.lt_succ_of_lt (h.current sound hsound)
  | refuse bytes => exact h
  | setMusic filename music => exact ⟨h.bound, h.queue, h.current, h.finishing, h.flag⟩
  | clearQueue => exact absurd rfl hclear
  | start buffer chunk frame =>
    refine ⟨h.bound, h.queue, ?_, ?_, fun _ => rfl⟩
    · intro sound hsound
      cases hsound
    · intro sound hsound
      cases hsound
  | stop frame => exact ⟨h.bound, h.queue, h.current, h.finishing, h.flag⟩
  | work current_send_ts hopen => exact absurd rfl (hwork current_send_ts)

/-- INTERNAL: clearing the queue. SOURCE: ISoundDevice.cpp:48-53 -/
theorem Watched.clear (h : Watched heeds cleared finishing d)
    (hmove : d.Moves heeds .clearQueue d') :
    Watched heeds d.queued (d.current.map ISound.number) d' := by
  cases hmove with
  | clearQueue =>
    refine ⟨Nat.le_refl _, ?_, h.current, ?_, ?_⟩
    · intro sound hsound
      cases hsound
    · intro sound hsound _
      have hcurrent : d.current = some sound := hsound
      rw [hcurrent]
      refine ⟨rfl, ?_⟩
      show (heeds || d.interrupted) = heeds
      cases hheeds : heeds with
      | true => rfl
      | false => exact h.flag hheeds
    · intro hheeds
      show (heeds || d.interrupted) = false
      rw [hheeds, h.flag hheeds]
      rfl

end Watched

/-! ## Runs -/

section Runs

variable {δ : Type} {C : DeviceClass δ} {Inv : δ → Prop}

/-- INTERNAL: the invariant of a run in which every round is a last one. -/
structure Clears (C : DeviceClass δ) (Inv : δ → Prop) (s : ClearRun δ) : Prop where
  device : Inv s.device
  watched : Watched C.heeds s.cleared s.finishing (C.view s.device)
  late : s.late = []

/-- INTERNAL: the invariant says that the cleared sounds are silent. -/
theorem Clears.silenced {s : ClearRun δ} (h : Clears C Inv s) : Silenced C s := by
  refine ⟨h.late, fun hfinishing sound hsound => Nat.le_of_not_lt fun hlt => ?_⟩
  have hsome := (h.watched.finishing sound hsound hlt).1
  rw [hfinishing] at hsome
  cases hsome

/-- INTERNAL: the worker runs on with the sound that it took only when the sound is open. -/
theorem open_of_moves {heeds : Bool} {d d' : SoundDevice} {current_send_ts : ℕ}
    (h : d.Moves heeds (.work current_send_ts) d') : d.takeSound.Open ∧ d' = d.work := by
  cases h with
  | work _ hopen => exact ⟨hopen, rfl⟩

/-- INTERNAL: a step that meets the condition keeps the account. -/
theorem Clears.next {s s' : ClearRun δ} {a : Act} (hrefines : C.Refines Inv)
    (h : Clears C Inv s) (ha : RoundsEnd C s a) (hstep : ClearRun.step C s a = some s') :
    Clears C Inv s' := by
  obtain ⟨device, hdevice, rfl⟩ := Option.map_eq_some_iff.mp hstep
  have hkeep := hrefines.keeps _ _ _ h.device hdevice
  have hmove := hrefines.moves _ _ _ h.device hdevice
  cases a with
  | put bytes => exact ⟨hkeep, h.watched.call hmove nofun nofun, h.late⟩
  | setMusic filename => exact ⟨hkeep, h.watched.call hmove nofun nofun, h.late⟩
  | start => exact ⟨hkeep, h.watched.call hmove nofun nofun, h.late⟩
  | stop => exact ⟨hkeep, h.watched.call hmove nofun nofun, h.late⟩
  | clearQueue => exact ⟨hkeep, h.watched.clear hmove, h.late⟩
  | work current_send_ts =>
    obtain ⟨hopen, hview⟩ := open_of_moves hmove
    refine ⟨hkeep, ?_, ?_⟩
    · show Watched C.heeds s.cleared none (C.view device)
      rw [hview]
      exact h.watched.work ha
    · show s.late ++ _ = []
      rw [hrefines.sends _ _ _ h.device hdevice, h.late, List.nil_append]
      exact (late_sent_iff h.watched hopen).mpr ha.fresh

/-- INTERNAL: a step to a state that is silenced meets the condition. -/
theorem Clears.roundsEnd {s s' : ClearRun δ} {a : Act} (hrefines : C.Refines Inv)
    (h : Clears C Inv s) (hstep : ClearRun.step C s a = some s') (hsilenced : Silenced C s') :
    RoundsEnd C s a := by
  obtain ⟨device, hdevice, rfl⟩ := Option.map_eq_some_iff.mp hstep
  cases a with
  | put bytes => trivial
  | setMusic filename => trivial
  | start => trivial
  | stop => trivial
  | clearQueue => trivial
  | work current_send_ts =>
    obtain ⟨hopen, hview⟩ := open_of_moves (hrefines.moves _ _ _ h.device hdevice)
    obtain ⟨hlate, hcurrent⟩ := hsilenced
    refine ⟨?_, ?_⟩
    · by_contra hover
      rw [not_or] at hover
      obtain ⟨hheeds, hlong⟩ := hover
      have hheeds : C.heeds = false := by simpa using hheeds
      apply hlong
      intro sound hsound hlt
      by_contra hbytes
      -- the sound was current before the round, so the round goes on with it
      have hwatched := h.watched.takeSound
      have hflag := hwatched.flag hheeds
      have hcontinue : ¬ (sound.bytes.length < (C.view s.device).takeSound.chunk ∨
          (C.view s.device).takeSound.interrupted = true) := by
        rw [hflag]
        simpa using hbytes
      have hgoes : (C.view device).current =
          some { sound with bytes := sound.bytes.drop (C.view s.device).takeSound.chunk } := by
        have hsilent : ¬ (C.view s.device).takeSound.Silent := by
          intro hsilent
          rw [hsilent.2] at hsound
          cases hsound
        rw [hview]
        unfold SoundDevice.work
        rw [if_neg hsilent]
        show (fillBuffer _ _ _ _ _).mCurrentSound = _
        unfold fillBuffer
        rw [Option.mem_def.mp hsound, readSound_continue _ _ hcontinue]
      have hle := hcurrent rfl _ hgoes
      have hle : s.cleared ≤ sound.number := hle
      omega
    · have hsent : s.late ++ _ = [] := hlate
      rw [hrefines.sends _ _ _ h.device hdevice, h.late, List.nil_append] at hsent
      exact (late_sent_iff h.watched hopen).mp hsent

/-- INTERNAL: **a class that refines the sound device is silenced in exactly the runs whose
rounds are last ones.** -/
theorem throughout_silenced_iff (hrefines : C.Refines Inv) {d : δ} (acts : List Act)
    (h : Clears C Inv (ClearRun.start d)) :
    Throughout (ClearRun.step C) (Silenced C) (ClearRun.start d) acts ↔
      Along (ClearRun.step C) (RoundsEnd C) (ClearRun.start d) acts :=
  throughout_iff_along (fun _ => Clears.silenced) (fun _ _ _ hs ha => hs.next hrefines ha)
    (fun _ _ _ hs => hs.roundsEnd hrefines) h

/-- A device that was not used yet. -/
theorem clears_start {d : δ} (hdevice : Inv d) (hqueue : (C.view d).queue = [])
    (hcurrent : (C.view d).current = none) (hflag : (C.view d).interrupted = false) :
    Clears C Inv (ClearRun.start d) where
  device := hdevice
  watched := by
    refine ⟨Nat.zero_le _, ?_, ?_, ?_, fun _ => hflag⟩
    · show ∀ sound ∈ (C.view d).queue, _
      rw [hqueue]
      simp
    · show ∀ sound ∈ (C.view d).current, _
      rw [hcurrent]
      simp
    · intro sound _ hlt
      exact absurd hlt (Nat.not_lt_zero _)
  late := rfl

end Runs

/-- **When `clearQueue()` silences a device.** In every run of an RTP session and of a sound card,
with sounds of any lengths, the sound that was current has one more round and no other byte of
the sounds that were queued is sent, if and only if every round meets the condition: an RTP
session has less than a payload left of that sound, and where there is music no cell of a
cleared sound lies behind what the round reads.
SOURCE: ISoundDevice.cpp:48-53, RTPSession.cpp:91-160, SoundCard.cpp:69-128 -/
theorem clearQueue_silences_iff (files : Files) (pcm : AlsaPCM) (capacity : ℕ)
    (deviceName : CString) (acts : List Act) :
    (Throughout (ClearRun.step (rtpClass files)) (Silenced (rtpClass files))
          (ClearRun.start (Sound.RTPSession.new capacity)) acts ↔
        Along (ClearRun.step (rtpClass files)) (RoundsEnd (rtpClass files))
          (ClearRun.start (Sound.RTPSession.new capacity)) acts) ∧
      (Throughout (ClearRun.step (cardClass files pcm)) (Silenced (cardClass files pcm))
          (ClearRun.start (SoundCard.new capacity deviceName)) acts ↔
        Along (ClearRun.step (cardClass files pcm)) (RoundsEnd (cardClass files pcm))
          (ClearRun.start (SoundCard.new capacity deviceName)) acts) := by
  constructor
  · apply throughout_silenced_iff (rtp_refines files)
    exact clears_start List.length_replicate rfl rfl rfl
  · apply throughout_silenced_iff (card_refines files pcm)
    apply clears_start _ rfl rfl rfl
    refine ⟨?_, ?_, ?_, ?_⟩ <;> simp [SoundCard.new, ISoundDevice.new]

/-- **The flag that `clearQueue` sets on an RTP session is not the one its thread looks at**: a
sound of 480 bytes goes on after the queue was cleared. -/
theorem longSound_not_silenced :
    ¬ Throughout (ClearRun.step (rtpClass fun _ => none)) (Silenced (rtpClass fun _ => none))
      (ClearRun.start (Sound.RTPSession.new 16))
      [.start, .put (List.replicate 480 1), .work 0, .clearQueue, .work 0, .work 0] := by
  decide +kernel

end Dhas.Analysis.ClearQueue
