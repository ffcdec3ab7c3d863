import Dhas.Analysis.DeviceRefinement
import Dhas.Model.SoundWorker

/-!
# A sound worker waits while it has work

`setIdle()` waits without a predicate, and `setWorking()` notifies without the lock. The
notification of a call that comes after the thread looked at the queue, at the music or at
`mStopping`, and before it waits, has no effect. The thread then waits with work to do until the
next notification; the join of `stop()` waits for it.
-/

set_option autoImplicit false

namespace Dhas.Analysis.SoundWorkerSleep

open Dhas.Library Dhas.Program Dhas.Program.Sound Dhas.Model Dhas.Analysis.DeviceRefinement
open Dhas.Model.SoundWorker (Item Act init step workerStep)

variable {δ : Type} {W : WorkerClass δ} {Inv : δ → Prop}

/-- While the thread waits, with no notification delivered and none to come from a call that is
under way, there is nothing to do. -/
def NeverWaitsOnWork (W : WorkerClass δ) (s : SoundWorker δ) : Prop :=
  s.pc = .waiting false → s.unsent = 0 →
    (W.device s.device).mSoundQueue.items = [] ∧ (W.device s.device).mMusic = none ∧
      (W.device s.device).mStopping = false

/-- A sound was put on the queue after the thread looked at it, and the queue was not cleared
since. -/
def PutSinceGet (trace : List Item) : Prop :=
  Since (fun _ x => x = .put) (fun x => x ≠ .got ∧ x ≠ .queueCleared) trace

/-- Music was set after the thread looked for it. -/
def MusicSinceTest (trace : List Item) : Prop :=
  Since (fun _ x => x = .musicSet) (fun x => x ≠ .musicTested) trace

/-- `mStopping` was set after the thread looked at it. -/
def StopSinceTest (trace : List Item) : Prop :=
  Since (fun _ x => x = .stopSet) (fun x => x ≠ .stopTested) trace

/-- When the thread goes to wait, nothing was put on the queue, set or stopped behind its looks,
or the call that did it has still to notify the thread. -/
def WaitsForNext (s : SoundWorker δ) : Act → Prop
  | .worker _ => s.pc = .toWait → s.unsent = 0 →
      ¬ PutSinceGet s.trace ∧ ¬ MusicSinceTest s.trace ∧ ¬ StopSinceTest s.trace
  | _ => True

/-! ## What the classes have in common -/

/-- What a call does to what the thread looks at. -/
inductive Calls (hasSamples : Bool) (d : ISoundDevice) : SoundDevices.Act → ISoundDevice → Prop
    where
  | put (bytes : List UInt8) (h : hasSamples = true) : Calls hasSamples d (.put bytes) (d.put bytes)
  | noPut (bytes : List UInt8) (h : hasSamples = false) : Calls hasSamples d (.put bytes) d
  | setMusic (filename : CString) (music : SoundFile) (h : hasSamples = true) :
    Calls hasSamples d (.setMusic filename) { d with mMusic := some music }
  | noMusic (filename : CString) (h : hasSamples = false) : Calls hasSamples d (.setMusic filename) d
  | clearQueue : Calls hasSamples d .clearQueue d.clearQueue
  | start (d' : ISoundDevice) (h : d.joinable = false) : Calls hasSamples d .start d'
  | stop (d' : ISoundDevice) (h : d'.joinable = false) : Calls hasSamples d .stop d'
  | work (current_send_ts : ℕ) (d' : ISoundDevice) : Calls hasSamples d (.work current_send_ts) d'

/-- INTERNAL: without a sample size nothing is stored. -/
theorem Calls.put_noSamples {hasSamples : Bool} {d d' : ISoundDevice} {bytes : List UInt8}
    (h : Calls hasSamples d (.put bytes) d') (hnone : hasSamples = false) : d' = d := by
  subst hnone
  cases h with
  | put _ hsamples => cases hsamples
  | noPut _ _ => rfl

/-- INTERNAL: a device without samples ignores the music. -/
theorem Calls.setMusic_noSamples {hasSamples : Bool} {d d' : ISoundDevice} {filename : CString}
    (h : Calls hasSamples d (.setMusic filename) d') (hnone : hasSamples = false) : d' = d := by
  subst hnone
  cases h with
  | setMusic _ _ hsamples => cases hsamples
  | noMusic _ _ => rfl

/-- What the look at the queue leaves. -/
structure Takes (d d' : ISoundDevice) : Prop where
  music : d'.mMusic = d.mMusic
  stopping : d'.mStopping = d.mStopping
  joinable : d'.joinable = d.joinable
  queue : d'.mCurrentSound = none → d.mCurrentSound = none ∧ d'.mSoundQueue.items = []

structure Lawful (W : WorkerClass δ) (Inv : δ → Prop) : Prop where
  call : ∀ d a d', Inv d → W.call d a = some d' →
    Inv d' ∧ Calls (W.hasSamples d) (W.device d) a (W.device d')
  setStopping : ∀ d, Inv d →
    Inv (W.setStopping d) ∧ W.device (W.setStopping d) = { W.device d with mStopping := true }
  takeSound : ∀ d, Inv d →
    Inv (W.takeSound d) ∧ Takes (W.device d) (W.device (W.takeSound d))
  setIdle : ∀ d, Inv d →
    Inv (W.setIdle d) ∧ (W.device (W.setIdle d)).joinable = (W.device d).joinable
  sendChunk : ∀ d current_send_ts d', Inv d → W.sendChunk d current_send_ts = some d' →
    Inv d' ∧ (W.device d').joinable = (W.device d).joinable

/-- INTERNAL: a device with nothing on the queue and no current sound is left so. -/
theorem takes_nextSound {d : ISoundDevice} (hcurrent : d.mCurrentSound = none) :
    match d.nextSound with
    | some d' => Takes d d'
    | none => Takes d d.queueEmpty := by
  unfold ISoundDevice.nextSound
  cases hget : d.mSoundQueue.get with
  | some r => exact ⟨rfl, rfl, rfl, nofun⟩
  | none =>
    have hitems := BoundedQueue.get_eq_none_iff.mp hget
    show Takes d d.queueEmpty
    unfold ISoundDevice.queueEmpty
    split
    · exact ⟨rfl, rfl, rfl, fun _ => ⟨hcurrent, hitems⟩⟩
    · exact ⟨rfl, rfl, rfl, fun _ => ⟨hcurrent, hitems⟩⟩

/-- INTERNAL: a worker with a current sound takes no other. -/
theorem takes_of_current {d : ISoundDevice} (hcurrent : d.mCurrentSound.isSome = true) :
    Takes d d := by
  refine ⟨rfl, rfl, rfl, fun hnone => ?_⟩
  rw [hnone] at hcurrent
  cases hcurrent

/-- INTERNAL: the worker of an RTP session does what the account allows. -/
theorem rtpWorker_lawful (files : Files) : Lawful (rtpWorker files) fun _ => True where
  call := by
    intro s a s' _ hcall
    refine ⟨trivial, ?_⟩
    cases a with
    | put bytes =>
      obtain rfl := Option.some.inj hcall
      exact .put bytes rfl
    | setMusic filename =>
      obtain rfl := Option.some.inj hcall
      exact .setMusic filename _ rfl
    | clearQueue =>
      obtain rfl := Option.some.inj hcall
      exact .clearQueue
    | start =>
      exact .start _ (Sound.RTPSession.start_eq_some hcall).1
    | stop =>
      obtain rfl := Option.some.inj hcall
      exact .stop _ rfl
    | work current_send_ts => exact .work current_send_ts _
  setStopping := fun _ _ => ⟨trivial, rfl⟩
  takeSound := by
    intro s _
    refine ⟨trivial, ?_⟩
    show Takes s.toISoundDevice s.takeSound.toISoundDevice
    unfold Sound.RTPSession.takeSound
    split
    case isTrue hcurrent => exact takes_of_current hcurrent
    case isFalse hcurrent =>
      have htakes := takes_nextSound (d := s.toISoundDevice) (by simpa using hcurrent)
      cases hnext : s.nextSound with
      | some d => simpa only [hnext] using htakes
      | none => simpa only [hnext] using htakes
  setIdle := fun _ _ => ⟨trivial, rfl⟩
  sendChunk := by
    intro s current_send_ts s' _ hsend
    refine ⟨trivial, ?_⟩
    have hsend : s.sendChunk current_send_ts = some s' := hsend
    by_cases hsilent : s.Silent
    · unfold Sound.RTPSession.sendChunk at hsend
      rw [if_pos hsilent] at hsend
      obtain rfl := Option.some.inj hsend
      rfl
    · obtain rfl := Sound.RTPSession.sendChunk_eq_some hsilent hsend
      rfl

/-- INTERNAL: the worker of a sound card does what the account allows. -/
theorem cardWorker_lawful (files : Files) (pcm : AlsaPCM) :
    Lawful (cardWorker files pcm) (CardOk pcm) where
  call := by
    intro s a s' h hcall
    refine ⟨(card_refines files pcm).keeps s a s' h hcall, ?_⟩
    cases a with
    | put bytes =>
      obtain ⟨p, hp, rfl⟩ := Option.map_eq_some_iff.mp hcall
      by_cases hsize : p.sampleSize = 0
      · rw [if_pos hsize]
        exact .noPut bytes (by simp [cardWorker, hp, hsize])
      · rw [if_neg hsize]
        exact .put bytes (by simp [cardWorker, hp, hsize])
    | setMusic filename =>
      obtain ⟨p, hp, rfl⟩ := Option.map_eq_some_iff.mp hcall
      show Calls _ _ _ (s.toISoundDevice.setMusic files p.sampleSize filename)
      unfold ISoundDevice.setMusic
      by_cases hsize : p.sampleSize = 0
      · rw [if_pos hsize]
        exact .noMusic filename (by simp [cardWorker, hp, hsize])
      · rw [if_neg hsize]
        exact .setMusic filename _ (by simp [cardWorker, hp, hsize])
    | clearQueue =>
      obtain rfl := Option.some.inj hcall
      exact .clearQueue
    | start =>
      apply Calls.start
      have hstart : s.start pcm = some s' := hcall
      simp only [SoundCard.start] at hstart
      split at hstart
      case isTrue hzero =>
        show s.joinable = false
        by_contra hjoinable
        have hjoinable : s.joinable = true := by simpa using hjoinable
        exact h.whole hjoinable ((h.chunk hjoinable).trans hzero)
      case isFalse =>
        exact Bool.eq_false_iff.mpr (Option.ite_none_left_eq_some.mp hstart).1
    | stop =>
      obtain rfl := Option.some.inj hcall
      exact .stop _ rfl
    | work current_send_ts => exact .work current_send_ts _
  setStopping := fun s h => ⟨⟨h.card, h.chunk, h.whole, h.buffer⟩, rfl⟩
  takeSound := by
    intro s h
    refine ⟨h.takeSound, ?_⟩
    show Takes s.toISoundDevice s.takeSound.toISoundDevice
    unfold SoundCard.takeSound
    split
    case isTrue hcurrent => exact takes_of_current hcurrent
    case isFalse hcurrent =>
      have htakes := takes_nextSound (d := s.toISoundDevice) (by simpa using hcurrent)
      cases hnext : s.nextSound with
      | some d =>
        rw [hnext] at htakes
        exact ⟨htakes.music, htakes.stopping, htakes.joinable, htakes.queue⟩
      | none => simpa only [hnext] using htakes
  setIdle := fun s h => ⟨⟨h.card, h.chunk, h.whole, h.buffer⟩, rfl⟩
  sendChunk := by
    intro s current_send_ts s' h hsend
    obtain ⟨p, -, rfl⟩ := Option.map_eq_some_iff.mp hsend
    refine ⟨?_, rfl⟩
    exact {
      card := h.card
      chunk := h.chunk
      whole := h.whole
      buffer := fun hthread => length_fillBuffer (h.buffer hthread) }

/-- INTERNAL: a thread that nobody disturbs goes through a `work()`, with the wait in it when
there is nothing to send. -/
theorem rtpWorker_work (files : Files) (s : SoundWorker Sound.RTPSession) (current_send_ts : ℕ)
    (hpc : s.pc = .taking) :
    (run (step (rtpWorker files)) s
      (if s.device.takeSound.Silent then
        [.worker 0, .worker 0, .worker 0, .wakeUp, .worker 0]
      else [.worker 0, .worker 0, .worker current_send_ts])).map SoundWorker.device =
        s.device.work current_send_ts := by
  unfold Sound.RTPSession.work
  by_cases hsilent : s.device.takeSound.Silent
  · have hview : ((rtpWorker files).device ((rtpWorker files).takeSound s.device)).Silent := hsilent
    simp only [if_pos hsilent, run_cons, run_nil, SoundWorker.step, SoundWorker.workerStep, hpc,
      Option.bind_some, if_pos hview, if_true]
    rfl
  · have hview : ¬ ((rtpWorker files).device ((rtpWorker files).takeSound s.device)).Silent :=
      hsilent
    simp only [if_neg hsilent, run_cons, run_nil, SoundWorker.step, SoundWorker.workerStep, hpc,
      Option.bind_some, if_neg hview]
    show Option.map _ (((s.device.takeSound.sendChunk current_send_ts).map _).bind _) = _
    cases s.device.takeSound.sendChunk current_send_ts with
    | none => rfl
    | some device => rfl

/-- INTERNAL: the same for a sound card. -/
theorem cardWorker_work (files : Files) {pcm : AlsaPCM} (s : SoundWorker SoundCard)
    (hcard : s.device.mpAlsaPCM = some pcm) (hpc : s.pc = .taking) :
    (run (step (cardWorker files pcm)) s
      (if s.device.takeSound.Silent then
        [.worker 0, .worker 0, .worker 0, .wakeUp, .worker 0]
      else [.worker 0, .worker 0, .worker 0])).map SoundWorker.device = s.device.work := by
  have hopen : s.device.takeSound.mpAlsaPCM = some pcm := (card_takeSound s.device).1.trans hcard
  unfold SoundCard.work
  rw [hcard, Option.map_some]
  by_cases hsilent : s.device.takeSound.Silent
  · have hview : ((cardWorker files pcm).device ((cardWorker files pcm).takeSound s.device)).Silent :=
      hsilent
    simp only [if_pos hsilent, run_cons, run_nil, SoundWorker.step, SoundWorker.workerStep, hpc,
      Option.bind_some, if_pos hview, if_true]
    rfl
  · have hview :
        ¬ ((cardWorker files pcm).device ((cardWorker files pcm).takeSound s.device)).Silent :=
      hsilent
    simp only [if_neg hsilent, run_cons, run_nil, SoundWorker.step, SoundWorker.workerStep, hpc,
      Option.bind_some, if_neg hview]
    show Option.map _ (((s.device.takeSound.mpAlsaPCM.map s.device.takeSound.playChunk).map _).bind
      _) = _
    rw [hopen]
    rfl

/-! ## The record -/

/-- INTERNAL: a sound was put since the last get, after one more item. -/
theorem putSinceGet_append_singleton {trace : List Item} {x : Item} :
    PutSinceGet (trace ++ [x]) ↔
      x = .put ∨ (PutSinceGet trace ∧ x ≠ .got ∧ x ≠ .queueCleared) :=
  since_append_singleton x

/-- INTERNAL: the music was set since the last look at it, after one more item. -/
theorem musicSinceTest_append_singleton {trace : List Item} {x : Item} :
    MusicSinceTest (trace ++ [x]) ↔
      x = .musicSet ∨ (MusicSinceTest trace ∧ x ≠ .musicTested) :=
  since_append_singleton x

/-- INTERNAL: the stop was set since the last look at it, after one more item. -/
theorem stopSinceTest_append_singleton {trace : List Item} {x : Item} :
    StopSinceTest (trace ++ [x]) ↔ x = .stopSet ∨ (StopSinceTest trace ∧ x ≠ .stopTested) :=
  since_append_singleton x

/-- The thread looked at the queue, and found nothing. -/
def LookedAtQueue (pc : SoundWorkerPc) (d : ISoundDevice) : Prop :=
  pc = .toWait ∨ (pc = .silentTest ∧ d.mCurrentSound = none)

/-- The thread looked at `mStopping`, which was not set. -/
def LookedAtStopping (pc : SoundWorkerPc) : Prop :=
  pc = .taking ∨ pc = .silentTest ∨ pc = .toWait

/-- What there is to do, at the places where the thread has looked for it, is what was asked
for after its look. -/
structure Recorded (W : WorkerClass δ) (Inv : δ → Prop) (s : SoundWorker δ) : Prop where
  device : Inv s.device
  thread : s.pc = .noThread ↔ (W.device s.device).joinable = false
  queue : LookedAtQueue s.pc (W.device s.device) →
    ((W.device s.device).mSoundQueue.items = [] ↔ ¬ PutSinceGet s.trace)
  music : s.pc = .toWait → ((W.device s.device).mMusic = none ↔ ¬ MusicSinceTest s.trace)
  stopping : LookedAtStopping s.pc →
    ((W.device s.device).mStopping = false ↔ ¬ StopSinceTest s.trace)

section Steps

variable {s s' : SoundWorker δ}

/-- INTERNAL: a thread that is not behind its looks has nothing to account for. -/
theorem Recorded.elsewhere (hdevice : Inv s'.device)
    (hthread : s'.pc = .noThread ↔ (W.device s'.device).joinable = false)
    (hpc : s'.pc ≠ .taking ∧ s'.pc ≠ .silentTest ∧ s'.pc ≠ .toWait) : Recorded W Inv s' where
  device := hdevice
  thread := hthread
  queue := by
    rintro (h | ⟨h, -⟩)
    · exact absurd h hpc.2.2
    · exact absurd h hpc.2.1
  music := fun h => absurd h hpc.2.2
  stopping := by
    rintro (h | h | h)
    · exact absurd h hpc.1
    · exact absurd h hpc.2.1
    · exact absurd h hpc.2.2

/-- INTERNAL: a step of the thread. SOURCE: RTPSession.cpp:91-160, SoundCard.cpp:69-128 -/
theorem Recorded.workerStep (hlawful : Lawful W Inv) (h : Recorded W Inv s)
    {current_send_ts : ℕ} (hstep : s.workerStep W current_send_ts = some s') :
    Recorded W Inv s' := by
  unfold SoundWorker.workerStep at hstep
  split at hstep
  case h_1 => cases hstep
  case h_2 hpc =>
    obtain rfl := Option.some.inj hstep
    have hjoinable := not_congr h.thread
    rw [hpc] at hjoinable
    by_cases hstopping : (W.device s.device).mStopping = true
    · refine Recorded.elsewhere h.device ?_ ?_
      · simpa [hstopping] using hjoinable
      · simp [hstopping]
    · refine ⟨h.device, by simpa [hstopping] using hjoinable, ?_, ?_, fun _ => ?_⟩
      · simp [hstopping, LookedAtQueue]
      · simp [hstopping]
      · rw [stopSinceTest_append_singleton]
        simpa using hstopping
  case h_3 hpc =>
    obtain rfl := Option.some.inj hstep
    obtain ⟨hdevice, htakes⟩ := hlawful.takeSound s.device h.device
    have hjoinable := h.thread
    refine ⟨hdevice, ?_, ?_, nofun, fun _ => ?_⟩
    · rw [htakes.joinable]
      simpa [hpc] using hjoinable
    · rintro (hwait | ⟨-, hnone⟩)
      · cases hwait
      · obtain ⟨hcurrent, hitems⟩ := htakes.queue hnone
        apply iff_of_true hitems
        rw [hcurrent]
        show ¬ PutSinceGet (s.trace ++ [.got])
        rw [putSinceGet_append_singleton]
        simp
    · rw [htakes.stopping, h.stopping (.inl hpc)]
      apply not_congr
      split
      · rw [List.append_nil]
      · rw [stopSinceTest_append_singleton]
        simp
  case h_4 hpc =>
    obtain rfl := Option.some.inj hstep
    have hjoinable := h.thread
    by_cases hsilent : (W.device s.device).Silent
    · refine ⟨h.device, by simpa [hpc, hsilent] using hjoinable, fun _ => ?_, fun _ => ?_,
        fun _ => ?_⟩
      · rw [h.queue (.inr ⟨hpc, hsilent.2⟩), putSinceGet_append_singleton]
        simp
      · rw [musicSinceTest_append_singleton]
        simpa using hsilent.1
      · rw [h.stopping (.inr (.inl hpc)), stopSinceTest_append_singleton]
        simp
    · refine Recorded.elsewhere h.device ?_ ?_
      · simpa [hpc, hsilent] using hjoinable
      · simp [hsilent]
  case h_5 hpc =>
    obtain rfl := Option.some.inj hstep
    exact Recorded.elsewhere h.device (by simpa [hpc] using h.thread) (by simp)
  case h_6 => cases hstep
  case h_7 hpc =>
    obtain rfl := Option.some.inj hstep
    exact Recorded.elsewhere h.device (by simpa [hpc] using h.thread) (by simp)
  case h_8 hpc =>
    obtain rfl := Option.some.inj hstep
    obtain ⟨hdevice, hjoinable⟩ := hlawful.setIdle s.device h.device
    apply Recorded.elsewhere hdevice
    · rw [hjoinable]
      simpa [hpc] using h.thread
    · simp
  case h_9 hpc =>
    obtain ⟨device, hsend, rfl⟩ := Option.map_eq_some_iff.mp hstep
    obtain ⟨hdevice, hjoinable⟩ := hlawful.sendChunk s.device _ device h.device hsend
    apply Recorded.elsewhere hdevice
    · rw [hjoinable]
      simpa [hpc] using h.thread
    · simp
  case h_10 => cases hstep

/-- INTERNAL: a call that leaves the place of the thread. -/
theorem Recorded.call (h : Recorded W Inv s) (hdevice : Inv s'.device) (hpc : s'.pc = s.pc)
    (hjoinable : (W.device s'.device).joinable = (W.device s.device).joinable)
    (hcurrent : (W.device s'.device).mCurrentSound = (W.device s.device).mCurrentSound)
    (hqueue : ((W.device s.device).mSoundQueue.items = [] ↔ ¬ PutSinceGet s.trace) →
      ((W.device s'.device).mSoundQueue.items = [] ↔ ¬ PutSinceGet s'.trace))
    (hmusic : ((W.device s.device).mMusic = none ↔ ¬ MusicSinceTest s.trace) →
      ((W.device s'.device).mMusic = none ↔ ¬ MusicSinceTest s'.trace))
    (hstopping : ((W.device s.device).mStopping = false ↔ ¬ StopSinceTest s.trace) →
      ((W.device s'.device).mStopping = false ↔ ¬ StopSinceTest s'.trace)) :
    Recorded W Inv s' where
  device := hdevice
  thread := by
    rw [hpc, hjoinable]
    exact h.thread
  queue := by
    intro hlooked
    unfold LookedAtQueue at hlooked
    rw [hpc, hcurrent] at hlooked
    exact hqueue (h.queue hlooked)
  music := fun hwait => hmusic (h.music (hpc ▸ hwait))
  stopping := fun hlooked => hstopping (h.stopping (hpc ▸ hlooked))

/-- INTERNAL: a call that returns, or whose sound is refused, changes nothing. -/
theorem Recorded.unchanged (h : Recorded W Inv s) (hdevice : Inv s'.device)
    (hsame : W.device s'.device = W.device s.device) (hpc : s'.pc = s.pc)
    (htrace : s'.trace = s.trace) : Recorded W Inv s' := by
  refine h.call hdevice hpc ?_ ?_ ?_ ?_ ?_
  · rw [hsame]
  · rw [hsame]
  · rw [hsame, htrace]
    exact id
  · rw [hsame, htrace]
    exact id
  · rw [hsame, htrace]
    exact id

/-- INTERNAL: a sound that the queue took is on the queue. -/
theorem items_ne_nil_of_put {d : ISoundDevice} {bytes : List UInt8}
    (h : (d.put bytes).playlist ≠ d.playlist) : (d.put bytes).mSoundQueue.items ≠ [] := by
  unfold ISoundDevice.put at h ⊢
  by_cases hroom : d.mSoundQueue.HasRoom
  · rw [if_pos hroom]
    simp [BoundedQueue.items_put_of_hasRoom hroom]
  · rw [if_neg hroom] at h
    exact absurd rfl h

/-- INTERNAL: a sound that the queue did not take changes nothing. -/
theorem put_eq_self {d : ISoundDevice} {bytes : List UInt8}
    (h : (d.put bytes).playlist = d.playlist) : d.put bytes = d := by
  unfold ISoundDevice.put at h ⊢
  by_cases hroom : d.mSoundQueue.HasRoom
  · rw [if_pos hroom] at h
    simp at h
  · rw [if_neg hroom]

/-- INTERNAL: `play` and `silence`. SOURCE: ISoundDevice.cpp:16-37 -/
theorem Recorded.put (h : Recorded W Inv s) {bytes : List UInt8} {device : δ}
    (hdevice : Inv device)
    (hcalls : Calls (W.hasSamples s.device) (W.device s.device) (.put bytes) (W.device device)) :
    Recorded W Inv (s.store W device
      (if (W.device device).playlist = (W.device s.device).playlist then [] else [.put])) := by
  generalize hd : W.device device = d at hcalls
  cases hcalls with
  | put bytes hsamples =>
    obtain ⟨hmusic, hcurrent, hstopping, hjoinable, -⟩ := (W.device s.device).put_frame bytes
    by_cases hfull : ((W.device s.device).put bytes).playlist = (W.device s.device).playlist
    · rw [if_pos hfull]
      exact h.unchanged hdevice (hd.trans (put_eq_self hfull)) rfl (List.append_nil _)
    · rw [if_neg hfull]
      have hitems := items_ne_nil_of_put hfull
      rw [← hd] at hmusic hcurrent hstopping hjoinable hitems
      refine h.call hdevice rfl hjoinable hcurrent (fun _ => ?_) (fun hiff => ?_) fun hiff => ?_
      · apply iff_of_false hitems
        rw [not_not]
        exact putSinceGet_append_singleton.mpr (.inl rfl)
      · show (W.device device).mMusic = none ↔ ¬ MusicSinceTest (s.trace ++ [.put])
        rw [hmusic, hiff, musicSinceTest_append_singleton]
        simp
      · show (W.device device).mStopping = false ↔ ¬ StopSinceTest (s.trace ++ [.put])
        rw [hstopping, hiff, stopSinceTest_append_singleton]
        simp
  | noPut bytes hsamples =>
    rw [if_pos rfl]
    exact h.unchanged hdevice hd rfl (List.append_nil _)

/-- INTERNAL: `setMusic`. SOURCE: ISoundDevice.cpp:39-46 -/
theorem Recorded.setMusic (h : Recorded W Inv s) {filename : CString} {device : δ}
    (hdevice : Inv device)
    (hcalls : Calls (W.hasSamples s.device) (W.device s.device) (.setMusic filename)
      (W.device device)) :
    Recorded W Inv (s.store W device (if W.hasSamples s.device then [.musicSet] else [])) := by
  generalize hd : W.device device = d at hcalls
  cases hcalls with
  | setMusic filename music hsamples =>
    rw [if_pos hsamples]
    refine h.call hdevice rfl ?_ ?_ (fun hiff => ?_) (fun _ => ?_) fun hiff => ?_
    · exact (congrArg ISoundDevice.joinable hd).trans rfl
    · exact (congrArg ISoundDevice.mCurrentSound hd).trans rfl
    · show (W.device device).mSoundQueue.items = [] ↔ ¬ PutSinceGet (s.trace ++ [.musicSet])
      rw [hd, putSinceGet_append_singleton]
      simpa using hiff
    · show (W.device device).mMusic = none ↔ ¬ MusicSinceTest (s.trace ++ [.musicSet])
      rw [hd, musicSinceTest_append_singleton]
      simp
    · show (W.device device).mStopping = false ↔ ¬ StopSinceTest (s.trace ++ [.musicSet])
      rw [hd, stopSinceTest_append_singleton]
      simpa using hiff
  | noMusic filename hsamples =>
    rw [hsamples]
    exact h.unchanged hdevice hd rfl (List.append_nil _)

/-- INTERNAL: a worker that was notified does not wait on. -/
theorem notify_ne_waiting (pc : SoundWorkerPc) : pc.notify ≠ .waiting false := by
  cases pc <;> simp [SoundWorkerPc.notify]

/-- INTERNAL: every step. SOURCE: ISoundDevice.cpp:16-70, RTPSession.cpp:28-160,
SoundCard.cpp:32-128 -/
theorem Recorded.next (hlawful : Lawful W Inv) (h : Recorded W Inv s) {a : Act}
    (hstep : step W s a = some s') : Recorded W Inv s' := by
  cases a with
  | put bytes =>
    obtain ⟨device, hcall, rfl⟩ := Option.map_eq_some_iff.mp hstep
    obtain ⟨hdevice, hcalls⟩ := hlawful.call _ _ _ h.device hcall
    exact h.put hdevice hcalls
  | setMusic filename =>
    obtain ⟨device, hcall, rfl⟩ := Option.map_eq_some_iff.mp hstep
    obtain ⟨hdevice, hcalls⟩ := hlawful.call _ _ _ h.device hcall
    exact h.setMusic hdevice hcalls
  | clearQueue =>
    obtain ⟨device, hcall, rfl⟩ := Option.map_eq_some_iff.mp hstep
    obtain ⟨hdevice, hcalls⟩ := hlawful.call _ _ _ h.device hcall
    generalize hd : W.device device = d at hcalls
    cases hcalls
    refine h.call hdevice rfl ?_ ?_ (fun _ => ?_) (fun hiff => ?_) fun hiff => ?_
    · exact (congrArg ISoundDevice.joinable hd).trans rfl
    · exact (congrArg ISoundDevice.mCurrentSound hd).trans rfl
    · show (W.device device).mSoundQueue.items = [] ↔ ¬ PutSinceGet (s.trace ++ [.queueCleared])
      rw [hd, putSinceGet_append_singleton]
      simp [ISoundDevice.clearQueue, BoundedQueue.clear]
    · show (W.device device).mMusic = none ↔ ¬ MusicSinceTest (s.trace ++ [.queueCleared])
      rw [hd, musicSinceTest_append_singleton]
      simpa [ISoundDevice.clearQueue] using hiff
    · show (W.device device).mStopping = false ↔ ¬ StopSinceTest (s.trace ++ [.queueCleared])
      rw [hd, stopSinceTest_append_singleton]
      simpa [ISoundDevice.clearQueue] using hiff
  | start =>
    obtain ⟨device, hcall, rfl⟩ := Option.map_eq_some_iff.mp hstep
    obtain ⟨hdevice, hcalls⟩ := hlawful.call _ _ _ h.device hcall
    cases hcalls with
    | start _ hjoinable =>
      have hpc := h.thread.mpr hjoinable
      refine Recorded.elsewhere hdevice ?_ ?_
      · simp only [hpc]
        split <;> simp_all
      · simp only [hpc]
        split <;> simp
  | stop =>
    simp only [SoundWorker.step] at hstep
    split at hstep
    case isTrue hjoinable =>
      obtain rfl := Option.some.inj hstep
      obtain ⟨hdevice, hd⟩ := hlawful.setStopping s.device h.device
      refine h.call hdevice rfl ?_ ?_ (fun hiff => ?_) (fun hiff => ?_) fun _ => ?_
      · exact (congrArg ISoundDevice.joinable hd).trans rfl
      · exact (congrArg ISoundDevice.mCurrentSound hd).trans rfl
      · rw [hd, putSinceGet_append_singleton]
        simpa using hiff
      · rw [hd, musicSinceTest_append_singleton]
        simpa using hiff
      · rw [hd, stopSinceTest_append_singleton]
        simp
    case isFalse hjoinable =>
      obtain ⟨device, hcall, rfl⟩ := Option.map_eq_some_iff.mp hstep
      obtain ⟨hdevice, hcalls⟩ := hlawful.call _ _ _ h.device hcall
      have hpc := h.thread.mpr (Bool.eq_false_iff.mpr hjoinable)
      cases hcalls with
      | stop _ hover =>
        refine Recorded.elsewhere hdevice ?_ ?_
        · exact iff_of_true hpc hover
        · simp [hpc]
  | join =>
    obtain ⟨hpc, hjoin⟩ := Option.ite_none_right_eq_some.mp hstep
    obtain ⟨device, hcall, rfl⟩ := Option.map_eq_some_iff.mp hjoin
    obtain ⟨hdevice, hcalls⟩ := hlawful.call _ _ _ h.device hcall
    cases hcalls with
    | stop _ hover =>
      refine Recorded.elsewhere hdevice ?_ ?_
      · exact iff_of_true rfl hover
      · simp
  | notify =>
    obtain ⟨-, hs'⟩ := Option.ite_none_right_eq_some.mp hstep
    obtain rfl := Option.some.inj hs'
    by_cases hwaits : ∃ notified, s.pc = .waiting notified
    · obtain ⟨notified, hpc⟩ := hwaits
      refine Recorded.elsewhere h.device ?_ ?_
      · have hthread := h.thread
        rw [hpc] at hthread
        simpa [hpc, SoundWorkerPc.notify] using hthread
      · simp [hpc, SoundWorkerPc.notify]
    · have hpc : s.pc.notify = s.pc := by
        unfold SoundWorkerPc.notify
        split
        case h_1 notified hpc => exact absurd ⟨notified, hpc⟩ hwaits
        case h_2 => rfl
      rw [hpc]
      exact ⟨h.device, h.thread, h.queue, h.music, h.stopping⟩
  | worker current_send_ts => exact h.workerStep hlawful hstep
  | wakeUp =>
    obtain ⟨hpc, hs'⟩ := Option.ite_none_right_eq_some.mp hstep
    obtain rfl := Option.some.inj hs'
    exact Recorded.elsewhere h.device (by simpa [hpc] using h.thread) (by simp)

/-- INTERNAL: the thread starts to wait only in `setIdle()`. -/
theorem workerStep_waiting {current_send_ts : ℕ}
    (hstep : s.workerStep W current_send_ts = some s') (hpc : s'.pc = .waiting false) :
    s.pc = .toWait ∧ s' = { s with pc := .waiting false } := by
  unfold SoundWorker.workerStep at hstep
  split at hstep
  case h_2 =>
    obtain rfl := Option.some.inj hstep
    dsimp only at hpc
    split at hpc <;> cases hpc
  case h_4 =>
    obtain rfl := Option.some.inj hstep
    dsimp only at hpc
    split at hpc <;> cases hpc
  case h_5 htoWait => exact ⟨htoWait, (Option.some.inj hstep).symm⟩
  case h_9 =>
    obtain ⟨device, -, rfl⟩ := Option.map_eq_some_iff.mp hstep
    cases hpc
  all_goals
    cases hstep
    try cases hpc

/-- INTERNAL: a call that stores something has still to notify the thread; the others change
nothing. -/
theorem NeverWaitsOnWork.store (h : NeverWaitsOnWork W s) {device : δ} {items : List Item}
    (hsame : W.hasSamples s.device = false → W.device device = W.device s.device) :
    NeverWaitsOnWork W (s.store W device items) := by
  intro hwaiting hunsent
  simp only [SoundWorker.store] at hwaiting hunsent ⊢
  cases hsamples : W.hasSamples s.device with
  | true =>
    rw [hsamples, if_pos rfl] at hunsent
    cases hunsent
  | false =>
    rw [hsamples, if_neg Bool.false_ne_true] at hunsent
    rw [hsame hsamples]
    exact h hwaiting hunsent

/-- INTERNAL: while the thread waits, only a call that has still to notify it, or one that
clears the queue, changes what there is to do. -/
theorem NeverWaitsOnWork.next (hlawful : Lawful W Inv) (hrecorded : Recorded W Inv s)
    (h : NeverWaitsOnWork W s) {a : Act} (ha : WaitsForNext s a)
    (hstep : step W s a = some s') : NeverWaitsOnWork W s' := by
  cases a with
  | put bytes =>
    obtain ⟨device, hcall, rfl⟩ := Option.map_eq_some_iff.mp hstep
    have hcalls := (hlawful.call _ _ _ hrecorded.device hcall).2
    exact h.store hcalls.put_noSamples
  | setMusic filename =>
    obtain ⟨device, hcall, rfl⟩ := Option.map_eq_some_iff.mp hstep
    have hcalls := (hlawful.call _ _ _ hrecorded.device hcall).2
    exact h.store hcalls.setMusic_noSamples
  | clearQueue =>
    obtain ⟨device, hcall, rfl⟩ := Option.map_eq_some_iff.mp hstep
    have hcalls := (hlawful.call _ _ _ hrecorded.device hcall).2
    intro hwaiting hunsent
    dsimp only at hwaiting hunsent ⊢
    generalize W.device device = d at hcalls ⊢
    cases hcalls with
    | clearQueue => exact ⟨rfl, (h hwaiting hunsent).2⟩
  | start =>
    obtain ⟨device, hcall, rfl⟩ := Option.map_eq_some_iff.mp hstep
    have hcalls := (hlawful.call _ _ _ hrecorded.device hcall).2
    intro hwaiting
    cases hcalls with
    | start _ hjoinable =>
      dsimp only at hwaiting
      rw [hrecorded.thread.mpr hjoinable] at hwaiting
      split at hwaiting <;> cases hwaiting
  | stop =>
    simp only [SoundWorker.step] at hstep
    split at hstep
    case isTrue =>
      obtain rfl := Option.some.inj hstep
      exact fun _ hunsent => absurd hunsent (Nat.succ_ne_zero _)
    case isFalse hjoinable =>
      obtain ⟨device, -, rfl⟩ := Option.map_eq_some_iff.mp hstep
      have hpc := hrecorded.thread.mpr (Bool.eq_false_iff.mpr hjoinable)
      intro hwaiting
      rw [hpc] at hwaiting
      cases hwaiting
  | join =>
    obtain ⟨-, hjoin⟩ := Option.ite_none_right_eq_some.mp hstep
    obtain ⟨device, -, rfl⟩ := Option.map_eq_some_iff.mp hjoin
    exact nofun
  | notify =>
    obtain ⟨-, hs'⟩ := Option.ite_none_right_eq_some.mp hstep
    obtain rfl := Option.some.inj hs'
    intro hwaiting
    exact absurd hwaiting (notify_ne_waiting s.pc)
  | worker current_send_ts =>
    intro hwaiting hunsent
    obtain ⟨hpc, rfl⟩ := workerStep_waiting hstep hwaiting
    obtain ⟨hput, hmusic, hstop⟩ := ha hpc hunsent
    exact ⟨(hrecorded.queue (.inl hpc)).mpr hput, (hrecorded.music hpc).mpr hmusic,
      (hrecorded.stopping (.inr (.inr hpc))).mpr hstop⟩
  | wakeUp =>
    obtain ⟨-, hs'⟩ := Option.ite_none_right_eq_some.mp hstep
    obtain rfl := Option.some.inj hs'
    exact nofun

/-- INTERNAL: a thread that waits with nothing to do met the condition. -/
theorem NeverWaitsOnWork.waitsForNext (hrecorded : Recorded W Inv s) {a : Act}
    (hstep : step W s a = some s') (h : NeverWaitsOnWork W s') : WaitsForNext s a := by
  cases a with
  | worker current_send_ts =>
    intro hpc hunsent
    have hs' : s' = { s with pc := .waiting false } := by
      have hworker : s.workerStep W current_send_ts = some s' := hstep
      unfold SoundWorker.workerStep at hworker
      rw [hpc] at hworker
      exact (Option.some.inj hworker).symm
    subst hs'
    obtain ⟨hqueue, hmusic, hstopping⟩ := h rfl hunsent
    exact ⟨(hrecorded.queue (.inl hpc)).mp hqueue, (hrecorded.music hpc).mp hmusic,
      (hrecorded.stopping (.inr (.inr hpc))).mp hstopping⟩
  | put | setMusic | clearQueue | start | stop | join | notify | wakeUp => trivial

end Steps

/-- INTERNAL: **a thread never waits on work exactly in the runs in which it goes to wait with
nothing done behind its looks.** -/
theorem throughout_neverWaitsOnWork_iff (hlawful : Lawful W Inv) {d : δ} (hdevice : Inv d)
    (hjoinable : (W.device d).joinable = false) (acts : List Act) :
    Throughout (step W) (NeverWaitsOnWork W) (init d) acts ↔
      Along (step W) WaitsForNext (init d) acts := by
  have hinit : Recorded W Inv (init d) :=
    Recorded.elsewhere hdevice (iff_of_true rfl hjoinable) (by simp [init])
  refine throughout_iff_along (I := fun s => Recorded W Inv s ∧ NeverWaitsOnWork W s)
    (fun _ h => h.2) ?_ ?_ ⟨hinit, nofun⟩
  · intro s a s' h ha hstep
    exact ⟨h.1.next hlawful hstep, h.2.next hlawful h.1 ha hstep⟩
  · intro s a s' h hstep hnever
    exact hnever.waitsForNext h.1 hstep

/-- **When a sound worker never waits while it has work.** In every run of the thread of an RTP
session or of a sound card and of its callers, the thread is never left waiting with a sound on
the queue, with music or with `mStopping` set, if and only if, each time it goes to wait, no
sound came since its look at the queue, no music since its look at the music and no `stop()`
since its look at `mStopping`, unless one of the calls has still to notify it.
SOURCE: ISoundDevice.cpp:16-70, RTPSession.cpp:28-114, SoundCard.cpp:32-91 -/
theorem soundWorkers_neverWaitOnWork_iff (files : Files) (pcm : AlsaPCM) (capacity : ℕ)
    (deviceName : CString) (acts : List Act) :
    (Throughout (step (rtpWorker files)) (NeverWaitsOnWork (rtpWorker files))
          (init (Sound.RTPSession.new capacity)) acts ↔
        Along (step (rtpWorker files)) WaitsForNext (init (Sound.RTPSession.new capacity)) acts) ∧
      (Throughout (step (cardWorker files pcm)) (NeverWaitsOnWork (cardWorker files pcm))
          (init (SoundCard.new capacity deviceName)) acts ↔
        Along (step (cardWorker files pcm)) WaitsForNext
          (init (SoundCard.new capacity deviceName)) acts) := by
  constructor
  · exact throughout_neverWaitsOnWork_iff (rtpWorker_lawful files) trivial rfl acts
  · apply throughout_neverWaitsOnWork_iff (cardWorker_lawful files pcm) _ rfl
    refine ⟨?_, ?_, ?_, ?_⟩ <;> simp [SoundCard.new, ISoundDevice.new]

/-- **A `stop()` that comes while the thread goes to wait is not noticed**: the notification has
no effect, the thread waits, and the join waits for the thread. -/
theorem stoppedBeforeWait_waits :
    ¬ Throughout (step (rtpWorker fun _ => none)) (NeverWaitsOnWork (rtpWorker fun _ => none))
      (init (Sound.RTPSession.new 16))
      [.start, .worker 0, .worker 0, .worker 0, .stop, .notify, .worker 0] := by
  intro h
  have hend : NeverWaitsOnWork _ _ := h.last rfl
  exact absurd (hend rfl rfl).2.2 (by decide)

end Dhas.Analysis.SoundWorkerSleep
