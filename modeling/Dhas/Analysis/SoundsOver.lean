import Dhas.Analysis.RunPosted
import Dhas.Model.PhoneSound

/-!
# A play action ends when its sounds are over

The sound thread of a call notifies once when it finds the queue empty, and the notification
ends whatever play action listens when it is executed. It does not say which sounds it is
about: in between, the thread of the dialog usage manager may have put more sounds on the
queue, of the same action or of the next one.

Every sound that is waiting while a notification is on its way was put on the queue after
the notification's empty queue was seen. So the action ends with its sounds over exactly when
the ones that it put on the queue after that are over too, which is `NotStale`; and when it has put
none after that, which is `NoneLater`, it does.
-/

set_option autoImplicit false

namespace Dhas.Analysis

open Dhas.Library Dhas.Program Dhas.Model
open Dhas.Model.PhoneSound

/-- The sounds on the queue, and the current one. -/
def waitingSounds (s : RTPSession) : List SoundTag :=
  (s.mCurrentSound.toList ++ s.mSoundQueue.items).map Sound.tag

/-- The sound was played to its end, or removed by `clearQueue`. -/
def Over (s : RTPSession) (tag : SoundTag) : Prop := tag ∈ s.ended ∨ tag ∈ s.cleared

/-- When the observers of a call are told that its sound queue is empty, all sounds of each
of them are over, and none is still on the queue or current. -/
def EndsWhenOver (s : PhoneSound) : PhoneSound.Act → Prop
  | .phone .dumProcess => ∀ c seen rest call session,
      s.phone.dum = .NotifySoundsEmpty c seen :: rest → s.phone.calls c = some call →
      s.sessions c = some session → ∀ a ∈ call.mRtpObservers, ∀ tag ∈ session.queued,
        tag.action = a → Over session tag ∧ tag ∉ waitingSounds session
  | _ => True

/-- When the observers of a call are told that its sound queue is empty, the sounds that they
put on the queue after it was found empty are over. -/
def NotStale (s : PhoneSound) : PhoneSound.Act → Prop
  | .phone .dumProcess => ∀ c seen rest call session,
      s.phone.dum = .NotifySoundsEmpty c seen :: rest → s.phone.calls c = some call →
      s.sessions c = some session → ∀ a ∈ call.mRtpObservers, ∀ tag ∈ session.queued,
        tag.action = a → seen ≤ tag.number → Over session tag
  | _ => True

/-- When the observers of a call are told that its sound queue is empty, none of them has put a
sound on the queue after it was found empty. -/
def NoneLater (s : PhoneSound) : PhoneSound.Act → Prop
  | .phone .dumProcess => ∀ c seen rest call session,
      s.phone.dum = .NotifySoundsEmpty c seen :: rest → s.phone.calls c = some call →
      s.sessions c = some session → ∀ a ∈ call.mRtpObservers, ∀ tag ∈ session.queued,
        tag.action = a → tag.number < seen
  | _ => True

/-- Every sound that was put on the queue is accounted for. -/
structure SessionOk (s : RTPSession) : Prop where
  numbered : s.queued.map SoundTag.number = List.range s.queued.length
  kept : (s.ended ++ s.cleared ++ waitingSounds s).Perm s.queued
  silent : s.started = false → s.mCurrentSound = none

/-- The sounds that are waiting were put on the queue after it was found empty. -/
def PutLater (s : RTPSession) (seen : ℕ) : Prop :=
  seen ≤ s.queued.length ∧ ∀ tag ∈ waitingSounds s, seen ≤ tag.number

structure SoundsOk (s : PhoneSound) : Prop where
  actions : ActionsOk s.phone
  sessions : ∀ c session, s.sessions c = some session → SessionOk session
  noticed : ∀ c session, s.sessions c = some session →
    ∀ seen, session.pc = .notify seen → PutLater session seen
  notified : ∀ c session, s.sessions c = some session →
    ∀ seen, .NotifySoundsEmpty c seen ∈ pending s.phone → PutLater session seen

/-! ## One session -/

section Session

variable {files : CString → Option ℕ} {s s' : RTPSession} {a : ActionId} {seen : ℕ}
  {sound : Sound}

/-- What an operation keeps: the account of the sounds, and what a notification relies on. -/
structure Keeps (s s' : RTPSession) : Prop where
  ok : SessionOk s → SessionOk s'
  later : ∀ seen, PutLater s seen → PutLater s' seen

/-- INTERNAL: no sound was put on a new session. -/
theorem sessionOk_new (capacity : ℕ) : SessionOk (.new capacity) :=
  ⟨rfl, List.Perm.refl _, fun _ => rfl⟩

/-- INTERNAL: a sound is put on the queue. -/
theorem keeps_put (s : RTPSession) (a : ActionId) (length : ℕ) :
    Keeps s (s.put a length) ∧ (s.put a length).pc = s.pc := by
  unfold RTPSession.put
  split
  · rename_i hroom
    have hitems := BoundedQueue.items_put_of_hasRoom hroom
      (⟨⟨a, s.queued.length⟩, length⟩ : Sound)
    have hwaiting : (s.mCurrentSound.toList ++
        (s.mSoundQueue.put ⟨⟨a, s.queued.length⟩, length⟩).items).map Sound.tag =
        waitingSounds s ++ [⟨a, s.queued.length⟩] := by
      simp [hitems, waitingSounds]
    refine ⟨⟨fun h => ⟨?_, ?_, h.silent⟩, fun seen h => ⟨?_, ?_⟩⟩, rfl⟩
    · simp [h.numbered, List.range_succ]
    · show (s.ended ++ s.cleared ++ _).Perm _
      rw [waitingSounds, hwaiting, ← List.append_assoc]
      exact h.kept.append_right _
    · have hle := h.1
      simp only [List.length_append, List.length_singleton]
      omega
    · intro tag htag
      rw [waitingSounds, hwaiting] at htag
      rcases List.mem_append.mp htag with htag | htag
      · exact h.2 tag htag
      · rw [List.mem_singleton.mp htag]
        exact h.1
  · exact ⟨⟨id, fun _ h => h⟩, rfl⟩

/-- INTERNAL: a sound file is put on the queue, if it is there. -/
theorem keeps_enqueueSound (folder name : CString) :
    Keeps s (enqueueSound files s a folder name) ∧
      (enqueueSound files s a folder name).pc = s.pc := by
  unfold enqueueSound
  split
  · exact keeps_put _ _ _
  · unfold RTPSession.play
    split
    · exact keeps_put _ _ _
    · exact ⟨⟨id, fun _ h => h⟩, rfl⟩

/-- INTERNAL: a sound that leaves the queue is taken note of. SOURCE: ISoundDevice.cpp:48-53 -/
theorem keeps_clearQueue (s : RTPSession) :
    Keeps s s.clearQueue.1 ∧ s.clearQueue.1.pc = s.pc := by
  unfold RTPSession.clearQueue
  split
  · rename_i sound queue hget
    have hitems := (BoundedQueue.get_eq_some_iff.mp hget).1
    refine ⟨⟨fun h => ⟨h.numbered, ?_, h.silent⟩, fun seen h => ⟨h.1, fun tag htag => ?_⟩⟩, rfl⟩
    · refine List.Perm.trans ?_ h.kept
      rw [List.perm_iff_count]
      intro tag
      simp [waitingSounds, hitems, List.count_cons]
      omega
    · apply h.2 tag
      simp only [waitingSounds, List.map_append, List.mem_append] at htag ⊢
      rcases htag with htag | htag
      · exact .inl htag
      · refine .inr ?_
        rw [hitems]
        exact List.mem_cons_of_mem _ htag
  · exact ⟨⟨fun h => ⟨h.numbered, h.kept, h.silent⟩, fun _ h => h⟩, rfl⟩

/-- INTERNAL: the sound thread goes on with its current sound. -/
theorem keeps_consume (hcur : s.mCurrentSound = some sound) (hstart : s.started = true) :
    Keeps s (s.consume sound) ∧ (s.consume sound).pc = s.pc := by
  have hlater {seen : ℕ} {t : RTPSession} (hq : t.queued = s.queued)
      (hsub : waitingSounds t ⊆ waitingSounds s) (h : PutLater s seen) : PutLater t seen :=
    ⟨hq ▸ h.1, fun tag htag => h.2 tag (hsub htag)⟩
  have hdrop : (s.mSoundQueue.items.map Sound.tag) ⊆ waitingSounds s := by
    intro tag htag
    simp only [waitingSounds, List.map_append, List.mem_append]
    exact .inr htag
  unfold RTPSession.consume
  dsimp only
  split
  · refine ⟨⟨fun h => ⟨h.numbered, ?_, fun _ => rfl⟩, fun seen => hlater rfl hdrop⟩, rfl⟩
    refine List.Perm.trans ?_ h.kept
    rw [List.perm_iff_count]
    intro tag
    simp [waitingSounds, hcur, List.count_cons]
    omega
  · split
    · refine ⟨⟨fun h => ⟨h.numbered, ?_, fun _ => rfl⟩, fun seen => hlater rfl hdrop⟩, rfl⟩
      refine List.Perm.trans ?_ h.kept
      rw [List.perm_iff_count]
      intro tag
      simp [waitingSounds, hcur, List.count_cons]
    · have hsame : waitingSounds { s with mCurrentSound := some { sound with
          remaining := sound.remaining - min CONF_RTP_PAYLOAD_SIZE sound.remaining } } =
          waitingSounds s := by
        simp [waitingSounds, hcur]
      refine ⟨⟨fun h => ⟨h.numbered, ?_, fun hs => ?_⟩, fun seen h => ⟨h.1, ?_⟩⟩, rfl⟩
      · rw [hsame]
        exact h.kept
      · rw [hstart] at hs
        cases hs
      · rw [hsame]
        exact h.2

/-- INTERNAL: one step of `work`. A notification is about a queue with nothing on it, and is
posted later. SOURCE: RTPSession.cpp:91-145 -/
theorem keeps_work (hstart : s.started = true) :
    Keeps s s.work.1 ∧
      (∀ seen, s.work.1.pc = .notify seen → s.pc = .notify seen ∨ PutLater s.work.1 seen) ∧
      ∀ seen, s.work.2 = some seen → s.pc = .notify seen := by
  unfold RTPSession.work
  split
  · rename_i seen hpc
    refine ⟨⟨fun h => ⟨h.numbered, h.kept, h.silent⟩, fun _ h => h⟩, fun n hn => ?_, fun n hn => ?_⟩
    · cases hn
    · rw [hpc, Option.some.inj hn]
  · rename_i hpc
    split
    · rename_i sound hcur
      obtain ⟨hkeeps, hsame⟩ := keeps_consume hcur hstart
      refine ⟨hkeeps, fun n hn => ?_, fun n hn => by cases hn⟩
      exact .inl (hsame.symm.trans hn)
    · rename_i hcur
      split
      · rename_i sound queue hget
        have hitems := (BoundedQueue.get_eq_some_iff.mp hget).1
        have hsame : (some sound).toList ++ queue.items =
            s.mCurrentSound.toList ++ s.mSoundQueue.items := by
          simp [hcur, hitems]
        refine ⟨⟨fun h => ⟨h.numbered, ?_, fun hs => ?_⟩, fun seen h => ⟨h.1, ?_⟩⟩, ?_, ?_⟩
        · rw [waitingSounds, hsame]
          exact h.kept
        · have hs' : s.started = false := hs
          rw [hstart] at hs'
          cases hs'
        · rw [waitingSounds, hsame]
          exact h.2
        · intro n hn
          have hn' : s.pc = .notify n := hn
          exact .inl hn'
        · intro n hn
          cases hn
      · rename_i hget
        have hitems := BoundedQueue.get_eq_none_iff.mp hget
        split
        · refine ⟨⟨id, fun _ h => h⟩, fun n hn => .inl hn, fun n hn => by cases hn⟩
        · refine ⟨⟨fun h => ⟨h.numbered, h.kept, h.silent⟩, fun _ h => h⟩, ?_, ?_⟩
          · intro n hn
            obtain rfl : s.queued.length = n := WorkPc.notify.inj hn
            refine .inr ⟨Nat.le_refl _, fun tag htag => ?_⟩
            simp [waitingSounds, hcur, hitems] at htag
          · intro n hn
            cases hn

/-- INTERNAL: the sound thread starts. -/
theorem keeps_start (h : SessionOk s) (hstep : s.start = some s') :
    Keeps s s' ∧ s'.pc = s.pc := by
  unfold RTPSession.start at hstep
  split at hstep
  · cases hstep
  · rename_i hstart
    have hcur := h.silent (by simpa using hstart)
    cases hstep
    have hsame : (none : Option Sound).toList ++ s.mSoundQueue.items =
        s.mCurrentSound.toList ++ s.mSoundQueue.items := by
      rw [hcur]
    refine ⟨⟨fun h => ⟨h.numbered, ?_, fun _ => rfl⟩, fun seen h => ⟨h.1, ?_⟩⟩, rfl⟩
    · rw [waitingSounds, hsame]
      exact h.kept
    · rw [waitingSounds, hsame]
      exact h.2

/-- INTERNAL: no sound is both over and waiting, and every sound is one or the other. -/
theorem SessionOk.over_iff (h : SessionOk s) {tag : SoundTag} (htag : tag ∈ s.queued) :
    Over s tag ↔ tag ∉ waitingSounds s := by
  have hnodup : s.queued.Nodup := by
    apply List.Nodup.of_map SoundTag.number
    rw [h.numbered]
    exact List.nodup_range
  have hall := h.kept.nodup_iff.mpr hnodup
  have hmem := h.kept.mem_iff.mpr htag
  constructor
  · intro hover hwait
    have hleft : tag ∈ s.ended ++ s.cleared := List.mem_append.mpr hover
    exact (List.nodup_append.mp hall).2.2 tag hleft tag hwait rfl
  · intro hnot
    rcases List.mem_append.mp hmem with hover | hwait
    · exact List.mem_append.mp hover
    · exact absurd hwait hnot

end Session

/-! ## All calls -/

section Phone

variable {files : CString → Option ℕ} {capacity : ℕ} {p p' : Telephony} {c : CallId} {call : Call}
  {a : ActionId} {action : IPhoneAction} {seen : ℕ}

/-- INTERNAL: a notification that this thread posts is pending. -/
theorem notify_mem_pending_post {cmd : DumCommand}
    (h : .NotifySoundsEmpty c seen ∈ pending (p.post cmd)) :
    .NotifySoundsEmpty c seen ∈ pending p ∨ .NotifySoundsEmpty c seen = cmd := by
  rw [← (pending_post_perm p cmd).mem_iff, List.mem_cons] at h
  exact h.symm

/-- INTERNAL: a notification that another thread posts is pending. -/
theorem notify_mem_pending_postOtherThread {cmd : DumCommand}
    (h : .NotifySoundsEmpty c seen ∈ pending (p.postOtherThread cmd)) :
    .NotifySoundsEmpty c seen ∈ pending p ∨ .NotifySoundsEmpty c seen = cmd := by
  rw [← (pending_postOtherThread_perm p cmd).mem_iff, List.mem_cons] at h
  exact h.symm

/-- INTERNAL: the cleaning of an action posts no notification. -/
theorem notify_mem_afterCleaning {d : CallId}
    (h : .NotifySoundsEmpty d seen ∈ pending (afterCleaning p c a)) :
    .NotifySoundsEmpty d seen ∈ pending p := by
  simpa [pending, afterCleaning, Telephony.record, Telephony.post, Telephony.setAction] using h

/-- INTERNAL: the termination of an action posts no notification. -/
theorem notify_mem_afterTermination {d : CallId}
    (h : .NotifySoundsEmpty d seen ∈ pending (afterTermination p c call a action)) :
    .NotifySoundsEmpty d seen ∈ pending p := by
  unfold afterTermination at h
  split at h
  · rcases notify_mem_pending_post h with h | h
    · exact notify_mem_afterCleaning h
    · cases h
  · exact notify_mem_afterCleaning h

/-- INTERNAL: the end of a call posts no notification. -/
theorem notify_mem_afterCleaningAll {d : CallId} {l : List ActionId}
    (h : .NotifySoundsEmpty d seen ∈ pending (afterCleaningAll p c l)) :
    .NotifySoundsEmpty d seen ∈ pending p := by
  induction l generalizing p with
  | nil => exact h
  | cons a l ih => exact notify_mem_afterCleaning (ih h)

/-- INTERNAL: no command posts a notification. -/
theorem CommandEffect.notify_mem {cmd : DumCommand} {d : CallId} {request : Option SoundRequest}
    (heff : CommandEffect p cmd p' request) (h : .NotifySoundsEmpty d seen ∈ pending p') :
    .NotifySoundsEmpty d seen ∈ pending p := by
  cases heff with
  | add hcall heff =>
    cases heff with
    | answered =>
      rcases notify_mem_pending_post h with h | h
      · exact h
      · cases h
    | early => exact h
    | linked => exact h
  | run hcall heff =>
    cases heff with
    | idle => exact h
    | plays => exact h
    | ends =>
      rcases notify_mem_pending_post h with h | h
      · exact h
      · cases h
    | silent =>
      have hbefore := notify_mem_afterTermination h
      exact hbefore
  | delete => exact h
  | notify hcall heff =>
    cases heff with
    | unheard => exact h
    | ends => exact notify_mem_afterTermination h
  | finish => exact h

/-- INTERNAL: only the sound thread of a call posts a notification. SOURCE: Call.cpp:110-116 -/
theorem notify_mem_phoneStep {act : PhoneAct} {d : CallId} (hok : ActionsOk p)
    (hact : ∀ c n, act ≠ .onSoundQueueEmpty c n) (hstep : phoneStep p act = some p')
    (h : .NotifySoundsEmpty d seen ∈ pending p') : .NotifySoundsEmpty d seen ∈ pending p := by
  cases phoneStep_cases hok hstep with
  | asyncAddAction k hc =>
    rcases notify_mem_pending_postOtherThread h with h | h
    · exact h
    · cases h
  | releaseCall hc =>
    rcases notify_mem_pending_postOtherThread h with h | h
    · exact h
    · cases h
  | @onSoundQueueEmpty c n hc => exact absurd rfl (hact c n)
  | newCall incomming => exact h
  | ringing hcall => exact h
  | notInitial => exact h
  | connected hcall => exact h
  | answered hcall =>
    rcases notify_mem_pending_post h with h | h
    · exact h
    · cases h
  | dumPost hposting => exact pending_dumPost hposting ▸ h
  | @dumProcess cmd rest p' request hdum heff =>
    have hpending : pending p = cmd :: pending { p with dum := rest } := by
      simp [pending, hdum]
    rw [hpending]
    exact List.mem_cons_of_mem cmd (heff.notify_mem h)
  | destroyed =>
    have hbefore := notify_mem_afterCleaningAll h
    exact hbefore

end Phone

/-! ## All threads -/

section Threads

variable {files : CString → Option ℕ} {capacity : ℕ} {s s' : PhoneSound}

/-- INTERNAL: the sessions stay as they are, and no notification is added. -/
theorem SoundsOk.phone (h : SoundsOk s) (hactions : ActionsOk s'.phone)
    (hsessions : s'.sessions = s.sessions)
    (hnotify : ∀ c seen, .NotifySoundsEmpty c seen ∈ pending s'.phone →
      .NotifySoundsEmpty c seen ∈ pending s.phone) : SoundsOk s' where
  actions := hactions
  sessions c session hc := h.sessions c session (hsessions ▸ hc)
  noticed c session hc := h.noticed c session (hsessions ▸ hc)
  notified c session hc seen hmem :=
    h.notified c session (hsessions ▸ hc) seen (hnotify c seen hmem)

/-- INTERNAL: one session changes. -/
theorem SoundsOk.session {c : CallId} {session' : RTPSession} (h : SoundsOk s)
    (hactions : ActionsOk s'.phone)
    (hsessions : s'.sessions = Function.update s.sessions c (some session'))
    (hother : ∀ d, d ≠ c → ∀ seen, .NotifySoundsEmpty d seen ∈ pending s'.phone →
      .NotifySoundsEmpty d seen ∈ pending s.phone)
    (hok : SessionOk session')
    (hnoticed : ∀ seen, session'.pc = .notify seen → PutLater session' seen)
    (hnotified : ∀ seen, .NotifySoundsEmpty c seen ∈ pending s'.phone → PutLater session' seen) :
    SoundsOk s' := by
  have hcases (d : CallId) (session : RTPSession) (hd : s'.sessions d = some session) :
      (d = c ∧ session = session') ∨ (d ≠ c ∧ s.sessions d = some session) := by
    rw [hsessions] at hd
    by_cases hdc : d = c
    · subst hdc
      rw [Function.update_self] at hd
      exact .inl ⟨rfl, (Option.some.inj hd).symm⟩
    · rw [Function.update_of_ne hdc] at hd
      exact .inr ⟨hdc, hd⟩
  refine ⟨hactions, fun d session hd => ?_, fun d session hd => ?_, fun d session hd => ?_⟩
  · rcases hcases d session hd with ⟨rfl, rfl⟩ | ⟨-, hold⟩
    · exact hok
    · exact h.sessions d session hold
  · rcases hcases d session hd with ⟨rfl, rfl⟩ | ⟨-, hold⟩
    · exact hnoticed
    · exact h.noticed d session hold
  · rcases hcases d session hd with ⟨rfl, rfl⟩ | ⟨hdc, hold⟩
    · exact hnotified
    · exact fun seen hmem => h.notified d session hold seen (hother d hdc seen hmem)

/-- INTERNAL: an operation on one session that keeps its account. -/
theorem SoundsOk.keeps {c : CallId} {session session' : RTPSession} (h : SoundsOk s)
    (hactions : ActionsOk s'.phone) (hc : s.sessions c = some session)
    (hsessions : s'.sessions = Function.update s.sessions c (some session'))
    (hnotify : ∀ d seen, .NotifySoundsEmpty d seen ∈ pending s'.phone →
      .NotifySoundsEmpty d seen ∈ pending s.phone)
    (hkeeps : Keeps session session' ∧ session'.pc = session.pc) : SoundsOk s' := by
  obtain ⟨hkeep, hpc⟩ := hkeeps
  refine h.session hactions hsessions (fun d _ => hnotify d)
    (hkeep.ok (h.sessions c session hc)) (fun seen hn => ?_) fun seen hmem => ?_
  · exact hkeep.later seen (h.noticed c session hc seen (hpc ▸ hn))
  · exact hkeep.later seen (h.notified c session hc seen (hnotify c seen hmem))

/-- INTERNAL: a step that waits for `invoke` was taken when it had returned. -/
theorem whenIdle_eq_some {k : Option PhoneSound} (h : s.whenIdle k = some s') : k = some s' := by
  unfold PhoneSound.whenIdle at h
  split at h
  · exact h
  · cases h

/-- INTERNAL: a session starts when its call is answered. SOURCE: SIPEngine.cpp:286-323 -/
theorem soundsOk_start {act : PhoneAct} {c : CallId} (h : SoundsOk s)
    (hact : ∀ c n, act ≠ .onSoundQueueEmpty c n)
    (hstep : (phoneStep s.phone act).bind (fun phone =>
      ((s.sessions c).bind RTPSession.start).map fun session =>
        { s with phone := phone }.setSession c (some session)) = some s') : SoundsOk s' := by
  obtain ⟨phone, hphone, heq⟩ := Option.bind_eq_some_iff.mp hstep
  obtain ⟨session', hstart, rfl⟩ := Option.map_eq_some_iff.mp heq
  obtain ⟨session, hc, hstart⟩ := Option.bind_eq_some_iff.mp hstart
  refine h.keeps (actionsOk_step h.actions hphone) hc rfl ?_
    (keeps_start (h.sessions c session hc) hstart)
  exact fun d seen hmem => notify_mem_phoneStep h.actions hact hphone hmem

/-- INTERNAL: a step of the calls. -/
theorem soundsOk_phoneAct {act : PhoneAct} (h : SoundsOk s)
    (hstep : s.phoneAct capacity act = some s') : SoundsOk s' := by
  have hplain {act : PhoneAct} (hact : ∀ c n, act ≠ .onSoundQueueEmpty c n)
      (hplain : (phoneStep s.phone act).map (fun phone => { s with phone := phone }) = some s') :
      SoundsOk s' := by
    obtain ⟨phone, hphone, rfl⟩ := Option.map_eq_some_iff.mp hplain
    refine h.phone (actionsOk_step h.actions hphone) rfl ?_
    exact fun c seen hmem => notify_mem_phoneStep h.actions hact hphone hmem
  cases act with
  | onSoundQueueEmpty c n => cases hstep
  | newCall incomming =>
    simp only [PhoneSound.phoneAct] at hstep
    obtain ⟨phone, hphone, rfl⟩ := Option.map_eq_some_iff.mp hstep
    have hold {d : CallId} {seen : ℕ} (hmem : .NotifySoundsEmpty d seen ∈ pending phone) :
        .NotifySoundsEmpty d seen ∈ pending s.phone :=
      notify_mem_phoneStep h.actions (fun _ _ heq => by cases heq) hphone hmem
    refine h.session (actionsOk_step h.actions hphone) rfl (fun d _ seen => hold)
      (sessionOk_new capacity) (fun seen hn => by cases hn) fun seen hmem => ?_
    exact absurd (h.actions.commands.named _ (hold hmem)) (Nat.lt_irrefl _)
  | onConnected c => exact soundsOk_start h (fun _ _ heq => by cases heq) (whenIdle_eq_some hstep)
  | onAnswer c => exact soundsOk_start h (fun _ _ heq => by cases heq) (whenIdle_eq_some hstep)
  | destroyCall c =>
    obtain ⟨phone, hphone, rfl⟩ := Option.map_eq_some_iff.mp (whenIdle_eq_some hstep)
    have hsub (d : CallId) (session : RTPSession)
        (hd : Function.update s.sessions c none d = some session) :
        s.sessions d = some session := by
      by_cases hdc : d = c
      · rw [hdc, Function.update_self] at hd
        cases hd
      · rwa [Function.update_of_ne hdc] at hd
    refine ⟨actionsOk_step h.actions hphone, fun d session hd => ?_, fun d session hd => ?_,
      fun d session hd seen hmem => ?_⟩
    · exact h.sessions d session (hsub d session hd)
    · exact h.noticed d session (hsub d session hd)
    · apply h.notified d session (hsub d session hd) seen
      exact notify_mem_phoneStep h.actions (fun _ _ heq => by cases heq) hphone hmem
  | onProvisional c => exact hplain (fun _ _ heq => by cases heq) (whenIdle_eq_some hstep)
  | dumProcess =>
    obtain ⟨hposting, heq⟩ := Option.ite_none_right_eq_some.mp (whenIdle_eq_some hstep)
    obtain ⟨⟨phone, request⟩, hprocess, rfl⟩ := Option.map_eq_some_iff.mp heq
    have hphone : phoneStep s.phone .dumProcess = some phone := by
      simp [phoneStep, hposting, hprocess]
    refine h.phone (actionsOk_step h.actions hphone) rfl fun c seen hmem => ?_
    exact notify_mem_phoneStep h.actions (fun _ _ heq => by cases heq) hphone hmem
  | asyncAddAction c k => exact hplain (fun _ _ heq => by cases heq) hstep
  | releaseCall c => exact hplain (fun _ _ heq => by cases heq) hstep
  | dumPost => exact hplain (fun _ _ heq => by cases heq) hstep

/-- INTERNAL: a step of the sound thread of a call. -/
theorem soundsOk_work {c : CallId} (h : SoundsOk s) (hstep : s.work c = some s') : SoundsOk s' := by
  obtain ⟨session, hc, heq⟩ := Option.bind_eq_some_iff.mp hstep
  obtain ⟨hstart, heq⟩ := Option.ite_none_right_eq_some.mp heq
  obtain ⟨hkeep, hpc, hnote⟩ := keeps_work hstart
  have hold := h.sessions c session hc
  have hnoticed (seen : ℕ) (hn : session.work.1.pc = .notify seen) :
      PutLater session.work.1 seen := by
    rcases hpc seen hn with hn | hlater
    · exact hkeep.later seen (h.noticed c session hc seen hn)
    · exact hlater
  cases hposted : session.work.2 with
  | none =>
    rw [hposted] at heq
    obtain rfl := Option.some.inj heq
    refine h.session h.actions rfl (fun d _ seen hmem => hmem) (hkeep.ok hold) hnoticed ?_
    exact fun seen hmem => hkeep.later seen (h.notified c session hc seen hmem)
  | some seen =>
    rw [hposted] at heq
    obtain ⟨phone, hphone, rfl⟩ := Option.map_eq_some_iff.mp heq
    have hlater := hkeep.later seen (h.noticed c session hc seen (hnote seen hposted))
    have hactions := actionsOk_step h.actions hphone
    obtain ⟨-, heq⟩ := Option.ite_none_right_eq_some.mp hphone
    obtain rfl := Option.some.inj heq
    refine h.session hactions rfl ?_ (hkeep.ok hold) hnoticed ?_
    · intro d hd n hmem
      rcases notify_mem_pending_postOtherThread hmem with hmem | heq
      · exact hmem
      · cases heq
        exact absurd rfl hd
    · intro n hmem
      rcases notify_mem_pending_postOtherThread hmem with hmem | heq
      · exact hkeep.later n (h.notified c session hc n hmem)
      · cases heq
        exact hlater

/-- INTERNAL: every step of every thread keeps the invariant. -/
theorem soundsOk_step {act : PhoneSound.Act} (h : SoundsOk s)
    (hstep : step files capacity s act = some s') : SoundsOk s' := by
  cases act with
  | phone act => exact soundsOk_phoneAct h hstep
  | enqueueSound =>
    simp only [PhoneSound.step, PhoneSound.enqueueNext] at hstep
    split at hstep
    · obtain ⟨session, hc, rfl⟩ := Option.map_eq_some_iff.mp hstep
      exact h.keeps h.actions hc rfl (fun _ _ hmem => hmem) (keeps_enqueueSound _ _)
    · cases hstep
  | onDigit c =>
    obtain ⟨-, heq⟩ := Option.ite_none_right_eq_some.mp (whenIdle_eq_some hstep)
    obtain rfl := Option.some.inj heq
    exact h.phone h.actions rfl fun _ _ hmem => hmem
  | clearQueue =>
    simp only [PhoneSound.step, PhoneSound.clearNext] at hstep
    split at hstep
    · obtain ⟨session, hc, rfl⟩ := Option.map_eq_some_iff.mp hstep
      exact h.keeps h.actions hc rfl (fun _ _ hmem => hmem) (keeps_clearQueue session)
    · cases hstep
  | work c => exact soundsOk_work h hstep

/-- INTERNAL: at first there is no call. -/
theorem soundsOk_init : SoundsOk PhoneSound.init where
  actions := actionsOk_init
  sessions _ _ hc := by cases hc
  noticed _ _ hc := by cases hc
  notified _ _ hc := by cases hc

/-- INTERNAL: the sounds that were put before the queue was found empty are over. -/
theorem endsWhenOver_iff_notStale {act : PhoneSound.Act} (h : SoundsOk s) :
    EndsWhenOver s act ↔ NotStale s act := by
  cases act with
  | phone act =>
    cases act with
    | dumProcess =>
      constructor
      · intro hends c seen rest call session hdum hcall hc a ha tag htag haction _
        exact (hends c seen rest call session hdum hcall hc a ha tag htag haction).1
      · intro hfresh c seen rest call session hdum hcall hc a ha tag htag haction
        have hok := h.sessions c session hc
        have hmem : .NotifySoundsEmpty c seen ∈ pending s.phone := by simp [pending, hdum]
        have hlater := h.notified c session hc seen hmem
        have hover : Over session tag := by
          by_cases hput : seen ≤ tag.number
          · exact hfresh c seen rest call session hdum hcall hc a ha tag htag haction hput
          · apply (hok.over_iff htag).mpr
            intro hwait
            have hge := hlater.2 tag hwait
            omega
        exact ⟨hover, (hok.over_iff htag).mp hover⟩
    | _ => exact Iff.rfl
  | _ => exact Iff.rfl

/-- INTERNAL: there are no sounds that the condition is about. -/
theorem notStale_of_noneLater {act : PhoneSound.Act} (h : NoneLater s act) : NotStale s act := by
  cases act with
  | phone act =>
    cases act with
    | dumProcess =>
      intro c seen rest call session hdum hcall hc a ha tag htag haction hput
      have hbefore := h c seen rest call session hdum hcall hc a ha tag htag haction
      exact absurd hput (Nat.not_le.mpr hbefore)
    | _ => trivial
  | _ => trivial

end Threads

/-- **A play action ends when its sounds are over** in exactly the runs in which no
notification that is executed is older than a sound that still waits. SOURCE:
PlayPhoneAction.cpp:17-51, RTPSession.cpp:91-145, Call.cpp:110-126, ISoundDevice.cpp:8-37 -/
theorem endsWhenOver_iff (files : CString → Option ℕ) (capacity : ℕ) (acts : List PhoneSound.Act) :
    Along (step files capacity) EndsWhenOver PhoneSound.init acts ↔
      Along (step files capacity) NotStale PhoneSound.init acts := by
  refine along_iff_along (I := SoundsOk) ?_ ?_ soundsOk_init
  · exact fun s act s' h _ => endsWhenOver_iff_notStale h
  · exact fun s act s' h _ hstep => soundsOk_step h hstep

/-- **A play action ends when its sounds are over in every run in which no listener puts a sound on
the queue between the time when the queue was found empty and the notification about it.**
SOURCE: PlayPhoneAction.cpp:17-51, RTPSession.cpp:91-145, Call.cpp:110-126 -/
theorem endsWhenOver_of_noneLater (files : CString → Option ℕ) (capacity : ℕ)
    (acts : List PhoneSound.Act) (h : Along (step files capacity) NoneLater PhoneSound.init acts) :
    Along (step files capacity) EndsWhenOver PhoneSound.init acts := by
  refine along_of_along (I := SoundsOk) ?_ ?_ soundsOk_init h
  · exact fun s act hok hlater => (endsWhenOver_iff_notStale hok).mpr (notStale_of_noneLater hlater)
  · exact fun s act s' hok hstep => soundsOk_step hok hstep

/-- A play action for two silences: the sound thread finds the queue empty between them. -/
def silences : List PhoneSound.Act :=
  [.phone (.newCall false), .phone (.asyncAddAction 0 (.play "$0,$1".toList [])),
    .phone .dumProcess, .phone (.onAnswer 0), .phone .dumPost, .phone .dumProcess,
    .enqueueSound, .work 0, .work 0, .work 0, .work 0, .enqueueSound]

/-- The notification about the first silence ends the action before the second one
was played. -/
theorem silences_end_early :
    ¬ Along (step (fun _ => none) 100) EndsWhenOver PhoneSound.init
      (silences ++ [.phone .dumProcess]) := by
  intro h
  have hends := h.last rfl rfl 0 1 [] _ _ rfl rfl rfl 0 (List.mem_singleton.mpr rfl)
    ⟨0, 1⟩ (List.mem_cons_of_mem _ List.mem_cons_self) rfl
  exact hends.2 List.mem_cons_self

end Dhas.Analysis
