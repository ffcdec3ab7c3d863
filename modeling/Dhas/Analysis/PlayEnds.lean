import Dhas.Analysis.SoundsOver

/-!
# A play action can end

A play action waits for the notification that the sound queue of its call is empty, and the
sound thread gives one only after it has taken a sound from the queue. When the list of sounds
is empty, `PlayPhoneAction::invoke` terminates the action itself. When none of the sounds can be
put on the queue and nothing else is to be played, it does not: nobody ever ends the action.
-/

set_option autoImplicit false

namespace Dhas.Analysis.PlayEnds

open Dhas.Library Dhas.Program Dhas.Model
open Dhas.Model.PhoneSound

/-- The sound thread is going to notify: there are sounds to play, or it has not reported yet
that there are none. -/
def SoundsLeft (t : RTPSession) : Prop :=
  t.mSoundQueue.items ≠ [] ∨ t.mCurrentSound ≠ none ∨ t.mQueueWasEmpty = false

/-- A notification that the sound queue of a call is empty is still to come, or posted and not
executed. -/
def NotificationDue (s : PhoneSound) (c : CallId) : Prop :=
  (∃ t, s.sessions c = some t ∧ SoundsLeft t) ∨
    ∃ seen, .NotifySoundsEmpty c seen ∈ pending s.phone

/-- The action has terminated, or a notification is still to come. -/
def CanEnd (s : PhoneSound) (c : CallId) (a : ActionId) : Prop :=
  .terminated c a ∈ s.phone.trace ∨ NotificationDue s c

/-- The next command runs a play action for the first time. -/
structure AboutToPlay (s : PhoneSound) (c : CallId) (a : ActionId)
    (mPlayString mSoundsFolder : CString) : Prop where
  run : ∃ rest, s.phone.dum = .Run c :: rest
  current : ∃ call, s.phone.calls c = some call ∧ call.mpCurrentAction = some a
  action : ∃ action, s.phone.actions a = some action ∧ action.mInvoked = false ∧
    action.actionClass = .play mPlayString mSoundsFolder

/-- A step of one of the threads before `PlayPhoneAction::invoke` returns. -/
def whileInvoked (files : CString → Option ℕ) (capacity : ℕ) (s : PhoneSound)
    (act : PhoneSound.Act) : Option PhoneSound :=
  match s.pc with
  | .playing _ _ _ _ => step files capacity s act
  | _ => none

/-- The sound is a silence, or a file that can be opened. -/
def Opens (files : CString → Option ℕ) (mSoundsFolder sound : CString) : Prop :=
  match sound with
  | '$' :: _ => True
  | _ => files (mSoundsFolder ++ sound ++ "-ulaw.wav".toList) ≠ none

/-! ## One session -/

/-- What the sound thread relies on: a current sound was taken from the queue, and the flag is
not set before the observers were notified. -/
structure WorkerOk (t : RTPSession) : Prop where
  current : t.mCurrentSound ≠ none → t.mQueueWasEmpty = false
  notifies : t.pc ≠ .top → t.mQueueWasEmpty = false ∧ t.mCurrentSound = none
  unstarted : t.started = false → t.pc = .top

section Session

variable {files : CString → Option ℕ} {t t' : RTPSession} {a : ActionId}
  {mSoundsFolder sound : CString}

/-- INTERNAL: a new session has nothing to play. -/
theorem workerOk_new (capacity : ℕ) : WorkerOk (.new capacity) where
  current h := absurd rfl h
  notifies h := absurd rfl h
  unstarted _ := rfl

/-- INTERNAL: the sound thread starts at its top. -/
theorem WorkerOk.start (h : WorkerOk t) (hstep : t.start = some t') : WorkerOk t' := by
  unfold RTPSession.start at hstep
  split at hstep
  case isTrue => cases hstep
  case isFalse hstarted =>
    have htop := h.unstarted (Bool.eq_false_of_not_eq_true hstarted)
    obtain rfl := Option.some.inj hstep
    exact ⟨fun hcurrent => absurd rfl hcurrent, fun hpc => absurd htop hpc, fun _ => htop⟩

/-- INTERNAL: the queue is cleared. -/
theorem WorkerOk.clearQueue (h : WorkerOk t) : WorkerOk t.clearQueue.1 := by
  unfold RTPSession.clearQueue
  split
  · exact ⟨h.current, h.notifies, h.unstarted⟩
  · exact ⟨h.current, h.notifies, h.unstarted⟩

/-- INTERNAL: a sound is put on the queue. -/
theorem WorkerOk.put (h : WorkerOk t) (length : ℕ) : WorkerOk (t.put a length) := by
  unfold RTPSession.put
  split
  · exact ⟨h.current, h.notifies, h.unstarted⟩
  · exact h

/-- INTERNAL: a sound file is opened, and put on the queue if it is there. -/
theorem WorkerOk.enqueueSound (h : WorkerOk t) :
    WorkerOk (enqueueSound files t a mSoundsFolder sound) := by
  unfold Program.enqueueSound
  split
  · exact h.put _
  · unfold RTPSession.play
    split
    · exact h.put _
    · exact h

/-- INTERNAL: one step of `work`. SOURCE: RTPSession.cpp:91-145 -/
theorem WorkerOk.work (h : WorkerOk t) (hstarted : t.started = true) : WorkerOk t.work.1 := by
  have hnot {P : Prop} (hfalse : t.started = false) : P := by
    rw [hstarted] at hfalse
    cases hfalse
  unfold RTPSession.work
  split
  case h_1 seen hpc =>
    have hcurrent := (h.notifies (by rw [hpc]; simp)).2
    exact ⟨fun hne => absurd hcurrent hne, fun hne => absurd rfl hne, fun _ => rfl⟩
  case h_2 hpc =>
    split
    case h_1 sound hcurrent =>
      have hempty := h.current (by rw [hcurrent]; simp)
      unfold RTPSession.consume
      dsimp only
      split
      · exact ⟨fun hne => absurd rfl hne, fun hne => absurd hpc hne, fun _ => hpc⟩
      · split
        · exact ⟨fun hne => absurd rfl hne, fun hne => absurd hpc hne, fun _ => hpc⟩
        · exact ⟨fun _ => hempty, fun hne => absurd hpc hne, fun _ => hpc⟩
    case h_2 hcurrent =>
      split
      · exact ⟨fun _ => rfl, fun hne => absurd hpc hne, fun _ => hpc⟩
      · split
        case isTrue => exact h
        case isFalse hempty =>
          have hfalse := Bool.eq_false_of_not_eq_true hempty
          exact ⟨fun hne => absurd hcurrent hne, fun _ => ⟨hfalse, hcurrent⟩, hnot⟩

/-- INTERNAL: the thread leaves a session alone that has nothing to play and nothing to
report. -/
theorem work_of_not_soundsLeft (h : WorkerOk t) (hleft : ¬ SoundsLeft t) :
    t.work = (t, none) := by
  simp only [SoundsLeft, not_or, not_not, Bool.not_eq_false] at hleft
  obtain ⟨hitems, hcurrent, hempty⟩ := hleft
  have hpc : t.pc = .top := by
    by_contra hne
    have hfalse := (h.notifies hne).1
    rw [hempty] at hfalse
    cases hfalse
  unfold RTPSession.work
  rw [hpc]
  dsimp only
  rw [hcurrent]
  dsimp only
  rw [BoundedQueue.get_eq_none_iff.mpr hitems]
  dsimp only
  rw [if_pos hempty]

/-- INTERNAL: one that has something to play keeps it, plays it and reports later, or
notifies. -/
theorem soundsLeft_work (h : WorkerOk t) (hleft : SoundsLeft t) :
    SoundsLeft t.work.1 ∨ t.work.2 ≠ none := by
  unfold RTPSession.work
  split
  case h_1 seen hpc => exact .inr (by simp)
  case h_2 hpc =>
    split
    case h_1 sound hcurrent =>
      have hempty := h.current (by rw [hcurrent]; simp)
      have hsame : (t.consume sound).mQueueWasEmpty = t.mQueueWasEmpty := by
        unfold RTPSession.consume
        dsimp only
        split
        · rfl
        · split <;> rfl
      exact .inl (.inr (.inr (hsame.trans hempty)))
    case h_2 hcurrent =>
      split
      · exact .inl (.inr (.inr rfl))
      case h_2 hget =>
        split
        case isTrue => exact .inl hleft
        case isFalse hempty => exact .inl (.inr (.inr (Bool.eq_false_of_not_eq_true hempty)))

/-- INTERNAL: a sound that opens is put on a queue with room. -/
theorem soundsLeft_enqueueSound (hopens : Opens files mSoundsFolder sound)
    (hroom : t.mSoundQueue.HasRoom) :
    SoundsLeft (enqueueSound files t a mSoundsFolder sound) := by
  have hput (length : ℕ) : SoundsLeft (t.put a length) := by
    refine .inl ?_
    unfold RTPSession.put
    rw [if_pos hroom]
    dsimp only
    rw [BoundedQueue.items_put_of_hasRoom hroom]
    simp
  unfold enqueueSound
  unfold Opens at hopens
  split
  case h_1 st => exact hput _
  case h_2 hne =>
    split at hopens
    case h_1 st => exact absurd rfl (hne st)
    case h_2 =>
      unfold RTPSession.play
      split
      case h_1 length _ => exact hput length
      case h_2 hnone => exact absurd hnone hopens

/-- INTERNAL: any other leaves the session as it was. SOURCE: ISoundDevice.cpp:16-37 -/
theorem enqueueSound_eq_self
    (h : ¬ (Opens files mSoundsFolder sound ∧ t.mSoundQueue.HasRoom)) :
    enqueueSound files t a mSoundsFolder sound = t := by
  have hput (length : ℕ) (hfull : ¬ t.mSoundQueue.HasRoom) : t.put a length = t := by
    unfold RTPSession.put
    rw [if_neg hfull]
  unfold Opens at h
  unfold enqueueSound
  split
  case h_1 st => exact hput _ fun hroom => h ⟨trivial, hroom⟩
  case h_2 hne =>
    unfold RTPSession.play
    split
    case h_1 length hfile =>
      refine hput _ fun hroom => h ⟨?_, hroom⟩
      split
      · trivial
      · rw [hfile]
        simp
    case h_2 => rfl

end Session

/-! ## All threads -/

/-- What a step can do to a session. -/
inductive SessionStep (files : CString → Option ℕ) (t : RTPSession) : RTPSession → Prop
  | same : SessionStep files t t
  | start {t' : RTPSession} (hstart : t.start = some t') : SessionStep files t t'
  | put (a : ActionId) (mSoundsFolder sound : CString) :
      SessionStep files t (enqueueSound files t a mSoundsFolder sound)
  | clear : SessionStep files t t.clearQueue.1
  | work (hstarted : t.started = true) : SessionStep files t t.work.1

section Threads

variable {files : CString → Option ℕ} {capacity : ℕ} {s s' : PhoneSound} {c : CallId}
  {t t' : RTPSession} {a : ActionId} {mSoundsFolder : CString}

/-- INTERNAL: **one step of a session.** -/
theorem WorkerOk.step (h : WorkerOk t) (hstep : SessionStep files t t') : WorkerOk t' := by
  cases hstep with
  | same => exact h
  | start hstart => exact h.start hstart
  | put a mSoundsFolder sound => exact h.enqueueSound
  | clear => exact h.clearQueue
  | work hstarted => exact h.work hstarted

/-- INTERNAL: one session is replaced. -/
theorem sessions_update {d : CallId} {u : RTPSession}
    (hold : s.sessions d = some t) (hstep : SessionStep files t u)
    (h : Function.update s.sessions d (some u) c = some t') :
    ∃ t, s.sessions c = some t ∧ SessionStep files t t' := by
  by_cases hc : c = d
  · subst hc
    rw [Function.update_self] at h
    exact ⟨t, hold, Option.some.inj h ▸ hstep⟩
  · rw [Function.update_of_ne hc] at h
    exact ⟨t', h, .same⟩

/-- INTERNAL: a session after a step of one of the threads is new, or comes from the one before
it. -/
theorem step_session {act : PhoneSound.Act} (hstep : step files capacity s act = some s')
    (h : s'.sessions c = some t') :
    t' = .new capacity ∨ ∃ t, s.sessions c = some t ∧ SessionStep files t t' := by
  have hstart {act : PhoneAct} {d : CallId} (heq : (phoneStep s.phone act).bind (fun phone =>
      ((s.sessions d).bind RTPSession.start).map fun session =>
        { s with phone := phone }.setSession d (some session)) = some s') :
      ∃ t, s.sessions c = some t ∧ SessionStep files t t' := by
    obtain ⟨phone, -, heq⟩ := Option.bind_eq_some_iff.mp heq
    obtain ⟨u, hu, rfl⟩ := Option.map_eq_some_iff.mp heq
    obtain ⟨t, ht, hu⟩ := Option.bind_eq_some_iff.mp hu
    exact sessions_update ht (.start hu) h
  have hplain {act : PhoneAct}
      (heq : (phoneStep s.phone act).map (fun phone => { s with phone := phone }) = some s') :
      ∃ t, s.sessions c = some t ∧ SessionStep files t t' := by
    obtain ⟨phone, -, rfl⟩ := Option.map_eq_some_iff.mp heq
    exact ⟨t', h, .same⟩
  cases act with
  | phone act =>
    cases act with
    | onSoundQueueEmpty d n => cases hstep
    | newCall incomming =>
      simp only [PhoneSound.step, PhoneSound.phoneAct] at hstep
      obtain ⟨phone, -, rfl⟩ := Option.map_eq_some_iff.mp hstep
      have hnew : Function.update s.sessions s.phone.callCount (some (.new capacity)) c =
          some t' := h
      by_cases hc : c = s.phone.callCount
      · rw [hc, Function.update_self] at hnew
        exact .inl (Option.some.inj hnew).symm
      · rw [Function.update_of_ne hc] at hnew
        exact .inr ⟨t', hnew, .same⟩
    | onConnected d => exact .inr (hstart (whenIdle_eq_some hstep))
    | onAnswer d => exact .inr (hstart (whenIdle_eq_some hstep))
    | destroyCall d =>
      obtain ⟨phone, -, rfl⟩ := Option.map_eq_some_iff.mp (whenIdle_eq_some hstep)
      have hgone : Function.update s.sessions d none c = some t' := h
      by_cases hc : c = d
      · rw [hc, Function.update_self] at hgone
        cases hgone
      · rw [Function.update_of_ne hc] at hgone
        exact .inr ⟨t', hgone, .same⟩
    | onProvisional d => exact .inr (hplain (whenIdle_eq_some hstep))
    | dumProcess =>
      obtain ⟨-, heq⟩ := Option.ite_none_right_eq_some.mp (whenIdle_eq_some hstep)
      obtain ⟨result, -, rfl⟩ := Option.map_eq_some_iff.mp heq
      exact .inr ⟨t', h, .same⟩
    | asyncAddAction d k => exact .inr (hplain hstep)
    | releaseCall d => exact .inr (hplain hstep)
    | dumPost => exact .inr (hplain hstep)
  | enqueueSound =>
    simp only [PhoneSound.step, PhoneSound.enqueueNext] at hstep
    split at hstep
    · obtain ⟨t, ht, rfl⟩ := Option.map_eq_some_iff.mp hstep
      exact .inr (sessions_update ht (.put _ _ _) h)
    · cases hstep
  | onDigit d =>
    obtain ⟨-, heq⟩ := Option.ite_none_right_eq_some.mp (whenIdle_eq_some hstep)
    obtain rfl := Option.some.inj heq
    exact .inr ⟨t', h, .same⟩
  | clearQueue =>
    simp only [PhoneSound.step, PhoneSound.clearNext] at hstep
    split at hstep
    · obtain ⟨t, ht, rfl⟩ := Option.map_eq_some_iff.mp hstep
      exact .inr (sessions_update ht .clear h)
    · cases hstep
  | work d =>
    obtain ⟨t, ht, heq⟩ := Option.bind_eq_some_iff.mp hstep
    obtain ⟨hstarted, heq⟩ := Option.ite_none_right_eq_some.mp heq
    split at heq
    · obtain rfl := Option.some.inj heq
      exact .inr (sessions_update ht (.work hstarted) h)
    · obtain ⟨phone, -, rfl⟩ := Option.map_eq_some_iff.mp heq
      exact .inr (sessions_update ht (.work hstarted) h)

/-- INTERNAL: every session of a reachable state is as its thread relies on. -/
theorem workerOk_run {acts : List PhoneSound.Act}
    (hrun : run (step files capacity) PhoneSound.init acts = some s)
    (ht : s.sessions c = some t) : WorkerOk t := by
  have hall : ∀ c t, s.sessions c = some t → WorkerOk t := by
    refine run_invariant (I := fun s => ∀ c t, s.sessions c = some t → WorkerOk t) ?_ ?_ hrun
    · intro s act s' h hstep c t' ht'
      rcases step_session hstep ht' with rfl | ⟨t, ht, hsession⟩
      · exact workerOk_new capacity
      · exact (h c t ht).step hsession
    · intro c t ht
      cases ht
  exact hall c t ht

end Threads

/-! ## The loop of `invoke` -/

/-- The next commands of a call that are notifications stay the same, up to one. -/
def Notifies (p p' : Telephony) (c : CallId) (new : Option ℕ) : Prop :=
  ∀ seen, .NotifySoundsEmpty c seen ∈ pending p' ↔
    .NotifySoundsEmpty c seen ∈ pending p ∨ new = some seen

/-- What a step before `invoke` returns can do, as the call and its session see it. -/
inductive InvokeStep (files : CString → Option ℕ) (c : CallId) (a : ActionId)
    (mSoundsFolder : CString) (sounds : List CString) (t : RTPSession) (s s' : PhoneSound) : Prop
  | put (sound : CString) (rest : List CString) (hsounds : sounds = sound :: rest)
      (hpc : s'.pc = if rest = [] then .idle else .playing c a mSoundsFolder rest)
      (hsession : s'.sessions c = some (enqueueSound files t a mSoundsFolder sound))
      (hnotifies : Notifies s.phone s'.phone c none)
  | work (hstarted : t.started = true) (hpc : s'.pc = .playing c a mSoundsFolder sounds)
      (hsession : s'.sessions c = some t.work.1)
      (hnotifies : Notifies s.phone s'.phone c t.work.2)
  | other (hpc : s'.pc = .playing c a mSoundsFolder sounds) (hsession : s'.sessions c = some t)
      (hnotifies : Notifies s.phone s'.phone c none)

section Invoke

variable {files : CString → Option ℕ} {capacity : ℕ} {s s' : PhoneSound} {c : CallId}
  {t t' : RTPSession} {a : ActionId} {mSoundsFolder : CString} {sounds : List CString}
  {p p' : Telephony}

/-- INTERNAL: a step that posts nothing posts no notification. -/
theorem notifies_of_pending (h : pending p' = pending p) : Notifies p p' c none := by
  intro seen
  simp [h]

/-- INTERNAL: another thread posts a command, which is this notification or is none. -/
theorem notifies_postOtherThread {cmd : DumCommand} {new : Option ℕ}
    (hcmd : ∀ seen, .NotifySoundsEmpty c seen = cmd ↔ new = some seen) :
    Notifies p (p.postOtherThread cmd) c new := by
  intro seen
  rw [← (pending_postOtherThread_perm p cmd).mem_iff, List.mem_cons, hcmd seen]
  exact Or.comm

/-- INTERNAL: a step of a sound thread. SOURCE: RTPSession.cpp:91-145, Call.cpp:110-116 -/
theorem work_effect {d : CallId} (hstep : s.work d = some s') :
    ∃ u, s.sessions d = some u ∧ u.started = true ∧ s'.pc = s.pc ∧
      s'.sessions = Function.update s.sessions d (some u.work.1) ∧
      s'.phone.trace = s.phone.trace ∧ s'.phone.callCount = s.phone.callCount ∧
      ∀ c, Notifies s.phone s'.phone c (if c = d then u.work.2 else none) := by
  obtain ⟨u, hu, heq⟩ := Option.bind_eq_some_iff.mp hstep
  obtain ⟨hstarted, heq⟩ := Option.ite_none_right_eq_some.mp heq
  refine ⟨u, hu, hstarted, ?_⟩
  split at heq
  case h_1 hnone =>
    obtain rfl := Option.some.inj heq
    refine ⟨rfl, rfl, rfl, rfl, fun c => ?_⟩
    rw [hnone, ite_self]
    exact notifies_of_pending rfl
  case h_2 seen hseen =>
    obtain ⟨phone, hphone, rfl⟩ := Option.map_eq_some_iff.mp heq
    obtain ⟨-, heq⟩ := Option.ite_none_right_eq_some.mp hphone
    obtain rfl := Option.some.inj heq
    refine ⟨rfl, rfl, rfl, rfl, fun c => notifies_postOtherThread ?_⟩
    intro n
    rw [hseen]
    by_cases hc : c = d
    · simp [hc, eq_comm]
    · simp [hc]

/-- INTERNAL: the sound thread may be that of the call, or of another one. -/
theorem invokeStep_of_work {d : CallId} (hpc : s.pc = .playing c a mSoundsFolder sounds)
    (ht : s.sessions c = some t) (hstep : s.work d = some s') :
    InvokeStep files c a mSoundsFolder sounds t s s' ∧ s'.phone.trace = s.phone.trace ∧
      s.phone.callCount ≤ s'.phone.callCount := by
  obtain ⟨u, hu, hstarted, hpc', hsessions, htrace, hcount, hnotifies⟩ := work_effect hstep
  have hnotify := hnotifies c
  refine ⟨?_, htrace, Nat.le_of_eq hcount.symm⟩
  by_cases hc : c = d
  · subst hc
    obtain rfl := Option.some.inj (hu.symm.trans ht)
    rw [if_pos rfl] at hnotify
    refine .work hstarted (hpc'.trans hpc) ?_ hnotify
    rw [hsessions, Function.update_self]
  · rw [if_neg hc] at hnotify
    refine .other (hpc'.trans hpc) ?_ hnotify
    rw [hsessions, Function.update_of_ne hc, ht]

/-- INTERNAL: the steps that the other threads, and the sound thread of the call, can take while
the sounds are put on the queue. -/
theorem invokeStep_of_step {act : PhoneSound.Act} (hpc : s.pc = .playing c a mSoundsFolder sounds)
    (ht : s.sessions c = some t) (hlive : c < s.phone.callCount)
    (hstep : step files capacity s act = some s') :
    InvokeStep files c a mSoundsFolder sounds t s s' ∧ s'.phone.trace = s.phone.trace ∧
      s.phone.callCount ≤ s'.phone.callCount := by
  have hbusy {k : Option PhoneSound} (hidle : s.whenIdle k = some s') {P : Prop} : P := by
    rw [PhoneSound.whenIdle, hpc] at hidle
    cases hidle
  cases act with
  | phone act =>
    cases act with
    | onSoundQueueEmpty d n => cases hstep
    | newCall incomming =>
      simp only [PhoneSound.step, PhoneSound.phoneAct, phoneStep, Option.map_some,
        Option.some.injEq] at hstep
      subst hstep
      have hsession : Function.update s.sessions s.phone.callCount (some (.new capacity)) c =
          some t := by
        rw [Function.update_of_ne (Nat.ne_of_lt hlive), ht]
      exact ⟨.other hpc hsession (notifies_of_pending rfl), rfl, Nat.le_succ _⟩
    | onConnected d => exact hbusy hstep
    | onAnswer d => exact hbusy hstep
    | destroyCall d => exact hbusy hstep
    | onProvisional d => exact hbusy hstep
    | dumProcess => exact hbusy hstep
    | asyncAddAction d k =>
      obtain ⟨phone, hphone, rfl⟩ := Option.map_eq_some_iff.mp hstep
      obtain ⟨-, heq⟩ := Option.ite_none_right_eq_some.mp hphone
      obtain rfl := Option.some.inj heq
      exact ⟨.other hpc ht (notifies_postOtherThread (by simp)), rfl, Nat.le_refl _⟩
    | releaseCall d =>
      obtain ⟨phone, hphone, rfl⟩ := Option.map_eq_some_iff.mp hstep
      obtain ⟨-, heq⟩ := Option.ite_none_right_eq_some.mp hphone
      obtain rfl := Option.some.inj heq
      exact ⟨.other hpc ht (notifies_postOtherThread (by simp)), rfl, Nat.le_refl _⟩
    | dumPost =>
      obtain ⟨phone, hphone, rfl⟩ := Option.map_eq_some_iff.mp hstep
      simp only [phoneStep, Telephony.dumPost] at hphone
      split at hphone
      · cases hphone
      case h_2 cmd rest hposting =>
        obtain rfl := Option.some.inj hphone
        exact ⟨.other hpc ht (notifies_of_pending (pending_dumPost hposting)), rfl, Nat.le_refl _⟩
  | enqueueSound =>
    simp only [PhoneSound.step, PhoneSound.enqueueNext, hpc] at hstep
    split at hstep
    case h_1 d b folder sound rest heq =>
      obtain ⟨rfl, rfl, rfl, rfl⟩ : c = d ∧ a = b ∧ mSoundsFolder = folder ∧
          sounds = sound :: rest := by
        simpa using heq
      rw [ht] at hstep
      obtain rfl := Option.some.inj hstep
      exact ⟨.put sound rest rfl rfl (Function.update_self ..) (notifies_of_pending rfl), rfl,
        Nat.le_refl _⟩
    case h_2 => cases hstep
  | onDigit d => exact hbusy hstep
  | clearQueue =>
    simp only [PhoneSound.step, PhoneSound.clearNext, hpc] at hstep
    cases hstep
  | work d => exact invokeStep_of_work hpc ht hstep

/-- One of the sounds opens, and the queue has room for it. -/
def QueuesOne (files : CString → Option ℕ) (mSoundsFolder : CString) (sounds : List CString)
    (t : RTPSession) : Prop :=
  ∃ sound ∈ sounds, Opens files mSoundsFolder sound ∧ t.mSoundQueue.HasRoom

/-- INTERNAL: a notification is due from the session that the call has, or it is posted. -/
theorem notificationDue_iff (ht : s.sessions c = some t) : NotificationDue s c ↔
    SoundsLeft t ∨ ∃ seen, .NotifySoundsEmpty c seen ∈ pending s.phone := by
  unfold NotificationDue
  constructor
  · rintro (⟨u, hu, hleft⟩ | hposted)
    · obtain rfl := Option.some.inj (hu.symm.trans ht)
      exact .inl hleft
    · exact .inr hposted
  · rintro (hleft | hposted)
    · exact .inl ⟨t, ht, hleft⟩
    · exact .inr hposted

/-- INTERNAL: the session stays as it is, and no notification is posted. -/
theorem notificationDue_congr (ht : s.sessions c = some t) (ht' : s'.sessions c = some t)
    (hnotifies : Notifies s.phone s'.phone c none) :
    NotificationDue s' c ↔ NotificationDue s c := by
  rw [notificationDue_iff ht, notificationDue_iff ht']
  refine or_congr_right (exists_congr fun seen => ?_)
  rw [hnotifies seen]
  simp

/-- INTERNAL: **a step of the loop.** Whether a notification is due, or will be for a sound that
is left, stays as it is. SOURCE: PlayPhoneAction.cpp:29-44, RTPSession.cpp:91-114 -/
theorem due_invokeStep (hok : WorkerOk t) (ht : s.sessions c = some t)
    (h : InvokeStep files c a mSoundsFolder sounds t s s') :
    ∃ t' left, s'.sessions c = some t' ∧ WorkerOk t' ∧
      (s'.pc = .playing c a mSoundsFolder left ∨ s'.pc = .idle ∧ left = []) ∧
      (NotificationDue s' c ∨ QueuesOne files mSoundsFolder left t' ↔
        NotificationDue s c ∨ QueuesOne files mSoundsFolder sounds t) := by
  cases h with
  | put sound rest hsounds hpc hsession hnotifies =>
    refine ⟨_, rest, hsession, hok.enqueueSound, ?_, ?_⟩
    · rw [hpc]
      split
      case isTrue hrest => exact .inr ⟨rfl, hrest⟩
      case isFalse => exact .inl rfl
    · subst hsounds
      by_cases hput : Opens files mSoundsFolder sound ∧ t.mSoundQueue.HasRoom
      · have hleft := soundsLeft_enqueueSound (a := a) hput.1 hput.2
        have hdue := (notificationDue_iff hsession).mpr (.inl hleft)
        have hone : QueuesOne files mSoundsFolder (sound :: rest) t :=
          ⟨sound, List.mem_cons_self, hput⟩
        exact iff_of_true (.inl hdue) (.inr hone)
      · rw [enqueueSound_eq_self hput] at hsession ⊢
        refine or_congr (notificationDue_congr ht hsession hnotifies) ?_
        unfold QueuesOne
        simp only [List.mem_cons, exists_eq_or_imp, hput, false_or]
  | work hstarted hpc hsession hnotifies =>
    refine ⟨_, sounds, hsession, hok.work hstarted, .inl hpc, ?_⟩
    by_cases hleft : SoundsLeft t
    · have hdue : NotificationDue s' c := by
        apply (notificationDue_iff hsession).mpr
        rcases soundsLeft_work hok hleft with hstill | hposted
        · exact .inl hstill
        · obtain ⟨seen, hseen⟩ := Option.ne_none_iff_exists'.mp hposted
          exact .inr ⟨seen, (hnotifies seen).mpr (.inr hseen)⟩
      exact iff_of_true (.inl hdue) (.inl ((notificationDue_iff ht).mpr (.inl hleft)))
    · rw [work_of_not_soundsLeft hok hleft] at hsession hnotifies ⊢
      exact or_congr_left (notificationDue_congr ht hsession hnotifies)
  | other hpc hsession hnotifies =>
    refine ⟨t, sounds, hsession, hok, .inl hpc, ?_⟩
    exact or_congr_left (notificationDue_congr ht hsession hnotifies)

/-- INTERNAL: so it stays until `invoke` returns, when no sound is left. The induction is on the
steps of the threads. -/
theorem due_run {others : List PhoneSound.Act} (hok : WorkerOk t) (ht : s.sessions c = some t)
    (hlive : c < s.phone.callCount)
    (hpc : s.pc = .playing c a mSoundsFolder sounds ∨ s.pc = .idle ∧ sounds = [])
    (hrun : run (whileInvoked files capacity) s others = some s') (hreturns : s'.pc = .idle) :
    (NotificationDue s' c ↔ NotificationDue s c ∨ QueuesOne files mSoundsFolder sounds t) ∧
      s'.phone.trace = s.phone.trace := by
  induction others generalizing s t sounds with
  | nil =>
    obtain rfl := Option.some.inj hrun
    refine ⟨?_, rfl⟩
    rcases hpc with hplaying | ⟨-, rfl⟩
    · rw [hreturns] at hplaying
      cases hplaying
    · simp [QueuesOne]
  | cons act others ih =>
    rw [run_cons, Option.bind_eq_some_iff] at hrun
    obtain ⟨s₂, hstep, hrest⟩ := hrun
    rcases hpc with hplaying | ⟨hidle, -⟩
    · rw [whileInvoked, hplaying] at hstep
      obtain ⟨hinvoke, htrace, hcount⟩ := invokeStep_of_step hplaying ht hlive hstep
      obtain ⟨t', left, ht', hok', hpc', hdue⟩ := due_invokeStep hok ht hinvoke
      obtain ⟨hend, htrace'⟩ := ih hok' ht' (Nat.lt_of_lt_of_le hlive hcount) hpc' hrest
      exact ⟨hend.trans hdue, htrace'.trans htrace⟩
    · rw [whileInvoked, hidle] at hstep
      cases hstep

end Invoke

/-! ## The invocation -/

section Main

variable {files : CString → Option ℕ} {capacity : ℕ} {s s₁ : PhoneSound} {c : CallId}
  {a : ActionId} {mPlayString mSoundsFolder : CString}

/-- INTERNAL: an action that was not invoked has not terminated. -/
theorem AboutToPlay.not_terminated (h : AboutToPlay s c a mPlayString mSoundsFolder)
    (hok : ActionsOk s.phone) : .terminated c a ∉ s.phone.trace := by
  intro hmem
  obtain ⟨call, hcall, hcurrent⟩ := h.current
  obtain ⟨done, running, waiting, hchain⟩ := hok.chains.chain c call hcall
  have hdone : a ∈ done := by
    rw [← hchain.terminated, terminatedOn, List.mem_filterMap]
    exact ⟨_, hmem, by simp⟩
  have hhead := hchain.current
  rw [hcurrent] at hhead
  have hleft : a ∈ running.toList ++ waiting := List.mem_of_mem_head? hhead.symm
  have hnodup := hok.chains.nodup c
  rw [hchain.added] at hnodup
  exact (List.nodup_append.mp hnodup).2.2 a hdone a hleft rfl

/-- INTERNAL: the termination is recorded. -/
theorem terminated_mem_afterTermination {p : Telephony} {call : Call} {action : IPhoneAction} :
    .terminated c a ∈ (afterTermination p c call a action).trace := by
  unfold afterTermination
  split
  · simp [afterCleaning, afterFinish, Telephony.asyncRunAction, Telephony.post,
      Telephony.record, Telephony.setCall, Telephony.setAction]
  · simp [afterCleaning, afterFinish, Telephony.post, Telephony.record, Telephony.setCall,
      Telephony.setAction]

/-- INTERNAL: the command that invokes the action. SOURCE: PlayPhoneAction.cpp:17-28 -/
theorem AboutToPlay.step (h : AboutToPlay s c a mPlayString mSoundsFolder)
    (hok : ActionsOk s.phone)
    (hstep : step files capacity s (.phone .dumProcess) = some s₁) :
    s₁.sessions = s.sessions ∧
      ((SoundListParser.getSoundList mPlayString = [] ∧ s₁.pc = .idle ∧
          .terminated c a ∈ s₁.phone.trace) ∨
        (SoundListParser.getSoundList mPlayString ≠ [] ∧
          s₁.pc = .playing c a mSoundsFolder (SoundListParser.getSoundList mPlayString) ∧
          s₁.phone.trace = s.phone.trace ++ [.invoked c a] ∧ c < s₁.phone.callCount ∧
          Notifies s.phone s₁.phone c none)) := by
  obtain ⟨rest, hdum⟩ := h.run
  obtain ⟨call, hcall, hcurrent⟩ := h.current
  obtain ⟨action, hget, hinvoked, hclass⟩ := h.action
  obtain ⟨-, heq⟩ := Option.ite_none_right_eq_some.mp (whenIdle_eq_some hstep)
  obtain ⟨⟨phone, request⟩, hprocess, rfl⟩ := Option.map_eq_some_iff.mp heq
  refine ⟨rfl, ?_⟩
  obtain ⟨done, running, waiting, hchain⟩ := hok.chains.chain c call hcall
  have hrun : ({ s.phone with dum := rest } : Telephony).runAction c = some (phone, request) := by
    simpa [Telephony.dumProcess, hdum, Telephony.executeCommand] using hprocess
  have hplay := runAction_play (p := { s.phone with dum := rest }) hcall hchain hcurrent hget
    hinvoked hclass
  rw [hrun] at hplay
  split at hplay
  case isTrue hsounds =>
    obtain ⟨rfl, rfl⟩ := Prod.mk.inj (Option.some.inj hplay)
    exact .inl ⟨hsounds, rfl, terminated_mem_afterTermination⟩
  case isFalse hsounds =>
    obtain ⟨rfl, rfl⟩ := Prod.mk.inj (Option.some.inj hplay)
    refine .inr ⟨hsounds, rfl, rfl, hok.lt_of_live hcall, fun seen => ?_⟩
    have hpending : pending s.phone = .Run c :: pending { s.phone with dum := rest } := by
      simp [pending, hdum]
    rw [hpending]
    simp [pending, afterInvocation, Telephony.record, Telephony.setCall, Telephony.setAction]

end Main

/-- **A play action can end when `PlayPhoneAction::invoke` returns, exactly when its list of
sounds is empty, or the sound thread was going to notify before, or one of its sounds is a
silence or a file that opens, and the queue has room.** For every play string, every set of
files, every reachable state of all threads, and every order of their steps until `invoke`
returns. SOURCE: PlayPhoneAction.cpp:17-51, ISoundDevice.cpp:16-37, RTPSession.cpp:28-51,
91-114 -/
theorem playCanEnd_iff (files : CString → Option ℕ) (capacity : ℕ) (acts : List PhoneSound.Act)
    (s s₁ s' : PhoneSound) (hreach : run (step files capacity) PhoneSound.init acts = some s)
    (c : CallId) (a : ActionId) (mPlayString mSoundsFolder : CString)
    (habout : AboutToPlay s c a mPlayString mSoundsFolder) (t : RTPSession)
    (ht : s.sessions c = some t)
    (hinvoke : step files capacity s (.phone .dumProcess) = some s₁)
    (others : List PhoneSound.Act)
    (hothers : run (whileInvoked files capacity) s₁ others = some s')
    (hreturns : s'.pc = .idle) :
    CanEnd s' c a ↔
      SoundListParser.getSoundList mPlayString = [] ∨ NotificationDue s c ∨
        QueuesOne files mSoundsFolder (SoundListParser.getSoundList mPlayString) t := by
  have hok : SoundsOk s := run_invariant (fun s act s' h hstep => soundsOk_step h hstep)
    soundsOk_init hreach
  obtain ⟨hsessions, hempty | hplays⟩ := habout.step hok.actions hinvoke
  · obtain ⟨hsounds, hidle, hterminated⟩ := hempty
    have hnone : others = [] := by
      cases others with
      | nil => rfl
      | cons act others =>
        rw [run_cons, whileInvoked, hidle] at hothers
        cases hothers
    subst hnone
    obtain rfl := Option.some.inj hothers
    exact iff_of_true (.inl hterminated) (.inl hsounds)
  · obtain ⟨hsounds, hpc, htrace, hlive, hnotifies⟩ := hplays
    have ht₁ : s₁.sessions c = some t := hsessions ▸ ht
    obtain ⟨hdue, htrace'⟩ :=
      due_run (workerOk_run hreach ht) ht₁ hlive (.inl hpc) hothers hreturns
    have hnot : .terminated c a ∉ s'.phone.trace := by
      rw [htrace', htrace]
      simp [habout.not_terminated hok.actions]
    rw [notificationDue_congr ht ht₁ hnotifies] at hdue
    unfold CanEnd
    rw [hdue]
    simp [hnot, hsounds]

/-- An outgoing call is answered, and the next command runs its play action. -/
def answered (mPlayString : CString) : List PhoneSound.Act :=
  [.phone (.newCall false), .phone (.asyncAddAction 0 (.play mPlayString [])),
    .phone .dumProcess, .phone (.onAnswer 0), .phone .dumPost]

/-- A second of silence. SOURCE: PlayPhoneAction.cpp:17-45 -/
theorem silence_canEnd : ∃ s s₁ s',
    run (step (fun _ => none) 100) PhoneSound.init (answered "$1".toList) = some s ∧
      step (fun _ => none) 100 s (.phone .dumProcess) = some s₁ ∧
      run (whileInvoked (fun _ => none) 100) s₁ [.enqueueSound] = some s' ∧ CanEnd s' 0 0 := by
  refine ⟨_, _, _, rfl, rfl, rfl, ?_⟩
  refine (playCanEnd_iff (fun _ => none) 100 (answered "$1".toList) _ _ _ rfl 0 0 "$1".toList []
    ⟨⟨[], rfl⟩, ⟨_, rfl, rfl⟩, ⟨_, rfl, rfl, rfl⟩⟩ _ rfl rfl [.enqueueSound] rfl rfl).mpr ?_
  exact .inr (.inr ⟨"$1".toList, List.mem_singleton.mpr rfl, trivial, by decide⟩)

/-- A sound without a file: `invoke` returns, the action has not terminated and nothing will
end it. SOURCE: PlayPhoneAction.cpp:29-44, ISoundDevice.cpp:25-37 -/
theorem missingFile_cannotEnd : ∃ s s₁ s',
    run (step (fun _ => none) 100) PhoneSound.init (answered "a".toList) = some s ∧
      AboutToPlay s 0 0 "a".toList [] ∧
      step (fun _ => none) 100 s (.phone .dumProcess) = some s₁ ∧
      run (whileInvoked (fun _ => none) 100) s₁ [.enqueueSound] = some s' ∧ s'.pc = .idle ∧
      ¬ CanEnd s' 0 0 := by
  refine ⟨_, _, _, rfl, ⟨⟨[], rfl⟩, ⟨_, rfl, rfl⟩, ⟨_, rfl, rfl, rfl⟩⟩, rfl, rfl, rfl, ?_⟩
  rintro (hterminated | ⟨t, ht, hleft⟩ | ⟨seen, hposted⟩)
  · revert hterminated
    decide
  · obtain rfl := Option.some.inj ht
    rcases hleft with hitems | hcurrent | hempty
    · exact hitems rfl
    · exact hcurrent rfl
    · cases hempty
  · cases hposted

end Dhas.Analysis.PlayEnds
