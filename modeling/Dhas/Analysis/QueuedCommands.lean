import Dhas.Analysis.ActionChains

/-!
# Commands for destroyed calls

An `Add`, a `Run` and a `NotifySoundsEmpty` hold a plain pointer to their call, where the
`End` command holds a handle that it checks. Such a command reaches a destroyed call when
the stack destroys the call while the command waits, or when a thread that still knows the
pointer posts it later; nothing else leads there.

Whether a command reaches a destroyed call shows when it is executed, so the property of a
state looks at the queue being worked off from there.
-/

set_option autoImplicit false

namespace Dhas.Analysis

open Dhas.Library Dhas.Program Dhas.Model

/-- When the next command is executed, the call that it was created with exists. -/
def NextReachesLive (p : Telephony) : Prop :=
  p.posting = [] → ∀ cmd rest, p.dum = cmd :: rest → ∀ c, commandUses cmd = some c →
    p.calls c ≠ none

/-- Steps that only work off the queue. -/
def WorksOff (acts : List PhoneAct) : Prop := ∀ act ∈ acts, act = .dumPost ∨ act = .dumProcess

/-- However far the queue is worked off, no command reaches a destroyed call. -/
def NoneReachesDestroyed (p : Telephony) : Prop :=
  ∀ acts, WorksOff acts → Throughout phoneStep NextReachesLive p acts

/-- A waiting command uses the call. -/
def Uses (p : Telephony) (c : CallId) : Prop := ∃ cmd ∈ pending p, commandUses cmd = some c

/-- What a step must meet: a command is posted for a call that exists, and a call is
destroyed when no waiting command uses it. -/
def KeepsTargets (p : Telephony) : PhoneAct → Prop
  | .asyncAddAction c _ => p.calls c ≠ none
  | .onSoundQueueEmpty c _ => p.calls c ≠ none
  | .destroyCall c => ¬ Uses p c
  | _ => True

/-- The calls that waiting commands use exist. -/
def TargetsLive (p : Telephony) : Prop := ∀ c, Uses p c → p.calls c ≠ none

/-! ## What is posted -/

/-- The commands that were posted use existing calls, and no call has come or gone. -/
structure Posts (p p' : Telephony) : Prop where
  posted : ∃ new, pending p' = pending p ++ new ∧
    ∀ cmd ∈ new, ∀ c, commandUses cmd = some c → p.calls c ≠ none
  calls : ∀ c, p'.calls c = none ↔ p.calls c = none

section Posts

variable {p p' p'' : Telephony} {c : CallId} {call : Call} {a : ActionId} {action : IPhoneAction}
  {request : Option SoundRequest}

/-- INTERNAL: nothing is posted. -/
theorem Posts.refl (p : Telephony) : Posts p p :=
  ⟨⟨[], by simp, by simp⟩, fun _ => Iff.rfl⟩

/-- INTERNAL: what two steps post, one after the other. -/
theorem Posts.trans (h : Posts p p') (h' : Posts p' p'') : Posts p p'' := by
  obtain ⟨new, hnew, hlive⟩ := h.posted
  obtain ⟨new', hnew', hlive'⟩ := h'.posted
  refine ⟨⟨new ++ new', by rw [hnew', hnew, List.append_assoc], ?_⟩,
    fun c => (h'.calls c).trans (h.calls c)⟩
  intro cmd hcmd c huses
  rcases List.mem_append.mp hcmd with hcmd | hcmd
  · exact hlive cmd hcmd c huses
  · exact fun hnone => hlive' cmd hcmd c huses ((h.calls c).mpr hnone)

/-- INTERNAL: a live call is changed, and nothing is posted. -/
theorem posts_setCall {call' : Call} (hcall : p.calls c = some call)
    (hpending : pending p' = pending p)
    (hcalls : p'.calls = Function.update p.calls c (some call')) : Posts p p' := by
  refine ⟨⟨[], by simp [hpending], by simp⟩, fun d => ?_⟩
  rw [hcalls]
  by_cases hdc : d = c
  · subst hdc
    simp [hcall]
  · rw [Function.update_of_ne hdc]

/-- INTERNAL: one command is posted, for a call that exists. -/
theorem posts_post {cmd : DumCommand} (h : ∀ c, commandUses cmd = some c → p.calls c ≠ none) :
    Posts p (p.post cmd) := by
  refine ⟨⟨[cmd], by simp [pending, Telephony.post], ?_⟩, fun _ => Iff.rfl⟩
  intro other hother
  obtain rfl := List.mem_singleton.mp hother
  exact h

/-- INTERNAL: cleaning an action posts its deletion, which uses no call. -/
theorem posts_afterCleaning : Posts p (afterCleaning p c a) :=
  ⟨⟨[.Delete c a], by
    simp [pending, afterCleaning, Telephony.record, Telephony.post, Telephony.setAction], by
    simp [commandUses]⟩, fun _ => Iff.rfl⟩

/-- INTERNAL: the termination of an action posts at most a `Run` for its own call. -/
theorem posts_afterTermination (hcall : p.calls c = some call) :
    Posts p (afterTermination p c call a action) := by
  have hfinish : Posts p (afterFinish p c call a action) := posts_setCall hcall rfl rfl
  have hclean := hfinish.trans (posts_afterCleaning (c := c) (a := a))
  unfold afterTermination
  split
  · refine hclean.trans (posts_post fun d huses => ?_)
    obtain rfl : c = d := Option.some.inj huses
    intro hnone
    have hc := (hclean.calls c).mp hnone
    rw [hcall] at hc
    cases hc
  · exact hclean

/-- INTERNAL: an invocation posts nothing, and the call stays. -/
theorem posts_afterInvocation {observers : List ActionId} (hcall : p.calls c = some call) :
    Posts p (afterInvocation p c call a action observers) :=
  posts_setCall hcall rfl rfl

/-- INTERNAL: what an `Add` posts is for its own call. -/
theorem AddEffect.posts (h : AddEffect p c call a p') (hcall : p.calls c = some call) :
    Posts p p' := by
  cases h with
  | answered hcurrent hans =>
    have hset : Posts p ((p.record (.added c a)).setCall c
        (some { call with mpCurrentAction := some a })) := posts_setCall hcall rfl rfl
    refine hset.trans (posts_post fun d huses => ?_)
    obtain rfl : c = d := Option.some.inj huses
    simp [Telephony.setCall]
  | early hcurrent hans => exact posts_setCall hcall rfl rfl
  | linked done running waiting z last hchain hz hlast =>
    exact ⟨⟨[], by simp [pending, Telephony.record, Telephony.setAction], by simp⟩,
      fun _ => Iff.rfl⟩

/-- INTERNAL: what a `Run` posts is for its own call. -/
theorem RunEffect.posts (h : RunEffect p c call p' request) (hcall : p.calls c = some call) :
    Posts p p' := by
  cases h with
  | idle hidle => exact .refl p
  | ends a action hcurrent hget hinv =>
    exact (posts_afterInvocation hcall).trans (posts_post fun d huses => by cases huses)
  | silent a action play folder hcurrent hget hinv hplay hsounds =>
    exact (posts_afterInvocation hcall).trans (posts_afterTermination (Function.update_self ..))
  | plays a action play folder hcurrent hget hinv hplay hsounds =>
    exact posts_afterInvocation hcall

/-- INTERNAL: what a command posts uses its own call, which exists while it is executed.
SOURCE: AppDialogSetActionCommand.cpp:16-38, AppDialogSetNotifySoundsEmptyCommand.cpp:11-14 -/
theorem CommandEffect.posts {cmd : DumCommand} (h : CommandEffect p cmd p' request) :
    Posts p p' := by
  cases h with
  | add hcall heff => exact heff.posts hcall
  | run hcall heff => exact heff.posts hcall
  | delete hget hclean =>
    exact ⟨⟨[], by simp [pending, Telephony.record, Telephony.setAction], by simp⟩,
      fun _ => Iff.rfl⟩
  | notify hcall heff =>
    cases heff with
    | unheard hobs => exact .refl p
    | ends a action done waiting hchain hobs hget => exact posts_afterTermination hcall
  | finish => exact .refl p

/-- INTERNAL: the actions of a call that is destroyed post their Deletes only. -/
theorem posts_afterCleaningAll (l : List ActionId) : Posts p (afterCleaningAll p c l) := by
  induction l generalizing p with
  | nil => exact .refl p
  | cons a l ih => exact (posts_afterCleaning (c := c) (a := a)).trans ih

/-- INTERNAL: new commands for existing calls leave the targets live. -/
theorem TargetsLive.posts (h : TargetsLive p) (hposts : Posts p p') : TargetsLive p' := by
  rintro c ⟨cmd, hcmd, huses⟩ hnone
  obtain ⟨new, hnew, hlive⟩ := hposts.posted
  rw [hnew] at hcmd
  have hc := (hposts.calls c).mp hnone
  rcases List.mem_append.mp hcmd with hcmd | hcmd
  · exact h c ⟨cmd, hcmd, huses⟩ hc
  · exact hlive cmd hcmd c huses hc

end Posts

/-! ## One step -/

section Step

variable {p p' : Telephony} {act : PhoneAct}

/-- INTERNAL: another thread posts a command. -/
theorem uses_postOtherThread {cmd : DumCommand} {c : CallId} :
    Uses (p.postOtherThread cmd) c ↔ Uses p c ∨ commandUses cmd = some c := by
  have hmem (x : DumCommand) : x ∈ pending (p.postOtherThread cmd) ↔ x ∈ pending p ∨ x = cmd := by
    simp only [pending, Telephony.postOtherThread, List.mem_append, List.mem_singleton]
    tauto
  constructor
  · rintro ⟨x, hx, huses⟩
    rcases (hmem x).mp hx with hx | rfl
    · exact .inl ⟨x, hx, huses⟩
    · exact .inr huses
  · rintro (⟨x, hx, huses⟩ | huses)
    · exact ⟨x, (hmem x).mpr (.inl hx), huses⟩
    · exact ⟨cmd, (hmem cmd).mpr (.inr rfl), huses⟩

/-- INTERNAL: after a command was posted by another thread, the targets are live exactly when
they were and the new one is. -/
theorem targetsLive_postOtherThread {cmd : DumCommand} :
    TargetsLive (p.postOtherThread cmd) ↔
      TargetsLive p ∧ ∀ c, commandUses cmd = some c → p.calls c ≠ none := by
  constructor
  · intro h
    exact ⟨fun c huses => h c (uses_postOtherThread.mpr (.inl huses)),
      fun c huses => h c (uses_postOtherThread.mpr (.inr huses))⟩
  · rintro ⟨h, hnew⟩ c huses
    rcases uses_postOtherThread.mp huses with huses | huses
    · exact h c huses
    · exact hnew c huses

/-- INTERNAL: a command that uses one call. -/
theorem targetsLive_postOtherThread_of_uses {cmd : DumCommand} {c : CallId} (h : TargetsLive p)
    (huses : commandUses cmd = some c) :
    TargetsLive (p.postOtherThread cmd) ↔ p.calls c ≠ none := by
  rw [targetsLive_postOtherThread, and_iff_right h]
  constructor
  · intro hlive
    exact hlive c huses
  · intro hlive d hd
    obtain rfl : c = d := Option.some.inj (huses.symm.trans hd)
    exact hlive

/-- INTERNAL: **one step from a state with live targets leads to such a state again exactly
when it keeps the targets.** SOURCE: ActionMachine.cpp:17-66, Call.cpp:20-29, 110-116 -/
theorem targetsLive_step (hok : ActionsOk p) (h : TargetsLive p)
    (hstep : phoneStep p act = some p') : TargetsLive p' ↔ KeepsTargets p act := by
  cases phoneStep_cases hok hstep with
  | @asyncAddAction c k hc => exact targetsLive_postOtherThread_of_uses h rfl
  | releaseCall hc =>
    exact iff_of_true (targetsLive_postOtherThread.mpr ⟨h, fun d huses => by cases huses⟩) trivial
  | @onSoundQueueEmpty c seen hc => exact targetsLive_postOtherThread_of_uses h rfl
  | newCall incomming =>
    refine iff_of_true (fun c huses => ?_) trivial
    by_cases hc : c = p.callCount
    · subst hc
      simp [Telephony.newCall, Telephony.setCall]
    · have hsame : (p.newCall incomming).calls c = p.calls c := Function.update_of_ne hc _ _
      rw [hsame]
      exact h c huses
  | ringing hcall hinitial => exact iff_of_true (h.posts (posts_setCall hcall rfl rfl)) trivial
  | notInitial => exact iff_of_true h trivial
  | connected hcall => exact iff_of_true (h.posts (posts_setCall hcall rfl rfl)) trivial
  | @answered c call hcall =>
    have hset : Posts p (p.setCall c (some { call with mCallState := .Answered })) :=
      posts_setCall hcall rfl rfl
    refine iff_of_true (h.posts (hset.trans (posts_post fun d huses => ?_))) trivial
    obtain rfl : c = d := Option.some.inj huses
    simp [Telephony.setCall]
  | dumPost hposting =>
    refine iff_of_true (fun c huses => h c ?_) trivial
    rwa [Uses, pending_dumPost hposting] at huses
  | @dumProcess first rest p' request hdum heff =>
    have hpending : pending p = first :: pending { p with dum := rest } := by
      simp [pending, hdum]
    have hpop : TargetsLive { p with dum := rest } := by
      rintro c ⟨cmd, hcmd, huses⟩
      exact h c ⟨cmd, hpending ▸ List.mem_cons_of_mem first hcmd, huses⟩
    exact iff_of_true (hpop.posts heff.posts) trivial
  | @destroyed c call done running waiting hcall hchain =>
    have hposts := posts_afterCleaningAll (p := p.setCall c none) (c := c) (running.toList ++ waiting)
    have hnone : (afterCleaningAll (p.setCall c none) c (running.toList ++ waiting)).calls c = none :=
      (hposts.calls c).mpr (Function.update_self ..)
    constructor
    · rintro hlive ⟨cmd, hcmd, huses⟩
      obtain ⟨new, hnew, -⟩ := hposts.posted
      exact hlive c ⟨cmd, hnew ▸ List.mem_append_left _ hcmd, huses⟩ hnone
    · intro hkeep
      refine TargetsLive.posts (fun d huses => ?_) hposts
      have hdc : d ≠ c := by
        rintro rfl
        exact hkeep huses
      have hsame : (p.setCall c none).calls d = p.calls d := Function.update_of_ne hdc _ _
      rw [hsame]
      exact h d huses

/-- INTERNAL: at first no command waits. -/
theorem targetsLive_init : TargetsLive Telephony.init := by
  rintro c ⟨cmd, hcmd, -⟩
  cases hcmd

/-! ## Working off the queue -/

/-- INTERNAL: the steps that work off the queue keep the targets. -/
theorem keepsTargets_of_worksOff (h : act = .dumPost ∨ act = .dumProcess) : KeepsTargets p act := by
  rcases h with rfl | rfl <;> trivial

/-- INTERNAL: the next command is one of those that wait. -/
theorem TargetsLive.nextReachesLive (h : TargetsLive p) : NextReachesLive p := by
  intro hposting cmd rest hdum c huses
  exact h c ⟨cmd, by simp [pending, hdum], huses⟩

/-- INTERNAL: live targets stay live while the queue is worked off. -/
theorem TargetsLive.noneReachesDestroyed (hok : ActionsOk p) (h : TargetsLive p) :
    NoneReachesDestroyed p := by
  intro acts hacts
  induction acts generalizing p with
  | nil => exact h.nextReachesLive
  | cons act acts ih =>
    refine ⟨h.nextReachesLive, fun p' hstep => ?_⟩
    have hkeep := keepsTargets_of_worksOff (p := p) (hacts act List.mem_cons_self)
    exact ih (actionsOk_step hok hstep) ((targetsLive_step hok h hstep).mpr hkeep)
      fun other hother => hacts other (List.mem_cons_of_mem act hother)

/-- INTERNAL: what holds however far the queue is worked off holds after a step of it. -/
theorem NoneReachesDestroyed.step (h : NoneReachesDestroyed p)
    (hact : act = .dumPost ∨ act = .dumProcess) (hstep : phoneStep p act = some p') :
    NoneReachesDestroyed p' := by
  intro acts hacts
  refine (h (act :: acts) fun other hother => ?_).2 p' hstep
  rcases List.mem_cons.mp hother with rfl | hother
  · exact hact
  · exact hacts other hother

/-- INTERNAL: all that was posted reaches the queue. The induction is on what was posted. -/
theorem NoneReachesDestroyed.afterPosts (hok : ActionsOk p) (h : NoneReachesDestroyed p) :
    ∃ p', ActionsOk p' ∧ NoneReachesDestroyed p' ∧ p'.posting = [] ∧ pending p' = pending p ∧
      p'.calls = p.calls := by
  generalize hposting : p.posting = posting
  induction posting generalizing p with
  | nil => exact ⟨p, hok, h, hposting, rfl, rfl⟩
  | cons cmd rest ih =>
    have hstep : phoneStep p .dumPost = some { p with dum := p.dum ++ [cmd], posting := rest } := by
      simp [phoneStep, Telephony.dumPost, hposting]
    obtain ⟨p', hok', h', hnil, hpending, hcalls⟩ :=
      ih (actionsOk_step hok hstep) (h.step (.inl rfl) hstep) rfl
    exact ⟨p', hok', h', hnil, hpending.trans (pending_dumPost hposting), hcalls⟩

/-- INTERNAL: when no command reaches a destroyed call, the targets are live. The induction
is on the place of the command in the queue. -/
theorem NoneReachesDestroyed.targetsLive (hok : ActionsOk p) (h : NoneReachesDestroyed p) :
    TargetsLive p := by
  suffices hall : ∀ n p, ActionsOk p → NoneReachesDestroyed p → ∀ cmd c,
      (pending p)[n]? = some cmd → commandUses cmd = some c → p.calls c ≠ none by
    rintro c ⟨cmd, hcmd, huses⟩
    obtain ⟨n, hn⟩ := List.mem_iff_getElem?.mp hcmd
    exact hall n p hok h cmd c hn huses
  intro n
  induction n with
  | zero =>
    intro p hok h cmd c hn huses
    obtain ⟨q, -, hq, hnil, hpending, hcalls⟩ := h.afterPosts hok
    rw [← hpending, pending, hnil, List.append_nil, ← List.head?_eq_getElem?] at hn
    obtain ⟨rest, hdum⟩ := List.head?_eq_some_iff.mp hn
    have hnext : NextReachesLive q := hq [] (by simp [WorksOff])
    exact hcalls ▸ hnext hnil cmd rest hdum c huses
  | succ n ih =>
    intro p hok h cmd c hn huses
    obtain ⟨q, hqok, hq, hnil, hpending, hcalls⟩ := h.afterPosts hok
    rw [← hcalls]
    rw [← hpending] at hn
    have hdumq : pending q = q.dum := by simp [pending, hnil]
    cases hdum : q.dum with
    | nil => simp [hdumq, hdum] at hn
    | cons first rest =>
      have hnext : NextReachesLive q := hq [] (by simp [WorksOff])
      obtain ⟨q', request, hprocess, heff⟩ :=
        dumProcess_eq hqok hdum (hnext hnil first rest hdum)
      have hstep : phoneStep q .dumProcess = some q' := by simp [phoneStep, hnil, hprocess]
      obtain ⟨new, hnew, -⟩ := heff.posts.posted
      have hrest : pending { q with dum := rest } = rest := by simp [pending, hnil]
      have hlt : n < rest.length := by
        have := (List.getElem?_eq_some_iff.mp hn).1
        simpa [hdumq, hdum] using this
      have hn' : (pending q')[n]? = some cmd := by
        rw [hnew, hrest, List.getElem?_append_left hlt]
        simpa [hdumq, hdum] using hn
      have hlive := ih q' (actionsOk_step hqok hstep) (hq.step (.inr rfl) hstep) cmd c hn' huses
      exact fun hnone => hlive ((heff.posts.calls c).mpr hnone)

end Step

/-- **No queued command reaches a destroyed call, however the queue is worked off, exactly
in the runs in which commands are posted for existing calls only, and a call is destroyed
when no waiting command uses it.** SOURCE: AppDialogSetActionCommand.cpp:8-38,
AppDialogSetNotifySoundsEmptyCommand.cpp:7-14, ActionMachine.cpp:17-66, Call.cpp:20-29 -/
theorem noneReachesDestroyed_iff (acts : List PhoneAct) :
    Throughout phoneStep NoneReachesDestroyed Telephony.init acts ↔
      Along phoneStep KeepsTargets Telephony.init acts := by
  refine throughout_iff_along (I := fun p => ActionsOk p ∧ TargetsLive p) ?_ ?_ ?_ ?_
  · exact fun p h => h.2.noneReachesDestroyed h.1
  · exact fun p act p' h hC hstep =>
      ⟨actionsOk_step h.1 hstep, (targetsLive_step h.1 h.2 hstep).mpr hC⟩
  · exact fun p act p' h hstep hP =>
      (targetsLive_step h.1 h.2 hstep).mp (hP.targetsLive (actionsOk_step h.1 hstep))
  · exact ⟨actionsOk_init, targetsLive_init⟩

/-- `/phone/call` with a play string, and the remote side hangs up before the command for
the sound is executed. -/
def hangUpBeforeAdd : List PhoneAct :=
  [.newCall false, .asyncAddAction 0 (.play "hello".toList []), .destroyCall 0]

/-- The `Add` command is executed with a call that is gone.
SOURCE: AppDialogSetActionCommand.cpp:21-25 -/
theorem hangUpBeforeAdd_reaches_destroyed :
    ¬ Throughout phoneStep NoneReachesDestroyed Telephony.init hangUpBeforeAdd := by
  intro h
  have hend : NoneReachesDestroyed _ := h.last rfl
  have hnext : NextReachesLive _ := hend [] (by simp [WorksOff])
  exact hnext rfl _ _ rfl 0 rfl rfl

end Dhas.Analysis
