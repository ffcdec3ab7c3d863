import Dhas.Analysis.CommandEffects

/-!
# Chains of actions run in order, and every action is freed once

`ActionsOk` holds of every state that the threads can reach, whatever the order of their
steps. From it: the actions of a call are invoked in the order in which they were added, each
once and only after the one before it has terminated; an action has one `Delete` posted; and
an action that was freed is found neither in a chain nor among the observers of a call. No
command fails but one that names a call that was destroyed.
-/

set_option autoImplicit false

namespace Dhas.Analysis

open Dhas.Library Dhas.Program Dhas.Model

section Moves

variable {p p' : Telephony} {c : CallId} {call call' : Call} {a : ActionId} {action : IPhoneAction}

/-! ## Steps that leave the actions alone -/

/-- INTERNAL: the number of a live call is below the count. -/
theorem ActionsOk.lt_of_live (h : ActionsOk p) (hcall : p.calls c = some call) :
    c < p.callCount := by
  by_contra hge
  have hnone := (h.chains.named c (Nat.le_of_not_lt hge)).1
  rw [hcall] at hnone
  cases hnone

/-- INTERNAL: a command that this thread posts is one more that is pending. -/
theorem pending_post_perm (p : Telephony) (cmd : DumCommand) :
    (cmd :: pending p).Perm (pending (p.post cmd)) := by
  have h : pending (p.post cmd) = pending p ++ [cmd] := by simp [pending, Telephony.post]
  rw [h]
  exact (List.perm_append_singleton cmd (pending p)).symm

/-- INTERNAL: a command that another thread posts is one more that is pending. -/
theorem pending_postOtherThread_perm (p : Telephony) (cmd : DumCommand) :
    (cmd :: pending p).Perm (pending (p.postOtherThread cmd)) := by
  have h : pending (p.postOtherThread cmd) = p.dum ++ cmd :: p.posting := by
    simp [pending, Telephony.postOtherThread]
  rw [h]
  exact List.perm_middle.symm

/-- INTERNAL: another command than an Add or a Delete is posted by this thread. -/
theorem ActionsOk.post {cmd : DumCommand} (h : ActionsOk p) (hcall : commandCall cmd < p.callCount)
    (hadd : ∀ c a, cmd ≠ .Add c a) (hdelete : ∀ c a, cmd ≠ .Delete c a) :
    ActionsOk (p.post cmd) where
  chains := h.chains
  memory := h.memory
  commands := (h.commands.cons cmd hcall (fun c a heq => absurd heq (hadd c a))
    fun c a heq => absurd heq (hdelete c a)).perm (pending_post_perm p cmd)

/-- INTERNAL: another command than an Add or a Delete is posted by another thread. -/
theorem ActionsOk.postOtherThread {cmd : DumCommand} (h : ActionsOk p)
    (hcall : commandCall cmd < p.callCount) (hadd : ∀ c a, cmd ≠ .Add c a)
    (hdelete : ∀ c a, cmd ≠ .Delete c a) : ActionsOk (p.postOtherThread cmd) where
  chains := h.chains
  memory := h.memory
  commands := (h.commands.cons cmd hcall (fun c a heq => absurd heq (hadd c a))
    fun c a heq => absurd heq (hdelete c a)).perm (pending_postOtherThread_perm p cmd)

/-- INTERNAL: a call is told to run its next action. -/
theorem ActionsOk.asyncRunAction (h : ActionsOk p) (hcall : p.calls c = some call) :
    ActionsOk (p.asyncRunAction c) := by
  refine h.post (h.lt_of_live hcall) ?_ ?_
  · intro d b heq
    cases heq
  · intro d b heq
    cases heq

/-- INTERNAL: a command that reaches the queue of the dialog manager is still pending. -/
theorem pending_dumPost {cmd : DumCommand} {rest : List DumCommand}
    (hposting : p.posting = cmd :: rest) :
    pending { p with dum := p.dum ++ [cmd], posting := rest } = pending p := by
  simp [pending, hposting]

/-- INTERNAL: a posted command reaches the queue of the dialog manager. -/
theorem ActionsOk.dumPost {cmd : DumCommand} {rest : List DumCommand} (h : ActionsOk p)
    (hposting : p.posting = cmd :: rest) :
    ActionsOk { p with dum := p.dum ++ [cmd], posting := rest } where
  chains := h.chains
  memory := h.memory
  commands := (pending_dumPost hposting).symm ▸ h.commands

/-- INTERNAL: a call is created, without an action. -/
theorem ActionsOk.newCall (h : ActionsOk p) (incomming : Bool) :
    ActionsOk (p.newCall incomming) where
  chains := h.chains.newCall incomming
  memory := h.memory
  commands := h.commands.frame (Nat.le_succ _) (fun _ _ _ hfresh => hfresh) fun _ _ _ hc => hc

/-- INTERNAL: a call changes, its actions and observers do not. -/
theorem ActionsOk.setState (h : ActionsOk p) (hcall : p.calls c = some call)
    (hcurrent : call'.mpCurrentAction = call.mpCurrentAction)
    (hobs : call'.mRtpObservers = call.mRtpObservers) :
    ActionsOk (p.setCall c (some call')) where
  chains := h.chains.setState hcall hcurrent hobs
  memory := h.memory
  commands := h.commands

/-! ## A new action -/

/-- INTERNAL: an action is created, and its Add is posted.
SOURCE: ActionMachine.cpp:17-22 -/
theorem ActionsOk.asyncAddAction (h : ActionsOk p) (hc : c < p.callCount)
    (actionClass : PhoneActionClass) : ActionsOk (p.asyncAddAction c actionClass) := by
  have hfree : p.actions p.allocated = none := h.memory.unallocated _ (Nat.le_refl _)
  have hkeep (a : ActionId) (action : IPhoneAction) (hget : p.actions a = some action) :
      Function.update p.actions p.allocated (some (IPhoneAction.new actionClass)) a =
        some action := by
    rw [Function.update_of_ne (Nat.ne_of_lt (h.memory.lt_of_get hget)), hget]
  refine ⟨?_, h.memory.alloc _, ?_⟩
  · apply h.chains.frame
    intro d other done running waiting hd hchain a ha
    obtain ⟨invoked, action, hget, -⟩ := hchain.held ha
    exact (hkeep a action hget).trans hget.symm
  · have hold : PendingOk
        (Function.update p.actions p.allocated (some (IPhoneAction.new actionClass))) p.trace
        p.callCount (pending p) := h.commands.frame (Nat.le_refl p.callCount)
      (fun _ a _ ⟨⟨k, hget⟩, hadded⟩ => ⟨⟨k, hkeep a _ hget⟩, hadded⟩)
      (fun _ a _ ⟨action, hget, hclean⟩ => ⟨action, hkeep a _ hget, hclean⟩)
    have hfresh : Fresh (Function.update p.actions p.allocated (some (IPhoneAction.new actionClass)))
        p.trace p.allocated := by
      refine ⟨⟨actionClass, Function.update_self ..⟩, fun d hd => ?_⟩
      exact Nat.lt_irrefl _ (h.memory.added d _ hd)
    have hnew (d : CallId) : .Add d p.allocated ∉ pending p := by
      intro hmem
      obtain ⟨⟨k, hget⟩, -⟩ := h.commands.adds d _ hmem
      rw [hfree] at hget
      cases hget
    refine (hold.cons (.Add c p.allocated) hc (fun d b heq => ?_) fun d b heq => ?_).perm
      (pending_postOtherThread_perm _ _)
    · cases heq
      exact ⟨hfresh, hnew⟩
    · cases heq

/-- INTERNAL: a pending `Add` does not see what is added by another one. -/
theorem ActionsOk.not_added (h : ActionsOk p) (hnew : ∀ d, .Add d a ∉ pending p) {d : CallId}
    {b : ActionId} (hb : .Add d b ∈ pending p) (e : CallId) :
    b ∉ addedTo e (p.trace ++ [.added c a]) := by
  rw [addedTo_concat, addedTo_singleton, List.mem_append]
  rintro (hmem | hmem)
  · exact (h.commands.adds d b hb).2 e hmem
  · have hba : b = a := by
      by_cases hce : c = e <;> simp [hce] at hmem
      exact hmem
    exact hnew d (hba ▸ hb)

/-- INTERNAL: an action is added to a call without actions.
SOURCE: Call.cpp:77-85 -/
theorem ActionsOk.addFirst (h : ActionsOk p) (hcall : p.calls c = some call)
    (hcurrent : call.mpCurrentAction = none) (hfresh : Fresh p.actions p.trace a)
    (hnew : ∀ d, .Add d a ∉ pending p) :
    ActionsOk ((p.record (.added c a)).setCall c
      (some { call with mpCurrentAction := some a })) := by
  obtain ⟨⟨k, hget⟩, hadded⟩ := hfresh
  refine ⟨h.chains.addFirst hcall hcurrent hget rfl rfl rfl hadded, h.memory.recordAdded hget, ?_⟩
  exact h.commands.frame (Nat.le_refl _) (fun d b hb hf => ⟨hf.1, h.not_added hnew hb⟩)
    fun _ _ _ hc => hc

/-- INTERNAL: what an Add does.
SOURCE: ActionMachine.cpp:69-75 -/
theorem AddEffect.ok (h : ActionsOk p) (hcall : p.calls c = some call)
    (hfresh : Fresh p.actions p.trace a) (hnew : ∀ d, .Add d a ∉ pending p)
    (heff : AddEffect p c call a p') : ActionsOk p' := by
  cases heff with
  | early hcurrent => exact h.addFirst hcall hcurrent hfresh hnew
  | answered hcurrent =>
    exact (h.addFirst hcall hcurrent hfresh hnew).asyncRunAction (Function.update_self ..)
  | linked done running waiting z last hchain hz hlast =>
    obtain ⟨⟨k, hget⟩, hadded⟩ := hfresh
    refine ⟨h.chains.addLast hcall hchain hz hlast hget rfl rfl rfl hadded,
      (h.memory.recordAdded hget).update hlast id id, ?_⟩
    have hzadded : z ∈ addedTo c p.trace := hchain.mem_added (List.mem_of_getLast? hz)
    apply h.commands.frame (Nat.le_refl _)
    · rintro d b hb ⟨⟨k', hb'⟩, hnot⟩
      have hbz : b ≠ z := fun heq => hnot c (heq ▸ hzadded)
      exact ⟨⟨k', (Function.update_of_ne hbz _ _).trans hb'⟩, h.not_added hnew hb⟩
    · rintro d b - ⟨cell, hcell, hclean⟩
      by_cases hbz : b = z
      · subst hbz
        obtain rfl := Option.some.inj (hcell.symm.trans hlast)
        exact ⟨_, Function.update_self .., hclean⟩
      · exact ⟨cell, (Function.update_of_ne hbz _ _).trans hcell, hclean⟩

/-! ## The end of an action -/

/-- INTERNAL: an action that no call holds any more is cleaned, and its Delete is posted.
SOURCE: ActionMachine.cpp:24-35 -/
theorem ActionsOk.clean (h : ActionsOk p) (hc : c < p.callCount)
    (hget : p.actions a = some action) (hclean : action.mCleaned = false)
    (hadded : ∃ d, a ∈ addedTo d p.trace)
    (hout : ∀ d other, p.calls d = some other → a ∈ addedTo d p.trace →
      a ∈ terminatedOn d p.trace) : ActionsOk (afterCleaning p c a) := by
  have hheap : (afterCleaning p c a).actions =
      Function.update p.actions a (some { action with mCleaned := true }) := by
    simp [afterCleaning, Telephony.record, Telephony.post, Telephony.setAction, hget]
  refine ⟨?_, ?_, ?_⟩
  · rw [hheap]
    refine (h.chains.frame fun d other done running waiting hd hchain b hb => ?_).record _ ?_ ?_ ?_
      trivial
    · have hba : b ≠ a := by
        rintro rfl
        exact h.chains.not_mem_of_out hout hd hchain hb
      exact Function.update_of_ne hba _ _
    · exact fun _ => rfl
    · exact fun _ => rfl
    · exact fun _ => rfl
  · rw [hheap]
    exact h.memory.clean hget hclean
  · rw [hheap]
    have hold : PendingOk (Function.update p.actions a (some { action with mCleaned := true }))
        (p.trace ++ [.deletePosted a]) p.callCount (pending p) :=
      h.commands.frame (Nat.le_refl p.callCount) ?_ ?_
    · have hnew (d : CallId) : .Delete d a ∉ pending p := by
        intro hd
        obtain ⟨cell, hcell, htrue⟩ := h.commands.deletes d a hd
        rw [hget] at hcell
        obtain rfl := Option.some.inj hcell
        rw [hclean] at htrue
        cases htrue
      refine (hold.cons (.Delete c a) hc (fun d b heq => ?_) fun d b heq => ?_).perm
        (pending_post_perm _ _)
      · cases heq
      · cases heq
        exact ⟨⟨_, Function.update_self .., rfl⟩, hnew⟩
    · rintro d b - ⟨⟨k, hb⟩, hnot⟩
      obtain ⟨e, he⟩ := hadded
      have hba : b ≠ a := fun heq => hnot e (heq ▸ he)
      refine ⟨⟨k, (Function.update_of_ne hba _ _).trans hb⟩, fun e => ?_⟩
      simpa [addedTo_singleton] using hnot e
    · rintro d b - ⟨cell, hcell, htrue⟩
      by_cases hba : b = a
      · exact ⟨_, by rw [hba, Function.update_self], rfl⟩
      · exact ⟨cell, (Function.update_of_ne hba _ _).trans hcell, htrue⟩

/-- INTERNAL: the running action is terminated, and not cleaned yet. -/
theorem ActionsOk.finish {done waiting : List ActionId} (h : ActionsOk p)
    (hcall : p.calls c = some call)
    (hchain : CallChain p.actions p.trace c call done (some a) waiting)
    (hget : p.actions a = some action) : ActionsOk (afterFinish p c call a action) where
  chains := h.chains.finish hcall hchain hget
  memory := h.memory.record _ (fun _ _ ha => by cases ha) rfl rfl rfl
  commands := by
    refine h.commands.frame (Nat.le_refl _) (fun d b _ hf => ⟨hf.1, fun e => ?_⟩) fun _ _ _ hc => hc
    simpa [addedTo_singleton, afterFinish, Telephony.record, Telephony.setCall] using hf.2 e

/-- INTERNAL: the running action is terminated and cleaned, and the call is told to run the next
one, if there is one. -/
theorem afterTermination_ok {done waiting : List ActionId} (h : ActionsOk p)
    (hcall : p.calls c = some call)
    (hchain : CallChain p.actions p.trace c call done (some a) waiting)
    (hget : p.actions a = some action) : ActionsOk (afterTermination p c call a action) := by
  have hlive := h.lt_of_live hcall
  have hmem : a ∈ addedTo c p.trace := hchain.mem_added (by simp)
  have hclean : action.mCleaned = false := by
    obtain ⟨cell, hcell, -, hclean⟩ := hchain.runs a rfl
    rw [hget] at hcell
    exact Option.some.inj hcell ▸ hclean
  have hq : ActionsOk (afterCleaning (afterFinish p c call a action) c a) := by
    refine (h.finish hcall hchain hget).clean hlive hget hclean ⟨c, ?_⟩ ?_
    · simp [afterFinish, Telephony.record, Telephony.setCall, hmem]
    · intro d other hd ha
      have hdc : d = c := by
        refine h.chains.oneCall a d c ?_ hmem
        simpa [afterFinish, Telephony.record, Telephony.setCall, addedTo_singleton] using ha
      subst hdc
      simp [afterFinish, Telephony.record, Telephony.setCall, terminatedOn_singleton]
  unfold afterTermination
  split
  · exact hq.asyncRunAction (Function.update_self ..)
  · exact hq

/-! ## Commands -/

/-- INTERNAL: the running action is invoked. -/
theorem ActionsOk.invoke {observers : List ActionId} (h : ActionsOk p)
    (hcall : p.calls c = some call) (hcurrent : call.mpCurrentAction = some a)
    (hget : p.actions a = some action) (hinv : action.mInvoked = false)
    (hobs : observers = [] ∨
      (observers = [a] ∧ ∃ play folder, action.actionClass = .play play folder)) :
    ActionsOk (afterInvocation p c call a action observers) where
  chains := h.chains.invoke hcall hcurrent hget hinv hobs
  memory := h.memory.invoke hget hinv
  commands := by
    obtain ⟨done, running, waiting, hchain⟩ := h.chains.chain c call hcall
    have ha : a ∈ running.toList ++ waiting := by
      have hhead := hchain.current
      rw [hcurrent] at hhead
      exact List.mem_of_mem_head? hhead.symm
    apply h.commands.frame (Nat.le_refl _)
    · rintro d b - ⟨⟨k, hb⟩, hnot⟩
      have hba : b ≠ a := fun heq => hnot c (heq ▸ hchain.mem_added ha)
      refine ⟨⟨k, (Function.update_of_ne hba _ _).trans hb⟩, fun e => ?_⟩
      simpa [addedTo_singleton, afterInvocation, Telephony.record, Telephony.setCall,
        Telephony.setAction] using hnot e
    · rintro d b - ⟨cell, hcell, hclean⟩
      by_cases hba : b = a
      · subst hba
        obtain rfl := Option.some.inj (hcell.symm.trans hget)
        exact ⟨_, Function.update_self .., hclean⟩
      · exact ⟨cell, (Function.update_of_ne hba _ _).trans hcell, hclean⟩

/-- INTERNAL: an invoked action that listens is the running one of its call. -/
theorem running_of_invocation (h : ActionsOk p) (hcall : p.calls c = some call)
    (hcurrent : call.mpCurrentAction = some a) (hget : p.actions a = some action)
    (hinv : action.mInvoked = true) : ∃ done waiting,
      CallChain p.actions p.trace c call done (some a) waiting := by
  obtain ⟨done, running, waiting, hchain⟩ := h.chains.chain c call hcall
  have hhead := hchain.current
  rw [hcurrent] at hhead
  cases running with
  | some b =>
    obtain rfl : a = b := Option.some.inj hhead
    exact ⟨done, waiting, hchain⟩
  | none =>
    obtain ⟨cell, hcell, hfalse, -⟩ := hchain.waits a (List.mem_of_mem_head? hhead.symm)
    rw [hget] at hcell
    obtain rfl := Option.some.inj hcell
    rw [hinv] at hfalse
    cases hfalse

/-- INTERNAL: what a command that runs a call's actions does. -/
theorem RunEffect.ok {p' : Telephony} {request : Option SoundRequest} (h : ActionsOk p)
    (hcall : p.calls c = some call) (heff : RunEffect p c call p' request) : ActionsOk p' := by
  cases heff with
  | idle => exact h
  | ends a action hcurrent hget hinv =>
    refine (h.invoke hcall hcurrent hget hinv (.inl rfl)).post (h.lt_of_live hcall) ?_ ?_
    · intro d b heq
      cases heq
    · intro d b heq
      cases heq
  | plays a action play folder hcurrent hget hinv hplay =>
    exact h.invoke hcall hcurrent hget hinv (.inr ⟨rfl, play, folder, hplay⟩)
  | silent a action play folder hcurrent hget hinv hplay =>
    have hq := h.invoke hcall hcurrent hget hinv (.inr ⟨rfl, play, folder, hplay⟩)
    have hcall' := afterInvocation_calls p c call a action [a]
    have hget' := afterInvocation_actions p c call a action [a]
    obtain ⟨done, waiting, hchain⟩ := running_of_invocation hq hcall' rfl hget' rfl
    exact afterTermination_ok hq hcall' hchain hget'

/-- INTERNAL: what a notification to a call's observers does. -/
theorem NotifyEffect.ok {p' : Telephony} (h : ActionsOk p) (hcall : p.calls c = some call)
    (heff : NotifyEffect p c call p') : ActionsOk p' := by
  cases heff with
  | unheard => exact h
  | ends a action done waiting hchain hobs hget => exact afterTermination_ok h hcall hchain hget

/-- INTERNAL: a cleaned action is freed. SOURCE: ActionMachine.cpp:88-96 -/
theorem ActionsOk.free (h : ActionsOk p) (hget : p.actions a = some action)
    (hclean : action.mCleaned = true) (hnew : ∀ d, .Delete d a ∉ pending p) :
    ActionsOk ((p.setAction a none).record (.deleted a)) := by
  refine ⟨?_, h.memory.free hget, ?_⟩
  · refine (h.chains.frame fun d other done running waiting hd hchain b hb => ?_).record _
      (fun _ => rfl) (fun _ => rfl) (fun _ => rfl) trivial
    have hba : b ≠ a := by
      rintro rfl
      obtain ⟨invoked, cell, hcell, -, hfalse⟩ := hchain.held hb
      rw [hget] at hcell
      obtain rfl := Option.some.inj hcell
      rw [hclean] at hfalse
      cases hfalse
    exact Function.update_of_ne hba _ _
  · apply h.commands.frame (Nat.le_refl _)
    · rintro d b - ⟨⟨k, hb⟩, hnot⟩
      have hba : b ≠ a := by
        rintro rfl
        rw [hget] at hb
        rw [Option.some.inj hb] at hclean
        cases hclean
      refine ⟨⟨k, (Function.update_of_ne hba _ _).trans hb⟩, fun e => ?_⟩
      simpa [addedTo_singleton, Telephony.record, Telephony.setAction] using hnot e
    · rintro d b hmem ⟨cell, hcell, hb⟩
      have hba : b ≠ a := fun heq => hnew d (heq ▸ hmem)
      exact ⟨cell, (Function.update_of_ne hba _ _).trans hcell, hb⟩

/-- INTERNAL: what one command of the dialog manager does. -/
theorem CommandEffect.ok {cmd : DumCommand} {rest : List DumCommand}
    {request : Option SoundRequest} (h : ActionsOk p) (hdum : p.dum = cmd :: rest)
    (heff : CommandEffect { p with dum := rest } cmd p' request) : ActionsOk p' := by
  obtain ⟨hpop, hcommands⟩ := h.pop hdum
  cases heff with
  | add hcall heff =>
    exact heff.ok hpop hcall (hcommands.adds _ _ List.mem_cons_self) hcommands.not_mem_of_add
  | run hcall heff => exact heff.ok hpop hcall
  | delete hget hclean => exact hpop.free hget hclean hcommands.not_mem_of_delete
  | notify hcall heff => exact heff.ok hpop hcall
  | finish => exact hpop

/-! ## The end of a call -/

/-- INTERNAL: by induction on the list of actions, which belong to a call that is gone. -/
theorem afterCleaningAll_ok {l : List ActionId} (h : ActionsOk p) (hc : c < p.callCount)
    (hdead : p.calls c = none) (hnodup : l.Nodup) (hadded : ∀ a ∈ l, a ∈ addedTo c p.trace)
    (hclean : ∀ a ∈ l, ∃ action, p.actions a = some action ∧ action.mCleaned = false) :
    ActionsOk (afterCleaningAll p c l) := by
  induction l generalizing p with
  | nil => exact h
  | cons a l ih =>
    obtain ⟨halnot, hnodup'⟩ := List.nodup_cons.mp hnodup
    obtain ⟨action, hget, hfalse⟩ := hclean a List.mem_cons_self
    have ha := hadded a List.mem_cons_self
    have hq : ActionsOk (afterCleaning p c a) := by
      refine h.clean hc hget hfalse ⟨c, ha⟩ fun d other hd hmem => ?_
      obtain rfl := h.chains.oneCall a d c hmem ha
      rw [hdead] at hd
      cases hd
    apply ih hq hc hdead hnodup'
    · intro b hb
      have hmem := hadded b (List.mem_cons_of_mem a hb)
      simpa [afterCleaning, Telephony.record, addedTo_singleton, Telephony.post,
        Telephony.setAction] using hmem
    · intro b hb
      have hba : b ≠ a := fun heq => halnot (heq ▸ hb)
      obtain ⟨cell, hcell, hfalse⟩ := hclean b (List.mem_cons_of_mem a hb)
      exact ⟨cell, (Function.update_of_ne hba _ _).trans hcell, hfalse⟩

/-- INTERNAL: a call is destroyed, after the actions that it holds were cleaned. -/
theorem ActionsOk.destroyCall {done waiting : List ActionId} {running : Option ActionId}
    (h : ActionsOk p) (hcall : p.calls c = some call)
    (hchain : CallChain p.actions p.trace c call done running waiting) :
    ActionsOk (afterCleaningAll (p.setCall c none) c (running.toList ++ waiting)) := by
  have hq : ActionsOk (p.setCall c none) := ⟨h.chains.drop c, h.memory, h.commands⟩
  refine afterCleaningAll_ok hq (h.lt_of_live hcall) (Function.update_self ..)
    (chain_nodup h hchain) (fun b hb => hchain.mem_added hb) fun b hb => ?_
  obtain ⟨-, action, hget, -, hclean⟩ := hchain.held hb
  exact ⟨action, hget, hclean⟩

end Moves

/-! ## All steps -/

section Runs

variable {p p' : Telephony}

/-- INTERNAL: every step of every thread keeps the invariant. -/
theorem actionsOk_step {act : PhoneAct} (h : ActionsOk p) (hstep : phoneStep p act = some p') :
    ActionsOk p' := by
  cases phoneStep_cases h hstep with
  | asyncAddAction k hc => exact h.asyncAddAction hc k
  | releaseCall hc =>
    refine h.postOtherThread hc ?_ ?_
    · intro d b heq
      cases heq
    · intro d b heq
      cases heq
  | onSoundQueueEmpty seen hc =>
    refine h.postOtherThread hc ?_ ?_
    · intro d b heq
      cases heq
    · intro d b heq
      cases heq
  | newCall incomming => exact h.newCall incomming
  | ringing hcall => exact h.setState hcall rfl rfl
  | notInitial => exact h
  | connected hcall => exact h.setState hcall rfl rfl
  | @answered c call hcall =>
    have hq : ActionsOk (p.setCall c (some { call with mCallState := .Answered })) :=
      h.setState hcall rfl rfl
    exact hq.asyncRunAction (Function.update_self ..)
  | dumPost hposting => exact h.dumPost hposting
  | dumProcess hdum heff => exact heff.ok h hdum
  | destroyed done running waiting hcall hchain => exact h.destroyCall hcall hchain

/-- INTERNAL: at first there is no call and no action. -/
theorem actionsOk_init : ActionsOk Telephony.init where
  chains := {
    chain := fun _ _ h => by cases h
    order := fun _ => List.prefix_rfl
    nodup := fun _ => List.nodup_nil
    oneCall := fun _ _ _ h => by cases h
    turn := always_nil
    named := fun _ _ => ⟨rfl, rfl, rfl, rfl⟩ }
  memory := {
    unallocated := fun _ _ => rfl
    added := fun _ _ h => by cases h
    invoked := fun _ h => by cases h
    invokedOnce := List.nodup_nil
    deletePosted := fun _ h => by cases h
    deletePostedOnce := List.nodup_nil
    deleted := fun _ h => by cases h }
  commands := {
    named := fun _ h => by cases h
    adds := fun _ _ h => by cases h
    addsOnce := List.nodup_nil
    deletes := fun _ _ h => by cases h
    deletesOnce := List.nodup_nil }

/-- What is asked of the actions in every state. -/
structure ActionsInOrder (p : Telephony) : Prop where
  /-- they are invoked in the order in which they were added -/
  inOrder : ∀ c, invokedOn c p.trace <+: addedTo c p.trace
  /-- each at most once -/
  once : (invocations p.trace).Nodup
  /-- and after the one before has terminated -/
  inTurn : Always InTurn p.trace
  deletedOnce : (deletesPosted p.trace).Nodup
  /-- an action that was deleted is not found any more -/
  gone : ∀ a, .deleted a ∈ p.trace → ∀ c call, p.calls c = some call →
    ¬ Reaches p.actions IPhoneAction.mpNextAction call.mpCurrentAction a ∧
      a ∉ call.mRtpObservers
  /-- only a command that uses a destroyed call fails -/
  executes : ∀ cmd rest, p.dum = cmd :: rest →
    (∀ c, commandUses cmd = some c → p.calls c ≠ none) → p.dumProcess ≠ none

/-- INTERNAL: **the invariant says that the actions of every call come in order.** -/
theorem ActionsOk.inOrder (h : ActionsOk p) : ActionsInOrder p where
  inOrder := h.chains.order
  once := h.memory.invokedOnce
  inTurn := h.chains.turn
  deletedOnce := h.memory.deletePostedOnce
  gone a ha c call hcall := by
    have hmem : a ∈ deletions p.trace := List.mem_filterMap.mpr ⟨_, ha, rfl⟩
    have hfree : p.actions a = none := (h.memory.deleted a hmem).2
    obtain ⟨done, running, waiting, hchain⟩ := h.chains.chain c call hcall
    have hnot : a ∉ running.toList ++ waiting := by
      intro hin
      obtain ⟨-, action, hget, -⟩ := hchain.held hin
      rw [hfree] at hget
      cases hget
    refine ⟨fun hreach => hnot (hchain.chain.mem_of_reaches hreach), ?_⟩
    rcases hchain.observers with hobs | ⟨b, action, hrun, hobs, -, -⟩
    · rw [hobs]
      exact List.not_mem_nil
    · rw [hobs]
      intro hin
      obtain rfl := List.mem_singleton.mp hin
      exact hnot (by simp [hrun])
  executes cmd rest hdum hlive := by
    obtain ⟨q, request, heq, -⟩ := dumProcess_eq h hdum hlive
    rw [heq]
    exact Option.some_ne_none _

end Runs

/-- **Chains of actions run in order, once, and are freed once**, in every state of every run.
SOURCE: ActionMachine.cpp:17-96, IPhoneAction.cpp:19-60, Call.cpp:20-126,
PlayPhoneAction.cpp:17-56 -/
theorem actionsInOrder_throughout (acts : List PhoneAct) :
    Throughout phoneStep ActionsInOrder Telephony.init acts := by
  apply throughout_invariant (I := ActionsOk)
  · intro p h
    exact h.inOrder
  · intro p a p' h hstep
    exact actionsOk_step h hstep
  · exact actionsOk_init

end Dhas.Analysis
