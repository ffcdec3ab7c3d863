import Dhas.Analysis.ActionChains

/-!
# No runnable action is forgotten

An action that waits at the head of the chain of an answered call is invoked when a `Run` of
that call is executed, so one must be pending. `onAnswer` posts it for an outgoing call, and
`appendAction` and `actionTerminated` for what is added or becomes current later. For an
incoming call nothing is posted when it is connected: an action that was added before that is
never run, nor is any that is appended behind it.

`ConnectedIdle` excludes that, and the theorem says that nothing else has to be excluded.
-/

set_option autoImplicit false

namespace Dhas.Analysis

open Dhas.Library Dhas.Program Dhas.Model

/-- The current action of a call was not invoked yet. -/
def CurrentWaits (p : Telephony) (call : Call) : Prop :=
  ∃ a, call.mpCurrentAction = some a ∧ (p.actions a).map IPhoneAction.mInvoked = some false

/-- When the current action of an answered call waits, a `Run` of that call is in the queue,
or among what the command being executed has posted. -/
def RunPosted (p : Telephony) : Prop :=
  ∀ c call, p.calls c = some call → call.mCallState = .Answered → CurrentWaits p call →
    .Run c ∈ pending p

/-- An incoming call has no action yet when it is connected. -/
def ConnectedIdle (p : Telephony) : PhoneAct → Prop
  | .onConnected c => ∀ call, p.calls c = some call → call.mCallState ≠ .Answered →
      call.mpCurrentAction = none
  | _ => True

/-- What holds of one call: a `Run` is pending when it must be, and none before the answer. -/
structure RunReady (p : Telephony) (c : CallId) (call : Call) : Prop where
  posted : call.mCallState = .Answered → CurrentWaits p call → .Run c ∈ pending p
  notYet : call.mCallState ≠ .Answered → .Run c ∉ pending p
  waits : call.mCallState ≠ .Answered → call.mpCurrentAction ≠ none → CurrentWaits p call

def AllReady (p : Telephony) : Prop := ∀ c call, p.calls c = some call → RunReady p c call

section Ready

variable {p p' : Telephony} {c : CallId} {call call' : Call} {a : ActionId}
  {action : IPhoneAction}

/-! ## Pending `Run` commands -/

/-- INTERNAL: a `Run` that this thread posts is pending. -/
theorem run_mem_pending_post {cmd : DumCommand} :
    .Run c ∈ pending (p.post cmd) ↔ .Run c ∈ pending p ∨ .Run c = cmd := by
  rw [← (pending_post_perm p cmd).mem_iff, List.mem_cons]
  exact Or.comm

/-- INTERNAL: a `Run` that another thread posts is pending. -/
theorem run_mem_pending_postOtherThread {cmd : DumCommand} :
    .Run c ∈ pending (p.postOtherThread cmd) ↔ .Run c ∈ pending p ∨ .Run c = cmd := by
  rw [← (pending_postOtherThread_perm p cmd).mem_iff, List.mem_cons]
  exact Or.comm

/-- INTERNAL: the next action of a terminated one is run. -/
theorem run_mem_afterTermination {d : CallId} :
    .Run d ∈ pending (afterTermination p c call a action) ↔
      .Run d ∈ pending p ∨ (d = c ∧ action.mpNextAction.isSome) := by
  have hclean : .Run d ∈ pending (afterCleaning (afterFinish p c call a action) c a) ↔
      .Run d ∈ pending p := by
    simp [pending, afterCleaning, afterFinish, Telephony.record, Telephony.post,
      Telephony.setAction, Telephony.setCall]
  unfold afterTermination
  split
  · rename_i hnext
    rw [Telephony.asyncRunAction, run_mem_pending_post, hclean]
    simp [hnext]
  · rename_i hnext
    rw [hclean]
    simp [hnext]

/-- INTERNAL: a termination writes its own call only. -/
theorem calls_afterTermination :
    (afterTermination p c call a action).calls = Function.update p.calls c
      (some { call with mpCurrentAction := action.mpNextAction, mRtpObservers := [] }) := by
  unfold afterTermination
  split <;> rfl

/-- INTERNAL: marking an action as cleaned invokes none. -/
theorem mInvoked_clean (actions : ActionId → Option IPhoneAction) (a b : ActionId) :
    (Function.update actions a ((actions a).map fun action => { action with mCleaned := true })
      b).map IPhoneAction.mInvoked = (actions b).map IPhoneAction.mInvoked := by
  by_cases hba : b = a
  · subst hba
    rw [Function.update_self, Option.map_map]
    rfl
  · rw [Function.update_of_ne hba]

/-- INTERNAL: no action is invoked by a termination. -/
theorem invoked_afterTermination (b : ActionId) :
    ((afterTermination p c call a action).actions b).map IPhoneAction.mInvoked =
      (p.actions b).map IPhoneAction.mInvoked := by
  have hactions : (afterTermination p c call a action).actions = Function.update p.actions a
      ((p.actions a).map fun action => { action with mCleaned := true }) := by
    unfold afterTermination
    split <;> rfl
  rw [hactions]
  exact mInvoked_clean p.actions a b

/-! ## One call and the others -/

/-- INTERNAL: what was written at a call is read there. -/
theorem eq_of_update_self {calls : CallId → Option Call}
    (h : Function.update calls c (some call) c = some call') : call = call' := by
  rw [Function.update_self] at h
  exact Option.some.inj h

/-- INTERNAL: a step that changes nothing that matters for a call. -/
theorem RunReady.frame (h : RunReady p c call)
    (hinvoked : ∀ b, call.mpCurrentAction = some b →
      (p'.actions b).map IPhoneAction.mInvoked = (p.actions b).map IPhoneAction.mInvoked)
    (hrun : .Run c ∈ pending p' ↔ .Run c ∈ pending p) : RunReady p' c call := by
  have hwaits : CurrentWaits p' call ↔ CurrentWaits p call := by
    constructor
    · rintro ⟨b, hb, hflag⟩
      exact ⟨b, hb, hinvoked b hb ▸ hflag⟩
    · rintro ⟨b, hb, hflag⟩
      exact ⟨b, hb, (hinvoked b hb).trans hflag⟩
  refine ⟨fun hans hw => ?_, fun hans => ?_, fun hans hcur => ?_⟩
  · exact hrun.mpr (h.posted hans (hwaits.mp hw))
  · exact fun hmem => h.notYet hans (hrun.mp hmem)
  · exact hwaits.mpr (h.waits hans hcur)

/-- INTERNAL: a step that is about one call, and changes its actions only, as the others see
it. -/
theorem AllReady.others (hok : ActionsOk p) (h : AllReady p)
    (hcalls : ∀ d, d ≠ c → p'.calls d = p.calls d)
    (hinvoked : ∀ b, b ∉ addedTo c p.trace → p.actions b ≠ none →
      (p'.actions b).map IPhoneAction.mInvoked = (p.actions b).map IPhoneAction.mInvoked)
    (hrun : ∀ d, d ≠ c → (.Run d ∈ pending p' ↔ .Run d ∈ pending p)) :
    ∀ d, d ≠ c → ∀ other, p'.calls d = some other → RunReady p' d other := by
  intro d hdc other hd
  rw [hcalls d hdc] at hd
  refine (h d other hd).frame (fun b hb => ?_) (hrun d hdc)
  obtain ⟨done, running, waiting, hchain⟩ := hok.chains.chain d other hd
  have hmem : b ∈ running.toList ++ waiting := by
    have hhead := hchain.current
    rw [hb] at hhead
    exact List.mem_of_mem_head? hhead.symm
  obtain ⟨-, cell, hcell, -⟩ := hchain.held hmem
  refine hinvoked b (fun hc => ?_) (by simp [hcell])
  exact hdc (hok.chains.oneCall b d c (hchain.mem_added hmem) hc)

/-- INTERNAL: the other calls, and this one. -/
theorem allReady_of_others (h : ∀ d, d ≠ c → ∀ other, p.calls d = some other → RunReady p d other)
    (hthis : ∀ call, p.calls c = some call → RunReady p c call) : AllReady p := by
  intro d other hd
  by_cases hdc : d = c
  · subst hdc
    exact hthis other hd
  · exact h d hdc other hd

/-- INTERNAL: after `asyncRunAction`, an answered call has its `Run`. -/
theorem allReady_asyncRunAction
    (h : ∀ d, d ≠ c → ∀ other, p.calls d = some other → RunReady p d other)
    (hcall : p.calls c = some call) (hans : call.mCallState = .Answered) :
    AllReady (p.asyncRunAction c) := by
  refine allReady_of_others (c := c) (fun d hdc other hd => ?_) fun other hother => ?_
  · refine (h d hdc other hd).frame (fun _ _ => rfl) ?_
    rw [Telephony.asyncRunAction, run_mem_pending_post]
    simp [hdc]
  · obtain rfl : call = other := Option.some.inj (hcall.symm.trans hother)
    refine ⟨fun _ _ => ?_, fun hne => absurd hans hne, fun hne => absurd hans hne⟩
    rw [Telephony.asyncRunAction, run_mem_pending_post]
    exact .inr rfl

/-- INTERNAL: a step that is about no call. -/
theorem AllReady.frame_all (hok : ActionsOk p) (h : AllReady p) (hcalls : p'.calls = p.calls)
    (hinvoked : ∀ b action, p.actions b = some action → action.mCleaned = false →
      (p'.actions b).map IPhoneAction.mInvoked = some action.mInvoked)
    (hrun : ∀ d, .Run d ∈ pending p' ↔ .Run d ∈ pending p) : AllReady p' := by
  intro d other hd
  rw [hcalls] at hd
  refine (h d other hd).frame (fun b hb => ?_) (hrun d)
  obtain ⟨done, running, waiting, hchain⟩ := hok.chains.chain d other hd
  have hhead := hchain.current
  rw [hb] at hhead
  obtain ⟨-, cell, hcell, -, hclean⟩ := hchain.held (List.mem_of_mem_head? hhead.symm)
  rw [hinvoked b cell hcell hclean, hcell]
  rfl

/-- INTERNAL: a command is put on the queue that is no `Run`. -/
theorem AllReady.postOtherThread {cmd : DumCommand} (h : AllReady p)
    (hcmd : ∀ c, .Run c ≠ cmd) : AllReady (p.postOtherThread cmd) := by
  intro d call hd
  refine (h d call hd).frame (fun _ _ => rfl) ?_
  rw [run_mem_pending_postOtherThread]
  simp [hcmd d]

/-- INTERNAL: a call whose current action waits was answered, if that action runs. -/
theorem answered_of_running {done waiting : List ActionId} (hready : RunReady p c call)
    (hchain : CallChain p.actions p.trace c call done (some a) waiting) :
    call.mCallState = .Answered := by
  by_contra hans
  have hcurrent : call.mpCurrentAction = some a := hchain.current
  obtain ⟨b, hb, hfalse⟩ := hready.waits hans (by simp [hcurrent])
  obtain ⟨cell, hcell, htrue, -⟩ := hchain.runs a rfl
  rw [hcurrent] at hb
  obtain rfl := Option.some.inj hb
  simp [hcell, htrue] at hfalse

/-! ## Commands -/

/-- INTERNAL: the next action of the terminated one, if there is one, has its `Run`. -/
theorem AllReady.terminate {done waiting : List ActionId} (hok : ActionsOk p)
    (h : AllReady p) (hcall : p.calls c = some call)
    (hchain : CallChain p.actions p.trace c call done (some a) waiting) :
    AllReady (afterTermination p c call a action) := by
  have hans := answered_of_running (h c call hcall) hchain
  refine allReady_of_others (c := c) (h.others hok ?_ ?_ ?_) ?_
  · intro d hd
    rw [calls_afterTermination, Function.update_of_ne hd]
  · exact fun b _ _ => invoked_afterTermination b
  · intro d hd
    rw [run_mem_afterTermination]
    simp [hd]
  · intro other hother
    rw [calls_afterTermination, Function.update_self] at hother
    obtain rfl := Option.some.inj hother
    refine ⟨fun _ hw => ?_, fun hne => absurd hans hne, fun hne => absurd hans hne⟩
    obtain ⟨b, hb, -⟩ := hw
    refine run_mem_afterTermination.mpr (.inr ⟨rfl, ?_⟩)
    have hnext : action.mpNextAction = some b := hb
    simp [hnext]

/-- INTERNAL: a new action that becomes the current one, as the other calls see it. -/
theorem AllReady.addFirst (hok : ActionsOk p) (h : AllReady p) :
    ∀ d, d ≠ c → ∀ other, ((p.record (.added c a)).setCall c (some call')).calls d = some other →
      RunReady ((p.record (.added c a)).setCall c (some call')) d other := by
  apply h.others hok
  · exact fun d hd => Function.update_of_ne hd _ _
  · exact fun b _ _ => rfl
  · exact fun d _ => Iff.rfl

/-- INTERNAL: a new action is run when the call is answered, if it is the current one.
SOURCE: Call.cpp:77-97 -/
theorem AddEffect.ready (hok : ActionsOk p) (h : AllReady p) (hcall : p.calls c = some call)
    (hfresh : Fresh p.actions p.trace a) (heff : AddEffect p c call a p') : AllReady p' := by
  cases heff with
  | answered hcurrent hans =>
    exact allReady_asyncRunAction (h.addFirst hok) (Function.update_self ..) hans
  | early hcurrent hans =>
    apply allReady_of_others (h.addFirst hok)
    intro other hother
    obtain rfl := eq_of_update_self hother
    refine ⟨fun hans' => absurd hans' hans, fun _ => (h c call hcall).notYet hans, fun _ _ => ?_⟩
    obtain ⟨⟨k, hget⟩, -⟩ := hfresh
    have hflag : (p.actions a).map IPhoneAction.mInvoked = some false := by
      rw [hget]
      rfl
    exact ⟨a, rfl, hflag⟩
  | linked done running waiting z last hchain hz hlast =>
    refine h.frame_all hok rfl (fun b cell hcell _ => ?_) fun d => Iff.rfl
    by_cases hbz : b = z
    · subst hbz
      obtain rfl := Option.some.inj (hcell.symm.trans hlast)
      simp [Telephony.setAction]
    · have hsame : ((p.record (.added c a)).setAction z
          (some { last with mpNextAction := some a })).actions b = p.actions b :=
        Function.update_of_ne hbz _ _
      rw [hsame, hcell]
      rfl

/-- INTERNAL: the oldest command is the `Run`, or it is among the others. -/
theorem run_mem_pending_pop {cmd : DumCommand} {rest : List DumCommand}
    (hdum : p.dum = cmd :: rest) :
    .Run c ∈ pending p ↔ .Run c = cmd ∨ .Run c ∈ pending { p with dum := rest } := by
  have hpending : pending p = cmd :: pending { p with dum := rest } := by simp [pending, hdum]
  rw [hpending, List.mem_cons]

/-- INTERNAL: a command that is no `Run` is taken from the queue. -/
theorem AllReady.pop {cmd : DumCommand} {rest : List DumCommand} (h : AllReady p)
    (hdum : p.dum = cmd :: rest) (hcmd : ∀ c, .Run c ≠ cmd) :
    AllReady { p with dum := rest } := by
  intro d call hd
  refine (h d call hd).frame (fun _ _ => rfl) ?_
  rw [run_mem_pending_pop (p := p) hdum]
  simp [hcmd d]

/-- INTERNAL: the `Run` is used up, and the current action does not wait any more; if it
terminates at once, the next one has its own `Run`. SOURCE: ActionMachine.cpp:77-86 -/
theorem RunEffect.ready {rest : List DumCommand} {request : Option SoundRequest}
    (hok : ActionsOk p) (h : AllReady p) (hdum : p.dum = .Run c :: rest)
    (hcall : p.calls c = some call)
    (heff : RunEffect { p with dum := rest } c call p' request) : AllReady p' := by
  have hans : call.mCallState = .Answered := by
    by_contra hans
    exact (h c call hcall).notYet hans ((run_mem_pending_pop hdum).mpr (.inl rfl))
  have hothers (d : CallId) (hd : d ≠ c) :
      .Run d ∈ pending { p with dum := rest } ↔ .Run d ∈ pending p := by
    rw [run_mem_pending_pop (p := p) hdum]
    simp [hd]
  have hready (call' : Call) (hstate : call'.mCallState = .Answered)
      (hw : CurrentWaits p' call' → .Run c ∈ pending p') : RunReady p' c call' :=
    ⟨fun _ => hw, fun hne => absurd hstate hne, fun hne => absurd hstate hne⟩
  have hadded (a : ActionId) (ha : call.mpCurrentAction = some a) : a ∈ addedTo c p.trace := by
    obtain ⟨done, running, waiting, hchain⟩ := hok.chains.chain c call hcall
    have hhead := hchain.current
    rw [ha] at hhead
    exact hchain.mem_added (List.mem_of_mem_head? hhead.symm)
  have hkeep (a b : ActionId) (cell : Option IPhoneAction) (ha : call.mpCurrentAction = some a)
      (hb : b ∉ addedTo c p.trace) : Function.update p.actions a cell b = p.actions b := by
    have hba : b ≠ a := fun heq => hb (heq ▸ hadded a ha)
    exact Function.update_of_ne hba _ _
  cases heff with
  | idle hidle =>
    refine allReady_of_others (c := c) (h.others hok (fun _ _ => rfl) (fun _ _ _ => rfl) hothers)
      fun other hother => ?_
    obtain rfl := Option.some.inj (hcall.symm.trans hother)
    apply hready call hans
    rintro ⟨a, ha, hflag⟩
    obtain ⟨cell, hcell, hfalse⟩ := Option.map_eq_some_iff.mp hflag
    rw [hidle a cell ha hcell] at hfalse
    cases hfalse
  | ends a action hcurrent hget hinv =>
    refine allReady_of_others (c := c) (h.others hok ?_ ?_ ?_) ?_
    · exact fun d hd => Function.update_of_ne hd _ _
    · intro b hb _
      exact congrArg (Option.map _) (hkeep a b _ hcurrent hb)
    · intro d hd
      rw [run_mem_pending_post, ← hothers d hd]
      simp [pending, afterInvocation, Telephony.record, Telephony.setAction, Telephony.setCall]
    · intro other hother
      obtain rfl := eq_of_update_self hother
      refine hready _ hans ?_
      rintro ⟨b, hb, hflag⟩
      obtain rfl := Option.some.inj hb
      simp [afterInvocation, Telephony.post, Telephony.setCall, Telephony.record,
        Telephony.setAction] at hflag
  | plays a action play folder hcurrent hget hinv hplay hsounds =>
    refine allReady_of_others (c := c) (h.others hok ?_ ?_ ?_) ?_
    · exact fun d hd => Function.update_of_ne hd _ _
    · intro b hb _
      exact congrArg (Option.map _) (hkeep a b _ hcurrent hb)
    · exact hothers
    · intro other hother
      obtain rfl := eq_of_update_self hother
      refine hready _ hans ?_
      rintro ⟨b, hb, hflag⟩
      obtain rfl := Option.some.inj hb
      simp [afterInvocation, Telephony.setCall, Telephony.record, Telephony.setAction] at hflag
  | silent a action play folder hcurrent hget hinv hplay hsounds =>
    refine allReady_of_others (c := c) (h.others hok ?_ ?_ ?_) ?_
    · intro d hd
      rw [calls_afterTermination, Function.update_of_ne hd]
      exact Function.update_of_ne hd _ _
    · intro b hb _
      rw [invoked_afterTermination]
      exact congrArg (Option.map _) (hkeep a b _ hcurrent hb)
    · intro d hd
      rw [run_mem_afterTermination, ← hothers d hd]
      simp [hd, pending, afterInvocation, Telephony.record, Telephony.setAction,
        Telephony.setCall]
    · intro other hother
      rw [calls_afterTermination, Function.update_self] at hother
      obtain rfl := Option.some.inj hother
      refine hready _ hans ?_
      rintro ⟨b, hb, -⟩
      refine run_mem_afterTermination.mpr (.inr ⟨rfl, ?_⟩)
      have hnext : action.mpNextAction = some b := hb
      simp [hnext]

/-- INTERNAL: **what one command of the dialog manager does.** -/
theorem CommandEffect.ready {cmd : DumCommand} {rest : List DumCommand}
    {request : Option SoundRequest} (hok : ActionsOk p) (h : AllReady p)
    (hdum : p.dum = cmd :: rest) (heff : CommandEffect { p with dum := rest } cmd p' request) :
    AllReady p' := by
  obtain ⟨hpop, hcommands⟩ := hok.pop hdum
  cases heff with
  | add hcall heff =>
    have hready := h.pop hdum fun _ heq => by cases heq
    exact heff.ready hpop hready hcall (hcommands.adds _ _ List.mem_cons_self)
  | run hcall heff => exact heff.ready hok h hdum hcall
  | @delete c a action hget hclean =>
    have hready := h.pop hdum fun _ heq => by cases heq
    refine hready.frame_all hpop rfl (fun b other hother hfalse => ?_) fun d => Iff.rfl
    have hba : b ≠ a := by
      rintro rfl
      obtain rfl := Option.some.inj (hget.symm.trans hother)
      rw [hclean] at hfalse
      cases hfalse
    have hsame : Function.update p.actions a none b = p.actions b := Function.update_of_ne hba _ _
    exact congrArg (Option.map _) (hsame.trans hother)
  | notify hcall heff =>
    have hready := h.pop hdum fun _ heq => by cases heq
    cases heff with
    | unheard => exact hready
    | ends a action done waiting hchain => exact hready.terminate hpop hcall hchain
  | finish => exact h.pop hdum fun _ heq => by cases heq

/-- INTERNAL: cleaning actions posts no `Run` and invokes none. -/
theorem afterCleaningAll_frame (c : CallId) (l : List ActionId) (p : Telephony) :
    (afterCleaningAll p c l).calls = p.calls ∧
      (∀ b, ((afterCleaningAll p c l).actions b).map IPhoneAction.mInvoked =
        (p.actions b).map IPhoneAction.mInvoked) ∧
      ∀ d, .Run d ∈ pending (afterCleaningAll p c l) ↔ .Run d ∈ pending p := by
  induction l generalizing p with
  | nil => exact ⟨rfl, fun _ => rfl, fun _ => Iff.rfl⟩
  | cons a l ih =>
    obtain ⟨hcalls, hinvoked, hrun⟩ := ih (afterCleaning p c a)
    refine ⟨hcalls, fun b => (hinvoked b).trans ?_, fun d => (hrun d).trans ?_⟩
    · exact mInvoked_clean p.actions a b
    · simp [pending, afterCleaning, Telephony.record, Telephony.post, Telephony.setAction]

/-! ## Callbacks -/

/-- INTERNAL: the state of one call changes. -/
theorem AllReady.setState (h : AllReady p)
    (hthis : RunReady (p.setCall c (some call')) c call') :
    AllReady (p.setCall c (some call')) := by
  intro d other hd
  by_cases hdc : d = c
  · subst hdc
    obtain rfl := eq_of_update_self hd
    exact hthis
  · have hsame : p.calls d = some other := (Function.update_of_ne hdc _ _).symm.trans hd
    exact (h d other hsame).frame (fun _ _ => rfl) Iff.rfl

/-- INTERNAL: the steps that meet the condition keep a `Run` pending where one must be. -/
theorem allReady_step {act : PhoneAct} (hok : ActionsOk p) (h : AllReady p)
    (hC : ConnectedIdle p act) (hstep : phoneStep p act = some p') : AllReady p' := by
  cases phoneStep_cases hok hstep with
  | asyncAddAction k hc =>
    refine AllReady.postOtherThread ?_ fun _ heq => by cases heq
    refine h.frame_all hok rfl (fun b cell hcell _ => ?_) fun d => Iff.rfl
    have hne : b ≠ p.allocated := Nat.ne_of_lt (hok.memory.lt_of_get hcell)
    have hsame := Function.update_of_ne hne (some (IPhoneAction.new k)) p.actions
    exact congrArg (Option.map _) (hsame.trans hcell)
  | releaseCall hc => exact h.postOtherThread fun _ heq => by cases heq
  | onSoundQueueEmpty seen hc => exact h.postOtherThread fun _ heq => by cases heq
  | newCall incomming =>
    have hset : AllReady (p.setCall p.callCount (some ⟨.Initial, incomming, none, []⟩)) := by
      refine h.setState ⟨fun hans => ?_, fun _ hmem => ?_, fun _ hcur => absurd rfl hcur⟩
      · cases hans
      · exact Nat.lt_irrefl _ (hok.commands.named _ hmem)
    intro d other hd
    obtain ⟨hposted, hnotYet, hwaits⟩ := hset d other hd
    exact ⟨hposted, hnotYet, hwaits⟩
  | @ringing c call hcall hinitial =>
    have hready := h c call hcall
    have hnot : call.mCallState ≠ .Answered := by simp [hinitial]
    refine h.setState ⟨fun hans => ?_, fun _ => hready.notYet hnot, fun _ hcur => ?_⟩
    · cases hans
    · exact hready.waits hnot hcur
  | notInitial => exact h
  | @connected c call hcall =>
    refine h.setState ⟨fun _ hw => ?_, fun hne => absurd rfl hne, fun hne => absurd rfl hne⟩
    by_cases hans : call.mCallState = .Answered
    · exact (h c call hcall).posted hans hw
    · obtain ⟨a, ha, -⟩ := hw
      have hnone : call.mpCurrentAction = none := hC call hcall hans
      rw [hnone] at ha
      cases ha
  | @answered c call hcall =>
    refine allReady_asyncRunAction (h.others hok ?_ (fun _ _ _ => rfl) fun _ _ => Iff.rfl)
      (Function.update_self ..) rfl
    exact fun d hd => Function.update_of_ne hd _ _
  | dumPost hposting =>
    intro d other hd
    refine (h d other hd).frame (fun _ _ => rfl) ?_
    rw [pending_dumPost hposting]
  | dumProcess hdum heff => exact heff.ready hok h hdum
  | @destroyed c call done running waiting hcall hchain =>
    obtain ⟨hcalls, hinvoked, hrun⟩ :=
      afterCleaningAll_frame c (running.toList ++ waiting) (p.setCall c none)
    refine allReady_of_others (c := c)
      (h.others hok ?_ (fun b _ _ => hinvoked b) fun d _ => hrun d) fun other hother => ?_
    · intro d hd
      rw [hcalls]
      exact Function.update_of_ne hd _ _
    · rw [hcalls] at hother
      have hnone : (p.setCall c none).calls c = none := Function.update_self ..
      rw [hnone] at hother
      cases hother

/-- INTERNAL: connecting a call that has an action already leaves that action without a
`Run`. SOURCE: SIPEngine.cpp:286-296 -/
theorem connectedIdle_of_runPosted {act : PhoneAct} (hok : ActionsOk p) (h : AllReady p)
    (hstep : phoneStep p act = some p') (hP : RunPosted p') : ConnectedIdle p act := by
  cases phoneStep_cases hok hstep with
  | @connected c call hcall =>
    intro call' hcall' hans
    obtain rfl := Option.some.inj (hcall.symm.trans hcall')
    by_contra hcur
    have hready := h c call hcall
    have hwaits : CurrentWaits (p.setCall c (some { call with mCallState := .Answered }))
        { call with mCallState := .Answered } := hready.waits hans hcur
    have hmem := hP c _ (Function.update_self ..) rfl hwaits
    exact hready.notYet hans hmem
  | _ => trivial

end Ready

/-- **No runnable action is forgotten** in exactly the runs in which every incoming call has
no action yet when it is connected. SOURCE: Call.cpp:36-97, ActionMachine.cpp:58-86,
SIPEngine.cpp:286-323 -/
theorem runPosted_iff (acts : List PhoneAct) :
    Throughout phoneStep RunPosted Telephony.init acts ↔
      Along phoneStep ConnectedIdle Telephony.init acts := by
  refine throughout_iff_along (I := fun p => ActionsOk p ∧ AllReady p) ?_ ?_ ?_ ?_
  · exact fun p h c call hcall => (h.2 c call hcall).posted
  · exact fun p act p' h hC hstep => ⟨actionsOk_step h.1 hstep, allReady_step h.1 h.2 hC hstep⟩
  · exact fun p act p' h hstep hP => connectedIdle_of_runPosted h.1 h.2 hstep hP
  · exact ⟨actionsOk_init, fun c call hcall => by cases hcall⟩

/-- `/phone/play` for an incoming call, between its INVITE and its ACK. -/
def playBeforeAck : List PhoneAct :=
  [.newCall true, .asyncAddAction 0 (.play "hello".toList []), .dumProcess, .onConnected 0]

/-- The call is answered, its current action waits, and no command is pending. -/
theorem playBeforeAck_never_runs :
    ¬ Throughout phoneStep RunPosted Telephony.init playBeforeAck := by
  intro h
  have hP : RunPosted _ := h.last rfl
  have hmem := hP 0 _ rfl rfl ⟨0, rfl, rfl⟩
  cases hmem

end Dhas.Analysis
