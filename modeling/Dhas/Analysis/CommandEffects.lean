import Mathlib.Data.List.Perm.Subperm
import Dhas.Analysis.ActionMemory

/-!
# What a step can do

`ActionsOk` puts together the chains, the memory and the pending commands. From a state that
meets it, a step of the calls does one of a few things, which are spelled out here once, with
the states that they lead to: the analyses go through the cases of `PhoneEffect` and never
look into the program again.
-/

set_option autoImplicit false

namespace Dhas.Analysis

open Dhas.Library Dhas.Program Dhas.Model

/-- The commands that are in the queue, or that the command being executed has posted. -/
def pending (p : Telephony) : List DumCommand := p.dum ++ p.posting

structure ActionsOk (p : Telephony) : Prop where
  chains : ChainsOk p.actions p.trace p.calls p.callCount
  memory : HeapOk p.actions p.allocated p.trace
  commands : PendingOk p.actions p.trace p.callCount (pending p)

section Effects

variable {p p' : Telephony} {c : CallId} {call : Call} {a : ActionId} {action : IPhoneAction}
  {request : Option SoundRequest}

/-- INTERNAL: a call holds no action twice. -/
theorem chain_nodup {done waiting : List ActionId} {running : Option ActionId} (h : ActionsOk p)
    (hchain : CallChain p.actions p.trace c call done running waiting) :
    (running.toList ++ waiting).Nodup := by
  have hall := h.chains.nodup c
  rw [hchain.added] at hall
  exact (List.nodup_append.mp hall).2.1

/-- INTERNAL: a chain has no more cells than were ever allocated. -/
theorem chain_length {done waiting : List ActionId} {running : Option ActionId} (h : ActionsOk p)
    (hchain : CallChain p.actions p.trace c call done running waiting) :
    (running.toList ++ waiting).length ≤ p.allocated := by
  have hsub : (running.toList ++ waiting) ⊆ List.range p.allocated := fun x hx =>
    List.mem_range.mpr (h.memory.added c x (hchain.mem_added hx))
  simpa using (List.subperm_of_subset (chain_nodup h hchain) hsub).length_le

/-! ## A new action -/

/-- What executing an `Add` can do. -/
inductive AddEffect (p : Telephony) (c : CallId) (call : Call) (a : ActionId) : Telephony → Prop
  | answered (hcurrent : call.mpCurrentAction = none) (hans : call.mCallState = .Answered) :
      AddEffect p c call a (((p.record (.added c a)).setCall c
        (some { call with mpCurrentAction := some a })).asyncRunAction c)
  | early (hcurrent : call.mpCurrentAction = none) (hans : call.mCallState ≠ .Answered) :
      AddEffect p c call a ((p.record (.added c a)).setCall c
        (some { call with mpCurrentAction := some a }))
  | linked (done : List ActionId) (running : Option ActionId) (waiting : List ActionId)
      (z : ActionId) (last : IPhoneAction)
      (hchain : CallChain p.actions p.trace c call done running waiting)
      (hz : (running.toList ++ waiting).getLast? = some z) (hlast : p.actions z = some last) :
      AddEffect p c call a
        ((p.record (.added c a)).setAction z (some { last with mpNextAction := some a }))

/-- INTERNAL: what an Add does, to a call that exists.
SOURCE: ActionMachine.cpp:69-75, Call.cpp:77-97 -/
theorem addAction_eq (h : ActionsOk p) (hcall : p.calls c = some call)
    (hget : p.actions a = some action) :
    ∃ p', p.addAction c a = some p' ∧ AddEffect p c call a p' := by
  obtain ⟨done, running, waiting, hchain⟩ := h.chains.chain c call hcall
  cases hcurrent : call.mpCurrentAction with
  | none =>
    by_cases hans : call.mCallState = .Answered
    · refine ⟨_, ?_, .answered hcurrent hans⟩
      simp [Telephony.addAction, hget, Telephony.appendAction, Telephony.record, hcall, hcurrent,
        Telephony.setCurrentAction, hans]
    · refine ⟨_, ?_, .early hcurrent hans⟩
      simp [Telephony.addAction, hget, Telephony.appendAction, Telephony.record, hcall, hcurrent,
        Telephony.setCurrentAction, hans]
  | some b =>
    have hlist := hchain.chain
    rw [hcurrent] at hlist
    obtain ⟨z, hz⟩ : ∃ z, (running.toList ++ waiting).getLast? = some z := by
      cases hl : running.toList ++ waiting with
      | nil =>
        rw [hl] at hlist
        cases hlist
      | cons x l => exact ⟨_, List.getLast?_eq_some_getLast (List.cons_ne_nil x l)⟩
    obtain ⟨last, hlast⟩ := hlist.alloc (List.mem_of_getLast? hz)
    refine ⟨_, ?_, .linked done running waiting z last hchain hz hlast⟩
    have hwalk := (hlist.lastCell (chain_length h hchain)).trans hz
    simp [Telephony.addAction, hget, Telephony.appendAction, Telephony.record, hcall, hcurrent,
      hwalk, hlast]

/-! ## The end of an action -/

/-- An action is cleaned, and its deletion posted. -/
def afterCleaning (p : Telephony) (c : CallId) (a : ActionId) : Telephony :=
  (((p.setAction a ((p.actions a).map fun action => { action with mCleaned := true })).post
    (.Delete c a)).record (.deletePosted a))

/-- The running action of a call has terminated, and is not cleaned yet. -/
def afterFinish (p : Telephony) (c : CallId) (call : Call) (a : ActionId) (action : IPhoneAction) :
    Telephony :=
  (p.record (.terminated c a)).setCall c
    (some { call with mpCurrentAction := action.mpNextAction, mRtpObservers := [] })

/-- The state after the running action of a call has terminated. -/
def afterTermination (p : Telephony) (c : CallId) (call : Call) (a : ActionId)
    (action : IPhoneAction) : Telephony :=
  if action.mpNextAction.isSome then
    (afterCleaning (afterFinish p c call a action) c a).asyncRunAction c
  else afterCleaning (afterFinish p c call a action) c a

/-- INTERNAL: what the termination of a play action does. SOURCE: ActionMachine.cpp:58-67,
PlayPhoneAction.cpp:47-56 -/
theorem actionTerminated_eq {play folder : CString} (hcall : p.calls c = some call)
    (hobs : call.mRtpObservers = [a]) (hget : p.actions a = some action)
    (hclean : action.mCleaned = false) (hplay : action.actionClass = .play play folder) :
    p.actionTerminated c a = some (afterTermination p c call a action) := by
  have hdel : ((p.record (.terminated c a)).setCall c
      (some { call with mpCurrentAction := action.mpNextAction })).asyncDelAction c a =
      some (afterCleaning (afterFinish p c call a action) c a) := by
    simp [Telephony.asyncDelAction, Telephony.record, Telephony.setCall, Telephony.setAction, hget,
      hclean, hplay, Telephony.clean, Telephony.removeRTPObserver, hobs, Telephony.post, afterCleaning,
      afterFinish]
  have hcurrent : (p.record (.terminated c a)).setCurrentAction c action.mpNextAction =
      some ((p.record (.terminated c a)).setCall c
        (some { call with mpCurrentAction := action.mpNextAction })) := by
    simp [Telephony.setCurrentAction, Telephony.record, hcall]
  unfold Telephony.actionTerminated
  rw [hget]
  simp only [Option.bind_some, hcurrent, hdel, Option.map_some]
  rfl

/-! ## An invocation -/

/-- The current action of a call was invoked, and listens if it plays. -/
def afterInvocation (p : Telephony) (c : CallId) (call : Call) (a : ActionId)
    (action : IPhoneAction) (observers : List ActionId) : Telephony :=
  ((p.setAction a (some { action with mInvoked := true })).record (.invoked c a)).setCall c
    (some { call with mpCurrentAction := some a, mRtpObservers := observers })

/-- INTERNAL: after the invocation the call still runs the action. -/
theorem afterInvocation_calls (p : Telephony) (c : CallId) (call : Call) (a : ActionId)
    (action : IPhoneAction) (observers : List ActionId) :
    (afterInvocation p c call a action observers).calls c =
      some { call with mpCurrentAction := some a, mRtpObservers := observers } :=
  Function.update_self ..

/-- INTERNAL: after the invocation the action is marked as invoked. -/
theorem afterInvocation_actions (p : Telephony) (c : CallId) (call : Call) (a : ActionId)
    (action : IPhoneAction) (observers : List ActionId) :
    (afterInvocation p c call a action observers).actions a =
      some { action with mInvoked := true } :=
  Function.update_self ..

/-- What executing a `Run` can do. -/
inductive RunEffect (p : Telephony) (c : CallId) (call : Call) :
    Telephony → Option SoundRequest → Prop
  | idle (hidle : ∀ a action, call.mpCurrentAction = some a → p.actions a = some action →
      action.mInvoked = true) : RunEffect p c call p none
  | ends (a : ActionId) (action : IPhoneAction) (hcurrent : call.mpCurrentAction = some a)
      (hget : p.actions a = some action) (hinv : action.mInvoked = false) :
      RunEffect p c call ((afterInvocation p c call a action []).post (.End c)) none
  | silent (a : ActionId) (action : IPhoneAction) (play folder : CString)
      (hcurrent : call.mpCurrentAction = some a) (hget : p.actions a = some action)
      (hinv : action.mInvoked = false) (hplay : action.actionClass = .play play folder)
      (hsounds : SoundListParser.getSoundList play = []) :
      RunEffect p c call (afterTermination (afterInvocation p c call a action [a]) c
        { call with mpCurrentAction := some a, mRtpObservers := [a] } a
        { action with mInvoked := true }) none
  | plays (a : ActionId) (action : IPhoneAction) (play folder : CString)
      (hcurrent : call.mpCurrentAction = some a) (hget : p.actions a = some action)
      (hinv : action.mInvoked = false) (hplay : action.actionClass = .play play folder)
      (hsounds : SoundListParser.getSoundList play ≠ []) :
      RunEffect p c call (afterInvocation p c call a action [a])
        (some ⟨c, a, folder, SoundListParser.getSoundList play⟩)

/-- INTERNAL: only an invoked action listens to the sounds of its call. -/
theorem observers_of_waiting {done waiting : List ActionId} {running : Option ActionId}
    (hchain : CallChain p.actions p.trace c call done running waiting)
    (hcurrent : call.mpCurrentAction = some a) (hget : p.actions a = some action)
    (hinv : action.mInvoked = false) : call.mRtpObservers = [] := by
  have hhead := hchain.current
  rw [hcurrent] at hhead
  rcases hchain.observers with hobs | ⟨b, cell, hb, -, -, -⟩
  · exact hobs
  · obtain ⟨cell', hcell', htrue, -⟩ := hchain.runs b hb
    rw [hb] at hhead
    obtain rfl : a = b := Option.some.inj hhead
    rw [hget] at hcell'
    obtain rfl := Option.some.inj hcell'
    rw [hinv] at htrue
    cases htrue

/-- INTERNAL: the current action is invoked when it waits. SOURCE: ActionMachine.cpp:77-86,
IPhoneAction.cpp:19-31 -/
theorem runAction_eq_invoke (hcall : p.calls c = some call)
    (hcurrent : call.mpCurrentAction = some a) (hget : p.actions a = some action)
    (hinv : action.mInvoked = false) (hobs : call.mRtpObservers = []) :
    p.runAction c = (afterInvocation p c call a action []).invoke c a action.actionClass := by
  have hcurrent' : ((p.setAction a (some { action with mInvoked := true })).record
      (.invoked c a)).setCurrentAction c (some a) =
      some (afterInvocation p c call a action []) := by
    simp [Telephony.setCurrentAction, Telephony.record, Telephony.setAction, hcall,
      afterInvocation, hobs]
  have hrun : p.runAction c = p.invokeAction c a := by
    simp [Telephony.runAction, hcall, hcurrent]
  rw [hrun]
  simp only [Telephony.invokeAction, hget, Option.bind_some, hinv, Bool.false_eq_true,
    if_false, hcurrent']

/-- INTERNAL: what the invocation of a play action does. SOURCE: PlayPhoneAction.cpp:17-45 -/
theorem runAction_play {done waiting : List ActionId} {running : Option ActionId}
    {play folder : CString} (hcall : p.calls c = some call)
    (hchain : CallChain p.actions p.trace c call done running waiting)
    (hcurrent : call.mpCurrentAction = some a) (hget : p.actions a = some action)
    (hinv : action.mInvoked = false) (hclass : action.actionClass = .play play folder) :
    p.runAction c =
      if SoundListParser.getSoundList play = [] then
        some (afterTermination (afterInvocation p c call a action [a]) c
          { call with mpCurrentAction := some a, mRtpObservers := [a] } a
          { action with mInvoked := true }, none)
      else some (afterInvocation p c call a action [a],
        some ⟨c, a, folder, SoundListParser.getSoundList play⟩) := by
  have hhead := hchain.current
  rw [hcurrent] at hhead
  have hclean : action.mCleaned = false := by
    obtain ⟨_, cell, hcell, -, hclean⟩ := hchain.held (List.mem_of_mem_head? hhead.symm)
    rw [hget] at hcell
    exact Option.some.inj hcell ▸ hclean
  have hobs := observers_of_waiting hchain hcurrent hget hinv
  have hlisten : (afterInvocation p c call a action []).addRTPObserver c a =
      some (afterInvocation p c call a action [a]) := by
    simp [Telephony.addRTPObserver, afterInvocation, Telephony.setCall]
  rw [runAction_eq_invoke hcall hcurrent hget hinv hobs, hclass]
  split
  case isTrue hsounds =>
    have hcall' := afterInvocation_calls p c call a action [a]
    have hget' := afterInvocation_actions p c call a action [a]
    have hterm := actionTerminated_eq hcall' rfl hget' hclean hclass
    simp [Telephony.invoke, hlisten, hsounds, hterm, hclass]
  case isFalse hsounds => simp [Telephony.invoke, hlisten, hsounds]

/-- INTERNAL: what a Run does, to a call that exists.
SOURCE: ActionMachine.cpp:77-86, IPhoneAction.cpp:19-31,
PlayPhoneAction.cpp:17-45 -/
theorem runAction_eq (h : ActionsOk p) (hcall : p.calls c = some call) :
    ∃ p' request, p.runAction c = some (p', request) ∧ RunEffect p c call p' request := by
  obtain ⟨done, running, waiting, hchain⟩ := h.chains.chain c call hcall
  cases hcurrent : call.mpCurrentAction with
  | none =>
    refine ⟨p, none, by simp [Telephony.runAction, hcall, hcurrent], .idle fun a action ha => ?_⟩
    rw [hcurrent] at ha
    cases ha
  | some a =>
    have hhead := hchain.current
    rw [hcurrent] at hhead
    obtain ⟨invoked, action, hget, hflag, hclean⟩ := hchain.held (List.mem_of_mem_head? hhead.symm)
    cases hinv : action.mInvoked with
    | true =>
      refine ⟨p, none, ?_, .idle fun b cell hb hcell => ?_⟩
      · simp [Telephony.runAction, hcall, hcurrent, Telephony.invokeAction, hget, hinv]
      · rw [hcurrent] at hb
        obtain rfl := Option.some.inj hb
        rw [hget] at hcell
        exact Option.some.inj hcell ▸ hinv
    | false =>
      have hrun := runAction_eq_invoke hcall hcurrent hget hinv
        (observers_of_waiting hchain hcurrent hget hinv)
      cases hclass : action.actionClass with
      | release =>
        exact ⟨_, _, by rw [hrun, hclass]; rfl, .ends a action hcurrent hget hinv⟩
      | transfer dest =>
        exact ⟨_, _, by rw [hrun, hclass]; rfl, .ends a action hcurrent hget hinv⟩
      | play play folder =>
        have hplay := runAction_play hcall hchain hcurrent hget hinv hclass
        by_cases hsounds : SoundListParser.getSoundList play = []
        · rw [if_pos hsounds] at hplay
          exact ⟨_, _, hplay, .silent a action play folder hcurrent hget hinv hclass hsounds⟩
        · rw [if_neg hsounds] at hplay
          exact ⟨_, _, hplay, .plays a action play folder hcurrent hget hinv hclass hsounds⟩

/-! ## The end of the sounds -/

/-- What executing a `NotifySoundsEmpty` can do. -/
inductive NotifyEffect (p : Telephony) (c : CallId) (call : Call) : Telephony → Prop
  | unheard (hobs : call.mRtpObservers = []) : NotifyEffect p c call p
  | ends (a : ActionId) (action : IPhoneAction) (done waiting : List ActionId)
      (hchain : CallChain p.actions p.trace c call done (some a) waiting)
      (hobs : call.mRtpObservers = [a]) (hget : p.actions a = some action) :
      NotifyEffect p c call (afterTermination p c call a action)

/-- INTERNAL: what a notification does, to a call that exists.
SOURCE: Call.cpp:118-126, PlayPhoneAction.cpp:47-51 -/
theorem notifySoundsEmpty_eq (h : ActionsOk p) (hcall : p.calls c = some call) :
    ∃ p', p.notifySoundsEmpty c = some p' ∧ NotifyEffect p c call p' := by
  obtain ⟨done, running, waiting, hchain⟩ := h.chains.chain c call hcall
  rcases hchain.observers with hobs | ⟨a, action, hrun, hobs, hget, play, folder, hplay⟩
  · refine ⟨p, ?_, .unheard hobs⟩
    simp [Telephony.notifySoundsEmpty, hcall, hobs, Telephony.notifyObservers]
  · subst hrun
    obtain ⟨cell, hcell, -, hclean⟩ := hchain.runs a rfl
    rw [hget] at hcell
    obtain rfl := Option.some.inj hcell
    refine ⟨_, ?_, .ends a action done waiting hchain hobs hget⟩
    simp [Telephony.notifySoundsEmpty, hcall, hobs, Telephony.notifyObservers,
      actionTerminated_eq hcall hobs hget hclean hplay]

/-! ## The end of a call -/

/-- All actions of a list are cleaned, in turn. -/
def afterCleaningAll (p : Telephony) (c : CallId) (l : List ActionId) : Telephony :=
  l.foldl (fun p a => afterCleaning p c a) p

/-- INTERNAL: cleaning an action, seen without the call, which only loses an observer. -/
theorem asyncDelAction_eq {action : IPhoneAction} (hcall : p.calls c = some call)
    (hget : p.actions a = some action) (hclean : action.mCleaned = false) :
    ∃ p' call', p.asyncDelAction c a = some p' ∧ p'.calls c = some call' ∧
      p'.setCall c none = afterCleaning (p.setCall c none) c a := by
  -- an action that plays nothing does not listen
  have hquiet (hnothing : ∀ q : Telephony, q.clean c a action.actionClass = some q) :
      ∃ p' call', p.asyncDelAction c a = some p' ∧ p'.calls c = some call' ∧
        p'.setCall c none = afterCleaning (p.setCall c none) c a := by
    refine ⟨((p.setAction a (some { action with mCleaned := true })).post (.Delete c a)).record
      (.deletePosted a), call, ?_, hcall, ?_⟩
    · simp [Telephony.asyncDelAction, hget, hclean, hnothing]
    · simp [afterCleaning, Telephony.setCall, Telephony.setAction, Telephony.post,
        Telephony.record, hget]
  cases hclass : action.actionClass with
  | play play folder =>
    refine ⟨(((p.setAction a (some { action with mCleaned := true })).setCall c (some { call with
        mRtpObservers := call.mRtpObservers.erase a })).post (.Delete c a)).record
        (.deletePosted a), _, ?_, Function.update_self .., ?_⟩
    · simp [Telephony.asyncDelAction, hget, hclean, hclass, Telephony.clean,
        Telephony.removeRTPObserver, Telephony.setAction, hcall]
    · simp [afterCleaning, Telephony.setCall, Telephony.setAction, Telephony.post,
        Telephony.record, hget]
  | release =>
    apply hquiet
    intro q
    rw [hclass]
    rfl
  | transfer dest =>
    apply hquiet
    intro q
    rw [hclass]
    rfl

/-- INTERNAL: by induction on the chain, which stays linked while its actions are cleaned.
SOURCE: ActionMachine.cpp:44-56 -/
theorem destroyLoop_eq {l : List ActionId} {start : Option ActionId} {n : ℕ}
    (hcall : p.calls c = some call) (hlen : l.length ≤ n) (hnodup : l.Nodup)
    (hlist : IsList p.actions IPhoneAction.mpNextAction start l)
    (hclean : ∀ a ∈ l, ∃ action, p.actions a = some action ∧ action.mCleaned = false) :
    ∃ p', Telephony.destroyLoop c n start p = some p' ∧
      p'.setCall c none = afterCleaningAll (p.setCall c none) c l := by
  induction l generalizing p call start n with
  | nil =>
    obtain rfl : start = none := hlist
    refine ⟨p, ?_, rfl⟩
    cases n <;> rfl
  | cons a l ih =>
    obtain ⟨rfl, action, hget, htail⟩ := hlist
    obtain ⟨m, rfl⟩ : ∃ m, n = m + 1 := ⟨n - 1, by simp at hlen; omega⟩
    obtain ⟨halnot, hnodup'⟩ := List.nodup_cons.mp hnodup
    have hfalse : action.mCleaned = false := by
      obtain ⟨cell, hcell, hfalse⟩ := hclean a List.mem_cons_self
      rw [hget] at hcell
      exact Option.some.inj hcell ▸ hfalse
    obtain ⟨q, call', hdel, hcall', hq⟩ := asyncDelAction_eq hcall hget hfalse
    have hactions : q.actions =
        Function.update p.actions a (some { action with mCleaned := true }) := by
      have h := congrArg Telephony.actions hq
      simpa [Telephony.setCall, afterCleaning, Telephony.record, Telephony.post,
        Telephony.setAction, hget] using h
    have hsame (b : ActionId) (hb : b ∈ l) : q.actions b = p.actions b := by
      have hba : b ≠ a := fun heq => halnot (heq ▸ hb)
      rw [hactions, Function.update_of_ne hba]
    obtain ⟨p', hloop, hp'⟩ := ih (p := q) hcall' (n := m) (by simp at hlen; omega) hnodup'
      (htail.frame fun b hb v hv => ⟨v, (hsame b hb).trans hv, rfl⟩)
      (fun b hb => by
        obtain ⟨cell, hcell, hfalse⟩ := hclean b (List.mem_cons_of_mem a hb)
        exact ⟨cell, (hsame b hb).trans hcell, hfalse⟩)
    refine ⟨p', ?_, ?_⟩
    · have hnext : q.actions a = some { action with mCleaned := true } := by
        rw [hactions, Function.update_self]
      simp [Telephony.destroyLoop, hdel, hnext, hloop]
    · rw [hp', hq]
      rfl

/-- INTERNAL: what `~Call` does. SOURCE: Call.cpp:20-30, ActionMachine.cpp:44-56 -/
theorem destroyCall_eq (h : ActionsOk p) (hcall : p.calls c = some call) :
    ∃ done running waiting, CallChain p.actions p.trace c call done running waiting ∧
      p.destroyCall c =
        some (afterCleaningAll (p.setCall c none) c (running.toList ++ waiting)) := by
  obtain ⟨done, running, waiting, hchain⟩ := h.chains.chain c call hcall
  refine ⟨done, running, waiting, hchain, ?_⟩
  have hcurrent : p.setCurrentAction c none =
      some (p.setCall c (some { call with mpCurrentAction := none })) := by
    simp [Telephony.setCurrentAction, hcall]
  have hheld (b : ActionId) (hb : b ∈ running.toList ++ waiting) :
      ∃ action, p.actions b = some action ∧ action.mCleaned = false := by
    obtain ⟨-, action, hget, -, hclean⟩ := hchain.held hb
    exact ⟨action, hget, hclean⟩
  obtain ⟨p', hloop, hp'⟩ := destroyLoop_eq
    (p := p.setCall c (some { call with mpCurrentAction := none }))
    (Function.update_self ..) (chain_length h hchain) (chain_nodup h hchain) hchain.chain hheld
  have hdrop : (p.setCall c (some { call with mpCurrentAction := none })).setCall c none =
      p.setCall c none := by
    simp [Telephony.setCall]
  have halloc : (p.setCall c (some { call with mpCurrentAction := none })).allocated =
      p.allocated := rfl
  rw [hdrop] at hp'
  simp [Telephony.destroyCall, Telephony.destroyChain, hcall, hcurrent, halloc, hloop, hp']

/-! ## All commands -/

/-- The call that a command reads or changes. -/
def commandUses : DumCommand → Option CallId
  | .Add c _ | .Run c | .NotifySoundsEmpty c _ => some c
  | .Delete _ _ | .End _ => none

/-- What executing a command can do, after it was taken from the queue. -/
inductive CommandEffect (p : Telephony) : DumCommand → Telephony → Option SoundRequest → Prop
  | add {c : CallId} {a : ActionId} {call : Call} {p' : Telephony} (hcall : p.calls c = some call)
      (heff : AddEffect p c call a p') : CommandEffect p (.Add c a) p' none
  | run {c : CallId} {call : Call} {p' : Telephony} {request : Option SoundRequest}
      (hcall : p.calls c = some call) (heff : RunEffect p c call p' request) :
      CommandEffect p (.Run c) p' request
  | delete {c : CallId} {a : ActionId} {action : IPhoneAction} (hget : p.actions a = some action)
      (hclean : action.mCleaned = true) :
      CommandEffect p (.Delete c a) ((p.setAction a none).record (.deleted a)) none
  | notify {c : CallId} {seen : ℕ} {call : Call} {p' : Telephony} (hcall : p.calls c = some call)
      (heff : NotifyEffect p c call p') : CommandEffect p (.NotifySoundsEmpty c seen) p' none
  | finish {c : CallId} : CommandEffect p (.End c) p none

/-- INTERNAL: the queue after its first command was taken. -/
theorem ActionsOk.pop {cmd : DumCommand} {rest : List DumCommand} (h : ActionsOk p)
    (hdum : p.dum = cmd :: rest) :
    ActionsOk { p with dum := rest } ∧
      PendingOk p.actions p.trace p.callCount (cmd :: pending { p with dum := rest }) := by
  have hpending : pending p = cmd :: pending { p with dum := rest } := by simp [pending, hdum]
  have hcommands := hpending ▸ h.commands
  exact ⟨⟨h.chains, h.memory, hcommands.tail⟩, hcommands⟩

/-- INTERNAL: a command that does not use a destroyed call can be executed.
SOURCE: AppDialogSetActionCommand.cpp:16-41 -/
theorem dumProcess_eq {cmd : DumCommand} {rest : List DumCommand} (h : ActionsOk p)
    (hdum : p.dum = cmd :: rest) (hlive : ∀ c, commandUses cmd = some c → p.calls c ≠ none) :
    ∃ p' request, p.dumProcess = some (p', request) ∧
      CommandEffect { p with dum := rest } cmd p' request := by
  obtain ⟨hpop, hcommands⟩ := h.pop hdum
  have hprocess : p.dumProcess = { p with dum := rest }.executeCommand cmd := by
    simp [Telephony.dumProcess, hdum]
  rw [hprocess]
  cases cmd with
  | Add c a =>
    obtain ⟨call, hcall⟩ := Option.ne_none_iff_exists'.mp (hlive c rfl)
    obtain ⟨⟨k, hget⟩, -⟩ := hcommands.adds c a List.mem_cons_self
    obtain ⟨p', heq, heff⟩ := addAction_eq (p := { p with dum := rest }) hpop hcall hget
    exact ⟨p', none, by simp [Telephony.executeCommand, heq], .add hcall heff⟩
  | Run c =>
    obtain ⟨call, hcall⟩ := Option.ne_none_iff_exists'.mp (hlive c rfl)
    obtain ⟨p', request, heq, heff⟩ := runAction_eq (p := { p with dum := rest }) hpop hcall
    exact ⟨p', request, heq, .run hcall heff⟩
  | Delete c a =>
    obtain ⟨action, hget, hclean⟩ := hcommands.deletes c a List.mem_cons_self
    refine ⟨_, none, ?_, .delete hget hclean⟩
    simp [Telephony.executeCommand, Telephony.deleteAction, hget]
  | NotifySoundsEmpty c seen =>
    obtain ⟨call, hcall⟩ := Option.ne_none_iff_exists'.mp (hlive c rfl)
    obtain ⟨p', heq, heff⟩ := notifySoundsEmpty_eq (p := { p with dum := rest }) hpop hcall
    exact ⟨p', none, by simp [Telephony.executeCommand, heq], .notify hcall heff⟩
  | End c => exact ⟨_, none, rfl, .finish⟩

/-- INTERNAL: a command that is executed does not use a destroyed call. -/
theorem live_of_dumProcess {cmd : DumCommand} {rest : List DumCommand} (hdum : p.dum = cmd :: rest)
    (hstep : p.dumProcess = some (p', request)) (huses : commandUses cmd = some c) :
    p.calls c ≠ none := by
  intro hnone
  have hexec : { p with dum := rest }.executeCommand cmd = some (p', request) := by
    rw [← hstep]
    simp [Telephony.dumProcess, hdum]
  cases cmd with
  | Add d a =>
    obtain rfl : d = c := Option.some.inj huses
    have hfail : ({ p with dum := rest } : Telephony).addAction d a = none := by
      simp [Telephony.addAction, Telephony.appendAction, Telephony.record, hnone]
    simp [Telephony.executeCommand, hfail] at hexec
  | Run d =>
    obtain rfl : d = c := Option.some.inj huses
    simp [Telephony.executeCommand, Telephony.runAction, hnone] at hexec
  | NotifySoundsEmpty d seen =>
    obtain rfl : d = c := Option.some.inj huses
    simp [Telephony.executeCommand, Telephony.notifySoundsEmpty, hnone] at hexec
  | _ => cases huses

/-- INTERNAL: **what the dialog manager can do**: it takes the oldest command and does what that
command does. -/
theorem dumProcess_cases (h : ActionsOk p) (hstep : p.dumProcess = some (p', request)) :
    ∃ cmd rest, p.dum = cmd :: rest ∧ CommandEffect { p with dum := rest } cmd p' request := by
  cases hdum : p.dum with
  | nil => simp [Telephony.dumProcess, hdum] at hstep
  | cons cmd rest =>
    obtain ⟨q, request', heq, heff⟩ :=
      dumProcess_eq h hdum fun c huses => live_of_dumProcess hdum hstep huses
    rw [hstep] at heq
    cases heq
    exact ⟨cmd, rest, rfl, heff⟩

/-! ## All steps -/

/-- What a step of one of the threads can do. -/
inductive PhoneEffect (p : Telephony) : PhoneAct → Telephony → Prop
  | asyncAddAction {c : CallId} (k : PhoneActionClass) (hc : c < p.callCount) :
      PhoneEffect p (.asyncAddAction c k) (p.asyncAddAction c k)
  | releaseCall {c : CallId} (hc : c < p.callCount) :
      PhoneEffect p (.releaseCall c) (p.releaseCall c)
  | onSoundQueueEmpty {c : CallId} (seen : ℕ) (hc : c < p.callCount) :
      PhoneEffect p (.onSoundQueueEmpty c seen) (p.onSoundQueueEmpty c seen)
  | newCall (incomming : Bool) : PhoneEffect p (.newCall incomming) (p.newCall incomming)
  | ringing {c : CallId} {call : Call} (hcall : p.calls c = some call)
      (hinitial : call.mCallState = .Initial) :
      PhoneEffect p (.onProvisional c) (p.setCall c (some { call with mCallState := .Ringing }))
  | notInitial {c : CallId} : PhoneEffect p (.onProvisional c) p
  | connected {c : CallId} {call : Call} (hcall : p.calls c = some call) :
      PhoneEffect p (.onConnected c) (p.setCall c (some { call with mCallState := .Answered }))
  | answered {c : CallId} {call : Call} (hcall : p.calls c = some call) :
      PhoneEffect p (.onAnswer c)
        ((p.setCall c (some { call with mCallState := .Answered })).asyncRunAction c)
  | dumPost {cmd : DumCommand} {rest : List DumCommand} (hposting : p.posting = cmd :: rest) :
      PhoneEffect p .dumPost { p with dum := p.dum ++ [cmd], posting := rest }
  | dumProcess {cmd : DumCommand} {rest : List DumCommand} {p' : Telephony}
      {request : Option SoundRequest} (hdum : p.dum = cmd :: rest)
      (heff : CommandEffect { p with dum := rest } cmd p' request) : PhoneEffect p .dumProcess p'
  | destroyed {c : CallId} {call : Call} (done : List ActionId) (running : Option ActionId)
      (waiting : List ActionId) (hcall : p.calls c = some call)
      (hchain : CallChain p.actions p.trace c call done running waiting) :
      PhoneEffect p (.destroyCall c)
        (afterCleaningAll (p.setCall c none) c (running.toList ++ waiting))

/-- INTERNAL: a callback is executed for a live call. -/
theorem callback_eq_some {k : Call → Option Telephony} (h : callback p c k = some p') :
    ∃ call, p.calls c = some call ∧ k call = some p' := by
  unfold callback at h
  split at h
  · exact Option.bind_eq_some_iff.mp h
  · cases h

/-- INTERNAL: **what a step of the phone can do**, one case for each act. -/
theorem phoneStep_cases {act : PhoneAct} (h : ActionsOk p) (hstep : phoneStep p act = some p') :
    PhoneEffect p act p' := by
  cases act with
  | asyncAddAction c k =>
    obtain ⟨hc, heq⟩ := Option.ite_none_right_eq_some.mp hstep
    exact Option.some.inj heq ▸ .asyncAddAction k hc
  | releaseCall c =>
    obtain ⟨hc, heq⟩ := Option.ite_none_right_eq_some.mp hstep
    exact Option.some.inj heq ▸ .releaseCall hc
  | onSoundQueueEmpty c seen =>
    obtain ⟨hc, heq⟩ := Option.ite_none_right_eq_some.mp hstep
    exact Option.some.inj heq ▸ .onSoundQueueEmpty seen hc
  | newCall incomming =>
    cases hstep
    exact .newCall incomming
  | onProvisional c =>
    obtain ⟨call, hcall, heq⟩ := callback_eq_some hstep
    split at heq
    · rename_i hinitial
      cases heq
      exact .ringing hcall hinitial
    · cases heq
      exact .notInitial
  | onConnected c =>
    obtain ⟨call, hcall, heq⟩ := callback_eq_some hstep
    obtain ⟨-, heq⟩ := Option.ite_none_right_eq_some.mp heq
    cases heq
    exact .connected hcall
  | onAnswer c =>
    obtain ⟨call, hcall, heq⟩ := callback_eq_some hstep
    obtain ⟨-, heq⟩ := Option.ite_none_left_eq_some.mp heq
    cases heq
    exact .answered hcall
  | dumPost =>
    have hpost : p.dumPost = some p' := hstep
    unfold Telephony.dumPost at hpost
    split at hpost
    · cases hpost
    · rename_i hposting
      cases hpost
      exact .dumPost hposting
  | dumProcess =>
    obtain ⟨-, heq⟩ := Option.ite_none_right_eq_some.mp hstep
    obtain ⟨⟨q, request⟩, hprocess, rfl⟩ := Option.map_eq_some_iff.mp heq
    obtain ⟨cmd, rest, hdum, heff⟩ := dumProcess_cases h hprocess
    exact .dumProcess hdum heff
  | destroyCall c =>
    obtain ⟨call, hcall, heq⟩ := callback_eq_some hstep
    obtain ⟨done, running, waiting, hchain, heq'⟩ := destroyCall_eq h hcall
    obtain rfl := Option.some.inj (heq'.symm.trans heq)
    exact .destroyed done running waiting hcall hchain

end Effects

end Dhas.Analysis
