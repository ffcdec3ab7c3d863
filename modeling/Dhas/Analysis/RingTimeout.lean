import Dhas.Model.UnansweredCalls
import Dhas.Analysis.CommandEffects

/-!
# The calls that nobody answers are ended

A call is ended for that at most once, not before it has been ringing for the whole time, and
never after it was answered or destroyed. A call that rings has its command on the way until
then: when no timer is due and no command is left, every call that still rings has either been
ended or has time left.
-/

set_option autoImplicit false

namespace Dhas.Analysis.RingTimeout

open Dhas.Library Dhas.Program Dhas.Model
open Dhas.Model.UnansweredCalls

/-- The call that an event is about. -/
def about : RingEvent → CallId
  | .rang c _ => c
  | .answered c => c
  | .destroyed c => c
  | .ended c _ => c

/-- The second of two events may come after the first. A call rings once, before anything else
happens to it, and it is ended once, after the time, and not after it was answered or destroyed. -/
def Follows (mRONATimeout : ℕ) : RingEvent → RingEvent → Prop
  | earlier, .rang c _ => about earlier ≠ c
  | .rang c r, .ended d t => c = d → r + 1000 * mRONATimeout ≤ t
  | earlier, .ended c _ => about earlier ≠ c
  | _, _ => True

/-- The calls that the commands ended. -/
def endedCalls (trace : List RingEvent) : List CallId :=
  trace.filterMap fun
    | .ended c _ => some c
    | _ => none

/-- What holds of the calls that nobody answers. -/
structure EndsUnanswered (mRONATimeout : ℕ) (s : UnansweredCalls) : Prop where
  ordered : s.trace.Pairwise (Follows mRONATimeout)
  /-- a call that is ended has been ringing for the whole time -/
  ended : ∀ c t, .ended c t ∈ s.trace → ∃ r, .rang c r ∈ s.trace ∧ r + 1000 * mRONATimeout ≤ t
  /-- a call that rings has one command on the way, or one command ended it -/
  pending : ∀ c, getCallState s.phone c = some .Ringing →
    (s.timers.map (·.2) ++ s.commands ++ endedCalls s.trace).count c = 1
  /-- when nothing is due, a call that still rings was ended or has time left -/
  swept : (∀ timer ∈ s.timers, s.now < timer.1) → s.commands = [] →
    ∀ c, getCallState s.phone c = some .Ringing →
      c ∈ endedCalls s.trace ∨
        ∃ r, .rang c r ∈ s.trace ∧ s.now < r + 1000 * mRONATimeout

/-! ## The states of the calls -/

/-- The calls are the same, and in the same states. -/
structure SameStates (p p' : Telephony) : Prop where
  count : p'.callCount = p.callCount
  states : ∀ c, getCallState p' c = getCallState p c

section States

variable {p p' p'' : Telephony} {c : CallId} {a : ActionId}

/-- INTERNAL: nothing has changed. -/
theorem SameStates.refl (p : Telephony) : SameStates p p := ⟨rfl, fun _ => rfl⟩

/-- INTERNAL: one step after the other. -/
theorem SameStates.trans (h : SameStates p p') (h' : SameStates p' p'') : SameStates p p'' :=
  ⟨h'.count.trans h.count, fun c => (h'.states c).trans (h.states c)⟩

/-- INTERNAL: a step that leaves the table of the calls alone. -/
theorem SameStates.of_calls (hcount : p'.callCount = p.callCount) (hcalls : p'.calls = p.calls) :
    SameStates p p' := by
  refine ⟨hcount, fun c => ?_⟩
  unfold getCallState
  rw [hcalls]

/-- INTERNAL: another member of a call is written. -/
theorem SameStates.setCall {call call' : Call} (hcall : p.calls c = some call)
    (hstate : call'.mCallState = call.mCallState) : SameStates p (p.setCall c (some call')) := by
  refine ⟨rfl, fun d => ?_⟩
  unfold getCallState Telephony.setCall
  by_cases hd : d = c
  · subst hd
    simp [hcall, hstate]
  · simp [Function.update_of_ne hd]

/-- INTERNAL: the current action of a call is written. -/
theorem setCurrentAction_same {next : Option ActionId} (h : p.setCurrentAction c next = some p') :
    SameStates p p' := by
  unfold Telephony.setCurrentAction at h
  obtain ⟨call, hcall, rfl⟩ := Option.map_eq_some_iff.mp h
  exact .setCall hcall rfl

/-- INTERNAL: an observer of a call is added. -/
theorem addRTPObserver_same (h : p.addRTPObserver c a = some p') : SameStates p p' := by
  unfold Telephony.addRTPObserver at h
  obtain ⟨call, hcall, rfl⟩ := Option.map_eq_some_iff.mp h
  split
  · exact .refl p
  · exact .setCall hcall rfl

/-- INTERNAL: an observer of a call is removed. -/
theorem removeRTPObserver_same (h : p.removeRTPObserver c a = some p') : SameStates p p' := by
  unfold Telephony.removeRTPObserver at h
  obtain ⟨call, hcall, rfl⟩ := Option.map_eq_some_iff.mp h
  exact .setCall hcall rfl

/-- INTERNAL: an action is cleaned. -/
theorem clean_same {k : PhoneActionClass} (h : p.clean c a k = some p') : SameStates p p' := by
  cases k with
  | play mPlayString mSoundsFolder => exact removeRTPObserver_same h
  | release | transfer mDestination =>
    obtain rfl := Option.some.inj h
    exact .refl p

/-- INTERNAL: an action is cleaned, and its Delete is posted. -/
theorem asyncDelAction_same (h : p.asyncDelAction c a = some p') : SameStates p p' := by
  unfold Telephony.asyncDelAction at h
  obtain ⟨action, -, h⟩ := Option.bind_eq_some_iff.mp h
  split at h
  · obtain rfl := Option.some.inj h
    exact .refl p
  · obtain ⟨q, hclean, rfl⟩ := Option.map_eq_some_iff.mp h
    have hset : SameStates p (p.setAction a (some { action with mCleaned := true })) :=
      .of_calls rfl rfl
    exact (hset.trans (clean_same hclean)).trans (.of_calls rfl rfl)

/-- INTERNAL: an action is terminated, and the next one may be run. -/
theorem actionTerminated_same (h : p.actionTerminated c a = some p') : SameStates p p' := by
  unfold Telephony.actionTerminated at h
  obtain ⟨action, -, h⟩ := Option.bind_eq_some_iff.mp h
  obtain ⟨q, hnext, h⟩ := Option.bind_eq_some_iff.mp h
  obtain ⟨r, hdel, rfl⟩ := Option.map_eq_some_iff.mp h
  have hrecord : SameStates p (p.record (.terminated c a)) := .of_calls rfl rfl
  have hr : SameStates p r :=
    (hrecord.trans (setCurrentAction_same hnext)).trans (asyncDelAction_same hdel)
  split
  · exact hr.trans (.of_calls rfl rfl)
  · exact hr

/-- INTERNAL: the actions that wait are cleaned, one after the other. -/
theorem destroyLoop_same {n : ℕ} {next : Option ActionId}
    (h : Telephony.destroyLoop c n next p = some p') : SameStates p p' := by
  induction n generalizing next p with
  | zero =>
    cases next with
    | none =>
      obtain rfl := Option.some.inj h
      exact .refl p
    | some a => cases h
  | succ n ih =>
    cases next with
    | none =>
      obtain rfl := Option.some.inj h
      exact .refl p
    | some a =>
      rw [Telephony.destroyLoop] at h
      obtain ⟨q, hdel, h⟩ := Option.bind_eq_some_iff.mp h
      obtain ⟨action, -, h⟩ := Option.bind_eq_some_iff.mp h
      exact (asyncDelAction_same hdel).trans (ih h)

/-- INTERNAL: all the actions of a call are cleaned. -/
theorem destroyChain_same (h : p.destroyChain c = some p') : SameStates p p' := by
  unfold Telephony.destroyChain at h
  obtain ⟨call, -, h⟩ := Option.bind_eq_some_iff.mp h
  obtain ⟨q, hnext, h⟩ := Option.bind_eq_some_iff.mp h
  exact (setCurrentAction_same hnext).trans (destroyLoop_same h)

/-- INTERNAL: an action is added at the end of a call's actions. -/
theorem appendAction_same (h : p.appendAction c a = some p') : SameStates p p' := by
  unfold Telephony.appendAction at h
  obtain ⟨call, -, h⟩ := Option.bind_eq_some_iff.mp h
  split at h
  · obtain ⟨q, hnext, rfl⟩ := Option.map_eq_some_iff.mp h
    split
    · exact (setCurrentAction_same hnext).trans (.of_calls rfl rfl)
    · exact setCurrentAction_same hnext
  · obtain ⟨last, -, h⟩ := Option.bind_eq_some_iff.mp h
    obtain ⟨action, -, rfl⟩ := Option.map_eq_some_iff.mp h
    exact .of_calls rfl rfl

/-- INTERNAL: an action is invoked. -/
theorem invoke_same {k : PhoneActionClass} {request : Option SoundRequest}
    (h : p.invoke c a k = some (p', request)) : SameStates p p' := by
  cases k with
  | play mPlayString mSoundsFolder =>
    obtain ⟨q, hobserver, h⟩ := Option.bind_eq_some_iff.mp h
    dsimp only at h
    split at h
    · obtain ⟨r, hterminated, heq⟩ := Option.map_eq_some_iff.mp h
      obtain rfl := congrArg Prod.fst heq
      exact (addRTPObserver_same hobserver).trans (actionTerminated_same hterminated)
    · obtain rfl := congrArg Prod.fst (Option.some.inj h)
      exact addRTPObserver_same hobserver
  | release | transfer mDestination =>
    obtain rfl := congrArg Prod.fst (Option.some.inj h)
    exact .of_calls rfl rfl

/-- INTERNAL: the current action of a call is run. -/
theorem runAction_same {request : Option SoundRequest} (h : p.runAction c = some (p', request)) :
    SameStates p p' := by
  unfold Telephony.runAction at h
  obtain ⟨call, -, h⟩ := Option.bind_eq_some_iff.mp h
  split at h
  · obtain rfl := congrArg Prod.fst (Option.some.inj h)
    exact .refl p
  · rename_i current
    unfold Telephony.invokeAction at h
    obtain ⟨action, -, h⟩ := Option.bind_eq_some_iff.mp h
    split at h
    · obtain rfl := congrArg Prod.fst (Option.some.inj h)
      exact .refl p
    · obtain ⟨q, hcurrent, h⟩ := Option.bind_eq_some_iff.mp h
      have hset := setCurrentAction_same hcurrent
      have hq : SameStates p q := ⟨hset.count, hset.states⟩
      exact hq.trans (invoke_same h)

/-- INTERNAL: the observers of a call are notified. -/
theorem notifyObservers_same {list : List ActionId} (h : p.notifyObservers c list = some p') :
    SameStates p p' := by
  induction list generalizing p with
  | nil =>
    obtain rfl := Option.some.inj h
    exact .refl p
  | cons a list ih =>
    unfold Telephony.notifyObservers at h ih
    rw [List.foldlM_cons] at h
    obtain ⟨q, hterminated, h⟩ := Option.bind_eq_some_iff.mp h
    exact (actionTerminated_same hterminated).trans (ih h)

/-- INTERNAL: **no command changes the state of a call.** -/
theorem executeCommand_same {cmd : DumCommand} {request : Option SoundRequest}
    (h : p.executeCommand cmd = some (p', request)) : SameStates p p' := by
  cases cmd with
  | Add c a =>
    obtain ⟨q, hadd, heq⟩ := Option.map_eq_some_iff.mp h
    obtain rfl := congrArg Prod.fst heq
    unfold Telephony.addAction at hadd
    obtain ⟨action, -, hadd⟩ := Option.bind_eq_some_iff.mp hadd
    have happend := appendAction_same hadd
    exact ⟨happend.count, happend.states⟩
  | Run c => exact runAction_same h
  | Delete c a =>
    obtain ⟨q, hdelete, heq⟩ := Option.map_eq_some_iff.mp h
    obtain rfl := congrArg Prod.fst heq
    unfold Telephony.deleteAction at hdelete
    obtain ⟨action, -, rfl⟩ := Option.map_eq_some_iff.mp hdelete
    exact .of_calls rfl rfl
  | NotifySoundsEmpty c seen =>
    obtain ⟨q, hnotify, heq⟩ := Option.map_eq_some_iff.mp h
    obtain rfl := congrArg Prod.fst heq
    unfold Telephony.notifySoundsEmpty at hnotify
    obtain ⟨call, -, hnotify⟩ := Option.bind_eq_some_iff.mp hnotify
    exact notifyObservers_same hnotify
  | End c =>
    obtain rfl := congrArg Prod.fst (Option.some.inj h)
    exact .refl p

/-- The states after a step of the calls. -/
def stateAfter (p : Telephony) : PhoneAct → CallId → Option CallState
  | .newCall _, c => if c = p.callCount then some .Initial else getCallState p c
  | .onProvisional d, c =>
    if c = d ∧ getCallState p c = some .Initial then some .Ringing else getCallState p c
  | .onConnected d, c => if c = d then some .Answered else getCallState p c
  | .onAnswer d, c => if c = d then some .Answered else getCallState p c
  | .destroyCall d, c => if c = d then none else getCallState p c
  | _, c => getCallState p c

/-- INTERNAL: a call is written with another state. -/
theorem getCallState_setCall (p : Telephony) (c d : CallId) (call : Option Call) :
    getCallState (p.setCall d call) c =
      if c = d then call.map (·.mCallState) else getCallState p c := by
  unfold getCallState Telephony.setCall
  by_cases hc : c = d
  · subst hc
    simp
  · simp [hc]

/-- The number of calls after a step of the calls. -/
def countAfter (p : Telephony) : PhoneAct → ℕ
  | .newCall _ => p.callCount + 1
  | _ => p.callCount

/-- INTERNAL: what a step of the calls does to their states. -/
theorem phoneStep_states {act : PhoneAct} (h : phoneStep p act = some p') :
    p'.callCount = countAfter p act ∧ ∀ c, getCallState p' c = stateAfter p act c := by
  cases act with
  | asyncAddAction d k | releaseCall d | onSoundQueueEmpty d seen =>
    obtain ⟨-, heq⟩ := Option.ite_none_right_eq_some.mp h
    obtain rfl := Option.some.inj heq
    exact ⟨rfl, fun c => rfl⟩
  | newCall incomming =>
    obtain rfl := Option.some.inj h
    exact ⟨rfl, fun c => getCallState_setCall p c p.callCount _⟩
  | onProvisional d =>
    obtain ⟨call, hcall, heq⟩ := callback_eq_some h
    have hstate : getCallState p d = some call.mCallState := by simp [getCallState, hcall]
    split at heq
    case isTrue hinitial =>
      obtain rfl := Option.some.inj heq
      refine ⟨rfl, fun c => ?_⟩
      rw [getCallState_setCall, stateAfter]
      by_cases hc : c = d
      · subst hc
        simp [hstate, hinitial]
      · simp [hc]
    case isFalse hinitial =>
      obtain rfl := Option.some.inj heq
      refine ⟨rfl, fun c => ?_⟩
      rw [stateAfter, if_neg]
      rintro ⟨rfl, hc⟩
      rw [hstate] at hc
      exact hinitial (Option.some.inj hc)
  | onConnected d =>
    obtain ⟨call, hcall, heq⟩ := callback_eq_some h
    obtain ⟨-, heq⟩ := Option.ite_none_right_eq_some.mp heq
    obtain rfl := Option.some.inj heq
    exact ⟨rfl, fun c => getCallState_setCall p c d _⟩
  | onAnswer d =>
    obtain ⟨call, hcall, heq⟩ := callback_eq_some h
    obtain ⟨-, heq⟩ := Option.ite_none_left_eq_some.mp heq
    obtain rfl := Option.some.inj heq
    exact ⟨rfl, fun c => getCallState_setCall p c d _⟩
  | dumPost =>
    have hpost : p.dumPost = some p' := h
    unfold Telephony.dumPost at hpost
    split at hpost
    · cases hpost
    · obtain rfl := Option.some.inj hpost
      exact ⟨rfl, fun c => rfl⟩
  | dumProcess =>
    obtain ⟨-, heq⟩ := Option.ite_none_right_eq_some.mp h
    obtain ⟨⟨q, request⟩, hprocess, rfl⟩ := Option.map_eq_some_iff.mp heq
    unfold Telephony.dumProcess at hprocess
    split at hprocess
    · cases hprocess
    · have hsame := executeCommand_same hprocess
      exact ⟨hsame.count, hsame.states⟩
  | destroyCall d =>
    obtain ⟨call, hcall, heq⟩ := callback_eq_some h
    obtain ⟨q, hchain, rfl⟩ := Option.map_eq_some_iff.mp heq
    have hsame := destroyChain_same hchain
    refine ⟨hsame.count, fun c => ?_⟩
    rw [getCallState_setCall, hsame.states]
    rfl

/-- INTERNAL: these callbacks are about a call that was not destroyed. -/
theorem live_of_heard {act : PhoneAct} (h : phoneStep p act = some p') {e : RingEvent}
    (he : e ∈ heard act) : ∃ call, p.calls (about e) = some call := by
  cases act with
  | onConnected d | onAnswer d | destroyCall d =>
    obtain rfl := List.mem_singleton.mp he
    obtain ⟨call, hcall, -⟩ := callback_eq_some h
    exact ⟨call, hcall⟩
  | _ => cases he

end States

/-! ## The commands -/

/-- A call began to ring, and at a time with this property. -/
def RangWhen (trace : List RingEvent) (c : CallId) (P : ℕ → Prop) : Prop :=
  (∃ r, .rang c r ∈ trace) ∧ ∀ r, .rang c r ∈ trace → P r

structure RingOk (mRONATimeout : ℕ) (s : UnansweredCalls) : Prop where
  live : ∀ c, getCallState s.phone c ≠ none → c < s.phone.callCount
  named : ∀ e ∈ s.trace, about e < s.phone.callCount
  /-- nothing happened yet to a call in its first state -/
  initial : ∀ c, getCallState s.phone c = some .Initial → ∀ e ∈ s.trace, about e ≠ c
  ringing : ∀ c, getCallState s.phone c = some .Ringing →
    (∃ r, .rang c r ∈ s.trace) ∧ .answered c ∉ s.trace ∧ .destroyed c ∉ s.trace
  ordered : s.trace.Pairwise (Follows mRONATimeout)
  /-- one command for a call -/
  once : (s.timers.map (·.2) ++ s.commands ++ endedCalls s.trace).Nodup
  pending : ∀ c, getCallState s.phone c = some .Ringing →
    c ∈ s.timers.map (·.2) ++ s.commands ++ endedCalls s.trace
  due : ∀ timer ∈ s.timers,
    RangWhen s.trace timer.2 fun r => timer.1 = r + 1000 * mRONATimeout
  waited : ∀ c ∈ s.commands, RangWhen s.trace c fun r => r + 1000 * mRONATimeout ≤ s.now
  ended : ∀ c t, .ended c t ∈ s.trace →
    RangWhen s.trace c fun r => r + 1000 * mRONATimeout ≤ t

section Commands

variable {trace : List RingEvent} {c : CallId} {t : ℕ} {P Q : ℕ → Prop} {mRONATimeout : ℕ}
  {s s' : UnansweredCalls} {phone : Telephony}

/-- INTERNAL: a call is among the ended ones when a command ended it. -/
theorem mem_endedCalls : c ∈ endedCalls trace ↔ ∃ t, .ended c t ∈ trace := by
  unfold endedCalls
  rw [List.mem_filterMap]
  constructor
  · rintro ⟨e, he, hc⟩
    cases e with
    | ended d t =>
      obtain rfl := Option.some.inj hc
      exact ⟨t, he⟩
    | _ => cases hc
  · rintro ⟨t, ht⟩
    exact ⟨.ended c t, ht, rfl⟩

/-- INTERNAL: the calls that two traces ended, one after the other. -/
theorem endedCalls_append (events : List RingEvent) :
    endedCalls (trace ++ events) = endedCalls trace ++ endedCalls events := by
  unfold endedCalls
  exact List.filterMap_append

/-- INTERNAL: a property of the time that follows from another. -/
theorem RangWhen.imp (h : RangWhen trace c P) (hPQ : ∀ r, P r → Q r) : RangWhen trace c Q :=
  ⟨h.1, fun r hr => hPQ r (h.2 r hr)⟩

/-- INTERNAL: what happens to another call, or is no ringing, leaves the time as it is. -/
theorem RangWhen.append (h : RangWhen trace c P) {e : RingEvent}
    (he : ∀ r, e = .rang c r → P r) : RangWhen (trace ++ [e]) c P := by
  obtain ⟨⟨r, hr⟩, hall⟩ := h
  refine ⟨⟨r, List.mem_append_left _ hr⟩, fun r' hr' => ?_⟩
  rcases List.mem_append.mp hr' with hold | hnew
  · exact hall r' hold
  · exact he r' (List.mem_singleton.mp hnew).symm

/-- INTERNAL: the invariant says that unanswered calls are ended. -/
theorem RingOk.endsUnanswered (h : RingOk mRONATimeout s) : EndsUnanswered mRONATimeout s where
  ordered := h.ordered
  ended := by
    intro c t ht
    obtain ⟨⟨r, hr⟩, hall⟩ := h.ended c t ht
    exact ⟨r, hr, hall r hr⟩
  pending := by
    intro c hc
    exact List.count_eq_one_of_mem h.once (h.pending c hc)
  swept := by
    intro htimers hcommands c hc
    have hmem := h.pending c hc
    rw [hcommands, List.append_nil, List.mem_append] at hmem
    rcases hmem with htimer | hended
    · obtain ⟨timer, hset, rfl⟩ := List.mem_map.mp htimer
      obtain ⟨⟨r, hr⟩, hall⟩ := h.due timer hset
      have hlater := htimers timer hset
      rw [hall r hr] at hlater
      exact .inr ⟨r, hr, hlater⟩
    · exact .inl hended

/-- INTERNAL: a call that has a command, or was ended, is not in its first state. -/
theorem RingOk.not_mem_of_initial (h : RingOk mRONATimeout s)
    (hc : getCallState s.phone c = some .Initial) :
    c ∉ s.timers.map (·.2) ++ s.commands ++ endedCalls s.trace := by
  have hnone : ∀ P : ℕ → Prop, ¬ RangWhen s.trace c P := by
    rintro P ⟨⟨r, hr⟩, -⟩
    exact h.initial c hc _ hr rfl
  intro hmem
  rcases List.mem_append.mp hmem with hmem | hended
  · rcases List.mem_append.mp hmem with htimer | hcommand
    · obtain ⟨timer, hset, rfl⟩ := List.mem_map.mp htimer
      exact hnone _ (h.due timer hset)
    · exact hnone _ (h.waited c hcommand)
  · obtain ⟨t, ht⟩ := mem_endedCalls.mp hended
    exact hnone _ (h.ended c t ht)

/-! ## The steps -/

/-- INTERNAL: at first no call rings. -/
theorem ringOk_init : RingOk mRONATimeout init := by
  refine ⟨?_, ?_, ?_, ?_, ?_, ?_, ?_, ?_, ?_, ?_⟩ <;>
    simp [UnansweredCalls.init, Telephony.init, getCallState, endedCalls]

/-- INTERNAL: time goes on. -/
theorem RingOk.tick (h : RingOk mRONATimeout s) : RingOk mRONATimeout { s with now := s.now + 1 } :=
  { h with waited := fun c hc => (h.waited c hc).imp fun _ hr => Nat.le_succ_of_le hr }

/-- INTERNAL: a timer whose time is over. -/
theorem RingOk.expire (h : RingOk mRONATimeout s) {timer : ℕ × CallId} (hmem : timer ∈ s.timers)
    (hdue : timer.1 ≤ s.now) :
    RingOk mRONATimeout
      { s with timers := s.timers.erase timer, commands := s.commands ++ [timer.2] } := by
  have hperm : (s.timers.map (·.2) ++ s.commands).Perm
      ((s.timers.erase timer).map (·.2) ++ (s.commands ++ [timer.2])) := by
    have htimers := (List.perm_cons_erase hmem).map (·.2)
    refine (htimers.append_right s.commands).trans ?_
    rw [List.map_cons, List.cons_append, ← List.append_assoc]
    exact (List.perm_append_singleton _ _).symm
  refine ⟨h.live, h.named, h.initial, h.ringing, h.ordered, ?_, ?_, ?_, ?_, h.ended⟩
  · exact ((hperm.append_right _).nodup_iff).mp h.once
  · intro c hc
    exact (hperm.append_right _).subset (h.pending c hc)
  · intro other hother
    exact h.due other (List.mem_of_mem_erase hother)
  · intro c hc
    rcases List.mem_append.mp hc with hold | hnew
    · exact h.waited c hold
    · obtain rfl := List.mem_singleton.mp hnew
      refine (h.due timer hmem).imp fun r hr => ?_
      rw [← hr]
      exact hdue

/-- INTERNAL: the next command. A call that rings has not been ended before.
SOURCE: AppDialogSetRONACommand.cpp:11-25 -/
theorem RingOk.execute (h : RingOk mRONATimeout s) {rest : List CallId}
    (hcommands : s.commands = c :: rest) :
    RingOk mRONATimeout ({ s with commands := rest }.executeCommand c) := by
  have hhead : c ∈ s.commands := by simp [hcommands]
  have hrest : ∀ d ∈ rest, d ∈ s.commands := fun d hd => by simp [hcommands, hd]
  have hperm : (s.timers.map (·.2) ++ s.commands ++ endedCalls s.trace).Perm
      (c :: (s.timers.map (·.2) ++ rest ++ endedCalls s.trace)) := by
    rw [hcommands, List.append_assoc, List.append_assoc]
    exact List.perm_middle
  have honce := (hperm.nodup_iff).mp h.once
  obtain ⟨hnot, hnodup⟩ := List.nodup_cons.mp honce
  unfold UnansweredCalls.executeCommand
  split
  case isTrue hringing =>
    have hringing : getCallState s.phone c = some .Ringing := hringing
    obtain ⟨hrang, hanswered, hdestroyed⟩ := h.ringing c hringing
    have hended : endedCalls (s.trace ++ [.ended c s.now]) = endedCalls s.trace ++ [c] :=
      endedCalls_append _
    have hmoved : (s.timers.map (·.2) ++ rest ++ endedCalls (s.trace ++ [.ended c s.now])).Perm
        (c :: (s.timers.map (·.2) ++ rest ++ endedCalls s.trace)) := by
      rw [hended, ← List.append_assoc]
      exact List.perm_append_singleton _ _
    have hwait : RangWhen s.trace c fun r => r + 1000 * mRONATimeout ≤ s.now := h.waited c hhead
    refine ⟨h.live, ?_, ?_, ?_, ?_, ?_, ?_, ?_, ?_, ?_⟩
    · intro e he
      rcases List.mem_append.mp he with hold | hnew
      · exact h.named e hold
      · obtain rfl := List.mem_singleton.mp hnew
        apply h.live c
        rw [hringing]
        exact Option.some_ne_none _
    · intro d hd e he
      rcases List.mem_append.mp he with hold | hnew
      · exact h.initial d hd e hold
      · obtain rfl := List.mem_singleton.mp hnew
        rintro rfl
        have hinitial : getCallState s.phone c = some .Initial := hd
        rw [hringing] at hinitial
        cases hinitial
    · intro d hd
      obtain ⟨⟨r, hr⟩, ha, hx⟩ := h.ringing d hd
      refine ⟨⟨r, List.mem_append_left _ hr⟩, ?_, ?_⟩
      · simpa [UnansweredCalls.record] using ha
      · simpa [UnansweredCalls.record] using hx
    · refine List.pairwise_append.mpr ⟨h.ordered, List.pairwise_singleton _ _, ?_⟩
      intro e he e' he'
      obtain rfl := List.mem_singleton.mp he'
      cases e with
      | rang d r =>
        rintro rfl
        exact hwait.2 r he
      | answered d =>
        rintro rfl
        exact hanswered he
      | destroyed d =>
        rintro rfl
        exact hdestroyed he
      | ended d t =>
        rintro rfl
        exact hnot (List.mem_append_right _ (mem_endedCalls.mpr ⟨t, he⟩))
    · exact (hmoved.nodup_iff).mpr honce
    · intro d hd
      exact hmoved.symm.subset (hperm.subset (h.pending d hd))
    · intro timer htimer
      exact (h.due timer htimer).append fun r hr => RingEvent.noConfusion hr
    · intro d hd
      exact (h.waited d (hrest d hd)).append fun r hr => RingEvent.noConfusion hr
    · intro d t hd
      rcases List.mem_append.mp hd with hold | hnew
      · exact (h.ended d t hold).append fun r hr => RingEvent.noConfusion hr
      · obtain ⟨rfl, rfl⟩ := RingEvent.ended.inj (List.mem_singleton.mp hnew)
        exact hwait.append fun r hr => RingEvent.noConfusion hr
  case isFalse hquiet =>
    refine ⟨h.live, h.named, h.initial, h.ringing, h.ordered, hnodup, ?_, h.due, ?_, h.ended⟩
    · intro d hd
      refine (List.mem_cons.mp (hperm.subset (h.pending d hd))).resolve_left ?_
      rintro rfl
      exact hquiet hd
    · intro d hd
      exact h.waited d (hrest d hd)

/-- INTERNAL: a new call rings. SOURCE: SIPEngine.cpp:267-277 -/
theorem RingOk.rings (h : RingOk mRONATimeout s) (hc : getCallState s.phone c = some .Initial)
    (hcount : phone.callCount = s.phone.callCount)
    (hstates : ∀ d, getCallState phone d =
      if d = c then some .Ringing else getCallState s.phone d) :
    RingOk mRONATimeout
      (({ s with phone := phone }.post mRONATimeout c).record [.rang c s.now]) := by
  have hnot := h.not_mem_of_initial hc
  have hfresh := h.initial c hc
  have hother {d : CallId} {P : ℕ → Prop} (hP : RangWhen s.trace d P) :
      RangWhen (s.trace ++ [.rang c s.now]) d P := by
    refine hP.append fun r hr => ?_
    obtain ⟨rfl, -⟩ := RingEvent.rang.inj hr
    obtain ⟨⟨r', hr'⟩, -⟩ := hP
    exact absurd rfl (hfresh _ hr')
  have hcommands : (s.timers ++ [(s.now + 1000 * mRONATimeout, c)]).map (·.2) ++ s.commands ++
      endedCalls (s.trace ++ [.rang c s.now]) =
        s.timers.map (·.2) ++ c :: (s.commands ++ endedCalls s.trace) := by
    rw [endedCalls_append]
    simp [endedCalls]
  have hperm : (s.timers.map (·.2) ++ c :: (s.commands ++ endedCalls s.trace)).Perm
      (c :: (s.timers.map (·.2) ++ s.commands ++ endedCalls s.trace)) := by
    rw [List.append_assoc]
    exact List.perm_middle
  refine ⟨?_, ?_, ?_, ?_, ?_, ?_, ?_, ?_, ?_, ?_⟩
  · intro d hd
    show d < phone.callCount
    rw [hcount]
    apply h.live d
    intro hnone
    apply hd
    show getCallState phone d = none
    rw [hstates, if_neg, hnone]
    rintro rfl
    rw [hc] at hnone
    cases hnone
  · intro e he
    show about e < phone.callCount
    rw [hcount]
    rcases List.mem_append.mp he with hold | hnew
    · exact h.named e hold
    · obtain rfl := List.mem_singleton.mp hnew
      apply h.live c
      rw [hc]
      exact Option.some_ne_none _
  · intro d hd
    have hd : getCallState phone d = some .Initial := hd
    rw [hstates] at hd
    split at hd
    case isTrue => cases hd
    case isFalse hne =>
      intro e he
      rcases List.mem_append.mp he with hold | hnew
      · exact h.initial d hd e hold
      · obtain rfl := List.mem_singleton.mp hnew
        exact Ne.symm hne
  · intro d hd
    have hd : getCallState phone d = some .Ringing := hd
    rw [hstates] at hd
    by_cases hdc : d = c
    · subst hdc
      refine ⟨⟨s.now, List.mem_append_right _ (List.mem_singleton_self _)⟩, ?_, ?_⟩
      · intro he
        rcases List.mem_append.mp he with hold | hnew
        · exact hfresh _ hold rfl
        · cases List.mem_singleton.mp hnew
      · intro he
        rcases List.mem_append.mp he with hold | hnew
        · exact hfresh _ hold rfl
        · cases List.mem_singleton.mp hnew
    · rw [if_neg hdc] at hd
      obtain ⟨⟨r, hr⟩, ha, hx⟩ := h.ringing d hd
      refine ⟨⟨r, List.mem_append_left _ hr⟩, ?_, ?_⟩
      · simpa [UnansweredCalls.record, UnansweredCalls.post] using ha
      · simpa [UnansweredCalls.record, UnansweredCalls.post] using hx
  · refine List.pairwise_append.mpr ⟨h.ordered, List.pairwise_singleton _ _, ?_⟩
    intro e he e' he'
    obtain rfl := List.mem_singleton.mp he'
    have hne := hfresh e he
    cases e <;> exact hne
  · show (List.map _ _ ++ _ ++ _).Nodup
    exact hcommands ▸ (hperm.nodup_iff).mpr (List.nodup_cons.mpr ⟨hnot, h.once⟩)
  · intro d hd
    have hd : getCallState phone d = some .Ringing := hd
    show d ∈ List.map _ _ ++ _ ++ _
    refine hcommands ▸ hperm.symm.subset ?_
    rw [hstates] at hd
    by_cases hdc : d = c
    · exact hdc ▸ List.mem_cons_self
    · rw [if_neg hdc] at hd
      exact List.mem_cons_of_mem _ (h.pending d hd)
  · intro timer htimer
    rcases List.mem_append.mp htimer with hold | hnew
    · exact hother (h.due timer hold)
    · obtain rfl := List.mem_singleton.mp hnew
      refine ⟨⟨s.now, List.mem_append_right _ (List.mem_singleton_self _)⟩, fun r hr => ?_⟩
      rcases List.mem_append.mp hr with hr | hr
      · exact absurd rfl (hfresh _ hr)
      · obtain ⟨-, rfl⟩ := RingEvent.rang.inj (List.mem_singleton.mp hr)
        rfl
  · intro d hd
    exact hother (h.waited d hd)
  · intro d t hd
    rcases List.mem_append.mp hd with hold | hnew
    · exact hother (h.ended d t hold)
    · cases List.mem_singleton.mp hnew

/-- INTERNAL: the calls change, and none of them rings now that did not ring before. -/
theorem RingOk.changed (h : RingOk mRONATimeout s) (hcount : s.phone.callCount ≤ phone.callCount)
    (hlive : ∀ c, getCallState phone c ≠ none → c < phone.callCount)
    (hinitial : ∀ c, getCallState phone c = some .Initial →
      getCallState s.phone c = some .Initial ∨ s.phone.callCount ≤ c)
    (hringing : ∀ c, getCallState phone c = some .Ringing →
      getCallState s.phone c = some .Ringing) :
    RingOk mRONATimeout { s with phone := phone } := by
  refine ⟨hlive, ?_, ?_, ?_, h.ordered, h.once, ?_, h.due, h.waited, h.ended⟩
  · exact fun e he => Nat.lt_of_lt_of_le (h.named e he) hcount
  · intro c hc e he
    rcases hinitial c hc with hold | hnew
    · exact h.initial c hold e he
    · rintro rfl
      exact absurd (h.named e he) (Nat.not_lt.mpr hnew)
  · exact fun c hc => h.ringing c (hringing c hc)
  · exact fun c hc => h.pending c (hringing c hc)

/-- INTERNAL: what the stack says of a call that does not ring, and is past its first state. -/
theorem RingOk.heardOf (h : RingOk mRONATimeout s) {e : RingEvent}
    (he : e = .answered c ∨ e = .destroyed c) (hnamed : c < s.phone.callCount)
    (hinitial : getCallState s.phone c ≠ some .Initial)
    (hringing : getCallState s.phone c ≠ some .Ringing) :
    RingOk mRONATimeout (s.record [e]) := by
  have habout : about e = c := by
    rcases he with rfl | rfl <;> rfl
  have hnotRang : ∀ d r, e ≠ .rang d r := by
    rcases he with rfl | rfl <;> exact fun d r hr => RingEvent.noConfusion hr
  have hnotEnded : ∀ d t, e ≠ .ended d t := by
    rcases he with rfl | rfl <;> exact fun d t ht => RingEvent.noConfusion ht
  have hended : endedCalls (s.trace ++ [e]) = endedCalls s.trace := by
    rw [endedCalls_append]
    rcases he with rfl | rfl <;> exact List.append_nil _
  have happend {d : CallId} {P : ℕ → Prop} (hP : RangWhen s.trace d P) :
      RangWhen (s.trace ++ [e]) d P := hP.append fun r hr => absurd hr (hnotRang d r)
  refine ⟨h.live, ?_, ?_, ?_, ?_, ?_, ?_, ?_, ?_, ?_⟩
  · intro e' he'
    rcases List.mem_append.mp he' with hold | hnew
    · exact h.named e' hold
    · obtain rfl := List.mem_singleton.mp hnew
      exact habout ▸ hnamed
  · intro d hd e' he'
    rcases List.mem_append.mp he' with hold | hnew
    · exact h.initial d hd e' hold
    · obtain rfl := List.mem_singleton.mp hnew
      rw [habout]
      rintro rfl
      exact hinitial hd
  · intro d hd
    obtain ⟨⟨r, hr⟩, ha, hx⟩ := h.ringing d hd
    have hne : d ≠ c := by
      rintro rfl
      exact hringing hd
    refine ⟨⟨r, List.mem_append_left _ hr⟩, ?_, ?_⟩
    · intro hmem
      rcases List.mem_append.mp hmem with hold | hnew
      · exact ha hold
      · exact hne ((congrArg about (List.mem_singleton.mp hnew)).trans habout)
    · intro hmem
      rcases List.mem_append.mp hmem with hold | hnew
      · exact hx hold
      · exact hne ((congrArg about (List.mem_singleton.mp hnew)).trans habout)
  · refine List.pairwise_append.mpr ⟨h.ordered, List.pairwise_singleton _ _, ?_⟩
    intro e' he' e'' he''
    obtain rfl := List.mem_singleton.mp he''
    rcases he with rfl | rfl <;> cases e' <;> trivial
  · show (_ ++ endedCalls (s.trace ++ [e])).Nodup
    rw [hended]
    exact h.once
  · intro d hd
    show d ∈ _ ++ endedCalls (s.trace ++ [e])
    rw [hended]
    exact h.pending d hd
  · exact fun timer htimer => happend (h.due timer htimer)
  · exact fun d hd => happend (h.waited d hd)
  · intro d t hd
    rcases List.mem_append.mp hd with hold | hnew
    · exact happend (h.ended d t hold)
    · exact absurd (List.mem_singleton.mp hnew).symm (hnotEnded d t)

/-- INTERNAL: a step of the calls in which no call begins to ring. -/
theorem RingOk.ofPhoneStep (h : RingOk mRONATimeout s) {act : PhoneAct}
    (hact : ∀ c, act ≠ .onProvisional c) (hstep : phoneStep s.phone act = some phone) :
    RingOk mRONATimeout ({ s with phone := phone }.record (heard act)) := by
  obtain ⟨hcount, hstates⟩ := phoneStep_states hstep
  have hheard (e : RingEvent) (he : e ∈ heard act) : about e < s.phone.callCount := by
    obtain ⟨call, hcall⟩ := live_of_heard hstep he
    apply h.live
    simp [getCallState, hcall]
  have hmono : s.phone.callCount ≤ phone.callCount := by
    rw [hcount]
    cases act <;> simp [countAfter]
  have hlive : ∀ c, getCallState phone c ≠ none → c < phone.callCount := by
    intro c hc
    rw [hstates] at hc
    rcases Classical.em (getCallState s.phone c = none) with hnone | hsome
    · rw [hcount]
      cases act with
      | onProvisional d => exact absurd rfl (hact d)
      | newCall incomming =>
        rw [stateAfter, hnone] at hc
        split at hc
        · subst c
          exact Nat.lt_succ_self _
        · exact absurd rfl hc
      | onConnected d | onAnswer d =>
        rw [stateAfter, hnone] at hc
        split at hc
        · subst c
          exact hheard _ List.mem_cons_self
        · exact absurd rfl hc
      | destroyCall d =>
        rw [stateAfter, hnone, ite_self] at hc
        exact absurd rfl hc
      | _ => exact absurd hnone hc
    · exact Nat.lt_of_lt_of_le (h.live c hsome) hmono
  have hchanged : RingOk mRONATimeout { s with phone := phone } := by
    apply h.changed hmono hlive
    · intro c hc
      rw [hstates] at hc
      cases act with
      | onProvisional d => exact absurd rfl (hact d)
      | newCall incomming =>
        rw [stateAfter] at hc
        split at hc
        · subst c
          exact .inr (Nat.le_refl _)
        · exact .inl hc
      | onConnected d | onAnswer d | destroyCall d =>
        rw [stateAfter] at hc
        split at hc
        · cases hc
        · exact .inl hc
      | _ => exact .inl hc
    · intro c hc
      rw [hstates] at hc
      cases act with
      | onProvisional d => exact absurd rfl (hact d)
      | newCall incomming | onConnected d | onAnswer d | destroyCall d =>
        rw [stateAfter] at hc
        split at hc
        · cases hc
        · exact hc
      | _ => exact hc
  have hother (c : CallId) (state : Option CallState) (hstate : stateAfter s.phone act c = state)
      (hne : state ≠ some .Initial) (hne' : state ≠ some .Ringing) {e : RingEvent}
      (he : e = .answered c ∨ e = .destroyed c) (hmem : e ∈ heard act) :
      RingOk mRONATimeout ({ s with phone := phone }.record [e]) := by
    have hc : getCallState phone c = state := (hstates c).trans hstate
    have habout : about e = c := by
      rcases he with rfl | rfl <;> rfl
    apply hchanged.heardOf he
    · exact habout ▸ Nat.lt_of_lt_of_le (hheard e hmem) hmono
    · exact hc ▸ hne
    · exact hc ▸ hne'
  have hnothing : RingOk mRONATimeout ({ s with phone := phone }.record []) := by
    unfold UnansweredCalls.record
    rw [List.append_nil]
    exact hchanged
  cases act with
  | onProvisional c => exact absurd rfl (hact c)
  | onConnected c =>
    exact hother c (some .Answered) (if_pos rfl) (by simp) (by simp) (.inl rfl) List.mem_cons_self
  | onAnswer c =>
    exact hother c (some .Answered) (if_pos rfl) (by simp) (by simp) (.inl rfl) List.mem_cons_self
  | destroyCall c =>
    exact hother c none (if_pos rfl) (by simp) (by simp) (.inr rfl) List.mem_cons_self
  | _ => exact hnothing

/-- INTERNAL: **one step.** -/
theorem step_ringOk {a : Act} (h : RingOk mRONATimeout s)
    (hstep : step mRONATimeout s a = some s') : RingOk mRONATimeout s' := by
  cases a with
  | phone act =>
    have hact : ∀ c, act ≠ .onProvisional c := by
      rintro c rfl
      cases hstep
    have hmap : (phoneStep s.phone act).map
        (fun phone => { s with phone := phone }.record (heard act)) = some s' := by
      cases act with
      | onProvisional c => exact absurd rfl (hact c)
      | _ => exact hstep
    obtain ⟨phone, hphone, rfl⟩ := Option.map_eq_some_iff.mp hmap
    exact h.ofPhoneStep hact hphone
  | onProvisional c statusCode =>
    rw [step, UnansweredCalls.onProvisional] at hstep
    split at hstep
    case isTrue =>
      obtain ⟨phone, hphone, hs⟩ := Option.map_eq_some_iff.mp hstep
      have hprovisional : phoneStep s.phone (.onProvisional c) = some phone := hphone
      obtain ⟨hcount, hstates⟩ := phoneStep_states hprovisional
      have hcount : phone.callCount = s.phone.callCount := hcount
      split at hs
      case isTrue hinitial =>
        obtain rfl := hs
        apply h.rings hinitial hcount
        intro d
        rw [hstates, stateAfter]
        by_cases hd : d = c
        · subst hd
          simp [hinitial]
        · simp [hd]
      case isFalse hinitial =>
        obtain rfl := hs
        have hsame : ∀ d, getCallState phone d = getCallState s.phone d := by
          intro d
          rw [hstates, stateAfter, if_neg]
          rintro ⟨rfl, hd⟩
          exact hinitial hd
        apply h.changed (Nat.le_of_eq hcount.symm)
        · intro d hd
          rw [hcount]
          exact h.live d (hsame d ▸ hd)
        · exact fun d hd => .inl (hsame d ▸ hd)
        · exact fun d hd => hsame d ▸ hd
    case isFalse =>
      obtain rfl := Option.some.inj hstep
      exact h
  | tick =>
    obtain rfl := Option.some.inj hstep
    exact h.tick
  | expire timer =>
    rw [step, Option.ite_none_right_eq_some] at hstep
    obtain ⟨⟨hmem, hdue⟩, hs⟩ := hstep
    obtain rfl := Option.some.inj hs
    exact h.expire hmem hdue
  | execute =>
    rw [step] at hstep
    split at hstep
    · cases hstep
    · rename_i c rest hcommands
      obtain ⟨-, hs⟩ := Option.ite_none_right_eq_some.mp hstep
      obtain rfl := Option.some.inj hs
      exact h.execute hcommands

end Commands

/-- **In every run, a call is ended for not being answered at most once, when it has been ringing
for the whole time and was not answered, and a call that rings is not forgotten.**
SOURCE: SIPEngine.cpp:260-323, AppDialogSetRONACommand.cpp:11-25 -/
theorem endsUnanswered_throughout (mRONATimeout : ℕ) (acts : List Act) :
    Throughout (step mRONATimeout) (EndsUnanswered mRONATimeout) init acts := by
  apply throughout_invariant (fun _ h => RingOk.endsUnanswered h)
  · exact fun s a s' h hstep => step_ringOk h hstep
  · exact ringOk_init

end Dhas.Analysis.RingTimeout
