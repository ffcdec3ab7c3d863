import Dhas.Library.Trace
import Dhas.Model.Phone

/-!
# The chain of a call

Every live call has a chain: the actions added to it are, in order, those that have
terminated, the one that runs and those that wait, and the last two are what following the
links finds. Each of the things a command can do to a chain (add an action, invoke it,
finish it) is shown to keep this.
-/

set_option autoImplicit false

namespace Dhas.Analysis

open Dhas.Library Dhas.Program Dhas.Model

/-! ## What the record says -/

def addedTo (c : CallId) (trace : List PhoneEvent) : List ActionId :=
  trace.filterMap fun
    | .added c' a => if c' = c then some a else none
    | _ => none

def invokedOn (c : CallId) (trace : List PhoneEvent) : List ActionId :=
  trace.filterMap fun
    | .invoked c' a => if c' = c then some a else none
    | _ => none

def terminatedOn (c : CallId) (trace : List PhoneEvent) : List ActionId :=
  trace.filterMap fun
    | .terminated c' a => if c' = c then some a else none
    | _ => none

/-- The invoked actions of all calls. -/
def invocations (trace : List PhoneEvent) : List ActionId :=
  trace.filterMap fun
    | .invoked _ a => some a
    | _ => none

def deletesPosted (trace : List PhoneEvent) : List ActionId :=
  trace.filterMap fun
    | .deletePosted a => some a
    | _ => none

def deletions (trace : List PhoneEvent) : List ActionId :=
  trace.filterMap fun
    | .deleted a => some a
    | _ => none

/-- An action is invoked when those that were added to its call before it, and no others of
that call, have terminated. -/
def InTurn (before : List PhoneEvent) : PhoneEvent → Prop
  | .invoked c a => ∃ later, addedTo c before = terminatedOn c before ++ a :: later
  | _ => True

section Projections

variable (c : CallId) (trace : List PhoneEvent)

/-- INTERNAL: the actions that were added, after one more event. -/
@[simp] theorem addedTo_concat (e : PhoneEvent) :
    addedTo c (trace ++ [e]) = addedTo c trace ++ addedTo c [e] := List.filterMap_append

/-- INTERNAL: the actions that were invoked, after one more event. -/
@[simp] theorem invokedOn_concat (e : PhoneEvent) :
    invokedOn c (trace ++ [e]) = invokedOn c trace ++ invokedOn c [e] := List.filterMap_append

/-- INTERNAL: the actions that were terminated, after one more event. -/
@[simp] theorem terminatedOn_concat (e : PhoneEvent) :
    terminatedOn c (trace ++ [e]) = terminatedOn c trace ++ terminatedOn c [e] :=
  List.filterMap_append

/-- INTERNAL: the invocations on any call, after one more event. -/
@[simp] theorem invocations_concat (e : PhoneEvent) :
    invocations (trace ++ [e]) = invocations trace ++ invocations [e] := List.filterMap_append

/-- INTERNAL: the Deletes that were posted, after one more event. -/
@[simp] theorem deletesPosted_concat (e : PhoneEvent) :
    deletesPosted (trace ++ [e]) = deletesPosted trace ++ deletesPosted [e] :=
  List.filterMap_append

/-- INTERNAL: the actions that were deleted, after one more event. -/
@[simp] theorem deletions_concat (e : PhoneEvent) :
    deletions (trace ++ [e]) = deletions trace ++ deletions [e] := List.filterMap_append

/-- INTERNAL: the event adds an action to the call, or it is another event. -/
theorem addedTo_singleton (e : PhoneEvent) :
    addedTo c [e] = match e with
      | .added c' a => if c' = c then [a] else []
      | _ => [] := by
  cases e with
  | added c' a =>
    unfold addedTo
    by_cases h : c' = c <;> simp [h]
  | _ => rfl

/-- INTERNAL: the event invokes an action on the call, or it is another event. -/
theorem invokedOn_singleton (e : PhoneEvent) :
    invokedOn c [e] = match e with
      | .invoked c' a => if c' = c then [a] else []
      | _ => [] := by
  cases e with
  | invoked c' a =>
    unfold invokedOn
    by_cases h : c' = c <;> simp [h]
  | _ => rfl

/-- INTERNAL: the event terminates an action on the call, or it is another event. -/
theorem terminatedOn_singleton (e : PhoneEvent) :
    terminatedOn c [e] = match e with
      | .terminated c' a => if c' = c then [a] else []
      | _ => [] := by
  cases e with
  | terminated c' a =>
    unfold terminatedOn
    by_cases h : c' = c <;> simp [h]
  | _ => rfl

end Projections

/-! ## Chains -/

/-- The action is in memory, was not cleaned, and was invoked or not. -/
def Held (heap : ActionId → Option IPhoneAction) (invoked : Bool) (a : ActionId) : Prop :=
  ∃ action, heap a = some action ∧ action.mInvoked = invoked ∧ action.mCleaned = false

/-- The actions of a live call: those done, the running one, those that wait. -/
structure CallChain (heap : ActionId → Option IPhoneAction) (trace : List PhoneEvent)
    (c : CallId) (call : Call) (done : List ActionId) (running : Option ActionId)
    (waiting : List ActionId) : Prop where
  added : addedTo c trace = done ++ (running.toList ++ waiting)
  invoked : invokedOn c trace = done ++ running.toList
  terminated : terminatedOn c trace = done
  chain : IsList heap IPhoneAction.mpNextAction call.mpCurrentAction (running.toList ++ waiting)
  runs : ∀ a ∈ running, Held heap true a
  waits : ∀ a ∈ waiting, Held heap false a
  observers : call.mRtpObservers = [] ∨ ∃ a action, running = some a ∧
    call.mRtpObservers = [a] ∧ heap a = some action ∧
    ∃ play folder, action.actionClass = .play play folder

/-- The chains of all live calls, and what the record says of the others too. -/
structure ChainsOk (heap : ActionId → Option IPhoneAction) (trace : List PhoneEvent)
    (calls : CallId → Option Call) (callCount : ℕ) : Prop where
  chain : ∀ c call, calls c = some call →
    ∃ done running waiting, CallChain heap trace c call done running waiting
  order : ∀ c, invokedOn c trace <+: addedTo c trace
  nodup : ∀ c, (addedTo c trace).Nodup
  oneCall : ∀ a c c', a ∈ addedTo c trace → a ∈ addedTo c' trace → c = c'
  turn : Always InTurn trace
  named : ∀ c, callCount ≤ c → calls c = none ∧ addedTo c trace = [] ∧
    invokedOn c trace = [] ∧ terminatedOn c trace = []

section Chains

variable {heap heap' : ActionId → Option IPhoneAction} {trace trace' : List PhoneEvent}
  {calls : CallId → Option Call} {callCount : ℕ} {c : CallId} {call call' : Call} {a : ActionId}
  {done waiting : List ActionId} {running : Option ActionId}

/-- INTERNAL: what leaves the actions and the events of a call alone keeps its chain. -/
theorem CallChain.frame (h : CallChain heap trace c call done running waiting)
    (hheap : ∀ a ∈ running.toList ++ waiting, heap' a = heap a)
    (hadded : addedTo c trace' = addedTo c trace)
    (hinvoked : invokedOn c trace' = invokedOn c trace)
    (hterm : terminatedOn c trace' = terminatedOn c trace) :
    CallChain heap' trace' c call done running waiting where
  added := hadded.trans h.added
  invoked := hinvoked.trans h.invoked
  terminated := hterm.trans h.terminated
  chain := h.chain.frame fun a ha v hv => ⟨v, (hheap a ha).trans hv, rfl⟩
  runs a ha := by
    obtain ⟨action, hget, hrest⟩ := h.runs a ha
    have hmem : a ∈ running.toList ++ waiting := by simp [Option.mem_def.mp ha]
    exact ⟨action, (hheap a hmem).trans hget, hrest⟩
  waits a ha := by
    obtain ⟨action, hget, hrest⟩ := h.waits a ha
    exact ⟨action, (hheap a (List.mem_append_right _ ha)).trans hget, hrest⟩
  observers := by
    rcases h.observers with hnil | ⟨a, action, hrun, hobs, hget, hplay⟩
    · exact .inl hnil
    · have hmem : a ∈ running.toList ++ waiting := by simp [hrun]
      exact .inr ⟨a, action, hrun, hobs, (hheap a hmem).trans hget, hplay⟩

/-- INTERNAL: an action that terminated on the only call it was added to, if that call is
alive, is in no chain. -/
theorem ChainsOk.not_mem_of_out (h : ChainsOk heap trace calls callCount)
    (hout : ∀ c call, calls c = some call → a ∈ addedTo c trace → a ∈ terminatedOn c trace)
    (hcall : calls c = some call) (hchain : CallChain heap trace c call done running waiting) :
    a ∉ running.toList ++ waiting := by
  intro ha
  have hmem : a ∈ addedTo c trace := by
    rw [hchain.added]
    exact List.mem_append_right done ha
  have hdone : a ∈ done := hchain.terminated ▸ hout c call hcall hmem
  have hnodup := h.nodup c
  rw [hchain.added] at hnodup
  exact (List.nodup_append.mp hnodup).2.2 a hdone a ha rfl

/-- INTERNAL: a heap that differs outside of the chains only. -/
theorem ChainsOk.frame (h : ChainsOk heap trace calls callCount)
    (hheap : ∀ c call done running waiting, calls c = some call →
      CallChain heap trace c call done running waiting →
      ∀ a ∈ running.toList ++ waiting, heap' a = heap a) :
    ChainsOk heap' trace calls callCount where
  __ := h
  chain c call hcall := by
    obtain ⟨done, running, waiting, hchain⟩ := h.chain c call hcall
    have hsame := hheap c call done running waiting hcall hchain
    exact ⟨done, running, waiting, hchain.frame hsame rfl rfl rfl⟩

/-- INTERNAL: an event that is about no chain. -/
theorem ChainsOk.record (h : ChainsOk heap trace calls callCount) (e : PhoneEvent)
    (hadded : ∀ c, addedTo c [e] = []) (hinvoked : ∀ c, invokedOn c [e] = [])
    (hterm : ∀ c, terminatedOn c [e] = []) (hturn : InTurn trace e) :
    ChainsOk heap (trace ++ [e]) calls callCount where
  chain c call hcall := by
    obtain ⟨done, running, waiting, hchain⟩ := h.chain c call hcall
    refine ⟨done, running, waiting, hchain.frame (fun _ _ => rfl) ?_ ?_ ?_⟩
    · simp [hadded]
    · simp [hinvoked]
    · simp [hterm]
  order c := by simpa [hadded, hinvoked] using h.order c
  nodup c := by simpa [hadded] using h.nodup c
  oneCall a c c' := by simpa [hadded] using h.oneCall a c c'
  turn := (always_append_singleton e).mpr ⟨h.turn, hturn⟩
  named c hc := by simpa [hadded, hinvoked, hterm] using h.named c hc

/-- INTERNAL: the events of one call are none of another call's. -/
theorem otherCalls_nil {e : PhoneEvent}
    (he : e = .added c a ∨ e = .invoked c a ∨ e = .terminated c a) (d : CallId) (hd : d ≠ c) :
    addedTo d [e] = [] ∧ invokedOn d [e] = [] ∧ terminatedOn d [e] = [] := by
  have hne : c ≠ d := fun heq => hd heq.symm
  rcases he with rfl | rfl | rfl <;>
    simp [addedTo_singleton, invokedOn_singleton, terminatedOn_singleton, hne]

/-- INTERNAL: an action that is added to the call is added to it. -/
theorem addedTo_added (c : CallId) (a : ActionId) : addedTo c [.added c a] = [a] := by
  rw [addedTo_singleton]
  exact if_pos rfl

/-- INTERNAL: what happens to one call, seen from all of them. -/
theorem ChainsOk.replace (h : ChainsOk heap trace calls callCount) (e : PhoneEvent)
    (done : List ActionId) (running : Option ActionId) (waiting : List ActionId)
    (hcall : calls c = some call)
    (hheap : ∀ a, a ∉ addedTo c trace → heap' a = heap a)
    (hother : ∀ c', c' ≠ c →
      addedTo c' [e] = [] ∧ invokedOn c' [e] = [] ∧ terminatedOn c' [e] = [])
    (hnew : ∀ a ∈ addedTo c [e], ∀ c', a ∉ addedTo c' trace)
    (hnodup : (addedTo c [e]).Nodup) (hturn : InTurn trace e)
    (hchain : CallChain heap' (trace ++ [e]) c call' done running waiting) :
    ChainsOk heap' (trace ++ [e]) (Function.update calls c (some call')) callCount where
  chain d other hd := by
    by_cases hdc : d = c
    · subst hdc
      rw [Function.update_self] at hd
      obtain rfl := Option.some.inj hd
      exact ⟨done, running, waiting, hchain⟩
    · rw [Function.update_of_ne hdc] at hd
      obtain ⟨done', running', waiting', hd'⟩ := h.chain d other hd
      obtain ⟨hadd, hinv, hterm⟩ := hother d hdc
      refine ⟨done', running', waiting', hd'.frame (fun a ha => hheap a fun hc => ?_) ?_ ?_ ?_⟩
      · have hmem : a ∈ addedTo d trace := hd'.added ▸ List.mem_append_right done' ha
        exact hdc (h.oneCall a d c hmem hc)
      · simp [hadd]
      · simp [hinv]
      · simp [hterm]
  order d := by
    by_cases hdc : d = c
    · subst hdc
      rw [hchain.invoked, hchain.added, ← List.append_assoc]
      exact List.prefix_append _ _
    · obtain ⟨hadd, hinv, -⟩ := hother d hdc
      simpa [hadd, hinv] using h.order d
  nodup d := by
    by_cases hdc : d = c
    · subst hdc
      rw [addedTo_concat]
      refine List.nodup_append.mpr ⟨h.nodup d, hnodup, ?_⟩
      rintro b hb b' hb' rfl
      exact hnew b hb' d hb
    · simpa [(hother d hdc).1] using h.nodup d
  oneCall b d d' hd hd' := by
    have hback (d : CallId) (hd : b ∈ addedTo d (trace ++ [e])) :
        b ∈ addedTo d trace ∨ (d = c ∧ b ∈ addedTo c [e]) := by
      rw [addedTo_concat, List.mem_append] at hd
      rcases hd with hd | hd
      · exact .inl hd
      · by_cases hdc : d = c
        · exact .inr ⟨hdc, hdc ▸ hd⟩
        · rw [(hother d hdc).1] at hd
          cases hd
    rcases hback d hd with hd | ⟨rfl, hb⟩
    · rcases hback d' hd' with hd' | ⟨rfl, hb⟩
      · exact h.oneCall b d d' hd hd'
      · exact absurd hd (hnew b hb d)
    · rcases hback d' hd' with hd' | ⟨hd', -⟩
      · exact absurd hd' (hnew b hb d')
      · exact hd'.symm
  turn := (always_append_singleton e).mpr ⟨h.turn, hturn⟩
  named d hd := by
    have hdc : d ≠ c := by
      rintro rfl
      rw [(h.named d hd).1] at hcall
      cases hcall
    obtain ⟨hnone, hadd, hinv, hterm⟩ := h.named d hd
    obtain ⟨hadd', hinv', hterm'⟩ := hother d hdc
    rw [Function.update_of_ne hdc]
    simp [hnone, hadd, hinv, hterm, hadd', hinv', hterm']

end Chains

/-! ## What happens to a chain -/

section Steps

variable {heap heap' : ActionId → Option IPhoneAction} {trace : List PhoneEvent}
  {calls : CallId → Option Call} {callCount : ℕ} {c : CallId} {call call' : Call} {a : ActionId}
  {action : IPhoneAction} {done waiting : List ActionId} {running : Option ActionId}

/-- INTERNAL: the actions that a call holds were added to it. -/
theorem CallChain.mem_added (h : CallChain heap trace c call done running waiting)
    (ha : a ∈ running.toList ++ waiting) : a ∈ addedTo c trace := by
  rw [h.added]
  exact List.mem_append_right done ha

/-- INTERNAL: the actions that a call holds are in memory, and were not cleaned. -/
theorem CallChain.held (h : CallChain heap trace c call done running waiting)
    (ha : a ∈ running.toList ++ waiting) : ∃ invoked, Held heap invoked a := by
  rcases List.mem_append.mp ha with ha | ha
  · exact ⟨true, h.runs a (by simpa using ha)⟩
  · exact ⟨false, h.waits a ha⟩

/-- INTERNAL: the current action of a call is its running one, else the first that waits.
SOURCE: Call.cpp:36-97 -/
theorem CallChain.current (h : CallChain heap trace c call done running waiting) :
    call.mpCurrentAction = (running.toList ++ waiting).head? := by
  have hlist := h.chain
  cases hl : running.toList ++ waiting with
  | nil =>
    rw [hl] at hlist
    exact hlist
  | cons b l =>
    rw [hl] at hlist
    exact hlist.1

/-- INTERNAL: a new call has an empty chain. -/
theorem ChainsOk.newCall (h : ChainsOk heap trace calls callCount) (incomming : Bool) :
    ChainsOk heap trace
      (Function.update calls callCount (some ⟨.Initial, incomming, none, []⟩))
      (callCount + 1) where
  __ := h
  chain d other hd := by
    by_cases hdc : d = callCount
    · subst hdc
      rw [Function.update_self] at hd
      obtain rfl := Option.some.inj hd
      obtain ⟨-, hadd, hinv, hterm⟩ := h.named d (Nat.le_refl d)
      refine ⟨[], none, [], hadd, hinv, hterm, rfl, ?_, ?_, .inl rfl⟩
      · intro a ha
        cases ha
      · intro a ha
        cases ha
    · rw [Function.update_of_ne hdc] at hd
      exact h.chain d other hd
  named d hd := by
    have hlt : callCount < d := hd
    rw [Function.update_of_ne (Nat.ne_of_gt hlt)]
    exact h.named d (Nat.le_of_lt hlt)

/-- INTERNAL: the state of a call may change. -/
theorem ChainsOk.setState (h : ChainsOk heap trace calls callCount) (hcall : calls c = some call)
    (hcurrent : call'.mpCurrentAction = call.mpCurrentAction)
    (hobs : call'.mRtpObservers = call.mRtpObservers) :
    ChainsOk heap trace (Function.update calls c (some call')) callCount where
  __ := h
  chain d other hd := by
    by_cases hdc : d = c
    · subst hdc
      rw [Function.update_self] at hd
      obtain rfl := Option.some.inj hd
      obtain ⟨done, running, waiting, hchain⟩ := h.chain d call hcall
      exact ⟨done, running, waiting, hchain.added, hchain.invoked, hchain.terminated,
        hcurrent ▸ hchain.chain, hchain.runs, hchain.waits, hobs ▸ hchain.observers⟩
    · rw [Function.update_of_ne hdc] at hd
      exact h.chain d other hd
  named d hd := by
    have hdc : d ≠ c := by
      rintro rfl
      rw [(h.named d hd).1] at hcall
      cases hcall
    rw [Function.update_of_ne hdc]
    exact h.named d hd

/-- INTERNAL: a call that is gone has no chain to keep. -/
theorem ChainsOk.drop (h : ChainsOk heap trace calls callCount) (c : CallId) :
    ChainsOk heap trace (Function.update calls c none) callCount where
  __ := h
  chain d other hd := by
    by_cases hdc : d = c
    · subst hdc
      rw [Function.update_self] at hd
      cases hd
    · rw [Function.update_of_ne hdc] at hd
      exact h.chain d other hd
  named d hd := by
    obtain ⟨hnone, hrest⟩ := h.named d hd
    refine ⟨?_, hrest⟩
    by_cases hdc : d = c
    · rw [hdc, Function.update_self]
    · rw [Function.update_of_ne hdc, hnone]

/-- INTERNAL: a new action becomes the current one of a call that has none.
SOURCE: Call.cpp:77-85 -/
theorem ChainsOk.addFirst (h : ChainsOk heap trace calls callCount) (hcall : calls c = some call)
    (hcurrent : call.mpCurrentAction = none) (hget : heap a = some action)
    (hnext : action.mpNextAction = none) (hinv : action.mInvoked = false)
    (hclean : action.mCleaned = false) (hfresh : ∀ c, a ∉ addedTo c trace) :
    ChainsOk heap (trace ++ [.added c a])
      (Function.update calls c (some { call with mpCurrentAction := some a })) callCount := by
  obtain ⟨done, running, waiting, hchain⟩ := h.chain c call hcall
  have hnil : running.toList ++ waiting = [] := by
    have hhead := hchain.current
    rw [hcurrent] at hhead
    exact List.head?_eq_none_iff.mp hhead.symm
  have hrun : running = none := by
    cases running with
    | none => rfl
    | some b => simp at hnil
  have hadded := hchain.added
  have hinvoked := hchain.invoked
  rw [hnil, List.append_nil] at hadded
  rw [hrun] at hinvoked
  refine h.replace _ done none [a] hcall (fun _ _ => rfl) ?_ ?_
    ?_ trivial ?_
  · exact otherCalls_nil (.inl rfl)
  · rw [addedTo_added]
    exact List.forall_mem_singleton.mpr hfresh
  · rw [addedTo_added]
    exact List.nodup_singleton a
  · refine ⟨?_, ?_, ?_, ⟨rfl, action, hget, hnext⟩, ?_, ?_, ?_⟩
    · simp [hadded, addedTo_singleton]
    · simpa [invokedOn_singleton] using hinvoked
    · simpa [terminatedOn_singleton] using hchain.terminated
    · intro b hb
      cases hb
    · intro b hb
      rw [List.mem_singleton.mp hb]
      exact ⟨action, hget, hinv, hclean⟩
    · refine .inl ?_
      rcases hchain.observers with hobs | ⟨b, -, hb, -⟩
      · exact hobs
      · rw [hrun] at hb
        cases hb

/-- INTERNAL: a new action is linked behind the last one. SOURCE: Call.cpp:86-97 -/
theorem ChainsOk.addLast {z : ActionId} {last : IPhoneAction}
    (h : ChainsOk heap trace calls callCount) (hcall : calls c = some call)
    (hchain : CallChain heap trace c call done running waiting)
    (hlast : (running.toList ++ waiting).getLast? = some z) (hz : heap z = some last)
    (hget : heap a = some action) (hnext : action.mpNextAction = none)
    (hinv : action.mInvoked = false) (hclean : action.mCleaned = false)
    (hfresh : ∀ c, a ∉ addedTo c trace) :
    ChainsOk (Function.update heap z (some { last with mpNextAction := some a }))
      (trace ++ [.added c a]) calls callCount := by
  have hzmem : z ∈ running.toList ++ waiting := List.mem_of_getLast? hlast
  have hzadded : z ∈ addedTo c trace := hchain.mem_added hzmem
  have hza : a ≠ z := fun heq => hfresh c (heq ▸ hzadded)
  have hnodup : (running.toList ++ waiting).Nodup := by
    have hall := h.nodup c
    rw [hchain.added] at hall
    exact (List.nodup_append.mp hall).2.1
  have hheld {invoked : Bool} {b : ActionId} (hb : Held heap invoked b) :
      Held (Function.update heap z (some { last with mpNextAction := some a })) invoked b := by
    obtain ⟨cell, hcell, hflags⟩ := hb
    by_cases hbz : b = z
    · subst hbz
      obtain rfl := Option.some.inj (hcell.symm.trans hz)
      exact ⟨_, Function.update_self .., hflags⟩
    · exact ⟨cell, by rw [Function.update_of_ne hbz, hcell], hflags⟩
  rw [← Function.update_eq_self c calls, hcall]
  refine h.replace _ done running (waiting ++ [a]) hcall
    ?_ ?_ ?_ ?_ trivial ?_
  · intro b hb
    have hbz : b ≠ z := fun heq => hb (heq ▸ hzadded)
    exact Function.update_of_ne hbz _ _
  · exact otherCalls_nil (.inl rfl)
  · rw [addedTo_added]
    exact List.forall_mem_singleton.mpr hfresh
  · rw [addedTo_added]
    exact List.nodup_singleton a
  · refine ⟨?_, ?_, ?_, ?_, ?_, ?_, ?_⟩
    · simp [hchain.added, addedTo_singleton]
    · simpa [invokedOn_singleton] using hchain.invoked
    · simpa [terminatedOn_singleton] using hchain.terminated
    · rw [← List.append_assoc]
      refine hchain.chain.append hlast hnodup ?_ (Function.update_self ..) rfl hget hnext ?_
      · exact fun hmem => hfresh c (hchain.mem_added hmem)
      · exact fun b hb => Function.update_of_ne hb _ _
    · exact fun b hb => hheld (hchain.runs b hb)
    · intro b hb
      rcases List.mem_append.mp hb with hb | hb
      · exact hheld (hchain.waits b hb)
      · rw [List.mem_singleton.mp hb]
        exact hheld ⟨action, hget, hinv, hclean⟩
    · rcases hchain.observers with hobs | ⟨b, cell, hrun, hobs, hcell, hplay⟩
      · exact .inl hobs
      · refine .inr ⟨b, ?_⟩
        by_cases hbz : b = z
        · subst hbz
          obtain rfl := Option.some.inj (hcell.symm.trans hz)
          exact ⟨_, hrun, hobs, Function.update_self .., hplay⟩
        · exact ⟨cell, hrun, hobs, by rw [Function.update_of_ne hbz, hcell], hplay⟩

/-- INTERNAL: the current action of a call is invoked. SOURCE: IPhoneAction.cpp:19-31 -/
theorem ChainsOk.invoke {observers : List ActionId} (h : ChainsOk heap trace calls callCount)
    (hcall : calls c = some call) (hcurrent : call.mpCurrentAction = some a)
    (hget : heap a = some action) (hinv : action.mInvoked = false)
    (hobs : observers = [] ∨
      (observers = [a] ∧ ∃ play folder, action.actionClass = .play play folder)) :
    ChainsOk (Function.update heap a (some { action with mInvoked := true }))
      (trace ++ [.invoked c a])
      (Function.update calls c (some { call with
        mpCurrentAction := some a, mRtpObservers := observers })) callCount := by
  obtain ⟨done, running, waiting, hchain⟩ := h.chain c call hcall
  have hhead := hchain.current
  rw [hcurrent] at hhead
  have hrun : running = none := by
    cases running with
    | none => rfl
    | some b =>
      obtain ⟨cell, hcell, htrue, -⟩ := hchain.runs b rfl
      have hab : a = b := Option.some.inj hhead
      rw [← hab, hget] at hcell
      obtain rfl := Option.some.inj hcell
      rw [hinv] at htrue
      cases htrue
  subst hrun
  obtain ⟨rest, rfl⟩ : ∃ rest, waiting = a :: rest := by
    cases waiting with
    | nil => cases hhead
    | cons b rest =>
      obtain rfl : a = b := Option.some.inj hhead
      exact ⟨rest, rfl⟩
  have hadded : addedTo c trace = done ++ a :: rest := hchain.added
  have haadded : a ∈ addedTo c trace := by simp [hadded]
  have harest : a ∉ rest := by
    have hall := h.nodup c
    rw [hadded] at hall
    exact (List.nodup_cons.mp (List.nodup_append.mp hall).2.1).1
  refine h.replace _ done (some a) rest hcall
    ?_ ?_ ?_ ?_ ?_ ?_
  · intro b hb
    have hba : b ≠ a := fun heq => hb (heq ▸ haadded)
    exact Function.update_of_ne hba _ _
  · exact otherCalls_nil (.inr (.inl rfl))
  · intro b hb
    cases hb
  · exact List.nodup_nil
  · exact ⟨rest, by rw [hchain.terminated, hadded]⟩
  · refine ⟨?_, ?_, ?_, ?_, ?_, ?_, ?_⟩
    · simp [hadded, addedTo_singleton]
    · have hinvoked := hchain.invoked
      simp only [Option.toList_none, List.append_nil] at hinvoked
      simp [hinvoked, invokedOn_singleton]
    · simpa [terminatedOn_singleton] using hchain.terminated
    · have hlist := hchain.chain
      rw [hcurrent] at hlist
      apply hlist.frame
      intro b _ cell hcell
      by_cases hba : b = a
      · subst hba
        obtain rfl := Option.some.inj (hcell.symm.trans hget)
        exact ⟨_, Function.update_self .., rfl⟩
      · exact ⟨cell, by rw [Function.update_of_ne hba, hcell], rfl⟩
    · intro b hb
      obtain rfl : a = b := Option.some.inj hb
      obtain ⟨cell, hcell, -, hclean⟩ := hchain.waits a List.mem_cons_self
      obtain rfl := Option.some.inj (hcell.symm.trans hget)
      exact ⟨_, Function.update_self .., rfl, hclean⟩
    · intro b hb
      have hba : b ≠ a := fun heq => harest (heq ▸ hb)
      obtain ⟨cell, hcell, hflags⟩ := hchain.waits b (List.mem_cons_of_mem a hb)
      exact ⟨cell, by rw [Function.update_of_ne hba, hcell], hflags⟩
    · rcases hobs with hobs | ⟨hobs, hplay⟩
      · exact .inl hobs
      · exact .inr ⟨a, _, rfl, hobs, Function.update_self .., hplay⟩

/-- INTERNAL: the running action of a call terminates. SOURCE: ActionMachine.cpp:58-66 -/
theorem ChainsOk.finish (h : ChainsOk heap trace calls callCount) (hcall : calls c = some call)
    (hchain : CallChain heap trace c call done (some a) waiting) (hget : heap a = some action) :
    ChainsOk heap (trace ++ [.terminated c a])
      (Function.update calls c (some { call with
        mpCurrentAction := action.mpNextAction, mRtpObservers := [] })) callCount := by
  have hadded : addedTo c trace = done ++ a :: waiting := hchain.added
  refine h.replace _ (done ++ [a]) none waiting hcall
    (fun _ _ => rfl) ?_ ?_ List.nodup_nil trivial ?_
  · exact otherCalls_nil (.inr (.inr rfl))
  · intro b hb
    cases hb
  · refine ⟨?_, ?_, ?_, ?_, ?_, hchain.waits, .inl rfl⟩
    · simp [hadded, addedTo_singleton]
    · simpa [invokedOn_singleton] using hchain.invoked
    · simp [hchain.terminated, terminatedOn_singleton]
    · obtain ⟨-, cell, hcell, htail⟩ := hchain.chain
      obtain rfl := Option.some.inj (hcell.symm.trans hget)
      exact htail
    · intro b hb
      cases hb

end Steps

end Dhas.Analysis
