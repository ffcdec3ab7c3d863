import Dhas.Model.EventLoop

/-!
# Events are delivered in order, exactly once

An event is in `mMessageQueue` until the swap, then in `tmpMessages` until it was popped. A
listener has been passed everything that was pushed except what is still in one of the two
queues for it.
-/

set_option autoImplicit false

namespace Dhas.Analysis

open Dhas.Library Dhas.Program Dhas.Model
open Dhas.Model.EventLoop

variable {ℓ : Type}

/-- The listener was registered by `main` and has not been removed. -/
def RegisteredThroughout (r : Registration ℓ) (s : EventLoop ℓ) (pl : ℓ) : Prop :=
  pl ∈ r.listeners ++ [r.engine] ∧ .removed pl ∉ s.trace

/-- The events that were pushed, in this order. -/
def pushedEvents (trace : List (Item ℓ)) : List EventDocument :=
  trace.filterMap fun
    | .pushed message => some message
    | _ => none

/-- INTERNAL: what was pushed in two traces, one after the other. -/
theorem pushedEvents_append (trace trace' : List (Item ℓ)) :
    pushedEvents (trace ++ trace') = pushedEvents trace ++ pushedEvents trace' :=
  List.filterMap_append

variable [DecidableEq ℓ]

/-- The events that were passed to the `notifyEvent` of a listener, in this order. -/
def notifiedEvents (pl : ℓ) (trace : List (Item ℓ)) : List EventDocument :=
  trace.filterMap fun
    | .notified pl' message => if pl' = pl then some message else none
    | _ => none

/-- INTERNAL: what a listener got in two traces, one after the other. -/
theorem notifiedEvents_append (pl : ℓ) (trace trace' : List (Item ℓ)) :
    notifiedEvents pl (trace ++ trace') = notifiedEvents pl trace ++ notifiedEvents pl trace' :=
  List.filterMap_append

/-- The events of `tmpMessages` that were not yet delivered to a listener: the front is
delivered to the listeners before the current index. -/
def undelivered (s : EventLoop ℓ) (pl : ℓ) : List EventDocument :=
  match s.pc with
  | .notifying i =>
    if s.processor.mEventListeners.idxOf pl < i then s.tmpMessages.tail else s.tmpMessages
  | _ => s.tmpMessages

/-- What was passed to a listener, what is still to be delivered to it and what waits for the
swap is what was pushed. -/
def Delivers (r : Registration ℓ) (s : EventLoop ℓ) : Prop :=
  ∀ pl, RegisteredThroughout r s pl →
    notifiedEvents pl s.trace ++ undelivered s pl ++ s.processor.mMessageQueue =
      pushedEvents s.trace

/-- What every run keeps. -/
structure DeliveryOk (r : Registration ℓ) (s : EventLoop ℓ) : Prop where
  nodup : s.processor.mEventListeners.Nodup
  registered : ∀ pl, RegisteredThroughout r s pl → pl ∈ s.processor.mEventListeners
  /-- `tmpMessages` is local to `timeSlice` and empty before the swap and after the loop -/
  outside : (∀ i, s.pc ≠ .notifying i) → s.tmpMessages = []
  delivers : Delivers r s

/-- INTERNAL: at first nothing was pushed and nobody was notified. -/
theorem deliveryOk_init (r : Registration ℓ) (unset : Bool) : DeliveryOk r (init r unset) where
  nodup := by
    rw [init, Registration.processor_eq]
    exact r.nodup
  registered pl h := by
    rw [init, Registration.processor_eq]
    exact h.1
  outside _ := rfl
  delivers pl _ := by
    simp [init, Registration.processor_eq, undelivered, notifiedEvents, pushedEvents]

section Steps

variable {r : Registration ℓ} {s s' : EventLoop ℓ} {pl : ℓ}

/-- INTERNAL: between two deliveries nothing is undelivered. -/
theorem undelivered_nil (h : s.tmpMessages = []) : undelivered s pl = [] := by
  unfold undelivered
  rw [h]
  split
  · split <;> rfl
  · rfl

omit [DecidableEq ℓ] in
/-- INTERNAL: only a removal ends a registration. -/
theorem registeredThroughout_append {item : Item ℓ} (hitem : ∀ pl, item ≠ .removed pl)
    (htrace : s'.trace = s.trace ++ [item]) :
    RegisteredThroughout r s' pl ↔ RegisteredThroughout r s pl := by
  have htrue : .removed pl ∉ s'.trace ↔ .removed pl ∉ s.trace := by
    rw [htrace, List.mem_append, List.mem_singleton, or_iff_left (hitem pl).symm]
  exact and_congr_right' htrue

/-- INTERNAL: the main thread goes on while it has nothing to deliver. -/
theorem DeliveryOk.move (h : DeliveryOk r s) (htmp : s.tmpMessages = []) (pc : EventLoopPc) :
    DeliveryOk r { s with pc := pc } where
  nodup := h.nodup
  registered := h.registered
  outside _ := htmp
  delivers pl hpl := by
    have hdelivers := h.delivers pl hpl
    rw [undelivered_nil htmp] at hdelivers
    have hnil : undelivered { s with pc := pc } pl = [] := undelivered_nil htmp
    rw [hnil]
    exact hdelivers

/-- INTERNAL: a request of another thread; an event is pushed behind the others.
SOURCE: EventProcessor.cpp:109-119, 145-158 -/
theorem DeliveryOk.request (h : DeliveryOk r s) {item : Item ℓ} {processor : EventProcessor ℓ}
    {quit : Bool} (hremoved : ∀ pl, item ≠ .removed pl) (hnotified : ∀ pl m, item ≠ .notified pl m)
    (hlisteners : processor.mEventListeners = s.processor.mEventListeners)
    (hqueue : processor.mMessageQueue = s.processor.mMessageQueue ++ pushedEvents [item]) :
    DeliveryOk r { s with
      processor := processor, quit := quit, pc := s.pc.signal, trace := s.trace ++ [item] } := by
  refine ⟨?_, fun pl hpl => ?_, fun hpc => ?_, fun pl hpl => ?_⟩
  · rw [hlisteners]
    exact h.nodup
  · rw [hlisteners]
    exact h.registered pl ((registeredThroughout_append hremoved rfl).mp hpl)
  · apply h.outside
    intro i hi
    apply hpc i
    dsimp only
    rw [hi]
    rfl
  · have hdelivers := h.delivers pl ((registeredThroughout_append hremoved rfl).mp hpl)
    have hnone : notifiedEvents pl [item] = [] := by
      cases item with
      | notified pl' m => exact absurd rfl (hnotified pl' m)
      | pushed | swapped | reloadScheduled | removed | reloaded | quitRequested => rfl
    have hundelivered : undelivered { s with
        processor := processor, quit := quit, pc := s.pc.signal, trace := s.trace ++ [item] } pl =
        undelivered s pl := by
      unfold undelivered
      dsimp only
      rw [hlisteners]
      cases s.pc <;> rfl
    rw [hundelivered]
    dsimp only
    rw [notifiedEvents_append, hnone, List.append_nil, hqueue, ← List.append_assoc, hdelivers,
      pushedEvents_append]

/-- INTERNAL: after the swap everything is to be delivered to everybody.
SOURCE: EventProcessor.cpp:173-175 -/
theorem DeliveryOk.swap (h : DeliveryOk r s) (htmp : s.tmpMessages = []) :
    DeliveryOk r { s with
      tmpMessages := s.processor.mMessageQueue
      processor := { s.processor with mMessageQueue := [] }
      pc := .notifying 0
      trace := s.trace ++ [.swapped] } := by
  refine ⟨h.nodup, fun pl hpl => ?_, fun hpc => absurd rfl (hpc 0), fun pl hpl => ?_⟩
  · exact h.registered pl ((registeredThroughout_append (by simp) rfl).mp hpl)
  · have hdelivers := h.delivers pl
      ((registeredThroughout_append (by simp) rfl).mp hpl)
    rw [undelivered_nil htmp] at hdelivers
    simpa [undelivered, notifiedEvents, pushedEvents, List.filterMap_append] using hdelivers

/-- INTERNAL: one turn of the loop over `tmpMessages`. SOURCE: EventProcessor.cpp:177-185 -/
theorem DeliveryOk.notify (h : DeliveryOk r s) {i : ℕ} (hpc : s.pc = .notifying i) :
    DeliveryOk r (s.notifyStep i) := by
  unfold notifyStep
  split
  case h_1 htmp => exact h.move htmp .quitTest
  case h_2 message rest htmp =>
    split
    case h_1 pl' hpl' =>
      obtain ⟨hi, hget⟩ := List.getElem?_eq_some_iff.mp hpl'
      have hidx : s.processor.mEventListeners.idxOf pl' = i := by
        rw [← hget]
        exact h.nodup.idxOf_getElem i hi
      refine ⟨h.nodup, fun pl hpl => ?_, fun hout => absurd rfl (hout (i + 1)), fun pl hpl => ?_⟩
      · exact h.registered pl
          ((registeredThroughout_append (by simp) rfl).mp hpl)
      · have hregistered : RegisteredThroughout r s pl :=
          (registeredThroughout_append (by simp) rfl).mp hpl
        have hdelivers := h.delivers pl hregistered
        have hnotified : notifiedEvents pl (s.trace ++ [.notified pl' message]) =
            notifiedEvents pl s.trace ++ if pl' = pl then [message] else [] := by
          rw [notifiedEvents_append]
          congr 1
          split <;> simp [notifiedEvents, *]
        unfold undelivered at hdelivers ⊢
        dsimp only
        rw [hnotified]
        simp only [hpc, htmp] at hdelivers ⊢
        by_cases heq : pl' = pl
        · subst heq
          rw [hidx, if_neg (lt_irrefl i)] at hdelivers
          rw [if_pos rfl, hidx, if_pos (Nat.lt_succ_self i)]
          simpa [pushedEvents] using hdelivers
        · -- the place of another listener is not the current index
          have hne : s.processor.mEventListeners.idxOf pl ≠ i := by
            intro hplace
            apply heq
            have hmem := h.registered pl hregistered
            have hget' := List.getElem?_idxOf hmem
            rw [hplace, hpl'] at hget'
            exact Option.some.inj hget'
          have hlt : s.processor.mEventListeners.idxOf pl < i + 1 ↔
              s.processor.mEventListeners.idxOf pl < i := by omega
          rw [if_neg heq, List.append_nil]
          simp only [hlt]
          simpa [pushedEvents] using hdelivers
    case h_2 hend =>
      have hlength := List.getElem?_eq_none_iff.mp hend
      refine ⟨h.nodup, h.registered, fun hout => absurd rfl (hout 0), fun pl hpl => ?_⟩
      have hidx : s.processor.mEventListeners.idxOf pl < i :=
        lt_of_lt_of_le (List.idxOf_lt_length_iff.mpr (h.registered pl hpl)) hlength
      have hdelivers := h.delivers pl hpl
      simpa [undelivered, hpc, htmp, hidx] using hdelivers

/-- INTERNAL: a reload changes the script engine only. SOURCE: EventProcessor.cpp:121-143 -/
theorem DeliveryOk.reloadScript (h : DeliveryOk r s) (hpc : s.pc = .reloading) {engine : ℓ}
    (hengine : engine ∉ s.processor.removeScriptEngine.mEventListeners) :
    DeliveryOk r { s with
      processor := s.processor.reloadScript engine
      pc := .swapping
      trace := s.trace ++ reloadItems s.processor } := by
  have hout : ∀ i, s.pc ≠ .notifying i := by
    intro i
    rw [hpc]
    exact EventLoopPc.noConfusion
  have htmp := h.outside hout
  have hlisteners : (s.processor.reloadScript engine).mEventListeners =
      s.processor.removeScriptEngine.mEventListeners ++ [engine] := rfl
  have hregistered : ∀ pl, .removed pl ∉ s.trace ++ reloadItems s.processor →
      .removed pl ∉ s.trace ∧ s.processor.mpScriptEngine ≠ some pl := by
    intro pl hpl
    rw [List.mem_append, not_or] at hpl
    refine ⟨hpl.1, fun hsome => hpl.2 ?_⟩
    simp [reloadItems, hsome]
  have hnotified : ∀ pl, notifiedEvents pl (reloadItems s.processor) = [] := by
    intro pl
    cases hsome : s.processor.mpScriptEngine <;> simp [notifiedEvents, reloadItems, hsome]
  have hpushed : pushedEvents (reloadItems s.processor) = [] := by
    cases hsome : s.processor.mpScriptEngine <;> simp [pushedEvents, reloadItems, hsome]
  refine ⟨?_, fun pl hpl => ?_, fun _ => htmp, fun pl hpl => ?_⟩
  · rw [hlisteners]
    have hnodup := (EventProcessor.sublist_removeScriptEngine s.processor).nodup h.nodup
    rw [List.nodup_append]
    refine ⟨hnodup, List.pairwise_singleton _ engine, ?_⟩
    rintro pl hpl _ hlast rfl
    rw [List.mem_singleton] at hlast
    exact hengine (hlast ▸ hpl)
  · rw [hlisteners, List.mem_append]
    obtain ⟨htrace, hsome⟩ := hregistered pl hpl.2
    exact .inl (EventProcessor.mem_removeScriptEngine (h.registered pl ⟨hpl.1, htrace⟩) hsome)
  · have hdelivers := h.delivers pl ⟨hpl.1, (hregistered pl hpl.2).1⟩
    rw [undelivered_nil htmp] at hdelivers
    rw [undelivered_nil (s := { s with
      processor := s.processor.reloadScript engine
      pc := .swapping
      trace := s.trace ++ reloadItems s.processor }) htmp]
    dsimp only
    rw [EventProcessor.mMessageQueue_reloadScript, notifiedEvents_append, hnotified,
      pushedEvents_append, hpushed, List.append_nil, List.append_nil (pushedEvents s.trace)]
    exact hdelivers

/-- INTERNAL: a step of the main thread. -/
theorem DeliveryOk.mainStep (h : DeliveryOk r s) (hstep : s.mainStep = some s') :
    DeliveryOk r s' := by
  have htmp (pc : EventLoopPc) (hpc : s.pc = pc) (hout : ∀ i, pc ≠ .notifying i) :
      s.tmpMessages = [] := by
    apply h.outside
    rw [hpc]
    exact hout
  unfold EventLoop.mainStep at hstep
  split at hstep <;> try cases hstep
  case h_1 hpc => exact h.move (htmp _ hpc fun _ => EventLoopPc.noConfusion) .locked
  case h_2 hpc => exact h.move (htmp _ hpc fun _ => EventLoopPc.noConfusion) (.waiting false)
  case h_3 hpc => exact h.move (htmp _ hpc fun _ => EventLoopPc.noConfusion) .woken
  case h_5 hpc => exact h.move (htmp _ hpc fun _ => EventLoopPc.noConfusion) _
  case h_7 hpc => exact h.swap (htmp _ hpc fun _ => EventLoopPc.noConfusion)
  case h_8 i hpc => exact h.notify hpc
  case h_9 hpc => exact h.move (htmp _ hpc fun _ => EventLoopPc.noConfusion) _
  case h_10 hpc => exact h.move (htmp _ hpc fun _ => EventLoopPc.noConfusion) .top

/-- INTERNAL: every step keeps the order of delivery. -/
theorem step_deliveryOk {a : Act ℓ} (h : DeliveryOk r s) (hstep : step s a = some s') :
    DeliveryOk r s' := by
  cases a with
  | processEvent message t =>
    rw [step, Option.ite_none_left_eq_some] at hstep
    obtain rfl := Option.some.inj hstep.2
    exact h.request (by simp) (by simp) rfl rfl
  | scheduleScriptReload =>
    obtain rfl := Option.some.inj hstep
    exact h.request (by simp) (by simp) rfl (List.append_nil _).symm
  | termHandler =>
    obtain rfl := Option.some.inj hstep
    exact h.request (by simp) (by simp) rfl (List.append_nil _).symm
  | main => exact h.mainStep hstep
  | reloadScript engine =>
    rw [step, Option.ite_none_right_eq_some] at hstep
    obtain rfl := Option.some.inj hstep.2
    exact h.reloadScript hstep.1.1 hstep.1.2
  | wakeUp =>
    rw [step, Option.ite_none_right_eq_some] at hstep
    obtain rfl := Option.some.inj hstep.2
    apply h.move
    apply h.outside
    rw [hstep.1]
    exact fun _ => EventLoopPc.noConfusion

end Steps

/-- **Whatever the interleaving, a listener registered throughout is passed the events in the
order in which they were pushed, each once.**
SOURCE: EventProcessor.cpp:92-107, 145-187 -/
theorem delivers_throughout (r : Registration ℓ) (unset : Bool) (acts : List (Act ℓ)) :
    Throughout step (Delivers r) (init r unset) acts := by
  apply throughout_invariant (I := DeliveryOk r)
  · intro s h
    exact h.delivers
  · intro s a s' h hstep
    exact step_deliveryOk h hstep
  · exact deliveryOk_init r unset

end Dhas.Analysis
