import Dhas.Model.EventLoop

/-!
# The event loop sleeps on work

`timeSlice` calls `pthread_cond_wait` without looking at what is there to do. The signal of a
request that came while the main thread was delivering events or sleeping had no effect, so
the request waits for the signal of the next one.
-/

set_option autoImplicit false

namespace Dhas.Analysis

open Dhas.Library Dhas.Program Dhas.Model
open Dhas.Model.EventLoop

variable {ℓ : Type}

/-- While the main thread waits and no signal was delivered to it, there is nothing to do. -/
def NeverSleepsOnWork (s : EventLoop ℓ) : Prop :=
  s.pc = .waiting false →
    s.processor.mMessageQueue = [] ∧ s.processor.mNeedReloadScript = false ∧ s.quit = false

/-- An event was pushed after the last swap. -/
def PushedSinceSwap (trace : List (Item ℓ)) : Prop :=
  Since (fun _ x => ∃ message, x = .pushed message) (fun x => x ≠ .swapped) trace

/-- A reload was asked for after the last one was finished. -/
def ScheduledSinceReload (trace : List (Item ℓ)) : Prop :=
  Since (fun _ x => x = .reloadScheduled) (fun x => x ≠ .reloaded) trace

/-- When the main thread goes to wait, no event was pushed since the last swap, no reload was
asked for since the last one, and the end was not asked for. -/
def WaitsForNext (s : EventLoop ℓ) : Act ℓ → Prop
  | .main => s.pc = .locked →
      ¬ PushedSinceSwap s.trace ∧ ¬ ScheduledSinceReload s.trace ∧ .quitRequested ∉ s.trace
  | _ => True

/-- What there is to do is what was asked for and has not been done. -/
structure Recorded (s : EventLoop ℓ) : Prop where
  queue : s.processor.mMessageQueue = [] ↔ ¬ PushedSinceSwap s.trace
  reload : s.processor.mNeedReloadScript = false ↔ ¬ ScheduledSinceReload s.trace
  quit : s.quit = false ↔ .quitRequested ∉ s.trace

/-- INTERNAL: what a new event means for the queue. -/
theorem pushedSinceSwap_append_singleton {trace : List (Item ℓ)} {x : Item ℓ} :
    PushedSinceSwap (trace ++ [x]) ↔
      (∃ message, x = .pushed message) ∨ (PushedSinceSwap trace ∧ x ≠ .swapped) :=
  since_append_singleton x

/-- INTERNAL: what a new event means for the reload. -/
theorem scheduledSinceReload_append_singleton {trace : List (Item ℓ)} {x : Item ℓ} :
    ScheduledSinceReload (trace ++ [x]) ↔
      x = .reloadScheduled ∨ (ScheduledSinceReload trace ∧ x ≠ .reloaded) :=
  since_append_singleton x

variable [DecidableEq ℓ]

/-- INTERNAL: at first the queue is empty, and nothing has happened. -/
theorem recorded_init (r : Registration ℓ) (unset : Bool) : Recorded (init r unset) where
  queue := by
    rw [init, Registration.processor_eq]
    exact iff_of_true rfl not_since_nil
  reload := by
    rw [init, Registration.processor_eq]
    exact iff_of_true rfl not_since_nil
  quit := iff_of_true rfl (List.not_mem_nil)

section Steps

variable {s s' : EventLoop ℓ}

omit [DecidableEq ℓ] in
/-- INTERNAL: a notification is no request. -/
theorem Recorded.notifyStep (h : Recorded s) (i : ℕ) : Recorded (s.notifyStep i) := by
  unfold EventLoop.notifyStep
  split
  · exact ⟨h.queue, h.reload, h.quit⟩
  · split
    · refine ⟨?_, ?_, ?_⟩
      · rw [pushedSinceSwap_append_singleton]
        simpa using h.queue
      · rw [scheduledSinceReload_append_singleton]
        simpa using h.reload
      · simpa using h.quit
    · exact ⟨h.queue, h.reload, h.quit⟩

omit [DecidableEq ℓ] in
/-- INTERNAL: the swap empties the queue and leaves the other requests. -/
theorem Recorded.mainStep (h : Recorded s) (hstep : s.mainStep = some s') : Recorded s' := by
  unfold EventLoop.mainStep at hstep
  split at hstep <;> try cases hstep
  case h_7 =>
    refine ⟨?_, ?_, ?_⟩
    · rw [pushedSinceSwap_append_singleton]
      simp
    · rw [scheduledSinceReload_append_singleton]
      simpa using h.reload
    · simpa using h.quit
  case h_8 i _ => exact h.notifyStep i
  all_goals exact ⟨h.queue, h.reload, h.quit⟩

/-- INTERNAL: the record keeps up with the requests. SOURCE: EventProcessor.cpp:109-175 -/
theorem step_recorded {a : Act ℓ} (h : Recorded s) (hstep : step s a = some s') : Recorded s' := by
  cases a with
  | processEvent message t =>
    rw [step, Option.ite_none_left_eq_some] at hstep
    obtain rfl := Option.some.inj hstep.2
    refine ⟨?_, ?_, ?_⟩
    · rw [pushedSinceSwap_append_singleton]
      simp [EventProcessor.push]
    · rw [scheduledSinceReload_append_singleton]
      simpa [EventProcessor.push] using h.reload
    · simpa using h.quit
  | scheduleScriptReload =>
    obtain rfl := Option.some.inj hstep
    refine ⟨?_, ?_, ?_⟩
    · rw [pushedSinceSwap_append_singleton]
      simpa using h.queue
    · rw [scheduledSinceReload_append_singleton]
      simp
    · simpa using h.quit
  | termHandler =>
    obtain rfl := Option.some.inj hstep
    refine ⟨?_, ?_, ?_⟩
    · rw [pushedSinceSwap_append_singleton]
      simpa using h.queue
    · rw [scheduledSinceReload_append_singleton]
      simpa using h.reload
    · simp
  | main => exact h.mainStep hstep
  | reloadScript engine =>
    rw [step, Option.ite_none_right_eq_some] at hstep
    obtain rfl := Option.some.inj hstep.2
    refine ⟨?_, ?_, ?_⟩
    · rw [EventProcessor.mMessageQueue_reloadScript, h.queue]
      apply not_congr
      unfold PushedSinceSwap
      rw [since_append]
      · intro x hx _
        rcases mem_reloadItems.mp hx with ⟨pl, -, rfl⟩ | rfl <;> simp
      · intro x hx
        rcases mem_reloadItems.mp hx with ⟨pl, -, rfl⟩ | rfl <;> simp
    · apply iff_of_true rfl
      unfold reloadItems
      rw [← List.append_assoc, scheduledSinceReload_append_singleton]
      simp
    · rw [h.quit]
      simp [reloadItems]
  | wakeUp =>
    rw [step, Option.ite_none_right_eq_some] at hstep
    obtain rfl := Option.some.inj hstep.2
    exact ⟨h.queue, h.reload, h.quit⟩

omit [DecidableEq ℓ] in
/-- INTERNAL: `pthread_cond_signal` leaves no waiting thread without a signal. -/
theorem signal_ne_waiting (pc : EventLoopPc) : pc.signal ≠ .waiting false := by
  cases pc <;> simp [EventLoopPc.signal]

/-- INTERNAL: the main thread starts to wait only from the step behind the lock.
SOURCE: EventProcessor.cpp:166-167 -/
theorem step_waiting {a : Act ℓ} (hstep : step s a = some s') (hpc : s'.pc = .waiting false) :
    a = .main ∧ s.pc = .locked ∧ s' = { s with pc := .waiting false } := by
  cases a with
  | processEvent message t =>
    rw [step, Option.ite_none_left_eq_some] at hstep
    obtain rfl := Option.some.inj hstep.2
    exact absurd hpc (signal_ne_waiting s.pc)
  | scheduleScriptReload =>
    obtain rfl := Option.some.inj hstep
    exact absurd hpc (signal_ne_waiting s.pc)
  | termHandler =>
    obtain rfl := Option.some.inj hstep
    exact absurd hpc (signal_ne_waiting s.pc)
  | main =>
    refine ⟨rfl, ?_⟩
    have hmain : s.mainStep = some s' := hstep
    unfold EventLoop.mainStep at hmain
    split at hmain <;> try cases hmain
    case h_2 hlocked => exact ⟨hlocked, rfl⟩
    case h_5 =>
      dsimp only at hpc
      split at hpc <;> cases hpc
    case h_8 i _ =>
      unfold EventLoop.notifyStep at hpc
      split at hpc
      · cases hpc
      · split at hpc <;> cases hpc
    case h_9 =>
      dsimp only at hpc
      split at hpc <;> cases hpc
    all_goals cases hpc
  | reloadScript engine =>
    rw [step, Option.ite_none_right_eq_some] at hstep
    obtain rfl := Option.some.inj hstep.2
    cases hpc
  | wakeUp =>
    rw [step, Option.ite_none_right_eq_some] at hstep
    obtain rfl := Option.some.inj hstep.2
    cases hpc

end Steps

/-- **The event loop never sleeps on work exactly in the runs in which the main thread goes to
wait only when every event was swapped out, every reload was done and no end was asked
for.**
SOURCE: EventProcessor.cpp:109-119, 145-187, main.cpp:38-45, 229-231 -/
theorem neverSleepsOnWork_throughout_iff (r : Registration ℓ) (unset : Bool)
    (acts : List (Act ℓ)) :
    Throughout step NeverSleepsOnWork (init r unset) acts ↔
      Along step WaitsForNext (init r unset) acts := by
  refine throughout_iff_along (I := fun s => Recorded s ∧ NeverSleepsOnWork s)
    (fun _ h => h.2) ?_ ?_ ⟨recorded_init r unset, fun h => EventLoopPc.noConfusion h⟩
  · intro s a s' h hwaits hstep
    refine ⟨step_recorded h.1 hstep, fun hpc => ?_⟩
    obtain ⟨rfl, hlocked, rfl⟩ := step_waiting hstep hpc
    obtain ⟨hqueue, hreload, hquit⟩ := hwaits hlocked
    exact ⟨h.1.queue.mpr hqueue, h.1.reload.mpr hreload, h.1.quit.mpr hquit⟩
  · intro s a s' h hstep hnever
    cases a with
    | main =>
      intro hlocked
      have hs' : s' = { s with pc := .waiting false } := by
        have hmain : s.mainStep = some s' := hstep
        unfold EventLoop.mainStep at hmain
        rw [hlocked] at hmain
        exact (Option.some.inj hmain).symm
      subst hs'
      obtain ⟨hqueue, hreload, hquit⟩ := hnever rfl
      exact ⟨h.1.queue.mp hqueue, h.1.reload.mp hreload, h.1.quit.mp hquit⟩
    | processEvent | scheduleScriptReload | termHandler | reloadScript | wakeUp => trivial

/-- The first event wakes the main thread up, the second one is pushed while the first one is
delivered. -/
def pushedWhileDelivering : List (Act ℕ) :=
  [.main, .main, .processEvent [("event", .value (jsonText "motion"))] 1700000000, .main, .main,
    .main, .main, .processEvent [("event", .value (jsonText "alarm"))] 1700000001, .main, .main,
    .main, .main, .main, .main, .main, .main]

/-- The second event stays in the queue, and the main thread sleeps.
SOURCE: EventProcessor.cpp:163-167 -/
theorem pushedWhileDelivering_sleeps :
    ¬ Throughout step NeverSleepsOnWork
      (init (ℓ := ℕ) ⟨[0, 1], 2, by decide⟩ false) pushedWhileDelivering := by
  intro h
  have hend : NeverSleepsOnWork _ := h.last rfl
  exact absurd (hend rfl).1 (by decide)

end Dhas.Analysis
