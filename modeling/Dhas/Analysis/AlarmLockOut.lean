import Dhas.Model.AlarmHandler

/-!
# The alarm handler locks itself out

`onAlarm` takes `mListLock` in `getDueEvents` and `mMessageQueueLock` in `processEvent`,
whatever it finds there. When it interrupts code that holds one of them it waits for the code
below it, which cannot go on before the handler returns.
-/

set_option autoImplicit false

namespace Dhas.Analysis

open Dhas.Library Dhas.Model
open Dhas.Model.AlarmHandler

variable {θ : Type} [DecidableEq θ]

/-- No running handler has before it the acquisition of a mutex that the code below it
holds. -/
def NeverLocksItselfOut (s : AlarmHandler θ) : Prop :=
  ∀ t rest m, (s.threads t).handler = some rest → .lock m ∈ rest → s.owner m ≠ some (t, .code)

/-- An alarm interrupts a thread only while its code holds neither mutex. -/
def InterruptsOutside (s : AlarmHandler θ) : Act θ → Prop
  | .alarm t _ _ _ => ∀ m, s.owner m ≠ some (t, .code)
  | _ => True

/-- The handler of a thread is at the acquisition of a mutex that the code below it holds. -/
def LockedOut (s : AlarmHandler θ) (t : θ) (m : Mutex) : Prop :=
  (∃ rest, (s.threads t).handler = some (.lock m :: rest)) ∧ s.owner m = some (t, .code)

/-- INTERNAL: the handler takes both mutexes on every path.
SOURCE: EventProcessor.cpp:16-28, 189-201 -/
theorem lock_mem_onAlarmCode (m : Mutex) (stored : ℕ) (due : List Bool) (sun : Bool) :
    .lock m ∈ onAlarmCode stored due sun := by
  cases m <;> simp [onAlarmCode, processScheduleCode, ScriptCall.code]

section Steps

variable {s s' : AlarmHandler θ} {a : Act θ}

/-- INTERNAL: it is enough to look at the thread that makes the step. -/
theorem NeverLocksItselfOut.update (h : NeverLocksItselfOut s) {t : θ} {thread : AlarmThread}
    {owner : Mutex → Option (θ × Level)}
    (hself : ∀ rest m, thread.handler = some rest → .lock m ∈ rest → owner m ≠ some (t, .code))
    (hother : ∀ t' m, t' ≠ t → owner m = some (t', .code) → s.owner m = some (t', .code)) :
    NeverLocksItselfOut { threads := Function.update s.threads t thread, owner := owner } := by
  intro t' rest m hhandler hlock howner
  dsimp only at hhandler howner
  by_cases ht : t' = t
  · subst ht
    rw [Function.update_self] at hhandler
    exact hself rest m hhandler hlock howner
  · rw [Function.update_of_ne ht] at hhandler
    exact h t' rest m hhandler hlock (hother t' m ht howner)

/-- INTERNAL: a step of a handler leaves it fewer acquisitions, and one of the code below
takes place only without a handler. -/
theorem runStep_neverLocksItselfOut (h : NeverLocksItselfOut s) {t : θ}
    (hstep : s.runStep t = some s') : NeverLocksItselfOut s' := by
  obtain ⟨thread, owner, rfl, hcase⟩ := runStep_cases hstep
  apply h.update
  · intro rest m hhandler hlock howner
    rcases hcase with ⟨-, hnone, -⟩ | ⟨op, rest', hfull, hrest, hexec⟩ | ⟨op, -, hnone, -⟩
    · rw [hnone] at hhandler
      cases hhandler
    · rw [hrest] at hhandler
      obtain rfl := Option.some.inj hhandler
      apply h t _ m hfull (List.mem_cons_of_mem op hlock)
      apply owner_of_exec hexec howner
      simp
    · rw [hnone] at hhandler
      cases hhandler
  · intro t' m ht howner
    rcases hcase with ⟨-, -, rfl⟩ | ⟨op, rest', -, -, hexec⟩ | ⟨op, -, -, hexec⟩
    · exact howner
    · apply owner_of_exec hexec howner
      simp
    · apply owner_of_exec hexec howner
      simpa using ht

/-- INTERNAL: **one step in which an alarm, if there is one, interrupts a thread that holds neither
mutex.** -/
theorem step_neverLocksItselfOut (h : NeverLocksItselfOut s) (hout : InterruptsOutside s a)
    (hstep : step s a = some s') : NeverLocksItselfOut s' := by
  cases a with
  | call t c =>
    rw [step, Option.ite_none_right_eq_some] at hstep
    obtain rfl := Option.some.inj hstep.2
    apply h.update
    · intro rest m hhandler
      cases hhandler
    · exact fun t' m _ howner => howner
  | run t => exact runStep_neverLocksItselfOut h hstep
  | alarm t stored due sun =>
    rw [step, Option.ite_none_right_eq_some] at hstep
    obtain rfl := Option.some.inj hstep.2
    apply h.update
    · exact fun rest m _ _ => hout m
    · exact fun t' m _ howner => howner

/-- INTERNAL: a handler that starts has both acquisitions before it. -/
theorem interruptsOutside_of_neverLocksItselfOut (hstep : step s a = some s')
    (h : NeverLocksItselfOut s') : InterruptsOutside s a := by
  cases a with
  | alarm t stored due sun =>
    rw [step, Option.ite_none_right_eq_some] at hstep
    obtain rfl := Option.some.inj hstep.2
    intro m
    apply h t (onAlarmCode stored due sun) m
    · dsimp only
      rw [Function.update_self]
    · exact lock_mem_onAlarmCode m stored due sun
  | call | run => trivial

/-- INTERNAL: no step of any thread ends the wait. -/
theorem LockedOut.step {t : θ} {m : Mutex} (h : LockedOut s t m) (hstep : step s a = some s') :
    LockedOut s' t m := by
  obtain ⟨⟨rest, hhandler⟩, howner⟩ := h
  -- a thread that makes a step is another one
  have hkept : ∀ t' thread owner, t ≠ t' → owner m = some (t, .code) →
      LockedOut { threads := Function.update s.threads t' thread, owner := owner } t m := by
    intro t' thread owner ht hm
    refine ⟨⟨rest, ?_⟩, hm⟩
    dsimp only
    rw [Function.update_of_ne ht]
    exact hhandler
  cases a with
  | call t' c =>
    rw [AlarmHandler.step, Option.ite_none_right_eq_some] at hstep
    obtain rfl := Option.some.inj hstep.2
    refine hkept t' _ _ ?_ howner
    rintro rfl
    rw [hhandler] at hstep
    exact absurd hstep.1.2 (by simp)
  | alarm t' stored due sun =>
    rw [AlarmHandler.step, Option.ite_none_right_eq_some] at hstep
    obtain rfl := Option.some.inj hstep.2
    refine hkept t' _ _ ?_ howner
    rintro rfl
    rw [hhandler] at hstep
    exact absurd hstep.1 (by simp)
  | run t' =>
    obtain ⟨thread, owner, rfl, hcase⟩ := runStep_cases hstep
    by_cases ht : t = t'
    · -- the handler itself waits for ever
      subst ht
      rw [hhandler] at hcase
      simp [exec, howner] at hcase
    · apply hkept t' _ _ ht
      have hne : ∀ level : Level, (t, Level.code) ≠ (t', level) := by
        simp [ht]
      rcases hcase with ⟨-, -, rfl⟩ | ⟨op, rest', -, -, hexec⟩ | ⟨op, -, -, hexec⟩
      · exact howner
      · exact exec_of_owner hexec howner (hne _)
      · exact exec_of_owner hexec howner (hne _)

end Steps

/-- **A handler that waits for the code below it waits for ever, whatever the other threads
do.** -/
theorem lockedOut_forever {s s' : AlarmHandler θ} {t : θ} {m : Mutex} {acts : List (Act θ)}
    (h : LockedOut s t m) (hrun : run step s acts = some s') : LockedOut s' t m :=
  run_invariant (I := fun s => LockedOut s t m) (fun _ _ _ h hstep => h.step hstep) h hrun

/-- **The handler never tries to take a mutex that the interrupted code holds exactly in the
runs in which every alarm interrupts a thread that holds neither mutex.**
SOURCE: EventProcessor.cpp:16-28, 145-201, Schedule.cpp:38-114 -/
theorem neverLocksItselfOut_throughout_iff (acts : List (Act θ)) :
    Throughout step NeverLocksItselfOut (init : AlarmHandler θ) acts ↔
      Along step InterruptsOutside (init : AlarmHandler θ) acts := by
  refine throughout_iff_along (fun _ h => h)
    (fun _ _ _ h hout hstep => step_neverLocksItselfOut h hout hstep)
    (fun _ _ _ _ hstep h => interruptsOutside_of_neverLocksItselfOut hstep h) ?_
  intro t rest m hhandler
  cases hhandler

/-- A thread is interrupted while it pushes an event. -/
def alarmInProcessEvent : List (Act ℕ) :=
  [.call 0 (.plain .processEvent), .run 0, .run 0, .alarm 0 3 [] false]

/-- The handler will wait for `mMessageQueueLock`. SOURCE: EventProcessor.cpp:154-157 -/
theorem alarmInProcessEvent_locksOut :
    ¬ Throughout step NeverLocksItselfOut (init : AlarmHandler ℕ) alarmInProcessEvent := by
  intro h
  have hend : NeverLocksItselfOut _ := h.last rfl
  exact hend 0 (onAlarmCode 3 [] false) .mMessageQueueLock rfl (by decide) rfl

end Dhas.Analysis
