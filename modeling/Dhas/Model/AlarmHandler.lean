import Dhas.Library.Run
import Mathlib.Logic.Function.Basic

/-!
# The alarm and the mutexes

SIGALRM runs `onAlarm` on top of whatever a thread is doing. What matters of a function here
is the order in which it takes and releases `mMessageQueueLock` and `mListLock`; everything
else it does is `work`. Each element of such a list is one step, so that an alarm can arrive
between any two of them. `EventProcessor.cpp:16-28, 145-201`, `Schedule.cpp:38-114`.

A mutex is not recursive: a thread that takes one that it holds waits for itself.
-/

set_option autoImplicit false

namespace Dhas.Model

open Dhas.Library

inductive Mutex where
  | mMessageQueueLock
  | mListLock
  deriving DecidableEq

/-- A step of a function. -/
inductive LockOp where
  | lock (m : Mutex)
  | unlock (m : Mutex)
  | work
  deriving DecidableEq

/-- The functions that a script may call through the REST interface. -/
inductive ScriptCall where
  | processEvent
  | addEvent
  | removeEvent (found : Bool)
  | getDueEvents (stored : ℕ)
  | getAllEvents (stored : ℕ)
  deriving DecidableEq

open LockOp Mutex

namespace ScriptCall

/-- The steps of a function. `removeEvent` returns early when the id is unknown, and the two
last ones loop over the stored events. -/
def code : ScriptCall → List LockOp
  | .processEvent =>
    -- the time stamp; the push and the signal with the lock held
    [work, lock mMessageQueueLock, work, work, unlock mMessageQueueLock]
  | .addEvent =>
    -- the map; `toJSON` and `stringify`; `put`; `sync`
    [lock mListLock, work, work, work, work, unlock mListLock]
  | .removeEvent true =>
    -- `find`; `erase`; `del`; `sync`; `delete`
    [lock mListLock, work, work, work, work, work, unlock mListLock]
  | .removeEvent false => [lock mListLock, work, unlock mListLock]
  | .getDueEvents stored => lock mListLock :: List.replicate stored work ++ [unlock mListLock]
  | .getAllEvents stored => lock mListLock :: List.replicate stored work ++ [unlock mListLock]

end ScriptCall

/-- What a thread executes. `load` is what the script does when it is loaded again, which
happens with the lock held, and `delivery` what the listeners do. -/
inductive ThreadCall where
  | plain (c : ScriptCall)
  | timeSlice (load delivery : List ScriptCall)
  deriving DecidableEq

namespace ThreadCall

/-- The steps of a call. `pthread_cond_wait` releases the lock, waits and takes it again. -/
def code : ThreadCall → List LockOp
  | .plain c => c.code
  | .timeSlice load delivery =>
    [lock mMessageQueueLock, unlock mMessageQueueLock, work, lock mMessageQueueLock, work] ++
      load.flatMap (·.code) ++ [work, unlock mMessageQueueLock] ++ delivery.flatMap (·.code)

end ThreadCall

/-- `processSchedule`: each due event is passed to `processEvent` and removed; the flag says
whether it is still in the map. -/
def processScheduleCode (stored : ℕ) (due : List Bool) : List LockOp :=
  (ScriptCall.getDueEvents stored).code ++
    due.flatMap fun found => ScriptCall.processEvent.code ++ (ScriptCall.removeEvent found).code

/-- `onAlarm`: `processSchedule`, `appendPeriodicData`, `processEvent` and `checkSun`, which
passes on an event at sunrise and at sunset. -/
def onAlarmCode (stored : ℕ) (due : List Bool) (sun : Bool) : List LockOp :=
  work :: processScheduleCode stored due ++ work :: ScriptCall.processEvent.code ++
    work :: if sun then ScriptCall.processEvent.code else []

/-- A mutex is held by the code of a thread or by the handler that runs on top of it. -/
inductive Level where
  | code
  | handler
  deriving DecidableEq

/-- What a thread has left to do, and its handler, if one runs. -/
structure AlarmThread where
  code : List LockOp
  handler : Option (List LockOp)

structure AlarmHandler (θ : Type) where
  threads : θ → AlarmThread
  owner : Mutex → Option (θ × Level)

namespace AlarmHandler

inductive Act (θ : Type) where
  | call (t : θ) (c : ThreadCall)
  | run (t : θ)
  | alarm (t : θ) (stored : ℕ) (due : List Bool) (sun : Bool)

variable {θ : Type} [DecidableEq θ]

/-- One step of a function; taking a mutex is possible only while nobody holds it. -/
def exec (owner : Mutex → Option (θ × Level)) (who : θ × Level) :
    LockOp → Option (Mutex → Option (θ × Level))
  | .work => some owner
  | .lock m => if owner m = none then some (Function.update owner m (some who)) else none
  | .unlock m => some (if owner m = some who then Function.update owner m none else owner)

/-- The next step of a thread: the handler comes first, and the code goes on after it. -/
def runStep (s : AlarmHandler θ) (t : θ) : Option (AlarmHandler θ) :=
  match (s.threads t).handler, (s.threads t).code with
  | some [], code => some { s with threads := Function.update s.threads t ⟨code, none⟩ }
  | some (op :: rest), code => do
    let owner ← exec s.owner (t, .handler) op
    return { threads := Function.update s.threads t ⟨code, some rest⟩, owner := owner }
  | none, op :: rest => do
    let owner ← exec s.owner (t, .code) op
    return { threads := Function.update s.threads t ⟨rest, none⟩, owner := owner }
  | none, [] => none

def step (s : AlarmHandler θ) : Act θ → Option (AlarmHandler θ)
  | .call t c =>
    if (s.threads t).code = [] ∧ (s.threads t).handler = none then
      some { s with threads := Function.update s.threads t ⟨c.code, none⟩ }
    else none
  | .run t => s.runStep t
  | .alarm t stored due sun =>
    if (s.threads t).handler = none then
      some { s with
        threads := Function.update s.threads t
          ⟨(s.threads t).code, some (onAlarmCode stored due sun)⟩ }
    else none

/-- No thread does anything, and nobody holds a mutex. -/
def init : AlarmHandler θ where
  threads _ := ⟨[], none⟩
  owner _ := none

/-- INTERNAL: what the next step of a thread is: its handler returns, or executes its next
operation, or the code does. -/
theorem runStep_cases {s s' : AlarmHandler θ} {t : θ} (h : s.runStep t = some s') :
    ∃ thread owner,
      s' = { threads := Function.update s.threads t thread, owner := owner } ∧
      (((s.threads t).handler = some [] ∧ thread.handler = none ∧ owner = s.owner) ∨
        (∃ op rest, (s.threads t).handler = some (op :: rest) ∧ thread.handler = some rest ∧
          exec s.owner (t, .handler) op = some owner) ∨
        ∃ op, (s.threads t).handler = none ∧ thread.handler = none ∧
          exec s.owner (t, .code) op = some owner) := by
  unfold runStep at h
  split at h
  case h_1 _ _ hhandler =>
    obtain rfl := Option.some.inj h
    exact ⟨_, _, rfl, .inl ⟨hhandler, rfl, rfl⟩⟩
  case h_2 _ _ op rest hhandler =>
    rw [Option.bind_eq_bind, Option.bind_eq_some_iff] at h
    obtain ⟨owner, hexec, hs⟩ := h
    obtain rfl := Option.some.inj hs
    exact ⟨_, owner, rfl, .inr (.inl ⟨op, rest, hhandler, rfl, hexec⟩)⟩
  case h_3 _ _ op rest hhandler _ =>
    rw [Option.bind_eq_bind, Option.bind_eq_some_iff] at h
    obtain ⟨owner, hexec, hs⟩ := h
    obtain rfl := Option.some.inj hs
    exact ⟨_, owner, rfl, .inr (.inr ⟨op, hhandler, rfl, hexec⟩)⟩
  case h_4 => cases h

/-- INTERNAL: a step changes a mutex only for the one who takes it. -/
theorem owner_of_exec {owner owner' : Mutex → Option (θ × Level)} {who who' : θ × Level}
    {op : LockOp} (h : exec owner who op = some owner') {m : Mutex} (hm : owner' m = some who')
    (hwho : who' ≠ who) : owner m = some who' := by
  cases op with
  | work => exact Option.some.inj h ▸ hm
  | lock m' =>
    rw [exec, Option.ite_none_right_eq_some] at h
    obtain rfl := Option.some.inj h.2
    by_cases hmm : m = m'
    · rw [hmm, Function.update_self] at hm
      exact absurd (Option.some.inj hm).symm hwho
    · rwa [Function.update_of_ne hmm] at hm
  | unlock m' =>
    obtain rfl := Option.some.inj h
    split at hm
    case isTrue =>
      by_cases hmm : m = m'
      · rw [hmm, Function.update_self] at hm
        cases hm
      · rwa [Function.update_of_ne hmm] at hm
    case isFalse => exact hm

/-- INTERNAL: nobody takes a mutex away from the one who holds it. -/
theorem exec_of_owner {owner owner' : Mutex → Option (θ × Level)} {who who' : θ × Level}
    {op : LockOp} (h : exec owner who op = some owner') {m : Mutex} (hm : owner m = some who')
    (hwho : who' ≠ who) : owner' m = some who' := by
  cases op with
  | work => exact Option.some.inj h ▸ hm
  | lock m' =>
    rw [exec, Option.ite_none_right_eq_some] at h
    obtain rfl := Option.some.inj h.2
    rw [Function.update_of_ne]
    · exact hm
    · rintro rfl
      rw [h.1] at hm
      cases hm
  | unlock m' =>
    obtain rfl := Option.some.inj h
    split
    case isTrue howner =>
      rw [Function.update_of_ne]
      · exact hm
      · rintro rfl
        rw [howner] at hm
        exact hwho (Option.some.inj hm).symm
    case isFalse => exact hm

end AlarmHandler

end Dhas.Model
