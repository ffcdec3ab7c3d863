import Dhas.Library.Run
import Dhas.Library.Trace
import Dhas.Program.EventProcessor

/-!
# The event loop and its clients

The main thread in `while (timeSlice() && !quit) sleep(1)`, any number of threads in
`processEvent`, and the signal handlers that ask for a reload of the script or for the end
of the program. A critical section of `processEvent` is one step, possible while the main
thread does not hold `mMessageQueueLock`; a listener that calls `processEvent` while it is
notified is one of these clients too. `EventProcessor.cpp:92-187`, `main.cpp:38-45, 229-231`.

A signal of the condition variable wakes the main thread up when it waits and has no effect
otherwise. The main thread may also wake up without a signal.
-/

set_option autoImplicit false

namespace Dhas.Model

open Dhas.Library Dhas.Program

/-- Where the main thread is. -/
inductive EventLoopPc where
  /-- `pthread_mutex_lock(&mMessageQueueLock);` -/
  | top
  /-- the lock is held, `pthread_cond_wait` is next -/
  | locked
  /-- in `pthread_cond_wait`, which has released the lock -/
  | waiting (signaled : Bool)
  /-- `if (mNeedReloadScript)`, with the lock held again -/
  | woken
  /-- in `reloadScript()`, with the lock held -/
  | reloading
  /-- the swap and `pthread_mutex_unlock(&mMessageQueueLock);` -/
  | swapping
  /-- in the loop over `tmpMessages`, before the listener with this index -/
  | notifying (i : ℕ)
  /-- `&& !quit` -/
  | quitTest
  /-- `sleep(1)` -/
  | sleeping
  /-- after the loop -/
  | exited
  deriving DecidableEq

/-- The main thread holds `mMessageQueueLock`. -/
def EventLoopPc.Holds : EventLoopPc → Bool
  | .locked | .woken | .reloading | .swapping => true
  | _ => false

/-- `pthread_cond_signal`. -/
def EventLoopPc.signal : EventLoopPc → EventLoopPc
  | .waiting _ => .waiting true
  | pc => pc

namespace EventLoop

/-- What is recorded. -/
inductive Item (ℓ : Type) where
  | pushed (message : EventDocument)
  | notified (pl : ℓ) (message : EventDocument)
  | swapped
  | reloadScheduled
  | removed (pl : ℓ)
  | reloaded
  | quitRequested
  deriving DecidableEq

inductive Act (ℓ : Type) where
  /-- `processEvent(message)` of any thread, at time `t` -/
  | processEvent (message : EventDocument) (t : ℤ)
  /-- SIGHUP -/
  | scheduleScriptReload
  /-- SIGTERM: `quit = true` and `stop()` -/
  | termHandler
  /-- the next step of the main thread outside `reloadScript` -/
  | main
  /-- the main thread: `reloadScript()` with a new engine -/
  | reloadScript (engine : ℓ)
  /-- `pthread_cond_wait` returns without a signal -/
  | wakeUp

end EventLoop

structure EventLoop (ℓ : Type) where
  processor : EventProcessor ℓ
  quit : Bool
  tmpMessages : List EventDocument
  pc : EventLoopPc
  trace : List (EventLoop.Item ℓ)

namespace EventLoop

variable {ℓ : Type} [DecidableEq ℓ]

def init (r : Registration ℓ) (unset : Bool) : EventLoop ℓ where
  processor := r.processor unset
  quit := false
  tmpMessages := []
  pc := .top
  trace := []

/-- The loop over `tmpMessages`: the front goes to the listener with this index, and is
popped after the last one. -/
def notifyStep (s : EventLoop ℓ) (i : ℕ) : EventLoop ℓ :=
  match s.tmpMessages with
  | [] => { s with pc := .quitTest }
  | message :: rest =>
    match s.processor.mEventListeners[i]? with
    | some pl => { s with pc := .notifying (i + 1), trace := s.trace ++ [.notified pl message] }
    | none => { s with pc := .notifying 0, tmpMessages := rest }

/-- The next step of the main thread. -/
def mainStep (s : EventLoop ℓ) : Option (EventLoop ℓ) :=
  match s.pc with
  | .top => some { s with pc := .locked }
  | .locked => some { s with pc := .waiting false }
  | .waiting true => some { s with pc := .woken }
  | .waiting false => none
  | .woken => some { s with pc := if s.processor.mNeedReloadScript then .reloading else .swapping }
  | .reloading => none
  | .swapping =>
    some { s with
      tmpMessages := s.processor.mMessageQueue
      processor := { s.processor with mMessageQueue := [] }
      pc := .notifying 0
      trace := s.trace ++ [.swapped] }
  | .notifying i => some (s.notifyStep i)
  | .quitTest => some { s with pc := if s.quit then .exited else .sleeping }
  | .sleeping => some { s with pc := .top }
  | .exited => none

/-- What the record says of `reloadScript()`. -/
def reloadItems (p : EventProcessor ℓ) : List (Item ℓ) :=
  p.mpScriptEngine.toList.map .removed ++ [.reloaded]

omit [DecidableEq ℓ] in
/-- INTERNAL: a reload queues the removal of the old script engine, if there is one, and its own
mark. -/
theorem mem_reloadItems {p : EventProcessor ℓ} {x : Item ℓ} :
    x ∈ reloadItems p ↔ (∃ pl, p.mpScriptEngine = some pl ∧ x = .removed pl) ∨ x = .reloaded := by
  simp [reloadItems, eq_comm]

def step (s : EventLoop ℓ) : Act ℓ → Option (EventLoop ℓ)
  | .processEvent message t =>
    if s.pc.Holds then none
    else some { s with
      processor := s.processor.push (message.stamp t)
      pc := s.pc.signal
      trace := s.trace ++ [.pushed (message.stamp t)] }
  | .scheduleScriptReload =>
    some { s with
      processor := { s.processor with mNeedReloadScript := true }
      pc := s.pc.signal
      trace := s.trace ++ [.reloadScheduled] }
  | .termHandler =>
    some { s with
      quit := true
      pc := s.pc.signal
      trace := s.trace ++ [.quitRequested] }
  | .main => s.mainStep
  | .reloadScript engine =>
    -- the new engine is not an object that is in use
    if s.pc = .reloading ∧ engine ∉ s.processor.removeScriptEngine.mEventListeners then
      some { s with
        processor := s.processor.reloadScript engine
        pc := .swapping
        trace := s.trace ++ reloadItems s.processor }
    else none
  | .wakeUp => if s.pc = .waiting false then some { s with pc := .woken } else none

end EventLoop

end Dhas.Model
