import Dhas.Library.Run

/-!
# The life of the modules

`main.cpp` from `startModules` on, `ModuleProvider::startModules` and `stopModules`, and the
threads of the modules (`Module.cpp`). The modules are numbered in the order of `mModuleMap`, and
each is at one of the places of its `run()`. What a module does is left open, but that it may pass
an event to the event processor, or leave its loop. A suspension of a module is over when it is
stopped (`Dhas.Model.Handshake` has the suspension).

No thread has to go on: one that waits for `mMessageQueueLock`, for a device, for the script or for
the web interface is one that takes no step. So the program has no run that is missing here, and
what holds of every run here holds of every run of the program. Whether a thread that could go on
ever does is not a question for this system.

The handlers of SIGALRM, SIGHUP and SIGTERM run on any thread at any time: each uses the event
processor, and that of SIGTERM sets `quit` before. A signal of the condition variable is lost when
the main thread does not wait, and the wait may return without one.
-/

set_option autoImplicit false

namespace Dhas.Model

open Dhas.Library

/-- Where the thread of a module is. -/
inductive ModuleThreadPc where
  /-- `pthread_create` was not called yet -/
  | notCreated
  /-- in `run()`, before `setStarted()` -/
  | setUp
  /-- at `while (!stopping())` -/
  | stopping
  | body
  | returned
  deriving DecidableEq

structure ModuleThread where
  pc : ModuleThreadPc
  mStopping : Bool
  /-- the value of `mStartedPromise` was set -/
  started : Bool
  deriving DecidableEq

/-- Where the main thread is. -/
inductive ProcessPc where
  | startModule (i : ℕ)
  | waitReady (i : ℕ)
  /-- at `pthread_cond_wait` in `timeSlice` -/
  | waiting
  /-- in `timeSlice`, after the wait -/
  | notified
  /-- at `!quit` -/
  | testQuit
  /-- in `stopModules`, before `stop()` of a module -/
  | stopModule (i : ℕ)
  /-- at `pthread_join` -/
  | waitCompletion (i : ℕ)
  | deleteEventProcessor
  | deleteMysql
  | returned
  deriving DecidableEq

structure ModuleLife where
  main : ProcessPc
  modules : ℕ → ModuleThread
  quit : Bool
  /-- `pEventProcessor` was not deleted -/
  eventProcessor : Bool
  /-- the handlers that are about to use the event processor -/
  handlers : ℕ

namespace ModuleLife

inductive Act where
  /-- the next step of the main thread -/
  | main
  /-- the rest of `run()` up to `setStarted()`, which is not reached when it returns before -/
  | setUp (i : ℕ) (returns : Bool)
  /-- `stopping()` -/
  | stopping (i : ℕ)
  /-- the body of the loop -/
  | body (i : ℕ) (processEvent returns : Bool)
  /-- a handler begins; `termHandler` sets `quit` -/
  | signal (term : Bool)
  /-- a handler uses the event processor, and returns -/
  | handler

/-- The event processor was constructed. -/
def init : ModuleLife where
  main := .startModule 0
  modules := fun _ => ⟨.notCreated, false, false⟩
  quit := false
  eventProcessor := true
  handlers := 0

def setModule (s : ModuleLife) (i : ℕ) (m : ModuleThread) : ModuleLife :=
  { s with modules := Function.update s.modules i m }

/-- `pthread_cond_signal(&mMessageQueueWaitCondition)` -/
def notify (s : ModuleLife) : ModuleLife :=
  { s with main := if s.main = .waiting then .notified else s.main }

/-- The main thread: `startModules`, the loop of `main`, `stopModules` and what follows.
`n` is the number of the modules. SOURCE: main.cpp:226-241, ModuleProvider.cpp:59-87 -/
def mainStep (n : ℕ) (s : ModuleLife) : Option ModuleLife :=
  match s.main with
  | .startModule i =>
    if i < n then some { s.setModule i ⟨.setUp, false, false⟩ with main := .startModule (i + 1) }
    else some { s with main := .waitReady 0 }
  | .waitReady i =>
    if i < n then
      if (s.modules i).started then some { s with main := .waitReady (i + 1) } else none
    else some { s with main := .waiting }
  | .waiting => some { s with main := .notified }
  | .notified => some { s with main := .testQuit }
  | .testQuit => some { s with main := if s.quit then .stopModule 0 else .waiting }
  | .stopModule i =>
    if i < n then
      some { s.setModule i { s.modules i with mStopping := true } with main := .waitCompletion i }
    else some { s with main := .deleteEventProcessor }
  | .waitCompletion i =>
    if (s.modules i).pc = .returned then some { s with main := .stopModule (i + 1) } else none
  | .deleteEventProcessor => some { s with main := .deleteMysql, eventProcessor := false }
  | .deleteMysql => some { s with main := .returned }
  | .returned => none

def step (n : ℕ) (s : ModuleLife) : Act → Option ModuleLife
  | .main => mainStep n s
  | .setUp i returns =>
    if (s.modules i).pc = .setUp then
      some (s.setModule i (if returns then { s.modules i with pc := .returned }
        else { s.modules i with pc := .stopping, started := true }))
    else none
  | .stopping i =>
    if (s.modules i).pc = .stopping then
      some (s.setModule i { s.modules i with
        pc := if (s.modules i).mStopping then .returned else .body })
    else none
  | .body i processEvent returns =>
    if (s.modules i).pc = .body then
      let s' := s.setModule i { s.modules i with pc := if returns then .returned else .stopping }
      some (if processEvent then s'.notify else s')
    else none
  | .signal term => some { s with quit := s.quit || term, handlers := s.handlers + 1 }
  | .handler => if 0 < s.handlers then some { s.notify with handlers := s.handlers - 1 } else none

end ModuleLife

end Dhas.Model
