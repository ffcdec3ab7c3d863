import Dhas.Library.Run
import Dhas.Library.WaitFor
import Dhas.Program.Module
import Mathlib.Logic.Function.Basic

/-!
# The threads of a script reload

The main thread in `EventProcessor::timeSlice`, the Insteon thread in its loop, and any
number of web threads in `RESTInterface::processQuery`. What makes one of them wait is
`mMessageQueueLock`, `mInvocationLock` or the test of `mSuspended` in `suspend()`; each
acquisition, release and flag access is one step, so a list of actions is an interleaving.

The script runs on the main thread: during `reloadScript`, with `mMessageQueueLock` held,
and as a listener after it was released. Both times it makes any number of calls to
`processQuery`, each of which may be `/insteon/clearmodules`. A script that does not make
such a call is a run without that action.
-/

set_option autoImplicit false

namespace Dhas.Model

open Dhas.Library Dhas.Program

/-- The callers of `processQuery`. -/
inductive Client (ω : Type) where
  | main
  | web (w : ω)
  deriving DecidableEq

inductive Thread (ω : Type) where
  | client (c : Client ω)
  | insteon
  deriving DecidableEq

/-- Where a client is in `processQuery`. -/
inductive QueryPc where
  | idle
  /-- `pthread_mutex_lock(&mInvocationLock);` The flag: the query is `/insteon/clearmodules`. -/
  | wantInvocation (clear : Bool)
  /-- the lock is held and the callback starts -/
  | invoked (clear : Bool)
  /-- in `suspend()`, at `while (!mSuspended);` -/
  | awaitSuspended
  /-- `suspend()` has returned, the devices are deleted -/
  | clearing
  /-- `pthread_mutex_unlock(&mInvocationLock);` -/
  | unlockInvocation
  deriving DecidableEq

/-- The client is between its lock and its unlock of `mInvocationLock`. -/
def QueryPc.Holds : QueryPc → Bool
  | .idle => false
  | .wantInvocation _ => false
  | _ => true

/-- Where the main thread is in its loop around `timeSlice`. -/
inductive MainPc where
  /-- between two calls of `timeSlice` -/
  | outside
  /-- `pthread_mutex_lock(&mMessageQueueLock);` -/
  | lockQueue
  /-- the lock is held, `pthread_cond_wait` is next -/
  | locked
  /-- in `pthread_cond_wait`, which has released the lock -/
  | condWait
  /-- woken up, `pthread_cond_wait` takes the lock again -/
  | relock
  /-- `if (mNeedReloadScript)` -/
  | testReload
  /-- in `reloadScript()`, with the lock held -/
  | reload
  /-- the swap and `pthread_mutex_unlock(&mMessageQueueLock);` -/
  | swap
  /-- the listeners are notified, without the lock -/
  | notify
  deriving DecidableEq

/-- The main thread holds `mMessageQueueLock`. -/
def MainPc.Holds : MainPc → Bool
  | .locked | .testReload | .reload | .swap => true
  | _ => false

/-- The script may make calls. -/
def MainPc.InScript : MainPc → Bool
  | .reload | .notify => true
  | _ => false

/-- Where the Insteon thread is in `EventProcessor::processEvent`. -/
inductive EventPc where
  | idle
  /-- `pthread_mutex_lock(&mMessageQueueLock);` -/
  | wantQueue
  /-- the lock is held -/
  | pushing
  deriving DecidableEq

structure ScriptReload (ω : Type) where
  flags : ModuleFlags
  thread : ModulePc
  event : EventPc
  mainPc : MainPc
  mNeedReloadScript : Bool
  query : Client ω → QueryPc
  mMessageQueueLock : Option (Thread ω)
  mInvocationLock : Option (Client ω)

namespace ScriptReload

variable {ω : Type} [DecidableEq ω]

inductive Act (ω : Type) where
  /-- SIGHUP: `scheduleScriptReload()` -/
  | hup
  /-- the next step of the main thread in `timeSlice` -/
  | main
  /-- the Insteon thread: a step of `stopping()` -/
  | stopping
  /-- the Insteon thread: a step of its loop body outside `processEvent` -/
  | body
  /-- the Insteon thread calls `processEvent` -/
  | processEvent
  /-- the Insteon thread gets the lock in `processEvent` -/
  | lockEvent
  /-- the Insteon thread releases the lock and returns from `processEvent` -/
  | unlockEvent
  /-- the Insteon thread ends its loop body and calls `stopping()` -/
  | bodyEnd
  /-- a client calls `processQuery` -/
  | processQuery (c : Client ω) (clear : Bool)
  | lockInvocation (c : Client ω)
  /-- the callback returns, for a query other than `/insteon/clearmodules` -/
  | callback (c : Client ω)
  /-- `mNeedSuspend = true;` -/
  | suspend (c : Client ω)
  /-- one test of `while (!mSuspended);` -/
  | readSuspended (c : Client ω)
  /-- `mNeedSuspend = false;` after the devices were deleted -/
  | resume (c : Client ω)
  | unlockInvocation (c : Client ω)

/-- `main()` loads the script for the first time without a lock, as a listener runs. -/
def init : ScriptReload ω where
  flags := ModuleFlags.started
  thread := .testNeedSuspend
  event := .idle
  mainPc := .notify
  mNeedReloadScript := false
  query := fun _ => .idle
  mMessageQueueLock := none
  mInvocationLock := none

/-- The client goes to another place in `processQuery`. -/
def moveTo (s : ScriptReload ω) (c : Client ω) (pc : QueryPc) : ScriptReload ω :=
  { s with query := Function.update s.query c pc }

/-- INTERNAL: only this client has moved. -/
@[simp] theorem moveTo_query (s : ScriptReload ω) (c d : Client ω) (pc : QueryPc) :
    (s.moveTo c pc).query d = if d = c then pc else s.query d := by
  simp [moveTo, Function.update_apply]

/-- INTERNAL: a move of a client leaves the lock alone. -/
@[simp] theorem moveTo_mInvocationLock (s : ScriptReload ω) (c : Client ω) (pc : QueryPc) :
    (s.moveTo c pc).mInvocationLock = s.mInvocationLock := rfl

/-- The main thread in `timeSlice`. A `pthread_mutex_lock` is not possible while another
thread holds the mutex, and the script's part is over only when no call is under way. -/
def mainStep (s : ScriptReload ω) : Option (ScriptReload ω) :=
  match s.mainPc with
  | .outside => some { s with mainPc := .lockQueue }
  | .lockQueue =>
    if s.mMessageQueueLock = none then
      some { s with mainPc := .locked, mMessageQueueLock := some (.client .main) }
    else none
  | .locked => some { s with mainPc := .condWait, mMessageQueueLock := none }
  | .condWait => some { s with mainPc := .relock }
  | .relock =>
    if s.mMessageQueueLock = none then
      some { s with mainPc := .testReload, mMessageQueueLock := some (.client .main) }
    else none
  | .testReload =>
    some { s with mainPc := if s.mNeedReloadScript then .reload else .swap }
  | .reload =>
    if s.query .main = .idle then
      some { s with mainPc := .swap, mNeedReloadScript := false }
    else none
  | .swap => some { s with mainPc := .notify, mMessageQueueLock := none }
  | .notify =>
    if s.query .main = .idle then some { s with mainPc := .outside } else none

/-- A client may call `processQuery`: a web thread at any time, the main thread from the
script. -/
def MayQuery (s : ScriptReload ω) : Client ω → Bool
  | .main => s.mainPc.InScript
  | .web _ => true

def step (s : ScriptReload ω) : Act ω → Option (ScriptReload ω)
  | .hup => some { s with mNeedReloadScript := true }
  | .main => s.mainStep
  | .stopping =>
    (stoppingStep s.flags s.thread).map fun r => { s with flags := r.1, thread := r.2 }
  | .body => if s.thread = .body ∧ s.event = .idle then some s else none
  | .processEvent =>
    if s.thread = .body ∧ s.event = .idle then some { s with event := .wantQueue } else none
  | .lockEvent =>
    if s.event = .wantQueue ∧ s.mMessageQueueLock = none then
      some { s with event := .pushing, mMessageQueueLock := some .insteon }
    else none
  | .unlockEvent =>
    if s.event = .pushing then some { s with event := .idle, mMessageQueueLock := none }
    else none
  | .bodyEnd =>
    if s.thread = .body ∧ s.event = .idle then some { s with thread := .testNeedSuspend }
    else none
  | .processQuery c clear =>
    if s.query c = .idle ∧ s.MayQuery c then some (s.moveTo c (.wantInvocation clear)) else none
  | .lockInvocation c =>
    match s.query c with
    | .wantInvocation clear =>
      if s.mInvocationLock = none then
        some { s.moveTo c (.invoked clear) with mInvocationLock := some c }
      else none
    | _ => none
  | .callback c =>
    if s.query c = .invoked false then some (s.moveTo c .unlockInvocation) else none
  | .suspend c =>
    if s.query c = .invoked true then
      some { s.moveTo c .awaitSuspended with flags := { s.flags with mNeedSuspend := true } }
    else none
  | .readSuspended c =>
    if s.query c = .awaitSuspended then
      some (if s.flags.mSuspended then s.moveTo c .clearing else s)
    else none
  | .resume c =>
    if s.query c = .clearing then
      some { s.moveTo c .unlockInvocation with flags := { s.flags with mNeedSuspend := false } }
    else none
  | .unlockInvocation c =>
    if s.query c = .unlockInvocation then
      some { s.moveTo c .idle with mInvocationLock := none }
    else none

/-- Who is blocked by whom: a thread at a lock by its holder, and a client in `suspend()`
by the Insteon thread, which alone sets `mSuspended`. -/
inductive WaitsFor (s : ScriptReload ω) : Thread ω → Thread ω → Prop where
  | event {t} : s.event = .wantQueue → s.mMessageQueueLock = some t → WaitsFor s .insteon t
  | queue {t} : s.mainPc = .lockQueue ∨ s.mainPc = .relock → s.mMessageQueueLock = some t →
      WaitsFor s (.client .main) t
  | invocation {c d clear} : s.query c = .wantInvocation clear → s.mInvocationLock = some d →
      WaitsFor s (.client c) (.client d)
  | suspend {c} : s.query c = .awaitSuspended → s.flags.mSuspended = false →
      WaitsFor s (.client c) .insteon

end ScriptReload

end Dhas.Model
