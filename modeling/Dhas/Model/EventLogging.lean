import Dhas.Model.EventLoop
import Dhas.Program.Mysql

/-!
# The event loop and the thread that writes the log

The `EventLogger` is one of the listeners that the main thread notifies. Its `addDocument` puts
the text of the event on the ring and then takes `mConditionLock` to notify the thread of
`Mysql::run`, which waits without looking at the ring, and empties it when it was woken up. When
the loop is over the main thread deletes the `Mysql` object and joins the thread.
`Mysql.cpp:23-101`, `EventLogger.cpp:9-13`, `main.cpp:229-238`.

What the main thread does with `mConditionLock` held is one step, possible while the other thread
does not hold it. A notification has no effect when nobody waits, and the thread may also wake up
without one.
-/

set_option autoImplicit false

namespace Dhas.Model

open Dhas.Library Dhas.Program

/-- Where the thread of `Mysql::run` is. -/
inductive MysqlPc where
  /-- `this->mStopping = false;` -/
  | starting
  /-- `while (!this->mStopping)` -/
  | test
  /-- `mConditionLock.lock();` -/
  | locking
  /-- the lock is held, `mWaitCondition.wait` is next -/
  | locked
  /-- in `wait`, which has released the lock -/
  | waiting (notified : Bool)
  /-- `mConditionLock.unlock();` -/
  | woken
  /-- `while (unPoolDocument());` -/
  | draining
  | exited
  deriving DecidableEq

/-- The thread holds `mConditionLock`. -/
def MysqlPc.Holds : MysqlPc → Bool
  | .locked | .woken => true
  | _ => false

/-- `mWaitCondition.notify_one();` -/
def MysqlPc.notify_one : MysqlPc → MysqlPc
  | .waiting _ => .waiting true
  | pc => pc

/-- What the main thread still has to do with the `Mysql` object. -/
inductive MysqlCall where
  | none
  /-- in `addDocument`, behind the `put` -/
  | notifying
  /-- in the destructor, behind `mStopping = true;` -/
  | stopping
  /-- in the destructor, `mThreadHandle.join();` -/
  | joining
  | destroyed
  deriving DecidableEq

/-- The main thread is about to notify the other one. -/
def MysqlCall.Notifies : MysqlCall → Bool
  | .notifying | .stopping => true
  | _ => false

namespace EventLogging

/-- What is recorded. -/
inductive Item where
  /-- `addDocument`, when that many documents were on the ring -/
  | offered (message : EventDocument) (waiting : ℕ)
  /-- `unPoolDocument` found the ring empty -/
  | foundEmpty
  | stopRequested
  deriving DecidableEq

inductive Act (ℓ : Type) where
  /-- a step of the event loop, of its main thread or of its clients -/
  | loop (a : EventLoop.Act ℓ)
  /-- the main thread: `mConditionLock.lock(); notify_one(); mConditionLock.unlock();` -/
  | notify
  /-- the main thread, behind its loop: `delete mysql` -/
  | destroy
  | join
  /-- the next step of the thread of `Mysql::run` -/
  | thread
  /-- `mWaitCondition.wait` returns without a notification -/
  | wakeUp

end EventLogging

structure EventLogging (ℓ : Type) where
  loop : EventLoop ℓ
  mpMysql : Mysql
  mStopping : Bool
  call : MysqlCall
  pc : MysqlPc
  trace : List EventLogging.Item

namespace EventLogging

variable {ℓ : Type} [DecidableEq ℓ]

/-- The constructor of `Mysql` leaves `mStopping` as it finds it. -/
def init (r : Registration ℓ) (unset : Bool) : EventLogging ℓ where
  loop := EventLoop.init r unset
  mpMysql := .new
  mStopping := unset
  call := .none
  pc := .starting
  trace := []

/-- The step is one of the main thread. -/
def isMain : EventLoop.Act ℓ → Bool
  | .main | .reloadScript _ => true
  | _ => false

/-- The listener that the main thread is about to notify, and the event. -/
def notification (s : EventLoop ℓ) : Option (ℓ × EventDocument) :=
  match s.pc, s.tmpMessages with
  | .notifying i, message :: _ => s.processor.mEventListeners[i]?.map fun pl => (pl, message)
  | _, _ => none

/-- `EventLogger::notifyEvent`, up to the notification. -/
def addDocument (text : EventText) (s : EventLogging ℓ) (message : EventDocument) : EventLogging ℓ :=
  { s with
    mpMysql := EventLogger.notifyEvent text s.mpMysql message
    call := if s.mpMysql.mpRequests.HasRoom then .notifying else .none
    trace := s.trace ++ [.offered message s.mpMysql.mpRequests.items.length] }

/-- The event that a step of the event loop passes to the logger. -/
def loggedBy (logger : ℓ) (s : EventLoop ℓ) (a : EventLoop.Act ℓ) : Option EventDocument :=
  match a, notification s with
  | .main, some (pl, message) => if pl = logger then some message else none
  | _, _ => none

/-- A step of the event loop; the main thread takes none while it is in a call. -/
def loopStep (text : EventText) (logger : ℓ) (s : EventLogging ℓ) (a : EventLoop.Act ℓ) :
    Option (EventLogging ℓ) :=
  if isMain a ∧ s.call ≠ .none then none
  else (s.loop.step a).map fun loop =>
    match loggedBy logger s.loop a with
    | some message => { s with loop := loop }.addDocument text message
    | none => { s with loop := loop }

/-- The next step of `Mysql::run`. -/
def threadStep (text : EventText) (escape : CString → CString) (s : EventLogging ℓ) :
    Option (EventLogging ℓ) :=
  match s.pc with
  | .starting => some { s with mStopping := false, pc := .test }
  | .test => some { s with pc := if s.mStopping then .exited else .locking }
  | .locking => some { s with pc := .locked }
  | .locked => some { s with pc := .waiting false }
  | .waiting true => some { s with pc := .woken }
  | .waiting false => none
  | .woken => some { s with pc := .draining }
  | .draining =>
    match s.mpMysql.unPoolDocument text escape with
    | (mpMysql, true) => some { s with mpMysql := mpMysql }
    | (_, false) => some { s with pc := .test, trace := s.trace ++ [.foundEmpty] }
  | .exited => none

def step (text : EventText) (escape : CString → CString) (logger : ℓ) (s : EventLogging ℓ) :
    Act ℓ → Option (EventLogging ℓ)
  | .loop a => s.loopStep text logger a
  | .notify =>
    if s.pc.Holds then none
    else match s.call with
    | .notifying => some { s with call := .none, pc := s.pc.notify_one }
    | .stopping => some { s with call := .joining, pc := s.pc.notify_one }
    | .none | .joining | .destroyed => none
  | .destroy =>
    if s.loop.pc = .exited ∧ s.call = .none then
      some { s with call := .stopping, mStopping := true, trace := s.trace ++ [.stopRequested] }
    else none
  | .join => if s.call = .joining ∧ s.pc = .exited then some { s with call := .destroyed } else none
  | .thread => s.threadStep text escape
  | .wakeUp => if s.pc = .waiting false then some { s with pc := .woken } else none

end EventLogging

end Dhas.Model
