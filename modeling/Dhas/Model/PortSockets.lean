import Dhas.Library.Run
import Dhas.Program.AlarmModule
import Mathlib.Logic.Function.Basic

/-!
# The sockets of the serial ports

The Insteon modem and the alarm panel have an `IPSerialPort` each, and a thread each that uses
it. The descriptors of their sockets are numbers from one table of the process, so a number that
one port has closed is soon that of another port, or of any other file.

A port is one of `ι`. A step of a port is one system call, or the assignment behind it: between
`close(mSocket)` and `mSocket = 0` the other threads may go on. `socket` returns a free
descriptor, or -1. What the rest of the process opens and closes is a step too.

`attempts` and `calls` are not in the source. They record when a port tried to connect, and the
calls on descriptors with who had the descriptor then.
-/

set_option autoImplicit false

namespace Dhas.Model

open Dhas.Program

namespace PortSockets

/-- Who a descriptor was given to. -/
inductive Owner (ι : Type) where
  | port (i : ι)
  | others
  deriving DecidableEq

/-- Where the thread of a port is. `reconnecting` is true in `Reconnect`. -/
inductive PortPc where
  | idle
  | connecting
  /-- at `close(this->mSocket)` -/
  | closing (reconnecting : Bool)
  /-- at `this->mSocket = 0` -/
  | closed (reconnecting : Bool)
  deriving DecidableEq

structure Port where
  mSocket : ℤ
  mLastReconnect : ℤ
  mFailedReconnect : Bool
  pc : PortPc
  attempts : List ℤ
  deriving DecidableEq

/-- A call on a descriptor: the port, the descriptor and its owner. -/
structure SocketCall (ι : Type) where
  caller : ι
  fd : ℤ
  owner : Option (Owner ι)

inductive Act (ι : Type) where
  /-- `Reconnect()` at time `t`, up to the result of `socket` -/
  | reconnect (i : ι) (t fd : ℤ)
  | connect (i : ι) (ok : Bool)
  /-- `Read` or `Write`, up to the result of the call; `failed` says that the socket is gone -/
  | transfer (i : ι) (failed : Bool)
  | close (i : ι)
  /-- the assignment behind `close` -/
  | assign (i : ι)
  /-- another part of the process opens a file -/
  | opened (fd : ℤ)
  /-- and closes it -/
  | released (fd : ℤ)

end PortSockets

structure PortSockets (ι : Type) where
  ports : ι → PortSockets.Port
  /-- the descriptors that are open -/
  table : ℤ → Option (PortSockets.Owner ι)
  calls : List (PortSockets.SocketCall ι)

namespace PortSockets

variable {ι : Type} [DecidableEq ι]

/-- The constructor `IPSerialPort()`. -/
def Port.new : Port := ⟨0, 0, true, .idle, []⟩

/-- The ports of a process that has the files of `table` open. -/
def init (table : ℤ → Bool) : PortSockets ι where
  ports := fun _ => .new
  table := fun fd => if table fd then some .others else none
  calls := []

def setPort (s : PortSockets ι) (i : ι) (p : Port) : PortSockets ι :=
  { s with ports := Function.update s.ports i p }

/-- A call on the descriptor of a port. -/
def call (s : PortSockets ι) (i : ι) : PortSockets ι :=
  { s with calls := s.calls ++ [⟨i, (s.ports i).mSocket, s.table (s.ports i).mSocket⟩] }

/-- `socket`, `connect` and `read` of a thread come between its own steps only. -/
def step (s : PortSockets ι) : Act ι → Option (PortSockets ι)
  | .reconnect i t fd =>
    let p := s.ports i
    if p.pc ≠ .idle then none
    else if p.mSocket ≠ 0 ∨ p.mLastReconnect + 2 > t then some s
    else
      let p := { p with
        mSocket := fd
        mLastReconnect := t
        pc := .connecting
        attempts := p.attempts ++ [t] }
      if fd = -1 then some (s.setPort i p)
      else if 0 ≤ fd ∧ s.table fd = none then
        some { s.setPort i p with table := Function.update s.table fd (some (.port i)) }
      else none
  | .connect i ok =>
    let p := s.ports i
    if p.pc = .connecting ∧ (ok = true → p.mSocket ≠ -1) then
      let p := if ok then { p with pc := .idle, mFailedReconnect := false }
        else { p with pc := .closing true }
      some ((s.call i).setPort i p)
    else none
  | .transfer i failed =>
    let p := s.ports i
    if p.pc ≠ .idle then none
    else if p.mSocket = 0 then some s
    else
      let p := if failed then { p with pc := .closing false } else p
      some ((s.call i).setPort i p)
  | .close i =>
    let p := s.ports i
    match p.pc with
    | .closing reconnecting =>
      some { (s.call i).setPort i { p with pc := .closed reconnecting } with
        table := Function.update s.table p.mSocket none }
    | _ => none
  | .assign i =>
    let p := s.ports i
    match p.pc with
    | .closed reconnecting =>
      let p := { p with mSocket := 0, pc := .idle }
      some (s.setPort i (if reconnecting then { p with mFailedReconnect := true } else p))
    | _ => none
  | .opened fd =>
    if 0 ≤ fd ∧ s.table fd = none then
      some { s with table := Function.update s.table fd (some .others) }
    else none
  | .released fd =>
    if s.table fd = some .others then
      some { s with table := Function.update s.table fd none }
    else none

/-- What a step can do. -/
inductive StepEffect (s : PortSockets ι) : Act ι → PortSockets ι → Prop where
  | notDue (i : ι) (t fd : ℤ) (hpc : (s.ports i).pc = .idle)
      (h : (s.ports i).mSocket ≠ 0 ∨ (s.ports i).mLastReconnect + 2 > t) :
      StepEffect s (.reconnect i t fd) s
  | noSocket (i : ι) (t : ℤ) (hpc : (s.ports i).pc = .idle) (hsocket : (s.ports i).mSocket = 0)
      (hdue : (s.ports i).mLastReconnect + 2 ≤ t) :
      StepEffect s (.reconnect i t (-1)) (s.setPort i { s.ports i with
        mSocket := -1, mLastReconnect := t, pc := .connecting,
        attempts := (s.ports i).attempts ++ [t] })
  | socket (i : ι) (t fd : ℤ) (hpc : (s.ports i).pc = .idle)
      (hsocket : (s.ports i).mSocket = 0) (hdue : (s.ports i).mLastReconnect + 2 ≤ t)
      (hfd : 0 ≤ fd) (hfree : s.table fd = none) :
      StepEffect s (.reconnect i t fd) { s.setPort i { s.ports i with
          mSocket := fd, mLastReconnect := t, pc := .connecting,
          attempts := (s.ports i).attempts ++ [t] } with
        table := Function.update s.table fd (some (.port i)) }
  | connected (i : ι) (hpc : (s.ports i).pc = .connecting) (hfd : (s.ports i).mSocket ≠ -1) :
      StepEffect s (.connect i true) ((s.call i).setPort i { s.ports i with
        pc := .idle, mFailedReconnect := false })
  | refused (i : ι) (hpc : (s.ports i).pc = .connecting) :
      StepEffect s (.connect i false) ((s.call i).setPort i { s.ports i with pc := .closing true })
  | notOpen (i : ι) (failed : Bool) (hpc : (s.ports i).pc = .idle)
      (hsocket : (s.ports i).mSocket = 0) : StepEffect s (.transfer i failed) s
  | transferred (i : ι) (hpc : (s.ports i).pc = .idle) (hsocket : (s.ports i).mSocket ≠ 0) :
      StepEffect s (.transfer i false) ((s.call i).setPort i (s.ports i))
  | gone (i : ι) (hpc : (s.ports i).pc = .idle) (hsocket : (s.ports i).mSocket ≠ 0) :
      StepEffect s (.transfer i true)
        ((s.call i).setPort i { s.ports i with pc := .closing false })
  | close (i : ι) (reconnecting : Bool) (hpc : (s.ports i).pc = .closing reconnecting) :
      StepEffect s (.close i) { (s.call i).setPort i { s.ports i with
          pc := .closed reconnecting } with
        table := Function.update s.table (s.ports i).mSocket none }
  | assign (i : ι) (reconnecting : Bool) (hpc : (s.ports i).pc = .closed reconnecting) :
      StepEffect s (.assign i) (s.setPort i { s.ports i with
        mSocket := 0, pc := .idle
        mFailedReconnect := reconnecting || (s.ports i).mFailedReconnect })
  | opened (fd : ℤ) (hfd : 0 ≤ fd) (hfree : s.table fd = none) :
      StepEffect s (.opened fd) { s with table := Function.update s.table fd (some .others) }
  | released (fd : ℤ) (howner : s.table fd = some .others) :
      StepEffect s (.released fd) { s with table := Function.update s.table fd none }

/-- INTERNAL: **what a step can do.** SOURCE: IPSerialPort.cpp:44-138 -/
theorem step_effect {s s' : PortSockets ι} {a : Act ι} (hstep : step s a = some s') :
    StepEffect s a s' := by
  cases a with
  | reconnect i t fd =>
    simp only [step] at hstep
    split at hstep
    case isTrue => cases hstep
    case isFalse hpc =>
      have hidle : (s.ports i).pc = .idle := by simpa using hpc
      split at hstep
      case isTrue hdue =>
        obtain rfl := Option.some.inj hstep
        exact .notDue i t fd hidle hdue
      case isFalse hdue =>
        rw [not_or, not_not] at hdue
        obtain ⟨hsocket, hdue⟩ := hdue
        split at hstep
        case isTrue hfd =>
          obtain rfl := Option.some.inj hstep
          rw [hfd]
          exact .noSocket i t hidle hsocket (by omega)
        case isFalse =>
          split at hstep
          case isTrue hfree =>
            obtain rfl := Option.some.inj hstep
            exact .socket i t fd hidle hsocket (by omega) hfree.1 hfree.2
          case isFalse => cases hstep
  | connect i ok =>
    simp only [step] at hstep
    split at hstep
    case isFalse => cases hstep
    case isTrue hpc =>
      obtain rfl := Option.some.inj hstep
      cases ok with
      | true => exact .connected i hpc.1 (hpc.2 rfl)
      | false => exact .refused i hpc.1
  | transfer i failed =>
    simp only [step] at hstep
    split at hstep
    case isTrue => cases hstep
    case isFalse hpc =>
      have hidle : (s.ports i).pc = .idle := by simpa using hpc
      split at hstep
      case isTrue hsocket =>
        obtain rfl := Option.some.inj hstep
        exact .notOpen i failed hidle hsocket
      case isFalse hsocket =>
        obtain rfl := Option.some.inj hstep
        cases failed with
        | true => exact .gone i hidle hsocket
        | false => exact .transferred i hidle hsocket
  | close i =>
    simp only [step] at hstep
    split at hstep
    case h_1 reconnecting hpc =>
      obtain rfl := Option.some.inj hstep
      exact .close i reconnecting hpc
    case h_2 => cases hstep
  | assign i =>
    simp only [step] at hstep
    split at hstep
    case h_1 reconnecting hpc =>
      obtain rfl := Option.some.inj hstep
      cases reconnecting with
      | true => exact .assign i true hpc
      | false => exact .assign i false hpc
    case h_2 => cases hstep
  | opened fd =>
    simp only [step, Option.ite_none_right_eq_some] at hstep
    obtain ⟨⟨hfd, hfree⟩, hs⟩ := hstep
    obtain rfl := Option.some.inj hs
    exact .opened fd hfd hfree
  | released fd =>
    simp only [step, Option.ite_none_right_eq_some] at hstep
    obtain ⟨howner, hs⟩ := hstep
    obtain rfl := Option.some.inj hs
    exact .released fd howner

end PortSockets

end Dhas.Model
