import Dhas.Library.Run
import Dhas.Program.Module

/-!
# The suspend handshake of two threads

A controlling thread that calls `suspend()` and `resume()` in rounds, and the module
thread that alternates between `stopping()` and the body of its loop.
-/

set_option autoImplicit false

namespace Dhas.Model

open Dhas.Library Dhas.Program

/-- Where the controlling thread is. -/
inductive ControlPc where
  /-- outside: no suspension is asked for -/
  | outside
  /-- in `suspend()`, at `while (!mSuspended);` -/
  | testSuspended
  /-- `suspend()` has returned and `resume()` has not been called -/
  | holding
  deriving DecidableEq

structure Handshake where
  flags : ModuleFlags
  thread : ModulePc
  control : ControlPc
  deriving DecidableEq

namespace Handshake

/-- One atomic step of one of the two threads. -/
inductive Act where
  /-- a step of `stopping()` -/
  | stopping
  /-- a step inside the body of the loop -/
  | body
  /-- the body is over and `stopping()` is called -/
  | bodyEnd
  /-- `mNeedSuspend = true;` -/
  | suspend
  /-- one test of `while (!mSuspended);` -/
  | readSuspended
  /-- `mNeedSuspend = false;` -/
  | resume
  /-- `mStopping = true;` in `waitCompletion` -/
  | waitCompletion
  deriving DecidableEq

/-- The actions of the loop body. -/
def Act.InBody (a : Act) : Prop := a = .body ∨ a = .bodyEnd

def init : Handshake := ⟨ModuleFlags.started, .testNeedSuspend, .outside⟩

def step (s : Handshake) : Act → Option Handshake
  | .stopping =>
    (stoppingStep s.flags s.thread).map fun r => { s with flags := r.1, thread := r.2 }
  | .body => if s.thread = .body then some s else none
  | .bodyEnd =>
    if s.thread = .body then some { s with thread := .testNeedSuspend } else none
  | .suspend =>
    if s.control = .outside then
      some { s with flags := { s.flags with mNeedSuspend := true }, control := .testSuspended }
    else none
  | .readSuspended =>
    if s.control = .testSuspended then
      some { s with control := if s.flags.mSuspended then .holding else .testSuspended }
    else none
  | .resume =>
    if s.control = .holding then
      some { s with flags := { s.flags with mNeedSuspend := false }, control := .outside }
    else none
  | .waitCompletion => some { s with flags := { s.flags with mStopping := true } }

end Handshake

end Dhas.Model
