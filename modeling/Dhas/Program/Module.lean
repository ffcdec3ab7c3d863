import Mathlib.Data.Bool.Basic

/-!
# Suspending a module

`modules/Module.cpp`. A module runs its loop on a thread of its own and calls `stopping()`
once per iteration; `suspend()` and `resume()` are called on another thread. The two sides
share three flags, and every read or write of a flag is one step.
-/

set_option autoImplicit false

namespace Dhas.Program

structure ModuleFlags where
  mStopping : Bool
  mSuspended : Bool
  mNeedSuspend : Bool
  deriving DecidableEq

/-- The flags when the module thread starts: `startModule` has run. -/
def ModuleFlags.started : ModuleFlags := ⟨false, false, false⟩

/-- Where the module thread is in `stopping()` and in its loop. -/
inductive ModulePc where
  /-- `while (mNeedSuspend)` -/
  | testNeedSuspend
  /-- `mSuspended = true;` -/
  | setSuspended
  /-- `usleep(200000);` -/
  | sleeping
  /-- `mSuspended = false;`, after the loop was left -/
  | clearSuspended
  /-- `return mStopping;` -/
  | returnStopping
  /-- in the body of the loop of `run()` -/
  | body
  /-- `run()` has returned -/
  | ended
  deriving DecidableEq

/-- One step of `stopping()`. It returns to the loop, whose body starts unless the module
is to end. -/
def stoppingStep (f : ModuleFlags) : ModulePc → Option (ModuleFlags × ModulePc)
  | .testNeedSuspend =>
    some (f, if f.mNeedSuspend then .setSuspended else .clearSuspended)
  | .setSuspended => some ({ f with mSuspended := true }, .sleeping)
  | .sleeping => some (f, .testNeedSuspend)
  | .clearSuspended => some ({ f with mSuspended := false }, .returnStopping)
  | .returnStopping => some (f, if f.mStopping then .ended else .body)
  | .body => none
  | .ended => none

/-- The thread is inside the `while (mNeedSuspend)` loop of `stopping()`, or about to test
its condition. -/
def ModulePc.InWhile (pc : ModulePc) : Prop :=
  pc = .testNeedSuspend ∨ pc = .setSuspended ∨ pc = .sleeping

instance (pc : ModulePc) : Decidable pc.InWhile := inferInstanceAs (Decidable (_ ∨ _))

/-- `mSuspended` is only true from the first round of the `while` loop until the thread
has left it. -/
def SuspendedInStopping (f : ModuleFlags) (pc : ModulePc) : Prop :=
  f.mSuspended = true → pc.InWhile ∨ pc = .clearSuspended

/-- INTERNAL: one step of `stopping()` keeps the meaning of `mSuspended`.
SOURCE: Module.cpp:65-76 -/
theorem stoppingStep_suspendedInStopping {f f' : ModuleFlags} {pc pc' : ModulePc}
    (hf : SuspendedInStopping f pc) (h : stoppingStep f pc = some (f', pc')) :
    SuspendedInStopping f' pc' := by
  intro hsusp
  cases pc with
  | testNeedSuspend =>
    cases h
    by_cases hneed : f.mNeedSuspend = true
    · exact .inl (by simp [hneed, ModulePc.InWhile])
    · exact .inr (by simp [hneed])
  | setSuspended =>
    cases h
    exact .inl (.inr (.inr rfl))
  | sleeping =>
    cases h
    exact .inl (.inl rfl)
  | clearSuspended =>
    cases h
    cases hsusp
  | returnStopping =>
    cases h
    exact absurd (hf hsusp) (by decide)
  | body => cases h
  | ended => cases h

/-- INTERNAL: `stopping()` writes none of the flags of the controlling thread. -/
theorem stoppingStep_flags {f f' : ModuleFlags} {pc pc' : ModulePc}
    (h : stoppingStep f pc = some (f', pc')) :
    f'.mNeedSuspend = f.mNeedSuspend ∧ f'.mStopping = f.mStopping := by
  cases pc <;> cases h <;> exact ⟨rfl, rfl⟩

/-- INTERNAL: the loop body is not a part of `stopping()`. -/
theorem stoppingStep_not_body {f f' : ModuleFlags} {pc pc' : ModulePc}
    (h : stoppingStep f pc = some (f', pc')) : pc ≠ .body := by
  rintro rfl
  cases h

/-- INTERNAL: while `mNeedSuspend` is set, a thread in the `while` loop stays in it.
SOURCE: Module.cpp:68-72 -/
theorem stoppingStep_inWhile {f f' : ModuleFlags} {pc pc' : ModulePc}
    (hneed : f.mNeedSuspend = true) (hpc : pc.InWhile)
    (h : stoppingStep f pc = some (f', pc')) : pc'.InWhile := by
  rcases hpc with rfl | rfl | rfl <;> cases h <;> simp [ModulePc.InWhile, hneed]

end Dhas.Program
