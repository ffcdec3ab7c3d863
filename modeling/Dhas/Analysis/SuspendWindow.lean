import Dhas.Model.Handshake

/-!
# The window between `suspend()` and `resume()`

`clearModuleList` deletes the devices between `suspend()` and `resume()`, so the module
thread must not run its loop body in between. That holds for the first suspension. In a
later round `suspend()` can read the `mSuspended` that the round before left behind: the
module thread has read `mNeedSuspend` as false, is about to clear `mSuspended`, and then
goes on into its body.

`ReadFresh` excludes that read, and the theorem says that nothing else has to be excluded.
The invariant `Window` says where the module thread is while the window is open.
-/

set_option autoImplicit false

namespace Dhas.Analysis

open Dhas.Library Dhas.Program Dhas.Model
open Dhas.Model.Handshake

/-- From this state, if `suspend()` has returned, the module thread is in no step of its
loop body before `resume()` is called, whatever the two threads do. -/
def StaysOut (s : Handshake) : Prop :=
  s.control = .holding → ∀ acts s', (∀ a ∈ acts, a ≠ .resume) →
    run step s acts = some s' → s'.thread ≠ .body

/-- When `suspend()` finds `mSuspended` true, the flag is not a left-over: the module thread
is not past its last test of `mNeedSuspend`, about to clear the flag and to go on. -/
def ReadFresh (s : Handshake) : Act → Prop
  | .readSuspended =>
    s.flags.mSuspended = true → s.thread = .clearSuspended → s.flags.mStopping = true
  | _ => True

/-- The module thread is in the `while` loop of `stopping()`, or it is ending. -/
def Parked (s : Handshake) : Prop :=
  s.thread.InWhile ∨ s.thread = .ended ∨
    s.flags.mStopping = true ∧ (s.thread = .clearSuspended ∨ s.thread = .returnStopping)

/-- The invariant: what `mSuspended` means, that `mNeedSuspend` is set while a suspension
is asked for, and where the module thread is while the window is open. -/
structure Window (s : Handshake) : Prop where
  suspended : SuspendedInStopping s.flags s.thread
  need : s.control ≠ .outside → s.flags.mNeedSuspend = true
  parked : s.control = .holding → Parked s

/-- INTERNAL: at first nobody suspends the module. -/
theorem window_init : Window init where
  suspended := fun h => by cases h
  need := fun h => absurd rfl h
  parked := fun h => by cases h

/-- INTERNAL: a thread that is parked is not in its body. -/
theorem Parked.ne_body {s : Handshake} (h : Parked s) : s.thread ≠ .body := by
  intro hb
  rcases h with h | h | ⟨-, h | h⟩
  · rw [hb] at h
    exact absurd h (by decide)
  all_goals
    rw [hb] at h
    cases h

/-- INTERNAL: a parked thread stays parked while `mNeedSuspend` is set.
SOURCE: Module.cpp:65-76 -/
theorem Parked.stopping {s : Handshake} {f : ModuleFlags} {pc : ModulePc}
    (hp : Parked s) (hneed : s.flags.mNeedSuspend = true)
    (h : stoppingStep s.flags s.thread = some (f, pc)) :
    Parked { s with flags := f, thread := pc } := by
  have hstop := (stoppingStep_flags h).2
  rcases hp with hw | he | ⟨hs, hc | hr⟩
  · exact .inl (stoppingStep_inWhile hneed hw h)
  · rw [he] at h
    cases h
  · rw [hc] at h
    cases h
    exact .inr (.inr ⟨hs, .inr rfl⟩)
  · rw [hr] at h
    cases h
    exact .inr (.inl (by simp [hs]))

/-- INTERNAL: every step whose read of `mSuspended` is fresh keeps the invariant.
SOURCE: Module.cpp:42-76 -/
theorem step_window {s s' : Handshake} {a : Act} (hs : Window s) (hC : ReadFresh s a)
    (h : step s a = some s') : Window s' := by
  cases a with
  | stopping =>
    obtain ⟨⟨f, pc⟩, hst, rfl⟩ := Option.map_eq_some_iff.mp h
    have hneed := (stoppingStep_flags hst).1
    exact
      { suspended := stoppingStep_suspendedInStopping hs.suspended hst
        need := fun hc => hneed.trans (hs.need hc)
        parked := fun hc => (hs.parked hc).stopping (hs.need (by simp_all)) hst }
  | body =>
    simp only [step, Option.ite_none_right_eq_some, Option.some.injEq] at h
    exact h.2 ▸ hs
  | bodyEnd =>
    simp only [step, Option.ite_none_right_eq_some, Option.some.injEq] at h
    obtain ⟨hb, rfl⟩ := h
    exact
      { suspended := fun _ => .inl (.inl rfl)
        need := hs.need
        parked := fun hc => absurd hb (hs.parked hc).ne_body }
  | suspend =>
    simp only [step, Option.ite_none_right_eq_some, Option.some.injEq] at h
    obtain ⟨-, rfl⟩ := h
    exact ⟨hs.suspended, fun _ => rfl, fun hc => by cases hc⟩
  | readSuspended =>
    simp only [step, Option.ite_none_right_eq_some, Option.some.injEq] at h
    obtain ⟨ht, rfl⟩ := h
    have hneed : s.flags.mNeedSuspend = true := hs.need (by simp [ht])
    refine ⟨hs.suspended, fun _ => hneed, fun hc => ?_⟩
    have hsusp : s.flags.mSuspended = true := by
      by_contra hn
      simp [hn] at hc
    rcases hs.suspended hsusp with hw | hcl
    · exact .inl hw
    · exact .inr (.inr ⟨hC hsusp hcl, .inl hcl⟩)
  | resume =>
    simp only [step, Option.ite_none_right_eq_some, Option.some.injEq] at h
    obtain ⟨-, rfl⟩ := h
    exact ⟨hs.suspended, fun hc => absurd rfl hc, fun hc => by cases hc⟩
  | waitCompletion =>
    cases h
    refine ⟨hs.suspended, hs.need, fun hc => ?_⟩
    rcases hs.parked hc with hw | he | ⟨-, hr⟩
    · exact .inl hw
    · exact .inr (.inl he)
    · exact .inr (.inr ⟨rfl, hr⟩)

/-- INTERNAL: a window that is open stays open until `resume()`. -/
theorem step_holding {s s' : Handshake} {a : Act} (hs : s.control = .holding)
    (ha : a ≠ .resume) (h : step s a = some s') : s'.control = .holding := by
  cases a <;> simp_all [step] <;> grind

/-- INTERNAL: while the invariant holds and the window is open, the thread stays out. -/
theorem Window.staysOut {s : Handshake} (hs : Window s) : StaysOut s := by
  intro hc acts s' hacts hrun
  -- in an open window `suspend()` is not reading, so every step meets `ReadFresh`
  have hinv : Window s' ∧ s'.control = .holding := by
    refine run_invariant_along (I := fun s => Window s ∧ s.control = .holding)
      (C := fun _ a => a ≠ .resume) ?_ ⟨hs, hc⟩ ?_ hrun
    · intro u a u' ⟨hu, huc⟩ ha hstep
      refine ⟨step_window hu ?_ hstep, step_holding huc ha hstep⟩
      cases a with
      | readSuspended => simp [step, huc] at hstep
      | _ => trivial
    · clear hrun hc hs
      induction acts generalizing s with
      | nil => trivial
      | cons a acts ih =>
        exact fun t _ => ⟨hacts a List.mem_cons_self,
          ih fun b hb => hacts b (List.mem_cons_of_mem a hb)⟩
  exact (hinv.1.parked hinv.2).ne_body

/-- INTERNAL: after a stale read the module thread reaches its body in two steps.
SOURCE: Module.cpp:73-75 -/
theorem stale_read_reaches_body {s : Handshake} (hsusp : s.flags.mSuspended = true)
    (hpc : s.thread = .clearSuspended) (hstop : s.flags.mStopping = false)
    {s' : Handshake} (h : step s .readSuspended = some s') : ¬ StaysOut s' := by
  simp only [step, Option.ite_none_right_eq_some, Option.some.injEq] at h
  obtain ⟨-, rfl⟩ := h
  intro hout
  refine hout (by simp [hsusp]) [.stopping, .stopping]
    { flags := { s.flags with mSuspended := false }, thread := .body, control := .holding }
    (by simp) ?_ rfl
  simp [step, hpc, stoppingStep, hstop, hsusp]

/-- **A suspended module stays out of its loop, exactly under `ReadFresh`.** In every run
of any number of rounds and in any interleaving, the window of every state reached is
respected if and only if no `suspend()` takes a left-over `mSuspended` for its own.
SOURCE: Module.cpp:42-76 -/
theorem suspended_staysOut_iff (acts : List Act) :
    Throughout step StaysOut init acts ↔ Along step ReadFresh init acts := by
  refine throughout_iff_along (I := Window) (fun _ h => h.staysOut) ?_ ?_ window_init
  · intro s a s' hs hC hstep
    exact step_window hs hC hstep
  · intro s a s' _ hstep hout
    cases a with
    | readSuspended =>
      intro hsusp hpc
      by_contra hstop
      exact stale_read_reaches_body hsusp hpc (by simpa using hstop) hstep hout
    | _ => trivial

/-- INTERNAL: what the theorem gives for the steps themselves: along such a run the module
thread takes no step of its loop body between `suspend()` and `resume()`. -/
theorem no_body_step_in_window {acts : List Act} (h : Along step ReadFresh init acts) :
    Along step (fun s a => s.control = .holding → ¬ a.InBody) init acts := by
  suffices hgen : ∀ s, Window s → Along step ReadFresh s acts →
      Along step (fun s a => s.control = .holding → ¬ a.InBody) s acts from
    hgen init window_init h
  clear h
  induction acts with
  | nil => exact fun _ _ _ => trivial
  | cons a acts ih =>
    intro s hs hC t ht
    refine ⟨fun hc hbody => ?_, ih t (step_window hs (hC t ht).1 ht) (hC t ht).2⟩
    have hne := (hs.parked hc).ne_body
    rcases hbody with rfl | rfl <;> simp [step, hne] at ht

/-- Two rounds: the second `suspend()` runs after the module thread has read `mNeedSuspend`
as false and before it clears `mSuspended`. -/
def secondRound : List Act :=
  [.suspend, .stopping, .stopping, .readSuspended, .resume, .stopping, .stopping,
    .suspend, .readSuspended]

/-- The window is open and the module thread is on its way into its loop body. -/
theorem secondRound_leaves_window : ¬ Throughout step StaysOut init secondRound := by
  intro h
  have hrun : run step init secondRound =
      some ⟨⟨false, true, true⟩, .clearSuspended, .holding⟩ := by decide
  exact h.last hrun rfl [.stopping, .stopping] ⟨⟨false, false, true⟩, .body, .holding⟩
    (by decide) (by decide) rfl

end Dhas.Analysis
