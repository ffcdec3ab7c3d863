import Dhas.Model.ScriptReload

/-!
# Deadlocks of a script reload

`timeSlice` releases `mMessageQueueLock` before it notifies the listeners, but it runs
`reloadScript` with the lock held. A script that calls `/insteon/clearmodules` while it is
loaded waits for the Insteon thread to suspend; if that thread is at the lock in
`processEvent`, neither goes on. The same happens over a web thread that is suspending the
module while the script waits for `mInvocationLock`.

`Stuck` names these states. In every reachable state a cycle of waits exists exactly when
the state is `Stuck` (`hasCycle_iff_stuck`), so the analysis reduces to the three steps
that lead there, and `ReloadFree` is the condition on these.
-/

set_option autoImplicit false

namespace Dhas.Analysis

open Dhas.Library Dhas.Program Dhas.Model
open Dhas.Model.ScriptReload

variable {ω : Type}

/-- The main thread is loading the script and, directly or through `mInvocationLock`, waits
for the Insteon thread to suspend. -/
def ReloadAwaitsSuspend (s : ScriptReload ω) : Prop :=
  s.mainPc = .reload ∧
    (s.query .main = .awaitSuspended ∨
      (∃ clear, s.query .main = .wantInvocation clear) ∧
        ∃ w, s.query (.web w) = .awaitSuspended)

/-- The reload waits for the Insteon thread, and that thread is at the lock that the reload
holds. -/
def Stuck (s : ScriptReload ω) : Prop := s.event = .wantQueue ∧ ReloadAwaitsSuspend s

/-- What a step must meet. The Insteon thread does not go to `processEvent` while a reload
waits for it to suspend; and while it is there, the reload does not start to wait for it:
no `suspend()` by the script or by a web thread that the script waits for, and no call of
the script into `processQuery` while a web thread is in `suspend()`. -/
def ReloadFree (s : ScriptReload ω) : Act ω → Prop
  | .processEvent => ¬ ReloadAwaitsSuspend s
  | .suspend .main => ¬ (s.event = .wantQueue ∧ s.mainPc = .reload)
  | .suspend (.web _) =>
    ¬ (s.event = .wantQueue ∧ s.mainPc = .reload ∧
      ∃ clear, s.query .main = .wantInvocation clear)
  | .processQuery .main _ =>
    ¬ (s.event = .wantQueue ∧ s.mainPc = .reload ∧ ∃ w, s.query (.web w) = .awaitSuspended)
  | _ => True

/-- Who holds what. -/
structure LocksOk (s : ScriptReload ω) : Prop where
  queueMain : s.mMessageQueueLock = some (.client .main) ↔ s.mainPc.Holds = true
  queueEvent : s.mMessageQueueLock = some .insteon ↔ s.event = .pushing
  queueWeb : ∀ w, s.mMessageQueueLock ≠ some (.client (.web w))
  invocation : ∀ c, s.mInvocationLock = some c ↔ (s.query c).Holds = true
  script : s.query .main ≠ .idle → s.mainPc.InScript = true
  event : s.event ≠ .idle → s.thread = .body
  suspended : SuspendedInStopping s.flags s.thread

/-- INTERNAL: at first nobody holds a lock. -/
theorem locksOk_init : LocksOk (init : ScriptReload ω) where
  queueMain := by simp [init, MainPc.Holds]
  queueEvent := by simp [init]
  queueWeb := by simp [init]
  invocation := by simp [init, QueryPc.Holds]
  script := by simp [init]
  event := by simp [init]
  suspended := by simp [init, SuspendedInStopping, ModuleFlags.started]

/-- INTERNAL: a thread in `processEvent` has cleared `mSuspended`. -/
theorem LocksOk.not_suspended {s : ScriptReload ω} (h : LocksOk s)
    (he : s.event = .wantQueue) : s.flags.mSuspended = false := by
  by_contra hs
  have hbody := h.event (by simp [he])
  have := h.suspended (by simpa using hs)
  rw [hbody] at this
  exact absurd this (by decide)

/-- INTERNAL: a main thread that waits for `mMessageQueueLock` makes no call. -/
theorem LocksOk.queue_idle {s : ScriptReload ω} (hl : LocksOk s)
    (h : s.mainPc = .lockQueue ∨ s.mainPc = .relock) : s.query .main = .idle := by
  by_contra hne
  have := hl.script hne
  rcases h with h | h <;> simp [h, MainPc.InScript] at this

/-- INTERNAL: the main thread finds `mMessageQueueLock` held by the Insteon thread only. -/
theorem LocksOk.queue_wait {s : ScriptReload ω} (hl : LocksOk s)
    (h : s.mainPc = .lockQueue ∨ s.mainPc = .relock) {t : Thread ω}
    (hlock : s.mMessageQueueLock = some t) : t = .insteon := by
  rcases t with (_ | w) | _
  · have := hl.queueMain.mp hlock
    rcases h with h | h <;> simp [h, MainPc.Holds] at this
  · exact absurd hlock (hl.queueWeb w)
  · rfl

/-- INTERNAL: a client that waits for `mInvocationLock` does not hold it. -/
theorem LocksOk.invocation_ne {s : ScriptReload ω} (hl : LocksOk s) {c : Client ω}
    {clear : Bool} (h : s.query c = .wantInvocation clear) :
    s.mInvocationLock ≠ some c := fun hc => by
  have := (hl.invocation c).mp hc
  simp [h, QueryPc.Holds] at this

/-! ## Cycles are the stuck states -/

/-- INTERNAL: a stuck state has a cycle of two or of three threads. -/
theorem Stuck.hasCycle {s : ScriptReload ω} (hl : LocksOk s) (h : Stuck s) :
    HasCycle (WaitsFor s) := by
  obtain ⟨he, hm, hq⟩ := h
  have hlock : s.mMessageQueueLock = some (.client .main) :=
    hl.queueMain.mpr (by simp [hm, MainPc.Holds])
  have hinsteon : WaitsFor s .insteon (.client .main) := .event he hlock
  have hsusp := hl.not_suspended he
  rcases hq with hmain | ⟨⟨clear, hwant⟩, w, hweb⟩
  · exact hasCycle_of_two (.suspend hmain hsusp) hinsteon
  · have hholder : s.mInvocationLock = some (.web w) :=
      (hl.invocation _).mpr (by simp [hweb, QueryPc.Holds])
    exact hasCycle_of_three (.invocation hwant hholder) (.suspend hweb hsusp) hinsteon

/-- INTERNAL: when the Insteon thread waits for nobody, every wait leads towards it. -/
theorem not_hasCycle_of_running {s : ScriptReload ω} (hl : LocksOk s)
    (hfree : ∀ t, ¬ WaitsFor s .insteon t) : ¬ HasCycle (WaitsFor s) := by
  classical
  refine not_hasCycle_of_rank (fun
    | .insteon => 0
    | .client c =>
      if s.mInvocationLock = some c then 1
      else if c = .main ∧ s.query .main = .idle then 1 else 2) ?_
  intro t u htu
  cases htu with
  | event h hlock => exact absurd (.event h hlock) (hfree _)
  | queue h hlock =>
    have hu := hl.queue_wait h hlock
    have hidle := hl.queue_idle h
    subst hu
    dsimp only
    split <;> simp [hidle]
  | @invocation c d clear h hlock =>
    have hc := hl.invocation_ne h
    dsimp only
    rw [if_pos hlock, if_neg hc, if_neg]
    · exact Nat.one_lt_two
    · rintro ⟨rfl, hidle⟩
      rw [h] at hidle
      cases hidle
  | @suspend c h _ =>
    dsimp only
    split
    · exact Nat.one_pos
    · split <;> simp

/-- INTERNAL: when the Insteon thread waits for the reload and the reload does not wait for
it, every wait leads towards the main thread or the holder of `mInvocationLock`. -/
theorem not_hasCycle_of_event {s : ScriptReload ω} (hl : LocksOk s)
    (he : s.event = .wantQueue) (hq : s.mMessageQueueLock = some (.client .main))
    (hns : ¬ Stuck s) : ¬ HasCycle (WaitsFor s) := by
  classical
  have hholds := hl.queueMain.mp hq
  have hreload : s.query .main ≠ .idle → s.mainPc = .reload := fun hne => by
    have := hl.script hne
    cases hpc : s.mainPc <;> simp [hpc, MainPc.Holds, MainPc.InScript] at hholds this ⊢
  have hnotawait : s.query .main ≠ .awaitSuspended := fun h =>
    hns ⟨he, hreload (by simp [h]), .inl h⟩
  refine not_hasCycle_of_rank (fun
    | .insteon => 2
    | .client .main => if ∃ clear, s.query .main = .wantInvocation clear then 1 else 0
    | .client (.web w) =>
      if s.mInvocationLock = some (.web w) then
        if s.query (.web w) = .awaitSuspended then 3 else 0
      else 4) ?_
  intro t u htu
  cases htu with
  | event _ hlock =>
    obtain rfl := Option.some.inj (hq.symm.trans hlock)
    dsimp only
    split <;> decide
  | queue h hlock =>
    obtain rfl := Option.some.inj (hq.symm.trans hlock)
    cases hl.queue_wait h hlock
  | @invocation c d clear h hlock =>
    have hc := hl.invocation_ne h
    cases c with
    | main =>
      cases d with
      | main => exact absurd hlock hc
      | web w =>
        -- the holder is not in `suspend()`, or the state would be stuck
        have hw : s.query (.web w) ≠ .awaitSuspended := fun hw =>
          hns ⟨he, hreload (by simp [h]), .inr ⟨⟨clear, h⟩, w, hw⟩⟩
        simp [hlock, hw, h]
    | web w =>
      cases d with
      | main =>
        dsimp only
        rw [if_neg hc]
        split <;> decide
      | web w' =>
        dsimp only
        rw [if_neg hc, if_pos hlock]
        split <;> decide
  | @suspend c h _ =>
    cases c with
    | main => exact absurd h hnotawait
    | web w =>
      have hholder : s.mInvocationLock = some (.web w) :=
        (hl.invocation _).mpr (by simp [h, QueryPc.Holds])
      simp [hholder, h]

/-- INTERNAL: **in a state with the locks in order a cycle of waits is a stuck reload.** -/
theorem hasCycle_iff_stuck {s : ScriptReload ω} (hl : LocksOk s) :
    HasCycle (WaitsFor s) ↔ Stuck s := by
  refine ⟨fun hc => ?_, fun h => h.hasCycle hl⟩
  by_contra hns
  by_cases he : s.event = .wantQueue ∧ s.mMessageQueueLock = some (.client .main)
  · exact not_hasCycle_of_event hl he.1 he.2 hns hc
  · refine not_hasCycle_of_running hl (fun t ht => ?_) hc
    cases ht with
    | event hw hlock =>
      rcases t with (_ | w) | _
      · exact he ⟨hw, hlock⟩
      · exact hl.queueWeb w hlock
      · have := hl.queueEvent.mp hlock
        rw [hw] at this
        cases this

/-! ## The steps that lead to a stuck state -/

/-- INTERNAL: the steps of `timeSlice` keep the locks in order. -/
theorem mainStep_locksOk {s s' : ScriptReload ω} (hl : LocksOk s)
    (h : s.mainStep = some s') : LocksOk s' := by
  obtain ⟨hqm, hqe, hqw, hinv, hscript, hevent, hsusp⟩ := hl
  cases hm : s.mainPc <;>
    simp only [mainStep, hm, Option.ite_none_right_eq_some, Option.some.injEq] at h
  case lockQueue | relock | reload | notify =>
    obtain ⟨hfree, rfl⟩ := h
    constructor <;> grind [MainPc.Holds, MainPc.InScript]
  all_goals
    subst h
    constructor <;> grind [MainPc.Holds, MainPc.InScript]

variable [DecidableEq ω]

/-- INTERNAL: a client's step keeps the locks in order when it takes `mInvocationLock` only
while it is free, and is in `processQuery` only where it may be. -/
theorem LocksOk.client {s : ScriptReload ω} (hl : LocksOk s) {c : Client ω} {pc : QueryPc}
    {f : ModuleFlags} {l : Option (Client ω)} (hf : f.mSuspended = s.flags.mSuspended)
    (hscript : c = .main → pc ≠ .idle → s.mainPc.InScript = true)
    (hlock : ∀ d, l = some d ↔ (if d = c then pc else s.query d).Holds = true) :
    LocksOk { s.moveTo c pc with flags := f, mInvocationLock := l } where
  queueMain := hl.queueMain
  queueEvent := hl.queueEvent
  queueWeb := hl.queueWeb
  invocation := fun d => by simpa using hlock d
  script := fun hne => by
    by_cases hc : c = .main
    · exact hscript hc (by simpa [hc] using hne)
    · exact hl.script (by simpa [Ne.symm hc] using hne)
  event := hl.event
  suspended := fun h => hl.suspended (hf ▸ h)

/-- INTERNAL: a client takes `mInvocationLock` when it waits for it and the lock is free. -/
theorem lockInvocation_cases {s s' : ScriptReload ω} {c : Client ω}
    (h : step s (.lockInvocation c) = some s') :
    ∃ clear, s.query c = .wantInvocation clear ∧ s.mInvocationLock = none ∧
      s' = { s.moveTo c (.invoked clear) with mInvocationLock := some c } := by
  cases hq : s.query c with
  | wantInvocation clear =>
    simp only [step, hq, Option.ite_none_right_eq_some, Option.some.injEq] at h
    exact ⟨clear, rfl, h.1, h.2.symm⟩
  | _ => simp [step, hq] at h

/-- INTERNAL: **every step keeps the locks in order.** -/
theorem step_locksOk {s s' : ScriptReload ω} {a : Act ω} (hl : LocksOk s)
    (h : step s a = some s') : LocksOk s' := by
  have hinv := hl.invocation
  have hscript := hl.script
  cases a with
  | hup =>
    obtain rfl := Option.some.inj h
    exact ⟨hl.1, hl.2, hl.3, hl.4, hl.5, hl.6, hl.7⟩
  | main => exact mainStep_locksOk hl h
  | stopping =>
    simp only [step, Option.map_eq_some_iff] at h
    obtain ⟨⟨f, pc⟩, hst, rfl⟩ := h
    exact ⟨hl.1, hl.2, hl.3, hl.4, hl.5,
      fun hne => absurd (hl.event hne) (stoppingStep_not_body hst),
      stoppingStep_suspendedInStopping hl.suspended hst⟩
  | body =>
    simp only [step, Option.ite_none_right_eq_some, Option.some.injEq] at h
    exact h.2 ▸ hl
  | processEvent =>
    simp only [step, Option.ite_none_right_eq_some, Option.some.injEq] at h
    obtain ⟨⟨hb, he⟩, rfl⟩ := h
    exact ⟨hl.1, by simpa [he] using hl.2, hl.3, hl.4, hl.5, fun _ => hb, hl.7⟩
  | lockEvent =>
    simp only [step, Option.ite_none_right_eq_some, Option.some.injEq] at h
    obtain ⟨⟨he, hfree⟩, rfl⟩ := h
    have hq := hl.queueMain
    rw [hfree] at hq
    exact ⟨by simpa using hq, by simp, by simp, hl.4, hl.5,
      fun _ => hl.event (by simp [he]), hl.7⟩
  | unlockEvent =>
    simp only [step, Option.ite_none_right_eq_some, Option.some.injEq] at h
    obtain ⟨he, rfl⟩ := h
    have hq := hl.queueMain
    rw [hl.queueEvent.mpr he] at hq
    exact ⟨by simpa using hq, by simp, by simp, hl.4, hl.5, by simp, hl.7⟩
  | bodyEnd =>
    simp only [step, Option.ite_none_right_eq_some, Option.some.injEq] at h
    obtain ⟨⟨hb, he⟩, rfl⟩ := h
    refine ⟨hl.1, hl.2, hl.3, hl.4, hl.5, fun hne => absurd he hne, fun hs => ?_⟩
    have := hl.suspended hs
    rw [hb] at this
    exact absurd this (by decide)
  | processQuery c clear =>
    simp only [step, Option.ite_none_right_eq_some, Option.some.injEq] at h
    obtain ⟨⟨hq, hmay⟩, rfl⟩ := h
    exact hl.client rfl (by grind [MayQuery]) (by grind [QueryPc.Holds])
  | lockInvocation c =>
    obtain ⟨clear, hq, hfree, rfl⟩ := lockInvocation_cases h
    exact hl.client rfl (by grind) (by grind [QueryPc.Holds])
  | readSuspended c =>
    simp only [step, Option.ite_none_right_eq_some, Option.some.injEq] at h
    obtain ⟨hq, rfl⟩ := h
    split
    · exact hl.client rfl (by grind) (by grind [QueryPc.Holds])
    · exact hl
  | _ c =>
    simp only [step, Option.ite_none_right_eq_some, Option.some.injEq] at h
    obtain ⟨hq, rfl⟩ := h
    exact hl.client rfl (by grind) (by grind [QueryPc.Holds, moveTo_mInvocationLock])

/-- INTERNAL: **a step leads to a stuck state exactly when it does not meet `ReloadFree`.** -/
theorem step_stuck_iff {s s' : ScriptReload ω} {a : Act ω} (hl : LocksOk s)
    (hns : ¬ Stuck s) (h : step s a = some s') : ¬ Stuck s' ↔ ReloadFree s a := by
  have hinv := hl.invocation
  have hscript := hl.script
  cases a with
  | hup =>
    obtain rfl := Option.some.inj h
    exact iff_of_true hns trivial
  | main =>
    refine iff_of_true (fun hs => ?_) trivial
    -- the reload begins, and ends, with no call of the script under way
    have hidle : s.query .main = .idle := by
      by_contra hne
      have := hl.script hne
      cases hm : s.mainPc <;> simp [hm, MainPc.InScript] at this <;>
        simp [step, mainStep, hm, hne] at h
    have hquery : s'.query = s.query := by
      simp only [step, mainStep] at h
      split at h <;> grind
    simp [Stuck, ReloadAwaitsSuspend, hquery, hidle] at hs
  | stopping =>
    simp only [step, Option.map_eq_some_iff] at h
    obtain ⟨r, -, rfl⟩ := h
    exact iff_of_true hns trivial
  | body =>
    simp only [step, Option.ite_none_right_eq_some, Option.some.injEq] at h
    exact iff_of_true (h.2 ▸ hns) trivial
  | processEvent =>
    simp only [step, Option.ite_none_right_eq_some, Option.some.injEq] at h
    obtain ⟨-, rfl⟩ := h
    simp [Stuck, ReloadFree, ReloadAwaitsSuspend]
  | bodyEnd =>
    simp only [step, Option.ite_none_right_eq_some, Option.some.injEq] at h
    obtain ⟨-, rfl⟩ := h
    exact iff_of_true hns trivial
  | lockEvent | unlockEvent =>
    simp only [step, Option.ite_none_right_eq_some, Option.some.injEq] at h
    obtain ⟨-, rfl⟩ := h
    exact iff_of_true (by simp [Stuck]) trivial
  | lockInvocation c =>
    obtain ⟨clear, hq, hfree, rfl⟩ := lockInvocation_cases h
    simp only [ReloadFree, Stuck, ReloadAwaitsSuspend, moveTo_query] at hns ⊢
    cases c with
    | main => simp [moveTo]
    | web w => simp [moveTo]; grind
  | readSuspended c =>
    simp only [step, Option.ite_none_right_eq_some, Option.some.injEq] at h
    obtain ⟨hq, rfl⟩ := h
    simp only [ReloadFree, Stuck, ReloadAwaitsSuspend] at hns ⊢
    cases c <;> split <;> simp [moveTo, Function.update_apply] <;> grind
  | processQuery c clear | suspend c | callback c | resume c | unlockInvocation c =>
    simp only [step, Option.ite_none_right_eq_some, Option.some.injEq] at h
    obtain ⟨hq, rfl⟩ := h
    simp only [Stuck, ReloadAwaitsSuspend, moveTo_query] at hns ⊢
    cases c with
    | main => simp [moveTo, ReloadFree]
    | web w => simp [moveTo, ReloadFree]; grind

/-- **No cycle of waits is ever reached along a run exactly when every step of the
run keeps the reload and the Insteon thread from waiting for each other.**
SOURCE: EventProcessor.cpp:121-187, RESTInterface.cpp:59-75, InsteonModule.cpp:687-699,
Module.cpp:42-76 -/
theorem noDeadlock_iff (acts : List (Act ω)) :
    Throughout step (fun s => ¬ HasCycle (WaitsFor s)) init acts ↔
      Along step ReloadFree init acts := by
  refine throughout_iff_along (I := fun s => LocksOk s ∧ ¬ Stuck s)
    (fun s hI => fun hc => hI.2 ((hasCycle_iff_stuck hI.1).mp hc))
    (fun s a s' hI hC h => ?_) (fun s a s' hI h hP => ?_) ⟨locksOk_init, by simp [Stuck, init]⟩
  · exact ⟨step_locksOk hI.1 h, (step_stuck_iff hI.1 hI.2 h).mpr hC⟩
  · have hl' := step_locksOk hI.1 h
    exact (step_stuck_iff hI.1 hI.2 h).mp fun hs => hP (hs.hasCycle hl')

/-- A reload that finds the Insteon thread in its loop body: the script calls
`/insteon/clearmodules`, and the Insteon thread calls `processEvent` before it returns to
`stopping()`. -/
def clearModulesWhileReloading : List (Act Unit) :=
  [.stopping, .stopping, .stopping, .main, .main, .main, .main, .main, .hup, .main, .main,
    .processQuery .main true, .lockInvocation .main, .processEvent, .suspend .main]

/-- The main thread waits for `mSuspended`, and the only thread that sets it
waits for `mMessageQueueLock`, which the main thread holds.
SOURCE: EventProcessor.cpp:167-171 -/
theorem clearModules_while_reloading_deadlocks :
    ¬ Throughout step (fun s => ¬ HasCycle (WaitsFor s)) init clearModulesWhileReloading := by
  intro h
  obtain ⟨s, hrun⟩ : ∃ s, run step init clearModulesWhileReloading = some s := ⟨_, rfl⟩
  have hl : LocksOk s := run_invariant (fun _ _ _ => step_locksOk) locksOk_init hrun
  refine h.last hrun (Stuck.hasCycle hl ?_)
  cases hrun
  exact ⟨rfl, rfl, .inl rfl⟩

end Dhas.Analysis
