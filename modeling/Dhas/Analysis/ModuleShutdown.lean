import Dhas.Model.ModuleLife
import Mathlib.Logic.Function.Basic

/-!
# Starting and stopping the modules

The main thread goes on to its loop when all modules have said that they are started, and deletes
the event processor when all of them have returned. A module that has returned before it said that
it was started keeps the main thread in `startModules`, and not even SIGTERM ends the process then.

What may use the event processor after it was deleted is a handler only, because neither the timer
nor the handlers are taken back.
-/

set_option autoImplicit false

namespace Dhas.Analysis.ModuleShutdown

open Dhas.Library Dhas.Model
open Dhas.Model.ModuleLife

/-- The module has returned before `setStarted()`. -/
def Failed (s : ModuleLife) (i : ℕ) : Prop :=
  (s.modules i).pc = .returned ∧ (s.modules i).started = false

/-- The main thread is in `startModules`, and has not got past the wait for the module. -/
def InStartModules (i : ℕ) : ProcessPc → Prop
  | .startModule _ => True
  | .waitReady j => j ≤ i
  | _ => False

/-- While the main thread is in its loop, the modules are started; and when the event processor
is deleted, the modules have returned. -/
structure Orderly (n : ℕ) (s : ModuleLife) : Prop where
  ready : s.main = .waiting ∨ s.main = .notified ∨ s.main = .testQuit →
    ∀ i < n, (s.modules i).started = true
  joined : s.eventProcessor = false → ∀ i < n, (s.modules i).pc = .returned

/-- Nobody uses the event processor when it is deleted: no module is in the body of its loop, and
no handler is at work. -/
def Unused (n : ℕ) (s : ModuleLife) : Prop :=
  s.eventProcessor = false → (∀ i < n, (s.modules i).pc ≠ .body) ∧ s.handlers = 0

/-- No handler begins when the event processor is deleted, and none is at work then. -/
def SignalsOver (s : ModuleLife) : Act → Prop
  | .signal _ => s.eventProcessor = true
  | .main => s.main = .deleteEventProcessor → s.handlers = 0
  | _ => True

instance (s : ModuleLife) (a : Act) : Decidable (SignalsOver s a) := by
  unfold SignalsOver
  split <;> infer_instance

/-- The place of the main thread is past the creation of a module. -/
def Created (j : ℕ) : ProcessPc → Prop
  | .startModule i => j < i
  | _ => True

/-- The main thread has waited for the module to be started. -/
def Ready (j : ℕ) : ProcessPc → Prop
  | .startModule _ => False
  | .waitReady i => j < i
  | _ => True

/-- The main thread has joined the module. -/
def Joined (j : ℕ) : ProcessPc → Prop
  | .stopModule i => j < i
  | .waitCompletion i => j < i
  | .deleteEventProcessor => True
  | .deleteMysql => True
  | .returned => True
  | _ => False

/-- INTERNAL: the main thread that has not waited for a module is in `startModules`. -/
theorem inStartModules_of_not_ready {i : ℕ} {place : ProcessPc} (h : ¬ Ready i place) :
    InStartModules i place := by
  cases place with
  | startModule j => trivial
  | waitReady j => exact Nat.not_lt.mp h
  | _ => exact absurd trivial h

/-! ## What a step can do -/

/-- What a module can come to after it was created: one that has returned stays as it is, but that
it may be told to stop, and one that is started stays so. -/
structure GoesOn (m m' : ModuleThread) : Prop where
  returned : m.pc = .returned → m'.pc = .returned ∧ m'.started = m.started
  started : m.started = true → m'.started = true

section Steps

variable {n i : ℕ} {s s' : ModuleLife} {a : Act}

/-- INTERNAL: **a step**: the main thread or the thread of one module goes on, or a handler
begins or returns. SOURCE: Module.cpp:9-13, 24-39, 53-76, main.cpp:38-47 -/
theorem step_cases (hstep : step n s a = some s') :
    (a = .main ∧ mainStep n s = some s') ∨
      (SignalsOver s a ∧ ∃ i m, (s.modules i).pc ≠ .notCreated ∧ GoesOn (s.modules i) m ∧
        (s' = s.setModule i m ∨ s' = (s.setModule i m).notify)) ∨
      (∃ term, a = .signal term ∧
        s' = { s with quit := s.quit || term, handlers := s.handlers + 1 }) ∨
      (a = .handler ∧ s' = { s.notify with handlers := s.handlers - 1 }) := by
  cases a with
  | main => exact .inl ⟨rfl, hstep⟩
  | setUp i returns =>
    rw [step, Option.ite_none_right_eq_some] at hstep
    obtain ⟨hpc, hs⟩ := hstep
    refine .inr (.inl ⟨trivial, i, _, by simp [hpc], ⟨?_, ?_⟩, .inl (Option.some.inj hs).symm⟩)
    · simp [hpc]
    · intro hstarted
      cases returns <;> simp [hstarted]
  | stopping i =>
    rw [step, Option.ite_none_right_eq_some] at hstep
    obtain ⟨hpc, hs⟩ := hstep
    refine .inr (.inl ⟨trivial, i, _, by simp [hpc], ⟨?_, ?_⟩, .inl (Option.some.inj hs).symm⟩)
    · simp [hpc]
    · exact fun hstarted => hstarted
  | body i processEvent returns =>
    rw [step, Option.ite_none_right_eq_some] at hstep
    obtain ⟨hpc, hs⟩ := hstep
    refine .inr (.inl ⟨trivial, i, { s.modules i with
      pc := if returns then .returned else .stopping }, by simp [hpc], ⟨?_, ?_⟩, ?_⟩)
    · simp [hpc]
    · exact fun hstarted => hstarted
    · cases processEvent with
      | false => exact .inl (Option.some.inj hs).symm
      | true => exact .inr (Option.some.inj hs).symm
  | signal term => exact .inr (.inr (.inl ⟨term, rfl, (Option.some.inj hstep).symm⟩))
  | handler =>
    rw [step, Option.ite_none_right_eq_some] at hstep
    exact .inr (.inr (.inr ⟨rfl, (Option.some.inj hstep.2).symm⟩))

/-- INTERNAL: what the main thread does to the modules: nothing, or it creates one at its turn,
or tells one to stop. SOURCE: ModuleProvider.cpp:59-87 -/
theorem mainStep_modules (hstep : mainStep n s = some s') :
    s'.modules = s.modules ∨
      (∃ i, s.main = .startModule i ∧
        s'.modules = Function.update s.modules i ⟨.setUp, false, false⟩) ∨
      ∃ i m, GoesOn (s.modules i) m ∧ s'.modules = Function.update s.modules i m := by
  unfold mainStep at hstep
  cases hmain : s.main with
  | startModule i =>
    simp only [hmain] at hstep
    split at hstep
    · obtain rfl := Option.some.inj hstep
      exact .inr (.inl ⟨i, rfl, rfl⟩)
    · obtain rfl := Option.some.inj hstep
      exact .inl rfl
  | stopModule i =>
    simp only [hmain] at hstep
    split at hstep
    · obtain rfl := Option.some.inj hstep
      refine .inr (.inr ⟨i, { s.modules i with mStopping := true }, ⟨?_, ?_⟩, rfl⟩)
      · exact fun hreturned => ⟨hreturned, rfl⟩
      · exact fun hstarted => hstarted
    · obtain rfl := Option.some.inj hstep
      exact .inl rfl
  | _ => grind

/-! ## What holds at every place -/

/-- Where the threads of the modules are, for each place of the main thread. -/
structure LifeOk (n : ℕ) (s : ModuleLife) : Prop where
  notCreated : ∀ j, n ≤ j ∨ ¬ Created j s.main → (s.modules j).pc = .notCreated
  ready : ∀ j, j < n → Ready j s.main → (s.modules j).started = true
  joined : ∀ j, j < n → Joined j s.main → (s.modules j).pc = .returned
  deleted : s.eventProcessor = false ↔ s.main = .deleteMysql ∨ s.main = .returned

/-- INTERNAL: no module is created at the beginning. -/
theorem lifeOk_init (n : ℕ) : LifeOk n init := by
  refine ⟨?_, ?_, ?_, ?_⟩ <;> simp [init, Ready, Joined]

/-- INTERNAL: a module that is not in the state before its creation was created. -/
theorem LifeOk.created (h : LifeOk n s) (hpc : (s.modules i).pc ≠ .notCreated) :
    i < n ∧ Created i s.main := by
  by_contra hnot
  apply hpc
  apply h.notCreated i
  by_cases hi : n ≤ i
  · exact .inl hi
  · exact .inr fun hcreated => hnot ⟨Nat.lt_of_not_le hi, hcreated⟩

/-- INTERNAL: a module that was created goes on. -/
theorem LifeOk.setModule (h : LifeOk n s) (hcreated : i < n ∧ Created i s.main)
    {m : ModuleThread} (hgoes : GoesOn (s.modules i) m) : LifeOk n (s.setModule i m) := by
  have hother {j : ℕ} (hj : j ≠ i) : (s.setModule i m).modules j = s.modules j :=
    Function.update_of_ne hj _ _
  have hsame : (s.setModule i m).modules i = m := Function.update_self _ _ _
  refine ⟨?_, ?_, ?_, h.deleted⟩
  · intro j hnot
    by_cases hj : j = i
    · subst hj
      exact absurd hnot (not_or.mpr ⟨Nat.not_le.mpr hcreated.1, not_not.mpr hcreated.2⟩)
    · rw [hother hj]
      exact h.notCreated j hnot
  · intro j hn hready
    by_cases hj : j = i
    · subst hj
      rw [hsame]
      exact hgoes.started (h.ready j hn hready)
    · rw [hother hj]
      exact h.ready j hn hready
  · intro j hn hjoined
    by_cases hj : j = i
    · subst hj
      rw [hsame]
      exact (hgoes.returned (h.joined j hn hjoined)).1
    · rw [hother hj]
      exact h.joined j hn hjoined

/-- INTERNAL: the main thread goes to another place. -/
theorem LifeOk.goTo (h : LifeOk n s) {place : ProcessPc} {alive : Bool}
    (hcreated : ∀ j, j < n → Created j s.main → Created j place)
    (hready : ∀ j, j < n → Ready j place → (s.modules j).started = true)
    (hjoined : ∀ j, j < n → Joined j place → (s.modules j).pc = .returned)
    (hdeleted : alive = false ↔ place = .deleteMysql ∨ place = .returned) :
    LifeOk n { s with main := place, eventProcessor := alive } := by
  refine ⟨?_, hready, hjoined, hdeleted⟩
  intro j hnot
  apply h.notCreated j
  by_cases hn : n ≤ j
  · exact .inl hn
  · have hcreated' := hcreated j (Nat.lt_of_not_le hn)
    exact .inr (mt hcreated' (hnot.resolve_left hn))

/-- INTERNAL: a signal of the condition variable, or none, in the loop of the main thread. -/
theorem LifeOk.wakes (h : LifeOk n s) (hmain : s.main = .waiting) :
    LifeOk n { s with main := .notified } := by
  have hready := h.ready
  have halive := h.deleted
  rw [hmain] at hready halive
  exact h.goTo (fun _ _ _ => trivial) hready nofun (by simpa using halive)

/-- INTERNAL: a notification wakes the main thread.
SOURCE: EventProcessor.cpp:109-119 -/
theorem LifeOk.notify (h : LifeOk n s) : LifeOk n s.notify := by
  unfold ModuleLife.notify
  by_cases hmain : s.main = .waiting
  · rw [if_pos hmain]
    exact h.wakes hmain
  · rw [if_neg hmain]
    exact h

/-- INTERNAL: a module is created at its turn, for the first time.
SOURCE: ModuleProvider.cpp:61-66 -/
theorem LifeOk.create (h : LifeOk n s) (hmain : s.main = .startModule i) (hi : i < n) :
    LifeOk n { s.setModule i ⟨.setUp, false, false⟩ with main := .startModule (i + 1) } := by
  have halive := h.deleted
  rw [hmain] at halive
  refine ⟨?_, nofun, nofun, ?_⟩
  · intro j hnot
    have hnot' : n ≤ j ∨ ¬ j < i + 1 := hnot
    have hji : j ≠ i := by omega
    have hsame : (s.setModule i ⟨.setUp, false, false⟩).modules j = s.modules j :=
      Function.update_of_ne hji _ _
    rw [hsame]
    apply h.notCreated j
    rw [hmain]
    show n ≤ j ∨ ¬ j < i
    omega
  · simpa [ModuleLife.setModule] using halive

/-- INTERNAL: **a step of the main thread**, one case a place of it.
SOURCE: main.cpp:226-241, ModuleProvider.cpp:59-87 -/
theorem LifeOk.mainStep (h : LifeOk n s) (hstep : mainStep n s = some s') : LifeOk n s' := by
  have hready := h.ready
  have hjoined := h.joined
  have halive := h.deleted
  unfold ModuleLife.mainStep at hstep
  cases hmain : s.main with
  | startModule i =>
    simp only [hmain] at hstep hready hjoined halive
    by_cases hi : i < n
    · rw [if_pos hi] at hstep
      obtain rfl := Option.some.inj hstep
      exact h.create hmain hi
    · rw [if_neg hi] at hstep
      obtain rfl := Option.some.inj hstep
      refine h.goTo (fun _ _ _ => trivial) ?_ nofun (by simpa using halive)
      exact fun j _ hj => absurd hj (Nat.not_lt_zero j)
  | waitReady i =>
    simp only [hmain] at hstep hready hjoined halive
    by_cases hi : i < n
    · rw [if_pos hi] at hstep
      obtain ⟨hstarted, hs⟩ := Option.ite_none_right_eq_some.mp hstep
      obtain rfl := Option.some.inj hs
      refine h.goTo (fun _ _ _ => trivial) ?_ nofun (by simpa using halive)
      intro j hn hj
      rcases Nat.lt_succ_iff_lt_or_eq.mp hj with hlt | rfl
      · exact hready j hn hlt
      · exact hstarted
    · rw [if_neg hi] at hstep
      obtain rfl := Option.some.inj hstep
      refine h.goTo (fun _ _ _ => trivial) ?_ nofun (by simpa using halive)
      exact fun j hn _ => hready j hn (Nat.lt_of_lt_of_le hn (Nat.le_of_not_lt hi))
  | waiting =>
    simp only [hmain] at hstep
    obtain rfl := Option.some.inj hstep
    exact h.wakes hmain
  | notified =>
    simp only [hmain] at hstep hready halive
    obtain rfl := Option.some.inj hstep
    exact h.goTo (fun _ _ _ => trivial) hready nofun (by simpa using halive)
  | testQuit =>
    simp only [hmain] at hstep hready halive
    obtain rfl := Option.some.inj hstep
    by_cases hquit : s.quit = true
    · rw [if_pos hquit]
      refine h.goTo (fun _ _ _ => trivial) hready ?_ (by simpa using halive)
      exact fun j _ hj => absurd hj (Nat.not_lt_zero j)
    · rw [if_neg hquit]
      exact h.goTo (fun _ _ _ => trivial) hready nofun (by simpa using halive)
  | stopModule i =>
    simp only [hmain] at hstep hready hjoined halive
    by_cases hi : i < n
    · rw [if_pos hi] at hstep
      obtain rfl := Option.some.inj hstep
      -- a module that is told to stop stays where it is
      have htold := h.setModule (i := i) (m := { s.modules i with mStopping := true })
        ⟨hi, by rw [hmain]; trivial⟩ ⟨fun hr => ⟨hr, rfl⟩, fun hstarted => hstarted⟩
      refine htold.goTo (fun _ _ _ => trivial) (fun j hn _ => ?_) (fun j hn hji => ?_)
        (by simpa [ModuleLife.setModule] using halive)
      · exact htold.ready j hn (by rw [ModuleLife.setModule, hmain]; trivial)
      · exact htold.joined j hn (by rw [ModuleLife.setModule, hmain]; exact hji)
    · rw [if_neg hi] at hstep
      obtain rfl := Option.some.inj hstep
      refine h.goTo (fun _ _ _ => trivial) hready ?_ (by simpa using halive)
      exact fun j hn _ => hjoined j hn (Nat.lt_of_lt_of_le hn (Nat.le_of_not_lt hi))
  | waitCompletion i =>
    simp only [hmain] at hstep hready hjoined halive
    obtain ⟨hreturned, hs⟩ := Option.ite_none_right_eq_some.mp hstep
    obtain rfl := Option.some.inj hs
    refine h.goTo (fun _ _ _ => trivial) hready ?_ (by simpa using halive)
    intro j hn hj
    rcases Nat.lt_succ_iff_lt_or_eq.mp hj with hlt | rfl
    · exact hjoined j hn hlt
    · exact hreturned
  | deleteEventProcessor =>
    simp only [hmain] at hstep hready hjoined
    obtain rfl := Option.some.inj hstep
    exact h.goTo (fun _ _ _ => trivial) hready hjoined (by simp)
  | deleteMysql =>
    simp only [hmain] at hstep hready hjoined halive
    obtain rfl := Option.some.inj hstep
    exact h.goTo (fun _ _ _ => trivial) hready hjoined (by simpa using halive)
  | returned => simp [hmain] at hstep

/-- INTERNAL: every step of every thread keeps the places together. -/
theorem step_lifeOk (h : LifeOk n s) (hstep : step n s a = some s') : LifeOk n s' := by
  rcases step_cases hstep with ⟨-, hmain⟩ | ⟨-, i, m, hpc, hgoes, rfl | rfl⟩ | ⟨term, -, rfl⟩ |
    ⟨-, rfl⟩
  · exact h.mainStep hmain
  · exact h.setModule (h.created hpc) hgoes
  · exact (h.setModule (h.created hpc) hgoes).notify
  · exact { h with }
  · exact { h.notify with }

/-- INTERNAL: the main thread is orderly at every place.
SOURCE: main.cpp:226-241, ModuleProvider.cpp:59-87 -/
theorem LifeOk.orderly (h : LifeOk n s) : Orderly n s := by
  refine ⟨?_, ?_⟩
  · intro hmain i hi
    apply h.ready i hi
    rcases hmain with hmain | hmain | hmain <;> rw [hmain] <;> trivial
  · intro hdeleted i hi
    apply h.joined i hi
    rcases h.deleted.mp hdeleted with hmain | hmain <;> rw [hmain] <;> trivial

end Steps

/-! ## A module that was not started -/

section Failed

variable {n i : ℕ} {s s' : ModuleLife} {a : Act}

/-- INTERNAL: a module that has failed stays so when a module goes on. -/
theorem Failed.update (h : Failed s i) {j : ℕ} {m : ModuleThread} (hgoes : GoesOn (s.modules j) m)
    (hmodules : s'.modules = Function.update s.modules j m) : Failed s' i := by
  rw [Failed, hmodules]
  by_cases hij : i = j
  · subst hij
    obtain ⟨hpc, hstarted⟩ := hgoes.returned h.1
    rw [Function.update_self]
    exact ⟨hpc, hstarted.trans h.2⟩
  · rwa [Function.update_of_ne hij]

/-- INTERNAL: a module that has failed does not begin again: the main thread creates each module
once. -/
theorem Failed.step (hok : LifeOk n s) (h : Failed s i) (hstep : step n s a = some s') :
    Failed s' i := by
  rcases step_cases hstep with ⟨-, hmainStep⟩ | ⟨-, j, m, -, hgoes, rfl | rfl⟩ | ⟨term, -, rfl⟩ |
    ⟨-, rfl⟩
  · rcases mainStep_modules hmainStep with hsame | ⟨j, hmain, hmodules⟩ | ⟨j, m, hgoes, hmodules⟩
    · rwa [Failed, hsame]
    · have hcreated := hok.notCreated j (.inr (by rw [hmain]; exact Nat.lt_irrefl j))
      have hij : i ≠ j := by
        rintro rfl
        exact absurd (hcreated.symm.trans h.1) (by simp)
      rwa [Failed, hmodules, Function.update_of_ne hij]
    · exact h.update hgoes hmodules
  · exact h.update hgoes rfl
  · exact h.update hgoes rfl
  · exact h
  · exact h

/-- INTERNAL: the main thread waits for a module that has failed.
SOURCE: Module.cpp:32-40, ModuleProvider.cpp:69-74 -/
theorem Failed.inStartModules (hok : LifeOk n s) (hi : i < n) (h : Failed s i) :
    InStartModules i s.main := by
  apply inStartModules_of_not_ready
  intro hready
  have hstarted := hok.ready i hi hready
  rw [h.2] at hstarted
  cases hstarted

end Failed

/-- **Once a module has returned before it was started, the main thread never leaves
`startModules`**: in no state of any run that goes on from there is it in its loop, stops a module
or returns, whatever the other modules do and whatever signals come.
SOURCE: main.cpp:38-47, 226-241, ModuleProvider.cpp:59-87, Module.cpp:22-62 -/
theorem failed_neverReady (n : ℕ) {i : ℕ} (hi : i < n) (acts acts' : List Act) {s : ModuleLife}
    (hrun : run (step n) init acts = some s) (hfailed : Failed s i) :
    Throughout (step n) (fun s => InStartModules i s.main) s acts' := by
  have hok : LifeOk n s :=
    run_invariant (fun _ _ _ h hstep => step_lifeOk h hstep) (lifeOk_init n) hrun
  apply throughout_invariant (I := fun s => LifeOk n s ∧ Failed s i)
  · exact fun s h => h.2.inStartModules h.1 hi
  · exact fun s a s' h hstep => ⟨step_lifeOk h.1 hstep, h.2.step h.1 hstep⟩
  · exact ⟨hok, hfailed⟩

/-- The first of two modules returns before it is started, the other one runs: SIGTERM comes and
the main thread still waits. -/
theorem failed_neverReady_sigterm :
    ∃ s s', run (step 2) init [.main, .main, .main, .setUp 0 true, .setUp 1 false] = some s ∧
      run (step 2) s [.signal true, .stopping 1, .handler, .body 1 true false] = some s' ∧
      Throughout (step 2) (fun s => InStartModules 0 s.main) s
        [.signal true, .stopping 1, .handler, .body 1 true false] := by
  refine ⟨_, _, rfl, rfl, ?_⟩
  exact failed_neverReady 2 (by decide) [.main, .main, .main, .setUp 0 true, .setUp 1 false] _ rfl
    ⟨by decide, by decide⟩

/-! ## After the event processor was deleted -/

section Deleted

variable {n : ℕ} {s s' : ModuleLife} {a : Act}

/-- INTERNAL: the handlers are all that matters. -/
theorem LifeOk.unused_iff (h : LifeOk n s) :
    Unused n s ↔ (s.eventProcessor = false → s.handlers = 0) := by
  constructor
  · exact fun hunused hdeleted => (hunused hdeleted).2
  · intro hhandlers hdeleted
    refine ⟨fun i hi => ?_, hhandlers hdeleted⟩
    rw [h.orderly.joined hdeleted i hi]
    simp

/-- INTERNAL: the other steps of the main thread. -/
theorem mainStep_frame (hmain : s.main ≠ .deleteEventProcessor) (hstep : mainStep n s = some s') :
    s'.eventProcessor = s.eventProcessor ∧ s'.handlers = s.handlers := by
  unfold mainStep at hstep
  cases hplace : s.main with
  | deleteEventProcessor => exact absurd hplace hmain
  | _ => grind [setModule]

/-- INTERNAL: what a step does to the event processor and its handlers.
SOURCE: main.cpp:38-47, 238-239, EventProcessor.cpp:14-32 -/
theorem step_handlers (hstep : step n s a = some s') :
    (a = .main ∧ s.main = .deleteEventProcessor ∧ s'.eventProcessor = false ∧
        s'.handlers = s.handlers) ∨
      ((∃ term, a = .signal term) ∧ s'.eventProcessor = s.eventProcessor ∧
        s'.handlers = s.handlers + 1) ∨
      (SignalsOver s a ∧ s'.eventProcessor = s.eventProcessor ∧ s'.handlers ≤ s.handlers) := by
  rcases step_cases hstep with ⟨rfl, hmainStep⟩ | ⟨hover, i, m, -, -, rfl | rfl⟩ | ⟨term, rfl, rfl⟩ |
    ⟨rfl, rfl⟩
  · by_cases hmain : s.main = .deleteEventProcessor
    · unfold mainStep at hmainStep
      rw [hmain] at hmainStep
      obtain rfl := Option.some.inj hmainStep
      exact .inl ⟨rfl, hmain, rfl, rfl⟩
    · obtain ⟨halive, hhandlers⟩ := mainStep_frame hmain hmainStep
      exact .inr (.inr ⟨fun hdelete => absurd hdelete hmain, halive, Nat.le_of_eq hhandlers⟩)
  · exact .inr (.inr ⟨hover, rfl, Nat.le_refl _⟩)
  · exact .inr (.inr ⟨hover, rfl, Nat.le_refl _⟩)
  · exact .inr (.inl ⟨⟨term, rfl⟩, rfl, rfl⟩)
  · exact .inr (.inr ⟨trivial, rfl, Nat.sub_le _ _⟩)

end Deleted

/-- **In every run the loop of the main thread is entered when all modules are started, and the
event processor is deleted when all of them have returned; and nobody uses it then exactly in the
runs in which no handler begins after that, or is at work then.**
SOURCE: main.cpp:38-47, 226-241, ModuleProvider.cpp:59-87, EventProcessor.cpp:14-61 -/
theorem orderly_throughout_iff (n : ℕ) (acts : List Act) :
    Throughout (step n) (Orderly n) init acts ∧
      (Throughout (step n) (Unused n) init acts ↔ Along (step n) SignalsOver init acts) := by
  constructor
  · exact throughout_invariant (fun _ h => h.orderly) (fun _ _ _ h hstep => step_lifeOk h hstep)
      (lifeOk_init n)
  refine throughout_iff_along (I := fun s => LifeOk n s ∧ Unused n s) (fun s h => h.2) ?_ ?_
    ⟨lifeOk_init n, ?_⟩
  · rintro s a s' ⟨hok, hunused⟩ hover hstep
    have hok' := step_lifeOk hok hstep
    refine ⟨hok', hok'.unused_iff.mpr fun hdeleted => ?_⟩
    rcases step_handlers hstep with ⟨rfl, hmain, -, hsame⟩ | ⟨⟨term, rfl⟩, hsame, -⟩ |
      ⟨-, hsame, hle⟩
    · rw [hsame]
      exact hover hmain
    · have halive : s.eventProcessor = true := hover
      rw [hsame, halive] at hdeleted
      cases hdeleted
    · rw [hsame] at hdeleted
      have hnone := hok.unused_iff.mp hunused hdeleted
      omega
  · rintro s a s' ⟨hok, -⟩ hstep hunused'
    rcases step_handlers hstep with ⟨rfl, -, hdeleted, hsame⟩ | ⟨⟨term, rfl⟩, hsame, hmore⟩ |
      ⟨hover, -, -⟩
    · intro _
      rw [← hsame]
      exact (hunused' hdeleted).2
    · by_contra hdead
      have hdeleted : s'.eventProcessor = false := by
        rw [hsame]
        exact Bool.not_eq_true _ ▸ hdead
      have hnone := (hunused' hdeleted).2
      omega
    · exact hover
  · exact (lifeOk_init n).unused_iff.mpr fun hdeleted => Bool.noConfusion hdeleted

end Dhas.Analysis.ModuleShutdown
