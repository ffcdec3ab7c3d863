import Mathlib.Data.List.Basic

/-!
# Runs of a partial step function

A system is a partial step function `step : σ → α → Option σ`: `step s a = some s'`
when the action `a` is possible in `s` and leads to `s'`. Which action comes next is
the choice of the scheduler and of the environment, so a statement about every list of
actions is a statement about every interleaving and every input.

Three views of a list of actions are used by the analyses. `run` is the state it ends
in. `Throughout P` says that every state visited satisfies `P`, and `Along C` that
every step taken meets the condition `C` on the state before it and on the action.
The induction over a run is done here once: an analysis only supplies what one step
preserves.
-/

set_option autoImplicit false

namespace Dhas.Library

variable {σ α : Type*}

/-- The state after a list of actions; `none` when one of them is not possible. -/
def run (step : σ → α → Option σ) : σ → List α → Option σ
  | s, [] => some s
  | s, a :: as => (step s a).bind fun s' => run step s' as

/-- Every state visited satisfies `P`, the first one included. -/
def Throughout (step : σ → α → Option σ) (P : σ → Prop) : σ → List α → Prop
  | s, [] => P s
  | s, a :: as => P s ∧ ∀ s', step s a = some s' → Throughout step P s' as

/-- Every step taken meets `C`, a condition on the state before it and on the action. -/
def Along (step : σ → α → Option σ) (C : σ → α → Prop) : σ → List α → Prop
  | _, [] => True
  | s, a :: as => ∀ s', step s a = some s' → C s a ∧ Along step C s' as

section Run

variable {step : σ → α → Option σ}

/-- A property of every state of a run can be checked on a given run. -/
instance decidableThroughout {P : σ → Prop} [DecidablePred P] :
    (s : σ) → (as : List α) → Decidable (Throughout step P s as)
  | s, [] => inferInstanceAs (Decidable (P s))
  | s, a :: as =>
    match h : step s a with
    | none => decidable_of_iff (P s) (by simp [Throughout, h])
    | some t =>
      have := decidableThroughout (P := P) t as
      decidable_of_iff (P s ∧ Throughout step P t as) (by simp [Throughout, h])

/-- A condition on every step of a run can be checked on a given run. -/
instance decidableAlong {C : σ → α → Prop} [∀ s a, Decidable (C s a)] :
    (s : σ) → (as : List α) → Decidable (Along step C s as)
  | _, [] => isTrue trivial
  | s, a :: as =>
    match h : step s a with
    | none => isTrue (by simp [Along, h])
    | some t =>
      have := decidableAlong (C := C) t as
      decidable_of_iff (C s a ∧ Along step C t as) (by simp [Along, h])

/-- INTERNAL: no step leads to the same state. -/
@[simp] theorem run_nil (s : σ) : run step s [] = some s := rfl

/-- INTERNAL: one step, and the run from there. -/
@[simp] theorem run_cons (s : σ) (a : α) (as : List α) :
    run step s (a :: as) = (step s a).bind fun s' => run step s' as := rfl

/-- INTERNAL: a run goes on from where another one ended. -/
theorem run_append (s : σ) (as bs : List α) :
    run step s (as ++ bs) = (run step s as).bind fun t => run step t bs := by
  induction as generalizing s with
  | nil => rfl
  | cons a as ih =>
    rw [List.cons_append, run_cons, run_cons, Option.bind_assoc]
    exact congrArg _ (funext ih)

/-- INTERNAL: the induction over runs. What every step preserves, every run preserves. -/
theorem run_invariant {I : σ → Prop}
    (hstep : ∀ s a s', I s → step s a = some s' → I s')
    {s s' : σ} {as : List α} (hs : I s) (h : run step s as = some s') : I s' := by
  induction as generalizing s with
  | nil =>
    cases h
    exact hs
  | cons a as ih =>
    rw [run_cons, Option.bind_eq_some_iff] at h
    obtain ⟨t, ht, hrun⟩ := h
    exact ih (hstep s a t hs ht) hrun

/-- INTERNAL: what the steps meeting `C` preserve, every run made of such steps
preserves. -/
theorem run_invariant_along {I : σ → Prop} {C : σ → α → Prop}
    (hstep : ∀ s a s', I s → C s a → step s a = some s' → I s')
    {s s' : σ} {as : List α} (hs : I s) (hC : Along step C s as)
    (h : run step s as = some s') : I s' := by
  induction as generalizing s with
  | nil =>
    cases h
    exact hs
  | cons a as ih =>
    rw [run_cons, Option.bind_eq_some_iff] at h
    obtain ⟨t, ht, hrun⟩ := h
    obtain ⟨hCa, hCas⟩ := hC t ht
    exact ih (hstep s a t hs hCa ht) hCas hrun

/-- INTERNAL: a run made of steps meeting `C` only visits states with what these steps
preserve. -/
theorem throughout_of_along {I P : σ → Prop} {C : σ → α → Prop} (hP : ∀ s, I s → P s)
    (hstep : ∀ s a s', I s → C s a → step s a = some s' → I s')
    {s : σ} {as : List α} (hs : I s) (hC : Along step C s as) : Throughout step P s as := by
  induction as generalizing s with
  | nil => exact hP s hs
  | cons a as ih =>
    refine ⟨hP s hs, fun t ht => ?_⟩
    obtain ⟨hCa, hCas⟩ := hC t ht
    exact ih (hstep s a t hs hCa ht) hCas

/-- INTERNAL: what every step preserves holds throughout every run. -/
theorem throughout_invariant {I P : σ → Prop} (hP : ∀ s, I s → P s)
    (hstep : ∀ s a s', I s → step s a = some s' → I s')
    {s : σ} {as : List α} (hs : I s) : Throughout step P s as := by
  induction as generalizing s with
  | nil => exact hP s hs
  | cons a as ih => exact ⟨hP s hs, fun t ht => ih (hstep s a t hs ht)⟩

/-- INTERNAL: the end of a run is one of the states it visits. -/
theorem Throughout.last {P : σ → Prop} {s s' : σ} {as : List α}
    (hP : Throughout step P s as) (h : run step s as = some s') : P s' := by
  induction as generalizing s with
  | nil =>
    cases h
    exact hP
  | cons a as ih =>
    rw [run_cons, Option.bind_eq_some_iff] at h
    obtain ⟨t, ht, hrun⟩ := h
    exact ih (hP.2 t ht) hrun

/-- INTERNAL: a run whose every step is possible from the states that satisfy `I` and `P` comes
to its end. -/
theorem Throughout.exists_run {I P : σ → Prop}
    (hstep : ∀ s a, I s → P s → ∃ s', step s a = some s' ∧ I s')
    {s : σ} {as : List α} (hs : I s) (h : Throughout step P s as) :
    ∃ s', run step s as = some s' ∧ I s' := by
  induction as generalizing s with
  | nil => exact ⟨s, rfl, hs⟩
  | cons a as ih =>
    obtain ⟨t, ht, hI⟩ := hstep s a hs h.1
    obtain ⟨s', hrun, hs'⟩ := ih hI (h.2 t ht)
    refine ⟨s', ?_, hs'⟩
    rw [run_cons, ht, Option.bind_some, hrun]

/-- INTERNAL: what holds throughout a run holds at its start. -/
theorem Throughout.first {P : σ → Prop} {s : σ} {as : List α} (h : Throughout step P s as) :
    P s := by
  cases as with
  | nil => exact h
  | cons a as => exact h.1

/-- INTERNAL: the last step of a run meets the condition too. -/
theorem Along.last {C : σ → α → Prop} {s t t' : σ} {as : List α} {a : α}
    (hC : Along step C s (as ++ [a])) (h : run step s as = some t) (hstep : step t a = some t') :
    C t a := by
  induction as generalizing s with
  | nil =>
    cases h
    exact (hC t' hstep).1
  | cons b as ih =>
    rw [run_cons, Option.bind_eq_some_iff] at h
    obtain ⟨u, hu, hrun⟩ := h
    exact ih (hC u hu).2 hrun

/-- INTERNAL: a condition that every step from an `I` state meets, with `I` kept by every step,
holds along every run. -/
theorem along_of_invariant {I : σ → Prop} {C : σ → α → Prop}
    (hC : ∀ s a s', I s → step s a = some s' → C s a)
    (hstep : ∀ s a s', I s → step s a = some s' → I s')
    {s : σ} {as : List α} (hs : I s) : Along step C s as := by
  induction as generalizing s with
  | nil => trivial
  | cons a as ih =>
    intro t ht
    exact ⟨hC s a t hs ht, ih (hstep s a t hs ht)⟩

/-- INTERNAL: an invariant and a condition on every step give another condition on every step. -/
theorem along_of_along {I : σ → Prop} {C D : σ → α → Prop}
    (hD : ∀ s a, I s → C s a → D s a)
    (hstep : ∀ s a s', I s → step s a = some s' → I s')
    {s : σ} {as : List α} (hs : I s) (hC : Along step C s as) : Along step D s as := by
  induction as generalizing s with
  | nil => trivial
  | cons a as ih =>
    intro t ht
    obtain ⟨hCa, hCas⟩ := hC t ht
    exact ⟨hD s a hs hCa, ih (hstep s a t hs ht) hCas⟩

/-- INTERNAL: two conditions that agree on every step from an `I` state, with `I` kept by
the steps that meet them, hold along the same runs. -/
theorem along_iff_along {I : σ → Prop} {C D : σ → α → Prop}
    (hiff : ∀ s a s', I s → step s a = some s' → (C s a ↔ D s a))
    (hstep : ∀ s a s', I s → D s a → step s a = some s' → I s')
    {s : σ} {as : List α} (hs : I s) : Along step C s as ↔ Along step D s as := by
  induction as generalizing s with
  | nil => exact Iff.rfl
  | cons a as ih =>
    refine forall_congr' fun t => forall_congr' fun ht => ?_
    constructor
    · rintro ⟨hC, htl⟩
      have hD := (hiff s a t hs ht).mp hC
      exact ⟨hD, (ih (hstep s a t hs hD ht)).mp htl⟩
    · rintro ⟨hD, htl⟩
      exact ⟨(hiff s a t hs ht).mpr hD, (ih (hstep s a t hs hD ht)).mpr htl⟩

/-- INTERNAL: the exact condition for a state property. If `I` gives `P`, a step from an
`I` state that meets `C` leads to an `I` state again, and one that leads to a `P` state
meets `C`, then the runs that stay in `P` are those whose steps all meet `C`. -/
theorem throughout_iff_along {I P : σ → Prop} {C : σ → α → Prop}
    (hP : ∀ s, I s → P s)
    (hstep : ∀ s a s', I s → C s a → step s a = some s' → I s')
    (hback : ∀ s a s', I s → step s a = some s' → P s' → C s a)
    {s : σ} {as : List α} (hs : I s) : Throughout step P s as ↔ Along step C s as := by
  induction as generalizing s with
  | nil => exact ⟨fun _ => trivial, fun _ => hP s hs⟩
  | cons a as ih =>
    constructor
    · rintro ⟨-, htl⟩ t ht
      have hC := hback s a t hs ht (htl t ht).first
      exact ⟨hC, (ih (hstep s a t hs hC ht)).mp (htl t ht)⟩
    · intro h
      refine ⟨hP s hs, fun t ht => ?_⟩
      obtain ⟨hC, htl⟩ := h t ht
      exact (ih (hstep s a t hs hC ht)).mpr htl

end Run

end Dhas.Library
