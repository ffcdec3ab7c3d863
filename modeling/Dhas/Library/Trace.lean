import Mathlib.Data.List.Basic

/-!
# Properties of a growing record of events

A system that records its events appends them to a list. `Since P Q` says that an event met
`P` and that all later ones meet `Q`; `Always R` says that every event stands in the
relation `R` to the ones before it; `Alternates a b` says that the events are `a`, `b`, `a`, and
so on. All are decided event by event as the record grows.
-/

set_option autoImplicit false

namespace Dhas.Library

variable {ε : Type}

/-- Some event met `P`, given the events before it, and every event since then meets `Q`. -/
def Since (P : List ε → ε → Prop) (Q : ε → Prop) (trace : List ε) : Prop :=
  ∃ before e after, trace = before ++ e :: after ∧ P before e ∧ ∀ x ∈ after, Q x

/-- Every event stands in the relation `R` to the events before it. -/
def Always (R : List ε → ε → Prop) (trace : List ε) : Prop :=
  ∀ before e after, trace = before ++ e :: after → R before e

/-- The events are `a` and `b` in turn, `a` first. -/
def Alternates (a b : ε) : List ε → Prop
  | [] => True
  | x :: xs => x = a ∧ Alternates b a xs

section Trace

variable {P R : List ε → ε → Prop} {Q : ε → Prop} {trace : List ε}

/-- INTERNAL: a list with one more element is cut either at that element or before it. -/
theorem append_singleton_eq_cut {before after : List ε} {e x : ε} :
    trace ++ [x] = before ++ e :: after ↔
      (trace = before ∧ x = e ∧ after = []) ∨
        ∃ rest, trace = before ++ e :: rest ∧ after = rest ++ [x] := by
  constructor
  · intro h
    rcases List.eq_nil_or_concat after with rfl | ⟨rest, y, rfl⟩
    · exact .inl (by simpa using h)
    · refine .inr ⟨rest, ?_⟩
      rw [List.concat_eq_append, ← List.cons_append, ← List.append_assoc] at h
      obtain ⟨htrace, hx⟩ := List.append_inj' h rfl
      obtain rfl := List.head_eq_of_cons_eq hx
      exact ⟨htrace, List.concat_eq_append⟩
  · rintro (⟨rfl, rfl, rfl⟩ | ⟨rest, rfl, rfl⟩)
    · rfl
    · simp

/-- INTERNAL: in an empty trace nothing has happened. -/
theorem not_since_nil : ¬ Since P Q [] := by
  rintro ⟨before, e, after, h, -, -⟩
  simp at h

/-- INTERNAL: what has happened since is an event of the trace. -/
theorem Since.exists_mem (h : Since P Q trace) : ∃ before, ∃ e ∈ trace, P before e := by
  obtain ⟨before, e, after, rfl, hP, -⟩ := h
  exact ⟨before, e, List.mem_append_right _ List.mem_cons_self, hP⟩

/-- INTERNAL: what a new event does to `Since`. -/
theorem since_append_singleton (x : ε) :
    Since P Q (trace ++ [x]) ↔ P trace x ∨ (Since P Q trace ∧ Q x) := by
  constructor
  · rintro ⟨before, e, after, h, hP, hQ⟩
    rcases append_singleton_eq_cut.mp h with ⟨rfl, rfl, rfl⟩ | ⟨rest, rfl, rfl⟩
    · exact .inl hP
    · refine .inr ⟨⟨before, e, rest, rfl, hP, fun y hy => hQ y ?_⟩, hQ x ?_⟩
      · exact List.mem_append_left _ hy
      · exact List.mem_append_right _ (List.mem_singleton_self x)
  · rintro (hP | ⟨⟨before, e, after, rfl, hP, hQ⟩, hx⟩)
    · exact ⟨trace, x, [], rfl, hP, fun y hy => absurd hy (List.not_mem_nil)⟩
    · refine ⟨before, e, after ++ [x], by simp, hP, fun y hy => ?_⟩
      rcases List.mem_append.mp hy with hy | hy
      · exact hQ y hy
      · exact List.mem_singleton.mp hy ▸ hx

/-- INTERNAL: what new events that do not meet `P` do to `Since`. -/
theorem since_append_iff {events : List ε} (hP : ∀ x ∈ events, ∀ before, ¬ P before x) :
    Since P Q (trace ++ events) ↔ Since P Q trace ∧ ∀ x ∈ events, Q x := by
  induction events generalizing trace with
  | nil => simp
  | cons x events ih =>
    rw [List.append_cons, ih fun y hy => hP y (List.mem_cons_of_mem x hy), since_append_singleton,
      or_iff_right (hP x List.mem_cons_self trace), and_assoc, List.forall_mem_cons]

/-- INTERNAL: events that neither meet `P` nor violate `Q` do not count. -/
theorem since_append {events : List ε} (hP : ∀ x ∈ events, ∀ before, ¬ P before x)
    (hQ : ∀ x ∈ events, Q x) : Since P Q (trace ++ events) ↔ Since P Q trace := by
  rw [since_append_iff hP, and_iff_left hQ]

/-- INTERNAL: the empty trace keeps every rule. -/
theorem always_nil : Always R [] := by
  intro before e after h
  simp at h

/-- INTERNAL: what a new event does to `Always`. -/
theorem always_append_singleton (x : ε) :
    Always R (trace ++ [x]) ↔ Always R trace ∧ R trace x := by
  constructor
  · intro h
    refine ⟨fun before e after htrace => ?_, h trace x [] rfl⟩
    exact h before e (after ++ [x]) (by simp [htrace])
  · rintro ⟨h, hx⟩ before e after heq
    rcases append_singleton_eq_cut.mp heq with ⟨rfl, rfl, rfl⟩ | ⟨rest, htrace, -⟩
    · exact hx
    · exact h before e rest htrace

/-- INTERNAL: what new events do to `Always`. -/
theorem always_append_iff {events : List ε} :
    Always R (trace ++ events) ↔
      Always R trace ∧ ∀ before e after, events = before ++ e :: after → R (trace ++ before) e := by
  constructor
  · intro h
    refine ⟨fun before e after htrace => ?_, fun before e after hevents => ?_⟩
    · exact h before e (after ++ events) (by simp [htrace])
    · exact h (trace ++ before) e after (by simp [hevents])
  · rintro ⟨h, hevents⟩ before e after heq
    rcases List.append_eq_append_iff.mp heq with ⟨rest, rfl, hrest⟩ | ⟨rest, rfl, hrest⟩
    · exact hevents rest e after hrest
    · cases rest with
      | nil =>
        have hfirst := hevents [] e after hrest.symm
        simpa using hfirst
      | cons x rest =>
        obtain ⟨rfl, rfl⟩ := List.cons.inj hrest
        exact h before e rest rfl

/-- INTERNAL: events that stand in `R` to every past do not count. -/
theorem always_append {events : List ε} (hR : ∀ x ∈ events, ∀ before, R before x) :
    Always R (trace ++ events) ↔ Always R trace := by
  induction events generalizing trace with
  | nil => rw [List.append_nil]
  | cons x events ih =>
    rw [List.append_cons, ih, always_append_singleton]
    · simp [hR x (List.mem_cons_self)]
    · exact fun y hy => hR y (List.mem_cons_of_mem x hy)

/-- INTERNAL: the last of alternating events is one of the two. -/
theorem Alternates.getLast? {a b x : ε} (h : Alternates a b trace)
    (hlast : trace.getLast? = some x) : x = a ∨ x = b := by
  induction trace generalizing a b with
  | nil => cases hlast
  | cons y trace ih =>
    obtain ⟨rfl, htrace⟩ := h
    cases trace with
    | nil => exact .inl (Option.some.inj hlast).symm
    | cons z rest =>
      rw [List.getLast?_cons_cons] at hlast
      exact (ih htrace hlast).symm

/-- INTERNAL: alternating events go on with the one that was not last. -/
theorem alternates_append_singleton [DecidableEq ε] {a b : ε} (hab : a ≠ b) (x : ε) :
    Alternates a b (trace ++ [x]) ↔
      Alternates a b trace ∧ x = if trace.getLast? = some a then b else a := by
  induction trace generalizing a b with
  | nil => simp [Alternates]
  | cons y trace ih =>
    show y = a ∧ Alternates b a (trace ++ [x]) ↔ (y = a ∧ Alternates b a trace) ∧ _
    rw [ih hab.symm, and_assoc]
    refine and_congr_right fun hy => and_congr_right fun htrace => ?_
    subst hy
    cases trace with
    | nil => simp
    | cons z rest =>
      rw [List.getLast?_cons_cons]
      cases hlast : (z :: rest).getLast? with
      | none => simp at hlast
      | some last =>
        rcases htrace.getLast? hlast with rfl | rfl
        · rw [if_pos rfl, if_neg fun h => hab (Option.some.inj h).symm]
        · rw [if_neg fun h => hab (Option.some.inj h), if_pos rfl]

end Trace

end Dhas.Library
