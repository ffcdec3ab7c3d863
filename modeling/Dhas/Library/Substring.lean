import Mathlib.Algebra.BigOperators.Group.List.Defs
import Mathlib.Data.Nat.Find
import Mathlib.Tactic.ByContra

/-!
# The first occurrence of a list in another

`findSub pattern s` is where `pattern` begins in `s` for the first time. What is found in a list
is found at the same place when the list goes on, and what is found far enough before the end
was found before the list went on.
-/

set_option autoImplicit false

namespace Dhas.Library

variable {α : Type*} [DecidableEq α]

/-- Where the pattern begins for the first time; `none` when it does not occur. -/
def findSub (pattern s : List α) : Option ℕ :=
  (s.dropInfix? pattern).map fun r => r.1.length

section FindSub

variable {pattern s t : List α} {i : ℕ}

/-- INTERNAL: the place that is found is the first one. -/
theorem findSub_eq_some_iff :
    findSub pattern s = some i ↔
      (∃ before after, s = before ++ pattern ++ after ∧ before.length = i) ∧
        ∀ before after, s = before ++ pattern ++ after → i ≤ before.length := by
  unfold findSub
  rw [Option.map_eq_some_iff]
  constructor
  · rintro ⟨⟨before, after⟩, hfind, rfl⟩
    obtain ⟨⟨found, hs, hfound⟩, hfirst⟩ := List.dropInfix?_eq_some_iff.mp hfind
    obtain rfl := eq_of_beq hfound
    refine ⟨⟨before, after, hs, rfl⟩, fun before' after' hs' => ?_⟩
    exact hfirst before' _ after' hs' (beq_self_eq_true _)
  · rintro ⟨⟨before, after, hs, rfl⟩, hfirst⟩
    refine ⟨(before, after), List.dropInfix?_eq_some_iff.mpr ⟨?_, ?_⟩, rfl⟩
    · exact ⟨pattern, hs, beq_self_eq_true _⟩
    · intro before' found after' hs' hfound
      obtain rfl := eq_of_beq hfound
      exact hfirst before' after' hs'

/-- INTERNAL: a pattern that is found fits into the text. -/
theorem findSub_le (h : findSub pattern s = some i) : i + pattern.length ≤ s.length := by
  obtain ⟨⟨before, after, rfl, rfl⟩, -⟩ := findSub_eq_some_iff.mp h
  rw [List.length_append, List.length_append]
  omega

omit [DecidableEq α] in
/-- INTERNAL: an occurrence that ends in the first part of a list is one in that part. -/
theorem occurrence_of_le {before after : List α} (h : s ++ t = before ++ pattern ++ after)
    (hle : (before ++ pattern).length ≤ s.length) : ∃ rest, s = before ++ pattern ++ rest := by
  rcases List.append_eq_append_iff.mp h with ⟨rest, hrest, -⟩ | ⟨rest, hrest, -⟩
  · have hnil : rest = [] := by
      apply List.eq_nil_of_length_eq_zero
      have hlength := congrArg List.length hrest
      simp only [List.length_append] at hlength hle
      omega
    refine ⟨[], ?_⟩
    rw [hrest, hnil, List.append_nil, List.append_nil]
  · exact ⟨rest, hrest⟩

/-- INTERNAL: what was found is found at the same place when the list goes on. -/
theorem findSub_append (h : findSub pattern s = some i) (t : List α) :
    findSub pattern (s ++ t) = some i := by
  have hle := findSub_le h
  obtain ⟨⟨before, after, hs, hi⟩, hfirst⟩ := findSub_eq_some_iff.mp h
  refine findSub_eq_some_iff.mpr ⟨⟨before, after ++ t, ?_, hi⟩, ?_⟩
  · rw [hs, List.append_assoc]
  · intro before' after' h'
    by_contra hlt
    have hend : (before' ++ pattern).length ≤ s.length := by
      rw [List.length_append]
      omega
    obtain ⟨rest, hrest⟩ := occurrence_of_le h' hend
    exact hlt (hfirst before' rest hrest)

/-- INTERNAL: what is found before the end was found before the list went on. -/
theorem findSub_of_append (h : findSub pattern (s ++ t) = some i)
    (hle : i + pattern.length ≤ s.length) : findSub pattern s = some i := by
  obtain ⟨⟨before, after, hs, hi⟩, hfirst⟩ := findSub_eq_some_iff.mp h
  obtain ⟨rest, hrest⟩ := occurrence_of_le hs (by rw [List.length_append]; omega)
  refine findSub_eq_some_iff.mpr ⟨⟨before, rest, hrest, hi⟩, fun before' after' h' => ?_⟩
  apply hfirst before' (after' ++ t)
  rw [h', List.append_assoc]

/-- INTERNAL: what is found only when one element more is there ends at that element. -/
theorem findSub_append_singleton {a : α} (hnone : findSub pattern s = none)
    (h : findSub pattern (s ++ [a]) = some i) : i + pattern.length = s.length + 1 := by
  have hle := findSub_le h
  rw [List.length_append, List.length_singleton] at hle
  by_contra hne
  have hin := findSub_of_append h (by omega)
  rw [hnone] at hin
  cases hin

/-- INTERNAL: where a pattern is found, its letters stand. -/
theorem findSub_getElem? (h : findSub pattern s = some i) {k : ℕ} (hk : k < pattern.length) :
    s[i + k]? = pattern[k]? := by
  obtain ⟨⟨before, after, rfl, rfl⟩, -⟩ := findSub_eq_some_iff.mp h
  rw [List.append_assoc, List.getElem?_append_right (Nat.le_add_right _ _), Nat.add_sub_cancel_left,
    List.getElem?_append_left hk]

/-- INTERNAL: nothing is found exactly where there is no occurrence. -/
theorem findSub_eq_none_iff :
    findSub pattern s = none ↔ ∀ before after, s ≠ before ++ pattern ++ after := by
  constructor
  · rintro hnone before after rfl
    classical
    have hsome : ∃ n, ∃ front back : List α, before ++ pattern ++ after = front ++ pattern ++ back ∧
        front.length = n := ⟨_, before, after, rfl, rfl⟩
    obtain ⟨front, back, hs, hlength⟩ := Nat.find_spec hsome
    have hfound : findSub pattern (before ++ pattern ++ after) = some (Nat.find hsome) := by
      refine findSub_eq_some_iff.mpr ⟨⟨front, back, hs, hlength⟩, fun front' back' hs' => ?_⟩
      exact Nat.find_min' hsome ⟨front', back', hs', rfl⟩
    rw [hnone] at hfound
    cases hfound
  · intro hno
    rw [← Option.not_isSome_iff_eq_none]
    intro hsome
    obtain ⟨i, hi⟩ := Option.isSome_iff_exists.mp hsome
    obtain ⟨⟨before, after, hs, -⟩, -⟩ := findSub_eq_some_iff.mp hi
    exact hno before after hs

/-- INTERNAL: a first part in which no occurrence begins is passed over. -/
theorem findSub_append_left
    (hlate : ∀ before after, s ++ t = before ++ pattern ++ after → s.length ≤ before.length) :
    findSub pattern (s ++ t) = (findSub pattern t).map fun i => s.length + i := by
  have hbehind : ∀ before after, s ++ t = before ++ pattern ++ after →
      ∃ front, before = s ++ front ∧ t = front ++ pattern ++ after := by
    intro before after h
    have hle := hlate before after h
    rw [List.append_assoc] at h
    rcases List.append_eq_append_iff.mp h with ⟨front, hfront, hrest⟩ | ⟨front, hfront, hrest⟩
    · exact ⟨front, hfront, by rw [hrest, List.append_assoc]⟩
    · have hnil : front = [] := by
        apply List.eq_nil_of_length_eq_zero
        rw [hfront, List.length_append] at hle
        omega
      rw [hnil, List.append_nil] at hfront
      rw [hnil, List.nil_append] at hrest
      exact ⟨[], by rw [hfront, List.append_nil], by rw [← hrest, List.nil_append]⟩
  cases hfind : findSub pattern t with
  | none =>
    rw [findSub_eq_none_iff] at hfind
    refine findSub_eq_none_iff.mpr fun before after h => ?_
    obtain ⟨front, -, ht⟩ := hbehind before after h
    exact hfind front after ht
  | some i =>
    obtain ⟨⟨before, after, ht, hi⟩, hfirst⟩ := findSub_eq_some_iff.mp hfind
    refine findSub_eq_some_iff.mpr ⟨⟨s ++ before, after, ?_, ?_⟩, fun before' after' h => ?_⟩
    · rw [ht, List.append_assoc, List.append_assoc, List.append_assoc]
    · rw [List.length_append, hi]
    · obtain ⟨front, rfl, ht'⟩ := hbehind before' after' h
      rw [List.length_append]
      exact Nat.add_le_add_left (hfirst front after' ht') s.length

/-- INTERNAL: an element that is not in the pattern parts what is before it from what is behind. -/
theorem findSub_append_cons {a : α} (hnone : findSub pattern s = none) (ha : a ∉ pattern) :
    findSub pattern (s ++ a :: t) = (findSub pattern t).map fun i => s.length + 1 + i := by
  have hlate : ∀ before after, (s ++ [a]) ++ t = before ++ pattern ++ after →
      (s ++ [a]).length ≤ before.length := by
    intro before after h
    rw [List.length_append, List.length_singleton]
    by_contra hlt
    have hin : s.length < (before ++ pattern).length := by
      by_contra hle
      rw [List.append_assoc] at h
      obtain ⟨rest, hrest⟩ := occurrence_of_le h (Nat.le_of_not_lt hle)
      exact findSub_eq_none_iff.mp hnone before rest hrest
    have hat : (s ++ [a] ++ t)[s.length]? = some a := by simp
    rw [h, List.getElem?_append_left hin, List.getElem?_append_right (by omega)] at hat
    exact ha (List.mem_of_getElem? hat)
  have hsplit : s ++ a :: t = (s ++ [a]) ++ t := by rw [List.append_assoc, List.singleton_append]
  rw [hsplit, findSub_append_left hlate, List.length_append, List.length_singleton]

end FindSub

end Dhas.Library
