import Mathlib.Data.List.Basic

/-!
# Quoted texts

A text between quotation marks in which some characters are written as a pair: the escape, and a
code for the character. Where a reader also takes two quotation marks for one, a quoted text must
not be followed by another.
-/

set_option autoImplicit false

namespace Dhas.Library

/-- The notation for the characters of a quoted text. -/
structure Quoting (α : Type*) where
  close : α
  esc : α
  /-- what is written behind the escape; `none` for a character that is written as it is -/
  code : α → Option α
  /-- what a pair stands for -/
  decode : α → List α
  esc_ne_close : esc ≠ close
  decode_code : ∀ a b, code a = some b → decode b = [a]
  plain : ∀ a, code a = none → a ≠ close ∧ a ≠ esc

namespace Quoting

variable {α : Type*} (q : Quoting α)

def writeChar (a : α) : List α :=
  match q.code a with
  | some b => [q.esc, b]
  | none => [a]

/-- The characters, without the quotation marks. -/
def write (s : List α) : List α := s.flatMap q.writeChar

/-- The text from behind the opening quotation mark, and what follows the closing one. -/
def read [DecidableEq α] : List α → Option (List α × List α)
  | [] => none
  | [a] => if a = q.close then some ([], []) else none
  | a :: b :: s =>
    if a = q.esc then (read s).map fun r => (q.decode b ++ r.1, r.2)
    else if a = q.close then
      if b = q.close then (read s).map fun r => (q.close :: r.1, r.2) else some ([], b :: s)
    else (read (b :: s)).map fun r => (a :: r.1, r.2)

section Read

variable [DecidableEq α] {q} {a b : α} {s rest : List α}

/-- INTERNAL: the closing quote ends the text, unless it is doubled. -/
theorem read_close (hrest : rest.head? ≠ some q.close) :
    q.read (q.close :: rest) = some ([], rest) := by
  cases rest with
  | nil => simp [read]
  | cons b rest =>
    have hb : b ≠ q.close := fun h => hrest (congrArg some h)
    simp [read, q.esc_ne_close.symm, hb]

/-- INTERNAL: an escaped letter is decoded. -/
theorem read_esc (b : α) (s : List α) :
    q.read (q.esc :: b :: s) = (q.read s).map fun r => (q.decode b ++ r.1, r.2) := by
  rw [read, if_pos rfl]

/-- INTERNAL: any other letter stands for itself. -/
theorem read_plain (hclose : a ≠ q.close) (hesc : a ≠ q.esc) (hs : s ≠ []) :
    q.read (a :: s) = (q.read s).map fun r => (a :: r.1, r.2) := by
  cases s with
  | nil => exact absurd rfl hs
  | cons b s => rw [read, if_neg hesc, if_neg hclose]

/-- INTERNAL: **a quoted text is read back, up to what follows it.** -/
theorem read_write (s : List α) (hrest : rest.head? ≠ some q.close) :
    q.read (q.write s ++ q.close :: rest) = some (s, rest) := by
  induction s with
  | nil => exact read_close hrest
  | cons a s ih =>
    have hcons : q.write (a :: s) = q.writeChar a ++ q.write s := List.flatMap_cons
    rw [hcons, List.append_assoc]
    cases hcode : q.code a with
    | some b =>
      have hpair : q.writeChar a = [q.esc, b] := by simp [writeChar, hcode]
      rw [hpair, List.cons_append, List.singleton_append, read_esc, ih,
        q.decode_code a b hcode]
      rfl
    | none =>
      have hself : q.writeChar a = [a] := by simp [writeChar, hcode]
      obtain ⟨hclose, hesc⟩ := q.plain a hcode
      rw [hself, List.singleton_append, read_plain hclose hesc (by simp), ih]
      rfl

end Read

/-- INTERNAL: a text without characters that need it is written as it is. -/
theorem write_of_plain {s : List α} (hs : ∀ a ∈ s, q.code a = none) : q.write s = s := by
  induction s with
  | nil => rfl
  | cons a s ih =>
    have ha : q.writeChar a = [a] := by simp [writeChar, hs a List.mem_cons_self]
    have hcons : q.write (a :: s) = q.writeChar a ++ q.write s := List.flatMap_cons
    rw [hcons, ha, ih fun b hb => hs b (List.mem_cons_of_mem a hb), List.singleton_append]

end Quoting

end Dhas.Library
