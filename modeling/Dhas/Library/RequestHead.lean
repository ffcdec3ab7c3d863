import Mathlib.Algebra.BigOperators.Group.List.Defs
import Mathlib.Data.List.TakeWhile

/-!
# The heads of requests

A request head is a line with a target between two fixed texts, lines of fields, and an empty line.
The heads of a stream follow each other. Whoever writes a head puts the target in as it is; who
reads it takes the target up to the first element that no target has, so what is read is the target
that was written exactly when all its elements may stand in one.
-/

set_option autoImplicit false

namespace Dhas.Library

/-- How a request head is written. -/
structure RequestSyntax (α : Type*) where
  before : List α
  after : List α
  /-- the two elements that end a line -/
  cr : α
  lf : α
  /-- what may stand in a target -/
  inTarget : α → Bool
  before_ne_nil : before ≠ []
  after_cons : ∃ a rest, after = a :: rest ∧ inTarget a = false

namespace RequestSyntax

variable {α : Type*} [DecidableEq α] (q : RequestSyntax α)

omit [DecidableEq α] in
/-- A head with a target and the lines of its fields. -/
def write (target : List α) (fields : List (List α)) : List α :=
  q.before ++ target ++ q.after ++ (fields.flatMap fun field => field ++ [q.cr, q.lf]) ++
    [q.cr, q.lf]

/-- What follows the lines of fields and the empty line; `start` at the beginning of a line. -/
def skipFields : Bool → List α → Option (List α)
  | _, [] => none
  | _, [_] => none
  | start, a :: b :: s =>
    if a = q.cr ∧ b = q.lf then if start then some s else skipFields true s
    else skipFields false (b :: s)

/-- The target of the head that a stream begins with, and what follows the head. -/
def readHead (s : List α) : Option (List α × List α) := do
  let rest ← s.dropPrefix? q.before
  let rest' ← (rest.dropWhile q.inTarget).dropPrefix? q.after
  (q.skipFields true rest').map fun s' => (rest.takeWhile q.inTarget, s')

/-- The targets of the first `n` heads of a stream, if it ends with the last of them. -/
def readHeads : ℕ → List α → Option (List (List α))
  | _, [] => some []
  | 0, _ :: _ => none
  | n + 1, a :: s => do
    let head ← q.readHead (a :: s)
    (readHeads n head.2).map (head.1 :: ·)

/-- The targets of the heads that a stream is made of. -/
def read (s : List α) : Option (List (List α)) := q.readHeads s.length s

section Read

variable {q} {target rest : List α} {fields : List (List α)}

/-- INTERNAL: an empty line ends the header. -/
theorem skipFields_end (s : List α) : q.skipFields true (q.cr :: q.lf :: s) = some s := by
  simp [skipFields]

/-- INTERNAL: a line without a line end in it is skipped up to its own. -/
theorem skipFields_line {field : List α} (hfield : q.cr ∉ field) (s : List α)
    (start : Bool) (hstart : start = true → field ≠ []) :
    q.skipFields start (field ++ q.cr :: q.lf :: s) = q.skipFields true s := by
  induction field generalizing start with
  | nil =>
    have hfalse : start = false := by
      cases start
      · rfl
      · exact absurd rfl (hstart rfl)
    simp [skipFields, hfalse]
  | cons a field ih =>
    have ha : a ≠ q.cr := fun h => hfield (h ▸ List.mem_cons_self)
    have hfield' : q.cr ∉ field := fun h => hfield (List.mem_cons_of_mem a h)
    have hnext := ih hfield' false (by simp)
    cases field with
    | nil => simp [skipFields, ha]
    | cons b field => simpa [skipFields, ha] using hnext

/-- INTERNAL: the lines of the fields are skipped. -/
theorem skipFields_fields (hfields : ∀ field ∈ fields, field ≠ [] ∧ q.cr ∉ field)
    (s : List α) :
    q.skipFields true
        ((fields.flatMap fun field => field ++ [q.cr, q.lf]) ++ q.cr :: q.lf :: s) =
      some s := by
  induction fields with
  | nil => exact skipFields_end s
  | cons field fields ih =>
    obtain ⟨hne, hcr⟩ := hfields field List.mem_cons_self
    rw [List.flatMap_cons, List.append_assoc, List.append_assoc]
    change q.skipFields true (field ++ q.cr :: q.lf :: _) = _
    rw [skipFields_line hcr _ true fun _ => hne]
    exact ih fun f hf => hfields f (List.mem_cons_of_mem field hf)

omit [DecidableEq α] in
/-- INTERNAL: the target ends where the fixed text behind it begins. -/
theorem takeWhile_target (s : List α) :
    (target ++ q.after ++ s).takeWhile q.inTarget = target.takeWhile q.inTarget := by
  obtain ⟨a, after, hafter, ha⟩ := q.after_cons
  have hend : (q.after ++ s).takeWhile q.inTarget = [] := by
    rw [hafter, List.cons_append, List.takeWhile_cons_of_neg (by simp [ha])]
  rw [List.append_assoc, List.takeWhile_append, hend, List.append_nil]
  split
  · rename_i hlength
    exact (List.takeWhile_prefix _).eq_of_length hlength |>.symm
  · rfl

omit [DecidableEq α] in
/-- INTERNAL: the letters of the target are dropped, up to the blank after them. -/
theorem dropWhile_target (htarget : ∀ a ∈ target, q.inTarget a = true) (s : List α) :
    (target ++ q.after ++ s).dropWhile q.inTarget = q.after ++ s := by
  obtain ⟨a, after, hafter, ha⟩ := q.after_cons
  rw [List.append_assoc, List.dropWhile_append_of_pos htarget, hafter, List.cons_append,
    List.dropWhile_cons_of_neg (by simp [ha])]

/-- INTERNAL: a prefix that is there is dropped. -/
theorem dropPrefix?_append (p s : List α) : (p ++ s).dropPrefix? p = some s :=
  List.dropPrefix?_eq_some_iff.mpr ⟨p, rfl, beq_self_eq_true p⟩

/-- INTERNAL: the target that is read is a part of the one that was written. -/
theorem readHead_fst {t s' : List α}
    (h : q.readHead (q.write target fields ++ rest) = some (t, s')) :
    t = target.takeWhile q.inTarget := by
  unfold write at h
  simp only [List.append_assoc] at h
  unfold readHead at h
  simp only [dropPrefix?_append, Option.bind_eq_bind, Option.bind_some] at h
  obtain ⟨rest', -, hmap⟩ := Option.bind_eq_some_iff.mp h
  obtain ⟨s'', -, hpair⟩ := Option.map_eq_some_iff.mp hmap
  obtain ⟨rfl, -⟩ := Prod.mk.inj hpair
  rw [← List.append_assoc, takeWhile_target]

/-- INTERNAL: **a head with a target of the right elements is read as it was written.** -/
theorem readHead_write (htarget : ∀ a ∈ target, q.inTarget a = true)
    (hfields : ∀ field ∈ fields, field ≠ [] ∧ q.cr ∉ field) (s : List α) :
    q.readHead (q.write target fields ++ s) = some (target, s) := by
  have hall : target.takeWhile q.inTarget = target := List.takeWhile_eq_self_iff.mpr htarget
  have hskip := skipFields_fields hfields s
  unfold write
  simp only [List.append_assoc]
  unfold readHead
  simp only [dropPrefix?_append, Option.bind_eq_bind, Option.bind_some]
  rw [← List.append_assoc, takeWhile_target, dropWhile_target htarget, dropPrefix?_append, hall,
    Option.bind_some]
  simp only [List.cons_append, List.nil_append] at hskip ⊢
  rw [hskip]
  rfl

omit [DecidableEq α] in
/-- INTERNAL: a request is never empty. -/
theorem write_ne_nil : q.write target fields ≠ [] := by
  simp [write]

/-- INTERNAL: a stream of one head is read as it was written. -/
theorem read_write (htarget : ∀ a ∈ target, q.inTarget a = true)
    (hfields : ∀ field ∈ fields, field ≠ [] ∧ q.cr ∉ field) :
    q.read (q.write target fields) = some [target] := by
  have hhead := readHead_write htarget hfields []
  rw [List.append_nil] at hhead
  unfold read
  cases hwrite : q.write target fields with
  | nil => exact absurd hwrite write_ne_nil
  | cons a s =>
    rw [hwrite] at hhead
    rw [List.length_cons, readHeads, hhead]
    cases s.length <;> rfl

/-- INTERNAL: the first target that is read in a stream. -/
theorem read_eq_singleton {t : List α} (h : q.read (q.write target fields) = some [t]) :
    t = target.takeWhile q.inTarget := by
  unfold read at h
  cases hwrite : q.write target fields with
  | nil => exact absurd hwrite write_ne_nil
  | cons a s =>
    rw [hwrite, List.length_cons, readHeads, Option.bind_eq_bind, Option.bind_eq_some_iff] at h
    obtain ⟨⟨t', s'⟩, hhead, hmap⟩ := h
    obtain ⟨ts, -, hcons⟩ := Option.map_eq_some_iff.mp hmap
    obtain rfl := List.head_eq_of_cons_eq hcons
    rw [← hwrite, ← List.append_nil (q.write target fields)] at hhead
    exact readHead_fst hhead

end Read

end RequestSyntax

end Dhas.Library
