import Mathlib.Data.List.Basic
import Mathlib.Algebra.Order.Ring.Int

/-!
# Sequencers

A sequencer has items to go through, each with a duration, and is called at times that it does
not choose. A call before the time of its next action does nothing. A call at that time or
later takes the next item and waits from there for the duration of the item; when no item is
left, the call ends the sequence and the sequencer is idle.

`Timeline` says at which of the calls the actions come, from the times of the calls and the
durations alone: each action comes at the first call after the one before it that is late
enough. `ticks_getElem?` says that the sequencer acts at these calls and at no other.
-/

set_option autoImplicit false

namespace Dhas.Library

variable {α : Type*}

/-- What is left to do, and from when on; `none` when the sequencer is idle. -/
structure Sequencer (α : Type*) where
  due : Option ℤ
  items : List α

namespace Sequencer

inductive Action (α : Type*) where
  | item (a : α)
  | finish

/-- The actions of a whole sequence. -/
def actions (items : List α) : List (Action α) := items.map .item ++ [.finish]

/-- A call at a time. -/
def tick (duration : α → ℤ) (s : Sequencer α) (t : ℤ) : Sequencer α × Option (Action α) :=
  match s.due with
  | none => (s, none)
  | some due =>
    if t < due then (s, none)
    else
      match s.items with
      | [] => (⟨none, []⟩, some .finish)
      | a :: items => (⟨some (t + duration a), items⟩, some (.item a))

/-- What each call of a list does. -/
def ticks (duration : α → ℤ) : Sequencer α → List ℤ → List (Option (Action α))
  | _, [] => []
  | s, t :: ts => (s.tick duration t).2 :: ticks duration (s.tick duration t).1 ts

/-- Every call that finds the sequencer idle is at a time that satisfies `P`. -/
def IdleCalls (duration : α → ℤ) (P : ℤ → Prop) : Sequencer α → List ℤ → Prop
  | _, [] => True
  | s, t :: ts => (s.due = none → P t) ∧ IdleCalls duration P (s.tick duration t).1 ts

/-- The call at place `j`, which is at the time `t`, is the first one from `start` on that is
not before `due`. -/
structure FirstDue (ts : List ℤ) (start : ℕ) (due : ℤ) (j : ℕ) (t : ℤ) : Prop where
  start_le : start ≤ j
  call : ts[j]? = some t
  due_le : due ≤ t
  early : ∀ i u, start ≤ i → i < j → ts[i]? = some u → u < due

/-- The places of the calls at which the actions of a sequence come, one place an item and one
for the end, when the first action is due at `due` and the calls before `start` are over. -/
inductive Timeline (duration : α → ℤ) (ts : List ℤ) : ℕ → ℤ → List α → List ℕ → Prop where
  | finish {start : ℕ} {due : ℤ} {j : ℕ} {t : ℤ} :
      FirstDue ts start due j t → Timeline duration ts start due [] [j]
  | item {start : ℕ} {due : ℤ} {j : ℕ} {t : ℤ} {a : α} {items : List α} {js : List ℕ} :
      FirstDue ts start due j t →
      Timeline duration ts (j + 1) (t + duration a) items js →
      Timeline duration ts start due (a :: items) (j :: js)

variable {duration : α → ℤ} {ts : List ℤ}

/-- INTERNAL: nothing happens before the time is due. -/
theorem tick_early {due t : ℤ} (h : t < due) (items : List α) :
    tick duration ⟨some due, items⟩ t = (⟨some due, items⟩, none) := by
  simp only [tick, if_pos h]

/-- INTERNAL: when the last item's time is over, the sequence finishes. -/
theorem tick_finish {due t : ℤ} (h : due ≤ t) :
    tick duration ⟨some due, []⟩ t = (⟨none, []⟩, some .finish) := by
  simp only [tick, if_neg (not_lt.mpr h)]

/-- INTERNAL: when an item's time is over, the next one begins. -/
theorem tick_item {due t : ℤ} (h : due ≤ t) (a : α) (items : List α) :
    tick duration ⟨some due, a :: items⟩ t = (⟨some (t + duration a), items⟩, some (.item a)) := by
  simp only [tick, if_neg (not_lt.mpr h)]

/-- INTERNAL: a sequencer without a time does nothing, for ever. -/
theorem ticks_idle (items : List α) (ts : List ℤ) :
    ticks duration ⟨none, items⟩ ts = List.replicate ts.length none := by
  induction ts with
  | nil => rfl
  | cons t ts ih =>
    show none :: ticks duration ⟨none, items⟩ ts = _
    rw [ih, List.length_cons, List.replicate_succ]

/-- INTERNAL: an idle sequencer stays idle, so all its calls have to be at such times. -/
theorem idleCalls_idle {P : ℤ → Prop} (items : List α) {ts : List ℤ} (h : ∀ t ∈ ts, P t) :
    IdleCalls duration P ⟨none, items⟩ ts := by
  induction ts with
  | nil => trivial
  | cons t ts ih =>
    exact ⟨fun _ => h t List.mem_cons_self, ih fun u hu => h u (List.mem_cons_of_mem t hu)⟩

/-- INTERNAL: the calls before the due time do nothing. -/
theorem ticks_early {due : ℤ} (items : List α) {us : List ℤ} (h : ∀ u ∈ us, u < due)
    (ts : List ℤ) :
    ticks duration ⟨some due, items⟩ (us ++ ts) =
      List.replicate us.length none ++ ticks duration ⟨some due, items⟩ ts := by
  induction us with
  | nil => rfl
  | cons u us ih =>
    have htail := ih fun v hv => h v (List.mem_cons_of_mem u hv)
    rw [List.cons_append, ticks, tick_early (h u List.mem_cons_self), htail, List.length_cons,
      List.replicate_succ, List.cons_append]

/-- INTERNAL: the calls before the due time do not find it idle. -/
theorem idleCalls_early {P : ℤ → Prop} {due : ℤ} (items : List α) {us : List ℤ}
    (h : ∀ u ∈ us, u < due) {ts : List ℤ} (hts : IdleCalls duration P ⟨some due, items⟩ ts) :
    IdleCalls duration P ⟨some due, items⟩ (us ++ ts) := by
  induction us with
  | nil => exact hts
  | cons u us ih =>
    refine ⟨nofun, ?_⟩
    rw [tick_early (h u List.mem_cons_self)]
    exact ih fun v hv => h v (List.mem_cons_of_mem u hv)

/-- INTERNAL: the calls from `start` on are early ones up to the first that is late enough. -/
theorem FirstDue.split {start : ℕ} {due : ℤ} {j : ℕ} {t : ℤ} (h : FirstDue ts start due j t) :
    ∃ us : List ℤ, us.length = j - start ∧ (∀ u ∈ us, u < due) ∧
      ts.drop start = us ++ t :: ts.drop (j + 1) := by
  have hj : j < ts.length := (List.getElem?_eq_some_iff.mp h.call).1
  have hstart := h.start_le
  refine ⟨(ts.drop start).take (j - start), ?_, ?_, ?_⟩
  · rw [List.length_take, List.length_drop]
    omega
  · intro u hu
    obtain ⟨k, hk, hget⟩ := List.mem_iff_getElem.mp hu
    rw [List.length_take, List.length_drop] at hk
    apply h.early (start + k) u (by omega) (by omega)
    rw [List.getElem_take, List.getElem_drop] at hget
    rw [List.getElem?_eq_some_iff]
    exact ⟨by omega, hget⟩
  · have hdrop : t :: ts.drop (j + 1) = (ts.drop start).drop (j - start) := by
      rw [List.drop_drop, Nat.add_sub_cancel' hstart, List.drop_eq_getElem_cons hj,
        (List.getElem?_eq_some_iff.mp h.call).2]
    rw [hdrop, List.take_append_drop]

/-- INTERNAL: the places of a timeline are not before its start. -/
theorem Timeline.start_le {start : ℕ} {due : ℤ} {items : List α} {js : List ℕ}
    (h : Timeline duration ts start due items js) : ∀ j ∈ js, start ≤ j := by
  induction h with
  | finish hfirst =>
    intro j hj
    rw [List.mem_singleton] at hj
    exact hj ▸ hfirst.start_le
  | item hfirst _ ih =>
    intro j hj
    have hle := hfirst.start_le
    rcases List.mem_cons.mp hj with rfl | hmem
    · exact hle
    · have := ih j hmem
      omega

/-- INTERNAL: a place before all of the list has no entry. -/
theorem lookup_zip_of_lt {β : Type*} {js : List ℕ} {i : ℕ} (h : ∀ j ∈ js, i < j) (bs : List β) :
    (js.zip bs).lookup i = none := by
  induction js generalizing bs with
  | nil => rfl
  | cons j js ih =>
    cases bs with
    | nil => rfl
    | cons b bs =>
      have hne : (i == j) = false := by
        have := h j List.mem_cons_self
        rw [beq_eq_false_iff_ne]
        omega
      rw [List.zip_cons_cons, List.lookup_cons, hne]
      exact ih (fun k hk => h k (List.mem_cons_of_mem j hk)) bs

/-- INTERNAL: what a list of calls does, when the early ones at its head do nothing and one of
them acts. -/
theorem ticks_split {s : Sequencer α} {due t : ℤ} {items : List α} {act : Option (Action α)}
    {start j : ℕ} (hfirst : FirstDue ts start due j t)
    (htick : tick duration ⟨some due, items⟩ t = (s, act)) :
    ticks duration ⟨some due, items⟩ (ts.drop start) =
      List.replicate (j - start) none ++ act :: ticks duration s (ts.drop (j + 1)) := by
  obtain ⟨us, hlength, hearly, hsplit⟩ := hfirst.split
  rw [hsplit, ticks_early items hearly, hlength, ticks, htick]

/-- INTERNAL: the entries of a list from `start` on, with one at `j` and equal ones before it. -/
theorem getElem?_replicate_cons {β : Type*} (x y : β) (rest : List β) {start j i : ℕ}
    (hj : start ≤ j) (hi : start ≤ i) :
    (List.replicate (j - start) x ++ y :: rest)[i - start]? =
      if i < j then some x else if i = j then some y else rest[i - (j + 1)]? := by
  have hlength : (List.replicate (j - start) x).length = j - start := List.length_replicate
  rcases lt_trichotomy i j with hij | rfl | hij
  · rw [if_pos hij, List.getElem?_append_left (by omega), List.getElem?_replicate,
      if_pos (by omega)]
  · rw [if_neg (by omega), if_pos rfl, List.getElem?_append_right (by omega), hlength,
      Nat.sub_self]
    rfl
  · have hindex : i - start - (j - start) = (i - (j + 1)) + 1 := by omega
    rw [if_neg (by omega), if_neg (by omega), List.getElem?_append_right (by omega), hlength,
      hindex, List.getElem?_cons_succ]

/-- INTERNAL: **the sequencer acts at the calls of its timeline and at no other.** -/
theorem ticks_getElem? {start : ℕ} {due : ℤ} {items : List α} {js : List ℕ}
    (h : Timeline duration ts start due items js) {i : ℕ} (hi : start ≤ i) (hlt : i < ts.length) :
    (ticks duration ⟨some due, items⟩ (ts.drop start))[i - start]? =
      some ((js.zip (actions items)).lookup i) := by
  induction h with
  | @finish start due j t hfirst =>
    have hlookup : ([j].zip (actions ([] : List α))).lookup i =
        match i == j with | true => some .finish | false => none := rfl
    rw [ticks_split hfirst (tick_finish hfirst.due_le), ticks_idle,
      getElem?_replicate_cons _ _ _ hfirst.start_le hi, hlookup]
    rcases lt_trichotomy i j with hij | rfl | hij
    · rw [if_pos hij, beq_eq_false_iff_ne.mpr (by omega)]
    · rw [if_neg (by omega), if_pos rfl, beq_self_eq_true]
    · rw [if_neg (by omega), if_neg (by omega), beq_eq_false_iff_ne.mpr (by omega),
        List.length_drop, List.getElem?_replicate, if_pos (by omega)]
  | @item start due j t a items js hfirst hrest ih =>
    have hactions : actions (a :: items) = .item a :: actions items := rfl
    rw [ticks_split hfirst (tick_item hfirst.due_le a items),
      getElem?_replicate_cons _ _ _ hfirst.start_le hi, hactions, List.zip_cons_cons,
      List.lookup_cons]
    rcases lt_trichotomy i j with hij | rfl | hij
    · have hbefore : ∀ k ∈ js, i < k := by
        intro k hk
        have hafter := hrest.start_le k hk
        omega
      rw [if_pos hij, beq_eq_false_iff_ne.mpr (by omega)]
      exact congrArg some (lookup_zip_of_lt hbefore _).symm
    · rw [if_neg (by omega), if_pos rfl, beq_self_eq_true]
    · rw [if_neg (by omega), if_neg (by omega), beq_eq_false_iff_ne.mpr (by omega)]
      exact ih (by omega)

/-- INTERNAL: a timeline has a place. -/
theorem Timeline.head_mem {start : ℕ} {due : ℤ} {items : List α} {js : List ℕ}
    (h : Timeline duration ts start due items js) : ∃ j ∈ js, start ≤ j := by
  cases h with
  | finish hfirst => exact ⟨_, List.mem_cons_self, hfirst.start_le⟩
  | item hfirst _ => exact ⟨_, List.mem_cons_self, hfirst.start_le⟩

/-- INTERNAL: the calls that find the sequencer idle are those behind its timeline. -/
theorem Timeline.idleCalls {P : ℤ → Prop} {start : ℕ} {due : ℤ} {items : List α} {js : List ℕ}
    (h : Timeline duration ts start due items js)
    (hP : ∀ i t, ts[i]? = some t → (∀ j ∈ js, j < i) → P t) :
    IdleCalls duration P ⟨some due, items⟩ (ts.drop start) := by
  induction h with
  | @finish start due j t hfirst =>
    obtain ⟨us, -, hearly, hsplit⟩ := hfirst.split
    rw [hsplit]
    apply idleCalls_early [] hearly
    refine ⟨nofun, ?_⟩
    rw [tick_finish hfirst.due_le]
    apply idleCalls_idle
    intro u hu
    obtain ⟨k, hk⟩ := List.mem_iff_getElem?.mp hu
    rw [List.getElem?_drop] at hk
    apply hP _ u hk
    intro i hi
    rw [List.mem_singleton] at hi
    omega
  | @item start due j t a items js hfirst hrest ih =>
    obtain ⟨us, -, hearly, hsplit⟩ := hfirst.split
    rw [hsplit]
    apply idleCalls_early _ hearly
    refine ⟨nofun, ?_⟩
    rw [tick_item hfirst.due_le]
    apply ih
    intro i u hi hjs
    apply hP i u hi
    intro k hk
    rcases List.mem_cons.mp hk with rfl | hmem
    · -- the rest of the timeline is not empty, and it comes behind `k`
      obtain ⟨j', hmem, hle⟩ := hrest.head_mem
      have hlt := hjs j' hmem
      omega
    · exact hjs k hmem

end Sequencer

end Dhas.Library
