import Dhas.Model.Irrigation
import Mathlib.Algebra.Order.Ring.Int

/-!
# A valve that was turned on has a follow-up

While the last command placed is a valve-on command, `mNextSequenceTime` should differ
from `TIMETMAX`, so that a later `run` goes on to the next item or turns everything off.

`sequence_callback` breaks this: it clears the running sequence like `valveOff_callback`
does, but sends no all-off command, and a string that decodes to nothing schedules nothing
new. A full send queue breaks it too, because `run` and `valveOff_callback` forget the
sequence although their all-off command was dropped.

The analysis gives the exact condition: `FollowUpKept` on every call. Each of the three
functions of the node is looked at once, in `step_followUp_iff`.
-/

set_option autoImplicit false

namespace Dhas.Analysis

open Dhas.Library Dhas.Program Dhas.Model
open Dhas.Model.Irrigation

/-- While the last command placed is a valve-on command, a follow-up is scheduled. -/
def FollowUp (s : Irrigation) : Prop :=
  s.LastOn → s.node.mNextSequenceTime ≠ TIMETMAX

instance (s : Irrigation) : Decidable (FollowUp s) := inferInstanceAs (Decidable (_ → _))

/-- What a call must meet. With a valve on, a new sequence must have an item, and the
all-off command must find room on the send queue. The clock must not read the value that
stands for "never". -/
def FollowUpKept (s : Irrigation) : Call → Prop
  | .sequence_callback seq now => s.LastOn → decodeSequence seq ≠ [] ∧ now ≠ TIMETMAX
  | .valveOff_callback => s.LastOn → s.sendQueue.HasRoom
  | .run t now =>
    s.node.mNextSequenceTime ≤ t →
      match s.node.mpSequence.items with
      | [] => s.LastOn → s.sendQueue.HasRoom
      | si :: _ => s.sendQueue.HasRoom ∨ s.LastOn → now + si.1 ≠ TIMETMAX
  | .sendToNode _ _ _ => True
  | .drain => True

/-- INTERNAL: after an all-off command with nothing scheduled, no valve is left on exactly
when the command was not lost.
SOURCE: SprinklersNode.cpp:131-139 -/
theorem followUp_after_allOff (s : Irrigation) (n : SprinklersNode) (ip : CString)
    (hn : n.mNextSequenceTime = TIMETMAX) :
    FollowUp (s.after (n, s.sendQueue.sendToNode ip SprinklersNode.allOff 2)) ↔
      (s.LastOn → s.sendQueue.HasRoom) := by
  have hnext : (s.after (n, s.sendQueue.sendToNode ip SprinklersNode.allOff 2)).node.mNextSequenceTime
      = TIMETMAX := hn
  have hoff : isValveOn ⟨ip, [0x60, 0x30]⟩ = false := isValveOn_allOff ip
  unfold FollowUp
  rw [hnext]
  simp only [SprinklersNode.allOff, after_sendToNode_lastOn, hoff]
  by_cases hroom : s.sendQueue.HasRoom <;> simp [hroom]

/-- INTERNAL: a `run` before its time does nothing. -/
theorem run_early (n : SprinklersNode) (q : DWNSendQueue) {t : ℤ} (now : ℤ)
    (ht : t < n.mNextSequenceTime) : n.run q t now = (n, q) := by
  unfold SprinklersNode.run
  rw [if_pos ht]

/-- INTERNAL: a due `run` with no item left queues the all-off command and schedules
nothing.
SOURCE: SprinklersNode.cpp:153-165 -/
theorem run_last (n : SprinklersNode) (q : DWNSendQueue) {t : ℤ} (now : ℤ)
    (ht : n.mNextSequenceTime ≤ t) (hi : n.mpSequence.items = []) :
    n.run q t now = ({ n with mNextSequenceTime := TIMETMAX, mCurrentSequence := [] },
      q.sendToNode n.ip SprinklersNode.allOff 2) := by
  unfold SprinklersNode.run
  rw [if_neg (not_lt.mpr ht), BoundedQueue.get_eq_none_iff.mpr hi]

/-- INTERNAL: a due `run` with an item left queues its valve-on command and schedules the
next step after the item's duration.
SOURCE: SprinklersNode.cpp:167-172 -/
theorem run_item (n : SprinklersNode) (q : DWNSendQueue) {t : ℤ} (now : ℤ)
    {si : SequenceItem} {items : List SequenceItem}
    (ht : n.mNextSequenceTime ≤ t) (hi : n.mpSequence.items = si :: items) :
    ∃ rest : MPSCRingBuffer SequenceItem, rest.items = items ∧
      n.run q t now = ({ n with mpSequence := rest, mNextSequenceTime := now + si.1 },
        q.sendToNode n.ip (SprinklersNode.valveOn si.2) 2) := by
  cases hget : n.mpSequence.get with
  | none =>
    rw [BoundedQueue.get_eq_none_iff.mp hget] at hi
    cases hi
  | some r =>
    obtain ⟨si', rest⟩ := r
    have hcons := (BoundedQueue.get_eq_some_iff.mp hget).1
    rw [hi] at hcons
    obtain ⟨rfl, hrest⟩ := List.cons_eq_cons.mp hcons
    refine ⟨rest, hrest.symm, ?_⟩
    unfold SprinklersNode.run
    rw [if_neg (not_lt.mpr ht), hget]

/-- INTERNAL: one call keeps the follow-up exactly when it meets `FollowUpKept`. -/
theorem step_followUp_iff {s s' : Irrigation} {a : Call} (hs : FollowUp s)
    (h : step s a = some s') : FollowUp s' ↔ FollowUpKept s a := by
  cases a with
  | sequence_callback seq now =>
    cases h
    unfold FollowUp
    rw [SprinklersNode.sequence_callback_next]
    show (s.LastOn → _) ↔ (s.LastOn → _)
    by_cases hd : decodeSequence seq = [] <;> simp [hd]
  | valveOff_callback =>
    cases h
    exact followUp_after_allOff s _ _ rfl
  | run t now =>
    cases h
    rcases lt_or_ge t s.node.mNextSequenceTime with ht | ht
    · rw [run_early _ _ _ ht]
      have hkeep : FollowUp (s.after (s.node, s.sendQueue)) := by
        simpa [FollowUp, LastOn, after] using hs
      exact iff_of_true hkeep fun hle => absurd ht (not_lt.mpr hle)
    · cases hi : s.node.mpSequence.items with
      | nil =>
        rw [run_last _ _ _ ht hi, followUp_after_allOff s _ _ rfl]
        simp [FollowUpKept, ht, hi]
      | cons si items =>
        obtain ⟨rest, -, hrun⟩ := run_item s.node s.sendQueue now ht hi
        rw [hrun]
        have hon : isValveOn ⟨s.node.ip, [0x61 + si.2, 0x31]⟩ = true :=
          isValveOn_valveOn s.node.ip si.2
        unfold FollowUp
        simp only [SprinklersNode.valveOn, after_sendToNode_lastOn, hon]
        by_cases hroom : s.sendQueue.HasRoom <;> simp [FollowUpKept, ht, hi, hroom, after]
  | sendToNode id data size =>
    cases h
    exact iff_of_true hs trivial
  | drain =>
    obtain ⟨r, -, rfl⟩ := Option.map_eq_some_iff.mp h
    exact iff_of_true hs trivial

/-- **The sequencer leaves no valve open, exactly under `FollowUpKept`.** From the
constructor, in every run of calls in any order, every state reached has its follow-up
scheduled if and only if every call of the run meets the condition.
SOURCE: SprinklersNode.cpp:96-188 -/
theorem followUp_scheduled_iff (ip : CString) (calls : List Call) :
    Throughout step FollowUp (init ip) calls ↔ Along step FollowUpKept (init ip) calls := by
  refine throughout_iff_along (I := FollowUp) (fun _ h => h) ?_ ?_ ?_
  · intro s a s' hs hC hstep
    exact (step_followUp_iff hs hstep).mpr hC
  · intro s a s' hs hstep hs'
    exact (step_followUp_iff hs hstep).mp hs'
  · intro hon
    simp [LastOn, init] at hon

/-- A sequence `a3` is started and its first item runs; then a sequence without a duration
arrives. -/
def malformedSequence : List Call :=
  [.sequence_callback ['a', '3'] 100, .run 100 100, .sequence_callback ['b'] 101]

/-- Valve a is on, and nothing is scheduled any more. -/
theorem malformedSequence_leaves_valve_open :
    ¬ Throughout step FollowUp (init []) malformedSequence := by
  intro h
  have hrun : run step (init []) malformedSequence =
      some ((run step (init []) malformedSequence).get (by decide)) := by simp
  exact absurd (h.last hrun) (by decide)

end Dhas.Analysis
