import Dhas.Analysis.SprinklerFollowUp
import Dhas.Model.SequenceCalls

/-!
# A sequence runs as written

A node on which a sequence was started is a sequencer of the library whose due time is
`mNextSequenceTime`: `run` on the node and `tick` on the sequencer go along with each other,
and `run` queues the command of the action. The library says at which calls a sequencer acts.

The idle node keeps the largest `time_t` as its due time. A call that reads this very clock is
not early on it, so it queues one more all-off command. This is the only way in which the node
is not the sequencer, and the condition on the calls behind the sequence is there for it.
-/

set_option autoImplicit false

namespace Dhas.Analysis.SequenceTiming

open Dhas.Library Dhas.Program Dhas.Model
open Dhas.Model.SequenceCalls

/-- The node does what the sequencer does. -/
structure Simulates (n : SprinklersNode) (s : Sequencer SequenceItem) : Prop where
  next : n.mNextSequenceTime = s.due.getD TIMETMAX
  items : n.mpSequence.items = s.items

/-- INTERNAL: one call. An idle node must not read the largest clock value.
SOURCE: SprinklersNode.cpp:148-173 -/
theorem run_simulates {n : SprinklersNode} {s : Sequencer SequenceItem} (h : Simulates n s)
    {c : RunCall} (hidle : s.due = none → c.t < TIMETMAX) :
    Simulates (n.run c.sendQueue c.t c.t).1 (s.tick duration c.t).1 ∧
      (n.run c.sendQueue c.t c.t).1.ip = n.ip ∧
      (n.run c.sendQueue c.t c.t).2 = queueCommand n.ip c.sendQueue (s.tick duration c.t).2 := by
  obtain ⟨due, sis⟩ := s
  have hnext : n.mNextSequenceTime = due.getD TIMETMAX := h.next
  have hitems : n.mpSequence.items = sis := h.items
  cases due with
  | none =>
    have hearly : c.t < n.mNextSequenceTime := by
      rw [hnext]
      exact hidle rfl
    rw [run_early n c.sendQueue c.t hearly]
    exact ⟨h, rfl, rfl⟩
  | some due =>
    have hdue : n.mNextSequenceTime = due := hnext
    by_cases hearly : c.t < due
    · rw [run_early n c.sendQueue c.t (hdue ▸ hearly), Sequencer.tick_early hearly]
      exact ⟨h, rfl, rfl⟩
    · have hlate : due ≤ c.t := not_lt.mp hearly
      have hle : n.mNextSequenceTime ≤ c.t := hdue ▸ hlate
      cases sis with
      | nil =>
        rw [run_last n c.sendQueue c.t hle hitems, Sequencer.tick_finish hlate]
        exact ⟨⟨rfl, hitems⟩, rfl, rfl⟩
      | cons si sis =>
        obtain ⟨rest, hrest, hrun⟩ := run_item n c.sendQueue c.t hle hitems
        rw [hrun, Sequencer.tick_item hlate]
        exact ⟨⟨rfl, hrest⟩, rfl, rfl⟩

/-- INTERNAL: a list of calls.
SOURCE: SprinklersNode.cpp:148-173 -/
theorem leftQueues_simulates {n : SprinklersNode} {s : Sequencer SequenceItem}
    (h : Simulates n s) {calls : List RunCall}
    (hidle : s.IdleCalls duration (· < TIMETMAX) (calls.map RunCall.t)) :
    leftQueues n calls =
      (calls.zip (s.ticks duration (calls.map RunCall.t))).map fun p =>
        queueCommand n.ip p.1.sendQueue p.2 := by
  induction calls generalizing n s with
  | nil => rfl
  | cons c calls ih =>
    obtain ⟨hnone, hrest⟩ := hidle
    obtain ⟨hstep, hip, hqueue⟩ := run_simulates h hnone
    have htail := ih hstep hrest
    rw [hip] at htail
    rw [leftQueues, List.map_cons, Sequencer.ticks, List.zip_cons_cons, List.map_cons]
    exact congrArg₂ List.cons hqueue htail

/-- INTERNAL: `sequence_callback` starts a sequencer on the items that it decodes.
SOURCE: SprinklersNode.cpp:96-110, 175-188 -/
theorem sequence_callback_simulates (n : SprinklersNode) (now : ℤ) (seq : CString)
    (hfits : (items seq).length ≤ n.mpSequence.capacity) :
    Simulates (n.sequence_callback now seq).1
      ⟨if items seq = [] then none else some now, items seq⟩ := by
  constructor
  · have hnil : items seq = [] ↔ decodeSequence seq = [] := List.map_eq_nil_iff
    rw [SprinklersNode.sequence_callback_next]
    by_cases hd : decodeSequence seq = []
    · rw [if_pos hd, if_pos (hnil.mpr hd)]
      rfl
    · rw [if_neg hd, if_neg (mt hnil.mp hd)]
      rfl
  · rw [SprinklersNode.sequence_callback_mpSequence, BoundedQueue.items_foldl_put]
    · rfl
    · show 0 + (items seq).length ≤ n.mpSequence.capacity
      omega

/-- INTERNAL: what the sequencer of a sequence does at each call, and when it is idle. -/
theorem ticks_commandAt {ts : List ℤ} {now : ℤ} {sis : List SequenceItem} {js : List ℕ}
    (h : CommandTimes ts now sis js) {P : ℤ → Prop}
    (hP : ∀ i t, ts[i]? = some t → (∀ j ∈ js, j < i) → P t) :
    Sequencer.IdleCalls duration P ⟨if sis = [] then none else some now, sis⟩ ts ∧
      ∀ i < ts.length,
        (Sequencer.ticks duration ⟨if sis = [] then none else some now, sis⟩ ts)[i]? =
          some (commandAt sis js i) := by
  cases sis with
  | nil =>
    cases h
    constructor
    · apply Sequencer.idleCalls_idle
      intro t ht
      obtain ⟨i, hi⟩ := List.mem_iff_getElem?.mp ht
      exact hP i t hi fun j hj => by cases hj
    · intro i hi
      rw [if_pos rfl, Sequencer.ticks_idle, List.getElem?_replicate, if_pos hi]
      rfl
  | cons si sis =>
    have htimeline : Sequencer.Timeline duration ts 0 now (si :: sis) js := h
    rw [if_neg (List.cons_ne_nil si sis)]
    constructor
    · exact htimeline.idleCalls hP
    · intro i hi
      exact Sequencer.ticks_getElem? htimeline (Nat.zero_le i) hi

/-- **A sequence runs as written.** Start a sequence that fits the ring buffer on any node, and
let the calls of `run` that follow be long enough: `js` are the places of the calls at which its
commands are due. Then the call at each place queues the command that comes at this place, the
valve-on commands in the order of the items and the all-off command behind them, and the other
calls queue nothing, if the calls behind the sequence read a clock before the largest `time_t`.
SOURCE: SprinklersNode.cpp:96-110, 148-188 -/
theorem sequence_runs_as_written (n : SprinklersNode) (now : ℤ) (seq : CString)
    (hfits : (items seq).length ≤ n.mpSequence.capacity) (calls : List RunCall) (js : List ℕ)
    (htimes : CommandTimes (calls.map RunCall.t) now (items seq) js)
    (hclock : ∀ i c, calls[i]? = some c → (∀ j ∈ js, j < i) → c.t < TIMETMAX)
    (i : ℕ) (c : RunCall) (hc : calls[i]? = some c) :
    (leftQueues (n.sequence_callback now seq).1 calls)[i]? =
      some (queueCommand n.ip c.sendQueue (commandAt (items seq) js i)) := by
  have hidle : ∀ i t, (calls.map RunCall.t)[i]? = some t → (∀ j ∈ js, j < i) →
      t < TIMETMAX := by
    intro i t ht hjs
    rw [List.getElem?_map, Option.map_eq_some_iff] at ht
    obtain ⟨c, hc, rfl⟩ := ht
    exact hclock i c hc hjs
  obtain ⟨hcalls, hticks⟩ := ticks_commandAt htimes hidle
  have hlt : i < (calls.map RunCall.t).length := by
    rw [List.length_map]
    exact (List.getElem?_eq_some_iff.mp hc).1
  have hip : (n.sequence_callback now seq).1.ip = n.ip :=
    SprinklersNode.foldl_addDecoded_ip _ _
  have hpair : (calls.zip (Sequencer.ticks duration
      ⟨if items seq = [] then none else some now, items seq⟩ (calls.map RunCall.t)))[i]? =
      some (c, commandAt (items seq) js i) :=
    List.getElem?_zip_eq_some.mpr ⟨hc, hticks i hlt⟩
  rw [leftQueues_simulates (sequence_callback_simulates n now seq hfits) hcalls,
    List.getElem?_map, hpair, Option.map_some, hip]

/-- The sequence `a3b4` is started at 0, and `run` is called at 0, 1, 3 and 7. -/
def promptCalls : List RunCall :=
  [⟨0, DWNSendQueue.new⟩, ⟨1, DWNSendQueue.new⟩, ⟨3, DWNSendQueue.new⟩, ⟨7, DWNSendQueue.new⟩]

/-- INTERNAL: the second call is early, the last one queues the all-off command. -/
theorem a3b4_times :
    CommandTimes (promptCalls.map RunCall.t) 0 (items ['a', '3', 'b', '4']) [0, 2, 3] := by
  have hfirst : Sequencer.FirstDue [0, 1, 3, 7] 0 0 0 0 :=
    ⟨by omega, rfl, by omega, fun i u _ hlt => absurd hlt (by omega)⟩
  have hsecond : Sequencer.FirstDue [0, 1, 3, 7] 1 3 2 3 := by
    refine ⟨by omega, rfl, by omega, fun i u hle hlt hu => ?_⟩
    obtain rfl : i = 1 := by omega
    obtain rfl := Option.some.inj hu
    omega
  have hlast : Sequencer.FirstDue [0, 1, 3, 7] 3 7 3 7 :=
    ⟨by omega, rfl, by omega, fun i u hle hlt => absurd hlt (by omega)⟩
  exact .item hfirst (.item hsecond (.finish hlast))

/-- INTERNAL: no call comes behind the all-off command. -/
theorem promptCalls_clock (i : ℕ) (c : RunCall) (hc : promptCalls[i]? = some c)
    (hjs : ∀ j ∈ [0, 2, 3], j < i) : c.t < TIMETMAX := by
  have hi := hjs 3 (by decide)
  have hlt := (List.getElem?_eq_some_iff.mp hc).1
  have hlength : promptCalls.length = 4 := rfl
  omega

/-- The second call queues nothing, the third one the second valve. -/
theorem sequence_runs_as_written_two_items :
    (leftQueues ((SprinklersNode.new []).sequence_callback 0 ['a', '3', 'b', '4']).1
        promptCalls)[1]? =
      some (queueCommand [] DWNSendQueue.new (commandAt (items ['a', '3', 'b', '4']) [0, 2, 3] 1)) ∧
    (leftQueues ((SprinklersNode.new []).sequence_callback 0 ['a', '3', 'b', '4']).1
        promptCalls)[2]? =
      some (queueCommand [] DWNSendQueue.new
        (commandAt (items ['a', '3', 'b', '4']) [0, 2, 3] 2)) :=
  ⟨sequence_runs_as_written (SprinklersNode.new []) 0 ['a', '3', 'b', '4'] (by decide) promptCalls
      [0, 2, 3] a3b4_times promptCalls_clock 1 ⟨1, DWNSendQueue.new⟩ rfl,
    sequence_runs_as_written (SprinklersNode.new []) 0 ['a', '3', 'b', '4'] (by decide) promptCalls
      [0, 2, 3] a3b4_times promptCalls_clock 2 ⟨3, DWNSendQueue.new⟩ rfl⟩

/-- The sequence `a3`, started at 0 and run at the times 0, 3 and the largest `time_t`. -/
def lateCalls : List RunCall :=
  [⟨0, DWNSendQueue.new⟩, ⟨3, DWNSendQueue.new⟩, ⟨TIMETMAX, DWNSendQueue.new⟩]

/-- INTERNAL: the second call queues the all-off command and the sequence is over. -/
theorem a3_times :
    CommandTimes (lateCalls.map RunCall.t) 0 (items ['a', '3']) [0, 1] := by
  have hfirst : Sequencer.FirstDue (lateCalls.map RunCall.t) 0 0 0 0 :=
    ⟨by omega, rfl, by omega, fun i u _ hlt => absurd hlt (by omega)⟩
  have hsecond : Sequencer.FirstDue (lateCalls.map RunCall.t) 1 3 1 3 :=
    ⟨by omega, rfl, by omega, fun i u hle hlt => absurd hlt (by omega)⟩
  exact .item hfirst (.finish hsecond)

/-- The third call comes behind the all-off command of the sequence and queues another one. -/
theorem all_off_queued_again :
    (lateCalls.map RunCall.t).Pairwise (· ≤ ·) ∧
      CommandTimes (lateCalls.map RunCall.t) 0 (items ['a', '3']) [0, 1] ∧
      commandAt (items ['a', '3']) [0, 1] 2 = none ∧
      ((leftQueues ((SprinklersNode.new []).sequence_callback 0 ['a', '3']).1
        lateCalls)[2]?.map BoundedQueue.items) = some [⟨[], SprinklersNode.allOff⟩] := by
  exact ⟨by decide, a3_times, rfl, by decide⟩

end Dhas.Analysis.SequenceTiming
