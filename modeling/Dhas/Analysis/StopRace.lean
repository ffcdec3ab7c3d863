import Dhas.Model.ValveStop

/-!
# Stop means stop

A stop empties the ring buffer, but `run` may have taken an item before that, and its valve-on
command then comes behind the all-off command: the valve is opened again after the user's stop,
and nothing closes it until the duration of the item is over.

This is the only way. While the all-off command of a stop is only queued when `run` holds no
item of the sequences that were started before the stop, no valve-on command of theirs comes
behind it.
-/

set_option autoImplicit false

namespace Dhas.Analysis.StopRace

open Dhas.Library Dhas.Program Dhas.Model
open Dhas.Model.ValveStop

/-- A valve-on command is of a sequence that was started after all stops before it. -/
def AfterStops (before : List Placed) (e : Placed) : Prop :=
  ∀ valve g, e = .valveOn valve g → ∀ h, .stop h ∈ before → h < g

/-- No valve-on command of a sequence that a stop has ended comes behind the all-off command
of the stop. -/
def StopMeansStop (s : ValveStop) : Prop := Always AfterStops s.placed

/-- When a stop queues its all-off command, `run` holds no item of the sequences that were
started before the stop. -/
def NothingHeld (s : ValveStop) (a : Act) : Prop :=
  a = .queueOff → ∀ h ∈ s.stopping, ∀ g ∈ s.held, h < g

instance (s : ValveStop) (a : Act) : Decidable (NothingHeld s a) :=
  inferInstanceAs (Decidable (_ → _))

/-- What keeps the valve-on commands behind the stops apart from the sequences before them. -/
structure Apart (s : ValveStop) : Prop where
  placed : StopMeansStop s
  held : ∀ g ∈ s.held, ∀ h, .stop h ∈ s.placed → h < g
  /-- the items of the ring buffer are those of the last sequence -/
  queued : s.node.mpSequence.items ≠ [] → ∀ h, .stop h ∈ s.placed → h < s.sequences
  stopping : ∀ h ∈ s.stopping, s.node.mpSequence.items ≠ [] → h < s.sequences
  pending : ∀ h, s.offPc = .reset h ∨ s.offPc = .drained h → h ≤ s.sequences
  stopped : ∀ h, .stop h ∈ s.placed → h ≤ s.sequences

/-- INTERNAL: a stop that is being queued has emptied the ring buffer before. -/
theorem offPc_of_stopping {s : ValveStop} {h : ℕ} (hh : h ∈ s.stopping) :
    s.offPc = .drained h := by
  rw [stopping] at hh
  split at hh
  case h_1 k hoff =>
    cases hh
    exact hoff
  case h_2 => cases hh

/-- INTERNAL: a stop is in the history after a command when it was there or is the command. -/
theorem mem_record {s : ValveStop} {p : Placed} {h : ℕ} (hmem : .stop h ∈ s.record p) :
    .stop h ∈ s.placed ∨ p = .stop h := by
  unfold record at hmem
  by_cases hroom : s.sendQueue.HasRoom
  · rw [if_pos hroom, List.mem_append, List.mem_singleton] at hmem
    exact hmem.imp_right Eq.symm
  · rw [if_neg hroom] at hmem
    exact Or.inl hmem

/-- INTERNAL: a command that is not a valve-on command of an ended sequence. -/
theorem always_record {s : ValveStop} (h : StopMeansStop s) {p : Placed}
    (hp : AfterStops s.placed p) : Always AfterStops (s.record p) := by
  unfold record
  by_cases hroom : s.sendQueue.HasRoom
  · rw [if_pos hroom, always_append_singleton]
    exact ⟨h, hp⟩
  · rw [if_neg hroom]
    exact h

/-- INTERNAL: `run` queues a command, and holds no item behind it.
SOURCE: SprinklersNode.cpp:155-173 -/
theorem apart_place {s : ValveStop} (hs : Apart s) {p : Placed} (hp : ∀ k, p ≠ .stop k)
    (hafter : AfterStops s.placed p) (command : List UInt8) {pc : RunPc}
    (hpc : ∀ g, g ∉ held { s with runPc := pc }) :
    Apart { s.place command p with runPc := pc } := by
  obtain ⟨hplaced, hheld, hqueued, hstopping, hpending, hstopped⟩ := hs
  have hkeep : ∀ k, .stop k ∈ s.record p → .stop k ∈ s.placed :=
    fun k hk => (mem_record hk).resolve_right (hp k)
  refine ⟨always_record hplaced hafter, fun g hg => ?_, fun hne k hk => ?_, hstopping, hpending,
    fun k hk => ?_⟩
  · exact absurd hg (hpc g)
  · exact hqueued hne k (hkeep k hk)
  · exact hstopped k (hkeep k hk)

/-- INTERNAL: an item that is taken is of the last sequence.
SOURCE: SprinklersNode.cpp:152-153 -/
theorem apart_take {s s' : ValveStop} (hs : Apart s) (h : step s .take = some s') : Apart s' := by
  obtain ⟨hplaced, hheld, hqueued, hstopping, hpending, hstopped⟩ := hs
  simp only [step] at h
  split at h
  case h_2 => cases h
  case h_1 hdue =>
    split at h
    case h_1 hget =>
      cases h
      exact ⟨hplaced, fun g hg => (by cases hg), hqueued, hstopping, hpending, hstopped⟩
    case h_2 si rest hget =>
      cases h
      have hitems : s.node.mpSequence.items = si :: rest.items :=
        (BoundedQueue.get_eq_some_iff.mp hget).1
      have hne : s.node.mpSequence.items ≠ [] := by
        rw [hitems]
        exact List.cons_ne_nil _ _
      refine ⟨hplaced, fun g hg => ?_, fun _ => hqueued hne, fun k hk _ => hstopping k hk hne,
        hpending, hstopped⟩
      cases hg
      exact hqueued hne

/-- INTERNAL: queuing what `run` found.
SOURCE: SprinklersNode.cpp:155-173 -/
theorem apart_queue {s s' : ValveStop} (hs : Apart s) (h : step s .queue = some s') :
    Apart s' := by
  simp only [step] at h
  split at h
  case h_1 si g hscheduled =>
    cases h
    have hafter : AfterStops s.placed (.valveOn si.2 g) := by
      intro valve g' heq
      cases heq
      apply hs.held g
      rw [held, hscheduled]
      rfl
    exact apart_place hs (by simp) hafter (SprinklersNode.valveOn si.2) (fun g hg => by cases hg)
  case h_2 =>
    cases h
    have hafter : AfterStops s.placed .complete := by
      intro valve g heq
      cases heq
    exact apart_place hs (by simp) hafter SprinklersNode.allOff (fun g hg => by cases hg)
  case h_3 => cases h

/-- INTERNAL: the all-off command of a stop, when `run` holds none of the old items.
SOURCE: SprinklersNode.cpp:135-138 -/
theorem apart_queueOff {s s' : ValveStop} (hs : Apart s) (hC : NothingHeld s .queueOff)
    (h : step s .queueOff = some s') : Apart s' := by
  obtain ⟨hplaced, hheld, hqueued, hstopping, hpending, hstopped⟩ := hs
  simp only [step] at h
  split at h
  case h_2 => cases h
  case h_1 k hoff =>
    have hk : k ∈ s.stopping := by
      rw [stopping, hoff]
      rfl
    cases h
    have hafter : AfterStops s.placed (.stop k) := by
      intro valve g heq
      cases heq
    refine ⟨always_record hplaced hafter, ?_, ?_, ?_, ?_, ?_⟩
    · intro g hg j hj
      rcases mem_record hj with hmem | heq
      · exact hheld g hg j hmem
      · cases heq
        exact hC rfl k hk g hg
    · intro hne j hj
      rcases mem_record hj with hmem | heq
      · exact hqueued hne j hmem
      · cases heq
        exact hstopping k hk hne
    · intro j hj
      cases hj
    · rintro j (hj | hj) <;> cases hj
    · intro j hj
      rcases mem_record hj with hmem | heq
      · exact hstopped j hmem
      · cases heq
        exact hpending k (Or.inr hoff)

/-- INTERNAL: a new sequence has a number above all stops.
SOURCE: SprinklersNode.cpp:96-110 -/
theorem apart_sequence_callback {s s' : ValveStop} {seq : CString} {now : ℤ} (hs : Apart s)
    (h : step s (.sequence_callback seq now) = some s') : Apart s' := by
  obtain ⟨hplaced, hheld, hqueued, hstopping, hpending, hstopped⟩ := hs
  cases h
  refine ⟨hplaced, hheld, fun _ k hk => ?_, fun k hk _ => ?_, fun k hk => ?_, fun k hk => ?_⟩
  · exact Nat.lt_succ_of_le (hstopped k hk)
  · exact Nat.lt_succ_of_le (hpending k (Or.inr (offPc_of_stopping hk)))
  · exact Nat.le_succ_of_le (hpending k hk)
  · exact Nat.le_succ_of_le (hstopped k hk)

/-- INTERNAL: a step that queues nothing, leaves the stop and the ring buffer alone and takes no
item. -/
theorem Apart.frame {s s' : ValveStop} (hs : Apart s) (hplaced : s'.placed = s.placed)
    (hsequences : s'.sequences = s.sequences) (hoff : s'.offPc = s.offPc)
    (hitems : s'.node.mpSequence.items = s.node.mpSequence.items)
    (hheld : ∀ g ∈ s'.held, g ∈ s.held) : Apart s' := by
  have hstopping : s'.stopping = s.stopping := by
    unfold ValveStop.stopping
    rw [hoff]
  constructor
  · unfold StopMeansStop
    rw [hplaced]
    exact hs.placed
  · intro g hg
    rw [hplaced]
    exact hs.held g (hheld g hg)
  · rw [hitems, hplaced, hsequences]
    exact hs.queued
  · rw [hstopping, hitems, hsequences]
    exact hs.stopping
  · rw [hoff, hsequences]
    exact hs.pending
  · rw [hplaced, hsequences]
    exact hs.stopped

/-- INTERNAL: a stop that begins is one of all sequences so far.
SOURCE: SprinklersNode.cpp:175-178 -/
theorem apart_reset {s s' : ValveStop} (hs : Apart s) (h : step s .reset = some s') : Apart s' := by
  obtain ⟨hplaced, hheld, hqueued, hstopping, hpending, hstopped⟩ := hs
  simp only [step] at h
  split at h
  case h_2 => cases h
  case h_1 =>
    cases h
    refine ⟨hplaced, hheld, hqueued, fun k hk => (by cases hk), ?_, hstopped⟩
    rintro k (hk | hk) <;> cases hk
    exact Nat.le_refl _

/-- INTERNAL: a stop that empties the ring buffer leaves no item of the old sequences in it.
SOURCE: SprinklersNode.cpp:179-180 -/
theorem apart_drain {s s' : ValveStop} (hs : Apart s) (h : step s .drain = some s') : Apart s' := by
  obtain ⟨hplaced, hheld, hqueued, hstopping, hpending, hstopped⟩ := hs
  simp only [step] at h
  split at h
  case h_2 => cases h
  case h_1 k hreset =>
    cases h
    refine ⟨hplaced, hheld, fun hne => absurd rfl hne, fun _ _ hne => absurd rfl hne, ?_, hstopped⟩
    rintro j (hj | hj) <;> cases hj
    exact hpending k (Or.inl hreset)

/-- INTERNAL: every step that meets the condition keeps the sequences apart. -/
theorem apart_step {s s' : ValveStop} {a : Act} (hs : Apart s) (hC : NothingHeld s a)
    (h : step s a = some s') : Apart s' := by
  cases a with
  | take => exact apart_take hs h
  | queue => exact apart_queue hs h
  | reset => exact apart_reset hs h
  | drain => exact apart_drain hs h
  | queueOff => exact apart_queueOff hs hC h
  | sequence_callback seq now => exact apart_sequence_callback hs h
  | compare t =>
    simp only [step] at h
    split at h
    case h_2 => cases h
    case h_1 =>
      cases h
      refine hs.frame rfl rfl rfl rfl fun g hg => ?_
      by_cases ht : t < s.node.mNextSequenceTime
      · rw [if_pos ht] at hg
        cases hg
      · rw [if_neg ht] at hg
        cases hg
  | setNext now =>
    simp only [step] at h
    split at h
    case h_2 => cases h
    case h_1 si g htaken =>
      cases h
      refine hs.frame rfl rfl rfl rfl fun g' hg => ?_
      cases hg
      rw [held, htaken]
      rfl
  | forget =>
    simp only [step] at h
    split at h
    case h_2 => cases h
    case h_1 =>
      cases h
      refine hs.frame rfl rfl rfl rfl fun g hg => ?_
      cases hg
  | sendToNode id data size =>
    cases h
    exact hs.frame rfl rfl rfl rfl fun g hg => hg
  | get =>
    simp only [step] at h
    split at h
    case h_2 => cases h
    case h_1 =>
      obtain ⟨r, -, rfl⟩ := Option.map_eq_some_iff.mp h
      exact hs.frame rfl rfl rfl rfl fun g hg => hg

/-- INTERNAL: at first the thread and the commands are apart. -/
theorem apart_init (ip : CString) : Apart (init ip) where
  placed := always_nil
  held := fun g _ k hk => by cases hk
  queued := fun h => absurd rfl h
  stopping := fun k hk => by cases hk
  pending := fun k hk => by rcases hk with hk | hk <;> cases hk
  stopped := fun k hk => by cases hk

/-- **Stop means stop, while `run` holds no item.** In every run, with any interleaving of the
steps of `run` and of `valveOff_callback`: when every all-off command of a stop is queued at a
time when `run` holds no item of the sequences before the stop, no valve-on command of these
sequences is queued behind it.
SOURCE: SprinklersNode.cpp:131-181 -/
theorem stop_means_stop (ip : CString) (acts : List Act)
    (hclean : Along step NothingHeld (init ip) acts) :
    Throughout step StopMeansStop (init ip) acts :=
  throughout_of_along (fun _ hs => hs.placed) (fun _ _ _ hs hC h => apart_step hs hC h)
    (apart_init ip) hclean

/-- INTERNAL: **the condition is needed**: when `run` is about to queue an item as a stop
queues its all-off command, and the send queue has room for both, the valve is opened behind the
stop.
SOURCE: SprinklersNode.cpp:131-139, 168-172 -/
theorem reopened {s : ValveStop} {si : SequenceItem} {g h : ℕ} (hrun : s.runPc = .scheduled si g)
    (hoff : s.offPc = .drained h) (hle : g ≤ h)
    (hroom : s.sendQueue.items.length + 1 < s.sendQueue.capacity) :
    ∃ s', run step s [.queueOff, .queue] = some s' ∧ ¬ StopMeansStop s' := by
  obtain ⟨n, q, runPc, offPc, sequences, placed⟩ := s
  cases hrun
  cases hoff
  have hroom₁ : q.HasRoom := Nat.lt_of_succ_lt hroom
  have hitems : (q.sendToNode n.ip SprinklersNode.allOff 2).items = _ :=
    BoundedQueue.items_put_of_hasRoom hroom₁ _
  have hroom₂ : (q.sendToNode n.ip SprinklersNode.allOff 2).HasRoom := by
    have hcapacity : (q.sendToNode n.ip SprinklersNode.allOff 2).capacity = q.capacity :=
      BoundedQueue.capacity_put q _
    unfold BoundedQueue.HasRoom
    rw [hitems, hcapacity, List.length_append]
    exact hroom
  refine ⟨_, rfl, fun hstop => ?_⟩
  have hplaced : Always AfterStops (placed ++ [.stop h] ++ [.valveOn si.2 g]) := by
    simpa only [StopMeansStop, place, record, hroom₁, hroom₂, if_true] using hstop
  have hlt := (always_append_singleton _).mp hplaced |>.2 si.2 g rfl h
    (List.mem_append_right _ (List.mem_singleton_self _))
  omega

/-- A sequence `a3` runs, and a stop comes between two calls of `run`. -/
def quietStop : List Act :=
  [.sequence_callback ['a', '3'] 100, .compare 100, .take, .setNext 100, .queue,
    .reset, .drain, .queueOff, .compare 200]

/-- No valve is opened behind the stop. -/
theorem stop_means_stop_quietStop : Throughout step StopMeansStop (init []) quietStop :=
  stop_means_stop [] quietStop (by decide)

/-- The sequence `a3` is stopped after `run` took its item and before the command was queued. -/
def stopInRun : List Act :=
  [.sequence_callback ['a', '3'] 100, .compare 100, .take, .reset, .drain, .queueOff,
    .setNext 100, .queue]

/-- Valve a is opened behind the stop. -/
theorem stopInRun_reopens :
    (run step (init []) stopInRun).map ValveStop.placed = some [.stop 1, .valveOn 0 1] ∧
      ¬ Throughout step StopMeansStop (init []) stopInRun := by
  have hplaced : (run step (init []) stopInRun).map ValveStop.placed =
      some [.stop 1, .valveOn 0 1] := by decide
  refine ⟨hplaced, fun h => ?_⟩
  obtain ⟨s, hrun, hs⟩ := Option.map_eq_some_iff.mp hplaced
  have hstop : Always AfterStops [.stop 1, .valveOn 0 1] := hs ▸ h.last hrun
  have hlt := hstop [.stop 1] (.valveOn 0 1) [] rfl 0 1 rfl 1 List.mem_cons_self
  omega

end Dhas.Analysis.StopRace
