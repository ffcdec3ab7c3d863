import Dhas.Analysis.LogOrder

/-!
# The thread that writes the log rests on work

`Mysql::run` waits without looking at the ring or at `mStopping`. A document that is put on the
ring behind the last look at it, and whose notification comes before the wait, stays there until
the next one; a destructor that comes there joins a thread that nobody wakes up.
-/

set_option autoImplicit false

namespace Dhas.Analysis.LogSleep

open Dhas.Library Dhas.Program Dhas.Model
open Dhas.Model.EventLogging

variable {ℓ : Type}

/-- While the thread waits, was not notified and is not about to be, the ring is empty and the
end was not asked for. -/
def NeverRestsOnWork (s : EventLogging ℓ) : Prop :=
  s.pc = .waiting false → s.call.Notifies = false →
    s.mpMysql.mpRequests.items = [] ∧ .stopRequested ∉ s.trace

/-- The ring took a document. -/
def Accepts (x : Item) : Prop := ∃ message waiting, x = .offered message waiting ∧
  waiting < Mysql.MAXREQUESTS

/-- The ring took a document after the thread last found it empty. -/
def AcceptedSinceEmpty (trace : List Item) : Prop :=
  Since (fun _ x => Accepts x) (fun x => x ≠ .foundEmpty) trace

/-- When the thread goes to wait and no notification is on its way, the ring took nothing since
the last look at it, and the end was not asked for. -/
def WaitsForNext (s : EventLogging ℓ) : Act ℓ → Prop
  | .thread => s.pc = .locked → s.call.Notifies = false →
      ¬ AcceptedSinceEmpty s.trace ∧ .stopRequested ∉ s.trace
  | _ => True

/-- The record tells what is on the ring; while the thread empties it there may be less. -/
structure Recorded (s : EventLogging ℓ) : Prop where
  capacity : s.mpMysql.mpRequests.capacity = Mysql.MAXREQUESTS
  empty : ¬ AcceptedSinceEmpty s.trace → s.mpMysql.mpRequests.items = []
  filled : s.pc ≠ .draining → AcceptedSinceEmpty s.trace → s.mpMysql.mpRequests.items ≠ []

section Since

variable {trace : List Item}

/-- INTERNAL: what a call of `addDocument` means for the ring. -/
theorem acceptedSinceEmpty_offered {message : EventDocument} {waiting : ℕ} :
    AcceptedSinceEmpty (trace ++ [.offered message waiting]) ↔
      waiting < Mysql.MAXREQUESTS ∨ AcceptedSinceEmpty trace := by
  unfold AcceptedSinceEmpty
  rw [since_append_singleton]
  simp [Accepts]

/-- INTERNAL: nothing was accepted since a look that finds the queue empty. -/
theorem not_acceptedSinceEmpty_foundEmpty : ¬ AcceptedSinceEmpty (trace ++ [.foundEmpty]) := by
  unfold AcceptedSinceEmpty
  rw [since_append_singleton]
  simp [Accepts]

/-- INTERNAL: a request to stop accepts nothing. -/
theorem acceptedSinceEmpty_stopRequested :
    AcceptedSinceEmpty (trace ++ [.stopRequested]) ↔ AcceptedSinceEmpty trace := by
  unfold AcceptedSinceEmpty
  rw [since_append_singleton]
  simp [Accepts]

end Since

variable [DecidableEq ℓ]

/-- INTERNAL: at first the ring is empty, and nothing has happened. -/
theorem recorded_init (r : Registration ℓ) (unset : Bool) : Recorded (init r unset) where
  capacity := rfl
  empty _ := rfl
  filled _ h := absurd h not_since_nil

section Steps

variable {text : EventText} {escape : CString → CString} {logger : ℓ} {s s' : EventLogging ℓ}

omit [DecidableEq ℓ] in
/-- INTERNAL: a document is put on the ring. SOURCE: Mysql.cpp:40-47 -/
theorem Recorded.addDocument (h : Recorded s) (loop : EventLoop ℓ) (message : EventDocument) :
    Recorded ({ s with loop := loop }.addDocument text message) := by
  have hroom : s.mpMysql.mpRequests.HasRoom ↔
      s.mpMysql.mpRequests.items.length < Mysql.MAXREQUESTS := by
    unfold BoundedQueue.HasRoom
    rw [h.capacity]
  have hput : ({ s with loop := loop }.addDocument text message).mpMysql.mpRequests.items =
      if s.mpMysql.mpRequests.HasRoom then
        s.mpMysql.mpRequests.items ++ [text.stringify message]
      else s.mpMysql.mpRequests.items := BoundedQueue.items_put _ _
  refine ⟨(BoundedQueue.capacity_put _ _).trans h.capacity, fun hnone => ?_, fun hpc hsome => ?_⟩
  · have hnot : ¬ (s.mpMysql.mpRequests.items.length < Mysql.MAXREQUESTS ∨
        AcceptedSinceEmpty s.trace) := mt acceptedSinceEmpty_offered.mpr hnone
    rw [not_or] at hnot
    rw [hput, if_neg (mt hroom.mp hnot.1)]
    exact h.empty hnot.2
  · rw [hput]
    split
    · simp
    · rename_i hfull
      rcases acceptedSinceEmpty_offered.mp hsome with hlt | hsince
      · exact absurd (hroom.mpr hlt) hfull
      · exact h.filled hpc hsince

omit [DecidableEq ℓ] in
/-- INTERNAL: a step that touches neither the ring nor what is recorded of it. -/
theorem Recorded.move (h : Recorded s) (hmysql : s'.mpMysql = s.mpMysql)
    (htrace : AcceptedSinceEmpty s'.trace ↔ AcceptedSinceEmpty s.trace)
    (hpc : s'.pc ≠ .draining → s.pc ≠ .draining) : Recorded s' where
  capacity := hmysql ▸ h.capacity
  empty hnone := hmysql ▸ h.empty (mt htrace.mpr hnone)
  filled hout hsome := hmysql ▸ h.filled (hpc hout) (htrace.mp hsome)

omit [DecidableEq ℓ] in
/-- INTERNAL: the thread empties the ring and notes when it is empty. SOURCE: Mysql.cpp:90-101 -/
theorem Recorded.threadStep (h : Recorded s) (hstep : s.threadStep text escape = some s') :
    Recorded s' := by
  unfold EventLogging.threadStep at hstep
  split at hstep <;> try cases hstep
  case h_8 hpc =>
    split at hstep
    case h_1 mpMysql hunpool =>
      obtain rfl := Option.some.inj hstep
      unfold Mysql.unPoolDocument at hunpool
      split at hunpool
      case h_1 => cases hunpool
      case h_2 data requests hget =>
        obtain ⟨rfl, -⟩ := Prod.mk.inj hunpool
        obtain ⟨hitems, hcapacity⟩ := BoundedQueue.get_eq_some_iff.mp hget
        refine ⟨hcapacity.trans h.capacity, fun hnone => ?_, fun hout => absurd hpc hout⟩
        have hempty := h.empty hnone
        rw [hitems] at hempty
        cases hempty
    case h_2 mpMysql hunpool =>
      obtain rfl := Option.some.inj hstep
      unfold Mysql.unPoolDocument at hunpool
      split at hunpool
      case h_2 => cases hunpool
      case h_1 hget =>
        refine ⟨h.capacity, fun _ => BoundedQueue.get_eq_none_iff.mp hget, fun _ hsome => ?_⟩
        exact absurd hsome not_acceptedSinceEmpty_foundEmpty
  case h_7 => exact h.move rfl Iff.rfl (by simp [*])
  all_goals exact h.move rfl Iff.rfl (by simp [*])

/-- INTERNAL: the record keeps up with the ring. -/
theorem step_recorded {a : Act ℓ} (h : Recorded s)
    (hstep : step text escape logger s a = some s') : Recorded s' := by
  have hnotify : s.pc.notify_one ≠ .draining → s.pc ≠ .draining := by
    cases s.pc <;> simp [MysqlPc.notify_one]
  cases a with
  | loop a =>
    have hloop : s.loopStep text logger a = some s' := hstep
    unfold EventLogging.loopStep at hloop
    rw [Option.ite_none_left_eq_some, Option.map_eq_some_iff] at hloop
    obtain ⟨-, loop, -, rfl⟩ := hloop
    split
    case h_1 message _ => exact h.addDocument loop message
    case h_2 => exact h.move rfl Iff.rfl id
  | notify =>
    rw [step, Option.ite_none_left_eq_some] at hstep
    obtain ⟨-, hcall⟩ := hstep
    split at hcall <;> cases hcall
    · exact h.move rfl Iff.rfl hnotify
    · exact h.move rfl Iff.rfl hnotify
  | destroy =>
    rw [step, Option.ite_none_right_eq_some] at hstep
    obtain rfl := Option.some.inj hstep.2
    exact h.move rfl acceptedSinceEmpty_stopRequested id
  | join =>
    rw [step, Option.ite_none_right_eq_some] at hstep
    obtain rfl := Option.some.inj hstep.2
    exact h.move rfl Iff.rfl id
  | thread => exact h.threadStep hstep
  | wakeUp =>
    rw [step, Option.ite_none_right_eq_some] at hstep
    obtain ⟨hpc, hs⟩ := hstep
    obtain rfl := Option.some.inj hs
    exact h.move rfl Iff.rfl (by simp [hpc])

omit [DecidableEq ℓ] in
/-- INTERNAL: the thread starts to wait only from the step behind the lock.
SOURCE: Mysql.cpp:96-97 -/
theorem threadStep_waiting (hstep : s.threadStep text escape = some s')
    (hpc : s'.pc = .waiting false) : s.pc = .locked ∧ s' = { s with pc := .waiting false } := by
  unfold EventLogging.threadStep at hstep
  split at hstep <;> try cases hstep
  case h_2 =>
    dsimp only at hpc
    split at hpc <;> cases hpc
  case h_4 hlocked => exact ⟨hlocked, rfl⟩
  case h_8 hdraining =>
    split at hstep
    · obtain rfl := Option.some.inj hstep
      rw [hdraining] at hpc
      cases hpc
    · obtain rfl := Option.some.inj hstep
      cases hpc
  all_goals cases hpc

/-- INTERNAL: while the thread waits, what comes for it comes with a notification.
SOURCE: Mysql.cpp:28-52 -/
theorem stays_idle {a : Act ℓ} (h : Recorded s) (hnever : NeverRestsOnWork s)
    (ha : a ≠ .thread) (hstep : step text escape logger s a = some s') : NeverRestsOnWork s' := by
  intro hpc hcall
  cases a with
  | thread => exact absurd rfl ha
  | loop a =>
    have hloop : s.loopStep text logger a = some s' := hstep
    unfold EventLogging.loopStep at hloop
    rw [Option.ite_none_left_eq_some, Option.map_eq_some_iff] at hloop
    obtain ⟨hmain, loop, -, rfl⟩ := hloop
    split at hpc
    case h_2 hnone =>
      rw [hnone] at hcall
      exact hnever hpc hcall
    case h_1 message hlogged =>
      rw [hlogged] at hcall
      -- only a main thread that is in no call gets here
      have hnocall : s.call = .none := by
        by_contra hne
        refine hmain ⟨?_, hne⟩
        unfold loggedBy at hlogged
        split at hlogged
        · rfl
        · cases hlogged
      have hempty := (hnever hpc (by rw [hnocall]; rfl)).1
      have hroom : s.mpMysql.mpRequests.HasRoom := by
        unfold BoundedQueue.HasRoom
        rw [h.capacity, hempty]
        decide
      have hnotifying : ({ s with loop := loop }.addDocument text message).call = .notifying :=
        if_pos hroom
      rw [hnotifying] at hcall
      cases hcall
  | notify =>
    rw [step, Option.ite_none_left_eq_some] at hstep
    obtain ⟨-, hmatch⟩ := hstep
    have hnotified (pc : MysqlPc) : pc.notify_one ≠ .waiting false := by
      cases pc <;> simp [MysqlPc.notify_one]
    split at hmatch <;> cases hmatch
    · exact absurd hpc (hnotified s.pc)
    · exact absurd hpc (hnotified s.pc)
  | destroy =>
    rw [step, Option.ite_none_right_eq_some] at hstep
    obtain rfl := Option.some.inj hstep.2
    cases hcall
  | join =>
    rw [step, Option.ite_none_right_eq_some] at hstep
    obtain ⟨⟨-, hexited⟩, hs⟩ := hstep
    obtain rfl := Option.some.inj hs
    rw [hexited] at hpc
    cases hpc
  | wakeUp =>
    rw [step, Option.ite_none_right_eq_some] at hstep
    obtain rfl := Option.some.inj hstep.2
    cases hpc

end Steps

/-- **The thread never rests on a document or on the end of the program exactly in the runs in
which it goes to wait only when the ring took nothing since the last look at it and the end was not
asked for, or when a notification is still to come.**
SOURCE: Mysql.cpp:28-52, 90-101 -/
theorem neverRestsOnWork_throughout_iff (r : Registration ℓ) (text : EventText)
    (escape : CString → CString) (logger : ℓ) (unset : Bool) (acts : List (Act ℓ)) :
    Throughout (step text escape logger) NeverRestsOnWork (init r unset) acts ↔
      Along (step text escape logger) WaitsForNext (init r unset) acts := by
  refine throughout_iff_along (I := fun s => Recorded s ∧ NeverRestsOnWork s)
    (fun _ h => h.2) ?_ ?_ ⟨recorded_init r unset, fun h => MysqlPc.noConfusion h⟩
  · intro s a s' h hwaits hstep
    refine ⟨step_recorded h.1 hstep, ?_⟩
    by_cases ha : a = .thread
    · subst ha
      intro hpc hcall
      obtain ⟨hlocked, rfl⟩ := threadStep_waiting hstep hpc
      obtain ⟨hnone, hstop⟩ := hwaits hlocked hcall
      exact ⟨h.1.empty hnone, hstop⟩
    · exact stays_idle h.1 h.2 ha hstep
  · intro s a s' h hstep hnever
    cases a with
    | thread =>
      intro hlocked hcall
      have hs' : s' = { s with pc := .waiting false } := by
        have hthread : s.threadStep text escape = some s' := hstep
        unfold EventLogging.threadStep at hthread
        rw [hlocked] at hthread
        exact (Option.some.inj hthread).symm
      subst hs'
      obtain ⟨hempty, hstop⟩ := hnever rfl hcall
      refine ⟨fun hsince => ?_, hstop⟩
      exact h.1.filled (by rw [hlocked]; exact MysqlPc.noConfusion) hsince hempty
    | loop | notify | destroy | join | wakeUp => trivial

end Dhas.Analysis.LogSleep
