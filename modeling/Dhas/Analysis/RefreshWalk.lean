import Dhas.Analysis.EchoFrames
import Dhas.Library.Progress
import Dhas.Model.LinkRefresh
import Dhas.Program.InsteonModule
import Mathlib.Data.Prod.Lex

/-!
# The walk through the ALL-Link database

The dialogue of a refresh goes round through three stages for each record: a request is on
the queue, the PLM owes the record, the record is on the port. The first half of `process`,
the frames that arrive and the second half each keep the stage or lower it, in the order of
the records to come, then of these three stages, then of what is ahead of the request or of
the record.
-/

set_option autoImplicit false

namespace Dhas.Analysis

open Dhas.Library Dhas.Program Dhas.Model
open Dhas.Program.InsteonModem Dhas.Model.PlmLine Dhas.Model.LinkRefresh

/-! ## Stages -/

/-- Where the dialogue is. `toCome` are the records of the database after this one. -/
inductive Stage where
  /-- a request is on the queue, behind so many other commands -/
  | asked (before : ℕ) (toCome : List AllLinkRecord)
  /-- the request was acknowledged, and the PLM has not sent the record -/
  | owed (r : AllLinkRecord) (toCome : List AllLinkRecord)
  /-- the record is on the port, behind so many other frames -/
  | sent (before : ℕ) (r : AllLinkRecord) (toCome : List AllLinkRecord)
  /-- a request found no record -/
  | ended

namespace Stage

/-- The records that are not handed over yet. -/
def undelivered : Stage → List AllLinkRecord
  | .asked _ toCome => toCome
  | .owed r toCome | .sent _ r toCome => r :: toCome
  | .ended => []

def waits : Stage → Bool
  | .asked _ _ | .ended => false
  | .owed _ _ | .sent _ _ _ => true

def QueueOk (db : AllLinkDatabase) (queue : List IInsteonMessage) : Stage → Prop
  | .asked before toCome => ∃ pre first post, queue = pre ++ allLinkDatabaseMessage first :: post ∧
      pre.length = before ∧ (∀ cmd ∈ pre ++ post, DirectCommand cmd) ∧ db.asked first = toCome
  | .owed _ _ | .sent _ _ _ | .ended => ∀ cmd ∈ queue, DirectCommand cmd

def UnreadOk (unread : List UnsolicitedFrame) : Stage → Prop
  | .sent before r _ => ∃ early late : List OtherFrame,
      unread = early.map (·.val) ++ r.frame :: late.map (·.val) ∧ early.length = before
  | .asked _ _ | .owed _ _ | .ended => ∃ others : List OtherFrame, unread = others.map (·.val)

def DatabaseOk (db : AllLinkDatabase) : Stage → Prop
  | .asked _ _ => db.owed = none ∧ db.finished = false
  | .owed r toCome => db.owed = some r ∧ db.remaining = toCome ∧ db.finished = false
  | .sent _ _ toCome => db.owed = none ∧ db.remaining = toCome ∧ db.finished = false
  | .ended => db.owed = none ∧ db.finished = true

def rank : Stage → ℕ ×ₗ ℕ ×ₗ ℕ
  | .asked before toCome => toLex (toCome.length, toLex (2, before))
  | .owed _ toCome => toLex (toCome.length + 1, toLex (1, 0))
  | .sent before _ toCome => toLex (toCome.length + 1, toLex (0, before))
  | .ended => toLex (0, toLex (0, 0))

def Lower (y x : Stage) : Prop := y.rank < x.rank

instance : IsTrans Stage Lower := ⟨fun _ _ _ hzy hyx => lt_trans hzy hyx⟩

/-- INTERNAL: no dialogue goes down for ever. -/
theorem lower_wellFounded : WellFounded Lower := InvImage.wf rank wellFounded_lt

/-- INTERNAL: a stage is lower when its rank is. -/
@[simp] theorem lower_iff (y x : Stage) : Lower y x ↔ y.rank < x.rank := Iff.rfl

/-- INTERNAL: nothing is lower than the end. -/
theorem not_lower_ended (y : Stage) : ¬ y.Lower .ended := by
  cases y <;> simp [rank, Prod.Lex.toLex_le_toLex]
  omega

/-- INTERNAL: a lower stage is lower than what the next one came from. -/
theorem Lower.trans_same {x y z : Stage} (hzy : z.Lower y) (hyx : y = x ∨ y.Lower x) :
    z.Lower x := by
  rcases hyx with rfl | hyx
  · exact hzy
  · exact lt_trans hzy hyx

end Stage

/-- What was handed over as a record. -/
def recordBuffer : InsteonEvent → Option FrameBuffer
  | .allLinkRecord buf => some buf
  | .enqueued _ | .wrote _ _ | .messageSent _ _ | .message _ _ | .registered _ | .cleared => none

def recordBuffers (trace : List InsteonEvent) : List FrameBuffer := trace.filterMap recordBuffer

/-- The dialogue is in that stage, and since it began, with `base` handed over before, all the
records ahead of it were handed over in their order. -/
structure At {σ : Type} (base : List FrameBuffer) (x : Stage) (m : InsteonModem σ)
    (unread : List UnsolicitedFrame) (db : AllLinkDatabase) : Prop where
  delivered : ∃ done, db.records = done ++ x.undelivered ∧
    recordBuffers m.trace = base ++ done.map (·.frame.buffer)
  waiting : m.mWaitingForResponse = x.waits
  queue : x.QueueOk db m.mInsteonCommandQueue
  unread : x.UnreadOk unread
  database : x.DatabaseOk db

section Halves

variable {σ : Type} {H : DirectHandler σ} {base : List FrameBuffer} {x : Stage}
  {m m' : InsteonModem σ} {unread : List UnsolicitedFrame} {db : AllLinkDatabase}

/-- INTERNAL: commands to devices are queued behind the request. -/
theorem Stage.QueueOk.append {queue cmds : List IInsteonMessage} (h : x.QueueOk db queue)
    (hcmds : ∀ cmd ∈ cmds, DirectCommand cmd) : x.QueueOk db (queue ++ cmds) := by
  cases x with
  | asked before toCome =>
    obtain ⟨pre, first, post, rfl, hpre, hdirect, hasked⟩ := h
    refine ⟨pre, first, post ++ cmds, by simp, hpre, fun cmd hcmd => ?_, hasked⟩
    rw [← List.append_assoc] at hcmd
    exact (List.mem_append.mp hcmd).elim (hdirect cmd) (hcmds cmd)
  | owed | sent | ended =>
    exact fun cmd hcmd => (List.mem_append.mp hcmd).elim (h cmd) (hcmds cmd)

/-- INTERNAL: commands of a handler or of another caller, and what is not a record. -/
theorem At.extend (h : At base x m unread db) (cmds : List IInsteonMessage)
    (hcmds : ∀ cmd ∈ cmds, DirectCommand cmd)
    (hqueue : m'.mInsteonCommandQueue = m.mInsteonCommandQueue ++ cmds)
    (hwait : m'.mWaitingForResponse = m.mWaitingForResponse)
    (htrace : recordBuffers m'.trace = recordBuffers m.trace) : At base x m' unread db where
  delivered := by
    rw [htrace]
    exact h.delivered
  waiting := hwait.trans h.waiting
  queue := by
    rw [hqueue]
    exact h.queue.append hcmds
  unread := h.unread
  database := h.database

/-- INTERNAL: what leaves the queue, the wait and the records alone. -/
theorem At.unchanged (h : At base x m unread db)
    (hqueue : m'.mInsteonCommandQueue = m.mInsteonCommandQueue)
    (hwait : m'.mWaitingForResponse = m.mWaitingForResponse)
    (htrace : recordBuffers m'.trace = recordBuffers m.trace) : At base x m' unread db :=
  h.extend [] (by simp) (hqueue.trans (List.append_nil _).symm) hwait htrace

/-- INTERNAL: the records of two traces, one after the other. -/
@[simp] theorem recordBuffers_append (trace events : List InsteonEvent) :
    recordBuffers (trace ++ events) = recordBuffers trace ++ recordBuffers events :=
  List.filterMap_append

/-- INTERNAL: what is queued brings no record. -/
@[simp] theorem recordBuffers_enqueued (cmds : List IInsteonMessage) :
    recordBuffers (cmds.map .enqueued) = [] := by
  simp [recordBuffers, List.filterMap_map, Function.comp_def, recordBuffer]

/-! ### The first half -/

/-- INTERNAL: a command to a device is no request for a record. -/
theorem directCommand_not_request {cmd : IInsteonMessage} (h : DirectCommand cmd) :
    cmd.getMessageID ≠ 0x69 ∧ cmd.getMessageID ≠ 0x6A :=
  ⟨fun hid => h (IInsteonMessage.allLink_waits (.inl hid)),
    fun hid => h (IInsteonMessage.allLink_waits (.inr hid))⟩

/-- INTERNAL: a command to a device leaves the dialogue alone. -/
theorem answer_direct {cmd : IInsteonMessage} (h : DirectCommand cmd) (ack : Bool) :
    db.answer cmd ack = (ack, db) := by
  obtain ⟨hfirst, hnext⟩ := directCommand_not_request h
  simp only [AllLinkDatabase.answer, if_neg hfirst, if_neg hnext]

/-- INTERNAL: a request is answered by the database, whatever the PLM is told. -/
theorem answer_request (first ack : Bool) :
    db.answer (allLinkDatabaseMessage first) ack = db.request first := by
  cases first <;> rfl

/-- INTERNAL: a written command leaves the queue, the handler may put others on it, and
nothing is handed over as a record. SOURCE: InsteonModem.cpp:252-283 -/
theorem afterEcho_effect (cmd : IInsteonMessage) (ack : Bool) (now : ℤ)
    (reads : List ReadResult) :
    ∃ cmds m', afterEcho H.toIInsteonMessageHandler m cmd ack now reads = m' ∧
      (∀ c ∈ cmds, DirectCommand c) ∧
      m'.mInsteonCommandQueue = m.mInsteonCommandQueue.tail ++ cmds ∧
      recordBuffers m'.trace = recordBuffers m.trace ∧
      (m'.mWaitingForResponse = true ↔
        (ack = true ∧ cmd.getDestination = 0 ∧ cmd.needAck = true) ∨
          m.mWaitingForResponse = true) := by
  cases ack with
  | false =>
    refine ⟨[], _, rfl, by simp, by simp [afterEcho], ?_, by simp [afterEcho]⟩
    simp [afterEcho, recordBuffers, recordBuffer]
  | true =>
    refine ⟨_, _, rfl, H.sent_direct now cmd.getDestination cmd m.handler, ?_, ?_, ?_⟩
    · simp [afterEcho, onAcknowledged_queue]
    · rw [afterEcho, if_pos rfl, onAcknowledged_trace, List.append_cons, recordBuffers_append,
        recordBuffers_enqueued]
      simp [recordBuffers, recordBuffer]
    · simp [afterEcho, onAcknowledged_waiting]

/-- INTERNAL: a command that is no request brings what is behind it nearer. -/
theorem At.send_direct {cmd : IInsteonMessage} {rest : List IInsteonMessage}
    (h : At base x m [] db) (hq : m.mInsteonCommandQueue = cmd :: rest)
    (hwait : m.mWaitingForResponse = false) (hcmd : DirectCommand cmd) (ack : Bool) (now : ℤ)
    (reads : List ReadResult) :
    ∃ y, At base y (afterEcho H.toIInsteonMessageHandler m cmd ack now reads) [] db ∧
      (y = x ∧ x = .ended ∨ y.Lower x) := by
  obtain ⟨cmds, m', heq, hcmds, hqueue, htrace, hw⟩ :=
    afterEcho_effect (H := H) (m := m) cmd ack now reads
  rw [heq]
  have hwait' : m'.mWaitingForResponse = false := by
    rw [← Bool.not_eq_true, hw, hwait]
    rintro (⟨-, hmodem⟩ | hfalse)
    · exact hcmd hmodem
    · cases hfalse
  rw [hq, List.tail_cons] at hqueue
  have hx := h.queue
  have hw := h.waiting
  rw [hq] at hx
  rw [hwait] at hw
  cases x with
  | owed | sent => cases hw
  | ended =>
    refine ⟨.ended, ⟨?_, hwait', ?_, h.unread, h.database⟩, .inl ⟨rfl, rfl⟩⟩
    · rw [htrace]
      exact h.delivered
    · rw [hqueue]
      have hrest : Stage.ended.QueueOk db rest := fun c hc => hx c (List.mem_cons_of_mem cmd hc)
      exact hrest.append hcmds
  | asked before toCome =>
    obtain ⟨pre, first, post, heq', rfl, hdirect, hasked⟩ := hx
    cases pre with
    | nil =>
      obtain ⟨rfl, -⟩ := List.cons.inj heq'
      exact absurd hcmd (by cases first <;> decide)
    | cons c pre =>
      obtain ⟨rfl, rfl⟩ := List.cons.inj heq'
      refine ⟨.asked pre.length toCome, ⟨?_, hwait', ?_, h.unread, h.database⟩, .inr ?_⟩
      · rw [htrace]
        exact h.delivered
      · rw [hqueue]
        have hrest : (Stage.asked pre.length toCome).QueueOk db
            (pre ++ allLinkDatabaseMessage first :: post) :=
          ⟨pre, first, post, rfl, rfl, fun c hc => hdirect c (List.mem_cons_of_mem _ hc), hasked⟩
        exact hrest.append hcmds
      · simp [Stage.rank, Prod.Lex.toLex_lt_toLex]

/-- INTERNAL: a request is answered with the next record, or ends the dialogue.
SOURCE: InsteonModem.cpp:277-280 -/
theorem At.send_request {toCome : List AllLinkRecord} (h : At base (.asked 0 toCome) m [] db)
    {first : Bool} (hq : m.mInsteonCommandQueue.head? = some (allLinkDatabaseMessage first))
    (now : ℤ) (reads : List ReadResult) :
    ∃ y, At base y (afterEcho H.toIInsteonMessageHandler m (allLinkDatabaseMessage first)
        (db.request first).1 now reads) [] (db.request first).2 ∧ y.Lower (.asked 0 toCome) := by
  obtain ⟨cmds, m', heq, hcmds, hqueue, htrace, hw⟩ := afterEcho_effect (H := H) (m := m)
    (allLinkDatabaseMessage first) (db.request first).1 now reads
  rw [heq]
  obtain ⟨pre, first', post, hq', hpre, hdirect, hasked⟩ := h.queue
  obtain rfl := List.length_eq_zero_iff.mp hpre
  rw [hq'] at hq hqueue
  obtain rfl : first' = first := by
    have hcmd : allLinkDatabaseMessage first' = allLinkDatabaseMessage first := Option.some.inj hq
    cases first' <;> cases first <;> first | rfl | exact absurd hcmd (by decide)
  have hwait : m.mWaitingForResponse = false := h.waiting
  have hwaits : (allLinkDatabaseMessage first').getDestination = 0 ∧
      (allLinkDatabaseMessage first').needAck = true := ⟨rfl, rfl⟩
  simp only [hwait, hwaits, Bool.false_eq_true, or_false, and_true] at hw
  obtain ⟨done, hdone, hbuffers⟩ := h.delivered
  have hrest : ∀ c ∈ post ++ cmds, DirectCommand c := fun c hc =>
    (List.mem_append.mp hc).elim (fun hc => hdirect c hc) (hcmds c)
  unfold AllLinkDatabase.request at hw ⊢
  rw [hasked] at hw ⊢
  cases toCome with
  | nil =>
    refine ⟨.ended, ⟨⟨done, hdone, htrace.trans hbuffers⟩, ?_, ?_, h.unread, ?_⟩, ?_⟩
    · simpa [Stage.waits] using hw
    · rw [hqueue]
      exact hrest
    · exact ⟨h.database.1, rfl⟩
    · simp [Stage.rank, Prod.Lex.toLex_lt_toLex]
  | cons r toCome =>
    refine ⟨.owed r toCome, ⟨⟨done, hdone, htrace.trans hbuffers⟩, ?_, ?_, h.unread, ?_⟩, ?_⟩
    · simpa [Stage.waits] using hw
    · rw [hqueue]
      exact hrest
    · exact ⟨rfl, rfl, h.database.2⟩
    · simp [Stage.rank, Prod.Lex.toLex_lt_toLex]

/-- INTERNAL: **the first half: a written command takes the dialogue further, or it is
over.** -/
theorem At.send (h : At base x m [] db) {cmd : IInsteonMessage} {readyToSend : Bool}
    (hwrite : toWrite m readyToSend = some cmd) (ack : Bool) (now : ℤ)
    (reads : List ReadResult) :
    ∃ y, At base y (afterEcho H.toIInsteonMessageHandler m cmd (db.answer cmd ack).1 now reads)
        [] (db.answer cmd ack).2 ∧ (y = x ∧ x = .ended ∨ y.Lower x) := by
  simp only [toWrite, Option.ite_none_right_eq_some, Bool.and_eq_true,
    Bool.not_eq_eq_eq_not, Bool.not_true] at hwrite
  obtain ⟨⟨-, hwait⟩, hhead⟩ := hwrite
  obtain ⟨rest, hq⟩ := List.head?_eq_some_iff.mp hhead
  -- only a request changes the database, and only one stage has a request on the queue
  by_cases hcmd : DirectCommand cmd
  · rw [answer_direct hcmd]
    exact h.send_direct hq hwait hcmd ack now reads
  · cases x with
    | owed | sent =>
      have hw := h.waiting
      rw [hwait] at hw
      cases hw
    | ended =>
      have hqueue := h.queue
      rw [hq] at hqueue
      exact absurd (hqueue cmd List.mem_cons_self) hcmd
    | asked before toCome =>
      obtain ⟨pre, first, post, heq, rfl, hdirect, -⟩ := id h.queue
      rw [hq] at heq
      cases pre with
      | cons c pre =>
        obtain ⟨rfl, -⟩ := List.cons.inj heq
        exact absurd (hdirect cmd List.mem_cons_self) hcmd
      | nil =>
        obtain ⟨rfl, -⟩ := List.cons.inj heq
        rw [answer_request]
        obtain ⟨y, hy, hlower⟩ := At.send_request (H := H) h hhead now reads
        exact ⟨y, hy, .inr hlower⟩

/-! ### The frames that arrive -/

/-- INTERNAL: what is sent leaves the database as it is. -/
theorem send_records (early : List OtherFrame) (record : Bool) (late : List OtherFrame) :
    (db.send early record late).2.records = db.records := by
  unfold AllLinkDatabase.send
  dsimp only
  split <;> rfl

/-- INTERNAL: other frames come behind what is on the port. -/
theorem Stage.UnreadOk.append (h : x.UnreadOk unread) (others : List OtherFrame) :
    x.UnreadOk (unread ++ others.map (·.val)) := by
  cases x with
  | sent before r toCome =>
    obtain ⟨early, late, rfl, hearly⟩ := h
    exact ⟨early, late ++ others, by simp, hearly⟩
  | asked | owed | ended =>
    obtain ⟨frames, rfl⟩ := h
    exact ⟨frames ++ others, by simp⟩

/-- INTERNAL: **frames that arrive leave the dialogue where it is, or bring the record that is
owed.** -/
theorem At.arrive (h : At base x m unread db) (early : List OtherFrame) (record : Bool)
    (late : List OtherFrame) :
    ∃ y, At base y m (unread ++ (db.send early record late).1) (db.send early record late).2 ∧
      (y = x ∨ y.Lower x) := by
  have hothers : At base x m (unread ++ (early.map (·.val) ++ late.map (·.val))) db := by
    rw [← List.map_append]
    exact { h with unread := h.unread.append (early ++ late) }
  cases hrecord : (if record then db.owed else none) with
  | none =>
    have hdb : (if record then { db with owed := none } else db) = db := by
      split at hrecord
      · rw [if_pos ‹_›, ← hrecord]
      · rw [if_neg ‹_›]
    refine ⟨x, ?_, .inl rfl⟩
    simpa [AllLinkDatabase.send, hrecord, hdb] using hothers
  | some r =>
    obtain ⟨hset, howed⟩ : record = true ∧ db.owed = some r := by simpa using hrecord
    have hdatabase := h.database
    cases x with
    | asked | sent | ended => exact absurd (howed.symm.trans hdatabase.1) (by simp)
    | owed r' toCome =>
      obtain ⟨howed', hremaining, hfinished⟩ := hdatabase
      obtain rfl := Option.some.inj (howed.symm.trans howed')
      obtain ⟨frames, rfl⟩ := h.unread
      refine ⟨.sent (frames ++ early).length r toCome,
        ⟨?_, h.waiting, h.queue, ?_, ?_⟩, .inr ?_⟩
      · rw [send_records]
        exact h.delivered
      · exact ⟨frames ++ early, late, by simp [AllLinkDatabase.send, hset, howed], rfl⟩
      · simp [AllLinkDatabase.send, hset, Stage.DatabaseOk, hremaining, hfinished]
      · simp [Stage.rank, Prod.Lex.toLex_lt_toLex]

/-! ### The second half -/

/-- INTERNAL: a frame that is no record. SOURCE: InsteonModem.cpp:105-117, 169-188 -/
theorem At.read_other (h : At base x m unread db) (f : OtherFrame) (now : ℤ)
    (reads : List ReadResult) :
    At base x ((m.advance now reads).processUnsolicited H.toIInsteonMessageHandler f.val.type
      f.val.buffer) unread db := by
  unfold processUnsolicited
  split
  · exact h.extend _ (H.message_direct now f.val.buffer m.handler) rfl rfl
      (by simp [processStandardMessage, recordBuffers, recordBuffer])
  · rw [if_neg f.property]
    exact h.unchanged rfl rfl rfl

/-- INTERNAL: the record is handed over, and the next one is asked for.
SOURCE: InsteonModem.cpp:119-124 -/
theorem At.read_record {r : AllLinkRecord} {toCome : List AllLinkRecord}
    (h : At base (.sent 0 r toCome) m unread db) (others : List OtherFrame) (now : ℤ)
    (reads : List ReadResult) :
    ∃ before, At base (.asked before toCome)
      ((m.advance now reads).processUnsolicited H.toIInsteonMessageHandler r.frame.type
        r.frame.buffer) (others.map (·.val)) db := by
  obtain ⟨done, hdone, hbuffers⟩ := h.delivered
  obtain ⟨howed, hremaining, hfinished⟩ := h.database
  have hstep : (m.advance now reads).processUnsolicited H.toIInsteonMessageHandler r.frame.type
      r.frame.buffer =
        (m.advance now reads).processAllLinkRecordResponse H.toIInsteonMessageHandler
          r.frame.buffer := rfl
  rw [hstep]
  let cmds := (H.onInsteonAllLinkRecordResponse now r.frame.buffer m.handler).commands
  refine ⟨(m.mInsteonCommandQueue ++ cmds).length, ⟨done ++ [r], ?_, ?_⟩, rfl,
    ⟨m.mInsteonCommandQueue ++ cmds, false, [], rfl, rfl, ?_, hremaining⟩, ⟨others, rfl⟩,
    ⟨howed, hfinished⟩⟩
  · rw [hdone, List.append_assoc]
    rfl
  · have hrecord : recordBuffers [.allLinkRecord r.frame.buffer] = [r.frame.buffer] := rfl
    have hnext : recordBuffers [.enqueued (allLinkDatabaseMessage false)] = [] := rfl
    simp only [processAllLinkRecordResponse, getNextAllLinkRecord, push_trace, record_trace,
      advance_trace, recordBuffers_append, recordBuffers_enqueued, hrecord, hnext,
      List.map_cons, List.map_nil, List.append_nil, hbuffers, List.map_append, List.append_assoc]
  · rw [List.append_nil]
    exact fun c hc => (List.mem_append.mp hc).elim (h.queue c)
      (H.record_direct now r.frame.buffer m.handler c)

/-- INTERNAL: the first frame on the port brings the record nearer, or is the record. -/
theorem At.read_frame {f : UnsolicitedFrame} {rest : List UnsolicitedFrame}
    (h : At base x m (f :: rest) db) (now : ℤ) (reads : List ReadResult) :
    ∃ y, At base y ((m.advance now reads).processUnsolicited H.toIInsteonMessageHandler f.type
        f.buffer) rest db ∧
      (y = x ∧ (m.mWaitingForResponse = true → ∃ r toCome, x = .owed r toCome) ∨ y.Lower x) := by
  have hunread := h.unread
  cases x with
  | sent before r toCome =>
    obtain ⟨early, late, heq, rfl⟩ := hunread
    cases early with
    | nil =>
      obtain ⟨rfl, rfl⟩ := List.cons.inj heq
      obtain ⟨before, hy⟩ := At.read_record (H := H) h late now reads
      exact ⟨.asked before toCome, hy, .inr (by simp [Stage.rank, Prod.Lex.toLex_lt_toLex])⟩
    | cons e early =>
      obtain ⟨rfl, rfl⟩ := List.cons.inj heq
      have hother := At.read_other (H := H) h e now reads
      refine ⟨.sent early.length r toCome, ?_, .inr ?_⟩
      · exact ⟨hother.delivered, hother.waiting, hother.queue, ⟨early, late, rfl, rfl⟩,
          hother.database⟩
      · simp [Stage.rank, Prod.Lex.toLex_lt_toLex]
  | asked before toCome | owed r toCome | ended =>
    obtain ⟨others, heq⟩ := hunread
    cases others with
    | nil => cases heq
    | cons e others =>
      obtain ⟨rfl, rfl⟩ := List.cons.inj heq
      have hother := At.read_other (H := H) h e now reads
      refine ⟨_, { hother with unread := ⟨others, rfl⟩ }, .inl ⟨rfl, fun hwait => ?_⟩⟩
      have hw := h.waiting.symm.trans hwait
      first | exact ⟨r, toCome, rfl⟩ | cases hw

/-- INTERNAL: **the second half: what is read takes the dialogue further if the record is what
it waits for and the first read has data.** SOURCE: InsteonModem.cpp:88-194 -/
theorem At.read (h : At base x m unread db) (hbytes : m.mpSerialPort.bytes = frameBytes unread) :
    ∃ m' idle unread' y, m.readFront H.toIInsteonMessageHandler = some (m', idle) ∧
      m'.mpSerialPort.bytes = frameBytes unread' ∧ At base y m' unread' db ∧
      (y = x ∧ ((∀ r ∈ m.mpSerialPort.reads.head?, r.byte ≠ none) →
        m.mWaitingForResponse = true → ∃ r toCome, x = .owed r toCome) ∨ y.Lower x) := by
  rcases readFront_frames (H := H.toIInsteonMessageHandler) hbytes with
    ⟨now, reads, heq, hbytes', hprompt⟩ | ⟨f, rest, now, reads, rfl, heq, hbytes'⟩
  · refine ⟨_, _, unread, x, heq, hbytes', h.unchanged rfl rfl rfl,
      .inl ⟨rfl, fun hfirst hwait => ?_⟩⟩
    obtain rfl := hprompt hfirst
    have hw := h.waiting.symm.trans hwait
    cases x with
    | asked | ended => cases hw
    | owed r toCome => exact ⟨r, toCome, rfl⟩
    | sent before r toCome =>
      obtain ⟨early, late, hunread, -⟩ := h.unread
      simp at hunread
  · obtain ⟨y, hy, hyx⟩ := At.read_frame (H := H) h now reads
    refine ⟨_, _, rest, y, heq, ?_, hy, hyx.imp_left (And.imp_right fun howed _ => howed)⟩
    rw [processUnsolicited_port]
    exact hbytes'

/-! ### Whole calls -/

/-- INTERNAL: a call of `process` that writes a command, with its echo next and `after` behind
the echo. SOURCE: InsteonModem.cpp:58-104 -/
theorem At.process_echo (h : At base x m [] db) {cmd : IInsteonMessage} {readyToSend ack : Bool}
    {early late : List OtherFrame} {record : Bool} {after : List UnsolicitedFrame}
    (hwrite : toWrite m readyToSend = some cmd)
    (hafter : after = ((db.answer cmd ack).2.send early record late).1)
    (hbytes : m.mpSerialPort.bytes =
      (LineItem.echo cmd (db.answer cmd ack).1).bytes ++ frameBytes after)
    (htime : InTime (some cmd) m.mpSerialPort (frameBytes after)) :
    ∃ m' idle unread y, m.process H.toIInsteonMessageHandler readyToSend = some (m', idle) ∧
      m'.mpSerialPort.bytes = frameBytes unread ∧
      At base y m' unread ((db.answer cmd ack).2.send early record late).2 ∧
      (y = x ∧ x = .ended ∨ y.Lower x) := by
  obtain ⟨now, reads, hsend, hreads⟩ :=
    sendFront_echo (H := H.toIInsteonMessageHandler) hwrite hbytes htime
  have hport : m.mpSerialPort.reconnects = true := by
    simp only [toWrite, Option.ite_none_right_eq_some, Bool.and_eq_true] at hwrite
    exact hwrite.1.1.1.1
  obtain ⟨y, hy, hyx⟩ := At.send (H := H) h hwrite ack now reads
  obtain ⟨z, hz, hzy⟩ := hy.arrive early record late
  rw [List.nil_append, ← hafter] at hz
  obtain ⟨m', idle, unread, w, hread, hm', hw, hwz⟩ :=
    At.read (H := H) hz (by rw [ISerialPort.bytes, afterEcho_reads, hreads])
  refine ⟨m', idle, unread, w, ?_, hm', hw, ?_⟩
  · simp only [InsteonModem.process, hport, Bool.true_eq_false, if_false, hsend,
      Option.bind_some, hread]
  · have hzx : z = y ∧ (y = x ∧ x = .ended ∨ y.Lower x) ∨ z.Lower x :=
      hzy.imp (fun hsame => ⟨hsame, hyx⟩) fun hlower => hlower.trans_same (hyx.imp_left And.left)
    rcases hwz with ⟨rfl, -⟩ | hlower
    · rcases hzx with ⟨rfl, hyx⟩ | hlower
      · exact hyx
      · exact .inr hlower
    · refine .inr (hlower.trans_same ?_)
      rcases hzx with ⟨rfl, hyx⟩ | hlower
      · exact hyx.imp_left And.left
      · exact .inr hlower

/-- INTERNAL: a call of `process` that does not write. SOURCE: InsteonModem.cpp:58-104 -/
theorem At.process_silent (h : At base x m unread db) {readyToSend : Bool}
    (hbytes : m.mpSerialPort.bytes = frameBytes unread) (hwrites : m.mpSerialPort.writes = true)
    (hwrite : toWrite m readyToSend = none) :
    ∃ m' idle unread' y, m.process H.toIInsteonMessageHandler readyToSend = some (m', idle) ∧
      m'.mpSerialPort.bytes = frameBytes unread' ∧ At base y m' unread' db ∧
      (y = x ∧ (m.mpSerialPort.reconnects = true →
        (∀ r ∈ m.mpSerialPort.reads.head?, r.byte ≠ none) →
        m.mWaitingForResponse = true → ∃ r toCome, x = .owed r toCome) ∨ y.Lower x) := by
  unfold InsteonModem.process
  split
  case isTrue hport =>
    exact ⟨m, false, unread, x, rfl, hbytes, h, .inl ⟨rfl, fun hup => by simp [hport] at hup⟩⟩
  case isFalse hport =>
    obtain ⟨queue, hsend, hqueue⟩ :=
      sendFront_silent (H := H.toIInsteonMessageHandler) (by simpa using hport) hwrite
    rw [hqueue hwrites] at hsend
    obtain ⟨m', idle, unread', y, hread, hm', hy, hyx⟩ := At.read (H := H) h hbytes
    refine ⟨m', idle, unread', y, ?_, hm', hy,
      hyx.imp_left (And.imp_right fun howed _ => howed)⟩
    rw [hsend]
    exact hread

end Halves

/-! ## Runs -/

section Runs

variable {σ : Type} {H : DirectHandler σ} {base : List FrameBuffer} {x : Stage}
  {s s' : LinkRefresh σ}

/-- The refresh is in that stage, with complete frames on the port. -/
def RefreshAt (base : List FrameBuffer) (x : Stage) (s : LinkRefresh σ) : Prop :=
  s.line.returned = true ∧ ∃ unread, s.line.modem.mpSerialPort.bytes = frameBytes unread ∧
    At base x s.line.modem unread s.db

/-- A call of `process(true)` over a connection that is up, where the first read has data when
the modem waits for a record. -/
def Effective (s : LinkRefresh σ) : LinkRefresh.Act → Prop
  | .process readyToSend port _ _ _ _ => readyToSend = true ∧ port.reconnects = true ∧
      (s.line.modem.mWaitingForResponse = true → ∀ r ∈ port.reads.head?, r.byte ≠ none)
  | .enqueue _ => False

/-- INTERNAL: with a request on the queue, a call that may send writes a command. -/
theorem At.toWrite_ne_none {σ : Type} {base : List FrameBuffer} {m : InsteonModem σ}
    {unread : List UnsolicitedFrame} {db : AllLinkDatabase} {before : ℕ}
    {toCome : List AllLinkRecord} (h : At base (.asked before toCome) m unread db)
    (hport : m.mpSerialPort.reconnects = true) (hwrites : m.mpSerialPort.writes = true) :
    toWrite m true ≠ none := by
  obtain ⟨pre, first, post, hq, -⟩ := h.queue
  have hwait : m.mWaitingForResponse = false := h.waiting
  simp [toWrite, hport, hwrites, hwait, hq]

/-- INTERNAL: **the step lemma: a step keeps the stage or lowers it, and an effective call
lowers it unless the dialogue is over or the PLM owes a record.** -/
theorem RefreshAt.step {a : LinkRefresh.Act} (h : RefreshAt base x s)
    (hstep : LinkRefresh.step H s a = some s') :
    ∃ y, RefreshAt base y s' ∧
      (y = x ∧ (Effective s a → x = .ended ∨ ∃ r toCome, x = .owed r toCome) ∨ y.Lower x) := by
  obtain ⟨hreturned, unread, hbytes, hat⟩ := h
  cases a with
  | enqueue cmd =>
    simp only [LinkRefresh.step, PlmLine.step, Option.ite_none_right_eq_some, Option.map_some,
      Option.some.injEq] at hstep
    obtain ⟨hcmd, rfl⟩ := hstep
    refine ⟨x, ⟨hreturned, unread, hbytes, ?_⟩, .inl ⟨rfl, False.elim⟩⟩
    exact hat.extend [cmd] (by simpa using hcmd) rfl rfl
      (by simp [recordBuffers, recordBuffer])
  | process readyToSend port ack early record late =>
    simp only [LinkRefresh.step, Option.ite_none_right_eq_some] at hstep
    obtain ⟨⟨hwrites, hecho⟩, hstep⟩ := hstep
    obtain ⟨line, hline, rfl⟩ := Option.map_eq_some_iff.mp hstep
    simp only [PlmLine.step, Option.ite_none_right_eq_some, Option.some.injEq] at hline
    obtain ⟨⟨-, hsent, htime⟩, rfl⟩ := hline
    have hport : At base x { s.line.modem with mpSerialPort := port } unread s.db :=
      hat.unchanged rfl rfl rfl
    cases hwrite : toWrite { s.line.modem with mpSerialPort := port } readyToSend with
    | some cmd =>
      simp only [hwrite] at hsent htime ⊢
      have hnone := hecho (by simp [hwrite])
      obtain rfl : unread = [] := frameBytes_eq_nil (hbytes.symm.trans hnone)
      rw [hnone] at hsent
      obtain ⟨m', idle, unread', y, hprocess, hm', hy, hyx⟩ :=
        At.process_echo (H := H) hport hwrite rfl hsent htime
      rw [hprocess]
      exact ⟨y, ⟨rfl, unread', hm', hy⟩,
        hyx.imp_left (And.imp_right fun hended _ => .inl hended)⟩
    | none =>
      simp only [hwrite] at hsent htime ⊢
      obtain ⟨y, hy, hyx⟩ := hport.arrive early record late
      have harrived : port.bytes =
          frameBytes (unread ++ (s.db.send early record late).1) := by
        rw [hsent, hbytes, frameBytes_append]
        simp [items, frameBytes]
      obtain ⟨m', idle, unread', z, hprocess, hm', hz, hzy⟩ :=
        At.process_silent (H := H) hy harrived hwrites hwrite
      rw [hprocess]
      refine ⟨z, ⟨rfl, unread', hm', hz⟩, ?_⟩
      rcases hzy with ⟨rfl, howed⟩ | hlower
      · rcases hyx with rfl | hlower
        · refine .inl ⟨rfl, fun heffective => ?_⟩
          obtain ⟨rfl, hconn, hprompt⟩ := heffective
          -- an effective call that writes nothing has no request to write
          cases z with
          | ended => exact .inl rfl
          | asked before toCome => exact absurd hwrite (hport.toWrite_ne_none hconn hwrites)
          | owed r toCome => exact .inr ⟨r, toCome, rfl⟩
          | sent => exact .inr (howed hconn (hprompt hat.waiting) hat.waiting)
        · exact .inr hlower
      · exact .inr (hlower.trans_same hyx)

/-- INTERNAL: the dialogue begins with the request behind what is on the queue. -/
theorem refreshAt_init (m : ReadyModem σ) (records remaining : List AllLinkRecord) :
    RefreshAt (recordBuffers m.modem.trace)
      (.asked m.modem.mInsteonCommandQueue.length records)
      (LinkRefresh.init m records remaining) := by
  have hrequest : recordBuffers [.enqueued (allLinkDatabaseMessage true)] = [] := rfl
  refine ⟨rfl, m.unread.map Subtype.val, m.bytes_eq, ⟨[], rfl, ?_⟩, m.not_waiting,
    ⟨m.modem.mInsteonCommandQueue, true, [], rfl, rfl, ?_, rfl⟩, ⟨m.unread, rfl⟩, ⟨rfl, rfl⟩⟩
  · simp only [LinkRefresh.init, getFirstAllLinkRecord, push_trace, recordBuffers_append,
      List.map_cons, List.map_nil, hrequest]
  · rw [List.append_nil]
    exact m.queue_direct

/-- INTERNAL: the database itself does not change. -/
theorem step_records {a : LinkRefresh.Act} (hstep : LinkRefresh.step H s a = some s') :
    s'.db.records = s.db.records := by
  have hrequest (db : AllLinkDatabase) (first : Bool) :
      (db.request first).2.records = db.records := by
    unfold AllLinkDatabase.request
    split <;> rfl
  have hanswer (db : AllLinkDatabase) (cmd : IInsteonMessage) (ack : Bool) :
      (db.answer cmd ack).2.records = db.records := by
    unfold AllLinkDatabase.answer
    split
    · exact hrequest db true
    · split
      · exact hrequest db false
      · rfl
  cases a with
  | enqueue cmd =>
    simp only [LinkRefresh.step, Option.ite_none_right_eq_some] at hstep
    obtain ⟨line, -, rfl⟩ := Option.map_eq_some_iff.mp hstep.2
    rfl
  | process readyToSend port ack early record late =>
    simp only [LinkRefresh.step, Option.ite_none_right_eq_some] at hstep
    obtain ⟨line, -, rfl⟩ := Option.map_eq_some_iff.mp hstep.2
    dsimp only
    rw [send_records]
    split
    · exact hanswer _ _ _
    · rfl

/-- Every call of `process()` returned. Since `base`, the records of the database were handed
over in order, each once; all of them when the PLM has sent its final NAK, and then the modem
waits for nothing and no ALL-Link record request is on its queue. -/
structure WalksDatabase (records : List AllLinkRecord) (base : List FrameBuffer)
    (s : LinkRefresh σ) : Prop where
  returned : s.line.returned = true
  inOrder : ∃ done, done <+: records ∧
    recordBuffers s.line.modem.trace = base ++ done.map (·.frame.buffer)
  whenFinished : s.db.finished = true →
    recordBuffers s.line.modem.trace = base ++ records.map (·.frame.buffer) ∧
      s.line.modem.mWaitingForResponse = false ∧
      ∀ cmd ∈ s.line.modem.mInsteonCommandQueue,
        cmd.getMessageID ≠ 0x69 ∧ cmd.getMessageID ≠ 0x6A

/-- INTERNAL: a stage says that the records so far were handed over in their order. -/
theorem RefreshAt.walks (h : RefreshAt base x s) : WalksDatabase s.db.records base s := by
  obtain ⟨hreturned, unread, -, hat⟩ := h
  obtain ⟨done, hdone, hbuffers⟩ := hat.delivered
  refine ⟨hreturned, ⟨done, ⟨_, hdone.symm⟩, hbuffers⟩, fun hfinished => ?_⟩
  cases x with
  | asked | owed | sent =>
    have hdatabase := hat.database
    simp [Stage.DatabaseOk, hfinished] at hdatabase
  | ended =>
    rw [Stage.undelivered, List.append_nil] at hdone
    rw [hdone]
    exact ⟨hbuffers, hat.waiting, fun cmd hcmd => directCommand_not_request (hat.queue cmd hcmd)⟩

/-- A run in which `process(true)` is called effectively again and again, and the PLM sends
the record for every request it has acknowledged. -/
structure Fair (states : ℕ → LinkRefresh σ) (acts : ℕ → LinkRefresh.Act) : Prop where
  effective : ∀ i, ∃ j ≥ i, Effective (states j) (acts j)
  answered : ∀ i, ∃ j ≥ i, (states j).db.owed = none

/-- INTERNAL: in a fair run every stage but the last one is left. -/
theorem Fair.left {states : ℕ → LinkRefresh σ} {acts : ℕ → LinkRefresh.Act}
    (hfair : Fair states acts) {start : LinkRefresh σ}
    (hruns : Runs (LinkRefresh.step H) start states acts) (i : ℕ) (x : Stage) :
    x = .ended ∨ ∃ j ≥ i, RefreshAt base x (states j) →
      ∃ y, RefreshAt base y (states (j + 1)) ∧ y.Lower x := by
  cases x with
  | ended => exact .inl rfl
  | owed r toCome =>
    -- while the PLM owes the record the stage lasts, and it does not owe it forever
    obtain ⟨j, hj, hnone⟩ := hfair.answered i
    refine .inr ⟨j, hj, ?_⟩
    rintro ⟨-, unread, -, hat⟩
    exact absurd (hnone.symm.trans hat.database.1) (by simp)
  | asked | sent =>
    obtain ⟨j, hj, heffective⟩ := hfair.effective i
    refine .inr ⟨j, hj, fun hat => ?_⟩
    obtain ⟨y, hy, hyx⟩ := hat.step (hruns.next j)
    refine ⟨y, hy, hyx.resolve_left ?_⟩
    rintro ⟨-, hend⟩
    rcases hend heffective with hended | ⟨r, toCome, howed⟩
    · cases hended
    · cases howed

/-- **A refresh walks the whole database: at every point of every run a first part
of the records was handed over in order, at the final NAK all of them, and every fair run
comes to the final NAK.** SOURCE: InsteonModem.cpp:58-124, 196-301 -/
theorem walksDatabase_throughout (H : DirectHandler σ) (m : ReadyModem σ)
    (records remaining : List AllLinkRecord) :
    (∀ acts, Throughout (LinkRefresh.step H)
      (WalksDatabase records (recordBuffers m.modem.trace))
      (LinkRefresh.init m records remaining) acts) ∧
    ∀ states acts,
      Runs (LinkRefresh.step H) (LinkRefresh.init m records remaining) states acts →
      Fair states acts → ∃ k, ∀ j ≥ k, (states j).db.finished = true ∧
        WalksDatabase records (recordBuffers m.modem.trace) (states j) := by
  let base := recordBuffers m.modem.trace
  let Walking (s : LinkRefresh σ) : Prop := (∃ x, RefreshAt base x s) ∧ s.db.records = records
  have hinit : Walking (LinkRefresh.init m records remaining) :=
    ⟨⟨_, refreshAt_init m records remaining⟩, rfl⟩
  have hwalks (s : LinkRefresh σ) (h : Walking s) : WalksDatabase records base s := by
    obtain ⟨⟨x, hat⟩, hrecords⟩ := h
    exact hrecords ▸ hat.walks
  have hstep (s : LinkRefresh σ) (a : LinkRefresh.Act) (s' : LinkRefresh σ) (h : Walking s)
      (hs' : LinkRefresh.step H s a = some s') : Walking s' := by
    obtain ⟨⟨x, hat⟩, hrecords⟩ := h
    obtain ⟨y, hy, -⟩ := hat.step hs'
    exact ⟨⟨y, hy⟩, (step_records hs').trans hrecords⟩
  refine ⟨fun acts => throughout_invariant hwalks hstep hinit, fun states acts hruns hfair => ?_⟩
  have hstage (i : ℕ) (x : Stage) (hx : RefreshAt base x (states i)) :
      ∃ y, RefreshAt base y (states (i + 1)) ∧ (y = x ∨ y.Lower x) := by
    obtain ⟨y, hy, hyx⟩ := hx.step (hruns.next i)
    exact ⟨y, hy, hyx.imp_left And.left⟩
  obtain ⟨x, hx⟩ : ∃ x, RefreshAt base x (states 0) := by
    rw [hruns.start]
    exact hinit.1
  obtain ⟨k, -, hended⟩ := eventually_of_rank (RefreshAt base .ended)
    Stage.lower_wellFounded hstage
    (fun i x hx => (hfair.left hruns i x).imp_left fun (hended : x = .ended) => hended ▸ hx) hx
  refine ⟨k, fun j hj => ?_⟩
  obtain ⟨y, hy, hyx⟩ := stage_later hstage hj hended
  obtain rfl := hyx.resolve_right (Stage.not_lower_ended y)
  obtain ⟨-, unread, -, hat⟩ := id hy
  exact ⟨hat.database.2, hwalks _ (hruns.invariant hstep hinit j)⟩

end Runs

/-! ## The handler of the module -/

/-- No registered device has the id of the modem in its messages. -/
def Addressed (s : Insteon) : Prop :=
  ∀ (id : InsteonID) (d : InsteonDevice), s.mModules[id]? = some d → d.mID &&& 0xFFFFFF ≠ 0

/-- INTERNAL: a frame leaves the ids of the devices alone. -/
theorem Addressed.onInsteonMessage {s : Insteon} (h : Addressed s) (t : ℤ) (buf : FrameBuffer) :
    Addressed (Insteon.onInsteonMessage t buf s).state := by
  cases hd : s.mModules[buf.sender]? with
  | none => simpa [Insteon.onInsteonMessage, hd] using h
  | some d =>
    intro id d' hd'
    rw [Insteon.onInsteonMessage_modules hd] at hd'
    split at hd'
    · obtain rfl := Option.some.inj hd'
      rw [InsteonDevice.onInsteonMessage_mID]
      exact h _ d hd
    · exact h id d' hd'

/-- INTERNAL: what a frame makes a device send goes to a device. -/
theorem Addressed.message_direct {s : Insteon} (h : Addressed s) (t : ℤ) (buf : FrameBuffer) :
    ∀ cmd ∈ (Insteon.onInsteonMessage t buf s).commands, DirectCommand cmd := by
  unfold Insteon.onInsteonMessage
  split
  · simp
  case h_2 d hd =>
    intro cmd hcmd hmodem
    rw [InsteonDevice.onInsteonMessage_destination hcmd] at hmodem
    exact h _ d hd hmodem.1

/-- INTERNAL: a message that was sent leaves the ids of the devices alone. -/
theorem Addressed.onInsteonMessageSent {s : Insteon} (h : Addressed s) (t : ℤ) (dest : InsteonID)
    (cmd : IInsteonMessage) : Addressed (Insteon.onInsteonMessageSent t dest cmd s).state := by
  intro id d hd
  rw [Insteon.onInsteonMessageSent_modules] at hd
  obtain ⟨d', hd', rfl⟩ := Option.map_eq_some_iff.mp hd
  split <;> exact h id d' hd'

/-- The handler of the module, with its devices. -/
def moduleHandler : DirectHandler { s : Insteon // Addressed s } where
  onInsteonMessage t buf s :=
    let e := Insteon.onInsteonMessage t buf s.val
    ⟨⟨e.state, s.property.onInsteonMessage t buf⟩, e.commands, e.processed⟩
  onInsteonAllLinkRecordResponse t buf s :=
    let e := Insteon.onInsteonAllLinkRecordResponse t buf s.val
    ⟨⟨e.state, s.property⟩, e.commands, e.processed⟩
  onInsteonMessageSent t id cmd s :=
    let e := Insteon.onInsteonMessageSent t id cmd s.val
    ⟨⟨e.state, s.property.onInsteonMessageSent t id cmd⟩, e.commands, e.processed⟩
  message_direct t buf s := s.property.message_direct t buf
  record_direct t buf s cmd hcmd := by cases hcmd
  sent_direct t id cmd s c hc := by
    rw [Insteon.onInsteonMessageSent_commands] at hc
    cases hc

/-! ## A database of two records -/

/-- INTERNAL: there are no devices at first. -/
theorem addressed_empty : Addressed Insteon.empty := by
  intro id d hd
  simp [Insteon.empty] at hd

/-- The modem after `configure`, with the configuration message on the queue. -/
def newModem : ReadyModem { s : Insteon // Addressed s } where
  modem := InsteonModem.new ⟨false, false, []⟩ false ⟨Insteon.empty, addressed_empty⟩ 0
  unread := []
  not_waiting := rfl
  queue_direct := by decide
  bytes_eq := rfl

/-- The records of a controller and of a responder. -/
def linked : List AllLinkRecord :=
  [⟨[0xE2, 0x01, 0x1A, 0x2B, 0x3C, 0, 0, 0], rfl⟩, ⟨[0xA2, 0x01, 0x1A, 0x2B, 0x3D, 0, 0, 0], rfl⟩]

/-- The frame of one of the records, as it is sent. -/
def linkedFrame (i : ℕ) : List UInt8 := frameBytes (linked[i]?.toList.map (·.frame))

/-- The bytes of a call, without any delay. -/
def promptPort (bytes : List UInt8) : ISerialPort := ⟨true, true, bytes.map fun b => ⟨0, some b⟩⟩

/-- The configuration message, the first request and the next one with a record each, the last
request with the final NAK, and then calls with nothing to do. -/
def twoRecordsActs : ℕ → LinkRefresh.Act
  | 0 => .process true (promptPort [0x02, 0x6B, 0x40, 0x06]) true [] false []
  | 1 => .process true (promptPort ([0x02, 0x69, 0x06] ++ linkedFrame 0)) true [] true []
  | 2 => .process true (promptPort ([0x02, 0x6A, 0x06] ++ linkedFrame 1)) true [] true []
  | 3 => .process true (promptPort [0x02, 0x6A, 0x15]) true [] false []
  | _ + 4 => .process true (promptPort []) true [] false []

/-- The states between the calls. -/
def twoRecordsStates : ℕ → LinkRefresh { s : Insteon // Addressed s }
  | 0 => LinkRefresh.init newModem linked []
  | i + 1 => (LinkRefresh.step moduleHandler (twoRecordsStates i) (twoRecordsActs i)).getD
      (twoRecordsStates i)

/-- INTERNAL: a call with nothing to send and nothing to read. -/
theorem step_idle {σ : Type} {H : DirectHandler σ} {s : LinkRefresh σ}
    (hreturned : s.line.returned = true) (hqueue : s.line.modem.mInsteonCommandQueue = [])
    (hbytes : s.line.modem.mpSerialPort.bytes = []) :
    LinkRefresh.step H s (.process true (promptPort []) true [] false []) =
      some { s with line.modem.mpSerialPort := promptPort [] } := by
  have hwrite : toWrite { s.line.modem with mpSerialPort := promptPort [] } true = none := by
    simp [toWrite, hqueue]
  have hprocess : InsteonModem.process H.toIInsteonMessageHandler true
      { s.line.modem with mpSerialPort := promptPort [] } =
        some ({ s.line.modem with mpSerialPort := promptPort [] }, true) := by
    simp [InsteonModem.process, promptPort, sendFront, hqueue, readFront, getByte]
  have hport : (promptPort []).bytes = [] := rfl
  have hwrites : (promptPort []).writes = true := rfl
  simp [LinkRefresh.step, PlmLine.step, hwrite, hprocess, AllLinkDatabase.send, items, hbytes,
    hreturned, InTime, hport, hwrites]

/-- INTERNAL: from the final NAK on there is nothing to do. -/
theorem twoRecordsStates_idle (i : ℕ) :
    (twoRecordsStates (i + 4)).line.returned = true ∧
      (twoRecordsStates (i + 4)).line.modem.mInsteonCommandQueue = [] ∧
      (twoRecordsStates (i + 4)).line.modem.mpSerialPort.bytes = [] ∧
      (twoRecordsStates (i + 4)).db.owed = none := by
  induction i with
  | zero => decide
  | succ i ih =>
    obtain ⟨hreturned, hqueue, hbytes, howed⟩ := ih
    have hstep : twoRecordsStates (i + 1 + 4) = _ :=
      congrArg (·.getD (twoRecordsStates (i + 4))) (step_idle hreturned hqueue hbytes)
    rw [hstep]
    exact ⟨hreturned, hqueue, rfl, howed⟩

/-- INTERNAL: every call is possible. -/
theorem twoRecords_runs : Runs (LinkRefresh.step moduleHandler)
    (LinkRefresh.init newModem linked []) twoRecordsStates twoRecordsActs where
  start := rfl
  next i := by
    have hsome : (LinkRefresh.step moduleHandler (twoRecordsStates i)
        (twoRecordsActs i)).isSome := by
      match i with
      | 0 | 1 | 2 | 3 => decide
      | i + 4 =>
        obtain ⟨hreturned, hqueue, hbytes, -⟩ := twoRecordsStates_idle i
        exact Option.isSome_of_eq_some (step_idle hreturned hqueue hbytes)
    obtain ⟨s', hs'⟩ := Option.isSome_iff_exists.mp hsome
    rw [twoRecordsStates, hs', Option.getD_some]

/-- INTERNAL: the link works again and again, and no answer is owed for ever. -/
theorem twoRecords_fair : Fair twoRecordsStates twoRecordsActs where
  effective i := ⟨i + 4, Nat.le_add_right i 4, rfl, rfl, fun _ r hr => by cases hr⟩
  answered i := ⟨i + 4, Nat.le_add_right i 4, (twoRecordsStates_idle i).2.2.2⟩

/-- Both records are handed over, in their order. -/
theorem twoRecords_walks : ∃ k, ∀ j ≥ k, (twoRecordsStates j).db.finished = true ∧
    WalksDatabase linked [] (twoRecordsStates j) :=
  (walksDatabase_throughout moduleHandler newModem linked []).2 twoRecordsStates
    twoRecordsActs twoRecords_runs twoRecords_fair

end Dhas.Analysis
