import Dhas.Model.PlmLine

/-!
# Echoes between unsolicited frames

`waitForReply` counts the bytes of an echo without looking at them, so it is right exactly
as long as the echo is the next thing on the port. Then `sendFront_echo` says what the first
half of `process` does, `readFront_frames` what the second half does, and both keep a port
that holds complete frames only.
-/

set_option autoImplicit false

namespace Dhas.Analysis

open Dhas.Library Dhas.Program Dhas.Model
open Dhas.Program.InsteonModem Dhas.Model.PlmLine

/-- What `sendCommand` did with a command. -/
inductive Sending where
  | written (cmd : IInsteonMessage)
  | acknowledged (cmd : IInsteonMessage)
  deriving DecidableEq

def sending : InsteonEvent → Option Sending
  | .wrote _ cmd => some (.written cmd)
  | .messageSent _ cmd => some (.acknowledged cmd)
  | .enqueued _ | .message _ _ | .allLinkRecord _ | .registered _ | .cleared => none

/-- What `sendCommand` has to do for the answer to a command. -/
def sendings (answer : IInsteonMessage × Bool) : List Sending :=
  .written answer.1 :: if answer.2 then [.acknowledged answer.1] else []

/-- The handler calls for received frames. -/
def frameCall : InsteonEvent → Option HandlerCall
  | .message buf _ => some (.onInsteonMessage buf)
  | .allLinkRecord buf => some (.onInsteonAllLinkRecordResponse buf)
  | .enqueued _ | .wrote _ _ | .messageSent _ _ | .registered _ | .cleared => none

/-- Every call of `process()` returned, every command was taken as acknowledged by the answer
in its own echo, and of what the PLM sent a part `read` was read, its frames handed over
once and in order, and all the rest is still to be read. -/
structure NotMixed {σ : Type} (s : PlmLine σ) : Prop where
  returned : s.returned = true
  answered : s.modem.trace.filterMap sending = s.answers.flatMap sendings
  delivered : ∃ read unread, s.sent = read ++ unread ∧
    s.modem.mpSerialPort.bytes = unread.flatMap LineItem.bytes ∧
    s.modem.trace.filterMap frameCall = read.filterMap LineItem.call

/-- What a call of `process()` that writes a command must meet: all that the PLM sent before
was read, and no frame comes between the command and its echo. -/
def EchoIsNext {σ : Type} (s : PlmLine σ) : Act → Prop
  | .process readyToSend port before _ _ =>
    (toWrite { s.modem with mpSerialPort := port } readyToSend).isSome →
      s.modem.mpSerialPort.bytes = [] ∧ before = []
  | .enqueue _ => True

/-! ## The two halves of `process` -/

/-- INTERNAL: no frame has no byte. -/
@[simp] theorem frameBytes_nil : frameBytes [] = [] := rfl

/-- INTERNAL: the first frame comes first, behind its 0x02. -/
@[simp] theorem frameBytes_cons (f : UnsolicitedFrame) (frames : List UnsolicitedFrame) :
    frameBytes (f :: frames) = 0x02 :: f.type :: f.contents ++ frameBytes frames := rfl

/-- INTERNAL: the frames of two lists, one after the other. -/
@[simp] theorem frameBytes_append (frames frames' : List UnsolicitedFrame) :
    frameBytes (frames ++ frames') = frameBytes frames ++ frameBytes frames' := by
  simp [frameBytes]

/-- INTERNAL: only the empty list of frames has no byte. -/
theorem frameBytes_eq_nil {frames : List UnsolicitedFrame} (h : frameBytes frames = []) :
    frames = [] := by
  cases frames with
  | nil => rfl
  | cons f frames => cases h

/-- INTERNAL: the loop takes as many bytes as the echo has and looks at the last one only,
however the reads are spread over the two seconds. The induction is on the reads.
SOURCE: InsteonModem.cpp:196-238 -/
theorem waitForReply_bytes {echoSize : ℕ} {t : ℤ} (now : ℤ) (size : ℕ)
    {reads : List ReadResult} {bs rest : List UInt8} {last : UInt8}
    (hreads : reads.filterMap (·.byte) = bs ++ last :: rest)
    (hsize : size + bs.length + 1 = echoSize)
    (htime : now + secondsUntil (bs.length + 1) reads - t < 2) :
    ∃ now' reads', waitForReply echoSize t now size reads =
        some (decide (last = 0x06), now', reads') ∧
      reads'.filterMap (·.byte) = rest := by
  induction reads generalizing now size bs with
  | nil => simp at hreads
  | cons r rs ih =>
    have helapsed : (now + r.elapsed : ℤ) - t < 2 := by
      simp only [secondsUntil] at htime
      omega
    cases hb : r.byte with
    | none =>
      rw [List.filterMap_cons_none hb] at hreads
      simp only [secondsUntil, hb, Option.isSome_none, Bool.false_eq_true, if_false] at htime
      obtain ⟨now', reads', hloop, hrest⟩ :=
        ih (now + r.elapsed) size hreads hsize (by push_cast at htime ⊢; omega)
      refine ⟨now', reads', ?_, hrest⟩
      simp only [waitForReply, hb, if_neg (Int.not_le.mpr helapsed)]
      exact hloop
    | some b =>
      rw [List.filterMap_cons_some hb] at hreads
      simp only [secondsUntil, hb, Option.isSome_some, if_true] at htime
      cases bs with
      | nil =>
        obtain ⟨rfl, hrest⟩ := List.cons.inj hreads
        refine ⟨now + r.elapsed, rs, ?_, hrest⟩
        have hlast : size + 1 = echoSize := hsize
        simp only [waitForReply, hb, if_neg (Int.not_le.mpr helapsed), if_pos hlast]
      | cons b' bs =>
        obtain ⟨rfl, htail⟩ := List.cons.inj hreads
        simp only [List.length_cons] at hsize htime
        obtain ⟨now', reads', hloop, hrest⟩ :=
          ih (now + r.elapsed) (size + 1) htail (by omega)
            (by push_cast at htime ⊢; omega)
        refine ⟨now', reads', ?_, hrest⟩
        have hmore : size + 1 ≠ echoSize := by omega
        simp only [waitForReply, hb, if_neg (Int.not_le.mpr helapsed), if_neg hmore]
        exact hloop

section Halves

variable {σ : Type} {H : IInsteonMessageHandler σ} {m : InsteonModem σ}

/-- The modem after it wrote the front command and read its echo. -/
def afterEcho (H : IInsteonMessageHandler σ) (m : InsteonModem σ) (cmd : IInsteonMessage)
    (ack : Bool) (now : ℤ) (reads : List ReadResult) : InsteonModem σ :=
  let w := (({ m with mInsteonCommandQueue := m.mInsteonCommandQueue.tail }).record
    (.wrote m.now cmd)).advance now reads
  if ack then w.onAcknowledged H cmd else w

/-- INTERNAL: with its echo next on the port, the front command is written and its answer is
the one in the echo. SOURCE: InsteonModem.cpp:66-86, 252-283 -/
theorem sendFront_echo {cmd : IInsteonMessage} {readyToSend ack : Bool} {rest : List UInt8}
    (hwrite : toWrite m readyToSend = some cmd)
    (hbytes : m.mpSerialPort.bytes = (LineItem.echo cmd ack).bytes ++ rest)
    (htime : InTime (some cmd) m.mpSerialPort rest) :
    ∃ now reads, m.sendFront H readyToSend = some (afterEcho H m cmd ack now reads) ∧
      reads.filterMap (·.byte) = rest := by
  simp only [toWrite, Option.ite_none_right_eq_some, Bool.and_eq_true,
    Bool.not_eq_eq_eq_not, Bool.not_true] at hwrite
  obtain ⟨⟨⟨⟨-, hwrites⟩, hready⟩, hwait⟩, hhead⟩ := hwrite
  obtain ⟨queue, hq⟩ := List.head?_eq_some_iff.mp hhead
  have hlen : (LineItem.echo cmd ack).bytes.length = cmd.getBuffer.length + 1 := by
    simp [LineItem.bytes]
  have hbuffer : cmd.getBuffer.length = cmd.mSize := by
    simp [IInsteonMessage.getBuffer, cmd.size_eq]
  have hsecs := htime rfl
  rw [hbytes, List.length_append, Nat.add_sub_cancel, hlen] at hsecs
  have hreads : m.mpSerialPort.reads.filterMap (·.byte) =
      cmd.getBuffer ++ LineItem.answerByte ack :: rest := by
    simpa [ISerialPort.bytes, LineItem.bytes] using hbytes
  have hsize : 0 + cmd.getBuffer.length + 1 = cmd.mEchoSize := by
    rw [cmd.echoSize_eq]
    omega
  obtain ⟨now', reads', hreply, hrest⟩ :=
    waitForReply_bytes (t := m.now) m.now 0 hreads hsize (by omega)
  have hanswer : decide (LineItem.answerByte ack = 0x06) = ack := by cases ack <;> decide
  rw [hanswer] at hreply
  refine ⟨now', reads', ?_, hrest⟩
  simp [sendFront, hready, hwait, hq, sendCommand, hwrites, hreply, afterEcho]

/-- INTERNAL: in a call that does not write a command, the first half reads nothing and
hands nothing over: at most a command that the port does not take is dropped.
SOURCE: InsteonModem.cpp:66-86, 270 -/
theorem sendFront_silent {readyToSend : Bool} (hport : m.mpSerialPort.reconnects = true)
    (hwrite : toWrite m readyToSend = none) :
    ∃ queue, m.sendFront H readyToSend = some { m with mInsteonCommandQueue := queue } ∧
      (m.mpSerialPort.writes = true → queue = m.mInsteonCommandQueue) := by
  simp only [toWrite, hport, Bool.true_and] at hwrite
  unfold sendFront
  split
  case isFalse => exact ⟨m.mInsteonCommandQueue, rfl, fun _ => rfl⟩
  case isTrue hready =>
    split
    case h_1 hq => exact ⟨m.mInsteonCommandQueue, rfl, fun _ => rfl⟩
    case h_2 cmd rest hq =>
      have hwrites : m.mpSerialPort.writes = false := by
        by_contra hw
        simp_all
      exact ⟨rest, by simp [sendCommand, hwrites], by simp [hwrites]⟩

/-- INTERNAL: with complete frames on the port, the second half of `process` either reads
nothing or takes the first frame. SOURCE: InsteonModem.cpp:88-103 -/
theorem readFront_frames {frames : List UnsolicitedFrame}
    (hbytes : m.mpSerialPort.bytes = frameBytes frames) :
    (∃ now reads, m.readFront H = some (m.advance now reads, true) ∧
        reads.filterMap (·.byte) = frameBytes frames ∧
        ((∀ r ∈ m.mpSerialPort.reads.head?, r.byte ≠ none) → frames = [])) ∨
      ∃ f rest now reads, frames = f :: rest ∧ m.readFront H =
        some ((m.advance now reads).processUnsolicited H f.type f.buffer, false) ∧
        reads.filterMap (·.byte) = frameBytes rest := by
  cases hrs : m.mpSerialPort.reads with
  | nil =>
    rw [ISerialPort.bytes, hrs] at hbytes
    have hnone : frames = [] := frameBytes_eq_nil hbytes.symm
    refine .inl ⟨m.now, [], ?_, hbytes, fun _ => hnone⟩
    rw [readFront, getByte, hrs]
    simp only [advance, ← hrs]
  | cons r rs =>
    rw [ISerialPort.bytes, hrs] at hbytes
    cases hb : r.byte with
    | none =>
      rw [List.filterMap_cons_none hb] at hbytes
      refine .inl ⟨m.now + r.elapsed, rs, ?_, hbytes, fun h => absurd hb (h r rfl)⟩
      rw [readFront, getByte, hrs]
      simp only [hb]
    | some b =>
      rw [List.filterMap_cons_some hb] at hbytes
      cases frames with
      | nil => cases hbytes
      | cons f rest =>
        obtain ⟨rfl, htail⟩ := List.cons.inj hbytes
        obtain ⟨now, reads, hread, hrest, -⟩ := readFront_frame (H := H) hrs hb htail
        exact .inr ⟨f, rest, now, reads, rfl, hread, hrest⟩

end Halves

/-! ## What both halves keep -/

/-- The modem has read `read`, and did for it what it had to. -/
structure ReadSoFar {σ : Type} (m : InsteonModem σ) (read : List LineItem)
    (answers : List (IInsteonMessage × Bool)) : Prop where
  answered : m.trace.filterMap sending = answers.flatMap sendings
  delivered : m.trace.filterMap frameCall = read.filterMap LineItem.call

/-- And the frames `unread` are all that is left on the port. -/
structure Intact {σ : Type} (m : InsteonModem σ) (read : List LineItem)
    (unread : List UnsolicitedFrame) (answers : List (IInsteonMessage × Bool)) : Prop
    extends ReadSoFar m read answers where
  bytes : m.mpSerialPort.bytes = frameBytes unread

section Intact

variable {σ : Type} {H : IInsteonMessageHandler σ} {m : InsteonModem σ} {read : List LineItem}
  {unread : List UnsolicitedFrame} {answers : List (IInsteonMessage × Bool)}

/-- INTERNAL: what is queued is not sent yet. -/
@[simp] theorem sending_enqueued (cmds : List IInsteonMessage) :
    (cmds.map InsteonEvent.enqueued).filterMap sending = [] := by
  simp [List.filterMap_map, Function.comp_def, sending]

/-- INTERNAL: what is queued calls no device. -/
@[simp] theorem frameCall_enqueued (cmds : List IInsteonMessage) :
    (cmds.map InsteonEvent.enqueued).filterMap frameCall = [] := by
  simp [List.filterMap_map, Function.comp_def, frameCall]

/-- INTERNAL: queued commands change no byte of the line. -/
theorem Intact.push (h : Intact m read unread answers) (cmds : List IInsteonMessage) :
    Intact (m.push cmds) read unread answers where
  bytes := h.bytes
  answered := by
    rw [push_trace, List.filterMap_append, sending_enqueued, List.append_nil, h.answered]
  delivered := by
    rw [push_trace, List.filterMap_append, frameCall_enqueued, List.append_nil, h.delivered]

/-- INTERNAL: the message is recorded as sent. -/
theorem afterEcho_sending (cmd : IInsteonMessage) (ack : Bool) (now : ℤ)
    (reads : List ReadResult) : (afterEcho H m cmd ack now reads).trace.filterMap sending =
      m.trace.filterMap sending ++ sendings (cmd, ack) := by
  cases ack with
  | false => simp [afterEcho, sending, sendings]
  | true => simp [afterEcho, onAcknowledged_trace, sending, sendings]

/-- INTERNAL: the echo of a message is no frame. -/
theorem afterEcho_frameCall (cmd : IInsteonMessage) (ack : Bool) (now : ℤ)
    (reads : List ReadResult) : (afterEcho H m cmd ack now reads).trace.filterMap frameCall =
      m.trace.filterMap frameCall := by
  cases ack with
  | false => simp [afterEcho, frameCall]
  | true => simp [afterEcho, onAcknowledged_trace, frameCall]

/-- INTERNAL: behind the echo stand the reads that the world left. -/
theorem afterEcho_reads (cmd : IInsteonMessage) (ack : Bool) (now : ℤ)
    (reads : List ReadResult) :
    (afterEcho H m cmd ack now reads).mpSerialPort.reads = reads := by
  cases ack with
  | false => rfl
  | true => simp [afterEcho, onAcknowledged_port]

/-- INTERNAL: a command that is written, with its echo next.
SOURCE: InsteonModem.cpp:252-283 -/
theorem ReadSoFar.afterEcho (h : ReadSoFar m read answers) (cmd : IInsteonMessage) (ack : Bool)
    (now : ℤ) {reads : List ReadResult} {after : List UnsolicitedFrame}
    (hreads : reads.filterMap (·.byte) = frameBytes after) :
    Intact (afterEcho H m cmd ack now reads) (read ++ [.echo cmd ack]) after
      (answers ++ [(cmd, ack)]) where
  bytes := by rw [ISerialPort.bytes, afterEcho_reads, hreads]
  answered := by
    rw [afterEcho_sending, h.answered, List.flatMap_append, List.flatMap_singleton]
  delivered := by
    rw [afterEcho_frameCall, h.delivered, List.filterMap_append]
    exact (List.append_nil _).symm

/-- INTERNAL: a frame sends nothing. -/
theorem processUnsolicited_sending (cmd : UInt8) (buf : FrameBuffer) :
    (m.processUnsolicited H cmd buf).trace.filterMap sending = m.trace.filterMap sending := by
  unfold processUnsolicited
  split
  · simp [processStandardMessage, sending]
  · split
    · simp only [processAllLinkRecordResponse, getNextAllLinkRecord, push_trace, record_trace,
        List.filterMap_append, sending_enqueued, List.append_nil]
      simp [sending]
    · rfl

/-- INTERNAL: a frame is passed to the devices once. -/
theorem processUnsolicited_frameCall (f : UnsolicitedFrame) :
    (m.processUnsolicited H f.type f.buffer).trace.filterMap frameCall =
      m.trace.filterMap frameCall ++ f.call.toList := by
  unfold processUnsolicited UnsolicitedFrame.call
  split
  · simp [processStandardMessage, frameCall]
  · split
    · simp only [processAllLinkRecordResponse, getNextAllLinkRecord, push_trace, record_trace,
        List.filterMap_append, frameCall_enqueued, List.append_nil]
      simp [frameCall]
    · simp

/-- INTERNAL: the second half of `process` returns, and keeps complete frames on the port.
SOURCE: InsteonModem.cpp:88-194 -/
theorem Intact.readFront (h : Intact m read unread answers) :
    ∃ m' idle taken rest, m.readFront H = some (m', idle) ∧ unread = taken ++ rest ∧
      Intact m' (read ++ taken.map .frame) rest answers := by
  rcases readFront_frames (H := H) h.bytes with
    ⟨now, reads, heq, hbytes, -⟩ | ⟨f, rest, now, reads, hunread, heq, hbytes⟩
  · refine ⟨_, _, [], unread, heq, rfl, ⟨h.answered, ?_⟩, hbytes⟩
    rw [List.map_nil, List.append_nil]
    exact h.delivered
  · refine ⟨_, _, [f], rest, heq, hunread, ⟨?_, ?_⟩, ?_⟩
    · rw [processUnsolicited_sending]
      exact h.answered
    · have hcall : ([f].map LineItem.frame).filterMap LineItem.call = f.call.toList := by
        cases hf : f.call <;> simp [LineItem.call, hf]
      rw [processUnsolicited_frameCall, List.filterMap_append, hcall]
      exact congrArg (· ++ f.call.toList) h.delivered
    · rw [processUnsolicited_port]
      exact hbytes

/-- INTERNAL: one call of `process()` in which no command is written.
SOURCE: InsteonModem.cpp:58-104 -/
theorem Intact.process_silent (h : Intact m read unread answers) {readyToSend : Bool}
    (hwrite : toWrite m readyToSend = none) :
    ∃ m' idle taken rest, m.process H readyToSend = some (m', idle) ∧ unread = taken ++ rest ∧
      Intact m' (read ++ taken.map .frame) rest answers := by
  unfold InsteonModem.process
  split
  case isTrue =>
    refine ⟨m, false, [], unread, rfl, rfl, ?_⟩
    rwa [List.map_nil, List.append_nil]
  case isFalse hport =>
    obtain ⟨queue, hsend, -⟩ := sendFront_silent (H := H) (by simpa using hport) hwrite
    have hqueue : Intact { m with mInsteonCommandQueue := queue } read unread answers :=
      ⟨⟨h.answered, h.delivered⟩, h.bytes⟩
    rw [hsend, Option.bind_some]
    exact hqueue.readFront

/-- INTERNAL: one call of `process()` that writes a command, with its echo next.
SOURCE: InsteonModem.cpp:58-104 -/
theorem ReadSoFar.process_echo {cmd : IInsteonMessage} {readyToSend ack : Bool}
    {after : List UnsolicitedFrame} (h : ReadSoFar m read answers)
    (hwrite : toWrite m readyToSend = some cmd)
    (hbytes : m.mpSerialPort.bytes = (LineItem.echo cmd ack).bytes ++ frameBytes after)
    (htime : InTime (some cmd) m.mpSerialPort (frameBytes after)) :
    ∃ m' idle taken rest, m.process H readyToSend = some (m', idle) ∧
      after = taken ++ rest ∧
      Intact m' (read ++ [.echo cmd ack] ++ taken.map .frame) rest
        (answers ++ [(cmd, ack)]) := by
  obtain ⟨now, reads, hsend, hreads⟩ := sendFront_echo (H := H) hwrite hbytes htime
  have hport : m.mpSerialPort.reconnects = true := by
    simp only [toWrite, Option.ite_none_right_eq_some, Bool.and_eq_true] at hwrite
    exact hwrite.1.1.1.1
  have hecho := h.afterEcho (H := H) cmd ack now hreads
  simp only [InsteonModem.process, hport, Bool.true_eq_false, if_false, hsend, Option.bind_some]
  exact hecho.readFront

end Intact

/-! ## Runs -/

/-- What the PLM has sent was read or is complete on the port. -/
def LineIntact {σ : Type} (s : PlmLine σ) : Prop :=
  s.returned = true ∧ ∃ read unread, s.sent = read ++ unread.map .frame ∧
    Intact s.modem read unread s.answers

/-- INTERNAL: the invariant says that no echo is mixed with a frame. -/
theorem LineIntact.notMixed {σ : Type} {s : PlmLine σ} (h : LineIntact s) : NotMixed s := by
  obtain ⟨hreturned, read, unread, hsent, hintact⟩ := h
  exact ⟨hreturned, hintact.answered, read, unread.map .frame, hsent, hintact.bytes,
    hintact.delivered⟩

/-- INTERNAL: **the step lemma: a call of `process()` with the echo next on the port takes
whole frames only.** -/
theorem LineIntact.step {σ : Type} {H : IInsteonMessageHandler σ} {s s' : PlmLine σ} {a : Act}
    (h : LineIntact s) (hecho : EchoIsNext s a) (hstep : step H s a = some s') :
    LineIntact s' := by
  obtain ⟨hreturned, read, unread, hsent, hintact⟩ := h
  cases a with
  | enqueue cmd =>
    obtain rfl := Option.some.inj hstep
    exact ⟨hreturned, read, unread, hsent, hintact.push [cmd]⟩
  | process readyToSend port before ack after =>
    simp only [PlmLine.step, Option.ite_none_right_eq_some, Option.some.injEq] at hstep
    obtain ⟨⟨-, hbytes, htime⟩, rfl⟩ := hstep
    have hread : ReadSoFar { s.modem with mpSerialPort := port } read s.answers :=
      ⟨hintact.answered, hintact.delivered⟩
    cases hwrite : toWrite { s.modem with mpSerialPort := port } readyToSend with
    | none =>
      have hitems : items none before ack after = (before ++ after).map .frame := by
        simp [items]
      rw [hwrite, hintact.bytes, hitems] at hbytes
      have hport : Intact { s.modem with mpSerialPort := port } read
          (unread ++ (before ++ after)) s.answers :=
        ⟨hread, by rw [frameBytes_append]; exact hbytes⟩
      obtain ⟨m', idle, taken, rest, hprocess, hunread, hm'⟩ :=
        hport.process_silent (H := H) hwrite
      refine ⟨by simp [hprocess], read ++ taken.map .frame, rest, ?_, ?_⟩
      · show s.sent ++ items none before ack after = _
        rw [hitems, hsent, List.append_assoc, ← List.map_append, hunread, List.map_append,
          List.append_assoc]
      · simpa [hprocess] using hm'
    | some cmd =>
      -- the condition leaves nothing on the port in front of the echo
      obtain ⟨hnone, rfl⟩ := hecho (by simp [hwrite])
      obtain rfl : unread = [] := frameBytes_eq_nil (hintact.bytes.symm.trans hnone)
      have hitems : items (some cmd) [] ack after = .echo cmd ack :: after.map .frame := rfl
      rw [hwrite, hnone, hitems] at hbytes
      rw [hwrite] at htime
      obtain ⟨m', idle, taken, rest, hprocess, hafter, hm'⟩ :=
        hread.process_echo (H := H) hwrite hbytes htime
      refine ⟨by simp [hprocess], read ++ [.echo cmd ack] ++ taken.map .frame, rest, ?_, ?_⟩
      · show s.sent ++ items (some cmd) [] ack after = _
        rw [hitems, hsent, hafter]
        simp
      · simpa [hprocess] using hm'

/-- INTERNAL: at first nothing was read and nothing was sent. -/
theorem lineIntact_init {σ : Type} (waiting : Bool) (handler : σ) (now : ℤ) :
    LineIntact (init waiting handler now) :=
  ⟨rfl, [], [], rfl, ⟨rfl, rfl⟩, rfl⟩

/-- **As long as the echo of each command is the next thing on the port when the
command is written, no echo is taken for another answer than its own and no frame is lost,
whatever else the PLM sends and however the reads are cut.** SOURCE: InsteonModem.cpp:58-283 -/
theorem notMixed_throughout {σ : Type} (H : IInsteonMessageHandler σ) (waiting : Bool)
    (handler : σ) (now : ℤ) (acts : List Act)
    (hecho : Along (step H) EchoIsNext (init waiting handler now) acts) :
    Throughout (step H) NotMixed (init waiting handler now) acts :=
  throughout_of_along (fun _ h => h.notMixed) (fun _ _ _ h hC hstep => h.step hC hstep)
    (lineIntact_init waiting handler now) hecho

/-- The configuration message of the constructor, with a standard message after its echo. -/
def configurationEcho : Act :=
  .process true
    ⟨true, true, ([0x02, 0x6B, 0x40, 0x06] ++ frameBytes [fragmentedFrame]).map
      fun b => ⟨0, some b⟩⟩ [] true [fragmentedFrame]

/-- The queue is empty, and another standard message is a second late. -/
def lateFrame : Act :=
  .process true
    ⟨true, true, ⟨1, none⟩ :: (frameBytes [fragmentedFrame]).map fun b => ⟨0, some b⟩⟩
    [fragmentedFrame] true []

/-- A configuration message gets its echo, and a frame comes after it. -/
theorem notMixed_configuration :
    (run (step silentHandler) (init false () 0) [configurationEcho, lateFrame]).isSome ∧
      Throughout (step silentHandler) NotMixed (init false () 0)
        [configurationEcho, lateFrame] := by
  refine ⟨by decide, notMixed_throughout silentHandler false () 0 _ ?_⟩
  intro s hs
  refine ⟨fun _ => ⟨rfl, rfl⟩, fun t _ => ⟨fun hwrite => ?_, trivial⟩⟩
  have hqueue : (step silentHandler (init false () 0) configurationEcho).map
      (·.modem.mInsteonCommandQueue) = some [] := by decide
  rw [hs, Option.map_some, Option.some.injEq] at hqueue
  simp [toWrite, hqueue] at hwrite

/-- A standard message arrives between the configuration message and its echo. -/
def frameBeforeEcho : List Act :=
  [.process true
    ⟨true, true, (frameBytes [fragmentedFrame] ++ [0x02, 0x6B, 0x40, 0x06]).map
      fun b => ⟨0, some b⟩⟩ [fragmentedFrame] true []]

/-- The first bytes of the message are taken for the echo, and the acknowledged
command for one that was not. SOURCE: InsteonModem.cpp:271-279 -/
theorem frameBeforeEcho_mixed :
    ¬ Throughout (step silentHandler) NotMixed (init false () 0) frameBeforeEcho := by
  intro h
  obtain ⟨s, hrun⟩ : ∃ s, run (step silentHandler) (init false () 0) frameBeforeEcho = some s :=
    Option.isSome_iff_exists.mp (by decide)
  have hend : (run (step silentHandler) (init false () 0) frameBeforeEcho).map
      (fun s => (s.modem.trace.filterMap sending, s.answers)) =
        some ([.written (imConfigurationMessage 0x40)], [(imConfigurationMessage 0x40, true)]) := by
    decide
  rw [hrun, Option.map_some, Option.some.injEq, Prod.mk.injEq] at hend
  have hanswered := (h.last hrun).answered
  rw [hend.1, hend.2] at hanswered
  exact absurd hanswered (by decide)

end Dhas.Analysis
