import Dhas.Program.InsteonModem

/-!
# Framing of unsolicited messages

A stream of unsolicited frames with noise between them, cut by reads that return nothing, is
taken apart by calling `process(false)` again and again. `unsolicitedLoop_contents` is the
induction over the contents of one frame, `process_reads` the step from one frame or noise
byte to the next, and `framing_exact` the induction over the stream.
-/

set_option autoImplicit false

namespace Dhas.Analysis

open Dhas.Program
open Dhas.Program.InsteonModem

/-- A frame with as many further bytes as `messageLength` has for its type: a length counts
the positions from 0, and the type is at position 1. -/
structure UnsolicitedFrame where
  type : UInt8
  contents : List UInt8
  length_eq : messageLength type = some (contents.length + 2)

/-- The frame at buffer positions 1 onward. -/
def UnsolicitedFrame.buffer (f : UnsolicitedFrame) : FrameBuffer :=
  0 :: f.type :: f.contents ++ List.replicate (48 - f.contents.length) 0

/-- A call of a method of `IInsteonMessageHandler`. -/
inductive HandlerCall where
  | onInsteonMessage (buf : FrameBuffer)
  | onInsteonAllLinkRecordResponse (buf : FrameBuffer)
  | onInsteonMessageSent (cmd : IInsteonMessage)

def handlerCall : InsteonEvent → Option HandlerCall
  | .message buf _ => some (.onInsteonMessage buf)
  | .allLinkRecord buf => some (.onInsteonAllLinkRecordResponse buf)
  | .messageSent _ cmd => some (.onInsteonMessageSent cmd)
  | .enqueued _ | .wrote _ _ | .registered _ | .cleared => none

/-- The handler calls made so far, in order. -/
def handlerCalls (trace : List InsteonEvent) : List HandlerCall := trace.filterMap handlerCall

/-- The one call that a frame causes, if any. -/
def UnsolicitedFrame.call (f : UnsolicitedFrame) : Option HandlerCall :=
  if f.type = 0x50 then some (.onInsteonMessage f.buffer)
  else if f.type = 0x57 then some (.onInsteonAllLinkRecordResponse f.buffer)
  else none

/-- What a stream is made of. -/
inductive StreamItem where
  | noise (b : UInt8) (ne : b ≠ 0x02)
  | frame (f : UnsolicitedFrame)

def StreamItem.bytes : StreamItem → List UInt8
  | .noise b _ => [b]
  | .frame f => 0x02 :: f.type :: f.contents

def StreamItem.call : StreamItem → Option HandlerCall
  | .noise _ _ => none
  | .frame f => f.call

/-- `process(false)`, called `n` times. -/
def processes {σ : Type} (H : IInsteonMessageHandler σ) :
    ℕ → InsteonModem σ → Option (InsteonModem σ)
  | 0, m => some m
  | n + 1, m => (m.process H false).bind fun r => processes H n r.1

/-! ## The contents of a frame -/

/-- The buffer after the bytes were stored from `index` on. -/
def store (buf : FrameBuffer) : ℕ → List UInt8 → FrameBuffer
  | _, [] => buf
  | index, b :: bs => store (buf.set index b) (index + 1) bs

/-- INTERNAL: storing bytes after a part that is in place. -/
theorem store_append (pre bs tail : List UInt8) (h : bs.length ≤ tail.length) :
    store (pre ++ tail) pre.length bs = pre ++ bs ++ tail.drop bs.length := by
  induction bs generalizing pre tail with
  | nil => simp [store]
  | cons b bs ih =>
    cases tail with
    | nil => simp at h
    | cons t tail =>
      have hset : (pre ++ t :: tail).set pre.length b = pre ++ [b] ++ tail := by simp
      have hlen : pre.length + 1 = (pre ++ [b]).length := by simp
      rw [store, hset, hlen, ih (pre ++ [b]) tail (by simpa using h)]
      simp

/-- INTERNAL: the buffer of a frame is the empty buffer with the frame stored from 1 on. -/
theorem store_frame (f : UnsolicitedFrame) (h : f.contents.length ≤ 48) :
    store ((List.replicate 50 0).set 1 f.type) 2 f.contents = f.buffer := by
  have hset : (List.replicate 50 (0 : UInt8)).set 1 f.type =
      [0, f.type] ++ List.replicate 48 0 := rfl
  have hstore := store_append [0, f.type] f.contents (List.replicate 48 0)
    (by rwa [List.length_replicate])
  rw [List.drop_replicate] at hstore
  rw [hset]
  exact hstore

/-- INTERNAL: past the type byte the loop stores every byte it reads and ends with the last
one, however the reads are spread. The induction is on the reads. SOURCE:
InsteonModem.cpp:141-191 -/
theorem unsolicitedLoop_contents (cmd : UInt8) {length : ℕ} (index : ℕ) (buf : FrameBuffer)
    (now : ℤ) {reads : List ReadResult} {bs rest : List UInt8} (hindex : 1 < index)
    (hlength : index + bs.length = length) (hbs : bs ≠ [])
    (hreads : reads.filterMap (·.byte) = bs ++ rest) :
    ∃ now' reads', unsolicitedLoop index cmd length buf now reads =
        some (some (cmd, store buf index bs), now', reads') ∧
      reads'.filterMap (·.byte) = rest ∧ reads'.length < reads.length := by
  induction reads generalizing index buf now bs with
  | nil =>
    obtain rfl : bs = [] := by simpa using (List.append_eq_nil_iff.mp hreads.symm).1
    exact absurd rfl hbs
  | cons r rs ih =>
    cases hb : r.byte with
    | none =>
      rw [List.filterMap_cons_none hb] at hreads
      obtain ⟨now', reads', hloop, hrest, hlt⟩ :=
        ih index buf (now + r.elapsed) hindex hlength hbs hreads
      refine ⟨now', reads', ?_, hrest, Nat.lt_succ_of_lt hlt⟩
      simpa [unsolicitedLoop, hb] using hloop
    | some b =>
      rw [List.filterMap_cons_some hb] at hreads
      cases bs with
      | nil => exact absurd rfl hbs
      | cons b' bs =>
        obtain ⟨rfl, htail⟩ := List.cons.inj hreads
        have hne : index ≠ 1 := by omega
        cases bs with
        | nil =>
          refine ⟨now + r.elapsed, rs, ?_, htail, Nat.lt_succ_self _⟩
          simp [unsolicitedLoop, hb, hne, ← hlength, store]
        | cons c bs =>
          have hcont : index + 1 ≠ length := by simp at hlength; omega
          obtain ⟨now', reads', hloop, hrest, hlt⟩ :=
            ih (index + 1) (buf.set index b) (now + r.elapsed) (by omega)
              (by simp at hlength ⊢; omega) (by simp) htail
          refine ⟨now', reads', ?_, hrest, Nat.lt_succ_of_lt hlt⟩
          simpa [unsolicitedLoop, hb, hne, hcont, store] using hloop

/-- INTERNAL: the loop reads one frame, from its type byte on, into the frame's buffer.
SOURCE: InsteonModem.cpp:126-194 -/
theorem unsolicitedLoop_frame (f : UnsolicitedFrame) (now : ℤ) {reads : List ReadResult}
    {rest : List UInt8} (hreads : reads.filterMap (·.byte) = f.type :: f.contents ++ rest) :
    ∃ now' reads', unsolicitedLoop 1 0 0 (List.replicate 50 0) now reads =
        some (some (f.type, f.buffer), now', reads') ∧
      reads'.filterMap (·.byte) = rest ∧ reads'.length < reads.length := by
  have hlen := (messageLength_bounds f.length_eq).2
  induction reads generalizing now with
  | nil => cases hreads
  | cons r rs ih =>
    cases hb : r.byte with
    | none =>
      rw [List.filterMap_cons_none hb] at hreads
      obtain ⟨now', reads', hloop, hrest, hlt⟩ := ih (now + r.elapsed) hreads
      refine ⟨now', reads', ?_, hrest, Nat.lt_succ_of_lt hlt⟩
      simpa only [unsolicitedLoop, hb] using hloop
    | some b =>
      rw [List.filterMap_cons_some hb, List.cons_append] at hreads
      obtain ⟨rfl, htail⟩ := List.cons.inj hreads
      rw [← store_frame f (by omega)]
      by_cases hnil : f.contents = []
      · rw [hnil, List.nil_append] at htail
        refine ⟨now + r.elapsed, rs, ?_, htail, Nat.lt_succ_self _⟩
        have htwo := f.length_eq
        rw [hnil, List.length_nil, Nat.zero_add] at htwo
        simp only [unsolicitedLoop, hb, htwo, hnil, store, if_true, Option.map_some]
      · obtain ⟨now', reads', hloop, hrest, hlt⟩ :=
          unsolicitedLoop_contents f.type 2 ((List.replicate 50 0).set 1 f.type)
            (now + r.elapsed) (by omega) (Nat.add_comm 2 f.contents.length) hnil htail
        refine ⟨now', reads', ?_, hrest, Nat.lt_succ_of_lt hlt⟩
        have hcont : 1 + 1 ≠ f.contents.length + 2 := by
          have := List.length_pos_iff.mpr hnil
          omega
        simpa only [unsolicitedLoop, hb, f.length_eq, if_true, Option.map_some, if_neg hcont]
          using hloop

/-! ## One call of `process` -/

section Process

variable {σ : Type} {H : IInsteonMessageHandler σ}

/-- INTERNAL: a complete frame causes its call and no other. SOURCE:
InsteonModem.cpp:169-188 -/
theorem handlerCalls_processUnsolicited (m : InsteonModem σ) (f : UnsolicitedFrame) :
    handlerCalls (m.processUnsolicited H f.type f.buffer).trace =
      handlerCalls m.trace ++ f.call.toList := by
  have henqueued (cmds : List IInsteonMessage) : handlerCalls (cmds.map .enqueued) = [] := by
    simp [handlerCalls, List.filterMap_map, Function.comp_def, handlerCall]
  unfold processUnsolicited UnsolicitedFrame.call
  simp only [handlerCalls] at henqueued ⊢
  split
  · simp [processStandardMessage, handlerCall, henqueued]
  · split
    · simp [processAllLinkRecordResponse, getNextAllLinkRecord, handlerCall, henqueued]
    · simp

/-- INTERNAL: a frame that is processed leaves the port alone. -/
theorem processUnsolicited_port (m : InsteonModem σ) (cmd : UInt8) (buf : FrameBuffer) :
    (m.processUnsolicited H cmd buf).mpSerialPort = m.mpSerialPort := by
  unfold processUnsolicited
  split
  · rfl
  · split <;> rfl

/-- INTERNAL: the second half of `process` takes one whole frame off the port.
SOURCE: InsteonModem.cpp:88-94, 126-194 -/
theorem readFront_frame {m : InsteonModem σ} {f : UnsolicitedFrame} {r : ReadResult}
    {rs : List ReadResult} {rest : List UInt8} (hrs : m.mpSerialPort.reads = r :: rs)
    (hb : r.byte = some 0x02)
    (hbytes : rs.filterMap (·.byte) = f.type :: f.contents ++ rest) :
    ∃ now' reads', m.readFront H =
        some ((m.advance now' reads').processUnsolicited H f.type f.buffer, false) ∧
      reads'.filterMap (·.byte) = rest ∧ reads'.length < rs.length := by
  obtain ⟨now', reads', hloop, hrest, hlt⟩ :=
    unsolicitedLoop_frame f (m.now + r.elapsed) hbytes
  refine ⟨now', reads', ?_, hrest, hlt⟩
  rw [readFront, getByte, hrs]
  simp only [hb, if_true, waitForUnsolicitedMessage, advance_now, advance_reads, hloop,
    Option.map_some]
  rfl

/-- INTERNAL: **one call of `process(false)` on a stream with something left to read either
skips a read without data or takes one noise byte or one frame off the stream, with its
call.** SOURCE: InsteonModem.cpp:58-103 -/
theorem process_reads {m : InsteonModem σ} {items : List StreamItem}
    (hport : m.mpSerialPort.reconnects = true)
    (hbytes : m.mpSerialPort.bytes = items.flatMap StreamItem.bytes)
    (hreads : m.mpSerialPort.reads ≠ []) :
    ∃ m' idle taken rest, m.process H false = some (m', idle) ∧ items = taken ++ rest ∧
      m'.mpSerialPort.reconnects = true ∧
      m'.mpSerialPort.bytes = rest.flatMap StreamItem.bytes ∧
      m'.mpSerialPort.reads.length < m.mpSerialPort.reads.length ∧
      handlerCalls m'.trace = handlerCalls m.trace ++ taken.filterMap StreamItem.call := by
  have hprocess : m.process H false = m.readFront H := by
    simp [process, hport, sendFront]
  obtain ⟨r, rs, hrs⟩ := List.exists_cons_of_ne_nil hreads
  rw [ISerialPort.bytes, hrs] at hbytes
  cases hb : r.byte with
  | none =>
    rw [List.filterMap_cons_none hb] at hbytes
    refine ⟨m.advance (m.now + r.elapsed) rs, true, [], items, ?_, rfl, hport, hbytes, ?_, ?_⟩
    · rw [hprocess, readFront, getByte, hrs]
      simp only [hb]
    · simp [hrs]
    · simp
  | some b =>
    rw [List.filterMap_cons_some hb] at hbytes
    cases items with
    | nil => cases hbytes
    | cons item items =>
      rw [List.flatMap_cons] at hbytes
      cases item with
      | noise b' hne =>
        obtain ⟨rfl, htail⟩ := List.cons.inj hbytes
        refine ⟨m.advance (m.now + r.elapsed) rs, false, [.noise b hne], items, ?_, rfl, hport,
          htail, ?_, ?_⟩
        · rw [hprocess, readFront, getByte, hrs]
          simp only [hb, if_neg hne]
        · simp [hrs]
        · simp [StreamItem.call]
      | frame f =>
        obtain ⟨rfl, htail⟩ := List.cons.inj hbytes
        obtain ⟨now', reads', hread, hrest, hlt⟩ := readFront_frame (H := H) hrs hb htail
        refine ⟨(m.advance now' reads').processUnsolicited H f.type f.buffer, false, [.frame f],
          items, ?_, rfl, ?_, ?_, ?_, ?_⟩
        · rw [hprocess, hread]
        · rw [processUnsolicited_port]
          exact hport
        · rw [processUnsolicited_port]
          exact hrest
        · rw [processUnsolicited_port, hrs]
          exact Nat.lt_succ_of_lt hlt
        · rw [handlerCalls_processUnsolicited]
          cases hc : f.call <;> simp [StreamItem.call, hc]

/-- INTERNAL: with nothing left to read `process(false)` changes nothing. -/
theorem processes_idle {m : InsteonModem σ} (hport : m.mpSerialPort.reconnects = true)
    (hreads : m.mpSerialPort.reads = []) (n : ℕ) : processes H n m = some m := by
  induction n with
  | zero => rfl
  | succ n ih =>
    have hprocess : m.process H false = some (m, true) := by
      simp [process, hport, sendFront, readFront, getByte, hreads]
    rw [processes, hprocess]
    exact ih

/-- INTERNAL: without reads nothing is left on the line. -/
theorem items_eq_nil {port : ISerialPort} {items : List StreamItem}
    (hbytes : port.bytes = items.flatMap StreamItem.bytes) (hreads : port.reads = []) :
    items = [] := by
  rw [ISerialPort.bytes, hreads] at hbytes
  cases items with
  | nil => rfl
  | cons item items => cases item <;> cases hbytes

/-- **Every stream of frames and noise is taken apart exactly, wherever the reads
without data are.** As many calls of `process(false)` as there are reads left suffice, and
further ones change nothing. SOURCE: InsteonModem.cpp:58-194 -/
theorem framing_exact (m : InsteonModem σ) (items : List StreamItem)
    (hport : m.mpSerialPort.reconnects = true)
    (hbytes : m.mpSerialPort.bytes = items.flatMap StreamItem.bytes)
    (n : ℕ) (hn : m.mpSerialPort.reads.length ≤ n) :
    ∃ m', processes H n m = some m' ∧ m'.mpSerialPort.reads = [] ∧
      handlerCalls m'.trace = handlerCalls m.trace ++ items.filterMap StreamItem.call := by
  induction n generalizing m items with
  | zero =>
    have hreads : m.mpSerialPort.reads = [] := List.length_eq_zero_iff.mp (by omega)
    exact ⟨m, rfl, hreads, by simp [items_eq_nil hbytes hreads]⟩
  | succ n ih =>
    by_cases hreads : m.mpSerialPort.reads = []
    · exact ⟨m, processes_idle hport hreads _, hreads, by simp [items_eq_nil hbytes hreads]⟩
    · obtain ⟨m₁, idle, taken, rest, hstep, rfl, hport₁, hbytes₁, hlt, hcalls⟩ :=
        process_reads (H := H) hport hbytes hreads
      obtain ⟨m', hrun, hend, hcalls'⟩ := ih m₁ rest hport₁ hbytes₁ (by omega)
      refine ⟨m', ?_, hend, ?_⟩
      · rw [processes, hstep]
        exact hrun
      · rw [hcalls', hcalls, List.append_assoc, ← List.filterMap_append]

end Process

/-- A handler that does nothing. -/
def silentHandler : IInsteonMessageHandler Unit where
  onInsteonMessage := fun _ _ s => ⟨s, [], false⟩
  onInsteonAllLinkRecordResponse := fun _ _ s => ⟨s, [], false⟩
  onInsteonMessageSent := fun _ _ _ s => ⟨s, [], false⟩

/-- A standard message that has the start of text among its contents, and is cut in two. -/
def fragmentedReads : List ReadResult :=
  [⟨0, some 0x15⟩, ⟨0, some 0x02⟩, ⟨0, some 0x50⟩, ⟨0, some 0x02⟩, ⟨1, none⟩, ⟨0, some 2⟩,
    ⟨0, some 3⟩, ⟨0, none⟩, ⟨0, some 4⟩, ⟨0, some 5⟩, ⟨0, some 6⟩, ⟨0, some 0x2B⟩,
    ⟨0, some 0x11⟩, ⟨0, some 0xFF⟩]

def fragmentedFrame : UnsolicitedFrame where
  type := 0x50
  contents := [2, 2, 3, 4, 5, 6, 0x2B, 0x11, 0xFF]
  length_eq := by decide

/-- A stray byte and a frame that comes in fragments: the handler is called once, with the frame. -/
theorem framing_exact_fragmented :
    ∃ m', processes silentHandler 20 (InsteonModem.new ⟨true, true, fragmentedReads⟩ false () 0) =
        some m' ∧ m'.mpSerialPort.reads = [] ∧
      handlerCalls m'.trace =
        handlerCalls (InsteonModem.new ⟨true, true, fragmentedReads⟩ false () 0).trace ++
          [StreamItem.noise 0x15 (by decide), .frame fragmentedFrame].filterMap StreamItem.call :=
  framing_exact (InsteonModem.new ⟨true, true, fragmentedReads⟩ false () 0)
    [.noise 0x15 (by decide), .frame fragmentedFrame] rfl (by decide) 20 (by decide)

end Dhas.Analysis
