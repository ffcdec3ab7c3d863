import Dhas.Program.InsteonMessages
import Mathlib.Data.Int.Basic

/-!
# The Insteon modem

`libs/insteon/InsteonModem.cpp`. `process` takes one command from the queue, writes it and
waits for its echo, then reads one byte and, when it opens an unsolicited message, the rest
of that message. What it reads it hands to an `IInsteonMessageHandler`.

The serial port is what the network does next: whether `Reconnect` and `Write` succeed, and
the results of the coming `Read` calls, each with the seconds that pass before it returns.
After these the port has no data and the clock stands still, so a loop that is still
reading then never returns; the result of such a call is `none`. (`IPSerialPort::Write`
has no `return` on its success path; it is taken to report success there.)

`trace` is not in the source. It records what the modem did, for the statements.
-/

set_option autoImplicit false

namespace Dhas.Program

/-- The result of one `Read(&c,1)`: the byte, or `none` for a size below 1. -/
structure ReadResult where
  elapsed : ℕ
  byte : Option UInt8
  deriving DecidableEq

structure ISerialPort where
  reconnects : Bool
  writes : Bool
  reads : List ReadResult
  deriving DecidableEq

/-- The bytes that are still to be read. -/
def ISerialPort.bytes (port : ISerialPort) : List UInt8 := port.reads.filterMap (·.byte)

/-- A frame buffer, `unsigned char buf[50]`. -/
abbrev FrameBuffer := List UInt8

/-- `buf[i]` -/
def FrameBuffer.at (buf : FrameBuffer) (i : ℕ) : UInt8 := buf.getD i 0

/-- What happened, in order. -/
inductive InsteonEvent where
  /-- a message was put on the command queue -/
  | enqueued (cmd : IInsteonMessage)
  /-- a message was written to the serial port -/
  | wrote (t : ℤ) (cmd : IInsteonMessage)
  /-- the modem acknowledged a message, and `onInsteonMessageSent` was called -/
  | messageSent (t : ℤ) (cmd : IInsteonMessage)
  /-- `onInsteonMessage` was called; the flag: a device processed the frame -/
  | message (buf : FrameBuffer) (processed : Bool)
  /-- `onInsteonAllLinkRecordResponse` was called -/
  | allLinkRecord (buf : FrameBuffer)
  /-- a device was registered under an id -/
  | registered (id : InsteonID)
  /-- the list of devices was cleared -/
  | cleared
  deriving DecidableEq

/-- What a handler does: its state afterwards, the messages it puts on the command queue,
and whether it processed the frame. -/
structure HandlerEffect (σ : Type) where
  state : σ
  commands : List IInsteonMessage
  processed : Bool

structure IInsteonMessageHandler (σ : Type) where
  onInsteonMessage : ℤ → FrameBuffer → σ → HandlerEffect σ
  onInsteonAllLinkRecordResponse : ℤ → FrameBuffer → σ → HandlerEffect σ
  onInsteonMessageSent : ℤ → InsteonID → IInsteonMessage → σ → HandlerEffect σ

/-- `σ` is the state of the object behind `mpInsteonMessageHandler`. -/
structure InsteonModem (σ : Type) where
  mInsteonCommandQueue : List IInsteonMessage
  mpSerialPort : ISerialPort
  mWaitingForResponse : Bool
  handler : σ
  /-- `time(0)` -/
  now : ℤ
  trace : List InsteonEvent

namespace InsteonModem

variable {σ : Type}

/-- `mInsteonCommandQueue.push(cmd)` for each of the messages. -/
def push (m : InsteonModem σ) (cmds : List IInsteonMessage) : InsteonModem σ :=
  { m with
    mInsteonCommandQueue := m.mInsteonCommandQueue ++ cmds
    trace := m.trace ++ cmds.map .enqueued }

def record (m : InsteonModem σ) (e : InsteonEvent) : InsteonModem σ :=
  { m with trace := m.trace ++ [e] }

/-- The modem after some reads: the time, and what is left to read. -/
def advance (m : InsteonModem σ) (now : ℤ) (reads : List ReadResult) : InsteonModem σ :=
  { m with now := now, mpSerialPort := { m.mpSerialPort with reads := reads } }

section Fields

variable (m : InsteonModem σ) (now : ℤ) (reads : List ReadResult)
  (cmds : List IInsteonMessage) (e : InsteonEvent)

/-- INTERNAL: what is pushed goes to the end of the queue. -/
@[simp] theorem push_queue :
    (m.push cmds).mInsteonCommandQueue = m.mInsteonCommandQueue ++ cmds := rfl

/-- INTERNAL: a push leaves the port alone. -/
@[simp] theorem push_port : (m.push cmds).mpSerialPort = m.mpSerialPort := rfl

/-- INTERNAL: a push leaves the wait for a response alone. -/
@[simp] theorem push_waiting : (m.push cmds).mWaitingForResponse = m.mWaitingForResponse := rfl

/-- INTERNAL: a push leaves the devices alone. -/
@[simp] theorem push_handler : (m.push cmds).handler = m.handler := rfl

/-- INTERNAL: a push takes no time. -/
@[simp] theorem push_now : (m.push cmds).now = m.now := rfl

/-- INTERNAL: what is pushed is recorded. -/
@[simp] theorem push_trace : (m.push cmds).trace = m.trace ++ cmds.map .enqueued := rfl

/-- INTERNAL: a record leaves the queue alone. -/
@[simp] theorem record_queue :
    (m.record e).mInsteonCommandQueue = m.mInsteonCommandQueue := rfl

/-- INTERNAL: a record leaves the port alone. -/
@[simp] theorem record_port : (m.record e).mpSerialPort = m.mpSerialPort := rfl

/-- INTERNAL: a record leaves the wait for a response alone. -/
@[simp] theorem record_waiting : (m.record e).mWaitingForResponse = m.mWaitingForResponse := rfl

/-- INTERNAL: a record leaves the devices alone. -/
@[simp] theorem record_handler : (m.record e).handler = m.handler := rfl

/-- INTERNAL: a record takes no time. -/
@[simp] theorem record_now : (m.record e).now = m.now := rfl

/-- INTERNAL: what is recorded is the last event. -/
@[simp] theorem record_trace : (m.record e).trace = m.trace ++ [e] := rfl

/-- INTERNAL: the reads leave the queue alone. -/
@[simp] theorem advance_queue :
    (m.advance now reads).mInsteonCommandQueue = m.mInsteonCommandQueue := rfl

/-- INTERNAL: the reads do not reconnect the port. -/
@[simp] theorem advance_reconnects :
    (m.advance now reads).mpSerialPort.reconnects = m.mpSerialPort.reconnects := rfl

/-- INTERNAL: what is left to read. -/
@[simp] theorem advance_reads : (m.advance now reads).mpSerialPort.reads = reads := rfl

/-- INTERNAL: the reads leave the wait for a response alone. -/
@[simp] theorem advance_waiting :
    (m.advance now reads).mWaitingForResponse = m.mWaitingForResponse := rfl

/-- INTERNAL: the reads leave the devices alone. -/
@[simp] theorem advance_handler : (m.advance now reads).handler = m.handler := rfl

/-- INTERNAL: the clock shows the time after the reads. -/
@[simp] theorem advance_now : (m.advance now reads).now = now := rfl

/-- INTERNAL: the reads are not recorded. -/
@[simp] theorem advance_trace : (m.advance now reads).trace = m.trace := rfl

end Fields

/-- The constructor, with `mWaitingForResponse` as it happens to be: it is not set there. -/
def new (port : ISerialPort) (waiting : Bool) (handler : σ) (now : ℤ) : InsteonModem σ :=
  push
    { mInsteonCommandQueue := []
      mpSerialPort := port
      mWaitingForResponse := waiting
      handler := handler
      now := now
      trace := [] }
    [imConfigurationMessage 0b01000000]

/-! ## The commands of the queue -/

def getFirstAllLinkRecord (m : InsteonModem σ) : InsteonModem σ :=
  m.push [allLinkDatabaseMessage true]

def getNextAllLinkRecord (m : InsteonModem σ) : InsteonModem σ :=
  m.push [allLinkDatabaseMessage false]

def writeCommand (m : InsteonModem σ) (destination : InsteonID) (cmd1 cmd2 : UInt8) :
    InsteonModem σ :=
  m.push [standardMessage destination cmd1 cmd2]

def writeI2CSCommand (m : InsteonModem σ) (destination : InsteonID) (cmd1 cmd2 : UInt8)
    (buf : Vector UInt8 14) : InsteonModem σ :=
  m.push [extendedMessage destination cmd1 cmd2 buf true]

def writeExtendedCommand (m : InsteonModem σ) (destination : InsteonID) (cmd1 cmd2 : UInt8)
    (data : Vector UInt8 14) : InsteonModem σ :=
  m.push [extendedMessage destination cmd1 cmd2 data false]

/-! ## Sending -/

/-- The loop of `waitForReply`, begun at time `t`, with `size` bytes read: whether the modem
acknowledged, the time, and what is left to read. -/
def waitForReply (echoSize : ℕ) (t : ℤ) :
    ℤ → ℕ → List ReadResult → Option (Bool × ℤ × List ReadResult)
  | _, _, [] => none
  | now, size, r :: rs =>
    let t2 := now + r.elapsed
    if t2 - t ≥ 2 then some (false, t2, rs)
    else match r.byte with
      | none => waitForReply echoSize t t2 size rs
      | some b =>
        if size + 1 = echoSize then some (decide (b = 0x06), t2, rs)
        else waitForReply echoSize t t2 (size + 1) rs

/-- INTERNAL: the clock does not go back while the modem waits for the echo. -/
theorem waitForReply_le {echoSize size : ℕ} {t now now' : ℤ} {reads reads' : List ReadResult}
    {ack : Bool} (h : waitForReply echoSize t now size reads = some (ack, now', reads')) :
    now ≤ now' := by
  induction reads generalizing now size with
  | nil => cases h
  | cons r rs ih =>
    have hr : now ≤ now + r.elapsed := by omega
    simp only [waitForReply] at h
    split at h
    · cases h
      exact hr
    · split at h
      · exact Int.le_trans hr (ih h)
      · split at h
        · cases h
          exact hr
        · exact Int.le_trans hr (ih h)

/-- What the modem and its handler do once a message was acknowledged. -/
def onAcknowledged (H : IInsteonMessageHandler σ) (m : InsteonModem σ)
    (cmd : IInsteonMessage) : InsteonModem σ :=
  let id := cmd.getDestination
  let m := if id = 0 ∧ cmd.needAck then { m with mWaitingForResponse := true } else m
  let m := m.record (.messageSent m.now cmd)
  let e := H.onInsteonMessageSent m.now id cmd m.handler
  { m with handler := e.state }.push e.commands

section Acknowledged

variable (H : IInsteonMessageHandler σ) (m : InsteonModem σ) (cmd : IInsteonMessage)

/-- INTERNAL: the answer of the devices to an acknowledgement is queued.
SOURCE: InsteonModem.cpp:276-281 -/
theorem onAcknowledged_queue : (m.onAcknowledged H cmd).mInsteonCommandQueue =
    m.mInsteonCommandQueue ++
      (H.onInsteonMessageSent m.now cmd.getDestination cmd m.handler).commands := by
  unfold onAcknowledged
  dsimp only
  split <;> rfl

/-- INTERNAL: an acknowledgement leaves the port alone. -/
theorem onAcknowledged_port : (m.onAcknowledged H cmd).mpSerialPort = m.mpSerialPort := by
  unfold onAcknowledged
  dsimp only
  split <;> rfl

/-- INTERNAL: a message without a destination that needs an ACK starts the wait.
SOURCE: InsteonModem.cpp:276-280 -/
theorem onAcknowledged_waiting : (m.onAcknowledged H cmd).mWaitingForResponse = true ↔
    (cmd.getDestination = 0 ∧ cmd.needAck = true) ∨ m.mWaitingForResponse = true := by
  unfold onAcknowledged
  dsimp only
  split <;> simp [*]

/-- INTERNAL: the message is recorded as sent, then what the devices queued. -/
theorem onAcknowledged_trace : (m.onAcknowledged H cmd).trace =
    m.trace ++ .messageSent m.now cmd ::
      (H.onInsteonMessageSent m.now cmd.getDestination cmd m.handler).commands.map
        .enqueued := by
  unfold onAcknowledged
  dsimp only
  split <;> simp

end Acknowledged

def sendCommand (H : IInsteonMessageHandler σ) (m : InsteonModem σ) (cmd : IInsteonMessage) :
    Option (InsteonModem σ) :=
  if m.mpSerialPort.writes = false then some m
  else
    let m := m.record (.wrote m.now cmd)
    (waitForReply cmd.mEchoSize m.now m.now 0 m.mpSerialPort.reads).map
      fun (ack, now, reads) =>
        let m := m.advance now reads
        if ack then m.onAcknowledged H cmd else m

/-- The first half of `process`: the front command is sent. -/
def sendFront (H : IInsteonMessageHandler σ) (readyToSend : Bool) (m : InsteonModem σ) :
    Option (InsteonModem σ) :=
  if readyToSend && !m.mWaitingForResponse then
    match m.mInsteonCommandQueue with
    | [] => some m
    | cmd :: rest => { m with mInsteonCommandQueue := rest }.sendCommand H cmd
  else some m

/-- INTERNAL: what the first half of `process` can do: nothing, drop the front command when
the port does not take it, or write it, with or without an acknowledgement.
SOURCE: InsteonModem.cpp:66-86, 252-283 -/
theorem sendFront_cases {H : IInsteonMessageHandler σ} {readyToSend : Bool}
    {m m' : InsteonModem σ} (h : m.sendFront H readyToSend = some m') :
    (m' = m ∧ (readyToSend = true → m.mWaitingForResponse = false →
        m.mInsteonCommandQueue = [])) ∨
      ∃ cmd rest, readyToSend = true ∧ m.mWaitingForResponse = false ∧
        m.mInsteonCommandQueue = cmd :: rest ∧
        ((m.mpSerialPort.writes = false ∧ m' = { m with mInsteonCommandQueue := rest }) ∨
          m.mpSerialPort.writes = true ∧ ∃ ack now reads,
            waitForReply cmd.mEchoSize m.now m.now 0 m.mpSerialPort.reads =
              some (ack, now, reads) ∧
            m' =
              let w := (({ m with mInsteonCommandQueue := rest }).record
                (.wrote m.now cmd)).advance now reads
              if ack then w.onAcknowledged H cmd else w) := by
  unfold sendFront at h
  split at h
  case isFalse hready =>
    refine .inl ⟨(Option.some.inj h).symm, fun hr hw => ?_⟩
    simp [hr, hw] at hready
  case isTrue hready =>
    obtain ⟨hr, hw⟩ : readyToSend = true ∧ m.mWaitingForResponse = false := by
      simpa using hready
    split at h
    case h_1 hq => exact .inl ⟨(Option.some.inj h).symm, fun _ _ => hq⟩
    case h_2 cmd rest hq =>
      refine .inr ⟨cmd, rest, hr, hw, hq, ?_⟩
      simp only [sendCommand] at h
      split at h
      case isTrue hwrites => exact .inl ⟨hwrites, (Option.some.inj h).symm⟩
      case isFalse hwrites =>
        obtain ⟨⟨ack, now, reads⟩, hreply, hm'⟩ := Option.map_eq_some_iff.mp h
        exact .inr ⟨by simpa using hwrites, ack, now, reads, hreply, hm'.symm⟩

/-! ## Receiving -/

/-- The `length` for each type of message. -/
def messageLength (cmd : UInt8) : Option ℕ :=
  if cmd = 0x50 then some 11
  else if cmd = 0x51 then some 25
  else if cmd = 0x52 then some 4
  else if cmd = 0x53 then some 10
  else if cmd = 0x54 then some 3
  else if cmd = 0x55 then some 2
  else if cmd = 0x56 then some 7
  else if cmd = 0x57 then some 10
  else if cmd = 0x58 then some 3
  else none

/-- INTERNAL: a message has a type, and fits the buffer.
SOURCE: InsteonModem.cpp:138-160 -/
theorem messageLength_bounds {type : UInt8} {n : ℕ} (h : messageLength type = some n) :
    2 ≤ n ∧ n ≤ 25 := by
  simp only [messageLength] at h
  constructor
  · grind
  · grind

/-- The loop of `waitForUnsolicitedMessage`: the type and the buffer of the message, or
`none` for an unexpected type; with the time and what is left to read. -/
def unsolicitedLoop (index : ℕ) (cmd : UInt8) (length : ℕ) (buf : FrameBuffer) (now : ℤ) :
    List ReadResult → Option (Option (UInt8 × FrameBuffer) × ℤ × List ReadResult)
  | [] => none
  | r :: rs =>
    let now := now + r.elapsed
    match r.byte with
    | none => unsolicitedLoop index cmd length buf now rs
    | some b =>
      match if index = 1 then (messageLength b).map (b, ·) else some (cmd, length) with
      | none => some (none, now, rs)
      | some (cmd, length) =>
        let buf := buf.set index b
        if index + 1 = length then some (some (cmd, buf), now, rs)
        else unsolicitedLoop (index + 1) cmd length buf now rs

/-- INTERNAL: the clock does not go back while a message is read. -/
theorem unsolicitedLoop_le {index length : ℕ} {cmd : UInt8} {buf : FrameBuffer}
    {now now' : ℤ} {reads reads' : List ReadResult} {r : Option (UInt8 × FrameBuffer)}
    (h : unsolicitedLoop index cmd length buf now reads = some (r, now', reads')) :
    now ≤ now' := by
  induction reads generalizing index cmd length buf now with
  | nil => cases h
  | cons x xs ih =>
    have hx : now ≤ now + x.elapsed := by omega
    simp only [unsolicitedLoop] at h
    split at h
    · exact Int.le_trans hx (ih h)
    · split at h
      · cases h
        exact hx
      · split at h
        · cases h
          exact hx
        · exact Int.le_trans hx (ih h)

def processStandardMessage (H : IInsteonMessageHandler σ) (m : InsteonModem σ)
    (buf : FrameBuffer) : InsteonModem σ :=
  let e := H.onInsteonMessage m.now buf m.handler
  { m.record (.message buf e.processed) with handler := e.state }.push e.commands

def processAllLinkRecordResponse (H : IInsteonMessageHandler σ) (m : InsteonModem σ)
    (buf : FrameBuffer) : InsteonModem σ :=
  let e := H.onInsteonAllLinkRecordResponse m.now buf m.handler
  let m := { m.record (.allLinkRecord buf) with
    mWaitingForResponse := false
    handler := e.state }
  (m.push e.commands).getNextAllLinkRecord

/-- The `switch (cmd)` over a complete message. -/
def processUnsolicited (H : IInsteonMessageHandler σ) (m : InsteonModem σ) (cmd : UInt8)
    (buf : FrameBuffer) : InsteonModem σ :=
  if cmd = 0x50 then m.processStandardMessage H buf
  else if cmd = 0x57 then m.processAllLinkRecordResponse H buf
  else m

def waitForUnsolicitedMessage (H : IInsteonMessageHandler σ) (m : InsteonModem σ) :
    Option (InsteonModem σ) :=
  (unsolicitedLoop 1 0 0 (List.replicate 50 0) m.now m.mpSerialPort.reads).map
    fun (r, now, reads) =>
      let m := m.advance now reads
      match r with
      | some (cmd, buf) => m.processUnsolicited H cmd buf
      | none => m

/-- `getByte()`: the byte, `none` for -1. -/
def getByte (m : InsteonModem σ) : Option UInt8 × InsteonModem σ :=
  match m.mpSerialPort.reads with
  | [] => (none, m)
  | r :: rs => (r.byte, m.advance (m.now + r.elapsed) rs)

/-- The second half of `process`, with its result: there was nothing to read. -/
def readFront (H : IInsteonMessageHandler σ) (m : InsteonModem σ) :
    Option (InsteonModem σ × Bool) :=
  match m.getByte with
  | (none, m) => some (m, true)
  | (some b, m) =>
    if b = 0x02 then (m.waitForUnsolicitedMessage H).map (·, false) else some (m, false)

/-- INTERNAL: what the second half of `process` can do: read, and hand at most one message
to the handler. SOURCE: InsteonModem.cpp:88-194 -/
theorem readFront_cases {H : IInsteonMessageHandler σ} {m m' : InsteonModem σ} {idle : Bool}
    (h : m.readFront H = some (m', idle)) :
    ∃ now reads, m.now ≤ now ∧ (m' = m.advance now reads ∨
      ∃ buf, m' = (m.advance now reads).processStandardMessage H buf ∨
        m' = (m.advance now reads).processAllLinkRecordResponse H buf) := by
  unfold readFront getByte at h
  split at h
  case h_1 m₁ hbyte =>
    cases h
    split at hbyte
    · obtain ⟨-, rfl⟩ := Prod.mk.inj hbyte
      exact ⟨m.now, m.mpSerialPort.reads, Int.le_refl _, .inl rfl⟩
    case h_2 r rs hreads =>
      obtain ⟨-, rfl⟩ := Prod.mk.inj hbyte
      exact ⟨m.now + r.elapsed, rs, by omega, .inl rfl⟩
  case h_2 b m₁ hbyte =>
    split at hbyte
    · cases hbyte
    case h_2 r rs hreads =>
      obtain ⟨-, rfl⟩ := Prod.mk.inj hbyte
      have hle : m.now ≤ m.now + r.elapsed := by omega
      split at h
      · obtain ⟨m₂, hwait, heq⟩ := Option.map_eq_some_iff.mp h
        cases heq
        obtain ⟨⟨res, now, reads⟩, hloop, hm'⟩ := Option.map_eq_some_iff.mp hwait
        have hle' := Int.le_trans hle (unsolicitedLoop_le hloop)
        refine ⟨now, reads, hle', ?_⟩
        subst hm'
        cases res with
        | none => exact .inl rfl
        | some frame =>
          dsimp only [processUnsolicited]
          split
          · exact .inr ⟨frame.2, .inl rfl⟩
          · split
            · exact .inr ⟨frame.2, .inr rfl⟩
            · exact .inl rfl
      · cases h
        exact ⟨_, _, hle, .inl rfl⟩

def process (H : IInsteonMessageHandler σ) (readyToSend : Bool) (m : InsteonModem σ) :
    Option (InsteonModem σ × Bool) :=
  if m.mpSerialPort.reconnects = false then some (m, false)
  else (m.sendFront H readyToSend).bind (readFront H)

end InsteonModem

end Dhas.Program
