import Dhas.Library.Run
import Dhas.Program.InsteonModule

/-!
# The loop of the Insteon module and its callers

The Insteon thread in `Insteon::run`, and the REST callbacks and other callers that put
commands on the queue between its steps. The loop visits the devices one at a time, with a
clock that may go on in between, stops at the first one that is busy, and calls `process`,
whose sending and receiving halves are two steps.

`clearModuleList` suspends the module first, so it takes place where the thread is in
`stopping()`, before it visits the first device. `writeGroupCleanupCommand` is called by
`KeypadLinc` only, which is never constructed, so no caller enqueues such a message.
-/

set_option autoImplicit false

namespace Dhas.Model

open Dhas.Program

/-- Where the Insteon thread is in its loop. -/
inductive LoopPc where
  /-- at a device of `mModules`, past the key -/
  | devices (visited : Option InsteonID)
  /-- `mpInsteonModem->process(devicesIdle)` -/
  | process (devicesIdle : Bool)
  /-- in `process`, the command is sent -/
  | reading
  deriving DecidableEq

structure InsteonLoop where
  modem : InsteonState
  pc : LoopPc

namespace InsteonLoop

inductive Act where
  /-- the clock goes on -/
  | tick (seconds : ℕ)
  /-- what the network does next -/
  | network (port : ISerialPort)
  /-- a registered REST callback -/
  | rest (path : InsteonPath) (params : RESTParameters) (unset : UnsetMemory)
  /-- any other caller of the modem's `write...` functions -/
  | enqueue (cmd : IInsteonMessage)
  /-- the loop over `mModules` asks the next device whether it is idle, or ends -/
  | checkDevice
  | send
  | receive

/-- The module after `configure`. The modem's constructor does not set
`mWaitingForResponse`, which is `waiting` here. -/
def init (port : ISerialPort) (waiting : Bool) (now : ℤ) : InsteonLoop where
  modem := InsteonModem.new port waiting Insteon.empty now
  pc := .devices none

/-- The next device is asked, and the loop ends with the first one that is busy. -/
def checkDevice (s : InsteonLoop) (visited : Option InsteonID) : InsteonLoop :=
  match s.modem.handler.nextDevice visited with
  | none => { s with pc := .process true }
  | some (id, d) =>
    let (idle, d) := d.isIdle s.modem.now
    { modem := { s.modem with handler := s.modem.handler.setDevice id d }
      pc := if idle then .devices (some id) else .process false }

def step (s : InsteonLoop) : Act → Option InsteonLoop
  | .tick seconds => some { s with modem := { s.modem with now := s.modem.now + seconds } }
  | .network port => some { s with modem := { s.modem with mpSerialPort := port } }
  | .rest path params unset =>
    if path = .clearmodules ∧ s.pc ≠ .devices none then none
    else some { s with modem := (s.modem.callback path params unset).1 }
  | .enqueue cmd =>
    if cmd.messageClass = .groupCleanup then none
    else some { s with modem := s.modem.push [cmd] }
  | .checkDevice =>
    match s.pc with
    | .devices visited => some (s.checkDevice visited)
    | _ => none
  | .send =>
    match s.pc with
    | .process devicesIdle =>
      if s.modem.mpSerialPort.reconnects = false then some { s with pc := .devices none }
      else (s.modem.sendFront Insteon.messageHandler devicesIdle).map
        fun modem => { modem := modem, pc := .reading }
    | _ => none
  | .receive =>
    if s.pc = .reading then
      (s.modem.readFront Insteon.messageHandler).map
        fun r => { modem := r.1, pc := .devices none }
    else none

/-- What a step can do. The sending half of `process` has four outcomes: the port is down,
nothing is sent, the port does not take the command, the command is written. The receiving
half hands over at most one message. -/
inductive StepEffect (s : InsteonLoop) : Act → InsteonLoop → Prop where
  | tick (seconds : ℕ) : StepEffect s (.tick seconds) { s with modem.now := s.modem.now + seconds }
  | network (port : ISerialPort) :
      StepEffect s (.network port) { s with modem.mpSerialPort := port }
  | rest (path : InsteonPath) (params : RESTParameters) (unset : UnsetMemory) :
      StepEffect s (.rest path params unset)
        { s with modem := (s.modem.callback path params unset).1 }
  | enqueue (cmd : IInsteonMessage) (hclass : cmd.messageClass ≠ .groupCleanup) :
      StepEffect s (.enqueue cmd) { s with modem := s.modem.push [cmd] }
  | checkDevice (visited : Option InsteonID) (hpc : s.pc = .devices visited) :
      StepEffect s .checkDevice (s.checkDevice visited)
  | disconnected (devicesIdle : Bool) (hpc : s.pc = .process devicesIdle)
      (hconn : s.modem.mpSerialPort.reconnects = false) :
      StepEffect s .send { s with pc := .devices none }
  | nothingSent (devicesIdle : Bool) (hpc : s.pc = .process devicesIdle)
      (hnone : devicesIdle = true → s.modem.mWaitingForResponse = false →
        s.modem.mInsteonCommandQueue = []) :
      StepEffect s .send { s with pc := .reading }
  | dropped (cmd : IInsteonMessage) (rest : List IInsteonMessage) (hpc : s.pc = .process true)
      (hq : s.modem.mInsteonCommandQueue = cmd :: rest)
      (hwrites : s.modem.mpSerialPort.writes = false) :
      StepEffect s .send { modem := { s.modem with mInsteonCommandQueue := rest }, pc := .reading }
  | written (cmd : IInsteonMessage) (rest : List IInsteonMessage) (ack : Bool) (now : ℤ)
      (reads : List ReadResult) (hpc : s.pc = .process true)
      (hconn : s.modem.mpSerialPort.reconnects = true)
      (hwait : s.modem.mWaitingForResponse = false)
      (hq : s.modem.mInsteonCommandQueue = cmd :: rest)
      (hwrites : s.modem.mpSerialPort.writes = true)
      (hreply : InsteonModem.waitForReply cmd.mEchoSize s.modem.now s.modem.now 0
        s.modem.mpSerialPort.reads = some (ack, now, reads)) :
      StepEffect s .send {
        modem :=
          let w := (({ s.modem with mInsteonCommandQueue := rest }).record
            (.wrote s.modem.now cmd)).advance now reads
          if ack then w.onAcknowledged Insteon.messageHandler cmd else w
        pc := .reading }
  | nothingRead (now : ℤ) (reads : List ReadResult) (hle : s.modem.now ≤ now) :
      StepEffect s .receive { modem := s.modem.advance now reads, pc := .devices none }
  | message (now : ℤ) (reads : List ReadResult) (hle : s.modem.now ≤ now) (buf : FrameBuffer) :
      StepEffect s .receive {
        modem := (s.modem.advance now reads).processStandardMessage Insteon.messageHandler buf
        pc := .devices none }
  | allLinkRecord (now : ℤ) (reads : List ReadResult) (hle : s.modem.now ≤ now)
      (buf : FrameBuffer) :
      StepEffect s .receive {
        modem := (s.modem.advance now reads).processAllLinkRecordResponse
          Insteon.messageHandler buf
        pc := .devices none }

/-- INTERNAL: **what a step can do.** -/
theorem step_effect {s s' : InsteonLoop} {a : Act} (hstep : step s a = some s') :
    StepEffect s a s' := by
  cases a with
  | tick seconds =>
    obtain rfl := Option.some.inj hstep
    exact .tick seconds
  | network port =>
    obtain rfl := Option.some.inj hstep
    exact .network port
  | rest path params unset =>
    simp only [step, Option.ite_none_left_eq_some, Option.some.injEq] at hstep
    obtain ⟨-, rfl⟩ := hstep
    exact .rest path params unset
  | enqueue cmd =>
    simp only [step, Option.ite_none_left_eq_some, Option.some.injEq] at hstep
    obtain ⟨hclass, rfl⟩ := hstep
    exact .enqueue cmd hclass
  | checkDevice =>
    simp only [step] at hstep
    split at hstep
    case h_2 => cases hstep
    case h_1 visited hpc =>
      obtain rfl := Option.some.inj hstep
      exact .checkDevice visited hpc
  | send =>
    simp only [step] at hstep
    split at hstep
    case h_2 => cases hstep
    case h_1 devicesIdle hpc =>
      split at hstep
      case isTrue hconn =>
        obtain rfl := Option.some.inj hstep
        exact .disconnected devicesIdle hpc hconn
      case isFalse hconn =>
        obtain ⟨m', hsend, rfl⟩ := Option.map_eq_some_iff.mp hstep
        rcases InsteonModem.sendFront_cases hsend with
          ⟨rfl, hnone⟩ | ⟨cmd, rest, rfl, hwait, hq, hcase⟩
        · exact .nothingSent devicesIdle hpc hnone
        · rcases hcase with ⟨hwrites, rfl⟩ | ⟨hwrites, ack, now, reads, hreply, rfl⟩
          · exact .dropped cmd rest hpc hq hwrites
          · exact .written cmd rest ack now reads hpc (by simpa using hconn) hwait hq hwrites
              hreply
  | receive =>
    simp only [step, Option.ite_none_right_eq_some] at hstep
    obtain ⟨-, hstep⟩ := hstep
    obtain ⟨⟨m', idle⟩, hread, rfl⟩ := Option.map_eq_some_iff.mp hstep
    obtain ⟨now, reads, hle, hm'⟩ := InsteonModem.readFront_cases hread
    rcases hm' with rfl | ⟨buf, rfl | rfl⟩
    · exact .nothingRead now reads hle
    · exact .message now reads hle buf
    · exact .allLinkRecord now reads hle buf

end InsteonLoop

end Dhas.Model
