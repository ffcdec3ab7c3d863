import Dhas.Library.Run
import Dhas.Model.PlmLine

/-!
# The commands of the modem and the answers of the PLM

The calls of `process()` with whatever the serial port does in each of them, and the callers
that put commands on the queue between the calls. A command that `process()` takes from the
queue may meet a port that does not take it, the echo with the answer 0x06 or 0x15, other bytes
in its place, or no echo within two seconds.

`acknowledged` is not in the source: it is what the PLM has answered, told from the bytes and
the clock of the port and not from what the modem makes of them.
-/

set_option autoImplicit false

namespace Dhas.Model

open Dhas.Program

/-- The PLM gets the command, and answers it with 0x06 at the end of its echo, before two
seconds are over. -/
def PlmAnswersAck (port : ISerialPort) (cmd : IInsteonMessage) : Prop :=
  port.writes = true ∧ port.bytes[cmd.mEchoSize - 1]? = some 0x06 ∧
    secondsUntil cmd.mEchoSize port.reads < 2

instance (port : ISerialPort) (cmd : IInsteonMessage) : Decidable (PlmAnswersAck port cmd) :=
  inferInstanceAs (Decidable (_ ∧ _))

structure CommandRuns (σ : Type) where
  modem : InsteonModem σ
  /-- the commands that the PLM has answered with 0x06 -/
  acknowledged : List IInsteonMessage

namespace CommandRuns

variable {σ : Type}

inductive Act where
  /-- the clock goes on -/
  | tick (seconds : ℕ)
  /-- any caller of the modem's `write...` functions -/
  | enqueue (cmd : IInsteonMessage)
  /-- a call of `process`, with the port during the call -/
  | process (readyToSend : Bool) (port : ISerialPort)

/-- The modem after its constructor, with a port that is not yet used. -/
def init (waiting : Bool) (handler : σ) (now : ℤ) : CommandRuns σ where
  modem := InsteonModem.new ⟨false, false, []⟩ waiting handler now
  acknowledged := []

/-- The command that `process` is going to take from the queue. -/
def taken (m : InsteonModem σ) (readyToSend : Bool) (port : ISerialPort) :
    Option IInsteonMessage :=
  if port.reconnects && readyToSend && !m.mWaitingForResponse then
    m.mInsteonCommandQueue.head?
  else none

/-- What the PLM acknowledges in a call of `process`. -/
def acksNow (m : InsteonModem σ) (readyToSend : Bool) (port : ISerialPort) :
    List IInsteonMessage :=
  (taken m readyToSend port).toList.filter fun cmd => PlmAnswersAck port cmd

/-- A call of `process` that does not return leads to no state between the calls. -/
def step (H : IInsteonMessageHandler σ) (s : CommandRuns σ) : Act → Option (CommandRuns σ)
  | .tick seconds => some { s with modem := { s.modem with now := s.modem.now + seconds } }
  | .enqueue cmd => some { s with modem := s.modem.push [cmd] }
  | .process readyToSend port =>
    let m := { s.modem with mpSerialPort := port }
    (m.process H readyToSend).map fun r => {
      modem := r.1
      acknowledged := s.acknowledged ++ acksNow s.modem readyToSend port }

end CommandRuns

end Dhas.Model
