import Dhas.Library.Run
import Dhas.Analysis.PlmFraming

/-!
# The serial line of the PLM

The calls of `process()` and what the PLM sends between and during them: complete unsolicited
frames, and for each command written its echo, which is never cut by a frame. The echo comes
in time, so the reads up to its last byte take less than the two seconds of `waitForReply`.

A frame that is sent between two calls counts as sent in the second one: before the echo, if
that call writes a command. Callers of the modem put commands on the queue between the calls.
The connection may be down, or take no data, in any call.
-/

set_option autoImplicit false

namespace Dhas.Model

open Dhas.Program Dhas.Analysis

/-- What the PLM sends. -/
inductive LineItem where
  | frame (f : UnsolicitedFrame)
  /-- the echo of a command, with the PLM's answer to it -/
  | echo (cmd : IInsteonMessage) (ack : Bool)

namespace LineItem

/-- The last byte of an echo. -/
def answerByte (ack : Bool) : UInt8 := if ack then 0x06 else 0x15

def bytes : LineItem → List UInt8
  | .frame f => 0x02 :: f.type :: f.contents
  | .echo cmd ack => cmd.getBuffer ++ [answerByte ack]

/-- The call that the item is to cause. -/
def call : LineItem → Option HandlerCall
  | .frame f => f.call
  | .echo _ _ => none

end LineItem

/-- The bytes of frames that come one after the other. -/
def frameBytes (frames : List UnsolicitedFrame) : List UInt8 :=
  (frames.map LineItem.frame).flatMap LineItem.bytes

/-- The seconds until the `n`-th byte is read. -/
def secondsUntil : ℕ → List ReadResult → ℕ
  | 0, _ => 0
  | _ + 1, [] => 0
  | n + 1, r :: rs => r.elapsed + secondsUntil (if r.byte.isSome then n else n + 1) rs

structure PlmLine (σ : Type) where
  modem : InsteonModem σ
  /-- the last call of `process()` returned -/
  returned : Bool
  /-- what the PLM has sent, oldest first -/
  sent : List LineItem
  /-- the commands it got, with its answers -/
  answers : List (IInsteonMessage × Bool)

namespace PlmLine

variable {σ : Type}

inductive Act where
  /-- any caller of the modem's `write...` functions -/
  | enqueue (cmd : IInsteonMessage)
  /-- a call of `process`: the port during the call, the frames sent before a command is
  written or between the command and its echo, the PLM's answer to the command, and the
  frames sent after its echo -/
  | process (readyToSend : Bool) (port : ISerialPort) (before : List UnsolicitedFrame)
      (ack : Bool) (after : List UnsolicitedFrame)

/-- The modem after its constructor, with a port that is not yet used. -/
def init (waiting : Bool) (handler : σ) (now : ℤ) : PlmLine σ where
  modem := InsteonModem.new ⟨false, false, []⟩ waiting handler now
  returned := true
  sent := []
  answers := []

/-- The command that `process` is going to write. -/
def toWrite (m : InsteonModem σ) (readyToSend : Bool) : Option IInsteonMessage :=
  if m.mpSerialPort.reconnects && m.mpSerialPort.writes && readyToSend &&
      !m.mWaitingForResponse then
    m.mInsteonCommandQueue.head?
  else none

/-- What the PLM sends in a call that writes `written`. -/
def items (written : Option IInsteonMessage) (before : List UnsolicitedFrame) (ack : Bool)
    (after : List UnsolicitedFrame) : List LineItem :=
  before.map .frame ++ written.toList.map (.echo · ack) ++ after.map .frame

/-- The echo of a command that is written comes in time: `rest` are the bytes after it. -/
def InTime (written : Option IInsteonMessage) (port : ISerialPort) (rest : List UInt8) : Prop :=
  written.isSome → secondsUntil (port.bytes.length - rest.length) port.reads < 2

instance (written : Option IInsteonMessage) (port : ISerialPort) (rest : List UInt8) :
    Decidable (InTime written port rest) :=
  inferInstanceAs (Decidable (_ → _))

/-- A call is possible when the port brings what was not read before and what the PLM sends
now, and the echo comes in time. No call follows one that does not return. -/
def step (H : IInsteonMessageHandler σ) (s : PlmLine σ) : Act → Option (PlmLine σ)
  | .enqueue cmd => some { s with modem := s.modem.push [cmd] }
  | .process readyToSend port before ack after =>
    let m := { s.modem with mpSerialPort := port }
    let written := toWrite m readyToSend
    let sentNow := items written before ack after
    if s.returned ∧ port.bytes = s.modem.mpSerialPort.bytes ++ sentNow.flatMap LineItem.bytes ∧
        InTime written port (frameBytes after) then
      let result := m.process H readyToSend
      some {
        modem := (result.map (·.1)).getD m
        returned := result.isSome
        sent := s.sent ++ sentNow
        answers := s.answers ++ written.toList.map (·, ack) }
    else none

end PlmLine

end Dhas.Model
