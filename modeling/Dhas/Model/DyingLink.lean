import Dhas.Program.AlarmModule
import Dhas.Program.InsteonModem

/-!
# A link that dies while a message is read

The modem reads its messages byte by byte from an `IPSerialPort`. Here the results of `read` on
the socket go on forever, so that a loop that is still reading after any number of them never
returns. `Reconnect` is called by `process`, which does not go on before the loop has returned.
-/

set_option autoImplicit false

namespace Dhas.Model

open Dhas.Program

/-- A `read` on the socket, and the seconds until it returns. -/
structure LinkRead where
  elapsed : ℕ
  result : SocketRead

namespace DyingLink

/-- The port before the call of `Read` with this number. -/
def portAt (p : IPSerialPort) (reads : ℕ → LinkRead) : ℕ → IPSerialPort
  | 0 => p
  | n + 1 => ((portAt p reads n).Read 1 (reads n).result).1

/-- What this call of `Read(&c,1)` gives. -/
def readAt (p : IPSerialPort) (reads : ℕ → LinkRead) (n : ℕ) : ReadResult :=
  ⟨(reads n).elapsed, ((portAt p reads n).Read 1 (reads n).result).2.bind List.head?⟩

/-- The first `n` calls. -/
def firstReads (p : IPSerialPort) (reads : ℕ → LinkRead) (n : ℕ) : List ReadResult :=
  (List.range n).map (readAt p reads)

/-- The bytes that they give. -/
def received (p : IPSerialPort) (reads : ℕ → LinkRead) (n : ℕ) : List UInt8 :=
  (firstReads p reads n).filterMap ReadResult.byte

/-- `waitForUnsolicitedMessage` returns after finitely many reads. -/
def Returns {σ : Type} (H : IInsteonMessageHandler σ) (m : InsteonModem σ) (p : IPSerialPort)
    (reads : ℕ → LinkRead) : Prop :=
  ∃ n, ((m.advance m.now (firstReads p reads n)).waitForUnsolicitedMessage H).isSome = true

/-- The bytes behind 0x02 decide what becomes of the message: its type is not known, or it is
complete. -/
def MessageOver : List UInt8 → Prop
  | [] => False
  | type :: contents =>
    ∀ length, InsteonModem.messageLength type = some length → length ≤ contents.length + 2

end DyingLink

end Dhas.Model
