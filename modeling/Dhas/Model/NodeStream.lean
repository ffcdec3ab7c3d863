import Dhas.Model.WifiNodes

/-!
# The byte stream of one wifi node

What a node sends is a stream of bytes: heartbeats, and the messages of its driver. TCP gives
`recv` some bytes of it at a time. `advance` and `Punctual` look at the stream as the node sent
it; a heartbeat arrives with its last byte.
-/

set_option autoImplicit false

namespace Dhas.Model

open Dhas.Program Dhas.Program.DHASWifiNodesModule

namespace NodeStream

/-- A message of a node. -/
inductive Message where
  | heartBeat
  | driver (buf : List UInt8) (ne_nil : buf ≠ []) (ne_heartBeat : buf ≠ heartBeat)

/-- The bytes of a message. -/
def Message.wire : Message → List UInt8
  | .heartBeat => DHASWifiNodesModule.heartBeat
  | .driver buf _ _ => buf

def Message.isHeartBeat : Message → Bool
  | .heartBeat => true
  | .driver _ _ _ => false

/-- What is done for a message of the node at `ip`. -/
def Message.item (ip : CString) : Message → WifiItem
  | .heartBeat => .heartBeat ip
  | .driver buf _ _ => .processData ip buf

inductive Act where
  /-- `recv` on the socket of the node returns these bytes -/
  | recv (buf : List UInt8) (now : ℤ)
  | checkHeartBeats (now : ℤ)

/-- What happens to the node at `ip`; `recv` needs its socket. -/
def step (parse : List UInt8 → IOBoardData) (ip : CString) (m : DHASWifiNodesModule) :
    Act → Option DHASWifiNodesModule
  | .recv buf now => m.mNodes[ip]?.bind fun node => m.receiveFromNode parse ip node (.data buf) now
  | .checkHeartBeats now => m.checkHeartBeats now

/-- What `recv` returned, in order. -/
def chunks (acts : List Act) : List (List UInt8) :=
  acts.filterMap fun act =>
    match act with
    | .recv buf _ => some buf
    | .checkHeartBeats _ => none

/-- What was done for the node at `ip`. -/
def Handles (ip : CString) : WifiItem → Bool
  | .heartBeat ip' => ip' = ip
  | .processData ip' _ => ip' = ip
  | _ => false

def handled (ip : CString) (trace : List WifiItem) : List WifiItem := trace.filter (Handles ip)

/-- When `n` bytes of the messages are there: the messages that are not complete yet, the number
of their bytes that are there, and whether a complete message is a heartbeat. -/
def advance : List Message → ℕ → List Message × ℕ × Bool
  | [], n => ([], n, false)
  | message :: rest, n =>
    if message.wire.length ≤ n then
      let r := advance rest (n - message.wire.length)
      (r.1, r.2.1, message.isHeartBeat || r.2.2)
    else (message :: rest, n, false)

/-- At every sweep a heartbeat arrived no more than 5 seconds ago; `n` bytes of the messages are
there, and the last heartbeat arrived at `last`. -/
def Punctual (messages : List Message) (n : ℕ) (last : ℤ) : List Act → Prop
  | [] => True
  | .recv buf now :: acts =>
    let r := advance messages (n + buf.length)
    Punctual r.1 r.2.1 (if r.2.2 then now else last) acts
  | .checkHeartBeats now :: acts => now ≤ last + NODE_HEARTBEAT ∧ Punctual messages n last acts

end NodeStream

end Dhas.Model
