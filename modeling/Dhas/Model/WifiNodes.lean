import Dhas.Library.Run
import Dhas.Program.DHASWifiNodesModule

/-!
# The loop of the wifi nodes

The loop of `DHASWifiNodesModule::run` takes advertisements, what the sockets of the nodes
give, and after each `epoll_wait` the queued data, the heartbeats and the drivers. Here each of
these may come at any point, with any clock reading.
-/

set_option autoImplicit false

namespace Dhas.Model

open Dhas.Program

namespace WifiNodes

inductive Act where
  /-- a node advertises itself; `connected` is the descriptor when the connection succeeds -/
  | advertisement (name ip id : CString) (now : ℤ) (connected : Option ℤ)
  /-- a descriptor is ready, and `recv` returns -/
  | ready (fd : ℤ) (r : Recv) (now : ℤ)
  | sendQueued
  | checkHeartBeats (now : ℤ)
  | runNodes (t now : ℤ)

/-- One part of the loop; `none` when a null driver is followed. -/
def step (parse : List UInt8 → IOBoardData) (m : DHASWifiNodesModule) :
    Act → Option DHASWifiNodesModule
  | .advertisement name ip id now connected => some (m.discoverNode name ip id now connected)
  | .ready fd r now =>
    match m.findSocket fd with
    | some it => m.receiveFromNode parse it.1 it.2 r now
    | none => some m
  | .sendQueued => some m.sendQueued
  | .checkHeartBeats now => m.checkHeartBeats now
  | .runNodes t now => m.runNodes t now

/-- The types of the events of nodes that come and go. -/
inductive NodeEvent where
  | new
  | closed
  deriving DecidableEq

/-- What a message says of the node at an address. -/
def nodeEvent (ip : CString) (message : JSON) : Option NodeEvent :=
  if message.str "event" = "dwn".toList ∧ message.str "ip" = ip then
    if message.str "type" = "new".toList then some .new
    else if message.str "type" = "closed".toList then some .closed
    else none
  else none

/-- The 'new' and 'closed' events of an address. -/
def nodeEvents (ip : CString) (trace : List WifiItem) : List NodeEvent :=
  trace.filterMap fun item =>
    match item with
    | .processEvent message => nodeEvent ip message.json
    | _ => none

end WifiNodes

end Dhas.Model
