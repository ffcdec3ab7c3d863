import Mathlib.Logic.Function.Basic
import Dhas.Library.EdgeTriggered
import Dhas.Library.Run
import Dhas.Program.DHASWifiNodesModule

/-!
# The thread of the wifi nodes and its `epoll_wait`

The loop of `DHASWifiNodesModule::run` with what makes it turn. The eventfd of the send queue, the
multicast socket and the sockets of the nodes are registered with `EPOLLET` for reading and for
writing, so each is announced when it is registered, and later when something comes; one that is
announced is reported once. A turn reads one advertisement, or up to 2000 bytes of a node, for each
descriptor that is reported, empties the send queue, and gives the nodes their turn.
`sendToNode` is called by the threads of the REST requests as well: they put the data, and then
write to the eventfd. `DHASWifiNodesModule.cpp:72-142, 207-387`, `DWNSendQueue.cpp:24-40`.

The runs are those of a module that is not stopped. A descriptor may also be announced when
nothing came, as one that is ready for writing is.
-/

set_option autoImplicit false

namespace Dhas.Model

open Dhas.Library Dhas.Program

namespace WifiLoop

/-- What `recvfrom` gives of an advertisement. -/
structure Datagram where
  ip : CString
  text : List UInt8
  deriving DecidableEq

/-- What `Dumais::JSON` reads in a message of an IO board, and the "name" and the "id" that it
reads in an advertisement. -/
structure Parse where
  board : List UInt8 → IOBoardData
  advertisement : List UInt8 → CString × CString

/-- A descriptor that was added to the epoll set. -/
inductive Fd where
  /-- `mSendQueue.getSelfFD()` -/
  | self
  /-- `mSocket` -/
  | multicast
  | node (socket : ℤ)
  deriving DecidableEq

/-- Where the thread of the module is. -/
inductive Pc where
  /-- in `epoll_wait` -/
  | waiting
  /-- `for (int i = 0; i < n; i++)`; these are left -/
  | handling (events : List Fd)
  /-- `while (this->mSendQueue.get(data))` -/
  | sending
  /-- `this->checkHeartBeats();` -/
  | heartBeats
  /-- `this->runNodes();` -/
  | runNodes
  /-- in `runNodes`, which read the clock; these nodes are left -/
  | running (t : ℤ) (nodes : List CString)
  | returned
  deriving DecidableEq

/-- What a step of the thread finds. -/
structure Input where
  /-- the clock -/
  now : ℤ
  /-- the descriptor that `connectNode` leaves in the node when it succeeds -/
  connected : Option ℤ
  /-- `recv` or `recvfrom` fails -/
  failed : Bool

inductive Act where
  /-- an advertisement comes -/
  | advertisement (d : Datagram)
  /-- a node sends -/
  | bytes (socket : ℤ) (buf : List UInt8)
  /-- a descriptor is announced, and nothing came -/
  | stir (fd : Fd)
  /-- another thread, in `sendToNode`: `mpSendQueue->put(b);` -/
  | put (id : CString) (data : List UInt8) (size : UInt8)
  /-- the same thread: `write(mSelfFD,&tmp,8);` -/
  | write
  /-- another thread, in a REST callback of a node: its sequence changes -/
  | callback (ip : CString) (f : SprinklersNode → SprinklersNode)
  /-- `epoll_wait` returns the descriptors that are announced, in some order -/
  | wake (events : List Fd)
  /-- `epoll_wait` returns without one -/
  | interrupted
  /-- the next step of the thread -/
  | thread (i : Input)

end WifiLoop

structure WifiLoop where
  module : DHASWifiNodesModule
  /-- the eventfd is announced -/
  self : Bool
  advertisements : EdgeTriggered WifiLoop.Datagram
  /-- the sockets of the nodes -/
  sockets : ℤ → EdgeTriggered UInt8
  /-- the threads that are in `sendToNode`, behind the `put` -/
  writers : ℕ
  pc : WifiLoop.Pc

namespace WifiLoop

/-- The thread behind `setStarted()`. -/
def init : WifiLoop where
  module := .new
  self := true
  advertisements := .new
  sockets := fun _ => .new
  writers := 0
  pc := .waiting

/-- The descriptors that are announced. -/
def ready (s : WifiLoop) : List Fd :=
  (if s.self then [.self] else []) ++ (if s.advertisements.announced then [.multicast] else []) ++
    ((s.module.mNodes.values.map fun node => node.socket).filter fun socket =>
      (s.sockets socket).announced).map .node

/-- `epoll_wait` has returned; the announcements are spent. -/
def wake (s : WifiLoop) (events : List Fd) : WifiLoop :=
  { s with
    self := false
    advertisements := s.advertisements.report
    sockets := fun socket => (s.sockets socket).report
    pc := .handling events }

/-- `processDataFromMulticastSocket`, when `recvfrom` does not fail. An empty advertisement is not
looked at, and a socket that was connected is added to the epoll set.
SOURCE: DHASWifiNodesModule.cpp:267-292, 207-213 -/
def receiveAdvertisement (parse : Parse) (s : WifiLoop) (i : Input) : WifiLoop :=
  let s' := { s with advertisements := s.advertisements.read 1 }
  match s.advertisements.unread with
  | [] => s'
  | d :: _ =>
    if d.text = [] then s'
    else
      let named := parse.advertisement d.text
      let m := s.module.discoverNode named.1 d.ip named.2 i.now i.connected
      { s' with
        module := m
        sockets :=
          match i.connected with
          | some socket =>
            if m.mNodes.contains d.ip ∧ ¬ s.module.mNodes.contains d.ip then
              Function.update s.sockets socket .new
            else s.sockets
          | none => s.sockets }

/-- What `recv` returns on the socket of a node. -/
def recv (d : EdgeTriggered UInt8) (i : Input) : Recv :=
  if i.failed then .failed
  else if d.unread.isEmpty then .again
  else .data (d.unread.take 2000)

/-- The turn of the loop over `mNodes` for a descriptor of a node.
SOURCE: DHASWifiNodesModule.cpp:358-368 -/
def receiveFromNode (parse : Parse) (s : WifiLoop) (i : Input) (socket : ℤ) : Option WifiLoop :=
  match s.module.findSocket socket with
  | none => some s
  | some it =>
    (s.module.receiveFromNode parse.board it.1 it.2 (recv (s.sockets socket) i) i.now).map
      fun m =>
        { s with
          module := m
          sockets := Function.update s.sockets socket ((s.sockets socket).read 2000) }

/-- `if (mNodes.find(data.destination) != mNodes.end()) send(…)` -/
def send (m : DHASWifiNodesModule) (data : DataBuffer) : DHASWifiNodesModule :=
  if m.mNodes.contains data.destination then
    m.record (.send data.destination data.data)
  else m

/-- `run(t)` of a driver calls `sendToNode`. -/
def writes (driver : Driver) (t : ℤ) : Bool :=
  match driver with
  | .sprinklersNode node => ¬ t < node.mNextSequenceTime
  | .ioBoard => false

/-- The turn of `runNodes` for a node; a driver that sends writes to the eventfd.
SOURCE: DHASWifiNodesModule.cpp:134-142, SprinklersNode.cpp:148-173 -/
def runNode (s : WifiLoop) (t now : ℤ) (ip : CString) : Option WifiLoop :=
  match s.module.mNodes[ip]? with
  | none => some s
  | some node =>
    node.driver.bind fun driver =>
      (s.module.runNode t now (ip, node)).map fun m =>
        { s with module := m, self := s.self || writes driver.driver t }

/-- The next step of the thread. SOURCE: DHASWifiNodesModule.cpp:341-383 -/
def threadStep (parse : Parse) (s : WifiLoop) (i : Input) : Option WifiLoop :=
  match s.pc with
  | .waiting | .returned => none
  | .handling [] => some { s with pc := .sending }
  | .handling (.self :: events) => some { s with pc := .handling events }
  | .handling (.multicast :: events) =>
    if i.failed then some { s with pc := .returned }
    else some { s.receiveAdvertisement parse i with pc := .handling events }
  | .handling (.node socket :: events) =>
    (s.receiveFromNode parse i socket).map fun s => { s with pc := .handling events }
  | .sending =>
    match s.module.mSendQueue.get with
    | some (data, rest) =>
      some { s with module := { send s.module data with mSendQueue := rest } }
    | none => some { s with pc := .heartBeats }
  | .heartBeats =>
    (s.module.checkHeartBeats i.now).map fun m => { s with module := m, pc := .runNodes }
  | .runNodes => some { s with pc := .running i.now s.module.mNodes.keys }
  | .running _ [] => some { s with pc := .waiting }
  | .running t (ip :: nodes) =>
    (s.runNode t i.now ip).map fun s => { s with pc := .running t nodes }

/-- A descriptor is announced, and nothing came. -/
def stir (s : WifiLoop) : Fd → WifiLoop
  | .self => { s with self := true }
  | .multicast => { s with advertisements := s.advertisements.stir }
  | .node socket =>
    { s with sockets := Function.update s.sockets socket (s.sockets socket).stir }

/-- A REST callback changes the node at an address. -/
def callback (m : DHASWifiNodesModule) (ip : CString) (f : SprinklersNode → SprinklersNode) :
    DHASWifiNodesModule :=
  match m.mNodes[ip]? with
  | some { socket, lastHeartBeat, driver := some d } =>
    match d.driver with
    | .sprinklersNode node =>
      { m with
        mNodes := m.mNodes.insert ip
          { socket, lastHeartBeat, driver := some { d with driver := .sprinklersNode (f node) } } }
    | .ioBoard => m
  | _ => m

def step (parse : Parse) (s : WifiLoop) : Act → Option WifiLoop
  | .advertisement d => some { s with advertisements := s.advertisements.arrive [d] }
  | .bytes socket buf =>
    some { s with sockets := Function.update s.sockets socket ((s.sockets socket).arrive buf) }
  | .stir fd => some (s.stir fd)
  | .put id data size =>
    some { s with
      module := { s.module with mSendQueue := s.module.mSendQueue.sendToNode id data size }
      writers := s.writers + 1 }
  | .write =>
    if 0 < s.writers then some { s with writers := s.writers - 1, self := true } else none
  | .callback ip f => some { s with module := callback s.module ip f }
  | .wake events =>
    if s.pc = .waiting ∧ events.Perm s.ready ∧ events ≠ [] then some (s.wake events) else none
  | .interrupted => if s.pc = .waiting then some { s with pc := .handling [] } else none
  | .thread i => threadStep parse s i

end WifiLoop

end Dhas.Model
