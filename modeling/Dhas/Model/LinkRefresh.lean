import Dhas.Model.PlmLine

/-!
# The refresh of the ALL-Link database

One `getFirstAllLinkRecord` on the line of the PLM, which answers 0x69 and 0x6A out of its
database: with an ACK and, at some later time, the record as a 0x57 frame, or with a NAK when
there is no record left. Other commands are put on the queue at any time, by other callers
and by the handler, and other frames arrive. None of the commands waits for a record.

The echo of a command is the next thing that is read after the write, and the port takes
every command.
-/

set_option autoImplicit false

namespace Dhas.Model

open Dhas.Program Dhas.Analysis

/-- A command for which the modem does not wait for a record: it has a destination other than
the modem, or needs no ACK. -/
def DirectCommand (cmd : IInsteonMessage) : Prop :=
  ¬ (cmd.getDestination = 0 ∧ cmd.needAck = true)

instance (cmd : IInsteonMessage) : Decidable (DirectCommand cmd) :=
  inferInstanceAs (Decidable (¬ _))

/-- A handler that puts only such commands on the queue. -/
structure DirectHandler (σ : Type) extends IInsteonMessageHandler σ where
  message_direct : ∀ t buf s, ∀ cmd ∈ (onInsteonMessage t buf s).commands, DirectCommand cmd
  record_direct : ∀ t buf s, ∀ cmd ∈ (onInsteonAllLinkRecordResponse t buf s).commands,
    DirectCommand cmd
  sent_direct : ∀ t id cmd s, ∀ c ∈ (onInsteonMessageSent t id cmd s).commands, DirectCommand c

/-- A record of the database, as it stands in a frame. -/
structure AllLinkRecord where
  contents : List UInt8
  length_eq : contents.length = 8
  deriving DecidableEq

def AllLinkRecord.frame (r : AllLinkRecord) : UnsolicitedFrame where
  type := 0x57
  contents := r.contents
  length_eq := by rw [r.length_eq]; rfl

/-- A frame that is not a record. -/
abbrev OtherFrame := { f : UnsolicitedFrame // f.type ≠ 0x57 }

/-- The database of the PLM and what became of the requests. -/
structure AllLinkDatabase where
  records : List AllLinkRecord
  /-- the records after the last one that was asked for -/
  remaining : List AllLinkRecord
  /-- the record that an acknowledged request is still to be answered with -/
  owed : Option AllLinkRecord
  /-- a request found no record -/
  finished : Bool
  deriving DecidableEq

namespace AllLinkDatabase

/-- The records from the one that a request asks for. -/
def asked (db : AllLinkDatabase) (first : Bool) : List AllLinkRecord :=
  if first then db.records else db.remaining

/-- The answer to an ALL-Link record request, and the database after it. -/
def request (db : AllLinkDatabase) (first : Bool) : Bool × AllLinkDatabase :=
  match db.asked first with
  | [] => (false, { db with remaining := [], finished := true })
  | r :: rest => (true, { db with remaining := rest, owed := some r })

/-- The answer to a command; to any other one than a request it is `ack`. -/
def answer (db : AllLinkDatabase) (cmd : IInsteonMessage) (ack : Bool) :
    Bool × AllLinkDatabase :=
  if cmd.getMessageID = 0x69 then db.request true
  else if cmd.getMessageID = 0x6A then db.request false
  else (ack, db)

/-- The frames that arrive, and the database after them: `early`, the record that is owed if
`record` is set, and `late`. -/
def send (db : AllLinkDatabase) (early : List OtherFrame) (record : Bool)
    (late : List OtherFrame) : List UnsolicitedFrame × AllLinkDatabase :=
  let answered := if record then db.owed else none
  (early.map (·.val) ++ answered.toList.map (·.frame) ++ late.map (·.val),
    if record then { db with owed := none } else db)

end AllLinkDatabase

/-- A modem that can be asked for a refresh: it does not wait for a record, and neither an
ALL-Link record request is on its queue nor a record on its port. -/
structure ReadyModem (σ : Type) where
  modem : InsteonModem σ
  unread : List OtherFrame
  not_waiting : modem.mWaitingForResponse = false
  queue_direct : ∀ cmd ∈ modem.mInsteonCommandQueue, DirectCommand cmd
  bytes_eq : modem.mpSerialPort.bytes = frameBytes (unread.map (·.val))

structure LinkRefresh (σ : Type) where
  line : PlmLine σ
  db : AllLinkDatabase

namespace LinkRefresh

variable {σ : Type}

inductive Act where
  /-- a caller other than `refreshAllLinksDatabase_callback` -/
  | enqueue (cmd : IInsteonMessage)
  /-- a call of `process` with what the PLM sends: its answer to a command that is no
  request, and the frames after the echo -/
  | process (readyToSend : Bool) (port : ISerialPort) (ack : Bool) (early : List OtherFrame)
      (record : Bool) (late : List OtherFrame)

/-- After `getFirstAllLinkRecord`. Where the PLM was in its database before does not matter. -/
def init (m : ReadyModem σ) (records remaining : List AllLinkRecord) : LinkRefresh σ where
  line := {
    modem := m.modem.getFirstAllLinkRecord
    returned := true
    sent := m.unread.map fun f => .frame f.val
    answers := [] }
  db := { records := records, remaining := remaining, owed := none, finished := false }

def step (H : DirectHandler σ) (s : LinkRefresh σ) : Act → Option (LinkRefresh σ)
  | .enqueue cmd =>
    if DirectCommand cmd then
      (s.line.step H.toIInsteonMessageHandler (.enqueue cmd)).map
        fun line => { s with line := line }
    else none
  | .process readyToSend port ack early record late =>
    let written := PlmLine.toWrite { s.line.modem with mpSerialPort := port } readyToSend
    let (ack, db) := match written with
      | some cmd => s.db.answer cmd ack
      | none => (ack, s.db)
    let (after, db) := db.send early record late
    if port.writes = true ∧ (written.isSome → s.line.modem.mpSerialPort.bytes = []) then
      (s.line.step H.toIInsteonMessageHandler (.process readyToSend port [] ack after)).map
        fun line => { line := line, db := db }
    else none

end LinkRefresh

end Dhas.Model
