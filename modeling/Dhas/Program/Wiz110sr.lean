import Dhas.Program.HexText
import Mathlib.Data.List.AList

/-!
# The serial port behind a Wiznet module

`common/Wiz110sr.cpp` and the constructor of `common/WizIPSerialPort.cpp`. A broadcast asks the
modules of the network for their configurations, and the port is the one of the module with the
MAC address that the program was given. A module with another baud rate is configured first.

`Wiz110srConfig` is packed, so a configuration is the 163 bytes of a datagram, and its members
are read at their offsets. A datagram that is shorter leaves the rest of the structure as the
stack had it, which is an input of the receive, as what arrives is. `SO_RCVTIMEO` makes `recv`
fail after three seconds, and from the end of the inputs on it only fails.

`sent` is not in the source: it records the datagrams that were sent.
-/

set_option autoImplicit false

namespace Dhas.Program

/-- `Wiz110srConfig` -/
abbrev Wiz110srConfig := Vector UInt8 163

namespace Wiz110srConfig

def code (wc : Wiz110srConfig) : Vector UInt8 4 := #v[wc[0], wc[1], wc[2], wc[3]]

def mac (wc : Wiz110srConfig) : Vector UInt8 6 := #v[wc[4], wc[5], wc[6], wc[7], wc[8], wc[9]]

def ip (wc : Wiz110srConfig) : Vector UInt8 4 := #v[wc[11], wc[12], wc[13], wc[14]]

/-- The bytes of `port` in the order of the network. -/
def portBytes (wc : Wiz110srConfig) : UInt8 × UInt8 := (wc[23], wc[24])

/-- The `unsigned short` as a little-endian machine reads it. -/
def port (wc : Wiz110srConfig) : ℕ := wc.portBytes.1.toNat + 256 * wc.portBytes.2.toNat

def baud (wc : Wiz110srConfig) : UInt8 := wc[31]

def setBaud (wc : Wiz110srConfig) (baud : UInt8) : Wiz110srConfig := wc.set 31 baud

/-- The answer to a configuration that was taken: its code ends in `C`. -/
def accepts (wc : Wiz110srConfig) : Bool := wc.code[3] = 0x43

/-- `conf.code` is `SETT`. -/
def setCode (wc : Wiz110srConfig) : Wiz110srConfig :=
  (((wc.set 0 0x53).set 1 0x45).set 2 0x54).set 3 0x54

end Wiz110srConfig

/-- `__builtin_bswap16` of a value below 2^16. -/
def bswap16 (v : ℕ) : ℕ := v % 256 * 256 + v / 256

/-- `recv` into a structure on the stack. -/
structure WizRecv where
  /-- what the stack held -/
  stack : Wiz110srConfig
  /-- the datagram, or `none` for a failure -/
  datagram : Option (List UInt8)

namespace WizRecv

/-- The structure after `recv`, when the result is above 0. The rest of a longer datagram is
lost. -/
def received (r : WizRecv) : Option Wiz110srConfig :=
  match r.datagram with
  | none => none
  | some [] => none
  | some bytes => some (Vector.ofFn fun i => bytes.getD i r.stack[i])

end WizRecv

/-! ## Wiz110sr -/

/-- `std::setfill('0') << std::setw(2) << (int)b` in `std::hex`. -/
def hexByte (b : UInt8) : CString :=
  let digits := Nat.toDigits 16 b.toNat
  List.replicate (2 - digits.length) '0' ++ digits

/-- The text of a MAC address. -/
def macText (mac : Vector UInt8 6) : CString :=
  hexByte mac[0] ++ ':' :: (hexByte mac[1] ++ ':' :: (hexByte mac[2] ++ ':' ::
    (hexByte mac[3] ++ ':' :: (hexByte mac[4] ++ ':' :: hexByte mac[5]))))

structure Wiz110sr where
  client : ℤ
  sent : List (List UInt8)

/-- The network of the modules, with the results of the calls in the order of the calls. -/
structure WizNetwork where
  /-- `socket` -/
  descriptor : ℤ
  /-- `bind` is not below 0 -/
  binds : Bool
  /-- `sendto` of the search is not below 0 -/
  sendsFind : Bool
  /-- `sendto` of the configuration is not below 0 -/
  sendsConfig : Bool
  /-- the results of `recv` -/
  recvs : List WizRecv

namespace Wiz110sr

/-- The constructor. A socket that could not be created keeps its negative number. -/
def new (net : WizNetwork) : Wiz110sr where
  client := if net.descriptor < 0 then net.descriptor else if net.binds then net.descriptor else 0
  sent := []

/-- The loop of `search()`: the configurations by their MAC address, and what is still to be
received. -/
def searchLoop : List WizRecv → AList (fun _ : CString => Wiz110srConfig) →
    AList (fun _ : CString => Wiz110srConfig) × List WizRecv
  | [], confs => (confs, [])
  | r :: rs, confs =>
    match r.received with
    | none => (confs, rs)
    | some conf => searchLoop rs (confs.insert (macText conf.mac) conf)

/-- `{0x46,0x49,0x4E,0x44}` -/
def dataSend : List UInt8 := [0x46, 0x49, 0x4E, 0x44]

/-- `sendto` on a descriptor below 0 fails. -/
def search (w : Wiz110sr) (net : WizNetwork) :
    Wiz110sr × AList (fun _ : CString => Wiz110srConfig) × List WizRecv :=
  if w.client = 0 then (w, ∅, net.recvs)
  else if w.client < 0 ∨ net.sendsFind = false then ({ w with client := 0 }, ∅, net.recvs)
  else ({ w with sent := w.sent ++ [dataSend] }, searchLoop net.recvs ∅)

/-- The loop of `configure`, which answers of other modules do not end. -/
def configureLoop (conf : Wiz110srConfig) : List WizRecv → Bool
  | [] => false
  | r :: rs =>
    match r.received with
    | none => false
    | some response =>
      if response.mac ≠ conf.mac then configureLoop conf rs
      else response.accepts

def configure (w : Wiz110sr) (net : WizNetwork) (conf : Wiz110srConfig) (recvs : List WizRecv) :
    Wiz110sr × Bool :=
  if w.client = 0 then (w, false)
  else
    let conf := conf.setCode
    if net.sendsConfig = false then ({ w with client := 0 }, false)
    else ({ w with sent := w.sent ++ [conf.toList] }, configureLoop conf recvs)

end Wiz110sr

/-! ## WizIPSerialPort -/

/-- The address of the port after its constructor. -/
structure WizIPSerialPort where
  mAddress : CString
  mPort : ℕ
  /-- what its `Wiz110sr` sent -/
  sent : List (List UInt8)
  deriving DecidableEq

namespace WizIPSerialPort

/-- The four numbers with points between them. -/
def dotted (ip : Vector UInt8 4) : CString :=
  decimal ip[0].toNat ++ '.' :: (decimal ip[1].toNat ++ '.' :: (decimal ip[2].toNat ++ '.' ::
    decimal ip[3].toNat))

/-- The port of a module that was found. -/
def ofConfig (wc : Wiz110srConfig) (w : Wiz110sr) : WizIPSerialPort where
  mAddress := dotted wc.ip
  mPort := bswap16 wc.port
  sent := w.sent

/-- The constructor `IPSerialPort()` leaves the address empty. -/
def unset (w : Wiz110sr) : WizIPSerialPort := ⟨[], 0, w.sent⟩

def new (target : CString) (net : WizNetwork) : WizIPSerialPort :=
  let (w, confs, recvs) := (Wiz110sr.new net).search net
  match confs.lookup target with
  | none => unset w
  | some wc =>
    if wc.baud ≠ 0xFA then
      let wc := wc.setBaud 0xFA
      let (w, configured) := w.configure net wc recvs
      if configured then ofConfig wc w else unset w
    else ofConfig wc w

end WizIPSerialPort

end Dhas.Program
