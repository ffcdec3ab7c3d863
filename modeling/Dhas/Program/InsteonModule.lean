import Dhas.Program.InsteonDevices
import Mathlib.Tactic.Linarith

/-!
# The Insteon module

`modules/Insteon/InsteonModule.cpp`: the registered devices, the handler of the modem's
messages, and the REST callbacks of `registerCallBacks`. The state is that of the modem with
the module's own fields behind `mpInsteonMessageHandler`.

A request parameter that is missing reads as the empty string. What a callback leaves
uninitialised, and what the constructors of the devices leave so, is a parameter of the
callback.
-/

set_option autoImplicit false

namespace Dhas.Program

structure Insteon where
  mModules : Std.TreeMap InsteonID InsteonDevice
  mControllerID : InsteonID
  /-- the events given to `mpEventProcessor`, oldest first -/
  events : List JSON

namespace Insteon

def empty : Insteon := ⟨∅, 0, []⟩

/-- `mModules[id] = dev;` -/
def setDevice (s : Insteon) (id : InsteonID) (dev : InsteonDevice) : Insteon :=
  { s with mModules := s.mModules.insert id dev }

/-- INTERNAL: one device is written, the others stay. -/
@[simp] theorem getElem?_setDevice (s : Insteon) (id id' : InsteonID) (dev : InsteonDevice) :
    (s.setDevice id dev).mModules[id']? = if id = id' then some dev else s.mModules[id']? := by
  simp [setDevice, Std.TreeMap.getElem?_insert]

/-- The device that the loop over `mModules` visits after the given key. -/
def nextDevice (s : Insteon) (visited : Option InsteonID) : Option (InsteonID × InsteonDevice) :=
  s.mModules.toList.find? fun entry =>
    match visited with
    | none => true
    | some k => decide (k < entry.1)

/-- The loop has visited a device under that key. -/
def Visited (visited : Option InsteonID) (id : InsteonID) : Prop :=
  ∃ k, visited = some k ∧ id ≤ k

/-- INTERNAL: the next device is the first one that was not visited. -/
theorem nextDevice_some {s : Insteon} {visited : Option InsteonID} {id : InsteonID}
    {d : InsteonDevice} (h : s.nextDevice visited = some (id, d)) :
    s.mModules[id]? = some d ∧
      ∀ id' d', s.mModules[id']? = some d' → id' ≤ id → Visited visited id' ∨ id' = id := by
  obtain ⟨hp, before, after, heq, hbefore⟩ := List.find?_eq_some_iff_append.mp h
  refine ⟨Std.TreeMap.mem_toList_iff_getElem?_eq_some.mp (by rw [heq]; simp), ?_⟩
  intro id' d' hd' hle
  have hmem := Std.TreeMap.mem_toList_iff_getElem?_eq_some.mpr hd'
  have hsorted := Std.TreeMap.ordered_keys_toList (t := s.mModules)
  rw [heq] at hmem hsorted
  rcases List.mem_append.mp hmem with hmem | hmem
  · have hnot := hbefore _ hmem
    cases visited with
    | none => simp at hnot
    | some k => exact .inl ⟨k, rfl, by simpa using hnot⟩
  · rcases List.mem_cons.mp hmem with heq' | hmem
    · exact .inr (Prod.mk.inj heq').1
    · have hlt := (List.pairwise_cons.mp (List.pairwise_append.mp hsorted).2.1).1 _ hmem
      rw [Std.compare_eq_lt] at hlt
      exact absurd hle (UInt32.not_le.mpr hlt)

/-- INTERNAL: the walk over the devices ends when all of them were visited. -/
theorem nextDevice_none {s : Insteon} {visited : Option InsteonID}
    (h : s.nextDevice visited = none) {id : InsteonID} {d : InsteonDevice}
    (hd : s.mModules[id]? = some d) : Visited visited id := by
  have hmem := Std.TreeMap.mem_toList_iff_getElem?_eq_some.mpr hd
  have hnot := List.find?_eq_none.mp h _ hmem
  cases visited with
  | none => simp at hnot
  | some k => exact ⟨k, rfl, by simpa using hnot⟩

/-- The `InsteonDirectMessage` that is remembered for a message. -/
def directMessage (cmd : IInsteonMessage) : InsteonDirectMessage where
  extended := cmd.isExtended
  cmd1 := cmd.command1
  cmd2 := cmd.command2
  data := if cmd.isExtended then cmd.copyData else []

def onInsteonMessage (_ : ℤ) (buf : FrameBuffer) (s : Insteon) : HandlerEffect Insteon :=
  match s.mModules[buf.sender]? with
  | none => ⟨s, [], false⟩
  | some d =>
    let r := d.onInsteonMessage buf
    let s := s.setDevice buf.sender r.device
    let s := if (r.json.get "event").isSome then { s with events := s.events ++ [r.json] } else s
    ⟨s, r.commands, !d.ignoresAck buf⟩

/-- INTERNAL: a message reaches the device it came from and no other. -/
theorem onInsteonMessage_modules {s : Insteon} {buf : FrameBuffer} {d : InsteonDevice}
    (hd : s.mModules[buf.sender]? = some d) (t : ℤ) (id : InsteonID) :
    (onInsteonMessage t buf s).state.mModules[id]? =
      if buf.sender = id then some (d.onInsteonMessage buf).device else s.mModules[id]? := by
  rw [← getElem?_setDevice]
  simp only [onInsteonMessage, hd]
  split <;> rfl

/-- `setGroup` does nothing for the devices that are constructed. -/
def onInsteonAllLinkRecordResponse (_ : ℤ) (_ : FrameBuffer) (s : Insteon) :
    HandlerEffect Insteon :=
  ⟨s, [], false⟩

def onInsteonMessageSent (t : ℤ) (id : InsteonID) (cmd : IInsteonMessage) (s : Insteon) :
    HandlerEffect Insteon :=
  match s.mModules[id]? with
  | none => ⟨s, [], false⟩
  | some d =>
    if cmd.messageClass = .standardOrExtended then
      ⟨s.setDevice id (d.setLastDirectMessageSent t (directMessage cmd)), [], false⟩
    else ⟨s, [], false⟩

/-- INTERNAL: an acknowledged direct message is remembered by its device, and nothing else
changes. SOURCE: InsteonModule.cpp:645-667 -/
theorem onInsteonMessageSent_modules (t : ℤ) (dest id : InsteonID) (cmd : IInsteonMessage)
    (s : Insteon) :
    (onInsteonMessageSent t dest cmd s).state.mModules[id]? = s.mModules[id]?.map fun d =>
      if cmd.messageClass = .standardOrExtended ∧ dest = id then
        d.setLastDirectMessageSent t (directMessage cmd)
      else d := by
  unfold onInsteonMessageSent
  split
  case h_1 hnone =>
    by_cases hid : dest = id
    · subst hid
      rw [hnone]
      rfl
    · simp [hid]
  case h_2 d hd =>
    split
    case isFalse hclass => simp [hclass]
    case isTrue hclass =>
      by_cases hid : dest = id
      · subst hid
        simp [hclass, hd]
      · simp [hid]

/-- INTERNAL: the devices send nothing when a message was sent. -/
theorem onInsteonMessageSent_commands (t : ℤ) (dest : InsteonID) (cmd : IInsteonMessage)
    (s : Insteon) : (onInsteonMessageSent t dest cmd s).commands = [] := by
  unfold onInsteonMessageSent
  split
  · rfl
  · split <;> rfl

def messageHandler : IInsteonMessageHandler Insteon where
  onInsteonMessage := onInsteonMessage
  onInsteonAllLinkRecordResponse := onInsteonAllLinkRecordResponse
  onInsteonMessageSent := onInsteonMessageSent

end Insteon

/-! ## The REST callbacks -/

/-- The paths of `registerCallBacks`. -/
inductive InsteonPath where
  | clearmodules
  | listmodules
  | addmodule
  | addezflora
  | addiolinc
  | setcontroller
  | switch
  | ezflora_setprogram
  | ezflora_status
  | raw
  | refreshalllinksdatabase
  deriving DecidableEq

/-- `params->getParam(name)` -/
abbrev RESTParameters := String → CString

/-- `strtoul(params->getParam(name).c_str(),0,16)` as an `unsigned int`. -/
def RESTParameters.id (params : RESTParameters) : InsteonID :=
  UInt32.ofNat (strtoul 16 (params "id"))

/-- The memory that a callback finds uninitialised. -/
structure UnsetMemory where
  message : InsteonDirectMessage
  data : Vector UInt8 14

def okStatus : JSON := [("status", jsonText "ok")]

abbrev InsteonState := InsteonModem Insteon

namespace InsteonState

/-- `mModules[id] = dev;` after the constructor of `dev` wrote its message. -/
def addDevice (m : InsteonState) (id : InsteonID)
    (dev : InsteonDevice × List IInsteonMessage) : InsteonState :=
  { (m.push dev.2).record (.registered id) with handler := m.handler.setDevice id dev.1 }

/-- The three callbacks that add a device do so when `id` and `name` are given. -/
def addDevice_callback (m : InsteonState) (params : RESTParameters)
    (dev : CString → InsteonID → InsteonDevice × List IInsteonMessage) :
    InsteonState × JSON :=
  if params "id" ≠ [] ∧ params "name" ≠ [] then
    (m.addDevice params.id (dev (params "name") params.id), okStatus)
  else (m, [])

def addmodule_callback (m : InsteonState) (params : RESTParameters) (unset : UnsetMemory) :
    InsteonState × JSON :=
  m.addDevice_callback params fun name id => SwitchDevice.new name id unset.message

def addezflora_callback (m : InsteonState) (params : RESTParameters) (unset : UnsetMemory) :
    InsteonState × JSON :=
  m.addDevice_callback params fun name id => EZFloraDevice.new name id unset.message

def addIOLinc_callback (m : InsteonState) (params : RESTParameters) (unset : UnsetMemory) :
    InsteonState × JSON :=
  m.addDevice_callback params fun name id => IOLinc.new name id unset.message

/-- `clearModuleList()`, which suspends the loop while it deletes the devices. -/
def clearModuleList (m : InsteonState) : InsteonState :=
  { m.record .cleared with handler := { m.handler with mModules := ∅ } }

/-- `mControllerID = id;` -/
def setController (m : InsteonState) (id : InsteonID) : InsteonState :=
  { m with handler := { m.handler with mControllerID := id } }

def setcontroller_callback (m : InsteonState) (params : RESTParameters) : InsteonState × JSON :=
  if params "id" ≠ [] then
    (m.setController params.id, okStatus)
  else (m, [])

/-- `lightOn`, `lightOff` and `lightToggle` write what the device, if there is one, wants. -/
def toDevice (m : InsteonState) (id : InsteonID)
    (write : InsteonDevice → List IInsteonMessage) : InsteonState :=
  match m.handler.mModules[id]? with
  | some d => m.push (write d)
  | none => m

/-- A low level would turn the light off. -/
def lightOn (m : InsteonState) (id : InsteonID) (level subdev : UInt8) : InsteonState :=
  let level := if level < 10 then 10 else level
  m.toDevice id fun d => d.turnOnOrOff true level subdev

def lightOff (m : InsteonState) (id : InsteonID) (subdev : UInt8) : InsteonState :=
  m.toDevice id fun d => d.turnOnOrOff false 0 subdev

def lightToggle (m : InsteonState) (id : InsteonID) (subdev : UInt8) : InsteonState :=
  m.toDevice id fun d => d.toggle subdev

def switch_callback (m : InsteonState) (params : RESTParameters) : InsteonState × JSON :=
  let subdev : UInt8 :=
    if params "subdev" ≠ [] then UInt8.ofNat (strtoul 10 (params "subdev")) else 0
  let m :=
    if params "action" = "on".toList then
      let level : UInt8 := 255
      let level := if params "level" ≠ [] then toUnsignedChar (atoi (params "level")) else level
      let level := if params "rate" ≠ [] then toUnsignedChar (atoi (params "rate")) else level
      m.lightOn params.id level subdev
    else if params "action" = "off".toList then m.lightOff params.id subdev
    else if params "action" = "toggle".toList then m.lightToggle params.id subdev
    else m
  (m, okStatus)

/-- `(params->getParam(name)=="")?0:atoi(params->getParam(name).c_str())` -/
def timerParam (params : RESTParameters) (name : String) : UInt8 :=
  if params name = [] then 0 else toUnsignedChar (atoi (params name))

/-- Only the first eight bytes of the data are set. -/
def ezflorasetprogram_callback (m : InsteonState) (params : RESTParameters)
    (unset : UnsetMemory) : InsteonState × JSON :=
  let program := toUnsignedChar (atoi (params "p"))
  if program ≤ 4 then
    let data := ((((((((unset.data.set 0 (timerParam params "z1")).set 1
      (timerParam params "z2")).set 2 (timerParam params "z3")).set 3
      (timerParam params "z4")).set 4 (timerParam params "z5")).set 5
      (timerParam params "z6")).set 6 (timerParam params "z7")).set 7
      (timerParam params "z8"))
    (m.writeExtendedCommand params.id 0x40 program data, okStatus)
  else (m, [("status", jsonText "Bad Program")])

def ezfloraforcegetvalvestatus_callback (m : InsteonState) (params : RESTParameters) :
    InsteonState × JSON :=
  (m.writeCommand params.id 0x44 0x02, okStatus)

/-- The names of the 14 data parameters. -/
def rawDataNames : Vector String 14 :=
  #v["d1", "d2", "d3", "d4", "d5", "d6", "d7", "d8", "d9", "d10", "d11", "d12", "d13", "d14"]

def raw_callback (m : InsteonState) (params : RESTParameters) : InsteonState × JSON :=
  let byte (name : String) : UInt8 := UInt8.ofNat (strtoul 16 (params name))
  (m.writeI2CSCommand params.id (byte "cmd1") (byte "cmd2") (rawDataNames.map byte), okStatus)

/-- `listModules`: the objects of the list `modules`. -/
def listModules (m : InsteonState) : List JSON :=
  m.handler.mModules.toList.map fun entry => entry.2.toJSON

/-- The callback of a path, and the object it returns; `listmodules` returns
`listModules`. -/
def callback (m : InsteonState) (path : InsteonPath) (params : RESTParameters)
    (unset : UnsetMemory) : InsteonState × JSON :=
  match path with
  | .clearmodules => (m.clearModuleList, okStatus)
  | .listmodules => (m, [])
  | .addmodule => m.addmodule_callback params unset
  | .addezflora => m.addezflora_callback params unset
  | .addiolinc => m.addIOLinc_callback params unset
  | .setcontroller => m.setcontroller_callback params
  | .switch => m.switch_callback params
  | .ezflora_setprogram => m.ezflorasetprogram_callback params unset
  | .ezflora_status => m.ezfloraforcegetvalvestatus_callback params
  | .raw => m.raw_callback params
  | .refreshalllinksdatabase => (m.getFirstAllLinkRecord, okStatus)

/-- A message that a REST callback may put on the queue: a direct message or an ALL-Link
record request. -/
def RestCommand (cmd : IInsteonMessage) : Prop :=
  cmd.messageClass = .standardOrExtended ∨ cmd.messageClass = .allLinkDatabase

/-- What a callback can do to the module: put commands on the queue, set the controller,
add a device that is idle, or clear the devices. -/
inductive CallbackEffect (m : InsteonState) : InsteonState → Prop where
  | push (cmds : List IInsteonMessage) (h : ∀ cmd ∈ cmds, RestCommand cmd) :
      CallbackEffect m (m.push cmds)
  | setController (id : InsteonID) : CallbackEffect m (m.setController id)
  | addDevice (id : InsteonID) (dev : InsteonDevice × List IInsteonMessage)
      (hidle : dev.1.mTransmissionStatus = .Idle) (h : ∀ cmd ∈ dev.2, RestCommand cmd) :
      CallbackEffect m (m.addDevice id dev)
  | clear : CallbackEffect m m.clearModuleList

/-- INTERNAL: a callback that changes nothing. -/
theorem CallbackEffect.refl (m : InsteonState) : CallbackEffect m m := by
  have h : m.push [] = m := by simp [InsteonModem.push]
  have hpush : CallbackEffect m (m.push []) := .push [] (by simp)
  rwa [h] at hpush

/-- INTERNAL: the callbacks that add a device. -/
theorem addDevice_callback_effect (m : InsteonState) (params : RESTParameters)
    (dev : CString → InsteonID → InsteonDevice × List IInsteonMessage)
    (hidle : ∀ name id, (dev name id).1.mTransmissionStatus = .Idle)
    (h : ∀ name id, ∀ cmd ∈ (dev name id).2, RestCommand cmd) :
    CallbackEffect m (m.addDevice_callback params dev).1 := by
  unfold addDevice_callback
  split
  · exact .addDevice _ _ (hidle _ _) (h _ _)
  · exact .refl m

/-- INTERNAL: the callbacks that have one device write its messages. -/
theorem toDevice_effect (m : InsteonState) (id : InsteonID)
    (write : InsteonDevice → List IInsteonMessage)
    (h : ∀ d, ∀ cmd ∈ write d, cmd.messageClass = .standardOrExtended) :
    CallbackEffect m (m.toDevice id write) := by
  unfold toDevice
  split
  · exact .push _ fun cmd hcmd => .inl (h _ cmd hcmd)
  · exact .refl m

/-- INTERNAL: the callback of the switch. -/
theorem switch_callback_effect (m : InsteonState) (params : RESTParameters) :
    CallbackEffect m (m.switch_callback params).1 := by
  unfold switch_callback
  dsimp only
  split
  · exact toDevice_effect m _ _ fun d cmd hcmd => d.turnOnOrOff_commands hcmd
  · split
    · exact toDevice_effect m _ _ fun d cmd hcmd => d.turnOnOrOff_commands hcmd
    · split
      · exact toDevice_effect m _ _ fun d cmd hcmd => d.toggle_commands hcmd
      · exact .refl m

/-- INTERNAL: **what a REST callback can do.** SOURCE: InsteonModule.cpp:56-184 -/
theorem callback_effect (m : InsteonState) (path : InsteonPath) (params : RESTParameters)
    (unset : UnsetMemory) : CallbackEffect m (m.callback path params unset).1 := by
  have hstandard (id : InsteonID) (cmd1 cmd2 : UInt8) :
      ∀ cmd ∈ [standardMessage id cmd1 cmd2], RestCommand cmd := by
    simp [RestCommand, standardMessage]
  cases path with
  | clearmodules => exact .clear
  | listmodules => exact .refl m
  | addmodule | addezflora | addiolinc =>
    exact addDevice_callback_effect m params _ (fun _ _ => rfl) (fun _ _ => hstandard _ _ _)
  | setcontroller =>
    simp only [callback, setcontroller_callback]
    split
    · exact .setController _
    · exact .refl m
  | switch => exact switch_callback_effect m params
  | ezflora_setprogram =>
    simp only [callback, ezflorasetprogram_callback]
    split
    · exact .push _ (by simp [RestCommand, extendedMessage])
    · exact .refl m
  | ezflora_status => exact .push _ (hstandard _ _ _)
  | raw => exact .push _ (by simp [RestCommand, extendedMessage])
  | refreshalllinksdatabase => exact .push _ (by simp [RestCommand, allLinkDatabaseMessage])

end InsteonState

end Dhas.Program
