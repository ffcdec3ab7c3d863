import Dhas.Program.HexText
import Dhas.Model.InsteonLoop

/-!
# The listing of the devices and the ids in it

`listmodules` shows the id of a device in hexadecimal, and every other request names a device
by such a text. The devices are stored under the id that they were registered with, and keep
it, so a text of the listing finds the device of its object again, in every state of every run.

The events that the devices give away have the id as a number. A step emits events of devices
only that are listed before it, with the name of the listing.
-/

set_option autoImplicit false

namespace Dhas.Analysis.ListedModules

open Dhas.Library Dhas.Program Dhas.Model
open Dhas.Model.InsteonLoop

/-- Every device is registered under its own id. -/
def Keyed (s : Insteon) : Prop :=
  ∀ (id : InsteonID) (d : InsteonDevice), s.mModules[id]? = some d → d.mID = id

section Keyed

variable {s : Insteon}

/-- INTERNAL: without devices every device is under its id. -/
theorem keyed_empty : Keyed Insteon.empty := by
  intro id d hd
  simp [Insteon.empty] at hd

/-- INTERNAL: a device that is stored under its id. -/
theorem Keyed.setDevice (h : Keyed s) {id : InsteonID} {d : InsteonDevice} (hd : d.mID = id) :
    Keyed (s.setDevice id d) := by
  intro id' d' hd'
  rw [Insteon.getElem?_setDevice] at hd'
  split at hd'
  case isTrue heq =>
    obtain rfl := Option.some.inj hd'
    exact hd.trans heq
  case isFalse => exact h id' d' hd'

/-- INTERNAL: a frame changes the device that sent it, which keeps its id.
SOURCE: InsteonModule.cpp:633-643 -/
theorem Keyed.onInsteonMessage (h : Keyed s) (t : ℤ) (buf : FrameBuffer) :
    Keyed (Insteon.onInsteonMessage t buf s).state := by
  cases hsender : s.mModules[buf.sender]? with
  | none =>
    simp only [Insteon.onInsteonMessage, hsender]
    exact h
  | some d =>
    intro id d' hd'
    rw [Insteon.onInsteonMessage_modules hsender] at hd'
    split at hd'
    case isTrue heq =>
      obtain rfl := Option.some.inj hd'
      rw [d.onInsteonMessage_mID, h _ d hsender, heq]
    case isFalse => exact h id d' hd'

/-- INTERNAL: a message that was sent keeps every device under its id.
SOURCE: InsteonModule.cpp:645-667 -/
theorem Keyed.onInsteonMessageSent (h : Keyed s) (t : ℤ) (dest : InsteonID)
    (cmd : IInsteonMessage) : Keyed (Insteon.onInsteonMessageSent t dest cmd s).state := by
  intro id d' hd'
  rw [Insteon.onInsteonMessageSent_modules] at hd'
  obtain ⟨d, hd, heq⟩ := Option.map_eq_some_iff.mp hd'
  rw [← h id d hd, ← heq]
  split <;> rfl

end Keyed

/-! ## The requests -/

section Requests

variable {m : InsteonState}

/-- INTERNAL: a request that adds a device adds one with the id of its key.
SOURCE: InsteonModule.cpp:256-294 -/
theorem keyed_addDevice_callback (h : Keyed m.handler) (params : RESTParameters)
    {dev : CString → InsteonID → InsteonDevice × List IInsteonMessage}
    (hdev : ∀ name id, (dev name id).1.mID = id) :
    Keyed (m.addDevice_callback params dev).1.handler := by
  unfold InsteonState.addDevice_callback
  split
  case isTrue => exact h.setDevice (hdev _ _)
  case isFalse => exact h

/-- INTERNAL: `switch` puts messages on the queue, for the device that the id names.
SOURCE: InsteonModule.cpp:473-495, 718-752 -/
theorem switch_push (m : InsteonState) (params : RESTParameters) :
    ∃ cmds, (m.switch_callback params).1 = m.push cmds ∧
      ∀ cmd ∈ cmds, ∃ d, m.handler.mModules[params.id]? = some d ∧
        cmd.getDestination = d.mID &&& 0xFFFFFF := by
  have hnone : ∃ cmds, m = m.push cmds ∧ ∀ cmd ∈ cmds, ∃ d,
      m.handler.mModules[params.id]? = some d ∧ cmd.getDestination = d.mID &&& 0xFFFFFF :=
    ⟨[], by simp [InsteonModem.push], by simp⟩
  have hdevice (write : InsteonDevice → List IInsteonMessage)
      (hwrite : ∀ d, ∀ cmd ∈ write d, cmd.getDestination = d.mID &&& 0xFFFFFF) :
      ∃ cmds, m.toDevice params.id write = m.push cmds ∧ ∀ cmd ∈ cmds, ∃ d,
        m.handler.mModules[params.id]? = some d ∧
          cmd.getDestination = d.mID &&& 0xFFFFFF := by
    unfold InsteonState.toDevice
    split
    case h_1 d hd => exact ⟨write d, rfl, fun cmd hcmd => ⟨d, hd, hwrite d cmd hcmd⟩⟩
    case h_2 => exact hnone
  have hturn (on : Bool) (level subdev : UInt8) (d : InsteonDevice) :
      ∀ cmd ∈ d.turnOnOrOff on level subdev, cmd.getDestination = d.mID &&& 0xFFFFFF := by
    intro cmd hcmd
    unfold InsteonDevice.turnOnOrOff at hcmd
    split at hcmd
    · grind [SwitchDevice.turnOnOrOff, standardMessage_getDestination]
    · grind [EZFloraDevice.turnOnOrOff, standardMessage_getDestination]
    · grind [IOLinc.turnOnOrOff, standardMessage_getDestination]
  have htoggle (subdev : UInt8) (d : InsteonDevice) :
      ∀ cmd ∈ d.toggle subdev, cmd.getDestination = d.mID &&& 0xFFFFFF := by
    intro cmd hcmd
    unfold InsteonDevice.toggle at hcmd
    split at hcmd
    · grind [SwitchDevice.toggle, standardMessage_getDestination]
    · grind [EZFloraDevice.toggle, EZFloraDevice.turnOnOrOff, standardMessage_getDestination]
    · grind [IOLinc.toggle, standardMessage_getDestination]
  unfold InsteonState.switch_callback
  dsimp only
  split
  · exact hdevice _ (hturn true _ _)
  · split
    · exact hdevice _ (hturn false _ _)
    · split
      · exact hdevice _ (htoggle _)
      · exact hnone

/-- INTERNAL: every callback keeps every device under its id.
SOURCE: InsteonModule.cpp:56-184 -/
theorem keyed_callback (h : Keyed m.handler) (path : InsteonPath) (params : RESTParameters)
    (unset : UnsetMemory) : Keyed (m.callback path params unset).1.handler := by
  cases path with
  | clearmodules =>
    intro id d hd
    simp [InsteonState.callback, InsteonState.clearModuleList] at hd
  | listmodules => exact h
  | addmodule | addezflora | addiolinc =>
    exact keyed_addDevice_callback h params fun _ _ => rfl
  | setcontroller =>
    simp only [InsteonState.callback, InsteonState.setcontroller_callback]
    split
    · exact h
    · exact h
  | switch =>
    obtain ⟨cmds, hpush, -⟩ := switch_push m params
    simp only [InsteonState.callback, hpush]
    exact h
  | ezflora_setprogram =>
    simp only [InsteonState.callback, InsteonState.ezflorasetprogram_callback]
    split
    · exact h
    · exact h
  | ezflora_status => exact h
  | raw => exact h
  | refreshalllinksdatabase => exact h

end Requests

/-! ## A step of the loop -/

section Step

variable {s s' : InsteonLoop} {a : Act}

/-- INTERNAL: asking a device whether it is idle does not change its id. -/
theorem Keyed.checkDevice (h : Keyed s.modem.handler) (visited : Option InsteonID) :
    Keyed (s.checkDevice visited).modem.handler := by
  unfold InsteonLoop.checkDevice
  split
  case h_1 => exact h
  case h_2 id d hnext =>
    apply h.setDevice
    have hid := h id d (Insteon.nextDevice_some hnext).1
    unfold InsteonDevice.isIdle
    dsimp only
    split <;> exact hid

/-- INTERNAL: every step keeps the devices under their ids. -/
theorem step_keyed (h : Keyed s.modem.handler) (hstep : step s a = some s') :
    Keyed s'.modem.handler := by
  cases step_effect hstep with
  | tick seconds => exact h
  | network port => exact h
  | rest path params unset => exact keyed_callback h path params unset
  | enqueue cmd hclass => exact h
  | checkDevice visited hpc => exact h.checkDevice visited
  | disconnected devicesIdle hpc hconn => exact h
  | nothingSent devicesIdle hpc hnone => exact h
  | dropped cmd rest hpc hq hwrites => exact h
  | written cmd rest ack now reads hpc hconn hwait hq hwrites hreply =>
    dsimp only
    split
    case isTrue =>
      unfold InsteonModem.onAcknowledged
      dsimp only
      split <;> exact h.onInsteonMessageSent _ _ _
    case isFalse => exact h
  | nothingRead now reads hle => exact h
  | message now reads hle buf => exact h.onInsteonMessage _ buf
  | allLinkRecord now reads hle buf => exact h

end Step

/-! ## The listing -/

/-- INTERNAL: the id that is written is read back.
SOURCE: SwitchDevice.cpp:158-166, IOLinc.cpp:115-123, EZFloraDevice.cpp:168-179 -/
theorem strtoul_hexID (id : InsteonID) : strtoul 16 (InsteonDevice.hexID id) = id.toNat := by
  apply strtoul_hex
  have hlt := id.toNat_lt
  unfold ULONG_MAX
  omega

/-- INTERNAL: the text of an id, as a request parameter, is that id. -/
theorem id_of_hexID {params : RESTParameters} {id : InsteonID}
    (h : params "id" = InsteonDevice.hexID id) : params.id = id := by
  unfold RESTParameters.id
  rw [h, strtoul_hexID, UInt32.ofNat_toNat]

/-- INTERNAL: no two ids have one text. -/
theorem hexID_injective : Function.Injective InsteonDevice.hexID := by
  intro id id' h
  have hval := congrArg (strtoul 16) h
  rw [strtoul_hexID, strtoul_hexID] at hval
  exact UInt32.toNat_inj.mp hval

/-- INTERNAL: the object of a device has its id.
SOURCE: SwitchDevice.cpp:158-166, IOLinc.cpp:115-123, EZFloraDevice.cpp:168-179 -/
@[simp] theorem toJSON_id (d : InsteonDevice) :
    d.toJSON.get "id" = some (.str (InsteonDevice.hexID d.mID)) := rfl

/-- INTERNAL: the object of a device has its name.
SOURCE: SwitchDevice.cpp:158-166, IOLinc.cpp:115-123, EZFloraDevice.cpp:168-179 -/
@[simp] theorem toJSON_name (d : InsteonDevice) :
    d.toJSON.get "name" = some (.str d.mName) := rfl

section Listing

variable {m : InsteonState}

/-- INTERNAL: the objects of the listing are those of the devices.
SOURCE: InsteonModule.cpp:701-710 -/
theorem mem_listModules_iff {entry : JSON} : entry ∈ m.listModules ↔
    ∃ (id : InsteonID) (d : InsteonDevice), m.handler.mModules[id]? = some d ∧
      d.toJSON = entry := by
  simp [InsteonState.listModules, Std.TreeMap.mem_toList_iff_getElem?_eq_some]

/-- INTERNAL: the ids of the listing are those of the keys, in their order.
SOURCE: InsteonModule.cpp:701-710 -/
theorem listed_ids (h : Keyed m.handler) :
    m.listModules.map (fun entry => entry.get "id") =
      m.handler.mModules.keys.map fun id => some (.str (InsteonDevice.hexID id)) := by
  rw [← Std.TreeMap.map_fst_toList_eq_keys]
  unfold InsteonState.listModules
  simp only [List.map_map]
  apply List.map_congr_left
  rintro ⟨id, d⟩ hmem
  have hd := Std.TreeMap.mem_toList_iff_getElem?_eq_some.mp hmem
  simp [h id d hd]

/-- INTERNAL: no two objects of the listing show one id. -/
theorem listed_distinct (h : Keyed m.handler) :
    (m.listModules.map fun entry => entry.get "id").Nodup := by
  rw [listed_ids h]
  apply List.pairwise_map.mpr
  apply m.handler.mModules.distinct_keys.imp
  intro id id' hne heq
  have hid : id = id' := hexID_injective (JSONValue.str.inj (Option.some.inj heq))
  simp [hid] at hne

/-- What the listing says about the devices. -/
structure ListsDevices (m : InsteonState) : Prop where
  /-- no two objects show the same id -/
  distinct : (m.listModules.map fun entry => entry.get "id").Nodup
  /-- every device is listed, with the id that it is registered under -/
  complete : ∀ (id : InsteonID) (d : InsteonDevice), m.handler.mModules[id]? = some d →
    d.toJSON ∈ m.listModules ∧ d.mID = id
  /-- an id of the listing that is given back names the device of its object, and `switch` puts
  messages to the low 24 bits of that id on the queue, and does nothing else -/
  addressed : ∀ (params : RESTParameters), ∀ entry ∈ m.listModules,
    entry.get "id" = some (.str (params "id")) →
      ∃ d, m.handler.mModules[params.id]? = some d ∧ entry = d.toJSON ∧
        ∃ cmds, (m.switch_callback params).1 = m.push cmds ∧
          ∀ cmd ∈ cmds, cmd.getDestination = d.mID &&& 0xFFFFFF
  /-- two devices with ids of 24 bits do not have one destination -/
  alone : ∀ (id id' : InsteonID) (d d' : InsteonDevice), m.handler.mModules[id]? = some d →
    m.handler.mModules[id']? = some d' → id < 0x1000000 → id' < 0x1000000 →
      d.mID &&& 0xFFFFFF = d'.mID &&& 0xFFFFFF → d = d'

/-- INTERNAL: an id of 24 bits is its own destination.
SOURCE: StandardOrExtendedMessage.cpp:4-8 -/
theorem destination_eq_self {id : InsteonID} (h : id < 0x1000000) : id &&& 0xFFFFFF = id := by
  have hlt : id.toNat < 2 ^ 24 := UInt32.lt_iff_toNat_lt.mp h
  apply UInt32.toNat_inj.mp
  rw [UInt32.toNat_and]
  exact (Nat.and_two_pow_sub_one_eq_mod id.toNat 24).trans (Nat.mod_eq_of_lt hlt)

/-- INTERNAL: when every device is under its id, the devices are listed.
SOURCE: InsteonModule.cpp:473-495, 701-752 -/
theorem listsDevices_of_keyed (h : Keyed m.handler) : ListsDevices m where
  distinct := listed_distinct h
  complete := fun id d hd => ⟨mem_listModules_iff.mpr ⟨id, d, hd, rfl⟩, h id d hd⟩
  addressed := by
    intro params entry hentry hid
    obtain ⟨id, d, hd, rfl⟩ := mem_listModules_iff.mp hentry
    rw [toJSON_id, h id d hd] at hid
    have hparams : params.id = id := id_of_hexID (JSONValue.str.inj (Option.some.inj hid)).symm
    obtain ⟨cmds, hpush, hcmds⟩ := switch_push m params
    rw [hparams] at hcmds ⊢
    refine ⟨d, hd, rfl, cmds, hpush, fun cmd hcmd => ?_⟩
    obtain ⟨d', hd', hdest⟩ := hcmds cmd hcmd
    obtain rfl := Option.some.inj (hd.symm.trans hd')
    exact hdest
  alone := by
    intro id id' d d' hd hd' hid hid' hdest
    rw [h id d hd, h id' d' hd', destination_eq_self hid, destination_eq_self hid'] at hdest
    rw [hdest] at hd
    exact Option.some.inj (hd.symm.trans hd')

end Listing

/-- **In every state of every run the listing shows each device once, and the text of an id in
it leads back to the device of its object**, which no other device shares its destination with when
their ids have the 24 bits of an Insteon address.
SOURCE: InsteonModule.cpp:56-184, 223-295, 445-495, 669-752, SwitchDevice.cpp:158-166,
IOLinc.cpp:115-123, EZFloraDevice.cpp:168-179 -/
theorem listsDevices_throughout (port : ISerialPort) (waiting : Bool) (now : ℤ)
    (acts : List Act) :
    Throughout step (fun s => ListsDevices s.modem) (init port waiting now) acts := by
  apply throughout_invariant (I := fun s => Keyed s.modem.handler)
  · exact fun s h => listsDevices_of_keyed h
  · exact fun s a s' h hstep => step_keyed h hstep
  · exact keyed_empty

/-! ## The events of the devices -/

/-- The kinds of the events of the devices. -/
def insteonKinds : List String := ["insteon", "wateron", "wateroff"]

/-- An object that begins with the event, the id and the name of the device. -/
def Names (d : InsteonDevice) (e : JSON) : Prop :=
  ∃ event ∈ insteonKinds, ∃ rest, e = eventHeader d event ++ rest

/-- INTERNAL: an event that names a device has its id and its name. -/
theorem Names.get {d : InsteonDevice} {e : JSON} (h : Names d e) :
    e.get "id" = some (.num d.mID.toNat) ∧ e.get "name" = some (.str d.mName) := by
  obtain ⟨event, -, rest, rfl⟩ := h
  exact ⟨rfl, rfl⟩

section Events

variable (d : InsteonDevice) (buf : FrameBuffer)

/-- INTERNAL: the event of a group cleanup names its device. -/
theorem groupCleanupEvent_names (type : String) : Names d (groupCleanupEvent d type buf).json := by
  unfold groupCleanupEvent
  dsimp only
  split
  · exact ⟨"insteon", by decide, _, List.append_assoc _ _ _⟩
  · split
    · exact ⟨"insteon", by decide, _, List.append_assoc _ _ _⟩
    · exact ⟨"insteon", by decide, _, rfl⟩

/-- INTERNAL: the event of a status names its device, when there is one. -/
theorem statusEvent_names (type : InsteonDeviceType) (level : UInt8) :
    (statusEvent d type level buf).json = [] ∨ Names d (statusEvent d type level buf).json := by
  unfold statusEvent
  dsimp only
  split
  · exact .inr ⟨"insteon", by decide, _, rfl⟩
  · exact .inl rfl

/-- INTERNAL: an event of a switch names it.
SOURCE: SwitchDevice.cpp:61-155 -/
theorem switchDevice_names : (SwitchDevice.processEvent d buf).json = [] ∨
    Names d (SwitchDevice.processEvent d buf).json := by
  unfold SwitchDevice.processEvent
  dsimp only
  split
  · split
    · exact statusEvent_names d buf _ _
    · split
      · exact .inr ⟨"insteon", by decide, _, rfl⟩
      · split
        · exact .inr ⟨"insteon", by decide, _, rfl⟩
        · exact .inl rfl
  · split
    · exact .inr (groupCleanupEvent_names d buf _)
    · split
      · split <;> exact .inl rfl
      · exact .inl rfl

/-- INTERNAL: an event of an IOLinc names it.
SOURCE: IOLinc.cpp:55-112 -/
theorem ioLinc_names : (IOLinc.processEvent d buf).json = [] ∨
    Names d (IOLinc.processEvent d buf).json := by
  unfold IOLinc.processEvent
  split
  · split
    · exact statusEvent_names d buf _ _
    · exact .inl rfl
  · split
    · exact .inr (groupCleanupEvent_names d buf _)
    · exact .inl rfl

/-- INTERNAL: an event of an EZFlora names it.
SOURCE: EZFloraDevice.cpp:98-166 -/
theorem ezFlora_names (mStatusByte : UInt8) (mMeter : ℤ) :
    (EZFloraDevice.processEvent d mStatusByte mMeter buf).json = [] ∨
      Names d (EZFloraDevice.processEvent d mStatusByte mMeter buf).json := by
  have hvalve : EZFloraDevice.valveEvent d mStatusByte mMeter buf = [] ∨
      Names d (EZFloraDevice.valveEvent d mStatusByte mMeter buf) := by
    unfold EZFloraDevice.valveEvent
    dsimp only
    split
    · exact .inl rfl
    · split
      · exact .inr ⟨"wateroff", by decide, _, rfl⟩
      · split
        · exact .inr ⟨"wateron", by decide, _, rfl⟩
        · exact .inl rfl
  unfold EZFloraDevice.processEvent
  split
  · split
    · exact .inl rfl
    · exact hvalve
  · exact .inl rfl

/-- INTERNAL: what a device makes of a frame is no object at all, or one that names the device.
SOURCE: InsteonDevice.cpp:108-152 -/
theorem onInsteonMessage_names :
    (d.onInsteonMessage buf).json = [] ∨ Names d (d.onInsteonMessage buf).json := by
  unfold InsteonDevice.onInsteonMessage
  split
  · exact .inl rfl
  · dsimp only [InsteonDevice.processEvent]
    split
    · exact switchDevice_names d buf
    · exact ezFlora_names d buf _ _
    · exact ioLinc_names d buf

end Events

/-- The events that a step adds. -/
def Emits (s s' : Insteon) (emitted : List JSON) : Prop := s'.events = s.events ++ emitted

/-- INTERNAL: a step that leaves the events alone emits none. -/
theorem Emits.none {s s' : Insteon} (h : s'.events = s.events) : Emits s s' [] :=
  h.trans (List.append_nil _).symm

/-- The object shows the id of the event, in hexadecimal. -/
def ShowsId (e entry : JSON) : Prop :=
  ∃ id : InsteonID, e.get "id" = some (.num id.toNat) ∧
    entry.get "id" = some (.str (InsteonDevice.hexID id))

/-- One object of the listing shows the id of the event, and it has the name of the event. -/
def ListedOnce (listing : List JSON) (e : JSON) : Prop :=
  ∃ entry ∈ listing, entry.get "name" = e.get "name" ∧
    ∀ other ∈ listing, ShowsId e other ↔ other = entry

/-- A step emits events of devices only that are listed, each by one object. -/
def EmitsListed (s : InsteonLoop) (a : Act) : Prop :=
  ∀ s', step s a = some s' → ∃ emitted, Emits s.modem.handler s'.modem.handler emitted ∧
    ∀ e ∈ emitted, ListedOnce s.modem.listModules e

section Emitted

variable {m : InsteonState} {s s' : InsteonLoop} {a : Act}

/-- INTERNAL: an object of the listing that shows an id is that of the device with the id. -/
theorem listed_eq (h : Keyed m.handler) {id : InsteonID} {d : InsteonDevice}
    (hd : m.handler.mModules[id]? = some d) {entry : JSON} (hentry : entry ∈ m.listModules)
    (hid : entry.get "id" = some (.str (InsteonDevice.hexID id))) :
    entry = d.toJSON := by
  obtain ⟨id', d', hd', rfl⟩ := mem_listModules_iff.mp hentry
  rw [toJSON_id, h id' d' hd'] at hid
  obtain rfl : id' = id := hexID_injective (JSONValue.str.inj (Option.some.inj hid))
  obtain rfl := Option.some.inj (hd.symm.trans hd')
  rfl

/-- INTERNAL: a frame is an event of the device that sent it.
SOURCE: InsteonModule.cpp:633-643 -/
theorem message_emits (h : Keyed m.handler) (t : ℤ) (buf : FrameBuffer) :
    ∃ emitted, Emits m.handler (Insteon.onInsteonMessage t buf m.handler).state emitted ∧
      ∀ e ∈ emitted, ListedOnce m.listModules e := by
  cases hsender : m.handler.mModules[buf.sender]? with
  | none =>
    refine ⟨[], Emits.none ?_, by simp⟩
    simp only [Insteon.onInsteonMessage, hsender]
  | some d =>
    simp only [Insteon.onInsteonMessage, hsender]
    split
    case isFalse => exact ⟨[], Emits.none rfl, by simp⟩
    case isTrue hevent =>
      refine ⟨[(d.onInsteonMessage buf).json], rfl, ?_⟩
      rcases onInsteonMessage_names d buf with hnil | hnames
      · simp [hnil, JSON.get] at hevent
      · obtain ⟨hid, hname⟩ := hnames.get
        intro e he
        obtain rfl := List.mem_singleton.mp he
        have hmem := mem_listModules_iff.mpr ⟨_, d, hsender, rfl⟩
        refine ⟨d.toJSON, hmem, (toJSON_name d).trans hname.symm, fun other hother => ?_⟩
        constructor
        · rintro ⟨id, hid', hlisted⟩
          have hnum : (d.mID.toNat : ℤ) = id.toNat :=
            JSONValue.num.inj (Option.some.inj (hid.symm.trans hid'))
          obtain rfl : d.mID = id := UInt32.toNat_inj.mp (by exact_mod_cast hnum)
          rw [h _ d hsender] at hlisted
          exact listed_eq h hsender hother hlisted
        · rintro rfl
          exact ⟨d.mID, hid, toJSON_id d⟩

/-- INTERNAL: a request emits nothing. SOURCE: InsteonModule.cpp:56-184 -/
theorem callback_events (m : InsteonState) (path : InsteonPath) (params : RESTParameters)
    (unset : UnsetMemory) : (m.callback path params unset).1.handler.events = m.handler.events := by
  have heff := m.callback_effect path params unset
  generalize (m.callback path params unset).1 = m' at heff ⊢
  cases heff with
  | push cmds h => rfl
  | setController id => rfl
  | addDevice id dev hidle h => rfl
  | clear => rfl

/-- INTERNAL: a message that was sent emits no event. -/
theorem onInsteonMessageSent_events (t : ℤ) (dest : InsteonID) (cmd : IInsteonMessage)
    (s : Insteon) : (Insteon.onInsteonMessageSent t dest cmd s).state.events = s.events := by
  unfold Insteon.onInsteonMessageSent
  split
  · rfl
  · split <;> rfl

/-- INTERNAL: only the receiving half of `process` emits events. -/
theorem step_emits (h : Keyed s.modem.handler) : EmitsListed s a := by
  have hsame {s' : Insteon} (heq : s'.events = s.modem.handler.events) :
      ∃ emitted, Emits s.modem.handler s' emitted ∧
        ∀ e ∈ emitted, ListedOnce s.modem.listModules e :=
    ⟨[], Emits.none heq, by simp⟩
  intro s' hstep
  cases step_effect hstep with
  | tick seconds => exact hsame rfl
  | network port => exact hsame rfl
  | rest path params unset => exact hsame (callback_events s.modem path params unset)
  | enqueue cmd hclass => exact hsame rfl
  | checkDevice visited hpc =>
    apply hsame
    unfold InsteonLoop.checkDevice
    split <;> rfl
  | disconnected devicesIdle hpc hconn => exact hsame rfl
  | nothingSent devicesIdle hpc hnone => exact hsame rfl
  | dropped cmd rest hpc hq hwrites => exact hsame rfl
  | written cmd rest ack now reads hpc hconn hwait hq hwrites hreply =>
    apply hsame
    dsimp only
    split
    case isTrue =>
      unfold InsteonModem.onAcknowledged
      dsimp only
      split <;> exact onInsteonMessageSent_events _ _ _ _
    case isFalse => rfl
  | nothingRead now reads hle => exact hsame rfl
  | message now reads hle buf => exact message_emits h now buf
  | allLinkRecord now reads hle buf => exact hsame rfl

end Emitted

/-- **Along every run the events are those of devices that are listed then: one object of the
listing shows the id of the event, and it has the name of the event.**
SOURCE: InsteonModule.cpp:633-643, 701-710, InsteonDevice.cpp:108-152, SwitchDevice.cpp:61-166,
IOLinc.cpp:55-123, EZFloraDevice.cpp:98-179 -/
theorem emitsListed_along (port : ISerialPort) (waiting : Bool) (now : ℤ) (acts : List Act) :
    Along step EmitsListed (init port waiting now) acts := by
  apply along_of_invariant (I := fun s => Keyed s.modem.handler)
  · exact fun s a s' h hstep => step_emits h
  · exact fun s a s' h hstep => step_keyed h hstep
  · exact keyed_empty

end Dhas.Analysis.ListedModules
