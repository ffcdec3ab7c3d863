import Dhas.Analysis.AlarmRecords
import Dhas.Program.IOBoard

/-!
# The actions of the two alarm paths

An event of the panel comes as a serial record or as a message of an IO board. Behind the zone
groups, which are 0 and 1, the board adds the members that the record gets, or none at all. For
the zone groups the two name the actions the other way round.
-/

set_option autoImplicit false

namespace Dhas.Analysis.AlarmActions

open Dhas.Program Dhas.Program.IOBoard Dhas.Analysis.AlarmRecords

/-- The actions that the two paths have in common. -/
def namedActions : List String :=
  ["zoneon", "zoneoff", "Entry delay", "Exit delay", "Armed", "Disarmed"]

/-- The named action of an event. -/
def namedAction (json : JSON) : Option String :=
  namedActions.find? fun action => json.get "action" = some (jsonText action)

/-- The two events do not contradict each other. -/
def SameAction (serial node : JSON) : Prop :=
  ∀ a b, namedAction serial = some a → namedAction node = some b →
    a = b ∧ serial.get "usernumber" = node.get "usernumber"

/-- The events that a turn of the loop makes of a record. -/
def serialEvents (record : AlarmRecord) : List JSON :=
  (connectedModule.run [⟨0, true, .data record.bytes⟩]).events

/-- The group and the subgroup of a record in a message of type 'alarm'. -/
def panelMessage (record : AlarmRecord) (label : CString) (pins : List Bool) (pin : ℤ) :
    IOBoardData where
  type := "alarm".toList
  pins := pins
  pin := pin
  group := (AlarmData.ofBytes record.bytes).group.toNat
  subgroup := (AlarmData.ofBytes record.bytes).subgroup.toNat
  label := label

/-- What the board adds to the event of its node; `none` when there is no event. -/
def nodeEvent (b : Members) (message : IOBoardData) : Option JSON :=
  ((b.processData message).bind (·.2)).map DriverReply.members

/-- INTERNAL: a record gives the event that is read from it. -/
theorem serialEvents_eq (record : AlarmRecord) :
    serialEvents record = [(AlarmData.ofBytes record.bytes).event] := by
  have hne : record.bytes ≠ [] := by
    intro hnil
    have hlength := record.length_eq
    rw [hnil] at hlength
    exact absurd hlength (by decide)
  have hnet : OnConnection ⟨0, true, .data record.bytes⟩ :=
    Or.inr ⟨record.bytes, rfl, hne, Nat.le_of_eq record.length_eq⟩
  have hopen : connectedModule.mpSerialPort.mSocket = true := rfl
  have hevents := run_events (List.forall_mem_singleton.mpr hnet) hopen
  unfold serialEvents
  rw [hevents]
  simp [connectedModule, pieces, bytesRead, Full, record.length_eq]

/-- INTERNAL: the event of a message of the panel. SOURCE: IOBoard.cpp:38-96 -/
theorem nodeEvent_panelMessage (b : Members) (record : AlarmRecord) (label : CString)
    (pins : List Bool) (pin : ℤ) :
    nodeEvent b (panelMessage record label pins pin) =
      (alarmAction (AlarmData.ofBytes record.bytes).group.toNat
        (AlarmData.ofBytes record.bytes).subgroup.toNat).map fun action =>
          [("node", jsonText "ioboardnode"), ("subtype", jsonText "alarmpanel"),
            ("zonelabel", .str label)] ++ action := by
  have hinitial : "alarm".toList ≠ "initial".toList := by decide
  unfold nodeEvent Members.processData panelMessage
  rw [if_neg hinitial, if_pos rfl]
  simp [Function.comp_def]

/-- INTERNAL: a byte is a number below 256 exactly as its value is. -/
theorem byte_eq_iff (v : UInt8) (n : ℕ) (hn : n < 256) :
    ((v.toNat : ℕ) : ℤ) = n ↔ v = UInt8.ofNat n := by
  have hvalue : (UInt8.ofNat n).toNat = n := UInt8.toNat_ofNat_of_lt' hn
  rw [Int.natCast_inj, ← UInt8.toNat_inj, hvalue]

/-- INTERNAL: **behind the zone groups the board adds what the record gets.**
SOURCE: AlarmModule.cpp:83-123, IOBoard.cpp:60-94 -/
theorem alarmAction_eq_action {data : AlarmData} {members : JSON} (hzero : data.group ≠ 0)
    (hone : data.group ≠ 1)
    (h : alarmAction data.group.toNat data.subgroup.toNat = some members) :
    members = data.action := by
  have hgroup (n : ℕ) (hn : n < 256) := byte_eq_iff data.group n hn
  have h0 : ¬ (data.group.toNat : ℤ) = 0 := mt (hgroup 0 (by decide)).mp hzero
  have h1 : ¬ (data.group.toNat : ℤ) = 1 := mt (hgroup 1 (by decide)).mp hone
  have h2 : (data.group.toNat : ℤ) = 2 ↔ data.group = 2 := hgroup 2 (by decide)
  have h29 : (data.group.toNat : ℤ) = 29 ↔ data.group = 29 := hgroup 29 (by decide)
  have h31 : (data.group.toNat : ℤ) = 31 ↔ data.group = 31 := hgroup 31 (by decide)
  have h14 : (data.subgroup.toNat : ℤ) = 14 ↔ data.subgroup = 14 :=
    byte_eq_iff data.subgroup 14 (by decide)
  have h13 : (data.subgroup.toNat : ℤ) = 13 ↔ data.subgroup = 13 :=
    byte_eq_iff data.subgroup 13 (by decide)
  unfold alarmAction at h
  rw [if_neg h0, if_neg h1] at h
  unfold AlarmData.action
  rw [if_neg hzero, if_neg hone]
  simp only [h2, h29, h31, h14, h13] at h
  split at h
  case isTrue hpartition =>
    rw [if_pos hpartition]
    split at h
    case isTrue hexit => rw [if_pos hexit, Option.some.inj h]
    case isFalse hexit =>
      split at h
      case isTrue hentry => rw [if_neg hexit, if_pos hentry, Option.some.inj h]
      case isFalse => exact absurd h (by simp)
  case isFalse hpartition =>
    rw [if_neg hpartition]
    split at h
    case isTrue harmed =>
      rw [if_pos harmed, ← Option.some.inj h]
      rfl
    case isFalse harmed =>
      split at h
      case isTrue hdisarmed =>
        rw [if_neg harmed, if_pos hdisarmed, ← Option.some.inj h]
        rfl
      case isFalse => exact absurd h (by simp)

/-- INTERNAL: the first member of an event does not hide a member of another name. -/
theorem get_cons {key name : String} (hne : name ≠ key) (value : JSONValue) (json : JSON) :
    JSON.get ((name, value) :: json) key = json.get key := by
  unfold JSON.get
  rw [List.find?_cons_of_neg (by simpa using hne)]

/-- INTERNAL: the label comes behind the action. -/
theorem get_append_label {key : String} (hne : "label" ≠ key) (json : JSON) (value : JSONValue) :
    JSON.get (json ++ [("label", value)]) key = json.get key := by
  unfold JSON.get
  simp [List.find?_append, hne]

/-- INTERNAL: the event has the members of the action. -/
theorem event_get {key : String} (hevent : "event" ≠ key) (hlabel : "label" ≠ key)
    (data : AlarmData) : data.event.get key = data.action.get key := by
  show JSON.get (("event", jsonText "alarm") :: (data.action ++ [("label", .str data.labelText)]))
    key = _
  rw [get_cons hevent, get_append_label hlabel]

/-- INTERNAL: the event has the text of the action. -/
theorem event_action {data : AlarmData} {action : String}
    (h : data.action = [("action", jsonText action)]) :
    data.event.get "action" = some (jsonText action) := by
  rw [event_get (by decide) (by decide), h]
  rfl

/-- INTERNAL: two events of one action do not contradict each other. -/
theorem sameAction_of_get {serial node : JSON} (haction : serial.get "action" = node.get "action")
    (huser : serial.get "usernumber" = node.get "usernumber") : SameAction serial node := by
  intro a b ha hb
  unfold namedAction at ha hb
  rw [haction, hb] at ha
  exact ⟨(Option.some.inj ha).symm, huser⟩

/-- INTERNAL: an event is named by the named action that it has. -/
theorem namedAction_eq {json : JSON} {action : String} (hmem : action ∈ namedActions)
    (h : json.get "action" = some (jsonText action)) : namedAction json = some action := by
  have hsome : (namedAction json).isSome := by
    apply List.find?_isSome.mpr
    exact ⟨action, hmem, by simpa using h⟩
  obtain ⟨found, hfound⟩ := Option.isSome_iff_exists.mp hsome
  have hget : json.get "action" = some (jsonText found) := by
    simpa using List.find?_some hfound
  have hvalue : jsonText found = jsonText action := Option.some.inj (hget.symm.trans h)
  rw [hfound, String.toList_injective (JSONValue.str.inj hvalue)]

/-- INTERNAL: different named actions contradict each other. -/
theorem not_sameAction {serial node : JSON} {a b : String} (ha : a ∈ namedActions)
    (hb : b ∈ namedActions) (hne : a ≠ b) (hserial : serial.get "action" = some (jsonText a))
    (hnode : node.get "action" = some (jsonText b)) : ¬ SameAction serial node := by
  intro hsame
  exact hne (hsame a b (namedAction_eq ha hserial) (namedAction_eq hb hnode)).1

/-- **The two paths agree exactly on the events that are not of a zone.** The record is any of 37
bytes, and the message has its group and its subgroup, with any label and pins.
SOURCE: AlarmModule.cpp:70-124, IOBoard.cpp:38-96 -/
theorem sameAction_iff (record : AlarmRecord) (b : Members) (label : CString) (pins : List Bool)
    (pin : ℤ) :
    (∀ serial ∈ serialEvents record, ∀ node,
        nodeEvent b (panelMessage record label pins pin) = some node → SameAction serial node) ↔
      (AlarmData.ofBytes record.bytes).group ≠ 0 ∧ (AlarmData.ofBytes record.bytes).group ≠ 1 := by
  rw [serialEvents_eq, List.forall_mem_singleton, nodeEvent_panelMessage]
  generalize AlarmData.ofBytes record.bytes = data
  constructor
  · intro hsame
    refine ⟨fun hzero => ?_, fun hone => ?_⟩
    · have haction : data.action = [("action", jsonText "zoneon")] := if_pos hzero
      have hboard : alarmAction data.group.toNat data.subgroup.toNat =
          some [("action", jsonText "zoneoff")] := by
        rw [hzero]
        rfl
      rw [hboard] at hsame
      have hserial := event_action haction
      exact not_sameAction (by decide) (by decide) (by decide) hserial rfl (hsame _ rfl)
    · have haction : data.action = [("action", jsonText "zoneoff")] := by
        unfold AlarmData.action
        rw [hone]
        rfl
      have hboard : alarmAction data.group.toNat data.subgroup.toNat =
          some [("action", jsonText "zoneon")] := by
        rw [hone]
        rfl
      rw [hboard] at hsame
      have hserial := event_action haction
      exact not_sameAction (by decide) (by decide) (by decide) hserial rfl (hsame _ rfl)
  · rintro ⟨hzero, hone⟩ node hnode
    obtain ⟨members, hmembers, rfl⟩ := Option.map_eq_some_iff.mp hnode
    obtain rfl := alarmAction_eq_action hzero hone hmembers
    have hget {key : String} (hevent : "event" ≠ key) (hlabel : "label" ≠ key)
        (hnode : "node" ≠ key) (hsubtype : "subtype" ≠ key) (hzone : "zonelabel" ≠ key) :
        data.event.get key = JSON.get ([("node", jsonText "ioboardnode"),
          ("subtype", jsonText "alarmpanel"), ("zonelabel", .str label)] ++ data.action) key := by
      rw [event_get hevent hlabel, List.cons_append, List.cons_append, List.cons_append,
        List.nil_append, get_cons hnode, get_cons hsubtype, get_cons hzone]
    apply sameAction_of_get
    · exact hget (by decide) (by decide) (by decide) (by decide) (by decide)
    · exact hget (by decide) (by decide) (by decide) (by decide) (by decide)

/-- A record of group 0: a zone that is closed. -/
def zoneRecord : AlarmRecord := ⟨List.replicate 37 0, by decide⟩

/-- **The serial record says `zoneon` where the board says `zoneoff`.** -/
theorem zoneRecord_differs :
    ¬ ∀ serial ∈ serialEvents zoneRecord, ∀ node,
      nodeEvent .new (panelMessage zoneRecord "DOOR".toList [] 0) = some node →
        SameAction serial node := by
  intro hsame
  have hserial : (AlarmData.ofBytes zoneRecord.bytes).event ∈ serialEvents zoneRecord := by
    decide
  have h := hsame _ hserial _ rfl
  exact absurd (h "zoneon" "zoneoff" (by decide) (by decide)).1 (by decide)

end Dhas.Analysis.AlarmActions
