import Dhas.Analysis.WifiRegistry
import Dhas.Model.NodeStream

/-!
# The messages of a wifi node and the segments that TCP makes of them

`receiveFromNode` takes what one `recv` returns for one message. So the messages of a node are
handled as if each had come alone exactly when each does come alone: a heartbeat in two pieces,
or together with anything else, is data for the driver, and a node whose heartbeats come so is
closed after 15 seconds.
-/

set_option autoImplicit false

namespace Dhas.Analysis.NodeSegments

open Dhas.Library Dhas.Program Dhas.Program.DHASWifiNodesModule Dhas.Model
open Dhas.Model.NodeStream Dhas.Analysis.WifiRegistry

/-- What was done between two registries for the node at `ip` is what its messages ask for, each
of them alone; and if its heartbeats are punctual, it is not closed. -/
structure AsIfAlone (ip : CString) (lastHeartBeat : ℤ) (messages : List Message) (acts : List Act)
    (m m' : DHASWifiNodesModule) : Prop where
  handled : handled ip m'.trace = handled ip m.trace ++ messages.map (Message.item ip)
  kept : Punctual messages 0 lastHeartBeat acts → ip ∈ m'.mNodes

/-- What is done for what one `recv` returns. -/
def itemOf (ip : CString) (buf : List UInt8) : WifiItem :=
  if buf = heartBeat then .heartBeat ip else .processData ip buf

/-- INTERNAL: different messages make different items. -/
theorem itemOf_injective (ip : CString) : Function.Injective (itemOf ip) := by
  intro buf other h
  unfold itemOf at h
  by_cases hbuf : buf = heartBeat
  · by_cases hother : other = heartBeat
    · exact hbuf.trans hother.symm
    · rw [if_pos hbuf, if_neg hother] at h
      cases h
  · by_cases hother : other = heartBeat
    · rw [if_neg hbuf, if_pos hother] at h
      cases h
    · rw [if_neg hbuf, if_neg hother] at h
      exact (WifiItem.processData.inj h).2

/-- INTERNAL: a message that comes alone is handled as what it is. -/
theorem itemOf_wire (ip : CString) (message : Message) :
    itemOf ip message.wire = message.item ip := by
  cases message with
  | heartBeat => exact if_pos rfl
  | driver buf ne_nil ne_heartBeat => exact if_neg ne_heartBeat

/-- INTERNAL: no message is empty. -/
theorem wire_ne_nil (message : Message) : message.wire ≠ [] := by
  cases message with
  | heartBeat => exact List.cons_ne_nil _ _
  | driver buf ne_nil ne_heartBeat => exact ne_nil

/-- INTERNAL: only a heartbeat is written as the heartbeat. -/
theorem wire_eq_heartBeat_iff (message : Message) :
    message.wire = heartBeat ↔ message.isHeartBeat = true := by
  cases message with
  | heartBeat => exact iff_of_true rfl rfl
  | driver buf ne_nil ne_heartBeat => exact iff_of_false ne_heartBeat Bool.false_ne_true

/-! ## What is handled -/

section Handled

variable {parse : List UInt8 → IOBoardData} {ip : CString} {m m' : DHASWifiNodesModule}

/-- INTERNAL: what was handled in two lists, one after the other. -/
theorem handled_append (before after : List WifiItem) :
    handled ip (before ++ after) = handled ip before ++ handled ip after :=
  List.filter_append before after

/-- INTERNAL: one `recv`. SOURCE: DHASWifiNodesModule.cpp:72-131 -/
theorem handled_receive {node : DHASWifiNode} {buf : List UInt8} {now : ℤ}
    (h : m.receiveFromNode parse ip node (.data buf) now = some m') :
    handled ip m'.trace = handled ip m.trace ++ [itemOf ip buf] := by
  unfold receiveFromNode itemOf at *
  by_cases hheart : buf = heartBeat
  · simp only [if_pos hheart] at h ⊢
    obtain rfl := Option.some.inj h
    show handled ip (m.trace ++ [_]) = _
    rw [handled_append]
    congr 1
    exact List.filter_cons_of_pos (by simp [Handles])
  · simp only [if_neg hheart] at h ⊢
    obtain ⟨driver, -, rfl⟩ := Option.map_eq_some_iff.mp h
    have hrecord : handled ip (m.record (.processData ip buf)).trace =
        handled ip m.trace ++ [.processData ip buf] := by
      show handled ip (m.trace ++ [_]) = _
      rw [handled_append]
      congr 1
      exact List.filter_cons_of_pos (by simp [Handles])
    cases driver.processData parse buf with
    | none => exact hrecord
    | some reply =>
      show handled ip ((m.record (.processData ip buf)).trace ++ [_]) = _
      rw [handled_append, hrecord]
      exact List.append_nil _

/-- INTERNAL: a sweep handles no message. SOURCE: DHASWifiNodesModule.cpp:145-176 -/
theorem handled_checkHeartBeats (h : RegistryAgrees m) {now : ℤ}
    (hsweep : m.checkHeartBeats now = some m') : handled ip m'.trace = handled ip m.trace := by
  have hfold := foldlM_mNodes
    (P := fun m' => RegistryAgrees m' ∧ handled ip m'.trace = handled ip m.trace)
    (f := checkHeartBeat (now - 3 * NODE_HEARTBEAT)) ?_ ⟨h, rfl⟩
  · obtain ⟨m₁, hm₁, -, hhandled⟩ := hfold
    obtain rfl := Option.some.inj (hm₁.symm.trans hsweep)
    exact hhandled
  · rintro m₁ k node ⟨h₁, hhandled⟩ hnode
    obtain ⟨m₂, hm₂, hagrees, hframe⟩ := h₁.checkHeartBeat hnode (now - 3 * NODE_HEARTBEAT)
    refine ⟨m₂, hm₂, ⟨hagrees, ?_⟩, hframe⟩
    rw [← hhandled]
    unfold checkHeartBeat at hm₂
    split at hm₂
    · obtain ⟨d, -, rfl⟩ := Option.map_eq_some_iff.mp hm₂
      show handled ip (m₁.trace ++ [_]) = _
      rw [handled_append]
      exact List.append_nil _
    · obtain rfl := Option.some.inj hm₂
      rfl

/-- INTERNAL: a step keeps the registry, and what it handles is what it receives. -/
theorem step_handled (h : RegistryAgrees m) {act : Act} (hstep : step parse ip m act = some m') :
    RegistryAgrees m' ∧
      handled ip m'.trace = handled ip m.trace ++ (chunks [act]).map (itemOf ip) := by
  cases act with
  | recv buf now =>
    obtain ⟨node, hnode, hreceive⟩ := Option.bind_eq_some_iff.mp hstep
    obtain ⟨m₁, hm₁, hagrees⟩ := h.receiveFromNode parse hnode (.data buf) now
    obtain rfl := Option.some.inj (hm₁.symm.trans hreceive)
    exact ⟨hagrees, handled_receive hreceive⟩
  | checkHeartBeats now =>
    obtain ⟨m₁, hm₁, hagrees⟩ := h.checkHeartBeats now
    obtain rfl := Option.some.inj (hm₁.symm.trans hstep)
    refine ⟨hagrees, (handled_checkHeartBeats h hstep).trans ?_⟩
    exact (List.append_nil _).symm

/-- INTERNAL: the chunks of the first act come first. -/
theorem chunks_cons (act : Act) (acts : List Act) :
    chunks (act :: acts) = chunks [act] ++ chunks acts := by
  unfold chunks
  rw [← List.filterMap_append]
  rfl

/-- INTERNAL: **each `recv` is handled as one message.** -/
theorem run_handled (h : RegistryAgrees m) {acts : List Act}
    (hrun : run (step parse ip) m acts = some m') :
    handled ip m'.trace = handled ip m.trace ++ (chunks acts).map (itemOf ip) := by
  induction acts generalizing m with
  | nil =>
    obtain rfl := Option.some.inj hrun
    exact (List.append_nil _).symm
  | cons act acts ih =>
    obtain ⟨m₁, hm₁, hrest⟩ := Option.bind_eq_some_iff.mp hrun
    obtain ⟨h₁, hhandled⟩ := step_handled h hm₁
    rw [ih h₁ hrest, hhandled, chunks_cons act acts, List.map_append, List.append_assoc]

/-- INTERNAL: the messages are handled each alone exactly when they come each alone. -/
theorem handled_iff (h : RegistryAgrees m) {acts : List Act} (messages : List Message)
    (hrun : run (step parse ip) m acts = some m') :
    handled ip m'.trace = handled ip m.trace ++ messages.map (Message.item ip) ↔
      chunks acts = messages.map Message.wire := by
  have hitems : messages.map (Message.item ip) = (messages.map Message.wire).map (itemOf ip) := by
    rw [List.map_map]
    apply List.map_congr_left
    intro message _
    exact (itemOf_wire ip message).symm
  rw [run_handled h hrun, hitems, List.append_cancel_left_eq]
  exact (List.map_injective_iff.mpr (itemOf_injective ip)).eq_iff

end Handled

/-! ## The heartbeats -/

section Kept

variable {parse : List UInt8 → IOBoardData} {ip : CString} {m m' : DHASWifiNodesModule}

/-- INTERNAL: a whole message completes itself and nothing else. -/
theorem advance_wire (message : Message) (messages : List Message) :
    advance (message :: messages) (0 + message.wire.length) =
      (messages, 0, message.isHeartBeat) := by
  have hrest : advance messages 0 = (messages, 0, false) := by
    cases messages with
    | nil => rfl
    | cons other messages =>
      have hpos := List.length_pos_iff.mpr (wire_ne_nil other)
      exact if_neg (by omega)
  rw [Nat.zero_add, advance, if_pos (Nat.le_refl _), Nat.sub_self, hrest]
  show (messages, 0, message.isHeartBeat || false) = _
  rw [Bool.or_false]

/-- INTERNAL: a sweep leaves a node whose heartbeat is not old.
SOURCE: DHASWifiNodesModule.cpp:145-176 -/
theorem getElem?_checkHeartBeats (h : RegistryAgrees m) {node : DHASWifiNode}
    (hnode : m.mNodes[ip]? = some node) {now : ℤ}
    (hnow : now - 3 * NODE_HEARTBEAT < node.lastHeartBeat)
    (hsweep : m.checkHeartBeats now = some m') : m'.mNodes[ip]? = some node := by
  have hfold := foldlM_mNodes
    (P := fun m' => RegistryAgrees m' ∧ m'.mNodes[ip]? = some node)
    (f := checkHeartBeat (now - 3 * NODE_HEARTBEAT)) ?_ ⟨h, hnode⟩
  · obtain ⟨m₁, hm₁, -, hkept⟩ := hfold
    obtain rfl := Option.some.inj (hm₁.symm.trans hsweep)
    exact hkept
  · rintro m₁ k other ⟨h₁, hkept⟩ hother
    obtain ⟨m₂, hm₂, hagrees, hframe⟩ := h₁.checkHeartBeat hother (now - 3 * NODE_HEARTBEAT)
    refine ⟨m₂, hm₂, ⟨hagrees, ?_⟩, hframe⟩
    by_cases hk : ip = k
    · subst hk
      obtain rfl := Option.some.inj (hkept.symm.trans hother)
      unfold checkHeartBeat at hm₂
      rw [if_neg (Int.not_le.mpr hnow)] at hm₂
      obtain rfl := Option.some.inj hm₂
      exact hkept
    · exact (hframe ip hk).trans hkept

/-- INTERNAL: a `recv` leaves the node there, with its heartbeat.
SOURCE: DHASWifiNodesModule.cpp:72-131 -/
theorem getElem?_receive {node : DHASWifiNode} (hnode : m.mNodes[ip]? = some node)
    {buf : List UInt8} {now : ℤ}
    (h : m.receiveFromNode parse ip node (.data buf) now = some m') :
    ∃ node', m'.mNodes[ip]? = some node' ∧
      node'.lastHeartBeat = if buf = heartBeat then now else node.lastHeartBeat := by
  unfold receiveFromNode at h
  by_cases hheart : buf = heartBeat
  · simp only [if_pos hheart] at h ⊢
    obtain rfl := Option.some.inj h
    exact ⟨_, (getElem?_insert _ _ _ _).trans (if_pos rfl), rfl⟩
  · simp only [if_neg hheart] at h ⊢
    obtain ⟨driver, -, rfl⟩ := Option.map_eq_some_iff.mp h
    refine ⟨node, ?_, rfl⟩
    cases driver.processData parse buf with
    | none => exact hnode
    | some reply => exact hnode

/-- INTERNAL: a node whose messages come each alone, with punctual heartbeats, is not closed. The
time of the last heartbeat is the one that the node has. -/
theorem kept_of_alone {acts : List Act} {messages : List Message} (h : RegistryAgrees m)
    {node : DHASWifiNode} (hnode : m.mNodes[ip]? = some node)
    (hchunks : chunks acts = messages.map Message.wire)
    (hpunctual : Punctual messages 0 node.lastHeartBeat acts)
    (hrun : run (step parse ip) m acts = some m') : ip ∈ m'.mNodes := by
  induction acts generalizing m messages node with
  | nil =>
    obtain rfl := Option.some.inj hrun
    exact mem_of_getElem? hnode
  | cons act acts ih =>
    obtain ⟨m₁, hm₁, hrest⟩ := Option.bind_eq_some_iff.mp hrun
    have h₁ := (step_handled h hm₁).1
    cases act with
    | recv buf now =>
      have hreceive : m.receiveFromNode parse ip node (.data buf) now = some m₁ := by
        simpa only [step, hnode, Option.bind_some] using hm₁
      obtain ⟨node', hnode', hheart⟩ := getElem?_receive hnode hreceive
      cases messages with
      | nil => cases hchunks
      | cons message messages =>
        obtain ⟨hbuf, htail⟩ := List.cons.inj hchunks
        have hlater : chunks acts = messages.map Message.wire := htail
        subst hbuf
        simp only [Punctual, advance_wire] at hpunctual
        apply ih h₁ hnode' hlater _ hrest
        rw [hheart]
        simpa only [wire_eq_heartBeat_iff] using hpunctual
    | checkHeartBeats now =>
      obtain ⟨hnow, hpunctual⟩ := hpunctual
      have hnode₁ : m₁.mNodes[ip]? = some node := by
        apply getElem?_checkHeartBeats h hnode _ hm₁
        unfold NODE_HEARTBEAT at hnow ⊢
        omega
      exact ih h₁ hnode₁ hchunks hpunctual hrest

end Kept

/-- **The messages of a wifi node are handled as if each had arrived alone if and only if each
arrives alone**: whatever pieces `recv` returns, every heartbeat sets `lastHeartBeat` once, every
other message goes to the driver, and a node whose heartbeats arrive at least every 5 seconds is
not closed, exactly when each piece is one message.
SOURCE: DHASWifiNodesModule.cpp:72-131, 145-176 -/
theorem asIfAlone_iff (parse : List UInt8 → IOBoardData) (ip : CString)
    (before : List WifiNodes.Act) (messages : List Message) (acts : List Act)
    {m m' : DHASWifiNodesModule} {node : DHASWifiNode}
    (hbefore : run (WifiNodes.step parse) DHASWifiNodesModule.new before = some m)
    (hnode : m.mNodes[ip]? = some node) (hrun : run (step parse ip) m acts = some m') :
    AsIfAlone ip node.lastHeartBeat messages acts m m' ↔
      chunks acts = messages.map Message.wire := by
  have h := run_registryAgrees hbefore
  constructor
  · intro halone
    exact (handled_iff h messages hrun).mp halone.handled
  · intro hchunks
    exact ⟨(handled_iff h messages hrun).mpr hchunks,
      fun hpunctual => kept_of_alone h hnode hchunks hpunctual hrun⟩

/-- The messages of an IO board that never sends anything else. -/
def silentBoard : List UInt8 → IOBoardData := fun _ => ⟨[], [], 0, 0, 0, []⟩

/-- An IO board is discovered at time 100. -/
def boardDiscovered : List WifiNodes.Act :=
  [.advertisement "EDISON IO CONTROLLER".toList "10.0.0.7".toList "io".toList 100 (some 7)]

/-- A message of the driver of the board. -/
def boardMessage : Message := .driver [1, 2, 3] (by decide) (by decide)

/-- The node sends a heartbeat and its driver a message, each of which comes alone. -/
def heartBeatAndMessage : List Act :=
  [.recv heartBeat 104, .recv [1, 2, 3] 104, .checkHeartBeats 105]

/-- The two are handled as what they are, and the node is kept. -/
theorem heartBeatAndMessage_asIfAlone :
    ∃ m node m',
      run (WifiNodes.step silentBoard) DHASWifiNodesModule.new boardDiscovered = some m ∧
      m.mNodes["10.0.0.7".toList]? = some node ∧
      run (step silentBoard "10.0.0.7".toList) m heartBeatAndMessage = some m' ∧
      AsIfAlone "10.0.0.7".toList node.lastHeartBeat [.heartBeat, boardMessage] heartBeatAndMessage
        m m' := by
  refine ⟨_, _, _, rfl, rfl, rfl, ?_⟩
  exact (asIfAlone_iff silentBoard _ boardDiscovered _ _ rfl rfl rfl).mpr rfl

/-- The three heartbeats of 15 seconds, each in two pieces. -/
def splitHeartBeats : List Act :=
  [.recv [0x79, 0x6f, 0x21] 105, .recv [0x0d, 0x0a] 105, .checkHeartBeats 105,
    .recv [0x79, 0x6f, 0x21] 110, .recv [0x0d, 0x0a] 110, .checkHeartBeats 110,
    .recv [0x79, 0x6f, 0x21] 115, .recv [0x0d, 0x0a] 115, .checkHeartBeats 115]

/-- **A node whose heartbeats come every 5 seconds, in two pieces, is closed.** -/
theorem splitHeartBeats_closed :
    (chunks splitHeartBeats).flatten =
        ([.heartBeat, .heartBeat, .heartBeat].map Message.wire).flatten ∧
      ∃ m node m',
        run (WifiNodes.step silentBoard) DHASWifiNodesModule.new boardDiscovered = some m ∧
        m.mNodes["10.0.0.7".toList]? = some node ∧
        Punctual [.heartBeat, .heartBeat, .heartBeat] 0 node.lastHeartBeat splitHeartBeats ∧
        run (step silentBoard "10.0.0.7".toList) m splitHeartBeats = some m' ∧
        "10.0.0.7".toList ∉ m'.mNodes ∧
        ¬ AsIfAlone "10.0.0.7".toList node.lastHeartBeat [.heartBeat, .heartBeat, .heartBeat]
          splitHeartBeats m m' := by
  refine ⟨rfl, _, _, _, rfl, rfl, ?_, rfl, ?_, ?_⟩
  · simp [Punctual, splitHeartBeats, advance, Message.wire, heartBeat, Message.isHeartBeat,
      NODE_HEARTBEAT]
  · decide
  · intro halone
    have hlength := congrArg List.length halone.handled
    revert hlength
    decide

end Dhas.Analysis.NodeSegments
