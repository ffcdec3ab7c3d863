import Dhas.Library.Trace
import Dhas.Model.WifiNodes

/-!
# The registry of the wifi nodes and its events

A node is in `mNodes` from its 'new' event to its 'closed' event, and no longer. Nodes come in
`discoverNode` and go in `receiveFromNode` and `checkHeartBeats`; each of the three changes the
map and sends the event, and the driver says the address under which the node is in the map. So
no loop ever follows a null driver.
-/

set_option autoImplicit false

namespace Dhas.Analysis.WifiRegistry

open Dhas.Library Dhas.Program Dhas.Program.DHASWifiNodesModule Dhas.Model.WifiNodes

/-- The registry and its events agree. -/
structure RegistryAgrees (m : DHASWifiNodesModule) : Prop where
  count : m.mNodes.size ≤ MAX_NODES_COUNT
  driver : ∀ (ip : CString) (node : DHASWifiNode), m.mNodes[ip]? = some node →
    ∃ d : IDWN, node.driver = some d ∧ d.ip = ip
  alternate : ∀ ip, Alternates .new .closed (nodeEvents ip m.trace)
  last : ∀ ip, ip ∈ m.mNodes ↔ (nodeEvents ip m.trace).getLast? = some .new

/-! ## Events -/

section Events

variable {ip : CString}

/-- INTERNAL: the events of a node in two lists, one after the other. -/
@[simp] theorem nodeEvents_append (before after : List WifiItem) :
    nodeEvents ip (before ++ after) = nodeEvents ip before ++ nodeEvents ip after :=
  List.filterMap_append

/-- INTERNAL: an event that is processed, if it is about the node. -/
theorem nodeEvents_processEvent (message : DwnMessage) :
    nodeEvents ip [.processEvent message] = (nodeEvent ip message.json).toList := by
  cases h : nodeEvent ip message.json with
  | none => simp [nodeEvents, h]
  | some e => simp [nodeEvents, h]

/-- INTERNAL: the message of a new node is about that node. -/
theorem nodeEvent_new (ip' name id : CString) :
    nodeEvent ip (nodeMessage "new" ip' name id).json = if ip' = ip then some .new else none := by
  simp [nodeEvent, nodeMessage, JSON.str, JSON.get, jsonText, JSONValue.text]

/-- INTERNAL: the message of a closed node is about that node. -/
theorem nodeEvent_closed (ip' name id : CString) :
    nodeEvent ip (nodeMessage "closed" ip' name id).json =
      if ip' = ip then some .closed else none := by
  simp [nodeEvent, nodeMessage, JSON.str, JSON.get, jsonText, JSONValue.text]

/-- INTERNAL: no driver adds a type. SOURCE: SprinklersNode.cpp:19-47, IOBoard.cpp:16-109 -/
theorem processData_noType {parse : List UInt8 → IOBoardData} {d : IDWN} {buf : List UInt8}
    {reply : DriverReply} (h : d.processData parse buf = some reply) :
    ∀ member ∈ reply.members, member.1 ≠ "type" := by
  unfold IDWN.processData at h
  split at h
  · unfold SprinklersNode.processData at h
    split at h
    · split at h
      · obtain rfl := Option.some.inj h
        simp
      · split at h
        · obtain rfl := Option.some.inj h
          simp
        · cases h
    · cases h
  · unfold IOBoard.processData at h
    split at h
    · obtain rfl := Option.some.inj h
      simp
    · split at h
      · obtain ⟨action, haction, rfl⟩ := Option.map_eq_some_iff.mp h
        have hnames : ∀ member ∈ action, member.1 ≠ "type" := by
          unfold IOBoard.alarmAction at haction
          repeat' split at haction
          all_goals
            cases haction
            try simp
        intro member hmember
        simp only [List.cons_append, List.nil_append, List.mem_cons] at hmember
        rcases hmember with rfl | rfl | rfl | hmember
        · simp
        · simp
        · simp
        · exact hnames member hmember
      · split at h
        · obtain rfl := Option.some.inj h
          simp
        · cases h

/-- INTERNAL: what a driver makes of its data says of no node that it comes or goes. -/
theorem nodeEvent_reply {members : JSON} (h : ∀ member ∈ members, member.1 ≠ "type")
    (ip' name id : CString) :
    nodeEvent ip (members ++ [("event", jsonText "dwn"), ("ip", .str ip'), ("name", .str name),
      ("id", .str id)]) = none := by
  have htype : JSON.str (members ++ [("event", jsonText "dwn"), ("ip", .str ip'),
      ("name", .str name), ("id", .str id)]) "type" = "{invalid}".toList := by
    have hget : JSON.get (members ++ [("event", jsonText "dwn"), ("ip", .str ip'),
        ("name", .str name), ("id", .str id)]) "type" = none := by
      unfold JSON.get
      rw [List.find?_append, List.find?_eq_none.mpr (by simpa using h)]
      rfl
    unfold JSON.str
    rw [hget]
  unfold nodeEvent
  rw [htype]
  simp

end Events

/-! ## The parts of the loop -/

section Parts

variable {m : DHASWifiNodesModule}

/-- INTERNAL: what leaves the addresses and their events as they are. -/
theorem RegistryAgrees.of_same {m' : DHASWifiNodesModule} (h : RegistryAgrees m)
    (hsize : m'.mNodes.size = m.mNodes.size) (hmem : ∀ ip, ip ∈ m'.mNodes ↔ ip ∈ m.mNodes)
    (hdriver : ∀ (ip : CString) (node : DHASWifiNode), m'.mNodes[ip]? = some node →
      ∃ d : IDWN, node.driver = some d ∧ d.ip = ip)
    (hevents : ∀ ip, nodeEvents ip m'.trace = nodeEvents ip m.trace) : RegistryAgrees m' where
  count := hsize ▸ h.count
  driver := hdriver
  alternate := fun ip => hevents ip ▸ h.alternate ip
  last := fun ip => (hmem ip).trans (hevents ip ▸ h.last ip)

/-- INTERNAL: one node is written, the others stay. -/
theorem getElem?_insert (m : Std.TreeMap CString DHASWifiNode) (ip k : CString)
    (node : DHASWifiNode) :
    (m.insert ip node)[k]? = if ip = k then some node else m[k]? := by
  simp [Std.TreeMap.getElem?_insert]

/-- INTERNAL: one node is erased, the others stay. -/
theorem getElem?_erase (m : Std.TreeMap CString DHASWifiNode) (ip k : CString) :
    (m.erase ip)[k]? = if ip = k then none else m[k]? := by
  simp [Std.TreeMap.getElem?_erase]

/-- INTERNAL: a node that is found is registered. -/
theorem mem_of_getElem? {ip : CString} {node : DHASWifiNode} (h : m.mNodes[ip]? = some node) :
    ip ∈ m.mNodes := by
  rw [Std.TreeMap.mem_iff_isSome_getElem?, h]
  rfl

/-- INTERNAL: a node is replaced by itself with other data. -/
theorem RegistryAgrees.replace (h : RegistryAgrees m) {ip : CString} {old : DHASWifiNode}
    (hold : m.mNodes[ip]? = some old) (node : DHASWifiNode)
    (hnode : ∃ d : IDWN, node.driver = some d ∧ d.ip = ip) (q : DWNSendQueue)
    (events : List WifiItem) (hevents : ∀ ip, nodeEvents ip events = []) :
    RegistryAgrees
      { mNodes := m.mNodes.insert ip node, mSendQueue := q, trace := m.trace ++ events } := by
  have hmem := mem_of_getElem? hold
  refine h.of_same ?_ ?_ ?_ ?_
  · rw [Std.TreeMap.size_insert, if_pos (Std.TreeMap.contains_iff_mem.mpr hmem)]
  · intro k
    rw [Std.TreeMap.mem_insert]
    constructor
    · rintro (hk | hk)
      · rwa [← Std.LawfulEqCmp.eq_of_compare hk]
      · exact hk
    · exact Or.inr
  · intro k other hk
    rw [getElem?_insert] at hk
    split at hk
    case isTrue heq =>
      obtain rfl := Option.some.inj hk
      exact heq ▸ hnode
    case isFalse => exact h.driver k other hk
  · intro k
    rw [nodeEvents_append, hevents, List.append_nil]

/-- INTERNAL: the address `ip` gets its next event and is in the map from then on or no more,
and the other addresses are left as they are. -/
theorem RegistryAgrees.of_event (h : RegistryAgrees m) {m' : DHASWifiNodesModule} {ip : CString}
    {e : NodeEvent} (hcount : m'.mNodes.size ≤ MAX_NODES_COUNT)
    (hdriver : ∀ (k : CString) (node : DHASWifiNode), m'.mNodes[k]? = some node →
      ∃ d : IDWN, node.driver = some d ∧ d.ip = k)
    (hevents : ∀ k, nodeEvents k m'.trace =
      nodeEvents k m.trace ++ (if ip = k then some e else none).toList)
    (hturn : e = if ip ∈ m.mNodes then .closed else .new)
    (hmem : ip ∈ m'.mNodes ↔ e = .new)
    (hothers : ∀ k, ip ≠ k → m'.mNodes[k]? = m.mNodes[k]?) : RegistryAgrees m' where
  count := hcount
  driver := hdriver
  alternate := by
    intro k
    rw [hevents]
    by_cases heq : ip = k
    · subst heq
      rw [if_pos rfl, Option.toList_some, alternates_append_singleton (by decide)]
      refine ⟨h.alternate ip, ?_⟩
      simpa only [h.last ip] using hturn
    · rw [if_neg heq, Option.toList_none, List.append_nil]
      exact h.alternate k
  last := by
    intro k
    rw [hevents]
    by_cases heq : ip = k
    · subst heq
      rw [hmem, if_pos rfl]
      simp
    · rw [if_neg heq, Option.toList_none, List.append_nil, Std.TreeMap.mem_iff_isSome_getElem?,
        hothers k heq, ← Std.TreeMap.mem_iff_isSome_getElem?, h.last k]

/-- INTERNAL: a node that is lost leaves the map with its event.
SOURCE: DHASWifiNodesModule.cpp:84-101, 155-173 -/
theorem RegistryAgrees.closeNode (h : RegistryAgrees m) {ip : CString} {node : DHASWifiNode}
    {d : IDWN} (hnode : m.mNodes[ip]? = some node) (hd : node.driver = some d) :
    RegistryAgrees (m.closeNode d) ∧
      ∀ k, k ≠ ip → (m.closeNode d).mNodes[k]? = m.mNodes[k]? := by
  obtain ⟨d', hd', rfl⟩ := h.driver ip node hnode
  obtain rfl := Option.some.inj (hd'.symm.trans hd)
  have hothers : ∀ k, d'.ip ≠ k → (m.mNodes.erase d'.ip)[k]? = m.mNodes[k]? :=
    fun k hk => (getElem?_erase _ _ _).trans (if_neg hk)
  have hevents : ∀ k, nodeEvents k (m.closeNode d').trace =
      nodeEvents k m.trace ++ (if d'.ip = k then some NodeEvent.closed else none).toList := by
    intro k
    show nodeEvents k (m.trace ++ [_]) = _
    rw [nodeEvents_append, nodeEvents_processEvent, nodeEvent_closed]
  refine ⟨h.of_event ?_ ?_ hevents (if_pos (mem_of_getElem? hnode)).symm ?_ hothers,
    fun k hk => hothers k hk.symm⟩
  · exact Nat.le_trans Std.TreeMap.size_erase_le h.count
  · intro k other hk
    have hk : (m.mNodes.erase d'.ip)[k]? = some other := hk
    rw [getElem?_erase] at hk
    split at hk
    · cases hk
    · exact h.driver k other hk
  · show d'.ip ∈ m.mNodes.erase d'.ip ↔ _
    rw [Std.TreeMap.mem_iff_isSome_getElem?, getElem?_erase, if_pos rfl]
    simp

/-- INTERNAL: a node that is discovered enters the map with its event.
SOURCE: DHASWifiNodesModule.cpp:215-265 -/
theorem RegistryAgrees.discoverNode (h : RegistryAgrees m) (name ip id : CString) (now : ℤ)
    (connected : Option ℤ) : RegistryAgrees (m.discoverNode name ip id now connected) := by
  unfold DHASWifiNodesModule.discoverNode
  split
  · exact h
  · split
    · exact h
    · split
      · exact h
      · rename_i hcontains hroom
        split
        case h_2 => exact h
        case h_1 driver socket hdriver =>
          have hnot : ip ∉ m.mNodes := fun hmem =>
            hcontains (Std.TreeMap.contains_iff_mem.mpr hmem)
          have hevents : ∀ k, nodeEvents k (m.trace ++
              [.processEvent (nodeMessage "new" ip name id)]) =
                nodeEvents k m.trace ++ (if ip = k then some NodeEvent.new else none).toList := by
            intro k
            rw [nodeEvents_append, nodeEvents_processEvent, nodeEvent_new]
          refine h.of_event ?_ ?_ hevents (if_neg hnot).symm ?_ ?_
          · show (m.mNodes.insert ip _).size ≤ _
            rw [Std.TreeMap.size_insert, if_neg hcontains]
            omega
          · intro k other hk
            have hk : (m.mNodes.insert ip _)[k]? = some other := hk
            rw [getElem?_insert] at hk
            split at hk
            case isTrue heq =>
              obtain rfl := Option.some.inj hk
              exact ⟨_, rfl, heq⟩
            case isFalse => exact h.driver k other hk
          · exact iff_of_true Std.TreeMap.mem_insert_self rfl
          · exact fun k hk => (getElem?_insert _ _ _ _).trans (if_neg hk)

/-- INTERNAL: what a node sends, or its failure. SOURCE: DHASWifiNodesModule.cpp:72-131 -/
theorem RegistryAgrees.receiveFromNode (h : RegistryAgrees m)
    (parse : List UInt8 → IOBoardData) {ip : CString} {node : DHASWifiNode}
    (hnode : m.mNodes[ip]? = some node) (r : Recv) (now : ℤ) :
    ∃ m', m.receiveFromNode parse ip node r now = some m' ∧ RegistryAgrees m' := by
  obtain ⟨d, hd, hip⟩ := h.driver ip node hnode
  cases r with
  | again => exact ⟨m, rfl, h⟩
  | failed =>
    refine ⟨m.closeNode d, ?_, (h.closeNode hnode hd).1⟩
    show node.driver.map m.closeNode = _
    rw [hd, Option.map_some]
  | data buf =>
    unfold DHASWifiNodesModule.receiveFromNode
    by_cases hheart : buf = heartBeat
    · simp only [if_pos hheart]
      refine ⟨_, rfl, ?_⟩
      exact h.replace hnode { node with lastHeartBeat := now } ⟨d, hd, hip⟩ m.mSendQueue
        [.heartBeat ip] fun _ => rfl
    · simp only [if_neg hheart, hd, Option.map_some]
      refine ⟨_, rfl, ?_⟩
      have hprocess : ∀ k, nodeEvents k (m.record (.processData ip buf)).trace =
          nodeEvents k m.trace := by
        intro k
        show nodeEvents k (m.trace ++ [_]) = _
        rw [nodeEvents_append]
        exact List.append_nil _
      cases hreply : d.processData parse buf with
      | none => exact h.of_same rfl (fun _ => Iff.rfl) h.driver hprocess
      | some reply =>
        refine h.of_same rfl (fun _ => Iff.rfl) h.driver fun k => ?_
        show nodeEvents k ((m.record (.processData ip buf)).trace ++ [_]) = _
        rw [nodeEvents_append, hprocess, nodeEvents_processEvent,
          nodeEvent_reply (processData_noType hreply)]
        exact List.append_nil _

/-- INTERNAL: the data that is sent changes no node. -/
theorem RegistryAgrees.sendQueued (h : RegistryAgrees m) : RegistryAgrees m.sendQueued := by
  refine h.of_same rfl (fun _ => Iff.rfl) h.driver fun k => ?_
  unfold DHASWifiNodesModule.sendQueued
  have hnone : nodeEvents k ((m.mSendQueue.items.filter fun data =>
      m.mNodes.contains data.destination).map fun data =>
        WifiItem.send data.destination data.data) = [] := by
    unfold nodeEvents
    rw [List.filterMap_eq_nil_iff]
    intro item hitem
    obtain ⟨data, -, rfl⟩ := List.mem_map.mp hitem
    rfl
  show nodeEvents k (m.trace ++ _) = _
  rw [nodeEvents_append, hnone, List.append_nil]

section Loops

variable {P : DHASWifiNodesModule → Prop}
  {f : DHASWifiNodesModule → CString × DHASWifiNode → Option DHASWifiNodesModule}

/-- INTERNAL: a loop over the nodes whose body keeps `P` and what it visits later. The induction
is on the entries that are still to be visited; they are in the map under different keys. -/
theorem foldlM_entries
    (hf : ∀ (m : DHASWifiNodesModule) (ip : CString) (node : DHASWifiNode), P m →
      m.mNodes[ip]? = some node →
      ∃ m', f m (ip, node) = some m' ∧ P m' ∧ ∀ k, k ≠ ip → m'.mNodes[k]? = m.mNodes[k]?)
    {entries : List (CString × DHASWifiNode)} (h : P m)
    (hentries : ∀ it ∈ entries, m.mNodes[it.1]? = some it.2)
    (hkeys : entries.Pairwise fun it other => it.1 ≠ other.1) :
    ∃ m', entries.foldlM f m = some m' ∧ P m' := by
  induction entries generalizing m with
  | nil => exact ⟨m, rfl, h⟩
  | cons it entries ih =>
    obtain ⟨hit, hentries⟩ := List.forall_mem_cons.mp hentries
    obtain ⟨hkey, hkeys⟩ := List.pairwise_cons.mp hkeys
    obtain ⟨m₁, hm₁, hP, hframe⟩ := hf m it.1 it.2 h hit
    obtain ⟨m', hm', hend⟩ := ih hP
      (fun other hother => (hframe _ (hkey other hother).symm).trans (hentries other hother)) hkeys
    refine ⟨m', ?_, hend⟩
    rw [List.foldlM_cons]
    show (f m it).bind _ = _
    rw [hm₁, Option.bind_some]
    exact hm'

/-- INTERNAL: a loop over `mNodes`. -/
theorem foldlM_mNodes
    (hf : ∀ (m : DHASWifiNodesModule) (ip : CString) (node : DHASWifiNode), P m →
      m.mNodes[ip]? = some node →
      ∃ m', f m (ip, node) = some m' ∧ P m' ∧ ∀ k, k ≠ ip → m'.mNodes[k]? = m.mNodes[k]?)
    (h : P m) : ∃ m', m.mNodes.toList.foldlM f m = some m' ∧ P m' := by
  apply foldlM_entries hf h
  · intro it hit
    exact Std.TreeMap.mem_toList_iff_getElem?_eq_some.mp hit
  · apply Std.TreeMap.distinct_keys_toList.imp
    intro it other hne heq
    exact hne (Std.compare_eq_iff_eq.mpr heq)

end Loops

/-- INTERNAL: a node in the sweep of the heartbeats. SOURCE: DHASWifiNodesModule.cpp:145-176 -/
theorem RegistryAgrees.checkHeartBeat (h : RegistryAgrees m) {ip : CString} {node : DHASWifiNode}
    (hnode : m.mNodes[ip]? = some node) (t : ℤ) :
    ∃ m', checkHeartBeat t m (ip, node) = some m' ∧ RegistryAgrees m' ∧
      ∀ k, k ≠ ip → m'.mNodes[k]? = m.mNodes[k]? := by
  obtain ⟨d, hd, -⟩ := h.driver ip node hnode
  unfold DHASWifiNodesModule.checkHeartBeat
  split
  · refine ⟨m.closeNode d, ?_, h.closeNode hnode hd⟩
    show node.driver.map m.closeNode = _
    rw [hd, Option.map_some]
  · exact ⟨m, rfl, h, fun _ _ => rfl⟩

/-- INTERNAL: **a sweep over all the nodes.** -/
theorem RegistryAgrees.checkHeartBeats (h : RegistryAgrees m) (now : ℤ) :
    ∃ m', m.checkHeartBeats now = some m' ∧ RegistryAgrees m' := by
  apply foldlM_mNodes _ h
  intro m ip node h hnode
  exact h.checkHeartBeat hnode _

/-- INTERNAL: a node keeps its address while it runs. -/
theorem ip_run (d : IDWN) (q : DWNSendQueue) (t now : ℤ) : (d.run q t now).1.ip = d.ip := by
  unfold Dhas.Program.IDWN.run
  split <;> rfl

/-- INTERNAL: the drivers get some cycles. SOURCE: DHASWifiNodesModule.cpp:133-143 -/
theorem RegistryAgrees.runNodes (h : RegistryAgrees m) (t now : ℤ) :
    ∃ m', m.runNodes t now = some m' ∧ RegistryAgrees m' := by
  apply foldlM_mNodes _ h
  intro m ip node h hnode
  obtain ⟨d, hd, hip⟩ := h.driver ip node hnode
  unfold runNode
  simp only [hd, Option.map_some]
  refine ⟨_, rfl, ?_, ?_⟩
  · have hreplace := h.replace hnode { node with driver := some (d.run m.mSendQueue t now).1 }
      ⟨_, rfl, (ip_run d _ t now).trans hip⟩ (d.run m.mSendQueue t now).2 [] fun _ => rfl
    simpa using hreplace
  · intro k hk
    exact (getElem?_insert _ _ _ _).trans (if_neg fun heq => hk heq.symm)

/-- INTERNAL: **every part of the loop keeps the registry and its events in agreement**, and
follows no null driver. -/
theorem RegistryAgrees.step (h : RegistryAgrees m) (parse : List UInt8 → IOBoardData) (a : Act) :
    ∃ m', Model.WifiNodes.step parse m a = some m' ∧ RegistryAgrees m' := by
  cases a with
  | advertisement name ip id now connected =>
    exact ⟨_, rfl, h.discoverNode name ip id now connected⟩
  | ready fd r now =>
    cases hfind : m.findSocket fd with
    | none =>
      simp only [Model.WifiNodes.step, hfind]
      exact ⟨m, rfl, h⟩
    | some it =>
      have hmem := List.mem_of_find?_eq_some hfind
      simp only [Model.WifiNodes.step, hfind]
      exact h.receiveFromNode parse (Std.TreeMap.mem_toList_iff_getElem?_eq_some.mp hmem) r now
  | sendQueued => exact ⟨_, rfl, h.sendQueued⟩
  | checkHeartBeats now => exact h.checkHeartBeats now
  | runNodes t now => exact h.runNodes t now

end Parts

/-- INTERNAL: at first there is no node. -/
theorem registryAgrees_new : RegistryAgrees DHASWifiNodesModule.new where
  count := Nat.zero_le _
  driver := by
    intro ip node hnode
    simp [DHASWifiNodesModule.new] at hnode
  alternate := fun _ => trivial
  last := by
    intro ip
    simp [DHASWifiNodesModule.new, nodeEvents]

/-- INTERNAL: **in every run.** -/
theorem run_registryAgrees {parse : List UInt8 → IOBoardData} {acts : List Act}
    {m : DHASWifiNodesModule} (h : run (step parse) DHASWifiNodesModule.new acts = some m) :
    RegistryAgrees m := by
  refine run_invariant (fun m a m' hagrees hstep => ?_) registryAgrees_new h
  obtain ⟨m₁, hm₁, hagrees₁⟩ := hagrees.step parse a
  obtain rfl := Option.some.inj (hm₁.symm.trans hstep)
  exact hagrees₁

/-- **The registry of the wifi nodes and its events agree.** In every state of every run there
are at most 20 nodes, each with a driver that says the address of the node; the 'new' and
'closed' events of every address alternate, 'new' first, and a node is there exactly when the
last of them was 'new'. Every run comes to its end: no null driver is followed.
SOURCE: DHASWifiNodesModule.cpp:72-176, 215-265 -/
theorem registry_agrees (parse : List UInt8 → IOBoardData) (acts : List Act) :
    Throughout (step parse) RegistryAgrees DHASWifiNodesModule.new acts ∧
      (run (step parse) DHASWifiNodesModule.new acts).isSome = true := by
  have hthroughout : Throughout (step parse) RegistryAgrees DHASWifiNodesModule.new acts := by
    apply throughout_invariant (fun _ h => h) _ registryAgrees_new
    intro m a m' h hstep
    obtain ⟨m₁, hm₁, hagrees⟩ := h.step parse a
    obtain rfl := Option.some.inj (hm₁.symm.trans hstep)
    exact hagrees
  refine ⟨hthroughout, ?_⟩
  obtain ⟨m', hrun, -⟩ := hthroughout.exists_run (I := RegistryAgrees)
    (fun _ a h _ => h.step parse a) registryAgrees_new
  rw [hrun]
  rfl

end Dhas.Analysis.WifiRegistry
