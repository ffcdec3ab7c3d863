import Dhas.Model.WifiLoop

/-!
# What wakes up the thread of the wifi nodes

The descriptors of `DHASWifiNodesModule::run` are edge-triggered, and a report of the multicast
socket is worth one `recvfrom`. Two advertisements of which the second finds the socket announced
leave one behind, and no later turn makes it up: each is woken up by an advertisement of its own.
For the send queue the thread reads everything, and is woken up by whoever puts something there.
-/

set_option autoImplicit false

namespace Dhas.Analysis.WifiWakeups

open Dhas.Library Dhas.Program Dhas.Model
open Dhas.Model.WifiLoop

variable {parse : Parse} {s s' : WifiLoop}

/-! ## The advertisements -/

/-- The thread is in `epoll_wait`, and the multicast socket is not announced. -/
def Rests (s : WifiLoop) : Prop := s.pc = .waiting ∧ s.advertisements.announced = false

/-- The descriptors that the thread still has to come to in this turn. -/
def events : Pc → List Fd
  | .handling events => events
  | _ => []

/-- The thread comes once to the socket that was reported. -/
structure Accounted (s : WifiLoop) : Prop where
  balanced : s.advertisements.Balanced
  reported : s.pc ≠ .returned →
    (events s.pc).count .multicast = s.advertisements.reported.toNat

/-- INTERNAL: at first nothing has arrived. -/
theorem accounted_init : Accounted init where
  balanced := EdgeTriggered.balanced_new
  reported _ := rfl

/-- INTERNAL: a step that the socket does not notice. -/
theorem Accounted.same (h : Accounted s) (hsocket : s'.advertisements = s.advertisements)
    (hreturned : s'.pc ≠ .returned → s.pc ≠ .returned)
    (hevents : (events s'.pc).count .multicast = (events s.pc).count .multicast) :
    Accounted s' where
  balanced := hsocket ▸ h.balanced
  reported hpc := by rw [hevents, hsocket, h.reported (hreturned hpc)]

/-- INTERNAL: the socket is among the descriptors that are ready when it is announced. -/
theorem count_ready (s : WifiLoop) :
    s.ready.count .multicast = s.advertisements.announced.toNat := by
  have hnodes (sockets : List ℤ) : (sockets.map Fd.node).count .multicast = 0 := by
    rw [List.count_eq_zero]
    simp
  unfold ready
  rw [List.count_append, List.count_append, hnodes]
  cases s.self <;> cases s.advertisements.announced <;> rfl

/-- INTERNAL: an announcement without an element is no report. -/
theorem reported_stir (d : EdgeTriggered Datagram) : d.stir.reported = d.reported := by
  unfold EdgeTriggered.stir
  split <;> rfl

/-- INTERNAL: `recvfrom` is called once for a report. SOURCE: DHASWifiNodesModule.cpp:267-292 -/
theorem advertisements_receiveAdvertisement (parse : Parse) (s : WifiLoop) (i : Input) :
    (s.receiveAdvertisement parse i).advertisements = s.advertisements.read 1 := by
  unfold receiveAdvertisement
  split
  · rfl
  · split <;> rfl

/-- INTERNAL: what a node sends is no advertisement. -/
theorem advertisements_receiveFromNode {i : Input} {socket : ℤ}
    (h : s.receiveFromNode parse i socket = some s') :
    s'.advertisements = s.advertisements := by
  unfold receiveFromNode at h
  split at h
  · obtain rfl := Option.some.inj h
    rfl
  · obtain ⟨m, -, rfl⟩ := Option.map_eq_some_iff.mp h
    rfl

/-- INTERNAL: the run of a node touches neither the advertisements nor the loop. -/
theorem runNode_frame {t now : ℤ} {ip : CString} (h : s.runNode t now ip = some s') :
    s'.advertisements = s.advertisements ∧ s'.pc = s.pc := by
  unfold runNode at h
  split at h
  · obtain rfl := Option.some.inj h
    exact ⟨rfl, rfl⟩
  · obtain ⟨driver, -, hrun⟩ := Option.bind_eq_some_iff.mp h
    obtain ⟨m, -, rfl⟩ := Option.map_eq_some_iff.mp hrun
    exact ⟨rfl, rfl⟩

/-- INTERNAL: a step of the thread leaves the socket alone, or reads it where it is reported, or
fails there. SOURCE: DHASWifiNodesModule.cpp:341-383 -/
theorem threadStep_cases {i : Input} (h : threadStep parse s i = some s') :
    (s'.advertisements = s.advertisements ∧ s.pc ≠ .returned ∧
        (events s'.pc).count .multicast = (events s.pc).count .multicast) ∨
      (s'.advertisements = s.advertisements ∧ s'.pc = .returned) ∨
      ∃ rest, s.pc = .handling (.multicast :: rest) ∧ s'.pc = .handling rest ∧
        s'.advertisements = s.advertisements.read 1 := by
  unfold threadStep at h
  split at h
  case h_1 | h_2 => cases h
  case h_3 hpc | h_9 hpc | h_10 hpc =>
    obtain rfl := Option.some.inj h
    exact .inl ⟨rfl, by simp [hpc], by simp [hpc, events]⟩
  case h_4 hpc =>
    obtain rfl := Option.some.inj h
    exact .inl ⟨rfl, by simp [hpc], by simp [hpc, events]⟩
  case h_5 rest hpc =>
    split at h
    · obtain rfl := Option.some.inj h
      exact .inr (.inl ⟨rfl, rfl⟩)
    · obtain rfl := Option.some.inj h
      exact .inr (.inr ⟨rest, hpc, rfl, advertisements_receiveAdvertisement parse s i⟩)
  case h_6 socket rest hpc =>
    obtain ⟨t, hreceive, rfl⟩ := Option.map_eq_some_iff.mp h
    have hsame := advertisements_receiveFromNode hreceive
    exact .inl ⟨hsame, by simp [hpc], by simp [hpc, events]⟩
  case h_7 hpc =>
    split at h
    · obtain rfl := Option.some.inj h
      exact .inl ⟨rfl, by simp [hpc], by simp [hpc, events]⟩
    · obtain rfl := Option.some.inj h
      exact .inl ⟨rfl, by simp [hpc], by simp [hpc, events]⟩
  case h_8 hpc =>
    obtain ⟨m, -, rfl⟩ := Option.map_eq_some_iff.mp h
    exact .inl ⟨rfl, by simp [hpc], by simp [hpc, events]⟩
  case h_11 t ip nodes hpc =>
    obtain ⟨u, hrun, rfl⟩ := Option.map_eq_some_iff.mp h
    have hsame := (runNode_frame hrun).1
    exact .inl ⟨hsame, by simp [hpc], by simp [hpc, events]⟩

/-- INTERNAL: every announcement of the socket comes to one `recvfrom`. -/
theorem step_accounted {a : Act} (h : Accounted s) (hstep : step parse s a = some s') :
    Accounted s' := by
  cases a with
  | advertisement d =>
    obtain rfl := Option.some.inj hstep
    exact ⟨h.balanced.arrive d, h.reported⟩
  | bytes socket buf =>
    obtain rfl := Option.some.inj hstep
    exact h.same rfl id rfl
  | stir fd =>
    obtain rfl := Option.some.inj hstep
    cases fd with
    | self => exact h.same rfl id rfl
    | multicast =>
      refine ⟨h.balanced.stir, fun hpc => (h.reported hpc).trans ?_⟩
      rw [← reported_stir]
      rfl
    | node socket => exact h.same rfl id rfl
  | put id data size =>
    obtain rfl := Option.some.inj hstep
    exact h.same rfl (fun hpc => hpc) rfl
  | write =>
    rw [step, Option.ite_none_right_eq_some] at hstep
    obtain rfl := Option.some.inj hstep.2
    exact h.same rfl id rfl
  | callback ip f =>
    obtain rfl := Option.some.inj hstep
    exact h.same rfl id rfl
  | wake order =>
    rw [step, Option.ite_none_right_eq_some] at hstep
    obtain ⟨⟨hpc, hperm, -⟩, hs⟩ := hstep
    obtain rfl := Option.some.inj hs
    have hreported : s.advertisements.reported = false := by
      have hcount := h.reported (by simp [hpc])
      rw [hpc] at hcount
      cases hbool : s.advertisements.reported
      · rfl
      · rw [hbool] at hcount
        cases hcount
    refine ⟨h.balanced.report hreported, fun _ => ?_⟩
    change order.count .multicast = s.advertisements.announced.toNat
    rw [hperm.count_eq, count_ready]
  | interrupted =>
    rw [step, Option.ite_none_right_eq_some] at hstep
    obtain ⟨hpc, hs⟩ := hstep
    obtain rfl := Option.some.inj hs
    exact h.same rfl (fun _ => by simp [hpc]) (by simp [hpc, events])
  | thread i =>
    have hthread : threadStep parse s i = some s' := hstep
    rcases threadStep_cases hthread with ⟨hsocket, hpc, hevents⟩ | ⟨hsocket, hpc⟩ |
      ⟨rest, hpc, hpc', hread⟩
    · exact h.same hsocket (fun _ => hpc) hevents
    · exact ⟨hsocket ▸ h.balanced, fun hne => absurd hpc hne⟩
    · have hcount := h.reported (by simp [hpc])
      rw [hpc, events, List.count_cons_self] at hcount
      have hreported : s.advertisements.reported = true := by
        cases hbool : s.advertisements.reported
        · rw [hbool] at hcount
          cases hcount
        · rfl
      rw [hreported, Bool.toNat_true] at hcount
      refine ⟨hread ▸ h.balanced.read hreported, fun _ => ?_⟩
      rw [hpc', hread, events, Nat.succ.inj hcount]
      rfl

/-- INTERNAL: a step that announces the socket only for an advertisement. -/
theorem step_grows {a : Act} (ha : a ≠ .stir .multicast) (hstep : step parse s a = some s') :
    s.advertisements.Grows s'.advertisements := by
  cases a with
  | advertisement d =>
    obtain rfl := Option.some.inj hstep
    exact EdgeTriggered.grows_arrive _ _
  | stir fd =>
    obtain rfl := Option.some.inj hstep
    cases fd with
    | multicast => exact absurd rfl ha
    | self | node => exact .refl _
  | bytes | put | callback =>
    obtain rfl := Option.some.inj hstep
    exact .refl _
  | write =>
    rw [step, Option.ite_none_right_eq_some] at hstep
    obtain rfl := Option.some.inj hstep.2
    exact .refl _
  | wake order =>
    rw [step, Option.ite_none_right_eq_some] at hstep
    obtain rfl := Option.some.inj hstep.2
    exact EdgeTriggered.grows_report _
  | interrupted =>
    rw [step, Option.ite_none_right_eq_some] at hstep
    obtain rfl := Option.some.inj hstep.2
    exact .refl _
  | thread i =>
    have hthread : threadStep parse s i = some s' := hstep
    rcases threadStep_cases hthread with ⟨hsocket, -⟩ | ⟨hsocket, -⟩ | ⟨rest, -, -, hread⟩
    · exact hsocket ▸ .refl _
    · exact hsocket ▸ .refl _
    · exact hread ▸ EdgeTriggered.grows_read 1 _

/-- INTERNAL: the same of a run. -/
theorem run_grows {acts : List Act} (hacts : ∀ a ∈ acts, a ≠ .stir .multicast)
    (h : run (step parse) s acts = some s') : s.advertisements.Grows s'.advertisements := by
  induction acts generalizing s with
  | nil =>
    cases h
    exact .refl _
  | cons a acts ih =>
    rw [run_cons, Option.bind_eq_some_iff] at h
    obtain ⟨t, ht, hrun⟩ := h
    have hstep := step_grows (hacts a List.mem_cons_self) ht
    exact hstep.trans (ih (fun b hb => hacts b (List.mem_cons_of_mem _ hb)) hrun)

/-- INTERNAL: in `epoll_wait` no report is left. -/
theorem Accounted.rests (h : Accounted s) (hrests : Rests s) : s.advertisements.Rests := by
  refine ⟨hrests.2, ?_⟩
  have hcount := h.reported (by simp [hrests.1])
  rw [hrests.1] at hcount
  cases hbool : s.advertisements.reported
  · rfl
  · rw [hbool] at hcount
    cases hcount

/-- **An advertisement that was left behind is never made up for: between two rests of the thread
the advertisements that are unread become more by those that found the socket announced and by the
calls of `recvfrom` that found nothing, and they never become fewer. They are read in the order in
which they come.**
SOURCE: DHASWifiNodesModule.cpp:207-213, 267-292, 341-368 -/
theorem backlog_exact (parse : Parse) (acts later : List Act) {s s' : WifiLoop}
    (h : run (step parse) init acts = some s) (h' : run (step parse) s later = some s')
    (hrests : Rests s) (hrests' : Rests s') (hlater : ∀ a ∈ later, a ≠ .stir .multicast) :
    s'.advertisements.arrived = s'.advertisements.taken ++ s'.advertisements.unread ∧
      s.advertisements.unread.length ≤ s'.advertisements.unread.length ∧
      s'.advertisements.unread.length = s.advertisements.unread.length +
        (s'.advertisements.missed - s.advertisements.missed) := by
  have haccounted := run_invariant (fun _ _ _ => step_accounted) accounted_init h
  have haccounted' := run_invariant (fun _ _ _ => step_accounted) haccounted h'
  have hgrows := run_grows hlater h'
  exact ⟨haccounted'.balanced.inOrder, hgrows.unread_length haccounted.balanced
    haccounted'.balanced (haccounted.rests hrests) (haccounted'.rests hrests')⟩

/-- The advertisement of a node that the module has no driver for. -/
def advertisement : Datagram := ⟨"192.168.1.2".toList, [0x6e, 0x6f, 0x64, 0x65]⟩

/-- What is read in it. -/
def readNode : Parse where
  board _ := ⟨[], [], 0, 0, 0, []⟩
  advertisement text := (text.map fun b => Char.ofNat b.toNat, [])

/-- The rest of a turn in which nothing happens. -/
def quietTurn : List Act := List.replicate 6 (.thread ⟨0, none, false⟩)

/-- The first turn; the thread finds nothing where the registration was announced. -/
def firstTurn : List Act :=
  [.wake [.self, .multicast], .thread ⟨0, none, false⟩] ++ quietTurn

/-- Two advertisements come before `epoll_wait` returns. -/
def twoAtOnce : List Act :=
  [.advertisement advertisement, .advertisement advertisement, .wake [.multicast]] ++ quietTurn

/-- The second of the two is left behind. -/
theorem backlog_exact_twoAtOnce :
    ∃ s s', run (step readNode) init firstTurn = some s ∧
      run (step readNode) s twoAtOnce = some s' ∧
      s.advertisements.unread.length = 0 ∧ s'.advertisements.unread.length = 1 ∧
      s'.advertisements.unread.length = s.advertisements.unread.length +
        (s'.advertisements.missed - s.advertisements.missed) :=
  ⟨_, _, rfl, rfl, rfl, rfl,
    (backlog_exact readNode firstTurn twoAtOnce rfl rfl ⟨rfl, rfl⟩ ⟨rfl, rfl⟩
      (by simp [twoAtOnce, quietTurn])).2.2⟩

/-! ## The commands -/

/-- The thread is behind the loop that empties the send queue. -/
def isIdle : Pc → Bool
  | .waiting | .heartBeats | .runNodes | .running _ _ => true
  | _ => false

/-- When the thread is in `epoll_wait` and the eventfd is not announced, what is in the send queue
was put there by threads that have not written to the eventfd yet. -/
def NeverSleepsOnCommands (s : WifiLoop) : Prop :=
  s.pc = .waiting → s.self = false → s.module.mSendQueue.items.length ≤ s.writers

/-- The same, from the end of the loop that empties the queue on. -/
def Announced (s : WifiLoop) : Prop :=
  isIdle s.pc → s.self = false → s.module.mSendQueue.items.length ≤ s.writers

/-- INTERNAL: one message for a node is one more on the queue at most. -/
theorem length_sendToNode_le (q : DWNSendQueue) (id : CString) (data : List UInt8)
    (size : UInt8) : (q.sendToNode id data size).items.length ≤ q.items.length + 1 := by
  unfold DWNSendQueue.sendToNode
  rw [BoundedQueue.items_put]
  split <;> simp

/-- INTERNAL: a driver that does not send leaves the queue. SOURCE: SprinklersNode.cpp:148-173 -/
theorem run_of_not_writes {d : IDWN} {t : ℤ} (h : writes d.driver t = false) (q : DWNSendQueue)
    (now : ℤ) : (d.run q t now).2 = q := by
  unfold IDWN.run
  cases hdriver : d.driver with
  | ioBoard => rfl
  | sprinklersNode node =>
    rw [hdriver] at h
    have hlt : t < node.mNextSequenceTime := by simpa [writes] using h
    have hrun : node.run q t now = (node, q) := if_pos hlt
    change (node.run q t now).2 = q
    rw [hrun]

/-- INTERNAL: the run of a node leaves what is announced. -/
theorem Announced.runNode (h : Announced s) (hpc : isIdle s.pc) {t now : ℤ} {ip : CString}
    (hrun : s.runNode t now ip = some s') : Announced s' := by
  unfold WifiLoop.runNode at hrun
  split at hrun
  · obtain rfl := Option.some.inj hrun
    exact h
  · obtain ⟨driver, hdriver, hmap⟩ := Option.bind_eq_some_iff.mp hrun
    obtain ⟨m, hm, rfl⟩ := Option.map_eq_some_iff.mp hmap
    intro _ hself
    rw [Bool.or_eq_false_iff] at hself
    have hqueue : m.mSendQueue = s.module.mSendQueue := by
      unfold DHASWifiNodesModule.runNode at hm
      rw [hdriver, Option.map_some] at hm
      obtain rfl := Option.some.inj hm
      exact run_of_not_writes hself.2 _ _
    rw [hqueue]
    exact h hpc hself.1

/-- INTERNAL: the look at a heartbeat sends nothing. -/
theorem mSendQueue_checkHeartBeat {t : ℤ} {m m' : DHASWifiNodesModule}
    {it : CString × DHASWifiNode} (h : DHASWifiNodesModule.checkHeartBeat t m it = some m') :
    m'.mSendQueue = m.mSendQueue := by
  unfold DHASWifiNodesModule.checkHeartBeat at h
  split at h
  · obtain ⟨d, -, rfl⟩ := Option.map_eq_some_iff.mp h
    rfl
  · obtain rfl := Option.some.inj h
    rfl

/-- INTERNAL: `checkHeartBeats` sends nothing. SOURCE: DHASWifiNodesModule.cpp:145-176 -/
theorem mSendQueue_foldlM {t : ℤ} (nodes : List (CString × DHASWifiNode))
    {m m' : DHASWifiNodesModule}
    (h : nodes.foldlM (DHASWifiNodesModule.checkHeartBeat t) m = some m') :
    m'.mSendQueue = m.mSendQueue := by
  induction nodes generalizing m with
  | nil =>
    obtain rfl := Option.some.inj h
    rfl
  | cons it nodes ih =>
    rw [List.foldlM_cons, Option.bind_eq_bind, Option.bind_eq_some_iff] at h
    obtain ⟨u, hu, hrest⟩ := h
    rw [ih hrest, mSendQueue_checkHeartBeat hu]

/-- INTERNAL: a callback to a node leaves the queue as it is. -/
theorem mSendQueue_callback (m : DHASWifiNodesModule) (ip : CString)
    (f : SprinklersNode → SprinklersNode) : (callback m ip f).mSendQueue = m.mSendQueue := by
  unfold callback
  split
  · split <;> rfl
  · rfl

/-- INTERNAL: a step of the thread ends the loop over the send queue only when it is empty.
SOURCE: DHASWifiNodesModule.cpp:372-383 -/
theorem threadStep_announced {i : Input} (h : Announced s)
    (hstep : threadStep parse s i = some s') : Announced s' := by
  unfold threadStep at hstep
  split at hstep
  case h_1 | h_2 => cases hstep
  case h_3 | h_4 =>
    obtain rfl := Option.some.inj hstep
    intro hidle
    cases hidle
  case h_5 =>
    split at hstep
    · obtain rfl := Option.some.inj hstep
      intro hidle
      cases hidle
    · obtain rfl := Option.some.inj hstep
      intro hidle
      cases hidle
  case h_6 =>
    obtain ⟨t, -, rfl⟩ := Option.map_eq_some_iff.mp hstep
    intro hidle
    cases hidle
  case h_7 hpc =>
    split at hstep
    · obtain rfl := Option.some.inj hstep
      intro hidle
      rw [hpc] at hidle
      cases hidle
    case h_2 hget =>
      obtain rfl := Option.some.inj hstep
      intro _ _
      rw [BoundedQueue.get_eq_none_iff.mp hget]
      exact Nat.zero_le _
  case h_8 hpc =>
    obtain ⟨m, hm, rfl⟩ := Option.map_eq_some_iff.mp hstep
    intro _ hself
    have hqueue : m.mSendQueue = s.module.mSendQueue := mSendQueue_foldlM _ hm
    rw [hqueue]
    exact h (by rw [hpc]; rfl) hself
  case h_9 hpc | h_10 hpc =>
    obtain rfl := Option.some.inj hstep
    exact fun _ hself => h (by rw [hpc]; rfl) hself
  case h_11 t ip nodes hpc =>
    obtain ⟨u, hrun, rfl⟩ := Option.map_eq_some_iff.mp hstep
    have hidle : isIdle s.pc := by rw [hpc]; rfl
    have hupc : isIdle u.pc := by rw [(runNode_frame hrun).2]; exact hidle
    have hu := h.runNode hidle hrun
    exact fun _ hself => hu hupc hself

/-- INTERNAL: what comes into the send queue is announced, or about to be.
SOURCE: DWNSendQueue.cpp:24-35 -/
theorem step_announced {a : Act} (h : Announced s) (hstep : step parse s a = some s') :
    Announced s' := by
  cases a with
  | advertisement | bytes =>
    obtain rfl := Option.some.inj hstep
    exact h
  | stir fd =>
    obtain rfl := Option.some.inj hstep
    cases fd with
    | self => exact fun _ hself => absurd hself (by simp [WifiLoop.stir])
    | multicast | node => exact h
  | put id data size =>
    obtain rfl := Option.some.inj hstep
    intro hidle hself
    have hle := h hidle hself
    have hput := length_sendToNode_le s.module.mSendQueue id data size
    simp only
    omega
  | write =>
    rw [step, Option.ite_none_right_eq_some] at hstep
    obtain rfl := Option.some.inj hstep.2
    exact fun _ hself => absurd hself (by simp)
  | callback ip f =>
    obtain rfl := Option.some.inj hstep
    intro hidle hself
    rw [mSendQueue_callback]
    exact h hidle hself
  | wake order =>
    rw [step, Option.ite_none_right_eq_some] at hstep
    obtain rfl := Option.some.inj hstep.2
    intro hidle
    cases hidle
  | interrupted =>
    rw [step, Option.ite_none_right_eq_some] at hstep
    obtain rfl := Option.some.inj hstep.2
    intro hidle
    cases hidle
  | thread i => exact threadStep_announced h hstep

/-- **While the thread is in `epoll_wait` and the eventfd is not announced, the send queue holds
nothing but what threads that are still in `sendToNode` have just put there, at most one entry for
each. The commands that the nodes send by themselves are announced to the next turn.**
SOURCE: DHASWifiNodesModule.cpp:341-383, DWNSendQueue.cpp:24-40 -/
theorem neverSleepsOnCommands_throughout (parse : Parse) (acts : List Act) :
    Throughout (step parse) NeverSleepsOnCommands init acts := by
  refine throughout_invariant (I := Announced) ?_ (fun _ _ _ => step_announced) ?_
  · intro s h hpc
    exact h (by rw [hpc]; rfl)
  · intro _ hself
    cases hself

end Dhas.Analysis.WifiWakeups
