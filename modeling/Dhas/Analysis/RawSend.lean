import Dhas.Program.DHASWifiNodesModule

/-!
# What `sendRaw` accepts

`sendRaw_callback` answers "ok" to every string, and gives the size of the string to
`sendToNode` as an `unsigned char`. A string of 256 bytes or more is cut to its size modulo 256,
and the node gets the head of it as if that were the command.
-/

set_option autoImplicit false

namespace Dhas.Analysis.RawSend

open Dhas.Library Dhas.Program

/-- After the answer, the send queue gives the earlier entries and then the whole string for the
node, and the loop sends the string behind what it sent anyway. -/
def Received (m : DHASWifiNodesModule) (ip : CString) (data : List UInt8) : Prop :=
  (m.sendRaw_callback ip data).2 = "ok".toList ∧
    (∀ earlier, m.mSendQueue.Drains earlier →
      (m.sendRaw_callback ip data).1.mSendQueue.Drains (earlier ++ [⟨ip, data⟩])) ∧
    (m.sendRaw_callback ip data).1.sendQueued.trace = m.sendQueued.trace ++ [.send ip data]

/-- INTERNAL: what the send queue holds behind the answer.
SOURCE: DWNSendQueue.cpp:24-35, DHASWifiNodesModule.cpp:407-416 -/
theorem sendRaw_items {m : DHASWifiNodesModule} (hroom : m.mSendQueue.HasRoom) (ip : CString)
    (data : List UInt8) :
    (m.sendRaw_callback ip data).1.mSendQueue.items =
      m.mSendQueue.items ++ [⟨ip, data.take (data.length % 2 ^ 8)⟩] := by
  have hsize : (UInt8.ofNat data.length).toNat = data.length % 2 ^ 8 := UInt8.toNat_ofNat'
  show (m.mSendQueue.put ⟨ip, data.take (UInt8.ofNat data.length).toNat⟩).items = _
  rw [BoundedQueue.items_put_of_hasRoom hroom, hsize]

/-- INTERNAL: a string reaches the entry as a whole when its size fits an `unsigned char`. -/
theorem take_size_iff (data : List UInt8) :
    data.take (data.length % 2 ^ 8) = data ↔ data.length < 256 := by
  constructor
  · intro h
    have hlength := congrArg List.length h
    rw [List.length_take] at hlength
    omega
  · intro h
    rw [List.take_of_length_le]
    omega

/-- INTERNAL: what the loop sends for the new entry.
SOURCE: DHASWifiNodesModule.cpp:372-379 -/
theorem sendRaw_sendQueued {m : DHASWifiNodesModule} (hroom : m.mSendQueue.HasRoom) {ip : CString}
    (hip : m.mNodes.contains ip = true) (data : List UInt8) :
    (m.sendRaw_callback ip data).1.sendQueued.trace =
      m.sendQueued.trace ++ [.send ip (data.take (data.length % 2 ^ 8))] := by
  have hitems := sendRaw_items hroom ip data
  have hnodes : (m.sendRaw_callback ip data).1.mNodes = m.mNodes := rfl
  have htrace : (m.sendRaw_callback ip data).1.trace = m.trace := rfl
  unfold DHASWifiNodesModule.sendQueued
  simp only [hitems, hnodes, htrace, List.filter_append, List.map_append, List.append_assoc]
  simp [hip]

/-- **What `sendRaw` accepts is what the node receives, exactly for strings of less than 256
bytes.** For every connected node and every content of the send queue with room for one more
entry.
SOURCE: DWNSendQueue.cpp:24-40, DHASWifiNodesModule.cpp:372-379, 407-416 -/
theorem sendRaw_received_iff (m : DHASWifiNodesModule) (ip : CString) (data : List UInt8)
    (hip : m.mNodes.contains ip = true) (hroom : m.mSendQueue.HasRoom) :
    Received m ip data ↔ data.length < 256 := by
  have hitems := sendRaw_items hroom ip data
  have hsent := sendRaw_sendQueued hroom hip data
  constructor
  · rintro ⟨-, hdrains, -⟩
    have hentry := hdrains m.mSendQueue.items (BoundedQueue.drains_iff.mpr rfl)
    rw [BoundedQueue.drains_iff, hitems, List.append_cancel_left_eq] at hentry
    have hdata : data.take (data.length % 2 ^ 8) = data :=
      congrArg DataBuffer.data (List.head_eq_of_cons_eq hentry)
    exact (take_size_iff data).mp hdata
  · intro hlt
    have hdata := (take_size_iff data).mpr hlt
    refine ⟨rfl, ?_, ?_⟩
    · intro earlier hearlier
      rw [BoundedQueue.drains_iff] at hearlier ⊢
      rw [hitems, hdata, hearlier]
    · rw [hsent, hdata]

/-- A module with one node, an IO board at the address `n`. -/
def oneNode : DHASWifiNodesModule :=
  DHASWifiNodesModule.new.discoverNode "EDISON IO CONTROLLER".toList ['n'] ['i'] 0 (some 5)

/-- A command of two bytes reaches the node. -/
theorem sendRaw_received_a1 : Received oneNode ['n'] [0x61, 0x31] :=
  (sendRaw_received_iff oneNode ['n'] [0x61, 0x31] (by decide +kernel) (by decide +kernel)).mpr
    (by decide)

/-- Of 258 bytes only two reach the node. -/
theorem sendRaw_cut :
    oneNode.mNodes.contains ['n'] = true ∧ oneNode.mSendQueue.HasRoom ∧
      (oneNode.sendRaw_callback ['n'] (List.replicate 258 0x31)).1.mSendQueue.items =
        [⟨['n'], [0x31, 0x31]⟩] ∧
      ¬ Received oneNode ['n'] (List.replicate 258 0x31) := by
  have hitems : (oneNode.sendRaw_callback ['n'] (List.replicate 258 0x31)).1.mSendQueue.items =
      [⟨['n'], [0x31, 0x31]⟩] := by decide +kernel
  refine ⟨by decide +kernel, by decide +kernel, hitems, ?_⟩
  rintro ⟨-, hdrains, -⟩
  have hentry := hdrains [] (BoundedQueue.drains_iff.mpr (by decide +kernel))
  rw [BoundedQueue.drains_iff, hitems] at hentry
  exact absurd hentry (by decide +kernel)

end Dhas.Analysis.RawSend
