import Dhas.Library.RoundRobin
import Dhas.Model.RtpPorts

/-!
# The ports of the RTP sessions

The factory is a round-robin allocator over the ports of its range: the session with number
`k` gets the port `rtplow + 2 * (k % portCount)`, whether a session still has it or not. The
destruction of a session tells it nothing. So the ports are apart as long as every session is
gone before `portCount` more are created, however few are alive.

There is one kind of range in which the counter does not come back to `rtplow`: when it passes
`2 ^ 32` before it reaches the high port.
-/

set_option autoImplicit false

namespace Dhas.Analysis.RtpPorts

open Dhas.Library Dhas.Program Dhas.Program.Sound Dhas.Model Dhas.Model.RtpPorts
open SoundDeviceFactory (portCount)

variable {capacity rtplow rtphigh : ℕ}

/-- Every port lies in the range, and no two sessions alive have the same. -/
def PortsApart (rtplow rtphigh : ℕ) (s : RtpPorts) : Prop :=
  (∀ port ∈ s.ports, rtplow ≤ port ∧ port < rtphigh) ∧ s.ports.Nodup

instance (s : RtpPorts) : Decidable (PortsApart rtplow rtphigh s) :=
  inferInstanceAs (Decidable (_ ∧ _))

/-- No more sessions are alive than there are ports. -/
def FitsPorts (rtplow rtphigh : ℕ) (s : RtpPorts) : Prop :=
  s.live.length ≤ portCount rtplow rtphigh

instance (s : RtpPorts) : Decidable (FitsPorts rtplow rtphigh s) :=
  inferInstanceAs (Decidable (_ ≤ _))

/-- The counter passes `2 ^ 32` before it reaches the high port. -/
def Overflows (rtplow rtphigh : ℕ) : Prop :=
  rtphigh = 2 ^ 32 - 1 ∧ rtplow % 2 = 0 ∧ rtplow ≠ 0

instance : Decidable (Overflows rtplow rtphigh) := inferInstanceAs (Decidable (_ ∧ _))

/-- When a session is created, the one created `portCount` sessions before it is gone, and the
counter has not overflowed. -/
def OldestGone (rtplow rtphigh : ℕ) (s : RtpPorts) : Act → Prop
  | .createRTPSession =>
    (∀ e ∈ s.live, s.created < e.number + portCount rtplow rtphigh) ∧
      (Overflows rtplow rtphigh → s.created < portCount rtplow rtphigh)
  | .destroy _ => True

/-- INTERNAL: a range that is not empty has a port. -/
theorem portCount_pos (hrange : rtplow < rtphigh) : 0 < portCount rtplow rtphigh := by
  unfold portCount
  omega

/-- INTERNAL: the port of every slot is in the range. -/
theorem port_mem_range (hrange : rtplow < rtphigh) (k : ℕ) :
    rtplow + 2 * slot (portCount rtplow rtphigh) k < rtphigh := by
  have hslot := slot_lt (portCount_pos hrange) k
  unfold portCount at hslot ⊢
  omega

/-- INTERNAL: the counter of the factory goes from the port of a slot to that of the next one,
or to zero when it overflows. SOURCE: SoundDeviceFactory.cpp:30-43 -/
theorem portAfter_slot (hrange : rtplow < rtphigh) (hhigh : rtphigh < 2 ^ 32)
    {f : SoundDeviceFactory} (hlow : f.mLowPort = rtplow) (hf : f.mHighPort = rtphigh) {k : ℕ}
    (hnext : f.mNextPort = rtplow + 2 * slot (portCount rtplow rtphigh) k) :
    f.portAfter =
      if Overflows rtplow rtphigh ∧ slot (portCount rtplow rtphigh) k + 1 = portCount rtplow rtphigh
      then 0
      else rtplow + 2 * slot (portCount rtplow rtphigh) (k + 1) := by
  have hslot := slot_lt (portCount_pos hrange) k
  have hcount : portCount rtplow rtphigh = (rtphigh - rtplow + 1) / 2 := rfl
  rw [slot_succ (portCount_pos hrange)]
  unfold SoundDeviceFactory.portAfter Overflows
  simp only [hnext, hlow, hf]
  by_cases hlast : slot (portCount rtplow rtphigh) k + 1 < portCount rtplow rtphigh
  · rw [if_pos hlast, if_neg (by omega), if_neg (by omega)]
    omega
  · rw [if_neg hlast]
    split <;> split <;> omega

/-- What every step keeps while its condition is met: the counter and the sessions have the
ports of their slots, and no session is `portCount` sessions behind the last one. -/
structure Rotates (rtplow rtphigh : ℕ) (s : RtpPorts) : Prop where
  usingRTP : s.factory.usingRTP = true
  lowPort : s.factory.mLowPort = rtplow
  highPort : s.factory.mHighPort = rtphigh
  next : s.factory.mNextPort =
    if Overflows rtplow rtphigh ∧ s.created = portCount rtplow rtphigh then 0
    else rtplow + 2 * slot (portCount rtplow rtphigh) s.created
  inRange : Overflows rtplow rtphigh → s.created ≤ portCount rtplow rtphigh
  age : ∀ e ∈ s.live, e.number < s.created ∧ s.created ≤ e.number + portCount rtplow rtphigh
  port : ∀ e ∈ s.live,
    e.session.mLocalPort = rtplow + 2 * slot (portCount rtplow rtphigh) e.number
  apart : ((s.live.map LiveSession.number).map (slot (portCount rtplow rtphigh))).Nodup

/-- INTERNAL: while the ports rotate they are those of the slots in use. -/
theorem Rotates.ports_eq {s : RtpPorts} (h : Rotates rtplow rtphigh s) :
    s.ports = ((s.live.map LiveSession.number).map (slot (portCount rtplow rtphigh))).map
      fun m => rtplow + 2 * m := by
  rw [List.map_map, List.map_map]
  exact List.map_congr_left h.port

/-- INTERNAL: the invariant says that the sessions in use have different ports. -/
theorem Rotates.portsApart (hrange : rtplow < rtphigh) {s : RtpPorts}
    (h : Rotates rtplow rtphigh s) : PortsApart rtplow rtphigh s := by
  constructor
  · intro port hport
    obtain ⟨e, he, rfl⟩ := List.mem_map.mp hport
    simp only [h.port e he]
    exact ⟨Nat.le_add_right _ _, port_mem_range hrange _⟩
  · rw [h.ports_eq]
    apply h.apart.map
    intro a b hab
    have hab : rtplow + 2 * a = rtplow + 2 * b := hab
    omega

/-- INTERNAL: at first no session was created. -/
theorem rotates_init (hrange : rtplow < rtphigh) (localip : CString) :
    Rotates rtplow rtphigh (init rtplow rtphigh localip) where
  usingRTP := rfl
  lowPort := rfl
  highPort := rfl
  next := by
    rw [if_neg]
    · show rtplow = rtplow + 2 * slot (portCount rtplow rtphigh) 0
      rw [slot_zero, Nat.mul_zero, Nat.add_zero]
    · rintro ⟨-, hzero⟩
      exact Nat.ne_of_lt (portCount_pos hrange) hzero
  inRange := fun _ => Nat.zero_le _
  age := by simp [init]
  port := by simp [init]
  apart := by simp [init]

/-- INTERNAL: what the creation of a session does. SOURCE: SoundDeviceFactory.cpp:30-43 -/
theorem Rotates.step_create {s s' : RtpPorts} (h : Rotates rtplow rtphigh s)
    (hstep : step capacity s .createRTPSession = some s') :
    ∃ session : RTPSession, session.mLocalPort = s.factory.mNextPort ∧
      s' = ⟨{ s.factory with mNextPort := s.factory.portAfter }, s.created + 1,
        ⟨s.created, session⟩ :: s.live⟩ := by
  have hcreate : s.factory.createRTPSession capacity =
      (some ((RTPSession.new capacity).setLocalAddress s.factory.mLocalIP s.factory.mNextPort),
        { s.factory with mNextPort := s.factory.portAfter }) := if_pos h.usingRTP
  simp only [step, hcreate, Option.some.injEq] at hstep
  exact ⟨_, rfl, hstep.symm⟩

/-- INTERNAL: a session that is destroyed leaves the others as they are. -/
theorem Rotates.step_destroy {s s' : RtpPorts} {number : ℕ} (h : Rotates rtplow rtphigh s)
    (hstep : step capacity s (.destroy number) = some s') : Rotates rtplow rtphigh s' := by
  simp only [step, Option.ite_none_right_eq_some, Option.some.injEq] at hstep
  obtain ⟨-, rfl⟩ := hstep
  have hmem : ∀ e ∈ s.live.filter fun e => e.number ≠ number, e ∈ s.live :=
    fun e he => (List.mem_filter.mp he).1
  exact {
    usingRTP := h.usingRTP
    lowPort := h.lowPort
    highPort := h.highPort
    next := h.next
    inRange := h.inRange
    age := fun e he => h.age e (hmem e he)
    port := fun e he => h.port e (hmem e he)
    apart := h.apart.sublist ((List.filter_sublist.map _).map _) }

/-- INTERNAL: the counter before a creation that meets the condition. -/
theorem Rotates.next_eq {s : RtpPorts} (h : Rotates rtplow rtphigh s)
    (hcount : Overflows rtplow rtphigh → s.created < portCount rtplow rtphigh) :
    s.factory.mNextPort = rtplow + 2 * slot (portCount rtplow rtphigh) s.created := by
  rw [h.next, if_neg]
  rintro ⟨hover, heq⟩
  exact Nat.ne_of_lt (hcount hover) heq

/-- INTERNAL: a session created while the oldest one is gone keeps the ports apart. -/
theorem Rotates.step_rested (hrange : rtplow < rtphigh) (hhigh : rtphigh < 2 ^ 32)
    {s s' : RtpPorts} (h : Rotates rtplow rtphigh s)
    (hC : OldestGone rtplow rtphigh s .createRTPSession)
    (hstep : step capacity s .createRTPSession = some s') : Rotates rtplow rtphigh s' := by
  obtain ⟨session, hport, rfl⟩ := h.step_create hstep
  obtain ⟨hgone, hcount⟩ := hC
  have hnext := h.next_eq hcount
  exact {
    usingRTP := h.usingRTP
    lowPort := h.lowPort
    highPort := h.highPort
    next := by
      show s.factory.portAfter = _
      rw [portAfter_slot hrange hhigh h.lowPort h.highPort hnext]
      by_cases hover : Overflows rtplow rtphigh
      · have hslot : slot (portCount rtplow rtphigh) s.created = s.created :=
          Nat.mod_eq_of_lt (hcount hover)
        rw [hslot]
      · simp only [hover, false_and, if_false]
    inRange := hcount
    age := by
      intro e he
      rcases List.mem_cons.mp he with rfl | he
      · exact ⟨Nat.lt_succ_self _, Nat.add_le_add_left (portCount_pos hrange) _⟩
      · exact ⟨Nat.lt_succ_of_lt (h.age e he).1, hgone e he⟩
    port := by
      intro e he
      rcases List.mem_cons.mp he with rfl | he
      · exact hport.trans hnext
      · exact h.port e he
    apart := by
      apply (slots_nodup_cons h.apart _).mpr
      · intro j hj
        obtain ⟨e, he, rfl⟩ := List.mem_map.mp hj
        exact hgone e he
      · intro j hj
        obtain ⟨e, he, rfl⟩ := List.mem_map.mp hj
        exact h.age e he }

/-- INTERNAL: a session whose creation keeps the ports apart was created while the oldest one
was gone. -/
theorem Rotates.oldestGone {s s' : RtpPorts} (h : Rotates rtplow rtphigh s)
    (hstep : step capacity s .createRTPSession = some s') (hP : PortsApart rtplow rtphigh s') :
    OldestGone rtplow rtphigh s .createRTPSession := by
  obtain ⟨session, hport, rfl⟩ := h.step_create hstep
  have hcount : Overflows rtplow rtphigh → s.created < portCount rtplow rtphigh := by
    intro hover
    apply Nat.lt_of_le_of_ne (h.inRange hover)
    intro heq
    have hlow := (hP.1 session.mLocalPort List.mem_cons_self).1
    rw [hport, h.next, if_pos ⟨hover, heq⟩] at hlow
    exact hover.2.2 (Nat.le_zero.mp hlow)
  refine ⟨fun e he => ?_, hcount⟩
  apply Nat.lt_of_le_of_ne (h.age e he).2
  intro heq
  apply (List.nodup_cons.mp hP.2).1
  rw [List.mem_map]
  refine ⟨e, he, ?_⟩
  show e.session.mLocalPort = session.mLocalPort
  rw [hport, h.next_eq hcount, h.port e he, heq, slot_add_self]

/-- **In a run, every port lies in the range and no two sessions alive share one exactly when
each session is created after the one `portCount` sessions before it is gone.** How many are
alive does not matter. SOURCE: SoundDeviceFactory.cpp:6-43, SIPEngine.cpp:143-178, 424-441 -/
theorem portsApart_throughout_iff (hrange : rtplow < rtphigh) (hhigh : rtphigh < 2 ^ 32)
    (capacity : ℕ) (localip : CString) (acts : List Act) :
    Throughout (step capacity) (PortsApart rtplow rtphigh) (init rtplow rtphigh localip) acts ↔
      Along (step capacity) (OldestGone rtplow rtphigh) (init rtplow rtphigh localip) acts := by
  apply throughout_iff_along (fun s => Rotates.portsApart hrange)
  · intro s a s' h hC hstep
    cases a with
    | createRTPSession => exact h.step_rested hrange hhigh hC hstep
    | destroy number => exact h.step_destroy hstep
  · intro s a s' h hstep hP
    cases a with
    | createRTPSession => exact h.oldestGone hstep hP
    | destroy number => trivial
  · exact rotates_init hrange localip

/-- Two ports: the first session lasts, the second is replaced by a third. -/
def oneLasts : List Act :=
  [.createRTPSession, .createRTPSession, .destroy 1, .createRTPSession]

/-- **The third session gets the port of the first one**, although no more than two sessions
are alive at any time. -/
theorem oneLasts_shares_port :
    Throughout (step 16) (FitsPorts 10000 10004) (init 10000 10004 []) oneLasts ∧
      ¬ Throughout (step 16) (PortsApart 10000 10004) (init 10000 10004 []) oneLasts := by
  decide

/-- The condition is met by sessions that come and go one at a time. -/
theorem oneAtATime_oldestGone :
    Along (step 16) (OldestGone 10000 10004) (init 10000 10004 [])
      [.createRTPSession, .destroy 0, .createRTPSession, .destroy 1, .createRTPSession] :=
  (portsApart_throughout_iff (by decide) (by decide) 16 [] _).mp (by decide)

end Dhas.Analysis.RtpPorts
