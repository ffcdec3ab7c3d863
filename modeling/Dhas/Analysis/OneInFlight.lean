import Dhas.Library.Trace
import Dhas.Model.InsteonLoop

/-!
# One direct message in flight

The loop sends only after it found every device idle, and a device leaves the idle state
only when a message to it was acknowledged. `InFlightOk` is the invariant: what holds of the
modem and its record at every step, and what the loop has established about the devices at
the place where it is. Each way in which a step changes the module has a lemma; the steps
are put together from these.
-/

set_option autoImplicit false

namespace Dhas.Analysis

open Dhas.Library Dhas.Program Dhas.Model
open Dhas.Model.InsteonLoop

/-! ## Reading the record -/

/-- The messages put on the queue, in order. -/
def enqueued (trace : List InsteonEvent) : List IInsteonMessage :=
  trace.filterMap fun
    | .enqueued cmd => some cmd
    | _ => none

/-- The messages written to the serial port, in order. -/
def written (trace : List InsteonEvent) : List IInsteonMessage :=
  trace.filterMap fun
    | .wrote _ cmd => some cmd
    | _ => none

/-- The device that a command goes to; messages to the modem itself have none. -/
def addressee (cmd : IInsteonMessage) : Option InsteonID :=
  match cmd.messageClass with
  | .standardOrExtended | .groupCleanup => some cmd.getDestination
  | .allLinkDatabase | .imConfiguration | .startAllLinking => none

/-- The event ends the wait for a device: its ACK or NAK was processed, or it was replaced
or cleared. -/
def Settles (id : InsteonID) : InsteonEvent → Prop
  | .message buf processed =>
    processed = true ∧ buf.sender = id ∧ (buf.status = 0b001 ∨ buf.status = 0b101)
  | .registered id' => id' = id
  | .cleared => True
  | _ => False

/-- A device was registered under the id, and the list was not cleared since. -/
def Registered (trace : List InsteonEvent) (id : InsteonID) : Prop :=
  Since (fun _ e => e = .registered id) (· ≠ .cleared) trace

/-- A command to the registered device was acknowledged at time `t`, and nothing has settled
it since. -/
def Pending (trace : List InsteonEvent) (id : InsteonID) (t : ℤ) : Prop :=
  Since (fun before e => ∃ cmd, e = .messageSent t cmd ∧ addressee cmd = some id ∧
    Registered before id) (fun e => ¬ Settles id e) trace

/-- A write comes two seconds after every command that is still pending. -/
def WriteGap (before : List InsteonEvent) (e : InsteonEvent) : Prop :=
  ∀ t cmd, e = .wrote t cmd → ∀ id s, Pending before id s → s + 2 ≤ t

/-- The device under the id waits for the ACK of a direct message. -/
def Waiting (m : InsteonState) (id : InsteonID) : Prop :=
  ∃ d, m.handler.mModules[id]? = some d ∧ d.mTransmissionStatus = .WaitingAckOfDirectMessage

/-! ## The invariant -/

/-- The device waits for the ACK of a message that is not older than `t`, or the two seconds
after `t` are over. -/
def Covered (m : InsteonState) (id : InsteonID) (t : ℤ) : Prop :=
  (∃ d, m.handler.mModules[id]? = some d ∧
    d.mTransmissionStatus = .WaitingAckOfDirectMessage ∧ t ≤ d.mLastMessageTimeStamp) ∨
  t + 2 ≤ m.now

structure ModemOk (m : InsteonState) : Prop where
  noCleanup : ∀ cmd ∈ m.mInsteonCommandQueue, cmd.messageClass ≠ .groupCleanup
  order : (written m.trace ++ m.mInsteonCommandQueue).Sublist (enqueued m.trace)
  registered : ∀ id, Registered m.trace id → ∃ d, m.handler.mModules[id]? = some d
  pending : ∀ id t, Pending m.trace id t → Covered m id t
  gap : Always WriteGap m.trace
  oneWaiting : ∀ id id', Waiting m id → Waiting m id' → id = id'

/-- What the loop has established about the devices. -/
def IdleAt (m : InsteonState) : LoopPc → Prop
  | .devices visited => ∀ id, Insteon.Visited visited id → ¬ Waiting m id
  | .process devicesIdle => devicesIdle = true → ∀ id, ¬ Waiting m id
  | .reading => True

/-- INTERNAL: before the first look nothing has been established. -/
theorem idleAt_start (m : InsteonState) : IdleAt m (.devices none) := by
  rintro id ⟨k, hk, -⟩
  cases hk

structure InFlightOk (s : InsteonLoop) : Prop where
  modem : ModemOk s.modem
  idle : IdleAt s.modem s.pc

/-! ## What changes the module -/

section Changes

variable {m : InsteonState}

/-- INTERNAL: messages put on the queue. -/
theorem ModemOk.push (h : ModemOk m) {cmds : List IInsteonMessage}
    (hcmds : ∀ cmd ∈ cmds, cmd.messageClass ≠ .groupCleanup) : ModemOk (m.push cmds) where
  noCleanup := fun cmd hcmd => by
    rcases List.mem_append.mp hcmd with hcmd | hcmd
    · exact h.noCleanup cmd hcmd
    · exact hcmds cmd hcmd
  order := by
    have hwritten : written (cmds.map .enqueued) = [] := by
      simp [written, List.filterMap_map]
    have henqueued : enqueued (cmds.map .enqueued) = cmds := by
      simp [enqueued, List.filterMap_map]
    have := h.order.append (List.Sublist.refl cmds)
    simp only [written, enqueued] at hwritten henqueued this ⊢
    simpa [hwritten, henqueued, List.append_assoc] using this
  registered := fun id hid => by
    rw [InsteonModem.push_trace, Registered, since_append (by simp) (by simp)] at hid
    exact h.registered id hid
  pending := fun id t hp => by
    have hsent : ∀ e ∈ cmds.map InsteonEvent.enqueued, ∀ before, ¬ ∃ cmd, e = .messageSent t cmd ∧
        addressee cmd = some id ∧ Registered before id := by
      simp
    have hnot : ∀ e ∈ cmds.map InsteonEvent.enqueued, ¬ Settles id e := by
      intro e he
      obtain ⟨cmd, -, rfl⟩ := List.mem_map.mp he
      exact not_false
    rw [InsteonModem.push_trace, Pending, since_append hsent hnot] at hp
    exact h.pending id t hp
  gap := by
    rw [InsteonModem.push_trace, always_append (by simp [WriteGap])]
    exact h.gap
  oneWaiting := h.oneWaiting

/-- INTERNAL: the clock goes on, and the network with it. -/
theorem ModemOk.clock (h : ModemOk m) {now : ℤ} (hle : m.now ≤ now) (port : ISerialPort) :
    ModemOk { m with now := now, mpSerialPort := port } where
  noCleanup := h.noCleanup
  order := h.order
  registered := h.registered
  pending := fun id t hp => (h.pending id t hp).imp_right fun ht => Int.le_trans ht hle
  gap := h.gap
  oneWaiting := h.oneWaiting

/-- INTERNAL: an event other than a write or an enqueued message, with what it does to the
devices. -/
theorem ModemOk.record (h : ModemOk m) {e : InsteonEvent} {s : Insteon} {w : Bool}
    (hwrote : ∀ t cmd, e ≠ .wrote t cmd) (henqueued : ∀ cmd, e ≠ .enqueued cmd)
    (hregistered : ∀ id, Registered (m.trace ++ [e]) id → ∃ d, s.mModules[id]? = some d)
    (hpending : ∀ id t, Pending (m.trace ++ [e]) id t → Covered { m with handler := s } id t)
    (hone : ∀ id id', Waiting { m with handler := s } id → Waiting { m with handler := s } id' →
      id = id') :
    ModemOk { m.record e with handler := s, mWaitingForResponse := w } where
  noCleanup := h.noCleanup
  order := by
    have hw : written [e] = [] := by cases e <;> simp [written] at hwrote ⊢
    have he : enqueued [e] = [] := by cases e <;> simp [enqueued] at henqueued ⊢
    have := h.order
    simp only [written, enqueued] at hw he this ⊢
    simpa [hw, he] using this
  registered := hregistered
  pending := hpending
  gap := by
    refine (always_append_singleton e).mpr ⟨h.gap, fun t cmd heq => ?_⟩
    exact absurd heq (hwrote t cmd)
  oneWaiting := hone

/-- INTERNAL: an ALL-Link record changes no device. -/
theorem ModemOk.allLinkRecord (h : ModemOk m) (buf : FrameBuffer) :
    ModemOk (m.processAllLinkRecordResponse Insteon.messageHandler buf) := by
  have hrecord : ModemOk { m.record (.allLinkRecord buf) with
      handler := m.handler, mWaitingForResponse := false } := by
    refine h.record (by simp) (by simp) (fun id hid => h.registered id ?_)
      (fun id t hp => h.pending id t ?_) h.oneWaiting
    · exact ((since_append_singleton _).mp hid).elim (by simp) And.left
    · exact ((since_append_singleton _).mp hp).elim (by simp) And.left
  refine (hrecord.push ?_).push (by simp [allLinkDatabaseMessage])
  simp [Insteon.messageHandler, Insteon.onInsteonAllLinkRecordResponse]

/-- INTERNAL: a message from a device makes no device wait. -/
theorem waiting_message (buf : FrameBuffer) {id : InsteonID}
    (h : Waiting (m.processStandardMessage Insteon.messageHandler buf) id) : Waiting m id := by
  obtain ⟨d', hd', hwait⟩ := h
  change (Insteon.onInsteonMessage m.now buf m.handler).state.mModules[id]? = some d' at hd'
  cases hd : m.handler.mModules[buf.sender]? with
  | none =>
    simp only [Insteon.onInsteonMessage, hd] at hd'
    exact ⟨d', hd', hwait⟩
  | some d =>
    rw [Insteon.onInsteonMessage_modules hd] at hd'
    split at hd'
    case isFalse => exact ⟨d', hd', hwait⟩
    case isTrue hid =>
      cases hd'
      refine ⟨d, hid ▸ hd, ?_⟩
      by_cases hs : d.Settled buf
      · rw [InsteonDevice.onInsteonMessage_settled hs] at hwait
        cases hwait
      · rwa [(InsteonDevice.onInsteonMessage_not_settled hs).1] at hwait

/-- INTERNAL: a message from a device that does not settle leaves what it waits for.
SOURCE: InsteonModule.cpp:634-643 -/
theorem ModemOk.message (h : ModemOk m) (buf : FrameBuffer) :
    ModemOk (m.processStandardMessage Insteon.messageHandler buf) := by
  let eff := Insteon.onInsteonMessage m.now buf m.handler
  have hrecord : ModemOk { m.record (.message buf eff.processed) with
      handler := eff.state, mWaitingForResponse := m.mWaitingForResponse } := by
    refine h.record (by simp) (by simp) (fun id hid => ?_) (fun id t hp => ?_)
      (fun id id' hid hid' => h.oneWaiting id id' ?_ ?_)
    · obtain ⟨d', hd'⟩ := h.registered id
        (((since_append_singleton _).mp hid).elim (by simp) And.left)
      cases hd : m.handler.mModules[buf.sender]? with
      | none => exact ⟨d', by simpa only [eff, Insteon.onInsteonMessage, hd] using hd'⟩
      | some d =>
        simp only [eff, Insteon.onInsteonMessage_modules hd]
        split
        · exact ⟨_, rfl⟩
        · exact ⟨d', hd'⟩
    · obtain ⟨hp, hns⟩ := ((since_append_singleton _).mp hp).resolve_left (by simp)
      rcases h.pending id t hp with ⟨d', hd', hwait, ht⟩ | ht
      · refine .inl ?_
        cases hd : m.handler.mModules[buf.sender]? with
        | none => exact ⟨d', by simpa only [eff, Insteon.onInsteonMessage, hd] using hd', hwait, ht⟩
        | some d =>
          simp only [eff, Insteon.onInsteonMessage_modules hd]
          split
          case isFalse => exact ⟨d', hd', hwait, ht⟩
          case isTrue hid =>
            obtain rfl : d = d' := by
              rw [hid, hd'] at hd
              exact (Option.some.inj hd).symm
            -- the event does not settle, so the device has processed neither ACK nor NAK
            have hns : ¬ d.Settled buf := fun hs => hns ⟨by
              simp [eff, Insteon.onInsteonMessage, hd, hs.1], hid, hs.2⟩
            obtain ⟨hstatus, hstamp⟩ := InsteonDevice.onInsteonMessage_not_settled hns
            exact ⟨_, rfl, hstatus ▸ hwait, hstamp ▸ ht⟩
      · exact .inr ht
    · exact waiting_message buf hid
    · exact waiting_message buf hid'
  apply hrecord.push
  intro cmd hcmd
  change cmd ∈ eff.commands at hcmd
  cases hd : m.handler.mModules[buf.sender]? with
  | none => simp [eff, Insteon.onInsteonMessage, hd] at hcmd
  | some d =>
    simp only [eff, Insteon.onInsteonMessage, hd] at hcmd
    simp [InsteonDevice.onInsteonMessage_commands hcmd]

/-- INTERNAL: a device is asked whether it is idle, and may time out.
SOURCE: InsteonDevice.cpp:22-36 -/
theorem ModemOk.isIdle (h : ModemOk m) {id : InsteonID} {d : InsteonDevice}
    (hd : m.handler.mModules[id]? = some d) :
    ModemOk { m with handler := m.handler.setDevice id (d.isIdle m.now).2 } := by
  have hwaiting {id' : InsteonID}
      (hw : Waiting { m with handler := m.handler.setDevice id (d.isIdle m.now).2 } id') :
      Waiting m id' := by
    obtain ⟨d', hd', hwait⟩ := hw
    simp only [Insteon.getElem?_setDevice] at hd'
    split at hd'
    case isFalse => exact ⟨d', hd', hwait⟩
    case isTrue hid =>
      subst hid
      cases hd'
      rcases d.isIdle_cases m.now with heq | ⟨hstatus, -, hidle⟩
      · exact ⟨d, hd, heq ▸ hwait⟩
      · exact ⟨d, hd, hstatus⟩
  refine ⟨h.noCleanup, h.order, fun id' hid' => ?_, fun id' t hp => ?_, h.gap,
    fun id₁ id₂ h₁ h₂ => h.oneWaiting id₁ id₂ (hwaiting h₁) (hwaiting h₂)⟩
  · obtain ⟨d', hd'⟩ := h.registered id' hid'
    simp only [Insteon.getElem?_setDevice]
    split
    · exact ⟨_, rfl⟩
    · exact ⟨d', hd'⟩
  · rcases h.pending id' t hp with ⟨d', hd', hwait, ht⟩ | ht
    · by_cases hid : id = id'
      · subst hid
        obtain rfl : d = d' := Option.some.inj (hd.symm.trans hd')
        rcases d.isIdle_cases m.now with heq | ⟨-, hstamp, -⟩
        · exact .inl ⟨d, by simp [heq], hwait, ht⟩
        · exact .inr (by simp only; omega)
      · exact .inl ⟨d', by simp [hid, hd'], hwait, ht⟩
    · exact .inr ht

/-- INTERNAL: a device is registered, idle, under an id that may be in use.
SOURCE: InsteonModule.cpp:669-679 -/
theorem ModemOk.addDevice (h : ModemOk m) (id : InsteonID)
    {dev : InsteonDevice × List IInsteonMessage} (hidle : dev.1.mTransmissionStatus = .Idle)
    (hcmds : ∀ cmd ∈ dev.2, cmd.messageClass ≠ .groupCleanup) :
    ModemOk (m.addDevice id dev) := by
  have hne {id' : InsteonID} (hw : Waiting (m.addDevice id dev) id') :
      id ≠ id' ∧ Waiting m id' := by
    obtain ⟨d', hd', hwait⟩ := hw
    simp only [InsteonState.addDevice, Insteon.getElem?_setDevice] at hd'
    split at hd'
    case isFalse hid => exact ⟨hid, d', hd', hwait⟩
    case isTrue =>
      cases hd'
      rw [hidle] at hwait
      cases hwait
  refine (h.push hcmds).record (w := m.mWaitingForResponse) (by simp) (by simp)
    (fun id' hid' => ?_) (fun id' t hp => ?_)
    (fun id₁ id₂ h₁ h₂ => h.oneWaiting id₁ id₂ (hne h₁).2 (hne h₂).2)
  · simp only [Insteon.getElem?_setDevice]
    split
    case isTrue => exact ⟨_, rfl⟩
    case isFalse hid =>
      refine (h.push hcmds).registered id' (((since_append_singleton _).mp hid').elim ?_ And.left)
      exact fun heq => absurd (InsteonEvent.registered.inj heq) hid
  · obtain ⟨hp, hns⟩ := ((since_append_singleton _).mp hp).resolve_left (by simp)
    rcases (h.push hcmds).pending id' t hp with ⟨d', hd', hwait, ht⟩ | ht
    · have hid : id ≠ id' := hns
      refine .inl ⟨d', ?_, hwait, ht⟩
      simp only [Insteon.getElem?_setDevice]
      rw [if_neg hid]
      exact hd'
    · exact .inr ht

/-- INTERNAL: the devices are deleted. SOURCE: InsteonModule.cpp:687-699 -/
theorem ModemOk.clear (h : ModemOk m) : ModemOk m.clearModuleList := by
  have hnone {id : InsteonID} : ¬ Waiting m.clearModuleList id := by
    rintro ⟨d, hd, -⟩
    simp [InsteonState.clearModuleList] at hd
  refine h.record (w := m.mWaitingForResponse) (by simp) (by simp) (fun id hid => ?_)
    (fun id t hp => ?_) (fun id _ hid => absurd hid hnone)
  · rcases (since_append_singleton _).mp hid with heq | ⟨-, hne⟩
    · cases heq
    · exact absurd rfl hne
  · obtain ⟨-, hns⟩ := ((since_append_singleton _).mp hp).resolve_left (by simp)
    exact absurd trivial hns

/-- INTERNAL: a REST callback. -/
theorem ModemOk.callback {m' : InsteonState} (h : ModemOk m)
    (heff : InsteonState.CallbackEffect m m') : ModemOk m' := by
  have hclass {cmd : IInsteonMessage} (hc : InsteonState.RestCommand cmd) :
      cmd.messageClass ≠ .groupCleanup := by
    rcases hc with hc | hc <;> simp [hc]
  cases heff with
  | push cmds hc => exact h.push fun cmd hcmd => hclass (hc cmd hcmd)
  | setController id => exact ⟨h.1, h.2, h.3, h.4, h.5, h.6⟩
  | addDevice id dev hidle hc => exact h.addDevice id hidle fun cmd hcmd => hclass (hc cmd hcmd)
  | clear => exact h.clear

/-- INTERNAL: a REST callback makes no device wait. -/
theorem waiting_callback {m' : InsteonState} (heff : InsteonState.CallbackEffect m m')
    {id : InsteonID} (h : Waiting m' id) : Waiting m id := by
  cases heff with
  | push cmds hc => exact h
  | setController id => exact h
  | addDevice id' dev hidle hc =>
    obtain ⟨d, hd, hwait⟩ := h
    simp only [InsteonState.addDevice, Insteon.getElem?_setDevice] at hd
    split at hd
    · cases hd
      rw [hidle] at hwait
      cases hwait
    · exact ⟨d, hd, hwait⟩
  | clear =>
    obtain ⟨d, hd, -⟩ := h
    simp [InsteonState.clearModuleList] at hd

/-! ## Sending -/

/-- INTERNAL: the front command is taken off the queue. -/
theorem ModemOk.pop (h : ModemOk m) {cmd : IInsteonMessage} {rest : List IInsteonMessage}
    (hq : m.mInsteonCommandQueue = cmd :: rest) :
    ModemOk { m with mInsteonCommandQueue := rest } where
  noCleanup := fun c hc => h.noCleanup c (hq ▸ List.mem_cons_of_mem cmd hc)
  order := by
    have := h.order
    rw [hq] at this
    exact ((List.sublist_cons_self cmd rest).append_left _).trans this
  registered := h.registered
  pending := h.pending
  gap := h.gap
  oneWaiting := h.oneWaiting

/-- INTERNAL: the front command is written, at a time when no device waits: what is pending
is two seconds old. SOURCE: InsteonModem.cpp:252-264 -/
theorem ModemOk.write (h : ModemOk m) {cmd : IInsteonMessage} {rest : List IInsteonMessage}
    (hq : m.mInsteonCommandQueue = cmd :: rest) (hidle : ∀ id, ¬ Waiting m id) :
    ModemOk ({ m with mInsteonCommandQueue := rest }.record (.wrote m.now cmd)) where
  noCleanup := fun c hc => h.noCleanup c (hq ▸ List.mem_cons_of_mem cmd hc)
  order := by
    have := h.order
    simp only [written, enqueued, hq] at this ⊢
    simpa using this
  registered := fun id hid =>
    h.registered id (((since_append_singleton _).mp hid).elim (by simp) And.left)
  pending := fun id t hp =>
    h.pending id t (((since_append_singleton _).mp hp).elim (by simp) And.left)
  gap := by
    refine (always_append_singleton _).mpr ⟨h.gap, fun t c heq id s hp => ?_⟩
    cases heq
    rcases h.pending id s hp with ⟨d, hd, hwait, -⟩ | hs
    · exact absurd ⟨d, hd, hwait⟩ (hidle id)
    · exact hs
  oneWaiting := h.oneWaiting

/-- INTERNAL: after an acknowledgement, only the device that the command went to waits. -/
theorem waiting_messageSent {cmd : IInsteonMessage} (hidle : ∀ id, ¬ Waiting m id)
    {id : InsteonID} (h : Waiting { m with
      handler := (Insteon.onInsteonMessageSent m.now cmd.getDestination cmd m.handler).state }
      id) : addressee cmd = some id := by
  obtain ⟨d', hd', hwait⟩ := h
  simp only [Insteon.onInsteonMessageSent_modules, Option.map_eq_some_iff] at hd'
  obtain ⟨d, hd, rfl⟩ := hd'
  split at hwait
  case isTrue hc => simp [addressee, hc.1, hc.2]
  case isFalse => exact absurd ⟨d, hd, hwait⟩ (hidle id)

/-- INTERNAL: the modem acknowledged a command while no device waited: its device, if it is
registered, waits from now on, and no other does.
SOURCE: InsteonModem.cpp:265-283, InsteonModule.cpp:645-667 -/
theorem ModemOk.acknowledged (h : ModemOk m) {cmd : IInsteonMessage}
    (hclass : cmd.messageClass ≠ .groupCleanup) (hidle : ∀ id, ¬ Waiting m id) :
    ModemOk (m.onAcknowledged Insteon.messageHandler cmd) := by
  let eff := Insteon.onInsteonMessageSent m.now cmd.getDestination cmd m.handler
  obtain ⟨w, hw⟩ : ∃ w, m.onAcknowledged Insteon.messageHandler cmd =
      ({ m.record (.messageSent m.now cmd) with
        handler := eff.state, mWaitingForResponse := w } : InsteonState).push eff.commands := by
    simp only [InsteonModem.onAcknowledged]
    split
    · exact ⟨true, rfl⟩
    · exact ⟨m.mWaitingForResponse, rfl⟩
  have hcommands : eff.commands = [] := Insteon.onInsteonMessageSent_commands _ _ _ _
  have hmodules (id : InsteonID) (d : InsteonDevice) (hd : m.handler.mModules[id]? = some d) :=
    (Insteon.onInsteonMessageSent_modules m.now cmd.getDestination id cmd m.handler).trans
      (congrArg _ hd)
  rw [hw, hcommands]
  refine ModemOk.push (h.record (by simp) (by simp) (fun id hid => ?_) (fun id t hp => ?_)
    (fun id id' hid hid' => ?_)) (by simp)
  · obtain ⟨d, hd⟩ := h.registered id (((since_append_singleton _).mp hid).elim (by simp) And.left)
    exact ⟨_, hmodules id d hd⟩
  · rcases (since_append_singleton _).mp hp with ⟨c, heq, haddr, hreg⟩ | ⟨hp, -⟩
    · cases heq
      obtain ⟨d, hd⟩ := h.registered id hreg
      have hsent : cmd.messageClass = .standardOrExtended ∧ cmd.getDestination = id := by
        unfold addressee at haddr
        cases hc : cmd.messageClass <;> simp [hc] at haddr hclass ⊢
        exact haddr
      refine .inl ⟨_, hmodules id d hd, ?_⟩
      simp only [if_pos hsent]
      exact ⟨rfl, Int.le_refl _⟩
    · rcases h.pending id t hp with ⟨d, hd, hwait, -⟩ | ht
      · exact absurd ⟨d, hd, hwait⟩ (hidle id)
      · exact .inr ht
  · have hid := waiting_messageSent hidle hid
    have hid' := waiting_messageSent hidle hid'
    exact Option.some.inj (hid.symm.trans hid')

end Changes

/-! ## The steps of the loop -/

/-- INTERNAL: at first there is no device. -/
theorem inFlightOk_init (port : ISerialPort) (waiting : Bool) (now : ℤ) :
    InFlightOk (init port waiting now) := by
  refine ⟨ModemOk.push ?_ (by simp [imConfigurationMessage]), ?_⟩
  · refine ⟨by simp, List.Sublist.refl _, ?_, ?_, always_nil, ?_⟩
    · intro id hid
      exact absurd hid not_since_nil
    · intro id t hp
      exact absurd hp not_since_nil
    · rintro id _ ⟨d, hd, -⟩
      simp [Insteon.empty] at hd
  · rintro id ⟨k, hk, -⟩
    cases hk

/-- INTERNAL: **every step of the module keeps the invariant.** -/
theorem step_inFlightOk {s s' : InsteonLoop} {a : Act} (h : InFlightOk s)
    (hstep : step s a = some s') : InFlightOk s' := by
  obtain ⟨hm, hidle⟩ := h
  cases step_effect hstep with
  | tick seconds => exact ⟨hm.clock (by omega) _, hidle⟩
  | network port => exact ⟨hm.clock (Int.le_refl _) port, hidle⟩
  | rest path params unset =>
    have heff := s.modem.callback_effect path params unset
    refine ⟨hm.callback heff, ?_⟩
    cases hpc : s.pc with
    | devices visited =>
      rw [hpc] at hidle
      exact fun id hv hw => hidle id hv (waiting_callback heff hw)
    | process devicesIdle =>
      rw [hpc] at hidle
      exact fun hi id hw => hidle hi id (waiting_callback heff hw)
    | reading => trivial
  | enqueue cmd hclass => exact ⟨hm.push (by simpa using hclass), hidle⟩
  | checkDevice visited hpc =>
    rw [hpc] at hidle
    cases hnext : s.modem.handler.nextDevice visited with
    | none =>
      simp only [InsteonLoop.checkDevice, hnext]
      refine ⟨hm, fun _ id hw => ?_⟩
      obtain ⟨d, hd, hwait⟩ := hw
      exact hidle id (Insteon.nextDevice_none hnext hd) ⟨d, hd, hwait⟩
    | some entry =>
      obtain ⟨id, d⟩ := entry
      obtain ⟨hd, hvisited⟩ := Insteon.nextDevice_some hnext
      simp only [InsteonLoop.checkDevice, hnext]
      refine ⟨hm.isIdle hd, ?_⟩
      split
      case isFalse => exact fun h => absurd h Bool.false_ne_true
      case isTrue hi =>
        rw [InsteonDevice.isIdle_fst, decide_eq_true_iff] at hi
        rintro id' ⟨k, hk, hle⟩ ⟨d', hd', hwait⟩
        cases hk
        simp only [Insteon.getElem?_setDevice] at hd'
        split at hd'
        · cases hd'
          rw [hi] at hwait
          cases hwait
        case isFalse hne =>
          rcases hvisited id' d' hd' hle with hv | rfl
          · exact hidle id' hv ⟨d', hd', hwait⟩
          · exact hne rfl
  | disconnected devicesIdle hpc hconn => exact ⟨hm, idleAt_start _⟩
  | nothingSent devicesIdle hpc hnone => exact ⟨hm, trivial⟩
  | dropped cmd rest hpc hq hwrites => exact ⟨hm.pop hq, trivial⟩
  | written cmd rest ack now reads hpc hconn hwait hq hwrites hreply =>
    rw [hpc] at hidle
    refine ⟨?_, trivial⟩
    have hwrite := hm.write hq (hidle rfl)
    have hadvance := hwrite.clock (InsteonModem.waitForReply_le hreply)
      { s.modem.mpSerialPort with reads := reads }
    dsimp only
    split
    · exact hadvance.acknowledged (hm.noCleanup cmd (by simp [hq])) (hidle rfl)
    · exact hadvance
  | nothingRead now reads hle =>
    exact ⟨hm.clock hle { s.modem.mpSerialPort with reads := reads }, idleAt_start _⟩
  | message now reads hle buf =>
    exact ⟨(hm.clock hle { s.modem.mpSerialPort with reads := reads }).message buf,
      idleAt_start _⟩
  | allLinkRecord now reads hle buf =>
    exact ⟨(hm.clock hle { s.modem.mpSerialPort with reads := reads }).allLinkRecord buf,
      idleAt_start _⟩

/-- At most one device waits; the commands are written in the order in which they were
enqueued, each at most once; and after a command to a registered device was acknowledged at
time `s`, nothing is written before `s + 2` unless the command was settled. -/
structure OneInFlight (s : InsteonLoop) : Prop where
  oneWaiting : ∀ id id', Waiting s.modem id → Waiting s.modem id' → id = id'
  inOrder : (written s.modem.trace).Sublist (enqueued s.modem.trace)
  gap : ∀ before t cmd between t' cmd' after id,
    s.modem.trace = before ++ .messageSent t cmd :: between ++ .wrote t' cmd' :: after →
    addressee cmd = some id → Registered before id → (∀ e ∈ between, ¬ Settles id e) →
    t + 2 ≤ t'

/-- INTERNAL: the invariant says that one command is in flight at most. -/
theorem InFlightOk.oneInFlight {s : InsteonLoop} (h : InFlightOk s) : OneInFlight s where
  oneWaiting := h.modem.oneWaiting
  inOrder := (List.sublist_append_left _ _).trans h.modem.order
  gap := fun before t cmd between t' cmd' after id htrace haddr hreg hns => by
    apply h.modem.gap (before ++ .messageSent t cmd :: between) _ after htrace t' cmd' rfl id t
    exact ⟨before, _, between, rfl, ⟨cmd, rfl, haddr, hreg⟩, hns⟩

/-- **In every run of the module, and at every point of it, one direct message is
in flight.** SOURCE: InsteonModule.cpp:186-212, 645-667, InsteonModem.cpp:58-103,
InsteonDevice.cpp:22-58 -/
theorem oneInFlight_throughout (port : ISerialPort) (waiting : Bool) (now : ℤ)
    (acts : List Act) : Throughout step OneInFlight (init port waiting now) acts := by
  apply throughout_invariant (I := InFlightOk)
  · intro s h
    exact h.oneInFlight
  · intro s a s' h hstep
    exact step_inFlightOk h hstep
  · exact inFlightOk_init port waiting now

end Dhas.Analysis
