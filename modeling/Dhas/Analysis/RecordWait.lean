import Dhas.Library.Trace
import Dhas.Model.InsteonLoop

/-!
# Waiting for an ALL-Link record

`sendCommand` sets `mWaitingForResponse` for every acknowledged message with destination 0
that needs an ACK, and only a 0x57 frame clears it. An ALL-Link record request is such a
message, but so is a direct message to id 0, which a REST callback sends when its `id` is
missing. No 0x57 frame answers that one, and the modem does not send again.
-/

set_option autoImplicit false

namespace Dhas.Analysis

open Dhas.Library Dhas.Program Dhas.Model
open Dhas.Model.InsteonLoop

/-- An ALL-Link record request was acknowledged, and no record was received since. -/
def RecordAwaited (trace : List InsteonEvent) : Prop :=
  Since (fun _ e => ∃ t cmd, e = .messageSent t cmd ∧
      (cmd.getMessageID = 0x69 ∨ cmd.getMessageID = 0x6A))
    (fun e => ∀ buf, e ≠ .allLinkRecord buf) trace

/-- The modem blocks its queue only for a record. -/
def BlocksForRecord (s : InsteonLoop) : Prop :=
  s.modem.mWaitingForResponse = true → RecordAwaited s.modem.trace

/-- The PLM acknowledges the command: it is written, and its echo comes within two seconds
and ends in 0x06. -/
def PlmAcknowledges (m : InsteonState) (cmd : IInsteonMessage) : Prop :=
  m.mpSerialPort.writes = true ∧ ∃ now reads,
    InsteonModem.waitForReply cmd.mEchoSize m.now m.now 0 m.mpSerialPort.reads =
      some (true, now, reads)

/-- What a step must meet: a command with destination 0 that needs an ACK, and that `process`
is about to send and the PLM to acknowledge, is an ALL-Link record request. -/
def SendsForRecord (s : InsteonLoop) : Act → Prop
  | .send => ∀ cmd rest, s.pc = .process true → s.modem.mpSerialPort.reconnects = true →
      s.modem.mWaitingForResponse = false → s.modem.mInsteonCommandQueue = cmd :: rest →
      PlmAcknowledges s.modem cmd → cmd.getDestination = 0 → cmd.needAck = true →
      cmd.getMessageID = 0x69 ∨ cmd.getMessageID = 0x6A
  | _ => True

/-- The flag says exactly whether a record is awaited. -/
def FlagOk (m : InsteonState) : Prop :=
  m.mWaitingForResponse = true ↔ RecordAwaited m.trace

section Changes

variable {m : InsteonState}

/-- INTERNAL: events that are neither an acknowledgement nor a record. -/
theorem recordAwaited_append (trace : List InsteonEvent) {events : List InsteonEvent}
    (h : ∀ e ∈ events, (∀ t cmd, e ≠ .messageSent t cmd) ∧ ∀ buf, e ≠ .allLinkRecord buf) :
    RecordAwaited (trace ++ events) ↔ RecordAwaited trace :=
  since_append (fun e he _ ⟨t, cmd, heq, _⟩ => (h e he).1 t cmd heq) fun e he => (h e he).2

/-- INTERNAL: queued commands ask for no record yet. -/
theorem recordAwaited_push (m : InsteonState) (cmds : List IInsteonMessage) :
    RecordAwaited (m.push cmds).trace ↔ RecordAwaited m.trace :=
  recordAwaited_append m.trace (by simp)

/-- INTERNAL: a REST callback changes neither the flag nor what is awaited. -/
theorem FlagOk.callback {m' : InsteonState} (h : FlagOk m)
    (heff : InsteonState.CallbackEffect m m') : FlagOk m' := by
  cases heff with
  | push cmds hc => exact h.trans (recordAwaited_push m cmds).symm
  | setController id => exact h
  | addDevice id dev hidle hc =>
    have hreg : RecordAwaited ((m.push dev.2).trace ++ [.registered id]) ↔ _ :=
      recordAwaited_append (m.push dev.2).trace (by simp)
    exact h.trans ((recordAwaited_push m dev.2).symm.trans hreg.symm)
  | clear => exact h.trans (recordAwaited_append m.trace (by simp)).symm

/-- INTERNAL: a standard message does not touch the wait. -/
theorem FlagOk.message (h : FlagOk m) (buf : FrameBuffer) :
    FlagOk (m.processStandardMessage Insteon.messageHandler buf) := by
  refine h.trans (Iff.symm ((recordAwaited_push _ _).trans ?_))
  exact recordAwaited_append m.trace (by simp)

/-- INTERNAL: of what is read only a record changes the flag.
SOURCE: InsteonModem.cpp:119-124 -/
theorem flagOk_allLinkRecord (m : InsteonState) (buf : FrameBuffer) :
    FlagOk (m.processAllLinkRecordResponse Insteon.messageHandler buf) := by
  apply iff_of_false Bool.false_ne_true
  intro hw
  have hrecord := (recordAwaited_push _ _).mp ((recordAwaited_push _ _).mp hw)
  rcases (since_append_singleton _).mp hrecord with ⟨t, cmd, heq, -⟩ | ⟨-, hne⟩
  · cases heq
  · exact hne buf rfl

/-- INTERNAL: an acknowledged command: the flag is set by its destination, a record is
awaited by its message id. SOURCE: InsteonModem.cpp:276-281 -/
theorem acknowledged_flag (m : InsteonState) (cmd : IInsteonMessage) :
    ((m.onAcknowledged Insteon.messageHandler cmd).mWaitingForResponse = true ↔
      (cmd.getDestination = 0 ∧ cmd.needAck = true) ∨ m.mWaitingForResponse = true) ∧
    (RecordAwaited (m.onAcknowledged Insteon.messageHandler cmd).trace ↔
      (cmd.getMessageID = 0x69 ∨ cmd.getMessageID = 0x6A) ∨ RecordAwaited m.trace) := by
  refine ⟨m.onAcknowledged_waiting _ cmd, ?_⟩
  rw [InsteonModem.onAcknowledged_trace, List.append_cons, recordAwaited_append _ (by simp),
    RecordAwaited, since_append_singleton]
  simp [RecordAwaited]

/-- A message that sets the flag when it is acknowledged is a record request. -/
def SetsForRecord (cmd : IInsteonMessage) : Prop :=
  cmd.getDestination = 0 → cmd.needAck = true →
    cmd.getMessageID = 0x69 ∨ cmd.getMessageID = 0x6A

/-- INTERNAL: a command that is written. Its acknowledgement keeps the flag right if it sets
the flag for a record only, and otherwise sets it for nothing.
SOURCE: InsteonModem.cpp:252-283 -/
theorem FlagOk.written (h : FlagOk m) (hwait : m.mWaitingForResponse = false)
    (cmd : IInsteonMessage) (rest : List IInsteonMessage) (now : ℤ) (reads : List ReadResult) :
    let w := (({ m with mInsteonCommandQueue := rest }).record (.wrote m.now cmd)).advance now reads
    let acked := w.onAcknowledged Insteon.messageHandler cmd
    FlagOk w ∧ (SetsForRecord cmd → FlagOk acked) ∧
      ((acked.mWaitingForResponse = true → RecordAwaited acked.trace) → SetsForRecord cmd) := by
  intro w acked
  have hwrote : RecordAwaited w.trace ↔ RecordAwaited m.trace :=
    recordAwaited_append m.trace (by simp)
  have hw : FlagOk w := h.trans hwrote.symm
  have hnowait : ¬ w.mWaitingForResponse = true := by simp [w, hwait]
  have hnone : ¬ RecordAwaited w.trace := fun hr => hnowait (hw.mpr hr)
  obtain ⟨hflag, hawaited⟩ := acknowledged_flag w cmd
  rw [or_iff_left hnowait] at hflag
  rw [or_iff_left hnone] at hawaited
  refine ⟨hw, fun hC => ?_, fun hP hdest hneed => ?_⟩
  · refine hflag.trans (Iff.trans ?_ hawaited.symm)
    exact ⟨fun hdest => hC hdest.1 hdest.2, IInsteonMessage.allLink_waits⟩
  · exact hawaited.mp (hP (hflag.mpr ⟨hdest, hneed⟩))

end Changes

/-- INTERNAL: **the step lemma: from a state where the flag is right, a step that meets
`SendsForRecord` keeps it right, and one that does not blocks the queue for nothing.** -/
theorem step_flag {s s' : InsteonLoop} {a : Act} (h : FlagOk s.modem)
    (hstep : step s a = some s') :
    (SendsForRecord s a → FlagOk s'.modem) ∧ (BlocksForRecord s' → SendsForRecord s a) := by
  cases step_effect hstep with
  | tick seconds => exact ⟨fun _ => h, fun _ => trivial⟩
  | network port => exact ⟨fun _ => h, fun _ => trivial⟩
  | rest path params unset =>
    exact ⟨fun _ => h.callback (s.modem.callback_effect path params unset), fun _ => trivial⟩
  | enqueue cmd hclass =>
    exact ⟨fun _ => h.trans (recordAwaited_push _ _).symm, fun _ => trivial⟩
  | checkDevice visited hpc =>
    refine ⟨fun _ => ?_, fun _ => trivial⟩
    unfold InsteonLoop.checkDevice
    split <;> exact h
  | disconnected devicesIdle hpc hconn =>
    exact ⟨fun _ => h, fun _ _ _ _ hr => by simp [hconn] at hr⟩
  | nothingSent devicesIdle hpc hnone =>
    refine ⟨fun _ => h, fun _ cmd rest hp _ hw hq => ?_⟩
    rw [hpc] at hp
    cases hp
    rw [hnone rfl hw] at hq
    cases hq
  | dropped cmd rest hpc hq hwrites =>
    refine ⟨fun _ => h, fun _ _ _ _ _ _ _ hack => ?_⟩
    exact absurd (hwrites.symm.trans hack.1) (by simp)
  | written cmd rest ack now reads hpc hconn hwait hq hwrites hreply =>
    obtain ⟨hw, hkeeps, hback⟩ := h.written hwait cmd rest now reads
    cases ack with
    | false =>
      refine ⟨fun _ => hw, fun _ cmd' rest' _ _ _ hq' hack => ?_⟩
      obtain ⟨rfl, rfl⟩ := List.cons.inj (hq.symm.trans hq')
      obtain ⟨-, now', reads', hreply'⟩ := hack
      rw [hreply] at hreply'
      cases hreply'
    | true =>
      refine ⟨fun hC => ?_, fun hP cmd' rest' _ _ _ hq' _ => ?_⟩
      · exact hkeeps (hC cmd rest hpc hconn hwait hq ⟨hwrites, now, reads, hreply⟩)
      · obtain ⟨rfl, rfl⟩ := List.cons.inj (hq.symm.trans hq')
        exact hback hP
  | nothingRead now reads hle => exact ⟨fun _ => h, fun _ => trivial⟩
  | message now reads hle buf =>
    have hadvance : FlagOk (s.modem.advance now reads) := h
    exact ⟨fun _ => hadvance.message buf, fun _ => trivial⟩
  | allLinkRecord now reads hle buf =>
    exact ⟨fun _ => flagOk_allLinkRecord _ buf, fun _ => trivial⟩

/-- **Along a run from a modem that waits for nothing, the queue is only ever
blocked for an ALL-Link record exactly when every command with destination 0 that the PLM
acknowledges is an ALL-Link record request.** SOURCE: InsteonModem.cpp:58-124, 252-283 -/
theorem blocksForRecord_iff (port : ISerialPort) (now : ℤ) (acts : List Act) :
    Throughout step BlocksForRecord (init port false now) acts ↔
      Along step SendsForRecord (init port false now) acts := by
  refine throughout_iff_along (I := fun s => FlagOk s.modem) (P := BlocksForRecord)
    (fun s (h : FlagOk s.modem) => h.1)
    (fun s a s' h hC hstep => (step_flag h hstep).1 hC)
    (fun s a s' h hstep hP => (step_flag h hstep).2 hP) ?_
  apply iff_of_false Bool.false_ne_true
  intro hr
  exact not_since_nil ((recordAwaited_push _ _).mp hr)

/-- `/insteon/ezflora/status` without a parameter, the modem's configuration message without
an echo, and the echo of the status command. -/
def statusWithoutId : List Act :=
  [.rest .ezflora_status (fun _ => []) ⟨⟨false, 0, 0, []⟩, Vector.replicate 14 0⟩,
    .network ⟨true, true, [⟨2, none⟩]⟩, .checkDevice, .send, .receive,
    .network ⟨true, true,
      [0x02, 0x62, 0, 0, 0, 0x0F, 0x44, 0x02, 0x06].map fun b => ⟨0, some b⟩⟩,
    .checkDevice, .send]

/-- The modem waits for a record that nobody asked for.
SOURCE: InsteonModem.cpp:277-280, InsteonModule.cpp:572-579 -/
theorem statusWithoutId_blocks :
    ¬ Throughout step BlocksForRecord (init ⟨true, true, []⟩ false 0) statusWithoutId := by
  intro h
  obtain ⟨s, hrun⟩ : ∃ s, run step (init ⟨true, true, []⟩ false 0) statusWithoutId = some s :=
    Option.isSome_iff_exists.mp (by decide)
  have hend : (run step (init ⟨true, true, []⟩ false 0) statusWithoutId).map
      (fun s => (s.modem.mWaitingForResponse, s.modem.trace)) = some (true,
        [.enqueued (imConfigurationMessage 0x40), .enqueued (standardMessage 0 0x44 0x02),
          .wrote 0 (imConfigurationMessage 0x40), .wrote 2 (standardMessage 0 0x44 0x02),
          .messageSent 2 (standardMessage 0 0x44 0x02)]) := by decide
  rw [hrun, Option.map_some, Option.some.injEq, Prod.mk.injEq] at hend
  have hawaited := h.last hrun hend.1
  rw [hend.2] at hawaited
  obtain ⟨_, e, hmem, t, cmd, rfl, hid⟩ := hawaited.exists_mem
  obtain ⟨-, rfl⟩ : t = 2 ∧ cmd = standardMessage 0 0x44 0x02 := by simpa using hmem
  exact absurd hid (by decide)

end Dhas.Analysis
