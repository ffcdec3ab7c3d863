import Dhas.Analysis.OneInFlight
import Dhas.Analysis.EchoFrames
import Dhas.Model.CommandRuns

/-!
# Commands that are dropped

`process` takes a command from the queue and frees it before it knows what became of it, and
nothing puts it back: not when the port does not take it, nor when the PLM answers 0x15,
answers something else or does not answer. `Balance` says where every command has gone that
was put on the queue: it was lost, acknowledged, or it still waits. A run loses nothing
exactly when the PLM acknowledges each command that is taken.
-/

set_option autoImplicit false

namespace Dhas.Analysis

open Dhas.Library Dhas.Program Dhas.Model
open Dhas.Program.InsteonModem Dhas.Model.CommandRuns

/-- The messages for which `onInsteonMessageSent` was called, in order. -/
def reported (trace : List InsteonEvent) : List IInsteonMessage :=
  trace.filterMap fun
    | .messageSent _ cmd => some cmd
    | _ => none

/-- Each command that was put on the queue was acknowledged by the PLM, and the handler was
told, or it is still on the queue. Equal commands are counted as often as they were put on
the queue. -/
structure NoneDropped {σ : Type} (s : CommandRuns σ) : Prop where
  kept : ∀ cmd, (enqueued s.modem.trace).count cmd ≤
    s.acknowledged.count cmd + s.modem.mInsteonCommandQueue.count cmd
  told : ∀ cmd, s.acknowledged.count cmd ≤ (reported s.modem.trace).count cmd

/-- A command that is taken from the queue is acknowledged. -/
def TakenIsAcked {σ : Type} (s : CommandRuns σ) : Act → Prop
  | .tick _ | .enqueue _ => True
  | .process readyToSend port =>
    ∀ cmd ∈ taken s.modem readyToSend port, PlmAnswersAck port cmd

/-! ## The answer of the PLM -/

/-- INTERNAL: the modem takes a command for acknowledged exactly when the byte that ends the
echo is 0x06 and comes in time. The induction is on the reads.
SOURCE: InsteonModem.cpp:196-238 -/
theorem waitForReply_ack {echoSize size : ℕ} {t now now' : ℤ} {reads reads' : List ReadResult}
    {ack : Bool} (hsize : size < echoSize)
    (h : waitForReply echoSize t now size reads = some (ack, now', reads')) :
    ack = true ↔ (reads.filterMap (·.byte))[echoSize - 1 - size]? = some 0x06 ∧
      now + secondsUntil (echoSize - size) reads - t < 2 := by
  induction reads generalizing now size with
  | nil => cases h
  | cons r rs ih =>
    obtain ⟨k, hk⟩ : ∃ k, echoSize - size = k + 1 := ⟨echoSize - size - 1, by omega⟩
    have hindex : echoSize - 1 - size = k := by omega
    simp only [waitForReply] at h
    rw [hk, hindex]
    simp only [secondsUntil]
    split at h
    case isTrue hlate =>
      cases h
      refine iff_of_false (by decide) ?_
      rintro ⟨-, htime⟩
      push_cast at htime
      omega
    case isFalse hlate =>
      split at h
      case h_1 hb =>
        rw [List.filterMap_cons_none hb, ih hsize h, hk, hindex, hb]
        simp only [Option.isSome_none, Bool.false_eq_true, if_false]
        push_cast
        rw [Int.add_assoc]
      case h_2 b hb =>
        rw [List.filterMap_cons_some hb, hb]
        simp only [Option.isSome_some, if_true]
        split at h
        case isTrue hlast =>
          obtain rfl : k = 0 := by omega
          cases h
          simp only [decide_eq_true_eq, List.getElem?_cons_zero, Option.some.injEq,
            secondsUntil, Nat.add_zero]
          exact ⟨fun hack => ⟨hack, by omega⟩, fun hack => hack.1⟩
        case isFalse hlast =>
          obtain ⟨j, rfl⟩ : ∃ j, k = j + 1 := ⟨k - 1, by omega⟩
          have hnext : echoSize - (size + 1) = j + 1 := by omega
          have hnextIndex : echoSize - 1 - (size + 1) = j := by omega
          rw [ih (by omega) h, hnext, hnextIndex, List.getElem?_cons_succ]
          push_cast
          rw [Int.add_assoc]

/-- INTERNAL: and that is what the PLM answered. -/
theorem waitForReply_answer {σ : Type} {m : InsteonModem σ} {cmd : IInsteonMessage} {ack : Bool}
    {now : ℤ} {reads : List ReadResult} (hwrites : m.mpSerialPort.writes = true)
    (h : waitForReply cmd.mEchoSize m.now m.now 0 m.mpSerialPort.reads =
      some (ack, now, reads)) :
    ack = true ↔ PlmAnswersAck m.mpSerialPort cmd := by
  have hpos : 0 < cmd.mEchoSize := by
    rw [cmd.echoSize_eq]
    omega
  rw [waitForReply_ack hpos h, PlmAnswersAck, ISerialPort.bytes, Nat.sub_zero, Nat.sub_zero]
  constructor
  · rintro ⟨hbyte, htime⟩
    exact ⟨hwrites, hbyte, by omega⟩
  · rintro ⟨-, hbyte, htime⟩
    exact ⟨hbyte, by omega⟩

/-! ## Where the commands are -/

/-- Every command that was put on the queue is one of the lost ones, was acknowledged and
reported, or is still on the queue. -/
structure Balance {σ : Type} (m : InsteonModem σ) (lost acked : List IInsteonMessage) :
    Prop where
  account : (enqueued m.trace).Perm (lost ++ acked ++ m.mInsteonCommandQueue)
  told : reported m.trace = acked

section Balance

variable {σ : Type} {H : IInsteonMessageHandler σ} {m : InsteonModem σ}
  {lost acked : List IInsteonMessage}

/-- INTERNAL: what was queued in two traces, one after the other. -/
@[simp] theorem enqueued_append (trace trace' : List InsteonEvent) :
    enqueued (trace ++ trace') = enqueued trace ++ enqueued trace' := List.filterMap_append

/-- INTERNAL: what was reported in two traces, one after the other. -/
@[simp] theorem reported_append (trace trace' : List InsteonEvent) :
    reported (trace ++ trace') = reported trace ++ reported trace' := List.filterMap_append

/-- INTERNAL: what is recorded as queued was queued. -/
@[simp] theorem enqueued_map (cmds : List IInsteonMessage) :
    enqueued (cmds.map .enqueued) = cmds := by
  simp [enqueued, List.filterMap_map]

/-- INTERNAL: what is recorded as queued is no report. -/
@[simp] theorem reported_map (cmds : List IInsteonMessage) :
    reported (cmds.map .enqueued) = [] := by
  simp [reported, List.filterMap_map]

/-- INTERNAL: commands that are queued are neither lost nor acknowledged yet. -/
theorem Balance.push (h : Balance m lost acked) (cmds : List IInsteonMessage) :
    Balance (m.push cmds) lost acked where
  account := by
    rw [push_trace, enqueued_append, enqueued_map, push_queue, ← List.append_assoc]
    exact h.account.append_right cmds
  told := by
    rw [push_trace, reported_append, reported_map, List.append_nil]
    exact h.told

/-- INTERNAL: an event that is about no command of the queue. -/
theorem Balance.record (h : Balance m lost acked) {e : InsteonEvent}
    (henqueued : enqueued [e] = []) (hreported : reported [e] = []) :
    Balance (m.record e) lost acked where
  account := by
    rw [record_trace, enqueued_append, henqueued, List.append_nil]
    exact h.account
  told := by
    rw [record_trace, reported_append, hreported, List.append_nil]
    exact h.told

/-- INTERNAL: the second half of `process` takes no command from the queue.
SOURCE: InsteonModem.cpp:88-194 -/
theorem Balance.readFront (h : Balance m lost acked) {m' : InsteonModem σ} {idle : Bool}
    (hread : m.readFront H = some (m', idle)) : Balance m' lost acked := by
  obtain ⟨now, reads, -, hm'⟩ := readFront_cases hread
  have hadvance : Balance (m.advance now reads) lost acked := ⟨h.account, h.told⟩
  rcases hm' with rfl | ⟨buf, rfl | rfl⟩
  · exact hadvance
  · have hrecord := hadvance.record
      (e := .message buf (H.onInsteonMessage now buf m.handler).processed) rfl rfl
    have hstate : Balance { (m.advance now reads).record (.message buf
          (H.onInsteonMessage now buf m.handler).processed) with
        handler := (H.onInsteonMessage now buf m.handler).state } lost acked :=
      ⟨hrecord.account, hrecord.told⟩
    exact hstate.push _
  · have hrecord := hadvance.record (e := .allLinkRecord buf) rfl rfl
    have hstate : Balance { (m.advance now reads).record (.allLinkRecord buf) with
        mWaitingForResponse := false
        handler := (H.onInsteonAllLinkRecordResponse now buf m.handler).state } lost acked :=
      ⟨hrecord.account, hrecord.told⟩
    exact (hstate.push _).push _

/-- INTERNAL: a command that is taken and not acknowledged is lost. -/
theorem Balance.lose (h : Balance m lost acked) {cmd : IInsteonMessage}
    {rest : List IInsteonMessage} (hq : m.mInsteonCommandQueue = cmd :: rest) :
    Balance { m with mInsteonCommandQueue := rest } (lost ++ [cmd]) acked where
  account := by
    have haccount := h.account
    rw [hq] at haccount
    refine haccount.trans ?_
    rw [List.append_assoc, List.append_assoc, List.append_assoc]
    exact List.perm_middle.append_left lost
  told := h.told

/-- INTERNAL: a command that is acknowledged. SOURCE: InsteonModem.cpp:252-283 -/
theorem Balance.acknowledge {cmd : IInsteonMessage} {rest : List IInsteonMessage}
    (h : Balance { m with mInsteonCommandQueue := cmd :: rest } lost acked)
    (hq : m.mInsteonCommandQueue = rest) :
    Balance (m.onAcknowledged H cmd) lost (acked ++ [cmd]) where
  account := by
    have haccount := h.account
    rw [onAcknowledged_trace, onAcknowledged_queue, hq]
    have hmove : (enqueued m.trace).Perm (lost ++ (acked ++ [cmd]) ++ rest) := by
      simpa using haccount
    rw [← List.append_assoc, List.append_cons, enqueued_append, enqueued_map,
      enqueued_append]
    simpa [enqueued] using hmove.append_right _
  told := by
    rw [onAcknowledged_trace, List.append_cons, reported_append, reported_map,
      List.append_nil, reported_append]
    exact congrArg (· ++ [cmd]) h.told

/-- INTERNAL: the first half of `process`: nothing is taken, or the front command, which is
acknowledged or lost. SOURCE: InsteonModem.cpp:66-86, 252-283 -/
theorem Balance.sendFront (h : Balance m lost acked) {readyToSend : Bool} {m' : InsteonModem σ}
    (hconn : m.mpSerialPort.reconnects = true) (hsend : m.sendFront H readyToSend = some m') :
    ∃ dropped, Balance m' (lost ++ dropped)
        (acked ++ acksNow m readyToSend m.mpSerialPort) ∧
      (dropped = [] ↔ ∀ cmd ∈ taken m readyToSend m.mpSerialPort,
        PlmAnswersAck m.mpSerialPort cmd) := by
  rcases sendFront_cases hsend with ⟨rfl, hnone⟩ | ⟨cmd, rest, hready, hwait, hq, hcase⟩
  · have htaken : taken m' readyToSend m'.mpSerialPort = none := by
      rw [taken, ite_eq_right_iff]
      intro hcond
      simp only [Bool.and_eq_true, Bool.not_eq_true'] at hcond
      rw [hnone hcond.1.2 hcond.2]
      rfl
    refine ⟨[], ?_, ?_⟩
    · rw [acksNow, htaken, List.append_nil]
      simpa using h
    · rw [htaken]
      simp
  · have htaken : taken m readyToSend m.mpSerialPort = some cmd := by
      simp [taken, hconn, hready, hwait, hq]
    have hlose : ¬ PlmAnswersAck m.mpSerialPort cmd →
        acksNow m readyToSend m.mpSerialPort = [] ∧
          ([cmd] = [] ↔ ∀ c ∈ taken m readyToSend m.mpSerialPort,
            PlmAnswersAck m.mpSerialPort c) := by
      intro hnot
      rw [acksNow, htaken]
      simp [hnot]
    rcases hcase with ⟨hwrites, rfl⟩ | ⟨hwrites, ack, now, reads, hreply, hm'⟩
    · have hnot : ¬ PlmAnswersAck m.mpSerialPort cmd := by simp [PlmAnswersAck, hwrites]
      refine ⟨[cmd], ?_, (hlose hnot).2⟩
      rw [(hlose hnot).1, List.append_nil]
      exact h.lose hq
    · have hanswer := waitForReply_answer hwrites hreply
      cases ack with
      | false =>
        have hnot : ¬ PlmAnswersAck m.mpSerialPort cmd := by simpa using hanswer
        refine ⟨[cmd], ?_, (hlose hnot).2⟩
        rw [(hlose hnot).1, List.append_nil, hm']
        have hrecord := (h.lose hq).record (e := .wrote m.now cmd) rfl rfl
        exact ⟨hrecord.account, hrecord.told⟩
      | true =>
        have hack : PlmAnswersAck m.mpSerialPort cmd := hanswer.mp rfl
        have hacks : acksNow m readyToSend m.mpSerialPort = [cmd] := by
          rw [acksNow, htaken]
          simp [hack]
        refine ⟨[], ?_, ?_⟩
        · rw [hacks, List.append_nil, hm']
          have hrecord := h.record (e := .wrote m.now cmd) rfl rfl
          refine Balance.acknowledge ⟨?_, hrecord.told⟩ (Eq.refl rest)
          rw [← hq]
          exact hrecord.account
        · rw [htaken]
          simp [hack]

end Balance

/-! ## Runs -/

/-- INTERNAL: with the books balanced, none is dropped exactly when none is lost. -/
theorem Balance.noneDropped_iff {σ : Type} {s : CommandRuns σ} {lost : List IInsteonMessage}
    (h : Balance s.modem lost s.acknowledged) : NoneDropped s ↔ lost = [] := by
  have hcount : ∀ cmd, (enqueued s.modem.trace).count cmd = lost.count cmd +
      s.acknowledged.count cmd + s.modem.mInsteonCommandQueue.count cmd := by
    intro cmd
    rw [h.account.count_eq, List.count_append, List.count_append]
  constructor
  · intro hnone
    apply List.eq_nil_iff_forall_not_mem.mpr
    intro cmd hmem
    have hpos := List.count_pos_iff.mpr hmem
    have hkept := hnone.kept cmd
    have := hcount cmd
    omega
  · rintro rfl
    refine ⟨fun cmd => ?_, fun cmd => ?_⟩
    · have := hcount cmd
      rw [List.count_nil] at this
      omega
    · rw [h.told]

/-- INTERNAL: **the step lemma: a step loses a command exactly when it takes one that is not
acknowledged.** SOURCE: InsteonModem.cpp:58-103, 196-283 -/
theorem Balance.step {σ : Type} {H : IInsteonMessageHandler σ} {s s' : CommandRuns σ} {a : Act}
    {lost : List IInsteonMessage} (h : Balance s.modem lost s.acknowledged)
    (hstep : step H s a = some s') :
    ∃ dropped, Balance s'.modem (lost ++ dropped) s'.acknowledged ∧
      (dropped = [] ↔ TakenIsAcked s a) := by
  cases a with
  | tick seconds =>
    obtain rfl := Option.some.inj hstep
    refine ⟨[], ?_, iff_of_true rfl trivial⟩
    rw [List.append_nil]
    exact ⟨h.account, h.told⟩
  | enqueue cmd =>
    obtain rfl := Option.some.inj hstep
    refine ⟨[], ?_, iff_of_true rfl trivial⟩
    rw [List.append_nil]
    exact h.push [cmd]
  | process readyToSend port =>
    obtain ⟨⟨m', idle⟩, hprocess, rfl⟩ := Option.map_eq_some_iff.mp hstep
    have hport : Balance { s.modem with mpSerialPort := port } lost s.acknowledged :=
      ⟨h.account, h.told⟩
    unfold InsteonModem.process at hprocess
    split at hprocess
    case isTrue hconn =>
      obtain ⟨rfl, -⟩ := Prod.mk.inj (Option.some.inj hprocess)
      have htaken : taken s.modem readyToSend port = none := by
        have hdown : port.reconnects = false := hconn
        simp [taken, hdown]
      refine ⟨[], ?_, ?_⟩
      · show Balance _ _ (s.acknowledged ++ acksNow s.modem readyToSend port)
        rw [acksNow, htaken, List.append_nil]
        simpa using hport
      · simp [TakenIsAcked, htaken]
    case isFalse hconn =>
      obtain ⟨m₁, hsend, hread⟩ := Option.bind_eq_some_iff.mp hprocess
      obtain ⟨dropped, hm₁, hiff⟩ := hport.sendFront (by simpa using hconn) hsend
      exact ⟨dropped, hm₁.readFront hread, hiff⟩

/-- INTERNAL: at first nothing was queued. -/
theorem balance_init {σ : Type} (waiting : Bool) (handler : σ) (now : ℤ) :
    Balance (init waiting handler now).modem [] (init waiting handler now).acknowledged :=
  ⟨List.Perm.refl _, rfl⟩

/-- **A run drops no command exactly when every command that is taken from the queue is
written and answered with 0x06 within two seconds.** SOURCE: InsteonModem.cpp:58-103, 196-283 -/
theorem noneDropped_iff_acked {σ : Type} (H : IInsteonMessageHandler σ) (waiting : Bool)
    (handler : σ) (now : ℤ) (acts : List Act) :
    Throughout (step H) NoneDropped (init waiting handler now) acts ↔
      Along (step H) TakenIsAcked (init waiting handler now) acts := by
  refine throughout_iff_along (I := fun s => Balance s.modem [] s.acknowledged) ?_ ?_ ?_
    (balance_init waiting handler now)
  · intro s hs
    exact hs.noneDropped_iff.mpr rfl
  · intro s a s' hs hacked hstep
    obtain ⟨dropped, hbalance, hiff⟩ := hs.step hstep
    obtain rfl := hiff.mpr hacked
    exact hbalance
  · intro s a s' hs hstep hnone
    obtain ⟨dropped, hbalance, hiff⟩ := hs.step hstep
    exact hiff.mp (hbalance.noneDropped_iff.mp hnone)

/-- The PLM is busy and answers the configuration message with 0x15. -/
def busyPlm : List Act :=
  [.process true ⟨true, true, [0x02, 0x6B, 0x40, 0x15].map fun b => ⟨0, some b⟩⟩]

/-- The message is neither acknowledged nor on the queue any more.
SOURCE: InsteonModem.cpp:272-277 -/
theorem busyPlm_drops :
    ¬ Throughout (step silentHandler) NoneDropped (init false () 0) busyPlm := by
  intro h
  obtain ⟨s, hrun⟩ : ∃ s, run (step silentHandler) (init false () 0) busyPlm = some s :=
    Option.isSome_iff_exists.mp (by decide)
  have hend : (run (step silentHandler) (init false () 0) busyPlm).map
      (fun s => (enqueued s.modem.trace, s.acknowledged, s.modem.mInsteonCommandQueue)) =
        some ([imConfigurationMessage 0x40], [], []) := by decide
  rw [hrun, Option.map_some, Option.some.injEq, Prod.mk.injEq, Prod.mk.injEq] at hend
  have hkept := (h.last hrun).kept (imConfigurationMessage 0x40)
  rw [hend.1, hend.2.1, hend.2.2] at hkept
  exact absurd hkept (by decide)

end Dhas.Analysis
