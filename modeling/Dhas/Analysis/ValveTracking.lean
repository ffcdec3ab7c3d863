import Dhas.Model.ValveStatus

/-!
# Status broadcasts of an EZFlora

The answer to an extended 0x40 message looks like the one to "turn on valve", so
`EZFloraDevice::processEvent` drops what comes while such a message is the last one sent. It
drops the status broadcasts with it, and neither a NAK nor a timeout makes it forget that
message.
-/

set_option autoImplicit false

namespace Dhas.Analysis

open Dhas.Library Dhas.Program Dhas.Model
open Dhas.Model.ValveStatus

/-- The status of the broadcast is stored, and the event for it is emitted. -/
structure Tracks (d : InsteonDevice) (buf : FrameBuffer) : Prop where
  stored : mStatusByte (d.onInsteonMessage buf).device = some buf.cmd2
  waterOff : ¬ ValveBit buf.cmd2 → ¬ ProgramBit buf.cmd2 →
    (d.onInsteonMessage buf).json.get "event" = some (jsonText "wateroff")
  waterOn : ValveBit buf.cmd2 →
    (d.onInsteonMessage buf).json.get "event" = some (jsonText "wateron") ∧
      (d.onInsteonMessage buf).json.get "valve" = some (jsonByte (buf.cmd2 &&& 7))

/-- No status broadcast is lost. -/
def TracksBroadcasts (s : ValveStatus) : Act → Prop
  | .receive buf => IsStatusBroadcast buf → Tracks s.device buf
  | _ => True

/-- The last message sent sets a program. -/
def SetsProgram (d : InsteonDevice) : Prop :=
  d.mLastDirectMessageSent.cmd1 = 0x40 ∧ d.mLastDirectMessageSent.extended = true

instance (d : InsteonDevice) : Decidable (SetsProgram d) := inferInstanceAs (Decidable (_ ∧ _))

/-- What a broadcast must meet: the last message sent does not set a program, or the
broadcast repeats the stored status and reports a running program without an open valve,
for which there is no event. -/
def Expected (s : ValveStatus) : Act → Prop
  | .receive buf => IsStatusBroadcast buf → SetsProgram s.device →
      mStatusByte s.device = some buf.cmd2 ∧ ¬ ValveBit buf.cmd2 ∧ ProgramBit buf.cmd2
  | _ => True

/-- The device is an EZFlora. -/
def IsEZFlora (s : ValveStatus) : Prop := ∃ b m, s.device.deviceClass = .ezFlora b m

/-- INTERNAL: an EZFlora stays one, whatever it receives. -/
theorem onInsteonMessage_isEZFlora {d : InsteonDevice} {b : UInt8} {m : ℤ}
    (hclass : d.deviceClass = .ezFlora b m) (buf : FrameBuffer) :
    ∃ b', (d.onInsteonMessage buf).device.deviceClass = .ezFlora b' m := by
  cases h : d.ignoresAck buf with
  | true =>
    rw [InsteonDevice.onInsteonMessage_ignored h]
    exact ⟨b, hclass⟩
  | false =>
    obtain ⟨status, hevent⟩ := InsteonDevice.ezFlora_storesStatus hclass buf
    have hprocess : d.processEvent buf = EZFloraDevice.processEvent d b m buf := by
      unfold InsteonDevice.processEvent
      rw [hclass]
    refine ⟨status, ?_⟩
    rw [InsteonDevice.onInsteonMessage_accepted h, InsteonDevice.afterEvent_deviceClass, hprocess,
      hevent]

/-- INTERNAL: no step changes the class of the device. -/
theorem step_isEZFlora {s s' : ValveStatus} {a : Act} (h : IsEZFlora s)
    (hstep : step s a = some s') : IsEZFlora s' := by
  obtain ⟨b, m, hclass⟩ := h
  cases a with
  | tick seconds =>
    obtain rfl := Option.some.inj hstep
    exact ⟨b, m, hclass⟩
  | messageSent msg =>
    obtain rfl := Option.some.inj hstep
    exact ⟨b, m, hclass⟩
  | isIdle =>
    obtain rfl := Option.some.inj hstep
    show ∃ b m, (s.device.isIdle s.now).2.deviceClass = .ezFlora b m
    unfold InsteonDevice.isIdle
    dsimp only
    split <;> exact ⟨b, m, hclass⟩
  | receive buf =>
    obtain rfl := Option.some.inj hstep
    obtain ⟨b', h'⟩ := onInsteonMessage_isEZFlora hclass buf
    exact ⟨b', m, h'⟩

/-! ## One broadcast -/

section Broadcast

variable {d : InsteonDevice} {b : UInt8} {m : ℤ} {buf : FrameBuffer}

/-- INTERNAL: a broadcast goes to `processEvent`, and what follows it is for ACKs and NAKs.
SOURCE: InsteonDevice.cpp:108-152 -/
theorem onInsteonMessage_broadcast (hclass : d.deviceClass = .ezFlora b m)
    (h : IsStatusBroadcast buf) :
    d.onInsteonMessage buf = EZFloraDevice.processEvent d b m buf := by
  have hign : d.ignoresAck buf = false := by simp [InsteonDevice.ignoresAck, h.1]
  have hafter (e : InsteonDevice) : e.afterEvent buf = e := by
    simp [InsteonDevice.afterEvent, h.1]
  rw [InsteonDevice.onInsteonMessage_accepted hign, hafter]
  unfold InsteonDevice.processEvent
  rw [hclass]

/-- INTERNAL: while the last message sent sets a program, a broadcast is dropped.
SOURCE: EZFloraDevice.cpp:105-114 -/
theorem onInsteonMessage_dropped (hclass : d.deviceClass = .ezFlora b m)
    (h : IsStatusBroadcast buf) (hset : SetsProgram d) :
    d.onInsteonMessage buf = ⟨d, [], []⟩ := by
  rw [onInsteonMessage_broadcast hclass h, EZFloraDevice.processEvent, if_pos (.inr h)]
  exact if_pos hset

/-- INTERNAL: otherwise its status is stored and its event is emitted.
SOURCE: EZFloraDevice.cpp:116-163 -/
theorem onInsteonMessage_stored (hclass : d.deviceClass = .ezFlora b m)
    (h : IsStatusBroadcast buf) (hset : ¬ SetsProgram d) :
    d.onInsteonMessage buf = ⟨{ d with deviceClass := .ezFlora buf.cmd2 m },
      EZFloraDevice.valveEvent d b m buf, []⟩ := by
  rw [onInsteonMessage_broadcast hclass h, EZFloraDevice.processEvent, if_pos (.inr h)]
  exact if_neg hset

/-- INTERNAL: the event for a broadcast that is not dropped. -/
theorem tracks_of_not_setsProgram (hclass : d.deviceClass = .ezFlora b m)
    (h : IsStatusBroadcast buf) (hset : ¬ SetsProgram d) : Tracks d buf := by
  have hres := onInsteonMessage_stored hclass h hset
  have hcmd : buf.cmd1 ≠ 0x44 := by rw [h.2]; decide
  constructor
  · rw [hres]
    rfl
  · intro hvalve hprogram
    rw [hres]
    simp only [ValveBit, ProgramBit, ne_eq, not_not] at hvalve hprogram
    simp [EZFloraDevice.valveEvent, hcmd, hvalve, hprogram, eventHeader, JSON.get]
  · intro hvalve
    rw [hres]
    unfold ValveBit at hvalve
    simp [EZFloraDevice.valveEvent, hcmd, hvalve, eventHeader, JSON.get]

/-- INTERNAL: a dropped broadcast is tracked only when it has nothing to tell. -/
theorem tracks_iff_of_setsProgram (hclass : d.deviceClass = .ezFlora b m)
    (h : IsStatusBroadcast buf) (hset : SetsProgram d) :
    Tracks d buf ↔
      mStatusByte d = some buf.cmd2 ∧ ¬ ValveBit buf.cmd2 ∧ ProgramBit buf.cmd2 := by
  have hres := onInsteonMessage_dropped hclass h hset
  constructor
  · intro ht
    have hstored := ht.stored
    have hoff := ht.waterOff
    have hon := ht.waterOn
    rw [hres] at hstored hoff hon
    have hvalve : ¬ ValveBit buf.cmd2 := fun hv => absurd (hon hv).1 (by simp [JSON.get])
    refine ⟨hstored, hvalve, ?_⟩
    by_contra hprogram
    exact absurd (hoff hvalve hprogram) (by simp [JSON.get])
  · rintro ⟨hstored, hvalve, hprogram⟩
    constructor
    · rw [hres]
      exact hstored
    · exact fun _ hp => absurd hprogram hp
    · exact fun hv => absurd hv hvalve

end Broadcast

/-- INTERNAL: one step tracks its broadcast exactly when it is expected. -/
theorem tracksBroadcasts_iff {s : ValveStatus} (a : Act) (h : IsEZFlora s) :
    TracksBroadcasts s a ↔ Expected s a := by
  obtain ⟨b, m, hclass⟩ := h
  cases a with
  | receive buf =>
    apply forall_congr'
    intro hbroadcast
    by_cases hset : SetsProgram s.device
    · rw [tracks_iff_of_setsProgram hclass hbroadcast hset]
      exact ⟨fun ht _ => ht, fun ht => ht hset⟩
    · exact iff_of_true (tracks_of_not_setsProgram hclass hbroadcast hset)
        (fun hs => absurd hs hset)
  | _ => exact Iff.rfl

/-- **In a run of an EZFlora no status broadcast is lost exactly when none comes
while the last message sent sets a program, unless it only repeats that a program is
running.** SOURCE: EZFloraDevice.cpp:98-166, InsteonDevice.cpp:22-58, 108-152 -/
theorem tracksBroadcasts_throughout_iff (name : CString) (id : InsteonID)
    (unset : InsteonDirectMessage) (now : ℤ) (acts : List Act) :
    Along step TracksBroadcasts (init name id unset now) acts ↔
      Along step Expected (init name id unset now) acts :=
  along_iff_along (I := IsEZFlora) (fun _ a _ h _ => tracksBroadcasts_iff a h)
    (fun _ _ _ h _ hstep => step_isEZFlora h hstep) ⟨0, 0, rfl⟩

/-- A program is set and the device refuses the message; then valve 3 is opened by hand. -/
def valveAfterNak : List Act :=
  [.messageSent ⟨true, 0x40, 0x01, List.replicate 14 0⟩,
    .receive [0, 0x50, 0, 0, 1, 0, 0, 0, 0b10101111, 0x40, 0xFB], .tick 5, .isIdle,
    .receive [0, 0x50, 0, 0, 1, 0, 0, 0, 0b10001111, 0x27, 0b10000011]]

/-- The open valve is not noticed. SOURCE: EZFloraDevice.cpp:105-114 -/
theorem valveAfterNak_lost :
    ¬ Along step TracksBroadcasts (init [] 1 ⟨false, 0, 0, []⟩ 0) valveAfterNak := by
  intro h
  have hlast := ((h _ rfl).2 _ rfl |>.2 _ rfl |>.2 _ rfl |>.2 _ rfl).1
  exact absurd (hlast ⟨by decide, by decide⟩).stored (by decide)

end Dhas.Analysis
