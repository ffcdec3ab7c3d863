import Dhas.Model.SwitchLoad

/-!
# The level that a switch is taken to have

`turnOnOrOff` sends the wanted level along, but `processEvent` stores 255 for every ACK of an
"on" command. So the stored level is that of the switch, except after an "on" command with
another level than 255, and until the next command.
-/

set_option autoImplicit false

namespace Dhas.Analysis.SwitchLevel

open Dhas.Library Dhas.Program Dhas.Model
open Dhas.Model.SwitchLoad

/-- After the ACK the stored level is that of the switch. -/
def Follows (s : SwitchLoad) (a : Act) : Prop :=
  ∀ s', step s a = some s' → SwitchDevice.getLevel s'.device = s'.physical

/-- The command does not turn the switch on at another level than 255. -/
def FullOn : Command → Prop
  | .turnOnOrOff true level _ => level = 255
  | _ => True

instance : DecidablePred FullOn
  | .turnOnOrOff true level _ => inferInstanceAs (Decidable (level = 255))
  | .turnOnOrOff false _ _ => isTrue trivial
  | .toggle _ => isTrue trivial
  | .query => isTrue trivial

/-- The level that an ACK makes a switch store. -/
def ackedLevel (msg : InsteonDirectMessage) (buf : FrameBuffer) : UInt8 :=
  if msg.cmd1 = 0x19 then buf.cmd2
  else if msg.cmd1 = 0x11 ∨ msg.cmd1 = 0x12 then 255
  else 0

/-- INTERNAL: the ACK of a command is taken for the answer to it.
SOURCE: InsteonDevice.cpp:115-135, SwitchDevice.cpp:70-77 -/
theorem ackedCommand_answer (d : InsteonDevice) (t : ℤ) {msg : InsteonDirectMessage}
    {level : UInt8} {buf : FrameBuffer} (hack : Answers msg level buf) :
    (d.setLastDirectMessageSent t msg).ignoresAck buf = false ∧
      ackedCommand (d.setLastDirectMessageSent t msg) buf = msg.cmd1 := by
  obtain ⟨hstatus, hecho⟩ := hack
  by_cases hquery : msg.cmd1 = 0x19
  · constructor
    · rw [InsteonDevice.ignoresAck_eq_false_iff hstatus]
      exact fun _ => hquery
    · simp [ackedCommand, InsteonDevice.setLastDirectMessageSent, hquery]
  · rw [if_neg hquery] at hecho
    constructor
    · rw [InsteonDevice.ignoresAck_eq_false_iff hstatus]
      exact fun hne => absurd hecho.1.symm hne
    · show (if msg.cmd1 = 0x19 then 0x19 else buf.cmd1) = msg.cmd1
      rw [if_neg hquery, hecho.1]

/-- INTERNAL: the device behind an ACK that it accepts.
SOURCE: InsteonDevice.cpp:137-144 -/
theorem onInsteonMessage_device {d : InsteonDevice} {buf : FrameBuffer}
    (hclass : d.deviceClass = .switchDevice) (haccepted : d.ignoresAck buf = false) :
    (d.onInsteonMessage buf).device.mDeviceParameter =
        (SwitchDevice.processEvent d buf).device.mDeviceParameter ∧
      (d.onInsteonMessage buf).device.deviceClass =
        (SwitchDevice.processEvent d buf).device.deviceClass := by
  have hevent : d.processEvent buf = SwitchDevice.processEvent d buf := by
    unfold InsteonDevice.processEvent
    rw [hclass]
  rw [InsteonDevice.onInsteonMessage_accepted haccepted, ← hevent]
  exact ⟨InsteonDevice.afterEvent_mDeviceParameter _ buf,
    InsteonDevice.afterEvent_deviceClass _ buf⟩

/-- INTERNAL: the ACK of a command makes a switch store the level of the command.
SOURCE: InsteonDevice.cpp:108-152, SwitchDevice.cpp:61-119 -/
theorem onInsteonMessage_answer {d : InsteonDevice} (hclass : d.deviceClass = .switchDevice)
    (t : ℤ) {msg : InsteonDirectMessage} {level : UInt8} {buf : FrameBuffer}
    (hmsg : msg.cmd1 = 0x11 ∨ msg.cmd1 = 0x12 ∨ msg.cmd1 = 0x14 ∨ msg.cmd1 = 0x19)
    (hack : Answers msg level buf) :
    SwitchDevice.getLevel ((d.setLastDirectMessageSent t msg).onInsteonMessage buf).device =
        ackedLevel msg buf ∧
      ((d.setLastDirectMessageSent t msg).onInsteonMessage buf).device.deviceClass =
        .switchDevice := by
  obtain ⟨haccepted, hcommand⟩ := ackedCommand_answer d t hack
  have hclass' : (d.setLastDirectMessageSent t msg).deviceClass = .switchDevice := hclass
  obtain ⟨hlevel, hkind⟩ := onInsteonMessage_device hclass' haccepted
  unfold SwitchDevice.getLevel
  rw [hlevel, hkind]
  unfold SwitchDevice.processEvent
  rw [if_pos hack.1]
  dsimp only
  rw [hcommand]
  unfold ackedLevel
  rcases hmsg with h | h | h | h
  · rw [h, if_neg (by decide), if_pos (by decide), if_neg (by decide), if_pos (by decide)]
    exact ⟨rfl, hclass⟩
  · rw [h, if_neg (by decide), if_pos (by decide), if_neg (by decide), if_pos (by decide)]
    exact ⟨rfl, hclass⟩
  · rw [h, if_neg (by decide), if_neg (by decide), if_pos (by decide), if_neg (by decide),
      if_neg (by decide)]
    exact ⟨rfl, hclass⟩
  · rw [h, if_pos rfl, if_pos rfl]
    unfold statusEvent
    dsimp only
    split
    · exact ⟨rfl, hclass⟩
    · exact ⟨rfl, hclass⟩

/-- INTERNAL: a switch that obeys has the level that its ACK makes the device store, except after
an "on" command at another level than 255. -/
theorem ackedLevel_eq_obey_iff {msg : InsteonDirectMessage} {physical : UInt8} {buf : FrameBuffer}
    (hmsg : msg.cmd1 = 0x11 ∨ msg.cmd1 = 0x12 ∨ msg.cmd1 = 0x14 ∨ msg.cmd1 = 0x19)
    (hack : Answers msg (obey msg physical) buf) :
    ackedLevel msg buf = obey msg physical ↔
      (msg.cmd1 = 0x11 ∨ msg.cmd1 = 0x12 → msg.cmd2 = 255) := by
  have hecho := hack.2
  unfold ackedLevel
  unfold obey at hecho ⊢
  rcases hmsg with h | h | h | h
  · simp [h, eq_comm]
  · simp [h, eq_comm]
  · simp [h]
  · simp only [h, if_true] at hecho
    simpa [h] using hecho

/-- INTERNAL: the message that a command writes to a switch: on, off, or a status request.
SOURCE: SwitchDevice.cpp:25-54 -/
theorem messages_cases {d : InsteonDevice} (hclass : d.deviceClass = .switchDevice)
    (c : Command) :
    ∃ cmd1 cmd2, messages d c = [standardMessage d.mID cmd1 cmd2] ∧
      (cmd1 = 0x11 ∨ cmd1 = 0x12 ∨ cmd1 = 0x14 ∨ cmd1 = 0x19) ∧
      ((cmd1 = 0x11 ∨ cmd1 = 0x12 → cmd2 = 255) ↔ FullOn c) := by
  cases c with
  | turnOnOrOff on level subdev =>
    have hswitch : messages d (.turnOnOrOff on level subdev) =
        SwitchDevice.turnOnOrOff d on level := by
      simp only [messages, InsteonDevice.turnOnOrOff, hclass]
    rw [hswitch]
    cases on with
    | false => exact ⟨0x14, 0, rfl, by decide, iff_of_true (by decide) trivial⟩
    | true =>
      by_cases hlevel : level = 255
      · subst hlevel
        exact ⟨0x12, 255, rfl, by decide, iff_of_true (fun _ => rfl) rfl⟩
      · refine ⟨0x11, level, ?_, by decide, iff_of_false (fun h => hlevel (h (.inl rfl))) hlevel⟩
        simp [SwitchDevice.turnOnOrOff, hlevel]
  | toggle subdev =>
    have hswitch : messages d (.toggle subdev) = SwitchDevice.toggle d := by
      simp only [messages, InsteonDevice.toggle, hclass]
    rw [hswitch]
    unfold SwitchDevice.toggle
    by_cases hoff : d.mDeviceParameter = 0
    · rw [if_pos hoff]
      exact ⟨0x11, 255, rfl, by decide, iff_of_true (fun _ => rfl) trivial⟩
    · rw [if_neg hoff]
      exact ⟨0x14, 0, rfl, by decide, iff_of_true (by decide) trivial⟩
  | query => exact ⟨0x19, 0, rfl, by decide, iff_of_true (by decide) trivial⟩

/-- INTERNAL: what a device remembers of a standard message.
SOURCE: InsteonModule.cpp:645-667 -/
theorem directMessage_standardMessage (id : InsteonID) (cmd1 cmd2 : UInt8) :
    Insteon.directMessage (standardMessage id cmd1 cmd2) = ⟨false, cmd1, cmd2, []⟩ := by
  unfold Insteon.directMessage
  rw [standardMessage_isExtended]
  rfl

/-- INTERNAL: one command, its ACK and what they leave.
SOURCE: SwitchDevice.cpp:25-119, InsteonDevice.cpp:108-152 -/
theorem step_level {s s' : SwitchLoad} {a : Act} (hclass : s.device.deviceClass = .switchDevice)
    (h : step s a = some s') :
    s'.device.deviceClass = .switchDevice ∧
      (SwitchDevice.getLevel s'.device = s'.physical ↔ FullOn a.command) := by
  obtain ⟨cmd1, cmd2, hmessages, hknown, hfull⟩ := messages_cases hclass a.command
  have hmsg := directMessage_standardMessage s.device.mID cmd1 cmd2
  unfold step at h
  rw [hmessages] at h
  dsimp only at h
  rw [hmsg] at h
  by_cases hack : Answers ⟨false, cmd1, cmd2, []⟩ (obey ⟨false, cmd1, cmd2, []⟩ s.physical) a.ack
  · rw [if_pos hack] at h
    cases h
    obtain ⟨hlevel, hkind⟩ := onInsteonMessage_answer hclass a.t hknown hack
    refine ⟨hkind, ?_⟩
    rw [hlevel, ← hfull]
    exact ackedLevel_eq_obey_iff hknown hack
  · rw [if_neg hack] at h
    cases h

/-- **The stored level follows the switch, exactly without dimming.** For every switch at any
level and every sequence of commands, each acknowledged before the next: the stored level is
that of the switch behind every ACK, if and only if no command of the run turns it on at
another level than 255.
SOURCE: SwitchDevice.cpp:25-119, InsteonDevice.cpp:108-152 -/
theorem level_follows_iff (s : SwitchLoad) (hclass : s.device.deviceClass = .switchDevice)
    (acts : List Act) :
    Along step Follows s acts ↔ Along step (fun _ a => FullOn a.command) s acts := by
  refine along_iff_along (I := fun s => s.device.deviceClass = .switchDevice) ?_ ?_ hclass
  · intro s a s' hs h
    obtain ⟨-, hlevel⟩ := step_level hs h
    constructor
    · intro hfollows
      exact hlevel.mp (hfollows s' h)
    · intro hfull t ht
      rw [h] at ht
      cases ht
      exact hlevel.mpr hfull
  · intro s a s' hs _ h
    exact (step_level hs h).1

/-- A new switch, whose load is on at level 7. -/
def newSwitch : SwitchLoad := ⟨(SwitchDevice.new [] 1 ⟨false, 0, 0, []⟩).1, 7⟩

/-- An ACK frame with the given command bytes. -/
def answer (cmd1 cmd2 : UInt8) : FrameBuffer := [0, 0x50, 0, 0, 1, 0, 0, 0, 0x2F, cmd1, cmd2]

/-- A status request and a toggle. -/
theorem level_follows_toggle :
    Along step Follows newSwitch
      [⟨.query, 0, answer 0x2A 7⟩, ⟨.toggle 0, 1, answer 0x14 0⟩] :=
  (level_follows_iff newSwitch rfl _).mpr (by decide)

/-- The switch is turned on at level 128. -/
def dimmed : Act := ⟨.turnOnOrOff true 128 0, 0, answer 0x11 128⟩

/-- Its level is 128, and 255 is stored. -/
theorem dimmed_not_followed :
    (step newSwitch dimmed).map (fun s => (SwitchDevice.getLevel s.device, s.physical)) =
        some (255, 128) ∧
      ¬ Along step Follows newSwitch [dimmed] := by
  have hlevels : (step newSwitch dimmed).map (fun s =>
      (SwitchDevice.getLevel s.device, s.physical)) = some (255, 128) := by decide
  refine ⟨hlevels, fun h => ?_⟩
  obtain ⟨s, hstep, hs⟩ := Option.map_eq_some_iff.mp hlevels
  obtain ⟨hlevel, hphysical⟩ := Prod.mk.inj hs
  have hfollows := (h s hstep).1 s hstep
  rw [hlevel, hphysical] at hfollows
  exact absurd hfollows (by decide)

end Dhas.Analysis.SwitchLevel
