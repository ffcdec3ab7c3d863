import Dhas.Model.DeviceFrames

/-!
# Events and the listing

`processEvent` stores a level and adds a value to its event; the listing makes a level of what
is stored. `Effect` says what one frame does to both: nothing, a value that goes with what is
stored, or the first answer to a status request, which is not notified.

A switch lists what its events say. An IOLinc lists its state in the sense of the commands: a
garage door that is open is "on", and then its sensor is off. So its listed level is 255
exactly when its events say 0.
-/

set_option autoImplicit false

namespace Dhas.Analysis.ListedLevel

open Dhas.Library Dhas.Program Dhas.Model
open Dhas.Model.DeviceFrames

/-- What is stored with a value. -/
def storedWith (deviceClass : InsteonDeviceClass) (v : UInt8) : UInt8 :=
  if deviceClass = .ioLinc then (if v = 0 then 0 else 255) else v

/-- What a frame does to the stored level and to the event. -/
inductive Effect (d : InsteonDevice) (buf : FrameBuffer) (r : EventResult) : Prop where
  | quiet (param : r.device.mDeviceParameter = d.mDeviceParameter)
      (value : r.json.get "value" = none)
  | notified (v : UInt8) (param : r.device.mDeviceParameter = storedWith d.deviceClass v)
      (value : r.json.get "value" = some (jsonByte v))
  | first (status : IsFirstStatus d buf) (value : r.json.get "value" = none)

/-- The device lists a level. -/
def HasLevel (d : InsteonDevice) : Prop :=
  d.deviceClass = .switchDevice ∨ d.deviceClass = .ioLinc

/-- INTERNAL: a full value is stored by both devices as it is. -/
theorem storedWith_full (deviceClass : InsteonDeviceClass) :
    storedWith deviceClass 255 = 255 ∧ storedWith deviceClass 0 = 0 := by
  unfold storedWith
  split <;> exact ⟨rfl, rfl⟩

/-- INTERNAL: a group cleanup message.
SOURCE: SwitchDevice.cpp:120-139, IOLinc.cpp:93-110 -/
theorem groupCleanupEvent_effect (d : InsteonDevice) (type : String) (buf : FrameBuffer) :
    Effect d buf (groupCleanupEvent d type buf) := by
  obtain ⟨hon, hoff⟩ := storedWith_full d.deviceClass
  unfold groupCleanupEvent
  dsimp only
  split
  · exact .notified 255 hon.symm rfl
  · split
    · exact .notified 0 hoff.symm rfl
    · exact .quiet rfl rfl

/-- INTERNAL: the answer to a status request.
SOURCE: SwitchDevice.cpp:78-98, IOLinc.cpp:72-91 -/
theorem statusEvent_effect {d : InsteonDevice} {buf : FrameBuffer} (hstatus : buf.status = 0b001)
    (hcommand : ackedCommand d buf = 0x19) (type : InsteonDeviceType) {level : UInt8}
    (hlevel : level = storedWith d.deviceClass buf.cmd2) :
    Effect d buf (statusEvent d type level buf) := by
  unfold statusEvent
  dsimp only
  split
  · exact .notified buf.cmd2 hlevel rfl
  · rename_i hinit
    have hinit' : d.mInitialized = false := by simpa [InsteonDevice.setDeviceParameter] using hinit
    exact .first ⟨hstatus, hcommand, hinit'⟩ rfl

/-- INTERNAL: an event of a switch.
SOURCE: SwitchDevice.cpp:61-155 -/
theorem switchDevice_effect {d : InsteonDevice} (hclass : d.deviceClass = .switchDevice)
    (buf : FrameBuffer) : Effect d buf (SwitchDevice.processEvent d buf) := by
  obtain ⟨hon, hoff⟩ := storedWith_full d.deviceClass
  unfold SwitchDevice.processEvent
  dsimp only
  split
  · rename_i hstatus
    split
    · rename_i hcommand
      apply statusEvent_effect hstatus hcommand
      rw [hclass]
      rfl
    · split
      · exact .notified 255 hon.symm rfl
      · split
        · exact .notified 0 hoff.symm rfl
        · exact .quiet rfl rfl
  · split
    · exact groupCleanupEvent_effect d _ buf
    · split
      · split <;> exact .quiet rfl rfl
      · exact .quiet rfl rfl

/-- INTERNAL: an event of an IOLinc.
SOURCE: IOLinc.cpp:55-112 -/
theorem ioLinc_effect {d : InsteonDevice} (hclass : d.deviceClass = .ioLinc)
    (buf : FrameBuffer) : Effect d buf (IOLinc.processEvent d buf) := by
  unfold IOLinc.processEvent
  split
  · rename_i hstatus
    split
    · rename_i hcommand
      apply statusEvent_effect hstatus hcommand
      rw [hclass]
      rfl
    · exact .quiet rfl rfl
  · split
    · exact groupCleanupEvent_effect d _ buf
    · exact .quiet rfl rfl

/-- INTERNAL: a frame.
SOURCE: InsteonDevice.cpp:108-152 -/
theorem onInsteonMessage_effect {d : InsteonDevice} (h : HasLevel d) (buf : FrameBuffer) :
    Effect d buf (d.onInsteonMessage buf) := by
  have hevent : Effect d buf (d.processEvent buf) := by
    unfold InsteonDevice.processEvent
    rcases h with hclass | hclass
    · rw [hclass]
      exact switchDevice_effect hclass buf
    · rw [hclass]
      exact ioLinc_effect hclass buf
  cases hignored : d.ignoresAck buf with
  | true =>
    rw [InsteonDevice.onInsteonMessage_ignored hignored]
    exact .quiet rfl rfl
  | false =>
    have hafter := (d.processEvent buf).device.afterEvent_mDeviceParameter buf
    rw [InsteonDevice.onInsteonMessage_accepted hignored]
    cases hevent with
    | quiet hparam hvalue => exact .quiet (hafter.trans hparam) hvalue
    | notified v hparam hvalue => exact .notified v (hafter.trans hparam) hvalue
    | first hfirst hvalue => exact .first hfirst hvalue

/-- The level that goes with a value of 0 or 255 in the listing of a device. -/
def levelFor (deviceClass : InsteonDeviceClass) (v : ℤ) : ℤ :=
  if deviceClass = .ioLinc then 255 - v else v

/-- A frame that makes the device emit the value 0 or 255 makes it list the level that goes with
it, and one that changes the listed level makes it emit a value, unless it is the answer to the
first status request. -/
def Reported (d : InsteonDevice) : Act → Prop
  | .onInsteonMessage buf =>
    (∀ v, (d.onInsteonMessage buf).json.get "value" = some (.num v) → v = 0 ∨ v = 255 →
      listed (d.onInsteonMessage buf).device = some (.num (levelFor d.deviceClass v))) ∧
    (listed (d.onInsteonMessage buf).device ≠ listed d →
      ((d.onInsteonMessage buf).json.get "value").isSome = true ∨ IsFirstStatus d buf)
  | .setLastDirectMessageSent _ _ => True

/-- INTERNAL: what a device lists that has a level.
SOURCE: SwitchDevice.cpp:158-166, IOLinc.cpp:115-123 -/
theorem listed_eq {d : InsteonDevice} (h : HasLevel d) :
    listed d = some (.num (if d.deviceClass = .ioLinc then
      (if d.mDeviceParameter = 0 then 255 else 0) else d.mDeviceParameter.toNat)) := by
  unfold listed InsteonDevice.toJSON
  rcases h with hclass | hclass
  · rw [hclass]
    rfl
  · rw [hclass]
    show some (JSONValue.num (if decide (d.mDeviceParameter = 0) = true then 255 else 0)) = _
    simp

/-- INTERNAL: a value of 0 or 255 and the level that is listed behind it.
SOURCE: SwitchDevice.cpp:25-166, IOLinc.cpp:16-19, 55-123 -/
theorem listed_of_storedWith {d : InsteonDevice} (h : HasLevel d) {v : UInt8}
    (hparam : d.mDeviceParameter = storedWith d.deviceClass v)
    (hv : (v.toNat : ℤ) = 0 ∨ (v.toNat : ℤ) = 255) :
    listed d = some (.num (levelFor d.deviceClass v.toNat)) := by
  have hfull : v = 0 ∨ v = 255 := by
    rcases hv with hv | hv
    · exact .inl (UInt8.toNat_inj.mp (by simpa using hv))
    · exact .inr (UInt8.toNat_inj.mp (by exact_mod_cast hv))
  rw [listed_eq h, hparam]
  rcases h with hclass | hclass
  · rw [hclass]
    rfl
  · rw [hclass]
    rcases hfull with rfl | rfl <;> rfl

/-- INTERNAL: one frame, at a device with a level.
SOURCE: SwitchDevice.cpp:61-166, IOLinc.cpp:16-19, 55-123 -/
theorem reported {d : InsteonDevice} (h : HasLevel d) (a : Act) : Reported d a := by
  cases a with
  | setLastDirectMessageSent t cmd => trivial
  | onInsteonMessage buf =>
    have hclass := InsteonDevice.onInsteonMessage_deviceClass h buf
    have h' : HasLevel (d.onInsteonMessage buf).device := by
      unfold HasLevel
      rw [hclass]
      exact h
    cases onInsteonMessage_effect h buf with
    | quiet hparam hvalue =>
      constructor
      · intro v hv
        rw [hvalue] at hv
        cases hv
      · intro hne
        rw [listed_eq h, listed_eq h', hclass, hparam] at hne
        exact absurd rfl hne
    | notified v hparam hvalue =>
      constructor
      · intro w hw hfull
        rw [hvalue] at hw
        cases hw
        rw [← hclass] at hparam ⊢
        exact listed_of_storedWith h' hparam hfull
      · intro _
        rw [hvalue]
        exact .inl rfl
    | first hfirst hvalue =>
      constructor
      · intro v hv
        rw [hvalue] at hv
        cases hv
      · intro _
        exact .inr hfirst

/-- **Events and listings go together.** For every switch and every IOLinc and every sequence of
frames and acknowledged messages: a frame for which the value 0 or 255 is emitted makes a
switch list this very level, and an IOLinc the other one of the two; and a frame that changes
the listed level makes the device emit a value, unless it is the answer to the first status
request.
SOURCE: SwitchDevice.cpp:61-166, IOLinc.cpp:16-19, 55-123 -/
theorem events_reported (d : InsteonDevice) (h : HasLevel d) (acts : List Act) :
    Along step Reported d acts := by
  apply along_of_invariant (I := HasLevel) _ _ h
  · intro d a d' hd _
    exact reported hd a
  · intro d a d' hd hstep
    cases a with
    | setLastDirectMessageSent t cmd =>
      cases hstep
      exact hd
    | onInsteonMessage buf =>
      cases hstep
      unfold HasLevel
      rw [InsteonDevice.onInsteonMessage_deviceClass hd buf]
      exact hd

/-- A new IOLinc. -/
def newIOLinc : InsteonDevice := (IOLinc.new [] 1 ⟨false, 0, 0, []⟩).1

/-- The group cleanup message of a sensor that goes on. -/
def sensorOn : FrameBuffer := [0, 0x50, 0, 0, 1, 0, 0, 0, 0x4F, 0x11, 1]

/-- Its listed level goes from 255 to 0. -/
theorem events_reported_sensorOn : Along step Reported newIOLinc [.onInsteonMessage sensorOn] :=
  events_reported newIOLinc (.inr rfl) _

/-- The event of the IOLinc says 255, and its listed level is 0. -/
theorem ioLinc_listed_otherwise :
    (newIOLinc.onInsteonMessage sensorOn).json.get "value" = some (.num 255) ∧
      listed (newIOLinc.onInsteonMessage sensorOn).device = some (.num 0) := by
  decide

end Dhas.Analysis.ListedLevel
