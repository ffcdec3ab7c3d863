import Dhas.Program.InsteonModule

/-!
# The on-level and the ramp rate

`switch_callback` reads the parameter `rate` into the variable that holds the level, so a rate
that is given replaces the level; `ramp_callback` next to it has a variable for each. The frames
of two requests that differ in their rates are compared here.
-/

set_option autoImplicit false

namespace Dhas.Analysis.SwitchRate

open Dhas.Program

/-- The text of a parameter that is absent, or a number from 0 to 255. -/
def IsByte (text : CString) : Option UInt8 → Prop
  | none => text = []
  | some value => text ≠ [] ∧ atoi text = value.toNat

instance (text : CString) (value : Option UInt8) : Decidable (IsByte text value) := by
  cases value <;> unfold IsByte <;> infer_instance

/-- The level to ask a light for: the requested one raised to at least 10, 255 when absent. -/
def onLevel (level : Option UInt8) : UInt8 := max (level.getD 255) 10

/-- The standard frame that turns a light on. -/
def onFrame (id : InsteonID) (level : Option UInt8) : IInsteonMessage :=
  standardMessage id (if onLevel level = 255 then 0x12 else 0x11) (onLevel level)

/-- The request with the text `rate` for its rate. -/
def withRate (params : RESTParameters) (rate : CString) : RESTParameters :=
  Function.update params "rate" rate

/-- Whichever of the two rates is given, the request queues the frame for the level. -/
def RateIndependent (m : InsteonState) (params : RESTParameters) (id : InsteonID)
    (level : Option UInt8) (rate rate' : CString) : Prop :=
  ∀ r ∈ [rate, rate'], (m.switch_callback (withRate params r)).1.mInsteonCommandQueue =
    m.mInsteonCommandQueue ++ [onFrame id level]

/-- The rate is absent, or is raised to the same level. -/
def RateAgrees (level rate : Option UInt8) : Prop := rate = none ∨ onLevel rate = onLevel level

instance (level rate : Option UInt8) : Decidable (RateAgrees level rate) :=
  inferInstanceAs (Decidable (_ ∨ _))

/-- INTERNAL: a byte is read back from its number. -/
theorem toUnsignedChar_toNat (value : UInt8) : toUnsignedChar value.toNat = value := by
  have hlt : value.toNat < 256 := value.toNat_lt
  have hmod : ((value.toNat : ℤ) % 2 ^ 8).toNat = value.toNat := by omega
  rw [toUnsignedChar, hmod, UInt8.ofNat_toNat]

/-- INTERNAL: what a parameter of the request leaves in the variable for the level. -/
theorem readByte {text : CString} {value : Option UInt8} (h : IsByte text value)
    (default : UInt8) :
    (if text ≠ [] then toUnsignedChar (atoi text) else default) = value.getD default := by
  cases value with
  | none =>
    have htext : text = [] := h
    simp [htext]
  | some value =>
    have hvalue : toUnsignedChar (atoi text) = value := by rw [h.2, toUnsignedChar_toNat]
    rw [if_pos h.1, hvalue]
    rfl

/-- INTERNAL: `lightOn` raises a low level. SOURCE: InsteonModule.cpp:718-721 -/
theorem raise_low (level : UInt8) : (if level < 10 then 10 else level) = max level 10 := by
  show _ = if level ≤ 10 then 10 else level
  split
  case isTrue hlow => rw [if_pos (UInt8.le_of_lt hlow)]
  case isFalse hlow =>
    split
    case isTrue hle => exact UInt8.le_antisymm hle (UInt8.not_lt.mp hlow)
    case isFalse => rfl

/-- INTERNAL: two frames for one device are the same only for the same level. -/
theorem onFrame_inj {id : InsteonID} {level level' : Option UInt8}
    (h : onFrame id level = onFrame id level') : onLevel level = onLevel level' := by
  have hcommand := congrArg IInsteonMessage.command2 h
  exact hcommand

section Request

variable {m : InsteonState} {params : RESTParameters} {d : InsteonDevice}
  {level : Option UInt8} (hdevice : m.handler.mModules[params.id]? = some d)
  (hclass : d.deviceClass = .switchDevice) (haction : params "action" = "on".toList)
  (hlevel : IsByte (params "level") level)
include hdevice hclass haction hlevel

/-- INTERNAL: **the frame that a request queues: a rate that is given counts as the level.**
SOURCE: InsteonModule.cpp:473-495, 718-733, SwitchDevice.cpp:37-54 -/
theorem switch_callback_frame {text : CString} {rate : Option UInt8} (hrate : IsByte text rate) :
    (m.switch_callback (withRate params text)).1.mInsteonCommandQueue =
      m.mInsteonCommandQueue ++ [onFrame d.mID (rate.or level)] := by
  have hid : (withRate params text).id = params.id := rfl
  have haction' : withRate params text "action" = "on".toList := haction
  have hlevel' : withRate params text "level" = params "level" := rfl
  have hrate' : withRate params text "rate" = text := rfl
  have hread : rate.getD (level.getD 255) = (rate.or level).getD 255 := by
    cases rate <;> rfl
  unfold InsteonState.switch_callback
  simp only [haction', if_true, hlevel', hrate', readByte hlevel, readByte hrate, hread, hid]
  simp only [InsteonState.lightOn, InsteonState.toDevice, hdevice, InsteonModem.push_queue,
    InsteonDevice.turnOnOrOff, hclass, SwitchDevice.turnOnOrOff, if_true, raise_low]
  rfl

/-- INTERNAL: the frame that a rate sends is that of the level when they agree. -/
theorem switch_callback_frame_iff {text : CString} {rate : Option UInt8}
    (hrate : IsByte text rate) :
    (m.switch_callback (withRate params text)).1.mInsteonCommandQueue =
      m.mInsteonCommandQueue ++ [onFrame d.mID level] ↔ RateAgrees level rate := by
  rw [switch_callback_frame hdevice hclass haction hlevel hrate, List.append_cancel_left_eq,
    List.cons.injEq, and_iff_left rfl]
  cases rate with
  | none => exact iff_of_true rfl (.inl rfl)
  | some rate =>
    constructor
    · intro h
      exact .inr (onFrame_inj h)
    · rintro (hnone | hagree)
      · cases hnone
      · have heq : onLevel (some rate) = onLevel level := hagree
        simp only [Option.some_or, onFrame, heq]

end Request

/-- **A request to turn a light on queues the frame for its level exactly when each of the two
rates is absent or is raised to the same level.** For every state of the module with a switch
under the id, and every request.
SOURCE: InsteonModule.cpp:473-495, 718-733, SwitchDevice.cpp:37-54,
StandardOrExtendedMessage.cpp:4-12 -/
theorem rateIndependent_iff (m : InsteonState) (params : RESTParameters) (d : InsteonDevice)
    (level rate rate' : Option UInt8) (text text' : CString)
    (hdevice : m.handler.mModules[params.id]? = some d)
    (hclass : d.deviceClass = .switchDevice) (haction : params "action" = "on".toList)
    (hlevel : IsByte (params "level") level) (hrate : IsByte text rate)
    (hrate' : IsByte text' rate') :
    RateIndependent m params d.mID level text text' ↔
      RateAgrees level rate ∧ RateAgrees level rate' := by
  have hframe := switch_callback_frame_iff hdevice hclass haction hlevel hrate
  have hframe' := switch_callback_frame_iff hdevice hclass haction hlevel hrate'
  simp only [RateIndependent, List.forall_mem_cons, List.not_mem_nil, false_implies,
    implies_true, and_true, hframe, hframe']

/-- A module with one switch, under the id 1. -/
def oneLamp : InsteonState :=
  InsteonState.addDevice (InsteonModem.new ⟨true, true, []⟩ false Insteon.empty 0) 1
    (SwitchDevice.new "lamp".toList 1 ⟨false, 0, 0, []⟩)

/-- The request to turn it on at the level 100. -/
def lampOn : RESTParameters := fun name =>
  if name = "id" then "1".toList else if name = "action" then "on".toList
  else if name = "level" then "100".toList else []

/-- Without a rate and with the rate 100 the lamp goes on at the level 100. -/
theorem rateIndependent_lamp : RateIndependent oneLamp lampOn 1 (some 100) [] "100".toList :=
  (rateIndependent_iff oneLamp lampOn
    (SwitchDevice.new "lamp".toList 1 ⟨false, 0, 0, []⟩).1 (some 100) none
    (some 100) [] "100".toList (by decide +kernel) (by decide +kernel) (by decide +kernel)
    (by decide +kernel) (by decide +kernel) (by decide +kernel)).mpr (by decide)

/-- With the rate 31 the level asked for is 31. SOURCE: InsteonModule.cpp:487 -/
theorem rate_replaces_level :
    IsByte "31".toList (some 31) ∧
      ¬ RateIndependent oneLamp lampOn 1 (some 100) [] "31".toList := by
  refine ⟨by decide +kernel, fun h => ?_⟩
  have hqueue := h "31".toList (by simp)
  exact absurd hqueue (by decide +kernel)

end Dhas.Analysis.SwitchRate
