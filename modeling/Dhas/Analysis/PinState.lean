import Dhas.Library.IndexLoop
import Dhas.Program.IOBoard

/-!
# The pin state of an IO board

Each 'initial' or 'changed' message replaces the mask and the number of the pins, so what
`status_callback` lists depends on the last such message only. `Keeps` says how the members
stand to the pins of that message: the number is taken modulo 256, and the mask has a bit for
each pin of that number.

A number above 32 shifts the mask by its width, which is undefined, and 256 pins or more lose
their number. `pins_kept_iff` is the exact condition for a list of messages.
-/

set_option autoImplicit false

namespace Dhas.Analysis.PinState

open Dhas.Library Dhas.Program Dhas.Program.IOBoard Dhas.Program.IOBoard.Members

/-- The pins as numbers: true is 1 and false is 0. -/
def levels (pins : List Bool) : List ℕ := pins.map Bool.toNat

/-- How many of the pins are looked at. -/
def counted (pins : List Bool) : ℕ := pins.length % 2 ^ 8

/-- The mask has the levels of the first `n` pins, and no other bit. -/
def Packs (mask : UInt32) (pins : List Bool) (n : ℕ) : Prop :=
  ∀ i, mask.toNat.testBit i = (decide (i < n) && pins.getD i false)

/-- The members are those that a message with these pins leaves. -/
structure Keeps (b : Members) (pins : List Bool) : Prop where
  count : b.mPgmCount.toNat = counted pins
  fits : counted pins ≤ 32
  packs : Packs b.mPgms pins (counted pins)

/-- INTERNAL: the level that is added for a pin. -/
def level (pin : Bool) : UInt8 := if pin then 1 else 0

/-- INTERNAL: no more pins are looked at than there are. -/
theorem counted_le (pins : List Bool) : counted pins ≤ pins.length := Nat.mod_le _ _

/-- INTERNAL: the bit of one pin. -/
theorem testBit_shift {i : ℕ} (hi : i < 32) (pin : Bool) (j : ℕ) :
    ((level pin).toUInt32 <<< UInt32.ofNat i).toNat.testBit j = (decide (j = i) && pin) := by
  have hshift : (UInt32.ofNat i).toNat % 32 = i := by
    rw [UInt32.toNat_ofNat_of_lt' (Nat.lt_trans hi (by decide)), Nat.mod_eq_of_lt hi]
  cases pin with
  | false => simp [level]
  | true =>
    have hpow : 2 ^ i < 2 ^ 32 := Nat.pow_lt_pow_right (by omega) hi
    have hvalue : ((level true).toUInt32 <<< UInt32.ofNat i).toNat = 2 ^ i := by
      rw [UInt32.toNat_shiftLeft, hshift]
      show 1 <<< i % 2 ^ 32 = 2 ^ i
      rw [Nat.one_shiftLeft, Nat.mod_eq_of_lt hpow]
    rw [hvalue, Nat.testBit_two_pow, Bool.and_true]
    exact decide_eq_decide.mpr eq_comm

/-- INTERNAL: the loop over the first `n` pins.
SOURCE: IOBoard.cpp:28-34 -/
theorem foldlM_keepPin {pins : List Bool} {n : ℕ} (hn : n ≤ 32) (hlength : n ≤ pins.length) :
    ∃ mask, (List.range n).foldlM (keepPin pins) (0, []) =
        some (mask, (pins.take n).map level) ∧ Packs mask pins n := by
  induction n with
  | zero =>
    refine ⟨0, rfl, fun i => ?_⟩
    simp
  | succ n ih =>
    obtain ⟨mask, hloop, hpacks⟩ := ih (by omega) (by omega)
    refine ⟨mask ||| ((level (pins.getD n false)).toUInt32 <<< UInt32.ofNat n), ?_, fun i => ?_⟩
    · have hn' : n < 32 := hn
      rw [foldlM_range_succ hloop, take_succ_getD hlength false, List.map_append]
      simp [keepPin, hn', level]
    · rw [UInt32.toNat_or, Nat.testBit_or, hpacks i, testBit_shift hn]
      by_cases hi : i = n
      · subst hi
        simp
      · have hlt : i < n + 1 ↔ i < n := by omega
        simp [hi, hlt]

/-- INTERNAL: a loop over more than 32 pins shifts too far.
SOURCE: IOBoard.cpp:28-34 -/
theorem foldlM_keepPin_eq_none {pins : List Bool} {n : ℕ} (hn : 32 < n) :
    (List.range n).foldlM (keepPin pins) (0, []) = none := by
  apply foldlM_range_eq_none hn
  intro r
  simp [keepPin]

/-- INTERNAL: what the loop over the pins of a message leaves, and the list of the event.
SOURCE: IOBoard.cpp:26-34 -/
theorem keepPins_eq_some {pins : List Bool} (h : counted pins ≤ 32) :
    ∃ b, keepPins pins = some (b, pgms pins) ∧ Keeps b pins := by
  have hcount : (UInt8.ofNat pins.length).toNat = counted pins := UInt8.toNat_ofNat'
  obtain ⟨mask, hloop, hpacks⟩ := foldlM_keepPin h (counted_le pins)
  refine ⟨⟨mask, UInt8.ofNat pins.length⟩, ?_, hcount, h, hpacks⟩
  unfold keepPins
  simp only [hcount, hloop, Option.map_some]
  rfl

/-- INTERNAL: a message with too many pins.
SOURCE: IOBoard.cpp:26-34 -/
theorem keepPins_eq_none {pins : List Bool} (h : 32 < counted pins) : keepPins pins = none := by
  have hcount : (UInt8.ofNat pins.length).toNat = counted pins := UInt8.toNat_ofNat'
  unfold keepPins
  simp only [hcount, foldlM_keepPin_eq_none h, Option.map_none]

/-- INTERNAL: one bit of the mask is the level of its pin. -/
theorem toNat_pgm {b : Members} {pins : List Bool} (h : Keeps b pins) {i : ℕ}
    (hi : i < counted pins) :
    ((b.mPgms >>> UInt32.ofNat i) &&& 1).toNat = (pins.getD i false).toNat := by
  have hfits := h.fits
  have hbit := h.packs i
  have hshift : (UInt32.ofNat i).toNat % 32 = i := by
    rw [UInt32.toNat_ofNat_of_lt' (by simp [UInt32.size]; omega), Nat.mod_eq_of_lt (by omega)]
  rw [decide_eq_true hi, Bool.true_and] at hbit
  rw [UInt32.toNat_and, UInt32.toNat_shiftRight, hshift, ← hbit]
  show b.mPgms.toNat >>> i &&& 1 = _
  rw [Nat.and_one_is_mod, Nat.testBit_eq_decide_div_mod_eq, Nat.shiftRight_eq_div_pow]
  rcases Nat.mod_two_eq_zero_or_one (b.mPgms.toNat / 2 ^ i) with h0 | h1
  · rw [h0]
    rfl
  · rw [h1]
    rfl

/-- INTERNAL: the loop of `status_callback` over the first `n` pins.
SOURCE: IOBoard.cpp:140-141 -/
theorem foldlM_addPgm {b : Members} {pins : List Bool} (h : Keeps b pins) {n : ℕ}
    (hn : n ≤ counted pins) :
    ∃ pgms, (List.range n).foldlM b.addPgm [] = some pgms ∧
      pgms.map UInt32.toNat = levels (pins.take n) := by
  induction n with
  | zero => exact ⟨[], rfl, rfl⟩
  | succ n ih =>
    obtain ⟨pgms, hloop, hpgms⟩ := ih (by omega)
    have hfits := h.fits
    have hn32 : n < 32 := by omega
    have hlength : n < pins.length := Nat.lt_of_lt_of_le hn (counted_le pins)
    refine ⟨pgms ++ [(b.mPgms >>> UInt32.ofNat n) &&& 1], ?_, ?_⟩
    · rw [foldlM_range_succ hloop]
      simp [addPgm, hn32]
    · rw [List.map_append, hpgms, take_succ_getD hlength false, levels, levels, List.map_append,
        List.map_singleton, List.map_singleton, toNat_pgm h hn]

/-- INTERNAL: what `status_callback` lists.
SOURCE: IOBoard.cpp:134-142 -/
theorem status_callback_eq {b : Members} {pins : List Bool} (h : Keeps b pins) :
    ∃ pgms, b.status_callback = some pgms ∧
      pgms.map UInt32.toNat = levels (pins.take (counted pins)) := by
  unfold status_callback
  rw [h.count]
  exact foldlM_addPgm h (Nat.le_refl _)

/-! ## Messages -/

/-- The message has a list of pins that the board takes over. -/
def HasPins (data : IOBoardData) : Prop :=
  data.type = "initial".toList ∨ data.type = "changed".toList

instance : DecidablePred HasPins := fun _ => inferInstanceAs (Decidable (_ ∨ _))

/-- The messages are processed in their order; the events go along with the members. -/
def processAll : Members → List IOBoardData → Option (Members × List (Option DriverReply))
  | b, [] => some (b, [])
  | b, data :: ms =>
    (b.processData data).bind fun r =>
      (processAll r.1 ms).map fun q => (q.1, r.2 :: q.2)

/-- The last message with pins. -/
def lastPins (ms : List IOBoardData) : Option IOBoardData := (ms.filter HasPins).getLast?

/-- The last message with pins, and what it made. -/
def lastEvent (ms : List IOBoardData) (events : List (Option DriverReply)) :
    Option (IOBoardData × Option DriverReply) :=
  ((ms.zip events).filter fun p => HasPins p.1).getLast?

/-- After the messages, `status_callback` lists the pins of the last message with pins, and the
event of this message listed them too. -/
def PinsKept (ms : List IOBoardData) : Prop :=
  ∃ b events, processAll new ms = some (b, events) ∧
    ∀ data event, lastEvent ms events = some (data, event) →
      (∃ pgms, b.status_callback = some pgms ∧ pgms.map UInt32.toNat = levels data.pins) ∧
      ∃ reply pgms, event = some reply ∧ reply.pgms = some pgms ∧
        pgms.map UInt8.toNat = levels data.pins

/-- The number of pins of each message is at most 32 modulo 256, and that of the last one is
at most 32. -/
def PinsFit (ms : List IOBoardData) : Prop :=
  (∀ data ∈ ms, HasPins data → data.pins.length % 2 ^ 8 ≤ 32) ∧
    ∀ data, lastPins ms = some data → data.pins.length ≤ 32

/-- INTERNAL: a message with pins.
SOURCE: IOBoard.cpp:22-37, 97-116 -/
theorem processData_pins (b : Members) {data : IOBoardData} (h : HasPins data) :
    (counted data.pins ≤ 32 → ∃ b' reply, b.processData data = some (b', some reply) ∧
      IOBoard.processData data = some reply ∧ reply.pgms = some (pgms data.pins) ∧
      Keeps b' data.pins) ∧
    (32 < counted data.pins → b.processData data = none) := by
  have hne : "changed".toList ≠ "initial".toList ∧ "changed".toList ≠ "alarm".toList := by decide
  constructor
  · intro hfits
    obtain ⟨b', hkeep, hkeeps⟩ := keepPins_eq_some hfits
    rcases h with htype | htype
    · refine ⟨b', ⟨[("node", jsonText "ioboardnode")], some (pgms data.pins)⟩, ?_, ?_, rfl, hkeeps⟩
      · unfold Members.processData
        rw [if_pos htype, hkeep, Option.map_some]
      · unfold IOBoard.processData
        rw [if_pos htype]
    · refine ⟨b', ⟨[("node", jsonText "ioboardnode"), ("subtype", jsonText "changed"),
        ("pin", .num data.pin)], some (pgms data.pins)⟩, ?_, ?_, rfl, hkeeps⟩
      · unfold Members.processData
        rw [htype, if_neg hne.1, if_neg hne.2, if_pos rfl, hkeep, Option.map_some]
      · unfold IOBoard.processData
        rw [htype, if_neg hne.1, if_neg hne.2, if_pos rfl]
  · intro hmany
    have hnone := keepPins_eq_none hmany
    unfold Members.processData
    rcases h with htype | htype
    · rw [if_pos htype, hnone, Option.map_none]
    · rw [htype, if_neg hne.1, if_neg hne.2, if_pos rfl, hnone, Option.map_none]

/-- INTERNAL: any other message leaves the members.
SOURCE: IOBoard.cpp:38-96, 118 -/
theorem processData_other (b : Members) {data : IOBoardData} (h : ¬ HasPins data) :
    b.processData data = some (b, IOBoard.processData data) := by
  obtain ⟨hinitial, hchanged⟩ := not_or.mp h
  unfold Members.processData IOBoard.processData
  rw [if_neg hinitial, if_neg hinitial]
  by_cases halarm : data.type = "alarm".toList
  · rw [if_pos halarm, if_pos halarm]
  · rw [if_neg halarm, if_neg halarm, if_neg hchanged, if_neg hchanged]

/-- **The members only add to the drivers' model**: the reply is the one that the registry of
the nodes sees.
SOURCE: IOBoard.cpp:16-119 -/
theorem processData_reply {b b' : Members} {data : IOBoardData} {reply : Option DriverReply}
    (h : b.processData data = some (b', reply)) : reply = IOBoard.processData data := by
  by_cases hpins : HasPins data
  · obtain ⟨hfew, hmany⟩ := processData_pins b hpins
    rcases Nat.lt_or_ge 32 (counted data.pins) with hlt | hle
    · rw [hmany hlt] at h
      cases h
    · obtain ⟨b'', reply', hprocess, hreply, -, -⟩ := hfew hle
      rw [hprocess] at h
      cases h
      exact hreply.symm
  · rw [processData_other b hpins] at h
    cases h
    rfl

/-- The pins that the members stand for behind the messages, when they stood for `pins`. -/
def currentPins (pins : List Bool) (ms : List IOBoardData) : List Bool :=
  ((lastPins ms).map IOBoardData.pins).getD pins

/-- INTERNAL: a message with pins takes over from the pins before it. -/
theorem currentPins_cons (pins : List Bool) {data : IOBoardData} (h : HasPins data)
    (ms : List IOBoardData) : currentPins pins (data :: ms) = currentPins data.pins ms := by
  unfold currentPins lastPins
  rw [List.filter_cons_of_pos (by simpa using h), List.getLast?_cons]
  cases (ms.filter HasPins).getLast? <;> rfl

/-- INTERNAL: **what messages leave that do not shift too far.**
SOURCE: IOBoard.cpp:16-119 -/
theorem processAll_eq_some {b : Members} {pins : List Bool} (hb : Keeps b pins)
    {ms : List IOBoardData} (h : ∀ data ∈ ms, HasPins data → counted data.pins ≤ 32) :
    ∃ b' events, processAll b ms = some (b', events) ∧ events.length = ms.length ∧
      Keeps b' (currentPins pins ms) ∧
      ∀ p ∈ ms.zip events, HasPins p.1 →
        ∃ reply, p.2 = some reply ∧ reply.pgms = some (pgms p.1.pins) := by
  induction ms generalizing b pins with
  | nil => exact ⟨b, [], rfl, rfl, hb, fun p hp => by cases hp⟩
  | cons data ms ih =>
    have htail : ∀ d ∈ ms, HasPins d → counted d.pins ≤ 32 :=
      fun d hd => h d (List.mem_cons_of_mem data hd)
    by_cases hpins : HasPins data
    · obtain ⟨b₁, reply, hprocess, -, hpgms, hkeeps⟩ :=
        (processData_pins b hpins).1 (h data List.mem_cons_self hpins)
      obtain ⟨b', events, hall, hlength, hkeeps', hevents⟩ := ih hkeeps htail
      refine ⟨b', some reply :: events, ?_, by simp [hlength], ?_, ?_⟩
      · rw [processAll, hprocess, Option.bind_some, hall, Option.map_some]
      · rw [currentPins_cons pins hpins]
        exact hkeeps'
      · intro p hp
        rw [List.zip_cons_cons] at hp
        rcases List.mem_cons.mp hp with rfl | hmem
        · exact fun _ => ⟨reply, rfl, hpgms⟩
        · exact hevents p hmem
    · obtain ⟨b', events, hall, hlength, hkeeps', hevents⟩ := ih hb htail
      refine ⟨b', IOBoard.processData data :: events, ?_, by simp [hlength], ?_, ?_⟩
      · rw [processAll, processData_other b hpins, Option.bind_some, hall, Option.map_some]
      · unfold currentPins lastPins
        rw [List.filter_cons_of_neg (by simpa using hpins)]
        exact hkeeps'
      · intro p hp
        rw [List.zip_cons_cons] at hp
        rcases List.mem_cons.mp hp with rfl | hmem
        · exact fun hp => absurd hp hpins
        · exact hevents p hmem

/-- INTERNAL: a message that shifts too far is not got over.
SOURCE: IOBoard.cpp:16-119 -/
theorem fits_of_processAll {b : Members} {ms : List IOBoardData}
    {q : Members × List (Option DriverReply)} (h : processAll b ms = some q) :
    ∀ data ∈ ms, HasPins data → counted data.pins ≤ 32 := by
  induction ms generalizing b q with
  | nil =>
    intro data hdata
    cases hdata
  | cons first ms ih =>
    rw [processAll, Option.bind_eq_some_iff] at h
    obtain ⟨r, hprocess, hrest⟩ := h
    obtain ⟨q, hall, -⟩ := Option.map_eq_some_iff.mp hrest
    intro data hdata hpins
    rcases List.mem_cons.mp hdata with rfl | hmem
    · by_contra hmany
      rw [(processData_pins b hpins).2 (Nat.lt_of_not_le hmany)] at hprocess
      cases hprocess
    · exact ih hall data hmem hpins

/-- INTERNAL: the message of the last event is the last message. -/
theorem lastEvent_fst {ms : List IOBoardData} {events : List (Option DriverReply)}
    (h : events.length = ms.length) : (lastEvent ms events).map Prod.fst = lastPins ms := by
  unfold lastEvent lastPins
  rw [← List.getLast?_map]
  congr 1
  have hfst : (ms.zip events).map Prod.fst = ms := List.map_fst_zip (by omega)
  conv_rhs => rw [← hfst]
  rw [List.filter_map]
  rfl

/-- INTERNAL: at first there is no pin. -/
theorem keeps_new : Keeps new [] where
  count := rfl
  fits := by decide
  packs := fun i => by simp [new]

/-- INTERNAL: the pins that are looked at are all pins, when there are fewer than 256. -/
theorem levels_take_counted (pins : List Bool) :
    levels (pins.take (counted pins)) = levels pins ↔ pins.length < 2 ^ 8 := by
  constructor
  · intro h
    have hlength := congrArg List.length h
    simp only [levels, List.length_map, List.length_take, counted] at hlength
    omega
  · intro h
    rw [counted, Nat.mod_eq_of_lt h, List.take_length]

/-- INTERNAL: the bytes of the message are the levels of the pins that are looked at. -/
theorem toNat_pgms (pins : List Bool) :
    (pgms pins).map UInt8.toNat = levels (pins.take (counted pins)) := by
  unfold pgms levels
  rw [List.map_map]
  apply List.map_congr_left
  intro pin _
  cases pin <;> rfl

/-- **The pin state is kept, exactly when the pins fit.** For every list of messages from the
constructor on.
SOURCE: IOBoard.cpp:16-37, 97-116, 134-142 -/
theorem pins_kept_iff (ms : List IOBoardData) : PinsKept ms ↔ PinsFit ms := by
  constructor
  · rintro ⟨b, events, hall, hkept⟩
    have hfits := fits_of_processAll hall
    refine ⟨hfits, fun data hdata => ?_⟩
    obtain ⟨b', events', hall', hlength, hkeeps, -⟩ := processAll_eq_some keeps_new hfits
    rw [hall] at hall'
    cases hall'
    have hfst := lastEvent_fst hlength
    rw [hdata] at hfst
    obtain ⟨p, hp, rfl⟩ := Option.map_eq_some_iff.mp hfst
    obtain ⟨⟨pgms, hstatus, hpgms⟩, -⟩ := hkept p.1 p.2 hp
    have hcurrent : currentPins [] ms = p.1.pins := by
      unfold currentPins
      rw [hdata]
      rfl
    rw [hcurrent] at hkeeps
    obtain ⟨pgms', hstatus', hpgms'⟩ := status_callback_eq hkeeps
    rw [hstatus] at hstatus'
    cases hstatus'
    have hlt := (levels_take_counted p.1.pins).mp (hpgms'.symm.trans hpgms)
    have hcounted := hkeeps.fits
    unfold counted at hcounted
    omega
  · rintro ⟨hfits, hlast⟩
    obtain ⟨b, events, hall, hlength, hkeeps, hevents⟩ := processAll_eq_some keeps_new hfits
    refine ⟨b, events, hall, fun data event hevent => ?_⟩
    have hfst := lastEvent_fst hlength
    rw [hevent, Option.map_some] at hfst
    have hlevels : levels (data.pins.take (counted data.pins)) = levels data.pins := by
      rw [levels_take_counted]
      have := hlast data hfst.symm
      omega
    have hcurrent : currentPins [] ms = data.pins := by
      unfold currentPins
      rw [← hfst]
      rfl
    rw [hcurrent] at hkeeps
    constructor
    · obtain ⟨pgms, hstatus, hpgms⟩ := status_callback_eq hkeeps
      exact ⟨pgms, hstatus, hpgms.trans hlevels⟩
    · have hmem := List.mem_of_getLast? hevent
      rw [List.mem_filter] at hmem
      obtain ⟨reply, hreply, hpgms⟩ := hevents (data, event) hmem.1 (by simpa using hmem.2)
      exact ⟨reply, pgms data.pins, hreply, hpgms, (toNat_pgms data.pins).trans hlevels⟩

/-- An 'initial' message with 256 pins. -/
def manyPins : IOBoardData :=
  ⟨"initial".toList, List.replicate 256 true, 0, 0, 0, []⟩

/-- The board lists no pin after it, and its event listed none. -/
theorem manyPins_not_kept :
    processAll new [manyPins] = some (⟨0, 0⟩,
      [some ⟨[("node", jsonText "ioboardnode")], some []⟩]) ∧
      (⟨0, 0⟩ : Members).status_callback = some [] ∧ ¬ PinsKept [manyPins] := by
  have hall : processAll new [manyPins] = some (⟨0, 0⟩,
      [some ⟨[("node", jsonText "ioboardnode")], some []⟩]) := by decide +kernel
  refine ⟨hall, rfl, ?_⟩
  rintro ⟨b, events, hprocess, hkept⟩
  rw [hall] at hprocess
  cases hprocess
  obtain ⟨⟨pgms, hstatus, hpgms⟩, -⟩ := hkept manyPins _ rfl
  cases hstatus
  exact absurd hpgms (by decide +kernel)

end Dhas.Analysis.PinState
