import Dhas.Analysis.ThermostatModes
import Dhas.Library.Run
import Dhas.Model.WeatherThreads

/-!
# Devices added during a poll

A device that is added while the thermostats are polled is as well added behind the poll: the loop
has read how many devices there are when it began. But it is added to the vector that the loop goes
over, and when the vector is full its devices move, while the loop writes what it has read to where
they were.

So the two threads do what their calls do one after the other, as long as no device is added to a
full vector while the loop has a device to go, and no timer event is built without a device. That
the references stay valid is asked of every state, also when the loop does not use one any more
before it takes the next device: this is more than that nothing undefined is done.
-/

set_option autoImplicit false

namespace Dhas.Analysis.DeviceStorage

open Dhas.Library Dhas.Program Dhas.Model
open Dhas.Program.WeatherModule
open Dhas.Model.WeatherThreads
open Dhas.Analysis.ThermostatModes (length_poll)

/-- Nothing undefined was done, and the references of the loop can be followed as long as there is
a device to go. Between two turns, the devices and the events are what the calls lead to one after
the other; and a timer event says the four temperatures of every device. -/
structure Intact (s : WeatherThreads) : Prop where
  defined : s.undefined = false
  storage : ∀ p, s.loop = some p → p.i < p.last → p.allocation = s.mDevices.allocation
  serial : s.loop = none → s.module = afterCalls s.calls
  temperatures : ∀ data, s.module.appendPeriodicData = some data →
    data.temperatures = s.mDevices.items.flatMap (·.mTemperatures)

/-- There is room for a device that is added while the loop has a device to go, and a device when a
timer event is built. -/
def HasRoom (s : WeatherThreads) : Act → Prop
  | .setIP _ => ∀ p, s.loop = some p → p.i < p.last → s.mDevices.items.length < s.mDevices.capacity
  | .alarm => s.mDevices.items ≠ []
  | _ => True

/-- What the loop has done of its turn of `m`. -/
structure Underway (m : WeatherModule) (p : DeviceLoop) (s : WeatherThreads) : Prop where
  due : m.mLastPollTime ≤ p.t
  last : m.mDevices.length = p.last
  le_last : p.i ≤ p.last
  requesting : p.requesting = true → p.i < p.last ∧
    ∀ dev, m.mDevices[p.i]? = some dev → dev.mServer ≠ []
  devices : s.mDevices.items = (poll p.pages 0 (m.mDevices.take p.i)).1 ++ m.mDevices.drop p.i ++
    p.added.map newDevice
  time : s.mLastPollTime = p.t + 30
  events : s.events = m.events ++ (poll p.pages 0 (m.mDevices.take p.i)).2

structure ThreadsOk (s : WeatherThreads) : Prop where
  defined : s.undefined = false
  storage : ∀ p, s.loop = some p → p.i < p.last → p.allocation = s.mDevices.allocation
  serial : s.loop = none → s.module = afterCalls s.calls
  underway : ∀ p, s.loop = some p → Underway (afterCalls s.calls) p s
  four : ∀ dev ∈ s.mDevices.items, dev.mTemperatures.length = 4

/-! ## The loop over some of the devices -/

section Poll

variable {pages pages' : ℕ → CString} {devices more : List Device} {i k : ℕ}

/-- INTERNAL: a turn of the loop, and the turns that follow. -/
theorem poll_cons (pages : ℕ → CString) (dev : Device) (devices : List Device) (k : ℕ) :
    poll pages k (dev :: devices) =
      ((poll pages k [dev]).1 ++ (poll pages (k + 1) devices).1,
        (poll pages k [dev]).2 ++ (poll pages (k + 1) devices).2) := by
  by_cases hserver : dev.mServer = []
  · simp [poll, hserver]
  · by_cases hsame : (update dev (pages k)).mRunStatus = dev.mRunStatus
    · simp [poll, hserver, hsame]
    · simp [poll, hserver, hsame]

/-- INTERNAL: the pages come in the order of the devices. -/
theorem poll_append (pages : ℕ → CString) (devices more : List Device) (k : ℕ) :
    poll pages k (devices ++ more) =
      ((poll pages k devices).1 ++ (poll pages (k + devices.length) more).1,
        (poll pages k devices).2 ++ (poll pages (k + devices.length) more).2) := by
  induction devices generalizing k with
  | nil => simp [poll]
  | cons dev devices ih =>
    have hlength : k + 1 + devices.length = k + (dev :: devices).length := by
      rw [List.length_cons]
      omega
    rw [List.cons_append, poll_cons, ih, hlength, poll_cons pages dev devices,
      List.append_assoc, List.append_assoc]

/-- INTERNAL: a poll looks at no more pages than there are devices. -/
theorem poll_congr (hpages : ∀ i, k ≤ i → i < k + devices.length → pages i = pages' i) :
    poll pages k devices = poll pages' k devices := by
  induction devices generalizing k with
  | nil => rfl
  | cons dev devices ih =>
    rw [List.length_cons] at hpages
    have hrest : poll pages (k + 1) devices = poll pages' (k + 1) devices := by
      apply ih
      intro i hk hi
      exact hpages i (by omega) (by omega)
    rw [poll, poll, hrest, hpages k (Nat.le_refl k) (by omega)]

/-- INTERNAL: the loop over one more device. -/
theorem poll_take_succ {dev : Device} (hdev : devices[i]? = some dev) (pages : ℕ → CString) :
    poll pages 0 (devices.take (i + 1)) =
      ((poll pages 0 (devices.take i)).1 ++ (poll pages i [dev]).1,
        (poll pages 0 (devices.take i)).2 ++ (poll pages i [dev]).2) := by
  obtain ⟨hi, -⟩ := List.getElem?_eq_some_iff.mp hdev
  rw [List.take_add_one, hdev, Option.toList_some, poll_append, List.length_take,
    Nat.min_eq_left (Nat.le_of_lt hi), Nat.zero_add]

/-- INTERNAL: what comes later does not change what was polled. -/
theorem poll_take_update (pages : ℕ → CString) (st : CString) :
    poll (Function.update pages i st) 0 (devices.take i) = poll pages 0 (devices.take i) := by
  apply poll_congr
  intro j _ hj
  rw [Nat.zero_add, List.length_take] at hj
  exact Function.update_of_ne (by omega) _ _

end Poll

/-! ## One call after the other -/

section Calls

variable {m : WeatherModule} {t : ℤ}

/-- INTERNAL: the calls that came later are made on what the earlier ones left. -/
theorem afterCalls_append (calls more : List WeatherCall) :
    afterCalls (calls ++ more) = more.foldl WeatherCall.apply (afterCalls calls) :=
  List.foldl_append

/-- INTERNAL: a turn whose time has come polls every device.
SOURCE: WeatherModule.cpp:125-155 -/
theorem turn_of_due (hdue : m.mLastPollTime ≤ t) (pages : ℕ → CString) :
    m.turn t pages = ⟨t + 30, (poll pages 0 m.mDevices).1,
      m.events ++ (poll pages 0 m.mDevices).2⟩ :=
  if_pos hdue

/-- INTERNAL: each call of `setIP` adds its device at the end. -/
theorem foldl_setIP (m : WeatherModule) (ips : List CString) :
    (ips.map WeatherCall.setIP).foldl WeatherCall.apply m =
      { m with mDevices := m.mDevices ++ ips.map newDevice } := by
  induction ips generalizing m with
  | nil => simp
  | cons ip ips ih =>
    rw [List.map_cons, List.foldl_cons, ih]
    simp [WeatherCall.apply, setIP_callback, newDevice]

end Calls

/-! ## The temperatures of a timer event -/

/-- INTERNAL: a loop over the numbers reads all items. -/
theorem flatMap_getTemperature (m : WeatherModule)
    (hfour : ∀ dev ∈ m.mDevices, dev.mTemperatures.length = 4) :
    ((List.range m.mDevices.length).flatMap fun devid =>
      (List.range 4).map (m.getTemperature devid)) = m.mDevices.flatMap (·.mTemperatures) := by
  have hdevice (devid : ℕ) (hdevid : devid < m.mDevices.length) :
      (List.range 4).map (m.getTemperature devid) = m.mDevices[devid].mTemperatures := by
    have hlength := hfour _ (List.getElem_mem hdevid)
    apply List.ext_getElem
    · simp [hlength]
    · intro id hid _
      rw [List.length_map, List.length_range] at hid
      simp [getTemperature, List.getElem?_eq_getElem hdevid, Nat.not_lt.mpr (Nat.le_of_lt_succ hid),
        List.getElem?_eq_getElem (hlength.symm ▸ hid)]
  have hmap : (List.range m.mDevices.length).map
      (fun devid => (List.range 4).map (m.getTemperature devid)) =
        m.mDevices.map (·.mTemperatures) := by
    apply List.ext_getElem
    · simp
    · intro devid hdevid _
      rw [List.length_map, List.length_range] at hdevid
      simp [hdevice devid hdevid]
  rw [List.flatMap_def, hmap, ← List.flatMap_def]

/-- INTERNAL: the periodic event holds the temperatures of all the devices. -/
theorem temperatures_appendPeriodicData {m : WeatherModule} {data : PeriodicData}
    (hfour : ∀ dev ∈ m.mDevices, dev.mTemperatures.length = 4)
    (hdata : m.appendPeriodicData = some data) :
    data.temperatures = m.mDevices.flatMap (·.mTemperatures) := by
  rw [appendPeriodicData, Option.map_eq_some_iff] at hdata
  obtain ⟨dev, -, rfl⟩ := hdata
  exact flatMap_getTemperature m hfour

/-- INTERNAL: without a device there is no periodic event. -/
theorem appendPeriodicData_eq_none_iff (m : WeatherModule) :
    m.appendPeriodicData = none ↔ m.mDevices = [] := by
  rw [appendPeriodicData, Option.map_eq_none_iff, List.head?_eq_none_iff]

/-! ## The steps of the two threads -/

section Steps

variable {g : Growth} {s s' : WeatherThreads} {m : WeatherModule} {p : DeviceLoop}

/-- INTERNAL: what the reference points to is the device as it was when the loop began. -/
theorem Underway.items (h : Underway m p s) (hi : p.i < p.last) :
    s.mDevices.items[p.i]? = m.mDevices[p.i]? := by
  have hlast := h.last
  have hlength : (poll p.pages 0 (m.mDevices.take p.i)).1.length = p.i := by
    rw [length_poll, List.length_take, Nat.min_eq_left (by omega)]
  rw [h.devices, List.append_assoc, List.getElem?_append_right (Nat.le_of_eq hlength), hlength,
    Nat.sub_self, List.getElem?_append_left, List.getElem?_drop, Nat.add_zero]
  rw [List.length_drop]
  omega

/-- INTERNAL: the device that the loop holds is the one at its place after the calls so far. -/
theorem ThreadsOk.dev (h : ThreadsOk s) (hloop : s.loop = some p) (hi : p.i < p.last) :
    ∃ dev, s.dev p = some dev ∧ (afterCalls s.calls).mDevices[p.i]? = some dev := by
  have hunder := h.underway p hloop
  have hlt : p.i < (afterCalls s.calls).mDevices.length := hunder.last.symm ▸ hi
  have hdev := List.getElem?_eq_getElem hlt
  refine ⟨_, ?_, hdev⟩
  rw [WeatherThreads.dev, if_pos (h.storage p hloop hi), hunder.items hi, hdev]

/-- INTERNAL: the turn is over when there is no device to go, and the devices that were added
meanwhile come behind it. -/
theorem Underway.over (h : Underway (afterCalls s.calls) p s) (hi : ¬ p.i < p.last) :
    s.module = afterCalls (s.calls ++ loopCalls p) := by
  have hall : (afterCalls s.calls).mDevices.length ≤ p.i := by
    rw [h.last]
    omega
  have hdevices := h.devices
  have hevents := h.events
  rw [List.take_of_length_le hall] at hdevices hevents
  rw [List.drop_of_length_le hall, List.append_nil] at hdevices
  rw [afterCalls_append, loopCalls, List.foldl_cons, foldl_setIP, WeatherCall.apply,
    turn_of_due h.due, WeatherThreads.module, hdevices, hevents, h.time]

/-- INTERNAL: the loop goes on, with what it does of the device. -/
theorem Underway.next (h : Underway m p s) (hi : p.i < p.last) {dev : Device}
    (hdev : m.mDevices[p.i]? = some dev) {pages : ℕ → CString}
    (hpages : poll pages 0 (m.mDevices.take p.i) = poll p.pages 0 (m.mDevices.take p.i))
    (hdevices : s'.mDevices.items = (poll p.pages 0 (m.mDevices.take p.i)).1 ++
      ((poll pages p.i [dev]).1 ++ (m.mDevices.drop (p.i + 1) ++ p.added.map newDevice)))
    (htime : s'.mLastPollTime = s.mLastPollTime)
    (hevents : s'.events = s.events ++ (poll pages p.i [dev]).2) :
    Underway m { p with i := p.i + 1, requesting := false, pages := pages } s' := by
  refine ⟨h.due, h.last, hi, nofun, ?_, htime.trans h.time, ?_⟩
  · show _ = (poll pages 0 (m.mDevices.take (p.i + 1))).1 ++ m.mDevices.drop (p.i + 1) ++ _
    rw [poll_take_succ hdev, hpages, hdevices, List.append_assoc, List.append_assoc]
  · show _ = m.events ++ (poll pages 0 (m.mDevices.take (p.i + 1))).2
    rw [poll_take_succ hdev, hpages, hevents, h.events, List.append_assoc]

/-- INTERNAL: the devices around the one that the loop is at. -/
theorem Underway.items_split (h : Underway m p s) {dev : Device}
    (hdev : m.mDevices[p.i]? = some dev) :
    s.mDevices.items = (poll p.pages 0 (m.mDevices.take p.i)).1 ++
      (dev :: (m.mDevices.drop (p.i + 1) ++ p.added.map newDevice)) := by
  rw [h.devices, List.drop_eq_getElem?_toList_append, hdev, Option.toList_some, List.append_assoc,
    List.singleton_append, List.cons_append]

/-- INTERNAL: the loop begins a turn. -/
theorem ThreadsOk.turn (h : ThreadsOk s) {t : ℤ} (hstep : s.turn t = some s') : ThreadsOk s' := by
  unfold WeatherThreads.turn at hstep
  split at hstep
  case h_1 => cases hstep
  case h_2 hloop =>
    have hserial := h.serial hloop
    split at hstep
    case isTrue hdue =>
      obtain rfl := Option.some.inj hstep
      refine ⟨h.defined, ?_, nofun, ?_, h.four⟩
      · rintro p hp -
        cases hp
        rfl
      · intro p hp
        cases hp
        show Underway (afterCalls s.calls) _ _
        rw [← hserial]
        refine ⟨hdue, rfl, Nat.zero_le _, nofun, ?_, rfl, ?_⟩
        · simp [poll, WeatherThreads.module]
        · simp [poll, WeatherThreads.module]
    case isFalse hdue =>
      obtain rfl := Option.some.inj hstep
      refine ⟨h.defined, h.storage, fun _ => ?_, ?_, h.four⟩
      · show s.module = afterCalls (s.calls ++ _)
        rw [afterCalls_append, ← hserial]
        exact (if_neg hdue).symm
      · intro p hp
        rw [show s.loop = some p from hp] at hloop
        cases hloop

/-- INTERNAL: the loop polls one device. -/
theorem ThreadsOk.device (h : ThreadsOk s) (hstep : s.device = some s') : ThreadsOk s' := by
  unfold WeatherThreads.device at hstep
  split at hstep
  case h_1 => cases hstep
  case h_2 p hloop =>
    have hunder := h.underway p hloop
    split at hstep
    case isTrue => cases hstep
    case isFalse hidle =>
      split at hstep
      case isTrue hi =>
        obtain ⟨dev, hdev, hitem⟩ := h.dev hloop hi
        rw [hdev] at hstep
        dsimp only at hstep
        split at hstep
        case isTrue hserver =>
          obtain rfl := Option.some.inj hstep
          refine ⟨h.defined, ?_, nofun, ?_, h.four⟩
          · intro q hq _
            cases hq
            exact h.storage p hloop hi
          · intro q hq
            cases hq
            refine { hunder with requesting := fun _ => ⟨hi, fun dev' hdev' => ?_⟩ }
            obtain rfl := Option.some.inj (hitem.symm.trans hdev')
            exact hserver
        case isFalse hserver =>
          obtain rfl := Option.some.inj hstep
          have hkept : poll p.pages p.i [dev] = ([dev], []) := by simp [poll, hserver]
          have hidle' : p.requesting = false := Bool.not_eq_true _ ▸ hidle
          refine ⟨h.defined, ?_, nofun, ?_, h.four⟩
          · intro q hq _
            cases hq
            exact h.storage p hloop hi
          · intro q hq
            cases hq
            have hnext : Underway (afterCalls s.calls)
                { p with i := p.i + 1, requesting := false, pages := p.pages }
                { s with loop := some { p with i := p.i + 1 } } := by
              refine hunder.next hi hitem rfl ?_ rfl ?_
              · rw [hkept]
                exact hunder.items_split hitem
              · rw [hkept]
                exact (List.append_nil _).symm
            rw [← hidle'] at hnext
            exact hnext
      case isFalse hi =>
        obtain rfl := Option.some.inj hstep
        refine ⟨h.defined, nofun, fun _ => hunder.over hi, nofun, h.four⟩

/-- INTERNAL: `getURL` returns, and the device is written where it still is.
SOURCE: WeatherModule.cpp:135-148 -/
theorem ThreadsOk.getURL (h : ThreadsOk s) {st : CString} (hstep : s.getURL st = some s') :
    ThreadsOk s' := by
  unfold WeatherThreads.getURL at hstep
  split at hstep
  case h_1 => cases hstep
  case h_2 p hloop =>
    have hunder := h.underway p hloop
    split at hstep
    case isFalse => cases hstep
    case isTrue hrequesting =>
      obtain ⟨hi, hserver⟩ := hunder.requesting hrequesting
      obtain ⟨dev, hdev, hitem⟩ := h.dev hloop hi
      rw [hdev] at hstep
      obtain rfl := Option.some.inj hstep
      have hpolled : poll (Function.update p.pages p.i st) p.i [dev] =
          ([update dev st], if (update dev st).mRunStatus ≠ dev.mRunStatus then
            [⟨p.i, (update dev st).mRunStatus⟩] else []) := by
        simp [poll, hserver dev hitem]
      refine ⟨h.defined, ?_, nofun, ?_, ?_⟩
      · intro q hq _
        cases hq
        exact h.storage p hloop hi
      · intro q hq
        cases hq
        refine hunder.next hi hitem (poll_take_update p.pages st) ?_ rfl ?_
        · have hlength :
              (poll p.pages 0 ((afterCalls s.calls).mDevices.take p.i)).1.length = p.i := by
            have hlast := hunder.last
            rw [length_poll, List.length_take, Nat.min_eq_left (by omega)]
          rw [hpolled, GrowingVector.items_set, hunder.items_split hitem,
            List.set_append_right _ _ (Nat.le_of_eq hlength), hlength, Nat.sub_self]
          rfl
        · rw [hpolled]
      · intro dev' hdev'
        rcases List.mem_or_eq_of_mem_set hdev' with hmem | rfl
        · exact h.four dev' hmem
        · rfl

/-- INTERNAL: a device is added without moving the others. -/
theorem ThreadsOk.setIP (h : ThreadsOk s) {ip : CString} (hroom : HasRoom s (.setIP ip)) :
    ThreadsOk (s.setIP g ip) := by
  have hfour : ∀ dev ∈ (s.mDevices.push_back g (newDevice ip)).items,
      dev.mTemperatures.length = 4 := by
    rw [GrowingVector.items_push_back]
    intro dev hdev
    rcases List.mem_append.mp hdev with hmem | hmem
    · exact h.four dev hmem
    · obtain rfl := List.mem_singleton.mp hmem
      rfl
  unfold WeatherThreads.setIP
  split
  case h_1 hloop =>
    refine ⟨h.defined, ?_, fun _ => ?_, ?_, hfour⟩
    · intro p hp
      cases hloop.symm.trans hp
    · show (⟨_, _, _⟩ : WeatherModule) = afterCalls (s.calls ++ [.setIP ip])
      rw [afterCalls_append, ← h.serial hloop, GrowingVector.items_push_back]
      rfl
    · intro p hp
      cases hloop.symm.trans hp
  case h_2 p hloop =>
    have hunder := h.underway p hloop
    refine ⟨h.defined, ?_, nofun, ?_, hfour⟩
    · intro q hq hi
      cases hq
      have hkept := (GrowingVector.allocation_push_back_eq_iff g s.mDevices (newDevice ip)).mpr
        (hroom p hloop hi)
      exact (h.storage p hloop hi).trans hkept.symm
    · intro q hq
      cases hq
      refine { hunder with devices := ?_ }
      simp [hunder.devices]

/-- INTERNAL: the alarm reads the devices. -/
theorem ThreadsOk.alarm (h : ThreadsOk s) (hroom : HasRoom s .alarm) : ThreadsOk s.alarm := by
  unfold WeatherThreads.alarm
  split
  case h_1 hnone => exact absurd ((appendPeriodicData_eq_none_iff _).mp hnone) hroom
  case h_2 => exact h

/-- INTERNAL: **one step that leaves the devices where they are.** -/
theorem step_threadsOk {a : Act} (h : ThreadsOk s) (hroom : HasRoom s a)
    (hstep : step g s a = some s') : ThreadsOk s' := by
  unfold step at hstep
  rw [if_neg (by simp [h.defined])] at hstep
  cases a with
  | turn t => exact h.turn hstep
  | device => exact h.device hstep
  | getURL st => exact h.getURL hstep
  | setIP ip =>
    obtain rfl := Option.some.inj hstep
    exact h.setIP hroom
  | alarm =>
    obtain rfl := Option.some.inj hstep
    exact h.alarm hroom

/-- INTERNAL: the invariant says that the storage is intact. -/
theorem ThreadsOk.intact (h : ThreadsOk s) : Intact s :=
  ⟨h.defined, h.storage, h.serial, fun _ => temperatures_appendPeriodicData h.four⟩

/-- INTERNAL: at first no call has been made. -/
theorem threadsOk_init : ThreadsOk init := ⟨rfl, nofun, fun _ => rfl, nofun, nofun⟩

/-- INTERNAL: without room, the state is no longer intact. -/
theorem Intact.hasRoom {a : Act} (h : ThreadsOk s) (hstep : step g s a = some s')
    (hintact : Intact s') : HasRoom s a := by
  unfold step at hstep
  rw [if_neg (by simp [h.defined])] at hstep
  cases a with
  | setIP ip =>
    intro p hloop hi
    obtain rfl := Option.some.inj hstep
    unfold WeatherThreads.setIP at hintact
    rw [hloop] at hintact
    have hstorage := hintact.storage _ rfl hi
    rw [← GrowingVector.allocation_push_back_eq_iff g s.mDevices (newDevice ip)]
    exact hstorage.symm.trans (h.storage p hloop hi)
  | alarm =>
    intro hnone
    obtain rfl := Option.some.inj hstep
    unfold WeatherThreads.alarm at hintact
    rw [(appendPeriodicData_eq_none_iff s.module).mpr hnone] at hintact
    cases hintact.defined
  | _ => trivial

end Steps

/-- **The two threads and the alarm do what their calls do one after the other, and nothing
undefined, exactly in the runs in which no device is added to a full vector while the loop has a
device to go, and no timer event is built without a device.**
SOURCE: WeatherModule.cpp:118-175, 219-232 -/
theorem intact_throughout_iff (g : Growth) (acts : List Act) :
    Throughout (step g) Intact init acts ↔ Along (step g) HasRoom init acts := by
  refine throughout_iff_along (fun s h => ThreadsOk.intact h) ?_ ?_ threadsOk_init
  · exact fun s a s' h hroom hstep => step_threadsOk h hroom hstep
  · exact fun s a s' h hstep hintact => hintact.hasRoom h hstep

end Dhas.Analysis.DeviceStorage
