import Mathlib.Data.List.Chain
import Dhas.Model.WeatherPolls

/-!
# The status of a thermostat and the polls that fail

`run` takes the text of a failed request for a document in which nothing is on, so a failed poll
turns the status of a device to `off`. That is a change, with an event, unless the status was
`off` before.

`Follows` says what a turn may do to the status of each device, `EventsAtChanges` which events
belong to it, and `Alternates` what the events of one device look like.
-/

set_option autoImplicit false

namespace Dhas.Analysis.ThermostatModes

open Dhas.Library Dhas.Program Dhas.Program.WeatherModule Dhas.Model Dhas.Model.WeatherPolls

/-- An element with the name says 1. -/
def isOn (p : XMLPattern) (text : CString) : Prop := p.regex_search text = some ['1']

instance (p : XMLPattern) (text : CString) : Decidable (isOn p text) :=
  inferInstanceAs (Decidable (p.regex_search text = some ['1']))

/-- What a document says of the thermostat. -/
def modeOf (text : CString) : HeatMode :=
  if isOn coolPattern text then .cool else if isOn heatPattern text then .heat else .off

/-- The status of the device with this number. -/
def statusOf (devices : List Device) (i : ℕ) : HeatMode :=
  (devices[i]?.map Device.mRunStatus).getD .off

/-- The device is polled in a turn at time `t`. -/
def Polled (m : WeatherModule) (t : ℤ) (i : ℕ) : Prop :=
  m.mLastPollTime ≤ t ∧ ∃ dev, m.mDevices[i]? = some dev ∧ dev.mServer ≠ []

/-- The status of a device is what the document says that a poll of it returned, and else what it
was. -/
def Follows (m : WeatherModule) : Act → Prop
  | .turn t pages => ∀ i,
      (Polled m t i → IsDocument (pages i).text →
        statusOf (next m (.turn t pages)).mDevices i = modeOf (pages i).text) ∧
      (¬ (Polled m t i ∧ IsDocument (pages i).text) →
        statusOf (next m (.turn t pages)).mDevices i = statusOf m.mDevices i)
  | .setIP ip => ∀ i, statusOf (next m (.setIP ip)).mDevices i = statusOf m.mDevices i

/-- The changes of the status from one list of devices to another, from number `i` on. -/
def changes : ℕ → List Device → List Device → List ModeChange
  | i, dev :: devices, dev' :: devices' =>
    if dev'.mRunStatus ≠ dev.mRunStatus then
      ⟨i, dev'.mRunStatus⟩ :: changes (i + 1) devices devices'
    else changes (i + 1) devices devices'
  | _, _, _ => []

/-- The events are those of the changes. -/
def EventsAtChanges (m : WeatherModule) (act : Act) : Prop :=
  (next m act).events = m.events ++ changes 0 m.mDevices (next m act).mDevices

/-- The status in each event of a device. -/
def statuses (events : List ModeChange) (i : ℕ) : List HeatMode :=
  (events.filter fun e => e.devid = i).map ModeChange.status

/-- The first event of a device is not about `off`, and each later one is about another status
than the one before it. -/
def Alternates (m : WeatherModule) : Prop :=
  ∀ i, (HeatMode.off :: statuses m.events i).IsChain (· ≠ ·)

/-- A poll fails only when the status of the device is `off`. -/
def FailsWhenOff (m : WeatherModule) : Act → Prop
  | .turn t pages => ∀ i, Polled m t i → Failed (pages i).text → statusOf m.mDevices i = .off
  | .setIP _ => True

/-! ## A page -/

section Page

variable {text : CString}

/-- INTERNAL: a match begins with an opening tag. -/
theorem exists_of_matchAt {p : XMLPattern} {v : CString} (h : p.matchAt text = some v) :
    ∃ tag ∈ p.tags, ∃ after, text = XMLPattern.opening tag ++ after := by
  obtain ⟨tag, htag, hmatch⟩ := List.exists_of_findSome?_eq_some h
  unfold XMLPattern.matchTag at hmatch
  split at hmatch
  case isTrue hprefix =>
    obtain ⟨after, hafter⟩ := List.isPrefixOf_iff_prefix.mp hprefix
    exact ⟨tag, htag, after, hafter.symm⟩
  case isFalse => cases hmatch

/-- INTERNAL: what the search finds stands behind an opening tag. -/
theorem exists_of_regex_search {p : XMLPattern} {v : CString} (h : p.regex_search text = some v) :
    ∃ tag ∈ p.tags, ∃ before after, text = before ++ XMLPattern.opening tag ++ after := by
  induction text with
  | nil =>
    obtain ⟨tag, htag, after, hafter⟩ := exists_of_matchAt h
    exact ⟨tag, htag, [], after, hafter⟩
  | cons c cs ih =>
    unfold XMLPattern.regex_search at h
    rcases Option.or_eq_some_iff.mp h with hhere | ⟨-, hlater⟩
    · obtain ⟨tag, htag, after, hafter⟩ := exists_of_matchAt hhere
      exact ⟨tag, htag, [], after, hafter⟩
    · obtain ⟨tag, htag, before, after, rfl⟩ := ih hlater
      exact ⟨tag, htag, c :: before, after, rfl⟩

/-- INTERNAL: nothing is found in a text without the tags. -/
theorem regex_search_failed {p : XMLPattern} (hfailed : Failed text)
    (htags : ∀ tag ∈ p.tags, tag ∈ expectedTags) : p.regex_search text = none := by
  rw [Option.eq_none_iff_forall_ne_some]
  intro v hv
  obtain ⟨tag, htag, before, after, hsplit⟩ := exists_of_regex_search hv
  exact findSub_eq_none_iff.mp (hfailed tag (htags tag htag)) before after hsplit

/-- INTERNAL: a request that failed brings no document. -/
theorem not_isDocument_of_failed (hfailed : Failed text) : ¬ IsDocument text := by
  intro hdocument
  have hnone := regex_search_failed (p := heatPattern) hfailed (by decide)
  rw [IsDocument, hnone] at hdocument
  exact absurd hdocument.1 (by decide)

/-- INTERNAL: the value of a look-up is compared with "1". -/
theorem getXMLValue_eq_one_iff (p : XMLPattern) :
    getXMLValue text p = "1".toList ↔ isOn p text := by
  unfold getXMLValue isOn
  cases p.regex_search text with
  | none => decide
  | some v =>
    show v = ['1'] ↔ some v = some ['1']
    rw [Option.some_inj]

/-- INTERNAL: **the status after a poll is what the text says.**
SOURCE: WeatherModule.cpp:92-117, 136-140 -/
theorem update_mRunStatus (dev : Device) (text : CString) :
    (update dev text).mRunStatus = modeOf text := by
  unfold update parseState modeOf
  simp only [getXMLValue_eq_one_iff, decide_eq_true_eq]

/-- INTERNAL: **a failed request says that nothing is on.** -/
theorem modeOf_failed (hfailed : Failed text) : modeOf text = .off := by
  have hoff {p : XMLPattern} (htags : ∀ tag ∈ p.tags, tag ∈ expectedTags) : ¬ isOn p text := by
    unfold isOn
    rw [regex_search_failed hfailed htags]
    exact Option.some_ne_none _ ∘ Eq.symm
  unfold modeOf
  rw [if_neg (hoff (by decide)), if_neg (hoff (by decide))]

end Page

/-! ## A poll -/

section Poll

variable {getURL : ℕ → CString} {devices devices' : List Device} {i k : ℕ}

/-- INTERNAL: what the loop leaves of a device. SOURCE: WeatherModule.cpp:131-153 -/
theorem getElem?_poll (devices : List Device) (k i : ℕ) :
    (poll getURL k devices).1[i]? = devices[i]?.map fun dev =>
      if dev.mServer ≠ [] then update dev (getURL (k + i)) else dev := by
  induction devices generalizing k i with
  | nil => rfl
  | cons dev devices ih =>
    cases i with
    | zero =>
      unfold poll
      split
      case isTrue hserver => simp [hserver]
      case isFalse hserver => simp [hserver]
    | succ i =>
      have hrest := ih (k + 1) i
      rw [Nat.add_right_comm k 1 i] at hrest
      unfold poll
      split
      case isTrue => exact hrest
      case isFalse => exact hrest

/-- INTERNAL: **the loop emits an event for every change.** -/
theorem poll_events (devices : List Device) (k : ℕ) :
    (poll getURL k devices).2 = changes k devices (poll getURL k devices).1 := by
  induction devices generalizing k with
  | nil => rfl
  | cons dev devices ih =>
    unfold poll
    split
    case isTrue =>
      show _ = changes k (dev :: devices) (update dev (getURL k) :: (poll getURL (k + 1) devices).1)
      rw [changes, ← ih]
    case isFalse =>
      show _ = changes k (dev :: devices) (dev :: (poll getURL (k + 1) devices).1)
      rw [changes, if_neg (by simp), ih]

/-- INTERNAL: a poll keeps every device. -/
theorem length_poll (devices : List Device) (k : ℕ) :
    (poll getURL k devices).1.length = devices.length := by
  induction devices generalizing k with
  | nil => rfl
  | cons dev devices ih =>
    unfold poll
    split
    case isTrue => exact congrArg Nat.succ (ih (k + 1))
    case isFalse => exact congrArg Nat.succ (ih (k + 1))

/-- INTERNAL: the status of a device that is listed. -/
theorem statusOf_of_getElem? {dev : Device} (h : devices[i]? = some dev) :
    statusOf devices i = dev.mRunStatus := by
  unfold statusOf
  rw [h]
  rfl

/-- INTERNAL: nothing changes from a list to itself, or to one that goes on. -/
theorem changes_append (devices more : List Device) (k : ℕ) :
    changes k devices (devices ++ more) = [] := by
  induction devices generalizing k with
  | nil => cases more <;> rfl
  | cons dev devices ih =>
    show changes k (dev :: devices) (dev :: (devices ++ more)) = []
    rw [changes, if_neg (by simp), ih]

/-- INTERNAL: the first event is about the device, or about another one. -/
theorem statuses_cons (e : ModeChange) (events : List ModeChange) (i : ℕ) :
    statuses (e :: events) i =
      if e.devid = i then e.status :: statuses events i else statuses events i := by
  unfold statuses
  by_cases hi : e.devid = i
  · simp [hi]
  · simp [hi]

/-- INTERNAL: the events of one device. -/
theorem statuses_changes (hlength : devices'.length = devices.length) (k i : ℕ) :
    statuses (changes k devices devices') i =
      if k ≤ i ∧ statusOf devices' (i - k) ≠ statusOf devices (i - k) then
        [statusOf devices' (i - k)]
      else [] := by
  induction devices generalizing devices' k with
  | nil =>
    rw [List.length_eq_zero_iff.mp hlength]
    simp [changes, statuses]
  | cons dev devices ih =>
    obtain ⟨dev', devices', rfl⟩ : ∃ d ds, devices' = d :: ds :=
      List.exists_cons_of_length_eq_add_one hlength
    have hrest := ih (Nat.succ.inj hlength) (k + 1)
    have hhead : statusOf (dev :: devices) 0 = dev.mRunStatus := rfl
    have hhead' : statusOf (dev' :: devices') 0 = dev'.mRunStatus := rfl
    have hfirst : statuses (changes k (dev :: devices) (dev' :: devices')) i =
        if dev'.mRunStatus ≠ dev.mRunStatus ∧ k = i then
          dev'.mRunStatus :: statuses (changes (k + 1) devices devices') i
        else statuses (changes (k + 1) devices devices') i := by
      rw [changes]
      by_cases hchange : dev'.mRunStatus ≠ dev.mRunStatus
      · rw [if_pos hchange, statuses_cons]
        simp [hchange]
      · simp [hchange]
    rw [hfirst, hrest]
    rcases Nat.lt_trichotomy i k with hlt | rfl | hgt
    · rw [if_neg (by omega), if_neg (by omega), if_neg (by omega)]
    · rw [Nat.sub_self, hhead, hhead', if_neg (c := i + 1 ≤ i ∧ _) (by omega)]
      simp
    · obtain ⟨j, rfl⟩ : ∃ j, i = k + 1 + j := ⟨i - (k + 1), by omega⟩
      have hsub : k + 1 + j - (k + 1) = j := by omega
      have hsub' : k + 1 + j - k = j + 1 := by omega
      have htail : statusOf (dev :: devices) (j + 1) = statusOf devices j := rfl
      have htail' : statusOf (dev' :: devices') (j + 1) = statusOf devices' j := rfl
      rw [if_neg (by omega), hsub, hsub', htail, htail']
      simp [Nat.add_assoc]

end Poll

/-! ## A turn of the loop -/

section Turn

variable {m : WeatherModule} {t : ℤ} {pages : ℕ → StatePage} {i : ℕ}

/-- INTERNAL: a turn in which the time has come. SOURCE: WeatherModule.cpp:125-155 -/
theorem next_turn_due (hdue : m.mLastPollTime ≤ t) (pages : ℕ → StatePage) :
    next m (.turn t pages) =
      { mLastPollTime := t + 30
        mDevices := (poll (fun i => (pages i).text) 0 m.mDevices).1
        events := m.events ++ (poll (fun i => (pages i).text) 0 m.mDevices).2 } := if_pos hdue

/-- INTERNAL: a turn before its time does nothing. -/
theorem next_turn_early (hdue : ¬ m.mLastPollTime ≤ t) (pages : ℕ → StatePage) :
    next m (.turn t pages) = m := if_neg hdue

/-- INTERNAL: **a device that is polled gets the status that the text says.** -/
theorem statusOf_polled (hpolled : Polled m t i) :
    statusOf (next m (.turn t pages)).mDevices i = modeOf (pages i).text := by
  obtain ⟨hdue, dev, hdev, hserver⟩ := hpolled
  have hafter : (next m (.turn t pages)).mDevices[i]? = some (update dev (pages i).text) := by
    rw [next_turn_due hdue, getElem?_poll, hdev, Option.map_some, if_pos hserver, Nat.zero_add]
  rw [statusOf_of_getElem? hafter, update_mRunStatus]

/-- INTERNAL: a device that is not polled keeps its status. -/
theorem statusOf_not_polled (hpolled : ¬ Polled m t i) :
    statusOf (next m (.turn t pages)).mDevices i = statusOf m.mDevices i := by
  by_cases hdue : m.mLastPollTime ≤ t
  · rw [next_turn_due hdue]
    unfold statusOf
    rw [getElem?_poll]
    cases hdev : m.mDevices[i]? with
    | none => rfl
    | some dev =>
      have hserver : ¬ dev.mServer ≠ [] := fun hserver => hpolled ⟨hdue, dev, hdev, hserver⟩
      rw [Option.map_some, if_neg hserver]
  · rw [next_turn_early hdue]

/-- INTERNAL: a new device is `off`, as one that is not there. -/
theorem statusOf_setIP (m : WeatherModule) (ip : CString) (i : ℕ) :
    statusOf (next m (.setIP ip)).mDevices i = statusOf m.mDevices i := by
  unfold next setIP_callback statusOf
  rcases Nat.lt_trichotomy i m.mDevices.length with hlt | rfl | hgt
  · rw [List.getElem?_append_left hlt]
  · rw [List.getElem?_concat_length, List.getElem?_eq_none (Nat.le_refl _)]
    rfl
  · have hle (dev : Device) : (m.mDevices ++ [dev]).length ≤ i := by
      rw [List.length_append]
      exact hgt
    rw [List.getElem?_eq_none (hle _), List.getElem?_eq_none (Nat.le_of_lt hgt)]

/-- INTERNAL: **a step changes only what documents say exactly when it does not poll in vain a
device that is on.** -/
theorem follows_iff (m : WeatherModule) (act : Act) : Follows m act ↔ FailsWhenOff m act := by
  cases act with
  | turn t pages =>
    constructor
    · intro hfollows i hpolled hfailed
      have hkept := (hfollows i).2 fun h => not_isDocument_of_failed hfailed h.2
      rw [statusOf_polled hpolled, modeOf_failed hfailed] at hkept
      exact hkept.symm
    · intro hfails i
      refine ⟨fun hpolled _ => statusOf_polled hpolled, fun hnot => ?_⟩
      by_cases hpolled : Polled m t i
      · have hfailed : Failed (pages i).text :=
          (pages i).ok.resolve_left fun hdocument => hnot ⟨hpolled, hdocument⟩
        rw [statusOf_polled hpolled, modeOf_failed hfailed, hfails i hpolled hfailed]
      · exact statusOf_not_polled hpolled
  | setIP ip => exact iff_of_true (statusOf_setIP m ip) trivial

/-- INTERNAL: **every step emits an event for every change.** -/
theorem eventsAtChanges (m : WeatherModule) (act : Act) : EventsAtChanges m act := by
  unfold EventsAtChanges
  cases act with
  | turn t pages =>
    by_cases hdue : m.mLastPollTime ≤ t
    · rw [next_turn_due hdue, poll_events]
    · rw [next_turn_early hdue]
      have hsame := changes_append m.mDevices [] 0
      rw [List.append_nil] at hsame
      rw [hsame, List.append_nil]
  | setIP ip =>
    unfold next setIP_callback
    rw [changes_append, List.append_nil]

end Turn

/-! ## The history -/

section History

/-- The last event of a device is about its status, and the events alternate. -/
def HistoryOk (m : WeatherModule) : Prop :=
  ∀ i, (HeatMode.off :: statuses m.events i).getLast? = some (statusOf m.mDevices i) ∧
    (HeatMode.off :: statuses m.events i).IsChain (· ≠ ·)

/-- INTERNAL: at first there is no device and no event. -/
theorem historyOk_new : HistoryOk .new := by
  intro i
  refine ⟨?_, List.isChain_singleton _⟩
  rfl

/-- INTERNAL: the events of a device in the events of a step. -/
theorem statuses_step (m : WeatherModule) (act : Act) (i : ℕ) :
    statuses (next m act).events i =
      statuses m.events i ++
        if statusOf (next m act).mDevices i ≠ statusOf m.mDevices i then
          [statusOf (next m act).mDevices i]
        else [] := by
  have hevents : (next m act).events = m.events ++ changes 0 m.mDevices (next m act).mDevices :=
    eventsAtChanges m act
  have happend : statuses (next m act).events i =
      statuses m.events i ++ statuses (changes 0 m.mDevices (next m act).mDevices) i := by
    unfold statuses
    rw [hevents, List.filter_append, List.map_append]
  rw [happend]
  congr 1
  cases act with
  | turn t pages =>
    have hlength : (next m (.turn t pages)).mDevices.length = m.mDevices.length := by
      by_cases hdue : m.mLastPollTime ≤ t
      · rw [next_turn_due hdue]
        exact length_poll _ _
      · rw [next_turn_early hdue]
    rw [statuses_changes hlength]
    simp
  | setIP ip =>
    have hnone : changes 0 m.mDevices (next m (.setIP ip)).mDevices = [] := changes_append _ _ _
    rw [hnone, statusOf_setIP, if_neg (by simp)]
    rfl

/-- INTERNAL: every step keeps the history. -/
theorem historyOk_step {m : WeatherModule} (h : HistoryOk m) (act : Act) :
    HistoryOk (next m act) := by
  intro i
  obtain ⟨hlast, hchain⟩ := h i
  rw [statuses_step]
  by_cases hchange : statusOf (next m act).mDevices i ≠ statusOf m.mDevices i
  · rw [if_pos hchange, ← List.cons_append]
    refine ⟨List.getLast?_concat, ?_⟩
    apply List.isChain_append.mpr
    refine ⟨hchain, List.isChain_singleton _, fun x hx y hy => ?_⟩
    obtain rfl : statusOf m.mDevices i = x := Option.some.inj (hlast.symm.trans hx)
    obtain rfl : statusOf (next m act).mDevices i = y := Option.some.inj hy
    exact hchange.symm
  · rw [if_neg hchange, List.append_nil, not_not.mp hchange]
    exact ⟨hlast, hchain⟩

end History

/-- **A failed poll changes nothing in exactly the runs in which every poll that fails finds its
device `off`.** The devices are any, and so are the polls, of which each returns a document or
fails. The status changes only as documents say, the events are those of the changes, and so
the events of each device alternate.
SOURCE: WeatherModule.cpp:84-156 -/
theorem polls_follow_iff (acts : List Act) :
    (Along step Follows .new acts ∧ Along step EventsAtChanges .new acts ∧
        Throughout step Alternates .new acts) ↔
      Along step FailsWhenOff .new acts := by
  have hfollows : Along step Follows .new acts ↔ Along step FailsWhenOff .new acts :=
    along_iff_along (I := fun _ => True) (fun m act _ _ _ => follows_iff m act)
      (fun _ _ _ _ _ _ => trivial) trivial
  have hevents : Along step EventsAtChanges .new acts :=
    along_of_invariant (I := fun _ => True) (fun m act _ _ _ => eventsAtChanges m act)
      (fun _ _ _ _ _ => trivial) trivial
  have hhistory : Throughout step Alternates .new acts := by
    refine throughout_invariant (I := HistoryOk) (fun m h i => (h i).2) ?_ historyOk_new
    intro m act m' h hstep
    obtain rfl := Option.some.inj hstep
    exact historyOk_step h act
  rw [hfollows]
  exact and_iff_left ⟨hevents, hhistory⟩

/-- A document of a thermostat that heats. -/
def heatingPage : StatePage where
  text := "<state><heat>1</heat><cool>0</cool></state>".toList
  ok := Or.inl (by
    unfold IsDocument
    decide +kernel)

/-- The text of a request that failed. -/
def failedPage : StatePage where
  text := []
  ok := Or.inr (by
    unfold Failed
    decide +kernel)

/-- **The heating of a device seems to stop when a poll fails.** -/
theorem failedPage_stops_heating :
    ¬ (Along step Follows .new [.setIP "10.0.0.7".toList, .turn 0 fun _ => heatingPage,
          .turn 30 fun _ => failedPage] ∧
        Along step EventsAtChanges .new [.setIP "10.0.0.7".toList, .turn 0 fun _ => heatingPage,
          .turn 30 fun _ => failedPage] ∧
        Throughout step Alternates .new [.setIP "10.0.0.7".toList, .turn 0 fun _ => heatingPage,
          .turn 30 fun _ => failedPage]) := by
  rintro ⟨hfollows, -, -⟩
  let added := next .new (.setIP "10.0.0.7".toList)
  let heating := next added (.turn 0 fun _ => heatingPage)
  have hturn : Follows heating (.turn 30 fun _ => failedPage) :=
    (((hfollows added rfl).2 heating rfl).2 _ rfl).1
  have hdocument : ¬ IsDocument failedPage.text := by
    unfold IsDocument
    decide
  have hkept := (hturn 0).2 fun h => hdocument h.2
  have hstatus : statusOf heating.mDevices 0 = .heat := by decide +kernel
  have hstopped : statusOf (next heating (.turn 30 fun _ => failedPage)).mDevices 0 = .off := by
    decide +kernel
  rw [hstatus, hstopped] at hkept
  cases hkept

end Dhas.Analysis.ThermostatModes
