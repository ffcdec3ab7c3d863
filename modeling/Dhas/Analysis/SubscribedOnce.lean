import Dhas.Library.Trace
import Dhas.Model.Subscriptions

/-!
# One subscription for each device

`subscribeBLF` looks for the device in a list that a subscription enters when the server has
answered, and leaves when its status becomes "terminated", whether it has ended or a NOTIFY says
so. `listed_iff` says which subscriptions are in the list. A device is subscribed twice exactly when
it is requested while one of its open subscriptions is not.
-/

set_option autoImplicit false

namespace Dhas.Analysis.SubscribedOnce

open Dhas.Library Dhas.Program Dhas.Program.PhoneBLF Dhas.Model Dhas.Model.Subscriptions

/-- A SUBSCRIBE for the device was sent, and has not ended. -/
def OpenFor (trace : List SubscriptionEvent) (pSub : ℕ) (device : CString) : Prop :=
  .sent pSub device ∈ trace ∧ .terminated pSub ∉ trace

/-- At most one SUBSCRIBE for each device is open. -/
def AtMostOne (s : Subscriptions) : Prop :=
  ∀ device p q, OpenFor s.trace p device → OpenFor s.trace q device → p = q

/-- The subscription was announced, and no NOTIFY since has changed its status to
"terminated". -/
def Shown (trace : List SubscriptionEvent) (pSub : ℕ) : Prop :=
  Since (fun _ e => e = .announced pSub) (· ≠ .statusChanged pSub "terminated".toList) trace

/-- A device is requested only when all its open subscriptions are shown. -/
def ShownAtRequest (s : Subscriptions) : Act → Prop
  | .request device => ∀ p, OpenFor s.trace p device → Shown s.trace p
  | _ => True

/-- What the list and the objects have to do with the past. -/
structure ListOk (s : Subscriptions) : Prop where
  listed : ∀ p, p ∈ s.phone.mBLFList ↔ Open s.trace p ∧ Shown s.trace p
  status : ∀ p shown, s.phone.mBLFList.lookup p = some shown → shown ≠ "terminated".toList
  named : ∀ p device, .sent p device ∈ s.trace → (s.phone.subscriptions p).mDevice = device
  created : ∀ p device, .sent p device ∈ s.trace → p < s.phone.created
  sent : ∀ p, .announced p ∈ s.trace ∨ .terminated p ∈ s.trace → p < s.phone.created

/-! ## The list -/

section List

variable (m : PhoneBLF) (pSub : ℕ)

/-- INTERNAL: the status of a subscription is not the list. -/
@[simp] theorem setDeviceStatus_mBLFList (status : CString) :
    (m.setDeviceStatus pSub status).mBLFList = m.mBLFList := rfl

/-- INTERNAL: the status of a subscription creates none. -/
@[simp] theorem setDeviceStatus_created (status : CString) :
    (m.setDeviceStatus pSub status).created = m.created := rfl

/-- INTERNAL: the subscription has the status that was set. -/
theorem setDeviceStatus_mDeviceStatus (status : CString) :
    ((m.setDeviceStatus pSub status).subscriptions pSub).mDeviceStatus = status := by
  dsimp only [setDeviceStatus]
  rw [Function.update_self]

/-- INTERNAL: the status of a subscription is not its device. -/
@[simp] theorem setDeviceStatus_mDevice (status : CString) (p : ℕ) :
    ((m.setDeviceStatus pSub status).subscriptions p).mDevice = (m.subscriptions p).mDevice := by
  dsimp only [setDeviceStatus]
  by_cases hp : p = pSub
  · subst hp
    rw [Function.update_self]
  · rw [Function.update_of_ne hp]

/-- INTERNAL: a presence creates no subscription. -/
@[simp] theorem onPresence_created : (m.onPresence pSub).created = m.created := by
  dsimp only [onPresence]
  split
  case h_1 => rfl
  case h_2 =>
    split
    case isTrue => rfl
    case isFalse => rfl

/-- INTERNAL: a presence changes no subscription. -/
@[simp] theorem onPresence_subscriptions : (m.onPresence pSub).subscriptions = m.subscriptions := by
  dsimp only [onPresence]
  split
  case h_1 => rfl
  case h_2 =>
    split
    case isTrue => rfl
    case isFalse => rfl

variable {m} (hstatus : ∀ p shown, m.mBLFList.lookup p = some shown → shown ≠ "terminated".toList)
  (status : CString)
include hstatus

/-- INTERNAL: **a subscription leaves the list when its status becomes "terminated", and the others
stay.** SOURCE: PhoneModule.cpp:178-202 -/
theorem lookup_onPresence (p : ℕ) :
    ((m.setDeviceStatus pSub status).onPresence pSub).mBLFList.lookup p =
      if p = pSub then
        if status = "terminated".toList then none else (m.mBLFList.lookup pSub).map fun _ => status
      else m.mBLFList.lookup p := by
  dsimp only [onPresence]
  rw [setDeviceStatus_mDeviceStatus, setDeviceStatus_mBLFList]
  generalize "terminated".toList = ended at hstatus ⊢
  cases hlookup : m.mBLFList.lookup pSub with
  | none =>
    by_cases hp : p = pSub
    · subst hp
      simp [hlookup]
    · simp [hp]
  | some shown =>
    have hshown := hstatus pSub shown hlookup
    by_cases hsame : status = shown
    · subst hsame
      by_cases hp : p = pSub
      · subst hp
        simp [hlookup, hshown]
      · simp [hp]
    · simp only [ne_eq, hsame, not_false_eq_true, if_true]
      by_cases hend : status = ended
      · simp only [hend, if_true]
        by_cases hp : p = pSub
        · subst hp
          rw [AList.lookup_erase, if_pos rfl]
        · rw [AList.lookup_erase_ne hp, AList.lookup_insert_ne hp, if_neg hp]
      · simp only [hend, if_false]
        by_cases hp : p = pSub
        · subst hp
          rw [AList.lookup_insert, if_pos rfl]
          rfl
        · rw [AList.lookup_insert_ne hp, if_neg hp]

/-- INTERNAL: a presence that says it is terminated is taken from the list, and no other. -/
theorem mem_onPresence (p : ℕ) :
    p ∈ ((m.setDeviceStatus pSub status).onPresence pSub).mBLFList ↔
      p ∈ m.mBLFList ∧ ¬ (p = pSub ∧ status = "terminated".toList) := by
  rw [← AList.lookup_isSome, ← AList.lookup_isSome, lookup_onPresence pSub hstatus]
  generalize "terminated".toList = ended
  by_cases hp : p = pSub
  · subst hp
    by_cases hend : status = ended
    · simp [hend]
    · simp [hend]
  · simp [hp]

/-- INTERNAL: no entry of the list shows a terminated subscription. -/
theorem status_onPresence (p : ℕ) (shown : CString)
    (hlookup : ((m.setDeviceStatus pSub status).onPresence pSub).mBLFList.lookup p = some shown) :
    shown ≠ "terminated".toList := by
  rw [lookup_onPresence pSub hstatus] at hlookup
  split at hlookup
  case isTrue =>
    split at hlookup
    case isTrue => cases hlookup
    case isFalse hend =>
      obtain ⟨-, -, rfl⟩ := Option.map_eq_some_iff.mp hlookup
      exact hend
  case isFalse => exact hstatus p shown hlookup

end List

/-! ## The past -/

section Past

variable {trace : List SubscriptionEvent} {p q : ℕ} {device : CString}

/-- INTERNAL: a subscription is open when it is for some device. -/
theorem open_iff : Open trace p ↔ ∃ device, OpenFor trace p device := by
  unfold Open OpenFor
  rw [exists_and_right]

/-- INTERNAL: what was not announced is not shown. -/
theorem not_shown_of_notMem (h : .announced p ∉ trace) : ¬ Shown trace p := by
  intro hshown
  obtain ⟨-, e, he, rfl⟩ := hshown.exists_mem
  exact h he

/-- INTERNAL: what a new event does to what is shown. -/
theorem shown_append_iff (e : SubscriptionEvent) :
    Shown (trace ++ [e]) p ↔
      e = .announced p ∨ Shown trace p ∧ e ≠ .statusChanged p "terminated".toList :=
  since_append_singleton e

/-- INTERNAL: an event that neither sends nor terminates opens and closes nothing. -/
theorem openFor_append_iff {e : SubscriptionEvent} (hsent : e.sentFor = none)
    (hterminated : ∀ q, e ≠ .terminated q) :
    OpenFor (trace ++ [e]) p device ↔ OpenFor trace p device := by
  have hne : SubscriptionEvent.sent p device ≠ e := by
    rintro rfl
    cases hsent
  unfold OpenFor
  simp [hne, (hterminated p).symm]

/-- INTERNAL: the same, whatever the device. -/
theorem open_append_iff {e : SubscriptionEvent} (hsent : e.sentFor = none)
    (hterminated : ∀ q, e ≠ .terminated q) : Open (trace ++ [e]) p ↔ Open trace p := by
  simp only [open_iff]
  exact exists_congr fun device => openFor_append_iff hsent hterminated

/-- INTERNAL: a termination closes its own subscription, and no other. -/
theorem openFor_append_terminated :
    OpenFor (trace ++ [.terminated q]) p device ↔ OpenFor trace p device ∧ p ≠ q := by
  unfold OpenFor
  simp [and_assoc]

/-- INTERNAL: a request that is sent opens its own subscription, for its device. -/
theorem openFor_append_sent {wanted : CString} (hnew : .terminated q ∉ trace) :
    OpenFor (trace ++ [.sent q wanted]) p device ↔
      OpenFor trace p device ∨ p = q ∧ device = wanted := by
  unfold OpenFor
  simp only [List.mem_append, List.mem_singleton, SubscriptionEvent.sent.injEq, reduceCtorEq,
    or_false]
  constructor
  · rintro ⟨hold | hnew, hlive⟩
    · exact Or.inl ⟨hold, hlive⟩
    · exact Or.inr hnew
  · rintro (⟨hold, hlive⟩ | ⟨rfl, rfl⟩)
    · exact ⟨Or.inl hold, hlive⟩
    · exact ⟨Or.inr ⟨rfl, rfl⟩, hnew⟩

end Past

/-! ## Every step -/

section Steps

variable {s s' : Subscriptions}

/-- INTERNAL: at first nothing is subscribed. -/
theorem listOk_init : ListOk init where
  listed p := by
    refine iff_of_false (AList.notMem_empty p) fun h => ?_
    obtain ⟨device, hopen⟩ := open_iff.mp h.1
    cases hopen.1
  status p shown hlookup := by
    rw [init, PhoneBLF.new, AList.lookup_empty] at hlookup
    cases hlookup
  named _ _ hsent := by cases hsent
  created _ _ hsent := by cases hsent
  sent _ h := by rcases h with h | h <;> cases h

/-- INTERNAL: a SUBSCRIBE is sent when no subscription to the device is listed.
SOURCE: PhoneModule.cpp:278-290 -/
theorem subscribeBLF_cases (h : ListOk s) (device : CString) :
    (∃ p, OpenFor s.trace p device ∧ Shown s.trace p) ∧
        s.phone.subscribeBLF device = (s.phone, none) ∨
      (¬ ∃ p, OpenFor s.trace p device ∧ Shown s.trace p) ∧
        s.phone.subscribeBLF device =
          ((PhoneBLF.SIPEngine.subscribeBLF s.phone device).1, some s.phone.created) := by
  have hany : (s.phone.mBLFList.keys.any fun p => (s.phone.subscriptions p).mDevice = device) =
      true ↔ ∃ p, OpenFor s.trace p device ∧ Shown s.trace p := by
    rw [List.any_eq_true]
    refine exists_congr fun p => ?_
    rw [← AList.mem_keys, h.listed p, open_iff, decide_eq_true_eq]
    constructor
    · rintro ⟨⟨⟨named, hopen⟩, hshown⟩, hdevice⟩
      rw [h.named p named hopen.1] at hdevice
      exact ⟨hdevice ▸ hopen, hshown⟩
    · rintro ⟨hopen, hshown⟩
      exact ⟨⟨⟨device, hopen⟩, hshown⟩, h.named p device hopen.1⟩
  unfold PhoneBLF.subscribeBLF
  by_cases hlisted : ∃ p, OpenFor s.trace p device ∧ Shown s.trace p
  · exact Or.inl ⟨hlisted, if_pos (hany.mpr hlisted)⟩
  · exact Or.inr ⟨hlisted, if_neg (mt hany.mp hlisted)⟩

/-- INTERNAL: nothing has been said of an object that is still to be made. -/
theorem ListOk.created_new (h : ListOk s) :
    .announced s.phone.created ∉ s.trace ∧ .terminated s.phone.created ∉ s.trace := by
  rw [← not_or]
  intro hsaid
  exact absurd (h.sent _ hsaid) (Nat.lt_irrefl _)

/-- INTERNAL: what a request does. -/
theorem request_cases (h : ListOk s) {device : CString}
    (hstep : step s (.request device) = some s') :
    (∃ p, OpenFor s.trace p device ∧ Shown s.trace p) ∧ s' = s ∨
      (¬ ∃ p, OpenFor s.trace p device ∧ Shown s.trace p) ∧
        s' = ⟨(PhoneBLF.SIPEngine.subscribeBLF s.phone device).1,
          s.trace ++ [.sent s.phone.created device]⟩ := by
  unfold step at hstep
  rcases subscribeBLF_cases h device with ⟨hlisted, heq⟩ | ⟨hnone, heq⟩
  · simp only [heq] at hstep
    exact Or.inl ⟨hlisted, (Option.some.inj hstep).symm⟩
  · simp only [heq] at hstep
    exact Or.inr ⟨hnone, (Option.some.inj hstep).symm⟩

/-- INTERNAL: a new SUBSCRIBE does not change what is listed. -/
theorem ListOk.sent_append (h : ListOk s) (device : CString) :
    ListOk ⟨(PhoneBLF.SIPEngine.subscribeBLF s.phone device).1,
      s.trace ++ [.sent s.phone.created device]⟩ := by
  obtain ⟨hannounced, hterminated⟩ := h.created_new
  have hother {p : ℕ} {named : CString} (hsent : .sent p named ∈ s.trace) :
      p ≠ s.phone.created := Nat.ne_of_lt (h.created p named hsent)
  refine ⟨fun p => ?_, h.status, fun p named hsent => ?_, fun p named hsent => ?_, fun p hmem => ?_⟩
  · show p ∈ s.phone.mBLFList ↔ _
    rw [h.listed p]
    simp only [open_iff, openFor_append_sent hterminated, shown_append_iff, reduceCtorEq, false_or,
      ne_eq, not_false_eq_true, and_true]
    refine and_congr_left fun hshown => exists_congr fun named => ?_
    refine (or_iff_left_of_imp ?_).symm
    rintro ⟨rfl, -⟩
    exact absurd hshown (not_shown_of_notMem hannounced)
  · rcases List.mem_append.mp hsent with hold | hnew
    · dsimp only [PhoneBLF.SIPEngine.subscribeBLF]
      rw [Function.update_of_ne (hother hold)]
      exact h.named p named hold
    · obtain ⟨rfl, rfl⟩ := SubscriptionEvent.sent.inj (List.mem_singleton.mp hnew)
      dsimp only [PhoneBLF.SIPEngine.subscribeBLF]
      rw [Function.update_self]
  · rcases List.mem_append.mp hsent with hold | hnew
    · exact Nat.lt_succ_of_lt (h.created p named hold)
    · obtain ⟨rfl, rfl⟩ := SubscriptionEvent.sent.inj (List.mem_singleton.mp hnew)
      exact Nat.lt_succ_self _
  · apply Nat.lt_succ_of_lt (h.sent p _)
    simpa using hmem

/-- INTERNAL: what a callback must do to the list and to the objects. -/
theorem ListOk.callback (h : ListOk s) {phone : PhoneBLF} {e : SubscriptionEvent} {pSub : ℕ}
    (hopen : Open s.trace pSub) (hsent : e.sentFor = none)
    (hof : ∀ p, e = .announced p ∨ e = .terminated p → p = pSub)
    (hlist : ∀ p, p ∈ phone.mBLFList ↔ Open (s.trace ++ [e]) p ∧ Shown (s.trace ++ [e]) p)
    (hstatus : ∀ p shown, phone.mBLFList.lookup p = some shown → shown ≠ "terminated".toList)
    (hdevice : ∀ p, (phone.subscriptions p).mDevice = (s.phone.subscriptions p).mDevice)
    (hcreated : phone.created = s.phone.created) : ListOk ⟨phone, s.trace ++ [e]⟩ := by
  have hold {p : ℕ} {named : CString} (hmem : .sent p named ∈ s.trace ++ [e]) :
      .sent p named ∈ s.trace := by
    rcases List.mem_append.mp hmem with hmem | hmem
    · exact hmem
    · rw [← List.mem_singleton.mp hmem] at hsent
      cases hsent
  obtain ⟨⟨named, hnamed⟩, -⟩ := hopen
  have hlt := h.created pSub named hnamed
  refine ⟨hlist, hstatus, fun p device hmem => ?_, fun p device hmem => ?_, fun p hmem => ?_⟩
  · exact (hdevice p).trans (h.named p device (hold hmem))
  · exact hcreated ▸ h.created p device (hold hmem)
  · show p < phone.created
    rw [hcreated]
    simp only [List.mem_append, List.mem_singleton] at hmem
    rcases hmem with (hmem | hmem) | (hmem | hmem)
    · exact h.sent p (Or.inl hmem)
    · exact hof p (Or.inl hmem.symm) ▸ hlt
    · exact h.sent p (Or.inr hmem)
    · exact hof p (Or.inr hmem.symm) ▸ hlt

/-- INTERNAL: an announced subscription enters the list. SOURCE: PhoneModule.cpp:161-171 -/
theorem listOk_announced (h : ListOk s) {pSub : ℕ} (hopen : Open s.trace pSub) :
    ListOk ⟨PhoneBLF.SIPEngine.onNewSubscription s.phone pSub,
      s.trace ++ [.announced pSub]⟩ := by
  have hunknown : "unknown".toList ≠ "terminated".toList := by decide
  have hsame (p : ℕ) : Open (s.trace ++ [.announced pSub]) p ↔ Open s.trace p :=
    open_append_iff rfl fun q => by simp
  unfold PhoneBLF.SIPEngine.onNewSubscription onNewDevicePresence
  by_cases hmem : pSub ∈ s.phone.mBLFList
  · rw [if_pos hmem]
    refine h.callback hopen rfl (by simp) (fun p => ?_) h.status (fun _ => rfl) rfl
    rw [hsame, shown_append_iff, h.listed p]
    refine and_congr_right fun _ => ?_
    simp only [SubscriptionEvent.announced.injEq, ne_eq, reduceCtorEq, not_false_eq_true, and_true]
    refine (or_iff_right_of_imp ?_).symm
    rintro rfl
    exact ((h.listed pSub).mp hmem).2
  · rw [if_neg hmem]
    refine h.callback hopen rfl (by simp) (fun p => ?_) (fun p shown hlookup => ?_) (fun _ => rfl)
      rfl
    · rw [hsame, shown_append_iff, AList.mem_insert, h.listed p]
      simp only [SubscriptionEvent.announced.injEq, ne_eq, reduceCtorEq, not_false_eq_true,
        and_true]
      rw [and_or_left, eq_comm (a := pSub)]
      refine or_congr_left (and_iff_right_of_imp ?_).symm
      rintro rfl
      exact hopen
    · by_cases hp : p = pSub
      · subst hp
        rw [AList.lookup_insert] at hlookup
        rw [← Option.some.inj hlookup]
        exact hunknown
      · rw [AList.lookup_insert_ne hp] at hlookup
        exact h.status p shown hlookup

/-- INTERNAL: a NOTIFY with another status. SOURCE: SIPEngine.cpp:536-544 -/
theorem listOk_statusChanged (h : ListOk s) {pSub : ℕ} (hopen : Open s.trace pSub)
    (status : CString) :
    ListOk ⟨(s.phone.setDeviceStatus pSub status).onPresence pSub,
      s.trace ++ [.statusChanged pSub status]⟩ := by
  have hsame (p : ℕ) : Open (s.trace ++ [.statusChanged pSub status]) p ↔ Open s.trace p :=
    open_append_iff rfl fun q => by simp
  refine h.callback hopen rfl (by simp) (fun p => ?_)
    (fun p shown => status_onPresence pSub h.status status p shown) (fun p => by simp) (by simp)
  rw [mem_onPresence pSub h.status, h.listed p, hsame, shown_append_iff, and_assoc]
  simp only [reduceCtorEq, false_or, ne_eq, SubscriptionEvent.statusChanged.injEq,
    eq_comm (a := pSub)]

/-- INTERNAL: the end of a subscription. SOURCE: SIPEngine.cpp:561-570 -/
theorem listOk_terminated (h : ListOk s) {pSub : ℕ} (hopen : Open s.trace pSub) :
    ListOk ⟨PhoneBLF.SIPEngine.onTerminated s.phone pSub, s.trace ++ [.terminated pSub]⟩ := by
  unfold PhoneBLF.SIPEngine.onTerminated
  refine h.callback hopen rfl (by simp) (fun p => ?_)
    (fun p shown => status_onPresence pSub h.status _ p shown) (fun p => by simp) (by simp)
  rw [mem_onPresence pSub h.status, h.listed p, shown_append_iff]
  simp only [open_iff, openFor_append_terminated, exists_and_right, reduceCtorEq, false_or, ne_eq,
    not_false_eq_true, and_true]
  rw [and_right_comm]

/-- INTERNAL: every step keeps what the list has to do with the past. -/
theorem listOk_step {act : Act} (h : ListOk s) (hstep : step s act = some s') : ListOk s' := by
  cases act with
  | request device =>
    rcases request_cases h hstep with ⟨-, rfl⟩ | ⟨-, rfl⟩
    · exact h
    · exact h.sent_append device
  | newSubscription pSub =>
    obtain ⟨hopen, heq⟩ := Option.ite_none_right_eq_some.mp hstep
    obtain rfl := Option.some.inj heq
    exact listOk_announced h hopen
  | updateActive pSub status =>
    obtain ⟨⟨hopen, -⟩, heq⟩ := Option.ite_none_right_eq_some.mp hstep
    obtain rfl := Option.some.inj heq
    unfold PhoneBLF.SIPEngine.onUpdateActive
    by_cases hsame : (s.phone.subscriptions pSub).mDeviceStatus = status
    · simp only [hsame, ne_eq, not_true_eq_false, if_false]
      exact h
    · simp only [hsame, ne_eq, not_false_eq_true, if_true]
      exact listOk_statusChanged h hopen status
  | terminated pSub =>
    obtain ⟨hopen, heq⟩ := Option.ite_none_right_eq_some.mp hstep
    obtain rfl := Option.some.inj heq
    exact listOk_terminated h hopen

/-- INTERNAL: only a request opens a subscription. -/
theorem openFor_of_callback {act : Act} (hrequest : ∀ device, act ≠ .request device)
    (hstep : step s act = some s') {p : ℕ} {device : CString} (hopen : OpenFor s'.trace p device) :
    OpenFor s.trace p device := by
  cases act with
  | request device => exact absurd rfl (hrequest device)
  | newSubscription pSub =>
    obtain ⟨-, heq⟩ := Option.ite_none_right_eq_some.mp hstep
    obtain rfl := Option.some.inj heq
    exact (openFor_append_iff rfl fun q => by simp).mp hopen
  | updateActive pSub status =>
    obtain ⟨-, heq⟩ := Option.ite_none_right_eq_some.mp hstep
    obtain rfl := Option.some.inj heq
    dsimp only at hopen
    split at hopen
    case isTrue => exact (openFor_append_iff rfl fun q => by simp).mp hopen
    case isFalse => exact hopen
  | terminated pSub =>
    obtain ⟨-, heq⟩ := Option.ite_none_right_eq_some.mp hstep
    obtain rfl := Option.some.inj heq
    exact (openFor_append_terminated.mp hopen).1

/-- INTERNAL: **a request for a device whose open subscriptions are all shown opens no second
one.** -/
theorem atMostOne_step {act : Act} (h : ListOk s) (hone : AtMostOne s)
    (hshown : ShownAtRequest s act) (hstep : step s act = some s') : AtMostOne s' := by
  by_cases hrequest : ∃ device, act = .request device
  · obtain ⟨device, rfl⟩ := hrequest
    rcases request_cases h hstep with ⟨-, rfl⟩ | ⟨hnone, rfl⟩
    · exact hone
    · have hnew := h.created_new.2
      have hfirst (p : ℕ) : ¬ OpenFor s.trace p device := fun hopen =>
        hnone ⟨p, hopen, hshown p hopen⟩
      intro wanted p q hp hq
      rcases (openFor_append_sent hnew).mp hp with hpold | ⟨rfl, rfl⟩
      · rcases (openFor_append_sent hnew).mp hq with hqold | ⟨rfl, rfl⟩
        · exact hone wanted p q hpold hqold
        · exact absurd hpold (hfirst p)
      · rcases (openFor_append_sent hnew).mp hq with hqold | ⟨rfl, -⟩
        · exact absurd hqold (hfirst q)
        · rfl
  · have hcallback : ∀ device, act ≠ .request device := fun device heq => hrequest ⟨device, heq⟩
    intro device p q hp hq
    exact hone device p q (openFor_of_callback hcallback hstep hp)
      (openFor_of_callback hcallback hstep hq)

/-- INTERNAL: **a request for a device with an open subscription that is not shown opens another
one.** -/
theorem shownAtRequest_of_atMostOne {act : Act} (h : ListOk s) (hone : AtMostOne s)
    (hstep : step s act = some s') (hone' : AtMostOne s') : ShownAtRequest s act := by
  cases act with
  | request device =>
    intro p hopen
    rcases request_cases h hstep with ⟨⟨q, hq, hshown⟩, -⟩ | ⟨-, rfl⟩
    · rw [hone device p q hopen hq]
      exact hshown
    · have hnew := h.created_new.2
      have hboth := hone' device p s.phone.created ((openFor_append_sent hnew).mpr (Or.inl hopen))
        ((openFor_append_sent hnew).mpr (Or.inr ⟨rfl, rfl⟩))
      exact absurd (h.created p device hopen.1) (hboth ▸ Nat.lt_irrefl _)
  | newSubscription | updateActive | terminated => trivial

end Steps

/-- **No device is subscribed twice in exactly the runs in which a device is requested only when its
open subscriptions are all shown**: announced by the server, and not called "terminated" by a
NOTIFY since.
SOURCE: PhoneModule.cpp:161-201, 278-290, SIPEngine.cpp:97-115, 561-579 -/
theorem atMostOne_throughout_iff (acts : List Act) :
    Throughout step AtMostOne init acts ↔ Along step ShownAtRequest init acts := by
  have hinit : AtMostOne init := by
    intro device p q hp
    cases hp.1
  refine throughout_iff_along (I := fun s => ListOk s ∧ AtMostOne s) (fun s h => h.2) ?_ ?_
    ⟨listOk_init, hinit⟩
  · intro s act s' ⟨hok, hone⟩ hshown hstep
    exact ⟨listOk_step hok hstep, atMostOne_step hok hone hshown hstep⟩
  · intro s act s' ⟨hok, hone⟩ hstep hone'
    exact shownAtRequest_of_atMostOne hok hone hstep hone'

/-- **A device that is requested again before the server has answered is subscribed
twice.** -/
theorem twoRequests_subscribe_twice :
    ¬ Throughout step AtMostOne init [.request "201".toList, .request "201".toList] := by
  intro h
  have hend : ∃ s, run step init [.request "201".toList, .request "201".toList] = some s ∧
      s.trace = [.sent 0 "201".toList, .sent 1 "201".toList] := ⟨_, rfl, rfl⟩
  obtain ⟨s, hrun, htrace⟩ := hend
  have hone := h.last hrun "201".toList 0 1
  rw [htrace] at hone
  exact absurd (hone ⟨by decide, by decide⟩ ⟨by decide, by decide⟩) (by decide)

end Dhas.Analysis.SubscribedOnce
