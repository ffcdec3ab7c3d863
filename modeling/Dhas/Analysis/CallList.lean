import Dhas.Model.CallSessions
import Mathlib.Logic.Function.Basic

/-!
# The list of calls is exact

`mCallsList` holds the calls that were accepted and have not terminated. A refused call is looked
for by its own Call-ID when it terminates, which is not in the list. An incoming call enters only
when no incoming call is in the list, so there is never more than one.
-/

set_option autoImplicit false

namespace Dhas.Analysis.CallList

open Dhas.Library Dhas.Program Dhas.Model
open Dhas.Model.CallSessions

/-- The call was accepted and has not terminated. -/
def Listed (trace : List SessionEvent) (c : CallId) : Prop :=
  (∃ incoming, .begun c incoming true ∈ trace) ∧ .terminated c ∉ trace

/-- The same, for a call that came in. -/
def ListedIncoming (trace : List SessionEvent) (c : CallId) : Prop :=
  .begun c true true ∈ trace ∧ .terminated c ∉ trace

/-- The list is exact, and at most one of its calls came in. -/
structure ListExact (ids : CallId → CString) (s : CallSessions) : Prop where
  exact : ∀ id c, s.phone.mCallsList.lookup id = some c ↔ ids c = id ∧ Listed s.trace c
  oneIncoming : ∀ c c', ListedIncoming s.trace c → ListedIncoming s.trace c' → c = c'

/-- An incoming call is refused if and only if another one is in the list. -/
def RefusedExactly (s : CallSessions) : Act → Prop
  | .newServerSession c mFrom mTo =>
    (SIPEngine.onNewServerSession s.phone c mFrom mTo).2 = false ↔
      ∃ c', c' ≠ c ∧ ListedIncoming s.trace c'
  | _ => True

/-- What the list relies on: the calls keep their ids, the flag says where a call came from, and
a call begins once, before it terminates. -/
structure CallsOk (ids : CallId → CString) (s : CallSessions) : Prop where
  list : ListExact ids s
  named : ∀ c, (s.phone.calls c).id = ids c
  flagged : ∀ c, (s.phone.calls c).mIncomming = true ↔ ∃ accepted, .begun c true accepted ∈ s.trace
  once : ∀ c i a j b, .begun c i a ∈ s.trace → .begun c j b ∈ s.trace → i = j ∧ a = b
  ended : ∀ c, .terminated c ∈ s.trace → Begun s.trace c

section Calls

variable {ids : CallId → CString} {s s' : CallSessions} {c d : CallId} {incoming : Bool}

/-! ## The trace -/

/-- INTERNAL: a beginning is the last event, or was there before. -/
theorem begun_append_iff {trace : List SessionEvent} {i a accepted : Bool} :
    .begun d i a ∈ trace ++ [.begun c incoming accepted] ↔
      .begun d i a ∈ trace ∨ d = c ∧ i = incoming ∧ a = accepted := by
  simp

/-- INTERNAL: a beginning terminates no session. -/
theorem terminated_append_begun {trace : List SessionEvent} {accepted : Bool} :
    .terminated d ∈ trace ++ [.begun c incoming accepted] ↔ .terminated d ∈ trace := by
  simp

/-- INTERNAL: a beginning lists no other call. -/
theorem listed_append_begun {trace : List SessionEvent} {accepted : Bool} (hdc : d ≠ c) :
    Listed (trace ++ [.begun c incoming accepted]) d ↔ Listed trace d := by
  unfold Listed
  simp only [begun_append_iff, terminated_append_begun, hdc, false_and, or_false]

/-- INTERNAL: a beginning lists no other incoming call. -/
theorem listedIncoming_append_begun {trace : List SessionEvent} {accepted : Bool} (hdc : d ≠ c) :
    ListedIncoming (trace ++ [.begun c incoming accepted]) d ↔ ListedIncoming trace d := by
  unfold ListedIncoming
  simp only [begun_append_iff, terminated_append_begun, hdc, false_and, or_false]

/-- INTERNAL: a call that begins is in the list when it is accepted. -/
theorem listed_begun_iff {trace : List SessionEvent} {accepted : Bool} (hnew : ¬ Begun trace c)
    (hended : .terminated c ∈ trace → Begun trace c) :
    Listed (trace ++ [.begun c incoming accepted]) c ↔ accepted = true := by
  unfold Listed
  simp only [begun_append_iff, terminated_append_begun, true_and]
  constructor
  · rintro ⟨⟨i, hold | ⟨-, haccepted⟩⟩, -⟩
    · exact absurd ⟨i, true, hold⟩ hnew
    · exact haccepted.symm
  · rintro rfl
    exact ⟨⟨incoming, .inr ⟨rfl, rfl⟩⟩, fun hterminated => hnew (hended hterminated)⟩

/-- INTERNAL: a termination takes its own call from the list, and no other. -/
theorem listed_append_terminated {trace : List SessionEvent} :
    Listed (trace ++ [.terminated c]) d ↔ Listed trace d ∧ d ≠ c := by
  unfold Listed
  simp [and_assoc]

/-- INTERNAL: a termination takes its own incoming call from the list, and no other. -/
theorem listedIncoming_append_terminated {trace : List SessionEvent} :
    ListedIncoming (trace ++ [.terminated c]) d ↔ ListedIncoming trace d ∧ d ≠ c := by
  unfold ListedIncoming
  simp [and_assoc]

/-! ## One callback -/

/-- INTERNAL: what `onNewCallUas` searches for, with the flags of the listed calls as they were.
SOURCE: PhoneModule.cpp:225-232 -/
theorem any_incomming_iff (calls : CallId → SipCall) (h : CallsOk ids s)
    (hsame : ∀ c, Listed s.trace c → (calls c).mIncomming = (s.phone.calls c).mIncomming) :
    (s.phone.mCallsList.entries.any fun it => (calls it.2).mIncomming) = true ↔
      ∃ c, ListedIncoming s.trace c := by
  rw [List.any_eq_true]
  constructor
  · rintro ⟨⟨id, c⟩, hentry, hflag⟩
    obtain ⟨-, hlisted⟩ := (h.list.exact id c).mp (AList.mem_lookup_iff.mpr hentry)
    rw [hsame c hlisted] at hflag
    obtain ⟨⟨i, hbegun⟩, hlive⟩ := hlisted
    obtain ⟨accepted, hincoming⟩ := (h.flagged c).mp hflag
    obtain ⟨rfl, -⟩ := h.once c i true true accepted hbegun hincoming
    exact ⟨c, hbegun, hlive⟩
  · rintro ⟨c, hbegun, hlive⟩
    have hlisted : Listed s.trace c := ⟨⟨true, hbegun⟩, hlive⟩
    have hlookup := (h.list.exact (ids c) c).mpr ⟨rfl, hlisted⟩
    refine ⟨⟨ids c, c⟩, AList.mem_lookup_iff.mp hlookup, ?_⟩
    rw [hsame c hlisted]
    exact (h.flagged c).mpr ⟨true, hbegun⟩

/-- INTERNAL: an accepted call enters the list. -/
theorem exact_insert (hdistinct : Function.Injective ids) (h : CallsOk ids s)
    (hnew : ¬ Begun s.trace c) (id : CString) (d : CallId) :
    (s.phone.mCallsList.insert (ids c) c).lookup id = some d ↔
      ids d = id ∧ Listed (s.trace ++ [.begun c incoming true]) d := by
  by_cases hid : id = ids c
  · subst hid
    rw [AList.lookup_insert]
    constructor
    · intro hdc
      obtain rfl := Option.some.inj hdc
      exact ⟨rfl, (listed_begun_iff hnew (h.ended c)).mpr rfl⟩
    · rintro ⟨hids, -⟩
      rw [hdistinct hids]
  · rw [AList.lookup_insert_ne hid, h.list.exact]
    refine and_congr_right fun hids => ?_
    have hdc : d ≠ c := by
      rintro rfl
      exact hid hids.symm
    exact (listed_append_begun hdc).symm

/-- INTERNAL: a refused call does not. -/
theorem exact_refused (h : CallsOk ids s) (hnew : ¬ Begun s.trace c) (id : CString) (d : CallId) :
    s.phone.mCallsList.lookup id = some d ↔
      ids d = id ∧ Listed (s.trace ++ [.begun c incoming false]) d := by
  rw [h.list.exact]
  refine and_congr_right fun _ => ?_
  by_cases hdc : d = c
  · subst hdc
    refine iff_of_false ?_ ?_
    · rintro ⟨⟨i, hbegun⟩, -⟩
      exact hnew ⟨i, true, hbegun⟩
    · rw [listed_begun_iff hnew (h.ended d)]
      simp
  · exact (listed_append_begun hdc).symm

/-- INTERNAL: a call that terminates leaves the list, and no other does.
SOURCE: PhoneModule.cpp:204-207 -/
theorem exact_erase (hdistinct : Function.Injective ids) (h : CallsOk ids s) (id : CString)
    (d : CallId) : (s.phone.mCallsList.erase (ids c)).lookup id = some d ↔
      ids d = id ∧ Listed (s.trace ++ [.terminated c]) d := by
  rw [listed_append_terminated]
  by_cases hid : id = ids c
  · subst hid
    rw [AList.lookup_erase]
    refine iff_of_false (by simp) ?_
    rintro ⟨hids, -, hdc⟩
    exact hdc (hdistinct hids)
  · rw [AList.lookup_erase_ne hid, h.list.exact, ← and_assoc]
    refine (and_iff_left_of_imp ?_).symm
    rintro ⟨hids, -⟩ rfl
    exact hid hids.symm

/-! ## Every callback -/

/-- INTERNAL: a call begins, with the flag of its direction set, and enters the list when it is
accepted. It may come in only when no call that came in is listed. -/
theorem CallsOk.begun {phone : PhoneModule} {accepted : Bool} (hdistinct : Function.Injective ids)
    (h : CallsOk ids s) (hnew : ¬ Begun s.trace c) (hnamed : ∀ d, (phone.calls d).id = ids d)
    (hsame : ∀ d, d ≠ c → (phone.calls d).mIncomming = (s.phone.calls d).mIncomming)
    (hflag : (phone.calls c).mIncomming = incoming)
    (hlist : phone.mCallsList =
      if accepted then s.phone.mCallsList.insert (ids c) c else s.phone.mCallsList)
    (hfirst : incoming = true → accepted = true → ∀ d, ¬ ListedIncoming s.trace d) :
    CallsOk ids { s with phone := phone, trace := s.trace ++ [.begun c incoming accepted] } := by
  have hbefore (i a : Bool) (hbegun : .begun c i a ∈ s.trace) : False := hnew ⟨i, a, hbegun⟩
  refine ⟨⟨?_, ?_⟩, hnamed, ?_, ?_, ?_⟩
  · intro id d
    dsimp only
    rw [hlist]
    cases accepted with
    | true => exact exact_insert hdistinct h hnew id d
    | false => exact exact_refused h hnew id d
  · -- one that came in before excludes the new one
    have hother (d e : CallId) (hdc : d ≠ c) (hd : ListedIncoming s.trace d)
        (he : ListedIncoming (s.trace ++ [.begun c incoming accepted]) e) : d = e := by
      by_cases hec : e = c
      · subst hec
        rcases begun_append_iff.mp he.1 with hold | ⟨-, hincoming, haccepted⟩
        · exact (hbefore _ _ hold).elim
        · exact absurd hd (hfirst hincoming.symm haccepted.symm d)
      · exact h.list.oneIncoming d e hd ((listedIncoming_append_begun hec).mp he)
    intro d e hd he
    by_cases hdc : d = c
    · by_cases hec : e = c
      · rw [hdc, hec]
      · exact (hother e d hec ((listedIncoming_append_begun hec).mp he) hd).symm
    · exact hother d e hdc ((listedIncoming_append_begun hdc).mp hd) he
  · intro d
    simp only [begun_append_iff]
    by_cases hdc : d = c
    · subst hdc
      rw [hflag]
      constructor
      · intro hincoming
        exact ⟨accepted, .inr ⟨rfl, hincoming.symm, rfl⟩⟩
      · rintro ⟨b, hold | ⟨-, hincoming, -⟩⟩
        · exact (hbefore _ _ hold).elim
        · exact hincoming.symm
    · rw [hsame d hdc, h.flagged d]
      simp [hdc]
  · intro d i a j b hi hj
    rcases begun_append_iff.mp hi with hiold | ⟨hdc, hi, ha⟩
    · rcases begun_append_iff.mp hj with hjold | ⟨hdc, -, -⟩
      · exact h.once d i a j b hiold hjold
      · exact (hbefore i a (hdc ▸ hiold)).elim
    · rcases begun_append_iff.mp hj with hjold | ⟨-, hj, hb⟩
      · exact (hbefore j b (hdc ▸ hjold)).elim
      · exact ⟨hi.trans hj.symm, ha.trans hb.symm⟩
  · intro d hterminated
    obtain ⟨i, a, hbegun⟩ := h.ended d (terminated_append_begun.mp hterminated)
    exact ⟨i, a, List.mem_append_left _ hbegun⟩

/-- INTERNAL: a call terminates. -/
theorem CallsOk.terminated {events : List CallReleased} (hdistinct : Function.Injective ids)
    (h : CallsOk ids s) (hbegun : Begun s.trace c) :
    CallsOk ids ⟨(SIPEngine.onTerminated s.phone c).1, s.trace ++ [.terminated c], events⟩ := by
  have hsame (d : CallId) (i a : Bool) :
      .begun d i a ∈ s.trace ++ [.terminated c] ↔ .begun d i a ∈ s.trace := by
    simp
  refine ⟨⟨?_, ?_⟩, h.named, ?_, ?_, ?_⟩
  · intro id d
    unfold SIPEngine.onTerminated PhoneModule.onCallTerminated
    dsimp only
    rw [h.named c]
    exact exact_erase hdistinct h id d
  · intro d e hd he
    exact h.list.oneIncoming d e (listedIncoming_append_terminated.mp hd).1
      (listedIncoming_append_terminated.mp he).1
  · intro d
    simp only [hsame]
    exact h.flagged d
  · intro d i a j b hi hj
    exact h.once d i a j b ((hsame d i a).mp hi) ((hsame d j b).mp hj)
  · intro d hterminated
    rcases List.mem_append.mp hterminated with hold | hnew
    · obtain ⟨i, a, hold⟩ := h.ended d hold
      exact ⟨i, a, (hsame d i a).mpr hold⟩
    · obtain ⟨i, a, hold⟩ := hbegun
      obtain rfl := SessionEvent.terminated.inj (List.mem_singleton.mp hnew)
      exact ⟨i, a, (hsame d i a).mpr hold⟩

end Calls

/-! ## Every callback in turn -/

section Steps

variable {ids mFrom mTo : CallId → CString} {s s' : CallSessions}

/-- INTERNAL: at first no call is listed. -/
theorem callsOk_init : CallsOk ids (init ids mFrom mTo) where
  list := {
    exact := by
      intro id c
      rw [init, AList.lookup_empty]
      simp [Listed]
    oneIncoming := fun _ _ hc => by cases hc.1 }
  named _ := rfl
  flagged c := by simp [init]
  once _ _ _ _ _ hbegun := by cases hbegun
  ended _ hterminated := by cases hterminated

/-- INTERNAL: an incoming call is refused when another one is listed. SOURCE:
PhoneModule.cpp:222-235, SIPEngine.cpp:380-399 -/
theorem newServerSession_eq (h : CallsOk ids s) {c : CallId} (hnew : ¬ Begun s.trace c)
    (mFrom mTo : CString) : ∃ phone accepted,
      SIPEngine.onNewServerSession s.phone c mFrom mTo = (phone, accepted) ∧
        (accepted = false ↔ ∃ d, ListedIncoming s.trace d) ∧
        (∀ d, (phone.calls d).id = ids d) ∧
        (∀ d, d ≠ c → (phone.calls d).mIncomming = (s.phone.calls d).mIncomming) ∧
        (phone.calls c).mIncomming = true ∧
        phone.mCallsList =
          if accepted then s.phone.mCallsList.insert (ids c) c else s.phone.mCallsList := by
  let call : SipCall := { s.phone.calls c with mIncomming := true, mFrom := mFrom, mTo := mTo }
  let calls := Function.update s.phone.calls c call
  have hself : calls c = call := Function.update_self ..
  have hrest (d : CallId) (hdc : d ≠ c) : calls d = s.phone.calls d :=
    Function.update_of_ne hdc ..
  have hnamed (d : CallId) : (calls d).id = ids d := by
    by_cases hdc : d = c
    · subst hdc
      rw [hself]
      exact h.named d
    · rw [hrest d hdc]
      exact h.named d
  have hother (d : CallId) (hdc : d ≠ c) :
      (calls d).mIncomming = (s.phone.calls d).mIncomming := by
    rw [hrest d hdc]
  have hflag : (calls c).mIncomming = true := by
    rw [hself]
  -- the new call is not in the list, so its flag does not matter for the search
  have hsearch := any_incomming_iff calls h fun d hlisted => hother d fun hdc => by
    obtain ⟨i, hbegun⟩ := hlisted.1
    exact hnew ⟨i, true, hdc ▸ hbegun⟩
  by_cases hany : (s.phone.mCallsList.entries.any fun it => (calls it.2).mIncomming) = true
  · have hresult : SIPEngine.onNewServerSession s.phone c mFrom mTo =
        (⟨calls, s.phone.mCallsList⟩, false) := if_pos hany
    exact ⟨_, _, hresult, iff_of_true rfl (hsearch.mp hany), hnamed, hother, hflag, rfl⟩
  · have hresult : SIPEngine.onNewServerSession s.phone c mFrom mTo =
        (⟨calls, s.phone.mCallsList.insert (calls c).id c⟩, true) := if_neg hany
    refine ⟨_, _, hresult, iff_of_false (by simp) fun hlisted => hany (hsearch.mpr hlisted), hnamed,
      hother, hflag, ?_⟩
    rw [hnamed c]
    rfl

/-- INTERNAL: every callback keeps what the list relies on. -/
theorem callsOk_step (hdistinct : Function.Injective ids) {act : Act} (h : CallsOk ids s)
    (hstep : step s act = some s') : CallsOk ids s' := by
  cases act with
  | newServerSession c mFrom mTo =>
    obtain ⟨hnew, heq⟩ := Option.ite_none_left_eq_some.mp hstep
    obtain ⟨phone, accepted, hresult, hrefused, hnamed, hother, hflag, hlist⟩ :=
      newServerSession_eq h hnew mFrom mTo
    rw [hresult] at heq
    obtain rfl := Option.some.inj heq
    refine CallsOk.begun hdistinct h hnew hnamed hother hflag hlist fun _ haccepted d hd => ?_
    have hfalse := haccepted.symm.trans (hrefused.mpr ⟨d, hd⟩)
    cases hfalse
  | newClientSession c =>
    obtain ⟨hnew, heq⟩ := Option.ite_none_left_eq_some.mp hstep
    obtain rfl := Option.some.inj heq
    have hflag : (s.phone.calls c).mIncomming = false := by
      refine Bool.eq_false_of_not_eq_true fun htrue => ?_
      obtain ⟨accepted, hbegun⟩ := (h.flagged c).mp htrue
      exact hnew ⟨true, accepted, hbegun⟩
    have hlist : (SIPEngine.onNewClientSession s.phone c).1.mCallsList =
        s.phone.mCallsList.insert (ids c) c := by
      rw [← h.named c]
      rfl
    exact CallsOk.begun hdistinct h hnew h.named (fun _ _ => rfl) hflag hlist
      fun hincoming => by cases hincoming
  | terminated c =>
    obtain ⟨⟨hbegun, -⟩, heq⟩ := Option.ite_none_right_eq_some.mp hstep
    obtain rfl := Option.some.inj heq
    exact h.terminated hdistinct hbegun

/-- INTERNAL: a call that begins is not the one that refuses it. -/
theorem refusedExactly_of_callsOk {act : Act} (h : CallsOk ids s) (hstep : step s act = some s') :
    RefusedExactly s act := by
  cases act with
  | newServerSession c mFrom mTo =>
    obtain ⟨hnew, -⟩ := Option.ite_none_left_eq_some.mp hstep
    obtain ⟨phone, accepted, hresult, hrefused, -⟩ := newServerSession_eq h hnew mFrom mTo
    unfold RefusedExactly
    dsimp only
    rw [hresult]
    dsimp only
    rw [hrefused]
    refine exists_congr fun d => (and_iff_right_of_imp fun hd hdc => ?_).symm
    exact hnew ⟨true, true, hdc ▸ hd.1⟩
  | newClientSession c => trivial
  | terminated c => trivial

end Steps

/-- **The list of calls is exact and admits one incoming call.** After every callback the list
leads from exactly the Call-IDs of the calls that were accepted and have not terminated to these
calls, at most one of them came in, and a call that comes in is refused exactly when another one
that came in is in the list. For any calls with distinct Call-IDs, in any order.
SOURCE: PhoneModule.cpp:204-243, SIPEngine.cpp:380-422 -/
theorem callList_exact (ids mFrom mTo : CallId → CString) (hdistinct : Function.Injective ids)
    (acts : List Act) : Throughout step (ListExact ids) (init ids mFrom mTo) acts ∧
      Along step RefusedExactly (init ids mFrom mTo) acts := by
  constructor
  · refine throughout_invariant (I := CallsOk ids) ?_ ?_ callsOk_init
    · exact fun s h => h.list
    · exact fun s act s' h hstep => callsOk_step hdistinct h hstep
  · refine along_of_invariant (I := CallsOk ids) ?_ ?_ callsOk_init
    · exact fun s act s' h hstep => refusedExactly_of_callsOk h hstep
    · exact fun s act s' h hstep => callsOk_step hdistinct h hstep

/-- The second of two incoming calls is refused, and terminates. -/
theorem callList_twoIncoming :
    Throughout step (ListExact fun c => List.replicate c 'a')
        (init (fun c => List.replicate c 'a') (fun _ => []) fun _ => [])
        [.newServerSession 0 [] [], .newServerSession 1 [] [], .newClientSession 2, .terminated 1] ∧
      Along step RefusedExactly (init (fun c => List.replicate c 'a') (fun _ => []) fun _ => [])
        [.newServerSession 0 [] [], .newServerSession 1 [] [], .newClientSession 2,
          .terminated 1] :=
  callList_exact _ _ _ (fun c d h => by simpa using congrArg List.length h) _

end Dhas.Analysis.CallList
