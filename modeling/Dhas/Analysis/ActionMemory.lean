import Dhas.Analysis.CallChain

/-!
# The actions in memory and in pending commands

An action is freed after its one `Delete` was posted, and it was cleaned before that. A
pending `Add` holds an action that was added nowhere yet, a pending `Delete` one that is
still in memory.
-/

set_option autoImplicit false

namespace Dhas.Analysis

open Dhas.Library Dhas.Program Dhas.Model

/-- What the record says of the actions in memory. -/
structure HeapOk (heap : ActionId → Option IPhoneAction) (allocated : ℕ)
    (trace : List PhoneEvent) : Prop where
  unallocated : ∀ a, allocated ≤ a → heap a = none
  added : ∀ c, ∀ a ∈ addedTo c trace, a < allocated
  invoked : ∀ a ∈ invocations trace, a < allocated ∧
    ∀ action, heap a = some action → action.mInvoked = true
  invokedOnce : (invocations trace).Nodup
  deletePosted : ∀ a ∈ deletesPosted trace, a < allocated ∧
    ∀ action, heap a = some action → action.mCleaned = true
  deletePostedOnce : (deletesPosted trace).Nodup
  deleted : ∀ a ∈ deletions trace, a < allocated ∧ heap a = none

/-- A new action, not added to a call yet. -/
def Fresh (heap : ActionId → Option IPhoneAction) (trace : List PhoneEvent) (a : ActionId) :
    Prop :=
  (∃ actionClass, heap a = some (IPhoneAction.new actionClass)) ∧ ∀ c, a ∉ addedTo c trace

def Cleaned (heap : ActionId → Option IPhoneAction) (a : ActionId) : Prop :=
  ∃ action, heap a = some action ∧ action.mCleaned = true

/-- The call that a command names. -/
def commandCall : DumCommand → CallId
  | .Add c _ | .Run c | .Delete c _ | .NotifySoundsEmpty c _ | .End c => c

def addedAction : DumCommand → Option ActionId
  | .Add _ a => some a
  | _ => none

def deletedAction : DumCommand → Option ActionId
  | .Delete _ a => some a
  | _ => none

/-- What holds of the commands that are pending, in any order. -/
structure PendingOk (heap : ActionId → Option IPhoneAction) (trace : List PhoneEvent)
    (callCount : ℕ) (pending : List DumCommand) : Prop where
  named : ∀ cmd ∈ pending, commandCall cmd < callCount
  adds : ∀ c a, .Add c a ∈ pending → Fresh heap trace a
  addsOnce : (pending.filterMap addedAction).Nodup
  deletes : ∀ c a, .Delete c a ∈ pending → Cleaned heap a
  deletesOnce : (pending.filterMap deletedAction).Nodup

section Memory

variable {heap heap' : ActionId → Option IPhoneAction} {allocated callCount callCount' : ℕ}
  {trace trace' : List PhoneEvent} {pending pending' : List DumCommand} {c : CallId}
  {a : ActionId} {action action' : IPhoneAction}

/-! ## The heap -/

/-- The actions of a log were allocated, and those in memory have the flag of the log. -/
def Flagged (heap : ActionId → Option IPhoneAction) (allocated : ℕ) (flag : IPhoneAction → Bool)
    (log : List ActionId) : Prop :=
  ∀ a ∈ log, a < allocated ∧ ∀ action, heap a = some action → flag action = true

section Flagged

variable {flag : IPhoneAction → Bool} {log : List ActionId}

/-- INTERNAL: an allocation changes no action of the log. -/
theorem Flagged.alloc (h : Flagged heap allocated flag log) (action : IPhoneAction) :
    Flagged (Function.update heap allocated (some action)) (allocated + 1) flag log := by
  intro b hb
  obtain ⟨hlt, hflag⟩ := h b hb
  rw [Function.update_of_ne (Nat.ne_of_lt hlt)]
  exact ⟨Nat.lt_succ_of_lt hlt, hflag⟩

/-- INTERNAL: an action may change as long as it keeps its flag. -/
theorem Flagged.update (h : Flagged heap allocated flag log) (hget : heap a = some action)
    (hkeep : flag action = true → flag action' = true) :
    Flagged (Function.update heap a (some action')) allocated flag log := by
  intro b hb
  obtain ⟨hlt, hflag⟩ := h b hb
  refine ⟨hlt, fun cell hcell => ?_⟩
  by_cases hba : b = a
  · subst hba
    rw [Function.update_self] at hcell
    obtain rfl := Option.some.inj hcell
    exact hkeep (hflag action hget)
  · rw [Function.update_of_ne hba] at hcell
    exact hflag cell hcell

/-- INTERNAL: an action that has its flag is recorded. -/
theorem Flagged.append_singleton (h : Flagged heap allocated flag log)
    (hget : heap a = some action) (hlt : a < allocated) (hflag : flag action = true) :
    Flagged heap allocated flag (log ++ [a]) := by
  intro b hb
  rcases List.mem_append.mp hb with hb | hb
  · exact h b hb
  · rw [List.mem_singleton] at hb
    subst hb
    refine ⟨hlt, fun cell hcell => ?_⟩
    rw [hget] at hcell
    obtain rfl := Option.some.inj hcell
    exact hflag

/-- INTERNAL: an action without the flag is not in the log. -/
theorem Flagged.nodup_append (h : Flagged heap allocated flag log) (hnodup : log.Nodup)
    (hget : heap a = some action) (hflag : flag action = false) : (log ++ [a]).Nodup := by
  rw [← List.concat_eq_append, List.nodup_concat]
  refine ⟨fun hmem => ?_, hnodup⟩
  have htrue := (h a hmem).2 action hget
  rw [hflag] at htrue
  cases htrue

end Flagged

/-- INTERNAL: an action that is alive was allocated. -/
theorem HeapOk.lt_of_get (h : HeapOk heap allocated trace) (hget : heap a = some action) :
    a < allocated := by
  by_contra hge
  have hnone := h.unallocated a (Nat.le_of_not_lt hge)
  rw [hget] at hnone
  cases hnone

/-- INTERNAL: an action is allocated, which no event names yet. -/
theorem HeapOk.alloc (h : HeapOk heap allocated trace) (action : IPhoneAction) :
    HeapOk (Function.update heap allocated (some action)) (allocated + 1) trace where
  unallocated a ha := by
    have hlt : allocated < a := ha
    rw [Function.update_of_ne (Nat.ne_of_gt hlt)]
    exact h.unallocated a (Nat.le_of_lt hlt)
  added c a ha := Nat.lt_succ_of_lt (h.added c a ha)
  invoked := Flagged.alloc h.invoked action
  invokedOnce := h.invokedOnce
  deletePosted := Flagged.alloc h.deletePosted action
  deletePostedOnce := h.deletePostedOnce
  deleted a ha := by
    obtain ⟨hlt, hnone⟩ := h.deleted a ha
    rw [Function.update_of_ne (Nat.ne_of_lt hlt)]
    exact ⟨Nat.lt_succ_of_lt hlt, hnone⟩

/-- INTERNAL: an action in memory may change, but not forget that it was invoked or
cleaned. -/
theorem HeapOk.update (h : HeapOk heap allocated trace) (hget : heap a = some action)
    (hinv : action.mInvoked = true → action'.mInvoked = true)
    (hclean : action.mCleaned = true → action'.mCleaned = true) :
    HeapOk (Function.update heap a (some action')) allocated trace where
  __ := h
  unallocated b hb := by
    have hlt : a < b := Nat.lt_of_lt_of_le (h.lt_of_get hget) hb
    rw [Function.update_of_ne (Nat.ne_of_gt hlt)]
    exact h.unallocated b hb
  invoked := Flagged.update h.invoked hget hinv
  deletePosted := Flagged.update h.deletePosted hget hclean
  deleted b hb := by
    obtain ⟨hlt, hnone⟩ := h.deleted b hb
    have hba : b ≠ a := by
      rintro rfl
      rw [hget] at hnone
      cases hnone
    exact ⟨hlt, by rw [Function.update_of_ne hba, hnone]⟩

/-- INTERNAL: an event that says nothing of an invocation or a deletion. -/
theorem HeapOk.record (h : HeapOk heap allocated trace) (e : PhoneEvent)
    (hadded : ∀ c, ∀ a ∈ addedTo c [e], a < allocated) (hinvoked : invocations [e] = [])
    (hposted : deletesPosted [e] = []) (hdeleted : deletions [e] = []) :
    HeapOk heap allocated (trace ++ [e]) where
  unallocated := h.unallocated
  added c a ha := by
    rw [addedTo_concat] at ha
    rcases List.mem_append.mp ha with ha | ha
    · exact h.added c a ha
    · exact hadded c a ha
  invoked := by simpa [hinvoked] using h.invoked
  invokedOnce := by simpa [hinvoked] using h.invokedOnce
  deletePosted := by simpa [hposted] using h.deletePosted
  deletePostedOnce := by simpa [hposted] using h.deletePostedOnce
  deleted := by simpa [hdeleted] using h.deleted

/-- INTERNAL: an action is added to a call. -/
theorem HeapOk.recordAdded (h : HeapOk heap allocated trace) (hget : heap a = some action) :
    HeapOk heap allocated (trace ++ [.added c a]) := by
  refine h.record _ (fun d b hb => ?_) rfl rfl rfl
  have hba : b = a := by
    rw [addedTo_singleton] at hb
    by_cases hcd : c = d <;> simp [hcd] at hb
    exact hb
  exact hba ▸ h.lt_of_get hget

/-- INTERNAL: an action is invoked, for the first time. -/
theorem HeapOk.invoke (h : HeapOk heap allocated trace) (hget : heap a = some action)
    (hinv : action.mInvoked = false) :
    HeapOk (Function.update heap a (some { action with mInvoked := true })) allocated
      (trace ++ [.invoked c a]) := by
  have hup : HeapOk (Function.update heap a (some { action with mInvoked := true })) allocated
      trace := h.update hget (fun _ => rfl) id
  refine ⟨hup.unallocated, by simpa [addedTo] using h.added, ?_, ?_,
    by simpa [deletesPosted] using hup.deletePosted,
    by simpa [deletesPosted] using h.deletePostedOnce, by simpa [deletions] using hup.deleted⟩
  · rw [invocations_concat]
    exact Flagged.append_singleton hup.invoked (Function.update_self ..) (h.lt_of_get hget) rfl
  · rw [invocations_concat]
    exact Flagged.nodup_append h.invoked h.invokedOnce hget hinv

/-- INTERNAL: an action is cleaned, for the first time. -/
theorem HeapOk.clean (h : HeapOk heap allocated trace) (hget : heap a = some action)
    (hclean : action.mCleaned = false) :
    HeapOk (Function.update heap a (some { action with mCleaned := true })) allocated
      (trace ++ [.deletePosted a]) := by
  have hup : HeapOk (Function.update heap a (some { action with mCleaned := true })) allocated
      trace := h.update hget id (fun _ => rfl)
  refine ⟨hup.unallocated, by simpa [addedTo] using h.added,
    by simpa [invocations] using hup.invoked, by simpa [invocations] using h.invokedOnce, ?_, ?_,
    by simpa [deletions] using hup.deleted⟩
  · rw [deletesPosted_concat]
    exact Flagged.append_singleton hup.deletePosted (Function.update_self ..) (h.lt_of_get hget)
      rfl
  · rw [deletesPosted_concat]
    exact Flagged.nodup_append h.deletePosted h.deletePostedOnce hget hclean

/-- INTERNAL: what is alive after another action was freed was alive before. -/
theorem get_of_freed {b : ActionId} (h : Function.update heap a none b = some action) :
    heap b = some action := by
  by_cases hba : b = a
  · rw [hba, Function.update_self] at h
    cases h
  · rw [Function.update_of_ne hba] at h
    exact h

/-- INTERNAL: an action is deleted, and is not alive any more. -/
theorem HeapOk.free (h : HeapOk heap allocated trace) (hget : heap a = some action) :
    HeapOk (Function.update heap a none) allocated (trace ++ [.deleted a]) where
  unallocated b hb := by
    by_cases hba : b = a
    · rw [hba, Function.update_self]
    · rw [Function.update_of_ne hba]
      exact h.unallocated b hb
  added := by simpa [addedTo] using h.added
  invoked b hb := by
    obtain ⟨hlt, hflag⟩ := h.invoked b (by simpa [invocations] using hb)
    refine ⟨hlt, fun cell hcell => ?_⟩
    exact hflag cell (get_of_freed hcell)
  invokedOnce := by simpa [invocations] using h.invokedOnce
  deletePosted b hb := by
    obtain ⟨hlt, hflag⟩ := h.deletePosted b (by simpa [deletesPosted] using hb)
    refine ⟨hlt, fun cell hcell => ?_⟩
    exact hflag cell (get_of_freed hcell)
  deletePostedOnce := by simpa [deletesPosted] using h.deletePostedOnce
  deleted b hb := by
    rw [deletions_concat, List.mem_append] at hb
    rcases hb with hb | hb
    · obtain ⟨hlt, hnone⟩ := h.deleted b hb
      refine ⟨hlt, ?_⟩
      by_cases hba : b = a
      · rw [hba, Function.update_self]
      · rw [Function.update_of_ne hba, hnone]
    · have hba : b = a := by simpa [deletions] using hb
      exact ⟨hba ▸ h.lt_of_get hget, by rw [hba, Function.update_self]⟩

/-! ## The pending commands -/

/-- INTERNAL: the order of the pending commands does not matter. -/
theorem PendingOk.perm (h : PendingOk heap trace callCount pending)
    (hperm : pending.Perm pending') : PendingOk heap trace callCount pending' where
  named cmd hcmd := h.named cmd (hperm.mem_iff.mpr hcmd)
  adds c a hcmd := h.adds c a (hperm.mem_iff.mpr hcmd)
  addsOnce := (hperm.filterMap addedAction).nodup_iff.mp h.addsOnce
  deletes c a hcmd := h.deletes c a (hperm.mem_iff.mpr hcmd)
  deletesOnce := (hperm.filterMap deletedAction).nodup_iff.mp h.deletesOnce

/-- INTERNAL: a change of the memory that pending commands do not see. -/
theorem PendingOk.frame (h : PendingOk heap trace callCount pending)
    (hcount : callCount ≤ callCount')
    (hadds : ∀ c a, .Add c a ∈ pending → Fresh heap trace a → Fresh heap' trace' a)
    (hdeletes : ∀ c a, .Delete c a ∈ pending → Cleaned heap a → Cleaned heap' a) :
    PendingOk heap' trace' callCount' pending where
  named cmd hcmd := Nat.lt_of_lt_of_le (h.named cmd hcmd) hcount
  adds c a hcmd := hadds c a hcmd (h.adds c a hcmd)
  addsOnce := h.addsOnce
  deletes c a hcmd := hdeletes c a hcmd (h.deletes c a hcmd)
  deletesOnce := h.deletesOnce

/-- INTERNAL: one command less is pending. -/
theorem PendingOk.tail {cmd : DumCommand} (h : PendingOk heap trace callCount (cmd :: pending)) :
    PendingOk heap trace callCount pending where
  named d hd := h.named d (List.mem_cons_of_mem cmd hd)
  adds c a ha := h.adds c a (List.mem_cons_of_mem cmd ha)
  addsOnce := h.addsOnce.sublist ((List.sublist_cons_self cmd pending).filterMap addedAction)
  deletes c a ha := h.deletes c a (List.mem_cons_of_mem cmd ha)
  deletesOnce :=
    h.deletesOnce.sublist ((List.sublist_cons_self cmd pending).filterMap deletedAction)

/-- INTERNAL: a command may be pending when the action that it holds is held by no other. -/
theorem PendingOk.cons (h : PendingOk heap trace callCount pending) (cmd : DumCommand)
    (hcall : commandCall cmd < callCount)
    (hadd : ∀ c a, cmd = .Add c a → Fresh heap trace a ∧ ∀ d, .Add d a ∉ pending)
    (hdelete : ∀ c a, cmd = .Delete c a → Cleaned heap a ∧ ∀ d, .Delete d a ∉ pending) :
    PendingOk heap trace callCount (cmd :: pending) where
  named d hd := by
    rcases List.mem_cons.mp hd with rfl | hd
    · exact hcall
    · exact h.named d hd
  adds c a ha := by
    rcases List.mem_cons.mp ha with heq | ha
    · exact (hadd c a heq.symm).1
    · exact h.adds c a ha
  addsOnce := by
    cases cmd with
    | Add c a =>
      refine List.nodup_cons.mpr ⟨fun hmem => ?_, h.addsOnce⟩
      obtain ⟨other, hother, hact⟩ := List.mem_filterMap.mp hmem
      cases other with
      | Add d b =>
        obtain rfl : b = a := Option.some.inj hact
        exact (hadd c b rfl).2 d hother
      | _ => cases hact
    | _ => exact h.addsOnce
  deletes c a ha := by
    rcases List.mem_cons.mp ha with heq | ha
    · exact (hdelete c a heq.symm).1
    · exact h.deletes c a ha
  deletesOnce := by
    cases cmd with
    | Delete c a =>
      refine List.nodup_cons.mpr ⟨fun hmem => ?_, h.deletesOnce⟩
      obtain ⟨other, hother, hact⟩ := List.mem_filterMap.mp hmem
      cases other with
      | Delete d b =>
        obtain rfl : b = a := Option.some.inj hact
        exact (hdelete c b rfl).2 d hother
      | _ => cases hact
    | _ => exact h.deletesOnce

/-- INTERNAL: an action is held by one pending command. -/
theorem PendingOk.not_mem_of_add (h : PendingOk heap trace callCount (.Add c a :: pending))
    (d : CallId) : .Add d a ∉ pending := by
  intro hmem
  exact (List.nodup_cons.mp h.addsOnce).1 (List.mem_filterMap.mpr ⟨_, hmem, rfl⟩)

/-- INTERNAL: no action has two Deletes pending. -/
theorem PendingOk.not_mem_of_delete (h : PendingOk heap trace callCount (.Delete c a :: pending))
    (d : CallId) : .Delete d a ∉ pending := by
  intro hmem
  exact (List.nodup_cons.mp h.deletesOnce).1 (List.mem_filterMap.mpr ⟨_, hmem, rfl⟩)

end Memory

end Dhas.Analysis
