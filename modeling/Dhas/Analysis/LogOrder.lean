import Dhas.Analysis.EventDelivery
import Dhas.Model.EventLogging

/-!
# The log has the events in their order

On its way to the log an event is in one of the two queues of the event loop, then it is offered
to the ring, and the thread of `Mysql::run` takes it from there. The commands sent so far, followed
by what waits on the ring, are the events that the ring took, and the events offered so far,
followed by what the event loop still holds for the logger, are the events that were pushed.

A command counts when it was passed to `mysql_real_query`: one that fails leaves no row. The ring
is that of a library which is not part of the repository, and is taken to be a queue that holds
`MAXREQUESTS` documents.
-/

set_option autoImplicit false

namespace Dhas.Analysis.LogOrder

open Dhas.Library Dhas.Program Dhas.Model
open Dhas.Model.EventLogging

variable {ℓ : Type}

/-- The events that `addDocument` was called with, in this order. -/
def offeredEvents (trace : List Item) : List EventDocument :=
  trace.filterMap fun
    | .offered message _ => some message
    | _ => none

/-- Those that found room on the ring. -/
def acceptedEvents (trace : List Item) : List EventDocument :=
  trace.filterMap fun
    | .offered message waiting => if waiting < Mysql.MAXREQUESTS then some message else none
    | _ => none

/-- No event was dropped. -/
def NoneDropped (trace : List Item) : Prop :=
  ∀ message waiting, .offered message waiting ∈ trace → waiting < Mysql.MAXREQUESTS

/-- The command that is sent to the database for a document. -/
def row (text : EventText) (escape : CString → CString) (data : CString) : CString :=
  Mysql.insertCommand text data (escape data)

variable [DecidableEq ℓ]

/-- The log is a first-in first-out record of the events, less those that were dropped. -/
structure LogsInOrder (text : EventText) (escape : CString → CString) (logger : ℓ)
    (s : EventLogging ℓ) : Prop where
  /-- the commands, then the documents on the ring, are the events that found room -/
  rows : s.mpMysql.queries ++ s.mpMysql.mpRequests.items.map (row text escape) =
    (acceptedEvents s.trace).map (row text escape ∘ text.stringify)
  /-- the events that reached the logger, then those still under way, are those pushed -/
  order : offeredEvents s.trace ++
    (undelivered s.loop logger ++ s.loop.processor.mMessageQueue) = pushedEvents s.loop.trace
  /-- without a drop nothing is missing -/
  complete : NoneDropped s.trace →
    s.mpMysql.queries ++ s.mpMysql.mpRequests.items.map (row text escape) ++
      (undelivered s.loop logger ++ s.loop.processor.mMessageQueue).map
        (row text escape ∘ text.stringify) =
      (pushedEvents s.loop.trace).map (row text escape ∘ text.stringify)

/-! ## One step -/

section Offers

/-- INTERNAL: what was offered in two traces, one after the other. -/
theorem offeredEvents_append (trace trace' : List Item) :
    offeredEvents (trace ++ trace') = offeredEvents trace ++ offeredEvents trace' :=
  List.filterMap_append

/-- INTERNAL: what was accepted in two traces, one after the other. -/
theorem acceptedEvents_append (trace trace' : List Item) :
    acceptedEvents (trace ++ trace') = acceptedEvents trace ++ acceptedEvents trace' :=
  List.filterMap_append

/-- INTERNAL: without a drop the ring took what it was offered. -/
theorem acceptedEvents_of_noneDropped {trace : List Item} (h : NoneDropped trace) :
    acceptedEvents trace = offeredEvents trace := by
  apply List.filterMap_congr
  intro item hitem
  cases item with
  | offered message waiting => simp [h message waiting hitem]
  | foundEmpty | stopRequested => rfl

end Offers

section Loop

variable {s s' : EventLoop ℓ} {logger : ℓ}

/-- INTERNAL: the main thread notifies one listener of one event.
SOURCE: EventProcessor.cpp:177-185 -/
theorem notifiedEvents_notifyStep {i : ℕ} (hpc : s.pc = .notifying i) :
    notifiedEvents logger (s.notifyStep i).trace =
      notifiedEvents logger s.trace ++ (loggedBy logger s .main).toList := by
  have hquiet : notification s = none → loggedBy logger s .main = none := by
    intro h
    unfold loggedBy
    rw [h]
  unfold EventLoop.notifyStep
  split
  case h_1 htmp =>
    rw [hquiet (by simp [notification, hpc, htmp])]
    exact (List.append_nil _).symm
  case h_2 message rest htmp =>
    split
    case h_1 pl hpl =>
      have hnotification : notification s = some (pl, message) := by
        simp [notification, hpc, htmp, hpl]
      rw [notifiedEvents_append]
      congr 1
      unfold loggedBy
      rw [hnotification]
      dsimp only
      split <;> simp [notifiedEvents, *]
    case h_2 hend =>
      rw [hquiet (by simp [notification, hpc, htmp, hend])]
      exact (List.append_nil _).symm

/-- INTERNAL: only the main thread in its loop over `tmpMessages` notifies the logger. -/
theorem notifiedEvents_step (logger : ℓ) {a : EventLoop.Act ℓ} (hstep : s.step a = some s') :
    notifiedEvents logger s'.trace =
      notifiedEvents logger s.trace ++ (loggedBy logger s a).toList := by
  cases a with
  | processEvent message t =>
    rw [EventLoop.step, Option.ite_none_left_eq_some] at hstep
    obtain rfl := Option.some.inj hstep.2
    exact notifiedEvents_append logger _ _
  | scheduleScriptReload =>
    obtain rfl := Option.some.inj hstep
    exact notifiedEvents_append logger _ _
  | termHandler =>
    obtain rfl := Option.some.inj hstep
    exact notifiedEvents_append logger _ _
  | reloadScript engine =>
    rw [EventLoop.step, Option.ite_none_right_eq_some] at hstep
    obtain rfl := Option.some.inj hstep.2
    have hnone : notifiedEvents logger (EventLoop.reloadItems s.processor) = [] := by
      cases hsome : s.processor.mpScriptEngine <;>
        simp [notifiedEvents, EventLoop.reloadItems, hsome]
    show notifiedEvents logger (s.trace ++ EventLoop.reloadItems s.processor) = _
    rw [notifiedEvents_append, hnone]
    rfl
  | wakeUp =>
    rw [EventLoop.step, Option.ite_none_right_eq_some] at hstep
    obtain rfl := Option.some.inj hstep.2
    exact (List.append_nil _).symm
  | main =>
    have hmain : s.mainStep = some s' := hstep
    have hquiet (hout : ∀ i, s.pc ≠ .notifying i) : loggedBy logger s .main = none := by
      have hnone : notification s = none := by
        unfold notification
        split
        case h_1 i message rest hpc htmp => exact absurd hpc (hout i)
        case h_2 => rfl
      unfold loggedBy
      rw [hnone]
    unfold EventLoop.mainStep at hmain
    split at hmain <;> try cases hmain
    case h_8 i hpc => exact notifiedEvents_notifyStep hpc
    case h_7 hpc =>
      rw [hquiet (by simp [hpc])]
      show notifiedEvents logger (s.trace ++ [.swapped]) = _
      rw [notifiedEvents_append]
      rfl
    all_goals
      rename_i hpc
      rw [hquiet (by simp [hpc])]
      exact (List.append_nil _).symm

end Loop

/-! ## Whole runs -/

/-- What every run keeps. -/
structure LogOk (r : Registration ℓ) (text : EventText) (escape : CString → CString) (logger : ℓ)
    (s : EventLogging ℓ) : Prop where
  delivery : DeliveryOk r s.loop
  registered : RegisteredThroughout r s.loop logger
  /-- the logger is not the script engine, which comes and goes -/
  engine : s.loop.processor.mpScriptEngine ≠ some logger
  capacity : s.mpMysql.mpRequests.capacity = Mysql.MAXREQUESTS
  offered : offeredEvents s.trace = notifiedEvents logger s.loop.trace
  rows : s.mpMysql.queries ++ s.mpMysql.mpRequests.items.map (row text escape) =
    (acceptedEvents s.trace).map (row text escape ∘ text.stringify)

section Steps

variable {r : Registration ℓ} {text : EventText} {escape : CString → CString} {logger : ℓ}
  {s s' : EventLogging ℓ}

/-- INTERNAL: at first nothing was offered and no row was sent. -/
theorem logOk_init (hlogger : logger ∈ r.listeners) (unset : Bool) :
    LogOk r text escape logger (init r unset) where
  delivery := deliveryOk_init r unset
  registered := ⟨List.mem_append_left _ hlogger, List.not_mem_nil⟩
  engine := by
    rw [init, EventLoop.init, Registration.processor_eq]
    rintro hengine
    obtain rfl := Option.some.inj hengine
    exact (List.nodup_append.mp r.nodup).2.2 _ hlogger _ (List.mem_singleton_self _) rfl
  capacity := rfl
  offered := rfl
  rows := rfl

/-- INTERNAL: what the invariant says of the log. -/
theorem LogOk.logsInOrder (h : LogOk r text escape logger s) : LogsInOrder text escape logger s := by
  have horder := h.delivery.delivers logger h.registered
  rw [← h.offered, List.append_assoc] at horder
  refine ⟨h.rows, horder, fun hnone => ?_⟩
  rw [h.rows, acceptedEvents_of_noneDropped hnone, ← List.map_append, horder]

/-- INTERNAL: a reload does not touch the registration of the logger.
SOURCE: EventProcessor.cpp:121-143 -/
theorem LogOk.registration (h : LogOk r text escape logger s) {a : EventLoop.Act ℓ}
    {loop : EventLoop ℓ} (hstep : s.loop.step a = some loop) :
    RegisteredThroughout r loop logger ∧ loop.processor.mpScriptEngine ≠ some logger := by
  have hkept (item : EventLoop.Item ℓ) (hitem : item ≠ .removed logger) :
      .removed logger ∉ s.loop.trace ++ [item] := by
    rw [List.mem_append, List.mem_singleton, not_or]
    exact ⟨h.registered.2, hitem.symm⟩
  cases a with
  | processEvent message t =>
    rw [EventLoop.step, Option.ite_none_left_eq_some] at hstep
    obtain rfl := Option.some.inj hstep.2
    exact ⟨⟨h.registered.1, hkept _ (by simp)⟩, h.engine⟩
  | scheduleScriptReload =>
    obtain rfl := Option.some.inj hstep
    exact ⟨⟨h.registered.1, hkept _ (by simp)⟩, h.engine⟩
  | termHandler =>
    obtain rfl := Option.some.inj hstep
    exact ⟨⟨h.registered.1, hkept _ (by simp)⟩, h.engine⟩
  | wakeUp =>
    rw [EventLoop.step, Option.ite_none_right_eq_some] at hstep
    obtain rfl := Option.some.inj hstep.2
    exact ⟨h.registered, h.engine⟩
  | main =>
    have hmain : s.loop.mainStep = some loop := hstep
    unfold EventLoop.mainStep at hmain
    split at hmain <;> try cases hmain
    case h_7 => exact ⟨⟨h.registered.1, hkept _ (by simp)⟩, h.engine⟩
    case h_8 i _ =>
      unfold EventLoop.notifyStep
      split
      · exact ⟨h.registered, h.engine⟩
      · split
        · exact ⟨⟨h.registered.1, hkept _ (by simp)⟩, h.engine⟩
        · exact ⟨h.registered, h.engine⟩
    all_goals exact ⟨h.registered, h.engine⟩
  | reloadScript engine =>
    rw [EventLoop.step, Option.ite_none_right_eq_some] at hstep
    obtain ⟨⟨-, hengine⟩, hloop⟩ := hstep
    obtain rfl := Option.some.inj hloop
    refine ⟨⟨h.registered.1, ?_⟩, ?_⟩
    · intro hremoved
      rcases List.mem_append.mp hremoved with hremoved | hremoved
      · exact h.registered.2 hremoved
      · rcases EventLoop.mem_reloadItems.mp hremoved with ⟨pl, hpl, heq⟩ | heq
        · obtain rfl := EventLoop.Item.removed.inj heq
          exact h.engine hpl
        · cases heq
    · -- the new engine is not an object that is in use
      rintro hsome
      obtain rfl := Option.some.inj hsome
      have hmem := h.delivery.registered engine h.registered
      exact hengine (EventProcessor.mem_removeScriptEngine hmem h.engine)

/-- INTERNAL: a step of the event loop that does not reach the logger. -/
theorem LogOk.loop (h : LogOk r text escape logger s) {a : EventLoop.Act ℓ} {loop : EventLoop ℓ}
    (hstep : s.loop.step a = some loop) (hnone : loggedBy logger s.loop a = none) :
    LogOk r text escape logger { s with loop := loop } where
  delivery := step_deliveryOk h.delivery hstep
  registered := (h.registration hstep).1
  engine := (h.registration hstep).2
  capacity := h.capacity
  offered := by
    have hnotified := notifiedEvents_step logger hstep
    rw [hnone] at hnotified
    exact h.offered.trans (hnotified.trans (List.append_nil _)).symm
  rows := h.rows

/-- INTERNAL: an event that reaches the logger is put on the ring if there is room.
SOURCE: Mysql.cpp:40-52 -/
theorem LogOk.addDocument (h : LogOk r text escape logger s) {a : EventLoop.Act ℓ}
    {loop : EventLoop ℓ} (hstep : s.loop.step a = some loop) {message : EventDocument}
    (hlogged : loggedBy logger s.loop a = some message) :
    LogOk r text escape logger ({ s with loop := loop }.addDocument text message) := by
  refine ⟨step_deliveryOk h.delivery hstep, (h.registration hstep).1, (h.registration hstep).2,
    ?_, ?_, ?_⟩
  · exact (BoundedQueue.capacity_put _ _).trans h.capacity
  · have hnotified := notifiedEvents_step logger hstep
    rw [hlogged] at hnotified
    show offeredEvents (s.trace ++ _) = _
    rw [offeredEvents_append, h.offered]
    exact hnotified.symm
  · have hroom : s.mpMysql.mpRequests.HasRoom ↔
        s.mpMysql.mpRequests.items.length < Mysql.MAXREQUESTS := by
      unfold BoundedQueue.HasRoom
      rw [h.capacity]
    have hput : (EventLogger.notifyEvent text s.mpMysql message).mpRequests.items =
        if s.mpMysql.mpRequests.HasRoom then
          s.mpMysql.mpRequests.items ++ [text.stringify message]
        else s.mpMysql.mpRequests.items := BoundedQueue.items_put _ _
    show s.mpMysql.queries ++ List.map _ (EventLogger.notifyEvent text s.mpMysql
      message).mpRequests.items = List.map _ (acceptedEvents (s.trace ++ _))
    rw [hput, acceptedEvents_append, List.map_append, ← h.rows]
    simp only [hroom, acceptedEvents, List.filterMap_cons, List.filterMap_nil]
    split
    · simp
    · simp

/-- INTERNAL: a document goes from the ring to the database. SOURCE: Mysql.cpp:54-88 -/
theorem LogOk.unPoolDocument (h : LogOk r text escape logger s) {mpMysql : Mysql}
    (hunpool : s.mpMysql.unPoolDocument text escape = (mpMysql, true)) :
    LogOk r text escape logger { s with mpMysql := mpMysql } := by
  unfold Mysql.unPoolDocument at hunpool
  split at hunpool
  case h_1 => cases hunpool
  case h_2 data requests hget =>
    obtain ⟨rfl, -⟩ := Prod.mk.inj hunpool
    obtain ⟨hitems, hcapacity⟩ := BoundedQueue.get_eq_some_iff.mp hget
    refine ⟨h.delivery, h.registered, h.engine, hcapacity.trans h.capacity, h.offered, ?_⟩
    have hrows := h.rows
    rw [hitems, List.map_cons, List.append_cons] at hrows
    exact hrows

/-- INTERNAL: a step that moves neither an event nor a document. -/
theorem LogOk.move (h : LogOk r text escape logger s) (hloop : s'.loop = s.loop)
    (hmysql : s'.mpMysql = s.mpMysql) (hoffered : offeredEvents s'.trace = offeredEvents s.trace)
    (haccepted : acceptedEvents s'.trace = acceptedEvents s.trace) :
    LogOk r text escape logger s' where
  delivery := hloop ▸ h.delivery
  registered := hloop ▸ h.registered
  engine := hloop ▸ h.engine
  capacity := hmysql ▸ h.capacity
  offered := by rw [hoffered, hloop, h.offered]
  rows := by rw [hmysql, haccepted, h.rows]

/-- INTERNAL: a step of the thread of `Mysql::run`. SOURCE: Mysql.cpp:90-101 -/
theorem LogOk.threadStep (h : LogOk r text escape logger s)
    (hstep : s.threadStep text escape = some s') : LogOk r text escape logger s' := by
  unfold EventLogging.threadStep at hstep
  split at hstep <;> try cases hstep
  case h_8 =>
    split at hstep
    case h_1 mpMysql hunpool =>
      obtain rfl := Option.some.inj hstep
      exact h.unPoolDocument hunpool
    case h_2 =>
      obtain rfl := Option.some.inj hstep
      refine h.move rfl rfl ?_ ?_
      · simp [offeredEvents]
      · simp [acceptedEvents]
  all_goals exact h.move rfl rfl rfl rfl

/-- INTERNAL: every step keeps the order of the log. -/
theorem step_logOk {a : Act ℓ} (h : LogOk r text escape logger s)
    (hstep : step text escape logger s a = some s') : LogOk r text escape logger s' := by
  cases a with
  | loop a =>
    have hloop : s.loopStep text logger a = some s' := hstep
    unfold EventLogging.loopStep at hloop
    rw [Option.ite_none_left_eq_some, Option.map_eq_some_iff] at hloop
    obtain ⟨-, loop, hloop, rfl⟩ := hloop
    split
    case h_1 message hlogged => exact h.addDocument hloop hlogged
    case h_2 hnone => exact h.loop hloop hnone
  | notify =>
    rw [step, Option.ite_none_left_eq_some] at hstep
    obtain ⟨-, hcall⟩ := hstep
    split at hcall <;> cases hcall
    · exact h.move rfl rfl rfl rfl
    · exact h.move rfl rfl rfl rfl
  | destroy =>
    rw [step, Option.ite_none_right_eq_some] at hstep
    obtain rfl := Option.some.inj hstep.2
    refine h.move rfl rfl ?_ ?_
    · simp [offeredEvents]
    · simp [acceptedEvents]
  | join =>
    rw [step, Option.ite_none_right_eq_some] at hstep
    obtain rfl := Option.some.inj hstep.2
    exact h.move rfl rfl rfl rfl
  | thread => exact h.threadStep hstep
  | wakeUp =>
    rw [step, Option.ite_none_right_eq_some] at hstep
    obtain rfl := Option.some.inj hstep.2
    exact h.move rfl rfl rfl rfl

end Steps

/-- **Whatever the interleaving of the threads that push events, of the event loop and of the
thread that writes the log: the commands passed to the database, followed by the documents that
wait, are the events that were pushed, in their order and each once, less those that found the ring
full.**
SOURCE: EventProcessor.cpp:145-187, EventLogger.cpp:9-13, Mysql.cpp:40-101 -/
theorem logsInOrder_throughout (r : Registration ℓ) (text : EventText) (escape : CString → CString)
    {logger : ℓ} (hlogger : logger ∈ r.listeners) (unset : Bool) (acts : List (Act ℓ)) :
    Throughout (step text escape logger) (LogsInOrder text escape logger) (init r unset) acts := by
  apply throughout_invariant (I := LogOk r text escape logger)
  · intro s h
    exact h.logsInOrder
  · intro s a s' h hstep
    exact step_logOk h hstep
  · exact logOk_init hlogger unset

/-- Two events are pushed at once, and each goes out as soon as the thread is woken up. -/
def pushedAtOnce : List (Act ℕ) :=
  [.thread, .thread, .thread, .thread, .loop .main, .loop .main,
    .loop (.processEvent [("event", .value (jsonText "motion"))] 1700000000),
    .loop (.processEvent [("event", .value (jsonText "alarm"))] 1700000001), .loop .main,
    .loop .main, .loop .main, .loop .main, .notify, .thread, .thread, .thread, .loop .main,
    .loop .main, .loop .main, .loop .main, .notify, .thread]

/-- Both commands have been passed at the end. -/
theorem pushedAtOnce_logged :
    (run (step plainEventText mysql_real_escape_string 0)
      (init (ℓ := ℕ) ⟨[0, 1], 2, by decide⟩ true) pushedAtOnce).map
        (fun s => s.mpMysql.queries.length) = some 2 ∧
    Throughout (step plainEventText mysql_real_escape_string 0)
      (LogsInOrder plainEventText mysql_real_escape_string 0)
      (init (ℓ := ℕ) ⟨[0, 1], 2, by decide⟩ true) pushedAtOnce :=
  ⟨by decide +kernel, logsInOrder_throughout ⟨[0, 1], 2, by decide⟩ plainEventText
    mysql_real_escape_string (by decide) true _⟩

end Dhas.Analysis.LogOrder
