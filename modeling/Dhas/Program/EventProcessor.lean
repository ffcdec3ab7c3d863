import Dhas.Program.JSON

/-!
# The event processor

The events, and the data of `EventProcessor.cpp` that its loop works on: the queue, the listeners,
the script engine and the request to load the script again. Listeners are told apart by their
address; `reloadScript` is given the one of the engine that it constructs.
-/

set_option autoImplicit false

namespace Dhas.Program

/-! ## The events as documents -/

/-- The value of a member of an event. -/
inductive EventValue where
  | value (v : JSONValue)
  | list (values : List JSONValue)
  | object (members : JSON)
  deriving DecidableEq

abbrev EventDocument := List (String × EventValue)

/-- An event without lists and objects. -/
def JSON.document (json : JSON) : EventDocument :=
  json.map fun member => (member.1, .value member.2)

/-- What `processEvent` adds at time `t`. SOURCE: EventProcessor.cpp:147-150 -/
def EventDocument.stamp (message : EventDocument) (t : ℤ) : EventDocument :=
  message ++ [("timestamp", .value (.num (toUnsigned t)))]

/-! ## The event processor -/

structure EventProcessor (ℓ : Type) where
  mMessageQueue : List EventDocument
  mEventListeners : List ℓ
  mpScriptEngine : Option ℓ
  mNeedReloadScript : Bool

namespace EventProcessor

variable {ℓ : Type} [DecidableEq ℓ]

/-- The constructor. It leaves `mNeedReloadScript` as it finds it. -/
def new (unset : Bool) : EventProcessor ℓ where
  mMessageQueue := []
  mEventListeners := []
  mpScriptEngine := none
  mNeedReloadScript := unset

def addEventListener (p : EventProcessor ℓ) (pl : ℓ) : EventProcessor ℓ :=
  { p with mEventListeners := p.mEventListeners ++ [pl] }

/-- The first entry for the listener is erased. -/
def removeEventListener (p : EventProcessor ℓ) (pl : ℓ) : EventProcessor ℓ :=
  { p with mEventListeners := p.mEventListeners.erase pl }

/-- The first half of `reloadScript()`: the old engine is removed and deleted. -/
def removeScriptEngine (p : EventProcessor ℓ) : EventProcessor ℓ :=
  match p.mpScriptEngine with
  | some old => { p.removeEventListener old with mpScriptEngine := none }
  | none => p

/-- `reloadScript()`, where `engine` is the engine that it constructs. -/
def reloadScript (p : EventProcessor ℓ) (engine : ℓ) : EventProcessor ℓ :=
  { ({ p.removeScriptEngine with mpScriptEngine := some engine }).addEventListener engine with
    mNeedReloadScript := false }

/-- What `processEvent` does with the lock held, apart from its signal. -/
def push (p : EventProcessor ℓ) (message : EventDocument) : EventProcessor ℓ :=
  { p with mMessageQueue := p.mMessageQueue ++ [message] }

/-- INTERNAL: every listener but the old engine stays. -/
theorem mem_removeScriptEngine {p : EventProcessor ℓ} {pl : ℓ} (h : pl ∈ p.mEventListeners)
    (hpl : p.mpScriptEngine ≠ some pl) : pl ∈ p.removeScriptEngine.mEventListeners := by
  unfold removeScriptEngine
  split
  case h_1 old hold =>
    apply (List.mem_erase_of_ne _).mpr h
    rintro rfl
    exact hpl hold
  case h_2 => exact h

/-- INTERNAL: the removal of the script engine adds no listener. -/
theorem sublist_removeScriptEngine (p : EventProcessor ℓ) :
    p.removeScriptEngine.mEventListeners.Sublist p.mEventListeners := by
  unfold removeScriptEngine
  split
  · exact List.erase_sublist
  · exact List.Sublist.refl _

/-- INTERNAL: a reload leaves the queue of the messages alone. -/
theorem mMessageQueue_reloadScript (p : EventProcessor ℓ) (engine : ℓ) :
    (p.reloadScript engine).mMessageQueue = p.mMessageQueue := by
  unfold reloadScript removeScriptEngine
  split <;> rfl

end EventProcessor

/-- What `main` registers: different listeners, and the engine of the first `reloadScript`. -/
structure Registration (ℓ : Type) where
  listeners : List ℓ
  engine : ℓ
  nodup : (listeners ++ [engine]).Nodup

/-- The event processor when its loop starts. -/
def Registration.processor {ℓ : Type} [DecidableEq ℓ] (r : Registration ℓ) (unset : Bool) :
    EventProcessor ℓ :=
  (r.listeners.foldl EventProcessor.addEventListener (EventProcessor.new unset)).reloadScript
    r.engine

/-- INTERNAL: registering does nothing but register. -/
theorem foldl_addEventListener {ℓ : Type} (listeners : List ℓ) (p : EventProcessor ℓ) :
    listeners.foldl EventProcessor.addEventListener p =
      { p with mEventListeners := p.mEventListeners ++ listeners } := by
  induction listeners generalizing p with
  | nil => simp
  | cons l listeners ih =>
    rw [List.foldl_cons, ih]
    simp [EventProcessor.addEventListener]

/-- INTERNAL: the processor that a registration makes, member by member. -/
theorem Registration.processor_eq {ℓ : Type} [DecidableEq ℓ] (r : Registration ℓ) (unset : Bool) :
    r.processor unset =
      { mMessageQueue := []
        mEventListeners := r.listeners ++ [r.engine]
        mpScriptEngine := some r.engine
        mNeedReloadScript := false } := by
  unfold Registration.processor
  rw [foldl_addEventListener]
  rfl

end Dhas.Program
