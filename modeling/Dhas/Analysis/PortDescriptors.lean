import Dhas.Model.PortSockets

/-!
# Descriptors of the serial ports

A port takes the descriptor 0 for "no socket", and a number that it has closed may belong to
another port before it forgets it. `OwnSockets` says that nothing comes of that: every call of a
port is on a descriptor that is its own then, no descriptor stays open that its port does not
know, and two attempts to connect are two seconds apart. This holds in exactly the runs in which
no connection is made on the descriptor 0.
-/

set_option autoImplicit false

namespace Dhas.Analysis.PortDescriptors

open Dhas.Library Dhas.Model
open Dhas.Model.PortSockets

variable {ι : Type}

/-- Two attempts to connect are two seconds apart. -/
def Apart (attempts : List ℤ) : Prop := attempts.Pairwise fun t t' => t + 2 ≤ t'

/-- The ports use their own sockets. A call on -1 does nothing. -/
structure OwnSockets (s : PortSockets ι) : Prop where
  /-- every call was on a descriptor of its port -/
  calls : ∀ c ∈ s.calls, c.owner = some (.port c.caller) ∨ c.fd = -1
  /-- what is open is known to its port, and not taken for "no socket" between the calls -/
  known : ∀ i fd, s.table fd = some (.port i) →
    (s.ports i).mSocket = fd ∧ ((s.ports i).pc = .idle → fd ≠ 0)
  apart : ∀ i, Apart (s.ports i).attempts

/-- A connection is made on another descriptor than 0. -/
def NotZero (s : PortSockets ι) : Act ι → Prop
  | .connect i true => (s.ports i).mSocket ≠ 0
  | _ => True

instance (s : PortSockets ι) (a : Act ι) : Decidable (NotZero s a) := by
  unfold NotZero
  split <;> infer_instance

/-! ## One port -/

/-- What holds for a port between two steps. -/
structure PortOk (table : ℤ → Option (Owner ι)) (i : ι) (p : Port) : Prop where
  idle : p.pc = .idle → p.mSocket ≠ 0 → table p.mSocket = some (.port i)
  busy : p.pc ≠ .idle → (∀ reconnecting, p.pc ≠ .closed reconnecting) → p.mSocket ≠ -1 →
    table p.mSocket = some (.port i)
  known : ∀ fd, table fd = some (.port i) →
    p.mSocket = fd ∧ (p.pc = .idle → fd ≠ 0) ∧ ∀ reconnecting, p.pc ≠ .closed reconnecting
  apart : Apart p.attempts
  last : ∀ t ∈ p.attempts, t ≤ p.mLastReconnect

section PortOk

variable {table table' : ℤ → Option (Owner ι)} {i : ι} {p : Port}

/-- INTERNAL: only the descriptors of the port count. -/
theorem PortOk.congr (h : PortOk table i p)
    (hsame : ∀ fd, table' fd = some (.port i) ↔ table fd = some (.port i)) :
    PortOk table' i p where
  idle := fun hpc hsocket => (hsame _).mpr (h.idle hpc hsocket)
  busy := fun hpc hclosed hsocket => (hsame _).mpr (h.busy hpc hclosed hsocket)
  known := fun fd hfd => h.known fd ((hsame fd).mp hfd)
  apart := h.apart
  last := h.last

/-- INTERNAL: a port without a socket has no descriptor. -/
theorem PortOk.none_open (h : PortOk table i p) (hpc : p.pc = .idle) (hsocket : p.mSocket = 0)
    (fd : ℤ) : table fd ≠ some (.port i) := by
  intro hfd
  obtain ⟨heq, hzero, -⟩ := h.known fd hfd
  exact hzero hpc (heq.symm.trans hsocket)

/-- INTERNAL: an attempt comes two seconds after the one before it.
SOURCE: IPSerialPort.cpp:105-108 -/
theorem PortOk.apart_append (h : PortOk table i p) {t : ℤ} (hdue : p.mLastReconnect + 2 ≤ t) :
    Apart (p.attempts ++ [t]) ∧ ∀ t' ∈ p.attempts ++ [t], t' ≤ t := by
  have hbefore : ∀ t' ∈ p.attempts, t' + 2 ≤ t := by
    intro t' ht'
    have hlast := h.last t' ht'
    omega
  constructor
  · apply List.pairwise_append.mpr
    refine ⟨h.apart, List.pairwise_singleton _ t, fun t' ht' x hx => ?_⟩
    obtain rfl := List.mem_singleton.mp hx
    exact hbefore t' ht'
  · intro t' ht'
    rcases List.mem_append.mp ht' with ht' | ht'
    · have hle := hbefore t' ht'
      omega
    · exact (List.mem_singleton.mp ht').le

end PortOk

/-! ## All ports -/

structure SocketsOk (s : PortSockets ι) : Prop where
  ports : ∀ i, PortOk s.table i (s.ports i)
  /-- no file has a number below 0 -/
  negative : ∀ fd < 0, s.table fd = none
  calls : ∀ c ∈ s.calls, c.owner = some (.port c.caller) ∨ c.fd = -1

/-- INTERNAL: at first no port has a descriptor. -/
theorem socketsOk_init (table : ℤ → Bool) (hnegative : ∀ fd < 0, table fd = false) :
    SocketsOk (init table : PortSockets ι) where
  ports := by
    intro i
    have hothers (fd : ℤ) : (init table : PortSockets ι).table fd ≠ some (.port i) := by
      unfold init
      dsimp only
      split <;> simp
    exact ⟨fun _ hsocket => absurd rfl hsocket, fun hpc => absurd rfl hpc,
      fun fd hfd => absurd hfd (hothers fd), List.Pairwise.nil, by simp [init, Port.new]⟩
  negative := by
    intro fd hfd
    simp [init, hnegative fd hfd]
  calls := by simp [init]

section Step

variable {s s' : PortSockets ι} {a : Act ι}

/-- INTERNAL: a call is on a descriptor of the port while it has one. -/
theorem SocketsOk.call (h : SocketsOk s) {i : ι}
    (howner : (s.ports i).mSocket ≠ -1 → s.table (s.ports i).mSocket = some (.port i)) :
    ∀ c ∈ (s.call i).calls, c.owner = some (.port c.caller) ∨ c.fd = -1 := by
  intro c hc
  rcases List.mem_append.mp hc with hc | hc
  · exact h.calls c hc
  · obtain rfl := List.mem_singleton.mp hc
    by_cases hfd : (s.ports i).mSocket = -1
    · exact .inr hfd
    · exact .inl (howner hfd)

variable [DecidableEq ι]

/-- INTERNAL: a step of one port leaves the descriptors of the others alone. -/
theorem SocketsOk.move (h : SocketsOk s) {i : ι} {p : Port}
    {table : ℤ → Option (Owner ι)} {calls : List (SocketCall ι)}
    (hothers : ∀ j, j ≠ i → ∀ fd, table fd = some (.port j) ↔ s.table fd = some (.port j))
    (hp : PortOk table i p) (hnegative : ∀ fd < 0, table fd = none)
    (hcalls : ∀ c ∈ calls, c.owner = some (.port c.caller) ∨ c.fd = -1) :
    SocketsOk ⟨Function.update s.ports i p, table, calls⟩ where
  ports := by
    intro j
    dsimp only
    by_cases hj : j = i
    · subst hj
      rw [Function.update_self]
      exact hp
    · rw [Function.update_of_ne hj]
      exact (h.ports j).congr (hothers j hj)
  negative := hnegative
  calls := hcalls

/-- INTERNAL: an attempt to connect gets a descriptor that nobody has, or none.
SOURCE: IPSerialPort.cpp:99-118 -/
theorem SocketsOk.socket (h : SocketsOk s) {i : ι} {t fd : ℤ} (hpc : (s.ports i).pc = .idle)
    (hsocket : (s.ports i).mSocket = 0) (hdue : (s.ports i).mLastReconnect + 2 ≤ t)
    (hfd : 0 ≤ fd) (hfree : s.table fd = none) :
    SocketsOk { s.setPort i { s.ports i with
        mSocket := fd, mLastReconnect := t, pc := .connecting,
        attempts := (s.ports i).attempts ++ [t] } with
      table := Function.update s.table fd (some (.port i)) } := by
  obtain ⟨hapart, hlast⟩ := (h.ports i).apart_append hdue
  have hnone := (h.ports i).none_open hpc hsocket
  refine h.move ?_ ⟨?_, ?_, ?_, hapart, hlast⟩ ?_ h.calls
  · intro j hj fd'
    by_cases hfd' : fd' = fd
    · subst hfd'
      simp [hfree, Ne.symm hj]
    · rw [Function.update_of_ne hfd']
  · intro hidle
    cases hidle
  · intro _ _ _
    exact Function.update_self fd _ _
  · intro fd' hfd'
    by_cases heq : fd' = fd
    · refine ⟨heq.symm, ?_, ?_⟩
      · intro hidle
        cases hidle
      · intro _ hclosed
        cases hclosed
    · rw [Function.update_of_ne heq] at hfd'
      exact absurd hfd' (hnone fd')
  · intro fd' hlt
    rw [Function.update_of_ne (by omega)]
    exact h.negative fd' hlt

/-- INTERNAL: a socket that is closed is nobody's. SOURCE: IPSerialPort.cpp:59, 83, 92, 133 -/
theorem SocketsOk.close (h : SocketsOk s) {i : ι} {reconnecting : Bool}
    (hpc : (s.ports i).pc = .closing reconnecting) :
    SocketsOk { (s.call i).setPort i { s.ports i with pc := .closed reconnecting } with
      table := Function.update s.table (s.ports i).mSocket none } := by
  have hp := h.ports i
  have howner : (s.ports i).mSocket ≠ -1 → s.table (s.ports i).mSocket = some (.port i) :=
    hp.busy (by simp [hpc]) (by simp [hpc])
  refine h.move ?_ ⟨?_, ?_, ?_, hp.apart, hp.last⟩ ?_ (h.call howner)
  · intro j hj fd
    by_cases hfd : fd = (s.ports i).mSocket
    · rw [hfd, Function.update_self]
      by_cases hminus : (s.ports i).mSocket = -1
      · simp [hminus, h.negative (-1) (by omega)]
      · simp [howner hminus, Ne.symm hj]
    · rw [Function.update_of_ne hfd]
  · intro hidle
    cases hidle
  · intro _ hclosed
    exact absurd rfl (hclosed reconnecting)
  · intro fd hfd
    by_cases heq : fd = (s.ports i).mSocket
    · rw [heq, Function.update_self] at hfd
      cases hfd
    · rw [Function.update_of_ne heq] at hfd
      exact absurd (hp.known fd hfd).1.symm heq
  · intro fd hlt
    by_cases heq : fd = (s.ports i).mSocket
    · rw [heq, Function.update_self]
    · rw [Function.update_of_ne heq]
      exact h.negative fd hlt

/-- INTERNAL: every step that makes no connection on the descriptor 0 keeps the sockets apart. -/
theorem step_socketsOk (h : SocketsOk s) (hzero : NotZero s a) (hstep : step s a = some s') :
    SocketsOk s' := by
  cases step_effect hstep with
  | notDue i t fd hpc hdue => exact h
  | noSocket i t hpc hsocket hdue =>
    obtain ⟨hapart, hlast⟩ := (h.ports i).apart_append hdue
    have hnone := (h.ports i).none_open hpc hsocket
    refine h.move (fun j _ fd => Iff.rfl) ⟨?_, ?_, ?_, hapart, hlast⟩ h.negative h.calls
    · intro hidle
      cases hidle
    · exact fun _ _ hminus => absurd rfl hminus
    · exact fun fd hfd => absurd hfd (hnone fd)
  | socket i t fd hpc hsocket hdue hfd hfree => exact h.socket hpc hsocket hdue hfd hfree
  | connected i hpc hfd =>
    have hp := h.ports i
    have howner := hp.busy (by simp [hpc]) (by simp [hpc])
    refine h.move (fun j _ fd => Iff.rfl) ⟨?_, ?_, ?_, hp.apart, hp.last⟩ h.negative
      (h.call howner)
    · exact fun _ _ => howner hfd
    · exact fun hidle => absurd rfl hidle
    · intro fd hfd'
      obtain ⟨heq, -, -⟩ := hp.known fd hfd'
      refine ⟨heq, fun _ hfd0 => hzero (heq.trans hfd0), fun _ hclosed => ?_⟩
      cases hclosed
  | refused i hpc =>
    have hp := h.ports i
    have howner := hp.busy (by simp [hpc]) (by simp [hpc])
    refine h.move (fun j _ fd => Iff.rfl) ⟨?_, ?_, ?_, hp.apart, hp.last⟩ h.negative
      (h.call howner)
    · intro hidle
      cases hidle
    · exact fun _ _ => howner
    · intro fd hfd
      refine ⟨(hp.known fd hfd).1, fun hidle => ?_, fun _ hclosed => ?_⟩
      · cases hidle
      · cases hclosed
  | notOpen i failed hpc hsocket => exact h
  | transferred i hpc hsocket =>
    have hp := h.ports i
    exact h.move (fun j _ fd => Iff.rfl) hp h.negative (h.call fun _ => hp.idle hpc hsocket)
  | gone i hpc hsocket =>
    have hp := h.ports i
    refine h.move (fun j _ fd => Iff.rfl) ⟨?_, ?_, ?_, hp.apart, hp.last⟩ h.negative
      (h.call fun _ => hp.idle hpc hsocket)
    · intro hidle
      cases hidle
    · exact fun _ _ _ => hp.idle hpc hsocket
    · intro fd hfd
      refine ⟨(hp.known fd hfd).1, fun hidle => ?_, fun _ hclosed => ?_⟩
      · cases hidle
      · cases hclosed
  | close i reconnecting hpc => exact h.close hpc
  | assign i reconnecting hpc =>
    have hp := h.ports i
    refine h.move (fun j _ fd => Iff.rfl) ⟨?_, ?_, ?_, hp.apart, hp.last⟩ h.negative h.calls
    · exact fun _ hsocket => absurd rfl hsocket
    · exact fun hidle => absurd rfl hidle
    · exact fun fd hfd => absurd hpc ((hp.known fd hfd).2.2 reconnecting)
  | opened fd hfd hfree =>
    refine ⟨fun i => (h.ports i).congr fun fd' => ?_, fun fd' hlt => ?_, h.calls⟩
    · dsimp only
      by_cases heq : fd' = fd
      · rw [heq, Function.update_self, hfree]
        simp
      · rw [Function.update_of_ne heq]
    · dsimp only
      rw [Function.update_of_ne (by omega)]
      exact h.negative fd' hlt
  | released fd howner =>
    refine ⟨fun i => (h.ports i).congr fun fd' => ?_, fun fd' hlt => ?_, h.calls⟩
    · dsimp only
      by_cases heq : fd' = fd
      · rw [heq, Function.update_self, howner]
        simp
      · rw [Function.update_of_ne heq]
    · dsimp only
      by_cases heq : fd' = fd
      · rw [heq, Function.update_self]
      · rw [Function.update_of_ne heq]
        exact h.negative fd' hlt

omit [DecidableEq ι] in
/-- INTERNAL: the invariant says that every call is on the port's own socket, or on none. -/
theorem SocketsOk.ownSockets (h : SocketsOk s) : OwnSockets s where
  calls := h.calls
  known := fun i fd hfd => ⟨((h.ports i).known fd hfd).1, ((h.ports i).known fd hfd).2.1⟩
  apart := fun i => (h.ports i).apart

/-- INTERNAL: a connection on the descriptor 0 is one that its port does not know of. -/
theorem notZero_of_ownSockets (h : SocketsOk s) (hstep : step s a = some s')
    (hown : OwnSockets s') : NotZero s a := by
  unfold NotZero
  split
  case h_2 => trivial
  case h_1 i =>
    cases step_effect hstep with
    | connected _ hpc hfd =>
      have howner := (h.ports i).busy (by simp [hpc]) (by simp [hpc]) hfd
      apply (hown.known i _ howner).2
      exact congrArg Port.pc (Function.update_self i _ s.ports)

end Step

/-! ## The port as the modules see it -/

/-- The port of `Dhas.Program`, which has no descriptors. -/
def view (p : Port) : Dhas.Program.IPSerialPort where
  mSocket := decide (p.mSocket ≠ 0)
  mLastReconnect := p.mLastReconnect
  mFailedReconnect := p.mFailedReconnect

/-- The steps of `Reconnect()`, when it tries to connect, with the descriptor that it gets. -/
def reconnectActs (i : ι) (t fd : ℤ) (ok : Bool) : List (Act ι) :=
  .reconnect i t fd :: .connect i ok :: if ok then [] else [.close i, .assign i]

section View

variable [DecidableEq ι] {s s' : PortSockets ι} {i : ι} {t fd : ℤ}

/-- INTERNAL: a port that is connected, or tried within two seconds, is left as it is. -/
theorem view_notDue (ok : Bool) (hstep : step s (.reconnect i t fd) = some s')
    (h : (s.ports i).mSocket ≠ 0 ∨ (s.ports i).mLastReconnect + 2 > t) :
    view (s'.ports i) = ((view (s.ports i)).Reconnect t ok).1 := by
  cases step_effect hstep with
  | notDue _ _ _ hpc hdue =>
    unfold Dhas.Program.IPSerialPort.Reconnect view
    by_cases hsocket : (s.ports i).mSocket = 0
    · have hlast : (s.ports i).mLastReconnect + 2 > t := by simpa [hsocket] using h
      simp [hsocket, hlast]
    · simp [hsocket]
  | noSocket _ _ hpc hsocket hdue => omega
  | socket _ _ _ hpc hsocket hdue hfd hfree => omega

/-- INTERNAL: **the steps of an attempt make what `Reconnect` of the port without descriptors
makes.** SOURCE: IPSerialPort.cpp:99-138 -/
theorem view_reconnect (ok : Bool) (hsocket : (s.ports i).mSocket = 0)
    (hdue : (s.ports i).mLastReconnect + 2 ≤ t) (hfd : 0 < fd)
    (hrun : run step s (reconnectActs i t fd ok) = some s') :
    view (s'.ports i) = ((view (s.ports i)).Reconnect t ok).1 := by
  have hnot : ¬ (s.ports i).mLastReconnect + 2 > t := by omega
  have hspec : ((view (s.ports i)).Reconnect t ok).1 = ⟨ok, t, !ok⟩ := by
    unfold Dhas.Program.IPSerialPort.Reconnect view
    cases ok with
    | true => simp [hsocket, hnot]
    | false => simp [hsocket, hnot]
  rw [hspec]
  unfold reconnectActs at hrun
  rw [run_cons, Option.bind_eq_some_iff] at hrun
  obtain ⟨s₁, h₁, hrun⟩ := hrun
  rw [run_cons, Option.bind_eq_some_iff] at hrun
  obtain ⟨s₂, h₂, hrun⟩ := hrun
  have hs₁ : (s₁.ports i).mSocket = fd ∧ (s₁.ports i).mLastReconnect = t := by
    cases step_effect h₁ with
    | notDue _ _ _ hpc h => omega
    | noSocket _ _ hpc _ _ => omega
    | socket _ _ _ hpc _ _ _ hfree => simp [PortSockets.setPort]
  cases step_effect h₂ with
  | connected _ hpc hminus =>
    obtain rfl := Option.some.inj hrun
    simp [PortSockets.setPort, view, hs₁]
    omega
  | refused _ hpc =>
    simp only [Bool.false_eq_true, if_false] at hrun
    rw [run_cons, Option.bind_eq_some_iff] at hrun
    obtain ⟨s₃, h₃, hrun⟩ := hrun
    rw [run_cons, Option.bind_eq_some_iff] at hrun
    obtain ⟨s₄, h₄, hrun⟩ := hrun
    obtain rfl := Option.some.inj hrun
    have hpc₂ : ((s₁.call i).setPort i { s₁.ports i with pc := .closing true }).ports i =
        { s₁.ports i with pc := .closing true } := Function.update_self i _ _
    cases step_effect h₃ with
    | close _ reconnecting hclosing =>
      rw [hpc₂] at hclosing
      obtain rfl : true = reconnecting := PortPc.closing.inj hclosing
      cases step_effect h₄ with
      | assign _ reconnecting hclosed =>
        simp [PortSockets.setPort] at hclosed
        simp [PortSockets.setPort, view, hs₁, ← hclosed]

end View

/-- **The ports use their own sockets only, and lose none, in exactly the runs in which no
connection is made on the descriptor 0.**
SOURCE: IPSerialPort.cpp:44-138 -/
theorem ownSockets_throughout_iff [DecidableEq ι] (table : ℤ → Bool)
    (hnegative : ∀ fd < 0, table fd = false) (acts : List (Act ι)) :
    Throughout step OwnSockets (init table) acts ↔ Along step NotZero (init table) acts := by
  apply throughout_iff_along (I := SocketsOk)
  · exact fun s h => h.ownSockets
  · exact fun s a s' h hzero hstep => step_socketsOk h hzero hstep
  · exact fun s a s' h hstep hown => notZero_of_ownSockets h hstep hown
  · exact socketsOk_init table hnegative

/-- Input, output and errors. -/
def standardFiles (fd : ℤ) : Bool := decide (0 ≤ fd ∧ fd ≤ 2)

/-- The standard files are open, and two ports connect and lose their sockets in turn. -/
def twoPorts : List (Act Bool) :=
  [.reconnect false 100 3, .connect false true, .transfer false true, .close false,
    .reconnect true 100 3, .connect true true, .assign false, .reconnect false 101 4,
    .reconnect false 102 4, .connect false false, .close false, .assign false]

/-- The second port has the number that the first one has closed and still holds. -/
theorem ownSockets_twoPorts :
    Along step NotZero (init standardFiles) twoPorts ∧
      Throughout step OwnSockets (init standardFiles) twoPorts := by
  have hzero : Along step NotZero (init standardFiles) twoPorts := by decide
  have hnegative : ∀ fd < 0, standardFiles fd = false := by
    intro fd hfd
    simp only [standardFiles, decide_eq_false_iff_not]
    omega
  exact ⟨hzero, (ownSockets_throughout_iff standardFiles hnegative twoPorts).mpr hzero⟩

end Dhas.Analysis.PortDescriptors
