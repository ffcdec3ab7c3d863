import Dhas.Model.CallMedia

/-!
# The media sessions of a call are stopped

`setRTPSession` overwrites the pointer to the session that the call had, so the session of the
first offer is lost at the second: nothing stops or deletes it. And `onAnswer` and `onConnected`
both start the session of the call, whether its thread runs or not. A call whose sessions come
and go as the program means it has one offer, or none after `makeCall`, and starts its session
once: after it was stopped there is nothing that could be started.
-/

set_option autoImplicit false

namespace Dhas.Analysis.MediaSessions

open Dhas.Library Dhas.Program Dhas.Program.Sound Dhas.Model.CallMedia
open Dhas.Program.CallMedia

variable {capacity : ℕ}

/-- The thread of the session was started and has not been joined. -/
def Running (c : CallMedia) (n : SessionId) : Prop :=
  ∃ session, c.sessions n = some session ∧ session.joinable = true

/-- No two sessions run, and no thread was assigned to a joinable one. -/
structure Orderly (c : CallMedia) : Prop where
  one : ∀ m n, Running c m → Running c n → m = n
  fresh : c.terminated = false

/-- Every session that was created is stopped and deleted. -/
def Released (c : CallMedia) : Prop := ∀ n < c.created, c.sessions n = none ∧ n ∈ c.stopped

/-- A call is orderly throughout, and when its destructor returns every session is released. -/
def EveryStopped (capacity : ℕ) (c : CallMedia) (callbacks : List Callback) : Prop :=
  Throughout (step capacity) Orderly c callbacks ∧
    ∀ c', run (step capacity) c callbacks = some c' → Released c'.destroyCall

/-- The callback creates a session. -/
def isOffer : Callback → Bool
  | .onOffer _ _ => true
  | _ => false

/-- The callback starts the session of the call. -/
def isStart : Callback → Bool
  | .onAnswer _ _ => true
  | .onConnected => true
  | _ => false

/-- The offers that a call can take: `makeCall` gives it a session from the beginning. -/
def offersOf : Beginning → ℕ
  | .makeCall => 0
  | .incomming => 1

/-- INTERNAL: no call can take two offers. -/
theorem offersOf_le_one (beginning : Beginning) : offersOf beginning ≤ 1 := by
  cases beginning <;> decide

/-- The call is offered media once, or not at all after `makeCall`, and is answered or connected
once. -/
structure FirstAndOnce (beginning : Beginning) (callbacks : List Callback) : Prop where
  offers : callbacks.countP isOffer ≤ offersOf beginning
  starts : callbacks.countP isStart ≤ 1

/-- INTERNAL: the session of a call is the one that it owns, and that is not destroyed. -/
theorem getRTPSession_eq_some {c : CallMedia} {n : SessionId} {session : Sound.RTPSession} :
    c.getRTPSession = some (n, session) ↔
      c.mRtpSession = some n ∧ c.sessions n = some session := by
  unfold getRTPSession
  cases h : c.mRtpSession with
  | none => simp
  | some m =>
    cases hm : c.sessions m with
    | none =>
      simp only [Option.bind_some, hm, Option.map_none, reduceCtorEq, Option.some.injEq, false_iff]
      rintro ⟨rfl, hn⟩
      simp [hm] at hn
    | some s =>
      simp only [Option.bind_some, hm, Option.map_some, Option.some.injEq, Prod.mk.injEq]
      constructor
      · rintro ⟨rfl, rfl⟩
        exact ⟨rfl, hm⟩
      · rintro ⟨rfl, hn⟩
        exact ⟨rfl, Option.some.inj (hm.symm.trans hn)⟩

/-- INTERNAL: `start()` aborts the program when the thread of the session runs, and runs the thread
of a session that was neither started nor stopped. SOURCE: RTPSession.cpp:28-51 -/
theorem start_cases {c c' : CallMedia} {n : SessionId} {session : Sound.RTPSession}
    (h : c.start n session = some c') :
    (session.joinable = true ∧ c' = { c with terminated := true }) ∨
      (session.joinable = false ∧ session.mSession = true ∧
        ∃ started : Sound.RTPSession, started.joinable = true ∧
          c' = c.setSession n (some started)) := by
  unfold CallMedia.start at h
  by_cases hjoinable : session.joinable = true
  · rw [if_pos hjoinable] at h
    exact .inl ⟨hjoinable, (Option.some.inj h).symm⟩
  · rw [if_neg hjoinable] at h
    obtain ⟨started, hstarted, rfl⟩ := Option.map_eq_some_iff.mp h
    obtain ⟨hidle, hsession, rfl⟩ := Sound.RTPSession.start_eq_some hstarted
    exact .inr ⟨hidle, hsession, _, rfl, rfl⟩

/-! ## One session -/

/-- The call owns the only session that was ever created for it. -/
structure OwnsOnly (c : CallMedia) : Prop where
  usingRTP : c.factory.usingRTP = true
  owner : ∀ n < c.created, c.mRtpSession = some n
  created : ∀ n, (c.sessions n).isSome → n < c.created
  alive : ∀ n, c.mRtpSession = some n → (c.sessions n).isSome
  fresh : c.terminated = false

/-- INTERNAL: with one session, which the call owns, the media is in order. -/
theorem OwnsOnly.orderly {c : CallMedia} (h : OwnsOnly c) : Orderly c := by
  refine ⟨fun m n => ?_, h.fresh⟩
  rintro ⟨s, hs, -⟩ ⟨t, ht, -⟩
  have hm := h.owner m (h.created m (by simp [hs]))
  have hn := h.owner n (h.created n (by simp [ht]))
  exact Option.some.inj (hm.symm.trans hn)

/-- INTERNAL: the session of the call is replaced by a later state of it. -/
theorem OwnsOnly.setSession {c : CallMedia} (h : OwnsOnly c) {n : SessionId}
    (hn : c.mRtpSession = some n) (session : Sound.RTPSession) :
    OwnsOnly (c.setSession n (some session)) where
  usingRTP := h.usingRTP
  owner := h.owner
  created := by
    intro m hm
    by_cases hmn : m = n
    · rw [hmn]
      exact h.created n (h.alive n hn)
    · exact h.created m (by simpa [CallMedia.setSession, hmn] using hm)
  alive := by
    intro m hm
    obtain rfl := Option.some.inj (hm.symm.trans hn)
    simp [CallMedia.setSession]
  fresh := h.fresh

/-- INTERNAL: a call without a session never had one. -/
theorem OwnsOnly.created_eq_zero {c : CallMedia} (h : OwnsOnly c) (hnone : c.mRtpSession = none) :
    c.created = 0 := by
  apply Nat.eq_zero_of_not_pos
  intro hpos
  exact absurd ((h.owner 0 hpos).symm.trans hnone) (by simp)

/-- INTERNAL: an answer to an offer changes what was described only.
SOURCE: SIPEngine.cpp:443-473 -/
theorem answerIncomming_eq {c : CallMedia} {n : SessionId} {session : Sound.RTPSession}
    (hn : c.mRtpSession = some n) (hs : c.sessions n = some session) :
    ∃ described, c.answerIncomming = some { c with described := described } := by
  unfold CallMedia.answerIncomming
  rw [getRTPSession_eq_some.mpr ⟨hn, hs⟩, Option.map_some]
  by_cases hserver : c.mInviteSessionHandle = some .server
  · exact ⟨_, congrArg some (if_pos hserver)⟩
  · exact ⟨_, congrArg some (if_neg hserver)⟩

/-- INTERNAL: `createRTPSession` and `setRTPSession`, whatever the call had before.
SOURCE: SIPEngine.cpp:153-154, 431-432, Call.cpp:99-103 -/
theorem createRTPSession_eq (capacity : ℕ) {c : CallMedia} (h : c.factory.usingRTP = true) :
    ∃ (session : Sound.RTPSession) (factory : SoundDeviceFactory), factory.usingRTP = true ∧
      session.joinable = false ∧ c.createRTPSession capacity =
        some { c.setSession c.created (some session) with
          factory := factory
          created := c.created + 1
          mRtpSession := some c.created } := by
  refine ⟨(Sound.RTPSession.new capacity).setLocalAddress c.factory.mLocalIP c.factory.mNextPort,
    { c.factory with mNextPort := c.factory.portAfter }, h, rfl, ?_⟩
  unfold CallMedia.createRTPSession SoundDeviceFactory.createRTPSession
  rw [if_pos h]

/-- INTERNAL: what an offer does, whatever the call had before it.
SOURCE: SIPEngine.cpp:424-441 -/
theorem onOffer_eq (capacity : ℕ) {c : CallMedia} (h : c.factory.usingRTP = true)
    (peerIP : CString) (peerPort : ℕ) :
    ∃ (session : Sound.RTPSession) (factory : SoundDeviceFactory) (described : List (CString × ℕ)),
      factory.usingRTP = true ∧ session.joinable = false ∧
      c.onOffer capacity peerIP peerPort =
        some { c.setSession c.created (some session) with
          factory := factory
          created := c.created + 1
          mRtpSession := some c.created
          described := described } := by
  obtain ⟨session, factory, hfactory, hidle, hcreate⟩ := createRTPSession_eq capacity h
  unfold CallMedia.onOffer
  rw [hcreate, Option.bind_some]
  generalize hc' : ({ c.setSession c.created (some session) with
    factory := factory
    created := c.created + 1
    mRtpSession := some c.created } : CallMedia) = c'
  have hn : c'.mRtpSession = some c.created := by rw [← hc']
  have hs : c'.sessions = Function.update c.sessions c.created (some session) := by
    rw [← hc']
    rfl
  rw [getRTPSession_eq_some.mpr ⟨hn, by rw [hs, Function.update_self]⟩, Option.bind_some]
  obtain ⟨described, hanswer⟩ := answerIncomming_eq
    (c := c'.setSession c.created (some (session.setPeerAddress peerIP peerPort))) hn
    (Function.update_self ..)
  refine ⟨session.setPeerAddress peerIP peerPort, factory, described, hfactory, hidle, ?_⟩
  show CallMedia.answerIncomming _ = _
  rw [hanswer, ← hc']
  simp only [CallMedia.setSession, Function.update_idem]

/-- INTERNAL: **what a callback can do to the sessions of a call**: nothing; an offer creates
another one; an answer or the end of the connection starts the one that the call has, or aborts the
program; and the end of the call stops it. SOURCE: SIPEngine.cpp:286-322, 380-441 -/
theorem step_cases {c c' : CallMedia} {callback : Callback} (husing : c.factory.usingRTP = true)
    (hstep : step capacity c callback = some c') :
    (isOffer callback = false ∧ isStart callback = false ∧
        ∃ handle incomming,
          c' = { c with mInviteSessionHandle := handle, mIncomming := incomming }) ∨
      (isOffer callback = true ∧ isStart callback = false ∧
        ∃ (session : Sound.RTPSession) (factory : SoundDeviceFactory)
          (described : List (CString × ℕ)), factory.usingRTP = true ∧ session.joinable = false ∧
          c' = { c.setSession c.created (some session) with
            factory := factory
            created := c.created + 1
            mRtpSession := some c.created
            described := described }) ∨
      (isOffer callback = false ∧ isStart callback = true ∧
        ∃ n session, c.mRtpSession = some n ∧ c.sessions n = some session ∧
          ((session.joinable = true ∧
              c' = { c with terminated := true, mCallState := .Answered }) ∨
            (session.joinable = false ∧ session.mSession = true ∧
              ∃ started : Sound.RTPSession, started.joinable = true ∧
                c' = { c.setSession n (some started) with mCallState := .Answered }))) ∨
      (isOffer callback = false ∧ isStart callback = false ∧
        ∃ n session, c.mRtpSession = some n ∧ c.sessions n = some session ∧
          c' = c.stop n session) := by
  unfold step at hstep
  obtain ⟨-, hstep⟩ := Option.ite_none_left_eq_some.mp hstep
  cases callback with
  | onNewSessionServer =>
    obtain rfl := Option.some.inj hstep
    exact .inl ⟨rfl, rfl, _, _, rfl⟩
  | onNewSessionClient =>
    obtain rfl := Option.some.inj hstep
    exact .inl ⟨rfl, rfl, _, c.mIncomming, rfl⟩
  | onOffer peerIP peerPort =>
    obtain ⟨session, factory, described, hfactory, hidle, hoffer⟩ :=
      onOffer_eq capacity husing peerIP peerPort
    obtain rfl := Option.some.inj (hoffer.symm.trans hstep)
    exact .inr (.inl ⟨rfl, rfl, session, factory, described, hfactory, hidle, rfl⟩)
  | onAnswer peerIP peerPort =>
    refine .inr (.inr (.inl ⟨rfl, rfl, ?_⟩))
    have hstep : c.onAnswer peerIP peerPort = some c' := hstep
    obtain ⟨⟨n, session⟩, hget, hstart⟩ := Option.bind_eq_some_iff.mp hstep
    obtain ⟨hn, hs⟩ := getRTPSession_eq_some.mp hget
    obtain ⟨started, hstarted, rfl⟩ := Option.map_eq_some_iff.mp hstart
    refine ⟨n, session, hn, hs, ?_⟩
    rcases start_cases hstarted with ⟨hjoinable, rfl⟩ | ⟨hidle, hsession, started', hrunning, rfl⟩
    · exact .inl ⟨hjoinable, rfl⟩
    · exact .inr ⟨hidle, hsession, started', hrunning, rfl⟩
  | onConnected =>
    refine .inr (.inr (.inl ⟨rfl, rfl, ?_⟩))
    have hstep : c.onConnected = some c' := hstep
    obtain ⟨⟨n, session⟩, hget, hstart⟩ := Option.bind_eq_some_iff.mp hstep
    obtain ⟨hn, hs⟩ := getRTPSession_eq_some.mp hget
    refine ⟨n, session, hn, hs, ?_⟩
    rcases start_cases hstart with ⟨hjoinable, rfl⟩ | ⟨hidle, hsession, started', hrunning, rfl⟩
    · exact .inl ⟨hjoinable, rfl⟩
    · exact .inr ⟨hidle, hsession, started', hrunning, rfl⟩
  | onTerminated =>
    obtain rfl := Option.some.inj hstep
    unfold CallMedia.onTerminated
    split
    case h_1 n session hget =>
      obtain ⟨hn, hs⟩ := getRTPSession_eq_some.mp hget
      exact .inr (.inr (.inr ⟨rfl, rfl, n, session, hn, hs, rfl⟩))
    case h_2 => exact .inl ⟨rfl, rfl, _, _, rfl⟩

/-- INTERNAL: the first offer gives the call its session. SOURCE: SIPEngine.cpp:424-441 -/
theorem OwnsOnly.offered {c : CallMedia} (h : OwnsOnly c) (hnone : c.mRtpSession = none)
    (session : Sound.RTPSession) {factory : SoundDeviceFactory} (hfactory : factory.usingRTP = true)
    (described : List (CString × ℕ)) :
    OwnsOnly { c.setSession c.created (some session) with
      factory := factory
      created := c.created + 1
      mRtpSession := some c.created
      described := described } where
  usingRTP := hfactory
  owner := by
    have hzero := h.created_eq_zero hnone
    intro n hn
    have hn : n < c.created + 1 := hn
    show some c.created = some n
    congr 1
    omega
  created := by
    intro n hn
    by_cases hnc : n = c.created
    · exact hnc ▸ Nat.lt_succ_self _
    · have hempty := h.created n (by simpa [CallMedia.setSession, hnc] using hn)
      exact Nat.lt_succ_of_lt hempty
  alive := by
    intro n hn
    obtain rfl := Option.some.inj hn
    simp [CallMedia.setSession]
  fresh := h.fresh

/-- The call owns the only session that was ever created for it, and these callbacks came so
far: not too many of them have offered media or started the session. -/
structure Owned (beginning : Beginning) (earlier : List Callback) (c : CallMedia) : Prop where
  owns : OwnsOnly c
  soFar : FirstAndOnce beginning earlier
  offered : c.mRtpSession = none ↔ earlier.countP isOffer < offersOf beginning
  idle : earlier.countP isStart = 0 → ∀ n session, c.mRtpSession = some n →
    c.sessions n = some session → session.joinable = false
  started : 0 < earlier.countP isStart → ∃ n session, c.mRtpSession = some n ∧
    c.sessions n = some session ∧ (session.joinable = true ∨ session.mSession = false)

/-- INTERNAL: the session of the call is looked up in a later state of it. -/
theorem eq_of_setSession {c : CallMedia} {m n : SessionId} {session later : Sound.RTPSession}
    (hm : c.mRtpSession = some m) (hn : c.mRtpSession = some n)
    (hs : (c.setSession m (some later)).sessions n = some session) : session = later := by
  obtain rfl := Option.some.inj (hm.symm.trans hn)
  simpa [CallMedia.setSession] using hs.symm

/-- INTERNAL: a callback within the condition keeps the only session with the call.
SOURCE: SIPEngine.cpp:286-322, 380-441 -/
theorem Owned.keeps {beginning : Beginning} {earlier : List Callback} {callback : Callback}
    {c c' : CallMedia} (h : Owned beginning earlier c)
    (hC : FirstAndOnce beginning (earlier ++ [callback]))
    (hstep : step capacity c callback = some c') :
    Owned beginning (earlier ++ [callback]) c' := by
  have hoffers := hC.offers
  have hstarts := hC.starts
  rw [List.countP_append, List.countP_singleton] at hoffers hstarts
  rcases step_cases h.owns.usingRTP hstep with ⟨hoffer, hstart, handle, incomming, rfl⟩ |
    ⟨hoffer, hstart, session, factory, described, hfactory, hidle, rfl⟩ |
    ⟨hoffer, hstart, n, session, hn, hs, hcase⟩ | ⟨hoffer, hstart, n, session, hn, hs, rfl⟩
  · have howns := h.owns
    refine ⟨⟨howns.usingRTP, howns.owner, howns.created, howns.alive, howns.fresh⟩, hC,
      ?_, ?_, ?_⟩ <;>
      simp only [List.countP_append, List.countP_singleton, hoffer, hstart, Bool.false_eq_true,
        if_false, Nat.add_zero]
    · exact h.offered
    · exact h.idle
    · exact h.started
  · rw [if_pos hoffer] at hoffers
    have hnone : c.mRtpSession = none := h.offered.mpr (by omega)
    refine ⟨h.owns.offered hnone session hfactory described, hC, ?_, ?_, ?_⟩ <;>
      simp only [List.countP_append, List.countP_singleton, hoffer, hstart, Bool.false_eq_true,
        if_false, if_true, Nat.add_zero]
    · have hone := offersOf_le_one beginning
      exact iff_of_false (by simp) (by omega)
    · intro _ m session' hm hs
      obtain rfl := Option.some.inj hm
      have hsame : session = session' := by simpa [CallMedia.setSession] using hs
      exact hsame ▸ hidle
    · intro hpos
      obtain ⟨m, session', hm, -⟩ := h.started hpos
      exact absurd (hm.symm.trans hnone) (by simp)
  · rw [if_pos hstart] at hstarts
    have hzero : earlier.countP isStart = 0 := by omega
    have hidle := h.idle hzero n session hn hs
    obtain ⟨-, -, started, hrunning, rfl⟩ :=
      hcase.resolve_left fun hrun => absurd (hrun.1.symm.trans hidle) (by simp)
    have hlater := h.owns.setSession hn started
    refine ⟨⟨hlater.usingRTP, hlater.owner, hlater.created, hlater.alive, hlater.fresh⟩, hC, ?_, ?_,
      ?_⟩ <;>
      simp only [List.countP_append, List.countP_singleton, hoffer, hstart, Bool.false_eq_true,
        if_false, if_true, Nat.add_zero]
    · exact h.offered
    · intro hsum
      omega
    · intro _
      refine ⟨n, started, hn, ?_, .inl hrunning⟩
      simp [CallMedia.setSession]
  · have hlater := h.owns.setSession hn session.stop
    refine ⟨⟨hlater.usingRTP, hlater.owner, hlater.created, hlater.alive, hlater.fresh⟩, hC, ?_, ?_,
      ?_⟩ <;>
      simp only [List.countP_append, List.countP_singleton, hoffer, hstart, Bool.false_eq_true,
        if_false, Nat.add_zero]
    · exact h.offered
    · intro _ m session' hm hs'
      rw [eq_of_setSession hn hm hs']
      rfl
    · intro _
      refine ⟨n, session.stop, hn, ?_, .inr rfl⟩
      simp [CallMedia.stop, CallMedia.setSession]

/-- INTERNAL: the destructor releases the session of the call. SOURCE: Call.cpp:20-29 -/
theorem OwnsOnly.released {c : CallMedia} (h : OwnsOnly c) : Released c.destroyCall := by
  have key : ∀ n < c.created, c.destroyCall.sessions n = none ∧ n ∈ c.destroyCall.stopped := by
    intro n hn
    obtain ⟨session, hs⟩ := Option.isSome_iff_exists.mp (h.alive n (h.owner n hn))
    unfold CallMedia.destroyCall
    rw [getRTPSession_eq_some.mpr ⟨h.owner n hn, hs⟩]
    simp [CallMedia.delete, CallMedia.stop, CallMedia.setSession]
  have hcreated : c.destroyCall.created = c.created := by
    unfold CallMedia.destroyCall
    split <;> rfl
  intro n hn
  exact key n (hcreated ▸ hn)

/-! ## A lost session -/

/-- The session `n` is alive and the call points to another one. -/
structure Lost (n : SessionId) (c : CallMedia) : Prop where
  usingRTP : c.factory.usingRTP = true
  created : n < c.created
  alive : (c.sessions n).isSome
  current : ∃ m session, c.mRtpSession = some m ∧ c.sessions m = some session ∧ m ≠ n

/-- INTERNAL: another session is replaced by a later state of it. -/
theorem Lost.setSession {c : CallMedia} {n m : SessionId} (h : Lost n c)
    (hm : c.mRtpSession = some m) (hmn : m ≠ n) (session : Sound.RTPSession) :
    Lost n (c.setSession m (some session)) where
  usingRTP := h.usingRTP
  created := h.created
  alive := by
    have halive := h.alive
    simpa [CallMedia.setSession, Function.update_of_ne hmn.symm] using halive
  current := ⟨m, session, hm, Function.update_self .., hmn⟩

/-- INTERNAL: an offer to a call that has a session loses that session.
SOURCE: SIPEngine.cpp:431-432, Call.cpp:99-103 -/
theorem lost_of_offer {c : CallMedia} {n : SessionId} (hcreated : n < c.created)
    (halive : (c.sessions n).isSome) (session : Sound.RTPSession) {factory : SoundDeviceFactory}
    (hfactory : factory.usingRTP = true) (described : List (CString × ℕ)) :
    Lost n { c.setSession c.created (some session) with
      factory := factory
      created := c.created + 1
      mRtpSession := some c.created
      described := described } where
  usingRTP := hfactory
  created := Nat.lt_succ_of_lt hcreated
  alive := by
    simpa [CallMedia.setSession, Function.update_of_ne (Nat.ne_of_lt hcreated)] using halive
  current := ⟨c.created, session, rfl, Function.update_self .., (Nat.ne_of_lt hcreated).symm⟩

/-- INTERNAL: **a lost session stays lost** through every callback.
SOURCE: SIPEngine.cpp:286-322, 380-441 -/
theorem Lost.stays {c c' : CallMedia} {n : SessionId} (h : Lost n c) {callback : Callback}
    (hstep : step capacity c callback = some c') : Lost n c' := by
  obtain ⟨m, session, hm, hs, hmn⟩ := h.current
  have hcurrent {k : SessionId} (hk : c.mRtpSession = some k) : k ≠ n := by
    obtain rfl := Option.some.inj (hm.symm.trans hk)
    exact hmn
  rcases step_cases h.usingRTP hstep with ⟨-, -, handle, incomming, rfl⟩ |
    ⟨-, -, session', factory, described, hfactory, -, rfl⟩ |
    ⟨-, -, k, session', hk, -, hcase⟩ | ⟨-, -, k, session', hk, -, rfl⟩
  · exact ⟨h.usingRTP, h.created, h.alive, h.current⟩
  · exact lost_of_offer h.created h.alive session' hfactory described
  · rcases hcase with ⟨-, rfl⟩ | ⟨-, -, started, -, rfl⟩
    · exact ⟨h.usingRTP, h.created, h.alive, h.current⟩
    · have hlater := h.setSession hk (hcurrent hk) started
      exact ⟨hlater.usingRTP, hlater.created, hlater.alive, hlater.current⟩
  · have hlater := h.setSession hk (hcurrent hk) session'.stop
    exact ⟨hlater.usingRTP, hlater.created, hlater.alive, hlater.current⟩

/-- INTERNAL: the destructor does not reach a lost session. SOURCE: Call.cpp:20-29 -/
theorem Lost.not_released {c : CallMedia} {n : SessionId} (h : Lost n c) :
    ¬ Released c.destroyCall := by
  obtain ⟨m, session, hm, hs, hmn⟩ := h.current
  intro hreleased
  unfold CallMedia.destroyCall at hreleased
  rw [getRTPSession_eq_some.mpr ⟨hm, hs⟩] at hreleased
  have hnone := (hreleased n h.created).1
  have halive := h.alive
  simp only [CallMedia.delete, CallMedia.stop, CallMedia.setSession,
    Function.update_of_ne hmn.symm] at hnone
  rw [hnone] at halive
  exact absurd halive (by simp)

/-! ## The exact condition -/

/-- INTERNAL: a call that goes through one callback more. -/
theorem everyStopped_cons {c t : CallMedia} {callback : Callback} {callbacks : List Callback}
    (ht : step capacity c callback = some t) :
    EveryStopped capacity c (callback :: callbacks) ↔
      Orderly c ∧ EveryStopped capacity t callbacks := by
  unfold EveryStopped
  rw [run_cons, ht, Option.bind_some]
  constructor
  · rintro ⟨⟨horderly, hrest⟩, hreleased⟩
    exact ⟨horderly, hrest t ht, hreleased⟩
  · rintro ⟨horderly, hrest, hreleased⟩
    refine ⟨⟨horderly, fun t' ht' => ?_⟩, hreleased⟩
    exact Option.some.inj (ht.symm.trans ht') ▸ hrest

/-- INTERNAL: a callback beyond the condition loses a session, or aborts the program.
SOURCE: SIPEngine.cpp:431-432, RTPSession.cpp:28-51 -/
theorem Owned.beyond {beginning : Beginning} {earlier : List Callback} {callback : Callback}
    {c t : CallMedia} (h : Owned beginning earlier c)
    (hC : ¬ FirstAndOnce beginning (earlier ++ [callback]))
    (hstep : step capacity c callback = some t) :
    (∃ n, Lost n t) ∨ t.terminated = true := by
  have hcount : ¬ (earlier.countP isOffer + (if isOffer callback then 1 else 0) ≤
      offersOf beginning ∧ earlier.countP isStart + (if isStart callback then 1 else 0) ≤ 1) := by
    rintro ⟨hoffers, hstarts⟩
    apply hC
    constructor <;> rw [List.countP_append, List.countP_singleton] <;> assumption
  have hoffers := h.soFar.offers
  have hstarts := h.soFar.starts
  rcases step_cases h.owns.usingRTP hstep with ⟨hoffer, hstart, -⟩ |
    ⟨hoffer, hstart, session, factory, described, hfactory, -, rfl⟩ |
    ⟨hoffer, hstart, n, session, hn, hs, hcase⟩ | ⟨hoffer, hstart, -⟩
  · rw [hoffer, hstart] at hcount
    exact absurd ⟨hoffers, hstarts⟩ hcount
  · rw [hoffer, hstart, if_pos rfl, if_neg (by simp)] at hcount
    have hfull : ¬ earlier.countP isOffer < offersOf beginning := by omega
    obtain ⟨n, hn⟩ := Option.ne_none_iff_exists'.mp fun hnone => hfull (h.offered.mp hnone)
    have halive := h.owns.alive n hn
    exact .inl ⟨n, lost_of_offer (h.owns.created n halive) halive session hfactory described⟩
  · rw [hoffer, hstart, if_pos rfl, if_neg (by simp)] at hcount
    obtain ⟨m, session', hm, hs', hstarted⟩ := h.started (by omega)
    obtain rfl := Option.some.inj (hm.symm.trans hn)
    obtain rfl := Option.some.inj (hs'.symm.trans hs)
    rcases hcase with ⟨-, rfl⟩ | ⟨hidle, hsession, -⟩
    · exact .inr rfl
    · rw [hidle, hsession] at hstarted
      simp at hstarted
  · rw [hoffer, hstart] at hcount
    exact absurd ⟨hoffers, hstarts⟩ hcount

/-- INTERNAL: the exact condition, from any point of the life of a call. By induction on the
callbacks that are still to come. -/
theorem Owned.everyStopped_iff_firstAndOnce {beginning : Beginning} {earlier : List Callback}
    {c c' : CallMedia} (h : Owned beginning earlier c) {callbacks : List Callback}
    (hrun : run (step capacity) c callbacks = some c') :
    EveryStopped capacity c callbacks ↔ FirstAndOnce beginning (earlier ++ callbacks) := by
  induction callbacks generalizing earlier c with
  | nil =>
    rw [List.append_nil]
    refine iff_of_true ⟨h.owns.orderly, ?_⟩ h.soFar
    rintro c' hc'
    obtain rfl := Option.some.inj hc'
    exact h.owns.released
  | cons callback callbacks ih =>
    obtain ⟨t, ht, hrest⟩ := Option.bind_eq_some_iff.mp hrun
    rw [everyStopped_cons ht, and_iff_right h.owns.orderly, List.append_cons]
    by_cases hC : FirstAndOnce beginning (earlier ++ [callback])
    · exact ih (h.keeps hC ht) hrest
    · apply iff_of_false
      · rintro ⟨horderly, hreleased⟩
        rcases h.beyond hC ht with ⟨n, hlost⟩ | hterminated
        · have hend := run_invariant (I := Lost n) (fun _ _ _ h hstep => h.stays hstep) hlost hrest
          exact hend.not_released (hreleased c' hrest)
        · exact absurd (hterminated.symm.trans horderly.first.fresh) (by simp)
      · rintro ⟨hoffers, hstarts⟩
        rw [List.countP_append] at hoffers hstarts
        exact hC ⟨by omega, by omega⟩

/-- INTERNAL: a call owns its only session from its beginning.
SOURCE: SIPEngine.cpp:152-154, Call.cpp:11-18 -/
theorem begin_owned {factory : SoundDeviceFactory} (husing : factory.usingRTP = true)
    {beginning : Beginning} {c : CallMedia} (h : begin factory capacity beginning = some c) :
    Owned beginning [] c := by
  have hnew : OwnsOnly (CallMedia.newCall factory) :=
    ⟨husing, by simp [CallMedia.newCall], by simp [CallMedia.newCall],
      by simp [CallMedia.newCall], rfl⟩
  have hnothing : FirstAndOnce beginning [] := ⟨Nat.zero_le _, Nat.zero_le _⟩
  cases beginning with
  | incomming =>
    obtain rfl := Option.some.inj h
    refine ⟨hnew, hnothing, iff_of_true rfl Nat.one_pos, ?_, fun hpos => ?_⟩
    · intro _ n session hn _
      cases hn
    · exact absurd hpos (Nat.lt_irrefl 0)
  | makeCall =>
    obtain ⟨c', hc', hmake⟩ := Option.bind_eq_some_iff.mp h
    obtain ⟨⟨n, session⟩, -, rfl⟩ := Option.map_eq_some_iff.mp hmake
    obtain ⟨session', factory', hfactory, hidle, hcreate⟩ :=
      createRTPSession_eq capacity (c := CallMedia.newCall factory) husing
    obtain rfl := Option.some.inj (hcreate.symm.trans hc')
    have howns := hnew.offered rfl session' hfactory
      ((CallMedia.newCall factory).described ++ [(session.mLocalIP, session.mLocalPort)])
    refine ⟨⟨howns.usingRTP, howns.owner, howns.created, howns.alive, howns.fresh⟩, hnothing, ?_, ?_,
      fun hpos => ?_⟩
    · exact iff_of_false (by simp [CallMedia.describe]) (Nat.not_lt_zero _)
    · intro _ m session'' hm hs
      obtain rfl := Option.some.inj hm
      have hsame : session' = session'' := by
        simpa [CallMedia.describe, CallMedia.setSession] using hs
      exact hsame ▸ hidle
    · exact absurd hpos (Nat.lt_irrefl 0)

/-- **In a call, however it began, and whatever callbacks the program got through before its
destruction, every session is stopped and deleted, no two run and none is started twice, exactly
when an incoming call was offered media once at most, a call of the program never, and one of the
two callbacks that start the session came at most once.** The program does not get through a
callback that uses a session which is not there, or was stopped.
SOURCE: SIPEngine.cpp:286-322, 408-441, Call.cpp:20-108, RTPSession.cpp:19-67 -/
theorem everyStopped_iff (rtplow rtphigh next : ℕ) (localip : CString) (beginning : Beginning)
    {c c' : CallMedia}
    (h : begin (engineFactory rtplow rtphigh next localip) capacity beginning = some c)
    (callbacks : List Callback) (hrun : run (step capacity) c callbacks = some c') :
    EveryStopped capacity c callbacks ↔ FirstAndOnce beginning callbacks :=
  (begin_owned rfl h).everyStopped_iff_firstAndOnce hrun

/-- An incoming call, connected and then put on hold by the caller. -/
def reInvite : List Callback :=
  [.onNewSessionServer, .onOffer "10.0.0.2".toList 4000, .onConnected,
    .onOffer "10.0.0.2".toList 4000, .onTerminated]

/-- **The session of the first offer is still running when the call is gone.** -/
theorem reInvite_leaks_session :
    ¬ EveryStopped 16 (CallMedia.newCall (engineFactory 10000 10100 10000 [])) reInvite := by
  rintro ⟨-, hreleased⟩
  have hrunning : (run (step 16) (CallMedia.newCall (engineFactory 10000 10100 10000 []))
      reInvite).map (fun c => (c.destroyCall.created, (c.destroyCall.sessions 0).map
        fun session => session.joinable)) = some (2, some true) := by
    decide
  obtain ⟨c, hrun, hc⟩ := Option.map_eq_some_iff.mp hrunning
  rw [Prod.mk.injEq] at hc
  have hnone := (hreleased c hrun 0 (by omega)).1
  simp [hnone] at hc

/-- The sessions of an incoming call that is connected once are all stopped. -/
theorem connectedOnce_everyStopped :
    EveryStopped 16 (CallMedia.newCall (engineFactory 10000 10100 10000 []))
      [.onNewSessionServer, .onOffer "10.0.0.2".toList 4000, .onConnected, .onTerminated] :=
  (everyStopped_iff 10000 10100 10000 [] .incomming rfl _ rfl).mpr ⟨by decide, by decide⟩

end Dhas.Analysis.MediaSessions
