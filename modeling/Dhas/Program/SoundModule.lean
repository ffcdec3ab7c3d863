import Dhas.Program.RTPSession

/-!
# Sounds by REST

`modules/Sound/SoundModule.cpp` and the call of its REST callback by `RESTInterface::processQuery`.
`std::stoi` throws where there is no number, and no frame from the callback up to
`processQuery` has a handler: the exception passes the statement that unlocks `mInvocationLock`.
`RESTEngine::invoke` is a library function, which is taken to find the callback under
`/audio/play` and to call it.

Of the sound device this module has the calls that are made on it.
-/

set_option autoImplicit false

namespace Dhas.Program

/-- A call of `ISoundDevice::silence` or `ISoundDevice::play`. -/
inductive SoundItem where
  | silence (seconds : ℤ)
  | play (filename : CString)
  deriving DecidableEq

structure SoundModule where
  mSoundsFolder : CString
  /-- the calls made on `mpSoundDevice`, oldest first -/
  mpSoundDevice : List SoundItem

namespace SoundModule

def queue (m : SoundModule) (item : SoundItem) : SoundModule :=
  { m with mpSoundDevice := m.mpSoundDevice ++ [item] }

/-- The loop of `play_callback`. The flag: it ends with an exception. -/
def playItems : SoundModule → List CString → SoundModule × Bool
  | m, [] => (m, false)
  | m, it :: list =>
    match it with
    | '$' :: st =>
      match stoi st with
      | none => (m, true)
      | some s => playItems (m.queue (.silence s)) list
    | _ => playItems (m.queue (.play (m.mSoundsFolder ++ ['/'] ++ it ++ "-s16.wav".toList))) list

/-- The callback of `/audio/play`. -/
def play_callback (m : SoundModule) (sound : CString) : SoundModule × Bool :=
  m.playItems (SoundListParser.getSoundList sound)

end SoundModule

/-- What `processQuery` locks, and the module that it calls. -/
structure RESTInterface where
  /-- `mInvocationLock` is locked -/
  mInvocationLock : Bool
  sound : SoundModule

/-- `processQuery` of `/audio/play`; `none` when it waits for the lock for ever. The flag: it
ends with an exception. -/
def RESTInterface.processQuery (r : RESTInterface) (sound : CString) :
    Option (RESTInterface × Bool) :=
  if r.mInvocationLock then none
  else
    let (m, thrown) := r.sound.play_callback sound
    some (⟨thrown, m⟩, thrown)

/-- The call of the session in one round of the loop of `invoke`. -/
def PlayPhoneAction.item (mSoundsFolder sound : CString) : SoundItem :=
  match sound with
  | '$' :: st => .silence (atoi st)
  | _ => .play (mSoundsFolder ++ sound ++ "-ulaw.wav".toList)

/-- The calls of the session in `PlayPhoneAction::invoke`. -/
def PlayPhoneAction.items (mPlayString mSoundsFolder : CString) : List SoundItem :=
  (SoundListParser.getSoundList mPlayString).map (PlayPhoneAction.item mSoundsFolder)

/-- `silence` or `play` of the session of a call. -/
def RTPSession.perform (files : CString → Option ℕ) (s : RTPSession) (a : ActionId) :
    SoundItem → RTPSession
  | .silence seconds => s.silence a seconds
  | .play filename => s.play files a filename

/-- INTERNAL: a token that does not start with a dollar sign names a file. -/
theorem PlayPhoneAction.item_play {sound : CString} (h : ∀ st, sound ≠ '$' :: st)
    (mSoundsFolder : CString) : PlayPhoneAction.item mSoundsFolder sound =
      .play (mSoundsFolder ++ sound ++ "-ulaw.wav".toList) := by
  unfold PlayPhoneAction.item
  split
  case h_1 st => exact absurd rfl (h st)
  case h_2 => rfl

/-- INTERNAL: a round of the loop makes this call. SOURCE: PlayPhoneAction.cpp:29-44 -/
theorem enqueueSound_eq_perform (files : CString → Option ℕ) (s : RTPSession) (a : ActionId)
    (mSoundsFolder sound : CString) : enqueueSound files s a mSoundsFolder sound =
      s.perform files a (PlayPhoneAction.item mSoundsFolder sound) := by
  unfold enqueueSound
  split
  case h_1 => rfl
  case h_2 hne =>
    rw [PlayPhoneAction.item_play fun st hst => hne st hst]
    rfl

end Dhas.Program
