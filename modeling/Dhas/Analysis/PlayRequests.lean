import Dhas.Analysis.PlayStrings
import Dhas.Program.SoundModule

/-!
# Sound requests by REST and by phone

`play_callback` and `PlayPhoneAction::invoke` go through the same list of a play string. They
read the seconds of a silence with `std::stoi` and `atoi`, which agree on every text that begins
with a number that fits an `int`. On any other text `atoi` gives some number, and `std::stoi`
throws, with `mInvocationLock` locked.
-/

set_option autoImplicit false

namespace Dhas.Analysis.PlayRequests

open Dhas.Program Dhas.Program.SoundListParser Dhas.Analysis.PlayStrings

/-- A call of one device corresponds to a call of the other: the same seconds, or files of the
same name in the two folders. -/
inductive Corresponds (folder mSoundsFolder : CString) : SoundItem → SoundItem → Prop where
  | silence (seconds : ℤ) : Corresponds folder mSoundsFolder (.silence seconds) (.silence seconds)
  | play (name : CString) : Corresponds folder mSoundsFolder
      (.play (folder ++ ['/'] ++ name ++ "-s16.wav".toList))
      (.play (mSoundsFolder ++ name ++ "-ulaw.wav".toList))

/-- The query returns with the lock released, and makes the calls that the play action would
make. -/
def PlaysAsPhone (r : RESTInterface) (mSoundsFolder url : CString) : Prop :=
  ∃ r' calls, r.processQuery url = some (r', false) ∧ r'.mInvocationLock = false ∧
    r'.sound.mpSoundDevice = r.sound.mpSoundDevice ++ calls ∧
    List.Forall₂ (Corresponds r.sound.mSoundsFolder mSoundsFolder) calls
      (PlayPhoneAction.items url mSoundsFolder)

/-- The digits that a number begins with, behind white space and a sign, and the sign. -/
def leadingNumber (text : CString) : Bool × CString :=
  match text.dropWhile isSpace with
  | '-' :: rest => (true, rest.takeWhile Char.isDigit)
  | '+' :: rest => (false, rest.takeWhile Char.isDigit)
  | rest => (false, rest.takeWhile Char.isDigit)

/-- The text begins with a decimal number from -2147483648 to 2147483647. -/
def BeginsWithInt (text : CString) : Prop :=
  (leadingNumber text).2 ≠ [] ∧
    if (leadingNumber text).1 then magnitude (leadingNumber text).2 ≤ 2 ^ 31
    else magnitude (leadingNumber text).2 < 2 ^ 31

instance : DecidablePred BeginsWithInt := fun text => by
  unfold BeginsWithInt
  infer_instance

/-- A silence is given by a number that fits an `int`. -/
def SilenceGiven : CString → Prop
  | '$' :: text => BeginsWithInt text
  | _ => True

instance : DecidablePred SilenceGiven := fun token => by
  unfold SilenceGiven
  split <;> infer_instance

/-! ## Two conversions -/

/-- INTERNAL: what the conversions scan of a text, in base 10. -/
theorem scanNumber_ten (text : CString) :
    ((scanNumber 10 text).converted = true ↔ (leadingNumber text).2 ≠ []) ∧
      ((leadingNumber text).2 ≠ [] → (scanNumber 10 text).negative = (leadingNumber text).1 ∧
        (scanNumber 10 text).magnitude = magnitude (leadingNumber text).2) := by
  have hread (s : CString) : readDigits 10 0 s =
      (magnitude (s.takeWhile Char.isDigit), (s.takeWhile Char.isDigit).length,
        s.dropWhile Char.isDigit) := by
    have hdigits : ∀ c ∈ s.takeWhile Char.isDigit, c.isDigit := fun c hc =>
      List.mem_takeWhile_imp hc
    have hrest : ∀ c, (s.dropWhile Char.isDigit).head? = some c → digitVal 10 c = none := by
      intro c hc
      have hnot := List.head?_dropWhile_not Char.isDigit s
      rw [hc] at hnot
      exact digitVal_ten_of_not_isDigit (by simpa using hnot)
    have happend := readDigits_append hdigits 0 hrest
    rwa [List.takeWhile_append_dropWhile] at happend
  unfold scanNumber leadingNumber
  simp only [basePrefix_ten]
  split <;> simp only [hread, List.length_eq_zero_iff] <;> split <;> simp_all

/-- INTERNAL: `std::stoi` throws exactly where the text begins with no number that fits, and
else gives what `atoi` gives. -/
theorem stoi_cases (text : CString) :
    (BeginsWithInt text ∧ stoi text = some (atoi text)) ∨
      ¬ BeginsWithInt text ∧ stoi text = none := by
  obtain ⟨hconverted, hvalue⟩ := scanNumber_ten text
  have hmax : ((LONG_MAX : ℕ) : ℤ) = 2 ^ 63 - 1 := by decide
  unfold stoi BeginsWithInt
  by_cases hne : (leadingNumber text).2 = []
  · have hnot : (scanNumber 10 text).converted = false := by
      simpa [hne] using hconverted
    exact .inr ⟨fun h => h.1 hne, by simp [hnot]⟩
  · obtain ⟨hnegative, hmagnitude⟩ := hvalue hne
    have hatoi : atoi text = toInt (max (-(2 ^ 63)) (min LONG_MAX
        (if (leadingNumber text).1 then -(magnitude (leadingNumber text).2 : ℤ)
          else magnitude (leadingNumber text).2))) := by
      rw [atoi, strtol, hnegative, hmagnitude]
    simp only [hconverted.mpr hne, hnegative, hmagnitude, Bool.true_eq_false, if_false]
    generalize magnitude (leadingNumber text).2 = n at hatoi ⊢
    rw [hatoi, hmax]
    cases (leadingNumber text).1 with
    | true =>
      simp only [if_true]
      by_cases hle : n ≤ 2 ^ 31
      · refine .inl ⟨⟨hne, hle⟩, ?_⟩
        rw [if_neg (by omega), toInt_eq_self (by omega) (by omega)]
        congr 1
        omega
      · exact .inr ⟨fun h => hle h.2, if_pos (by omega)⟩
    | false =>
      simp only [Bool.false_eq_true, if_false]
      by_cases hlt : n < 2 ^ 31
      · refine .inl ⟨⟨hne, hlt⟩, ?_⟩
        rw [if_neg (by omega), toInt_eq_self (by omega) (by omega)]
        congr 1
        omega
      · exact .inr ⟨fun h => hlt h.2, if_pos (by omega)⟩

/-! ## The list of a play string -/

/-- INTERNAL: the silences of the list are those of the tokens, as they stand there.
SOURCE: SoundListParser.cpp:22-64 -/
theorem silencesGiven_iff (url : CString) :
    (∀ it ∈ getSoundList url, SilenceGiven it) ↔ ∀ token ∈ tokens url, SilenceGiven token := by
  have hnumbers : ∀ n < 60, ∀ negative, ∀ word ∈ numberWords negative n, SilenceGiven word := by
    decide +kernel
  have htoken (token : CString) :
      (∀ word ∈ spellToken token, SilenceGiven word) ↔ SilenceGiven token := by
    by_cases hrest : (strtol 0 (cString token)).2 = []
    · have hgiven : SilenceGiven token := by
        unfold SilenceGiven
        split
        case h_1 text =>
          have hrest' : (strtol 0 (cString ('$' :: text))).2 = '$' :: cString text := rfl
          rw [hrest'] at hrest
          cases hrest
        case h_2 => trivial
      refine iff_of_true ?_ hgiven
      have hread : strtol 0 (cString token) = ((strtol 0 (cString token)).1, []) := by
        rw [← hrest]
      rw [spellToken_read hread]
      split
      · exact hnumbers _ (by omega) _
      · decide
    · unfold spellToken
      simp only [if_neg hrest, List.mem_singleton, forall_eq]
  unfold getSoundList
  simp only [List.mem_flatMap, forall_exists_index, and_imp]
  constructor
  · intro h token hmem
    exact (htoken token).mp fun word hword => h word token hmem hword
  · intro h word token hmem hword
    exact (htoken token).mpr (h token hmem) word hword

/-- The loop of the callback makes the calls of the play action where every silence is given,
and ends with an exception where one is not. -/
def LoopOutcome (mSoundsFolder : CString) (m : SoundModule) (list : List CString) : Prop :=
  ((∀ word ∈ list, SilenceGiven word) ∧ ∃ calls,
      m.playItems list = ({ m with mpSoundDevice := m.mpSoundDevice ++ calls }, false) ∧
      List.Forall₂ (Corresponds m.mSoundsFolder mSoundsFolder) calls
        (list.map (PlayPhoneAction.item mSoundsFolder))) ∨
    ¬ (∀ word ∈ list, SilenceGiven word) ∧ (m.playItems list).2 = true

/-- INTERNAL: a call for the first item, and the rest of the list after it. -/
theorem LoopOutcome.cons {mSoundsFolder it : CString} {m : SoundModule} {call : SoundItem}
    {list : List CString} (hrest : LoopOutcome mSoundsFolder (m.queue call) list)
    (hgiven : SilenceGiven it) (hplay : m.playItems (it :: list) = (m.queue call).playItems list)
    (hcall : Corresponds m.mSoundsFolder mSoundsFolder call
      (PlayPhoneAction.item mSoundsFolder it)) : LoopOutcome mSoundsFolder m (it :: list) := by
  unfold LoopOutcome
  rw [List.forall_mem_cons, hplay, List.map_cons]
  rcases hrest with ⟨hall, calls, heq, hcalls⟩ | ⟨hnot, hthrown⟩
  · refine .inl ⟨⟨hgiven, hall⟩, call :: calls, ?_, .cons hcall hcalls⟩
    rw [heq, SoundModule.queue, List.append_assoc, List.singleton_append]
  · exact .inr ⟨fun h => hnot h.2, hthrown⟩

/-- INTERNAL: **the loop on every list.** The induction is on the list.
SOURCE: SoundModule.cpp:36-49 -/
theorem playItems_outcome (mSoundsFolder : CString) (m : SoundModule) (list : List CString) :
    LoopOutcome mSoundsFolder m list := by
  induction list generalizing m with
  | nil =>
    refine .inl ⟨by simp, [], ?_, .nil⟩
    rw [SoundModule.playItems, List.append_nil]
  | cons it list ih =>
    by_cases hsilence : ∃ st, it = '$' :: st
    · obtain ⟨st, rfl⟩ := hsilence
      rcases stoi_cases st with ⟨hbegins, hstoi⟩ | ⟨hnot, hstoi⟩
      · apply (ih (m.queue (.silence (atoi st)))).cons
        · exact hbegins
        · simp only [SoundModule.playItems, hstoi]
        · exact .silence (atoi st)
      · refine .inr ⟨fun h => hnot (h _ List.mem_cons_self), ?_⟩
        simp only [SoundModule.playItems, hstoi]
    · have hname : ∀ st, it ≠ '$' :: st := fun st h => hsilence ⟨st, h⟩
      apply (ih (m.queue (.play (m.mSoundsFolder ++ ['/'] ++ it ++ "-s16.wav".toList)))).cons
      · unfold SilenceGiven
        split
        case h_1 st => exact absurd rfl (hname st)
        case h_2 => trivial
      · simp only [SoundModule.playItems]
      · rw [PlayPhoneAction.item_play hname]
        exact .play it

/-- **`/audio/play` returns with the lock released and plays what the phone would play, exactly
when every silence of the play string is given by a number that fits an `int`.** For every play
string, and every state in which the lock is free.
SOURCE: SoundModule.cpp:30-50, RESTInterface.cpp:59-75, PlayPhoneAction.cpp:17-45 -/
theorem playsAsPhone_iff (r : RESTInterface) (mSoundsFolder url : CString)
    (hfree : r.mInvocationLock = false) :
    PlaysAsPhone r mSoundsFolder url ↔ ∀ token ∈ tokens url, SilenceGiven token := by
  rw [← silencesGiven_iff]
  unfold PlaysAsPhone RESTInterface.processQuery PlayPhoneAction.items SoundModule.play_callback
  simp only [hfree, Bool.false_eq_true, if_false, Option.some.injEq, Prod.mk.injEq]
  rcases playItems_outcome mSoundsFolder r.sound (getSoundList url) with
    ⟨hall, calls, heq, hcalls⟩ | ⟨hnot, hthrown⟩
  · refine iff_of_true ?_ hall
    rw [heq]
    exact ⟨_, calls, ⟨rfl, rfl⟩, rfl, rfl, hcalls⟩
  · refine iff_of_false ?_ hnot
    rintro ⟨r', calls, ⟨-, hflag⟩, -⟩
    rw [hthrown] at hflag
    cases hflag

/-- A sound, four seconds of silence and a number. -/
theorem playsAsPhone_sounds :
    PlaysAsPhone ⟨false, ⟨"/s".toList, []⟩⟩ "/p/".toList "sound1,$4,29".toList :=
  (playsAsPhone_iff _ _ _ rfl).mpr (by decide)

/-- With a dollar sign alone the lock is not released, and no query comes through any
more; the phone plays a silence of 0 seconds. SOURCE: SoundModule.cpp:39-43 -/
theorem dollarAlone_throws :
    ¬ PlaysAsPhone ⟨false, ⟨"/s".toList, []⟩⟩ "/p/".toList ['$'] ∧
      (∃ r, RESTInterface.processQuery ⟨false, ⟨"/s".toList, []⟩⟩ ['$'] = some (r, true) ∧
        ∀ url, r.processQuery url = none) ∧
      PlayPhoneAction.items ['$'] "/p/".toList = [.silence 0] := by
  have hquery : RESTInterface.processQuery ⟨false, ⟨"/s".toList, []⟩⟩ ['$'] =
      some (⟨true, ⟨"/s".toList, []⟩⟩, true) := rfl
  refine ⟨?_, ⟨_, hquery, fun _ => rfl⟩, by decide⟩
  rintro ⟨r', calls, hreturns, -⟩
  rw [hquery] at hreturns
  cases hreturns

end Dhas.Analysis.PlayRequests
