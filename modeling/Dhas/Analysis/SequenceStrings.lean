import Dhas.Program.SprinklersNode

/-!
# Sequence strings

A sequence is written as letters that are followed by decimal numbers, with commas between
them. `sequenceText` writes a list of pairs in this way, and `sequence_callback` gives the pairs
back to the ring buffer as items, for all letters and all durations of 32 bits. The duration
goes through an `int` on its way, which `toUnsigned` undoes.

A letter of the string that no number follows makes `std::stoul` throw, and then nothing of the
string is decoded.

The number of items of the reply is an `int`, so it is the number of pairs below `2 ^ 31` only.
-/

set_option autoImplicit false

namespace Dhas.Analysis.SequenceStrings

open Dhas.Library Dhas.Program

/-- A letter and its duration as they are written. -/
def pairText (p : Char × ℕ) : CString := p.1 :: decimal p.2

/-- The pairs with commas between them. -/
def sequenceText (pairs : List (Char × ℕ)) : CString := [','].intercalate (pairs.map pairText)

/-- The item of a pair. -/
def pairItem (p : Char × ℕ) : SequenceItem := (p.2, UInt8.ofNat (p.1.toNat - 'a'.toNat))

/-- The pairs that can be asked for. -/
def Encodable (pairs : List (Char × ℕ)) : Prop := ∀ p ∈ pairs, isLetter p.1 = true ∧ p.2 < 2 ^ 32

instance (pairs : List (Char × ℕ)) : Decidable (Encodable pairs) :=
  inferInstanceAs (Decidable (∀ p ∈ pairs, _))

/-- The text starts with a decimal number that fits an `unsigned long`. -/
def StartsWithNumber (text : CString) : Prop :=
  text.takeWhile isDigit ≠ [] ∧ Nat.ofDigitChars 10 (text.takeWhile isDigit) 0 ≤ ULONG_MAX

instance (text : CString) : Decidable (StartsWithNumber text) :=
  inferInstanceAs (Decidable (_ ∧ _))

/-- Some lowercase letter is not directly followed by such a number. -/
def Malformed (seq : CString) : Prop :=
  ∃ before letter after, seq = before ++ letter :: after ∧ isLetter letter = true ∧
    ¬ StartsWithNumber after

/-! ## Numbers -/

/-- INTERNAL: a digit is no letter of a valve. -/
theorem isLetter_digit {c : Char} (h : isDigit c = true) : isLetter c = false := by
  have hrange : '0' ≤ c ∧ c ≤ '9' := by simpa [isDigit] using h
  have h9 : c.toNat ≤ 57 := hrange.2
  unfold isLetter
  rw [Bool.and_eq_false_iff]
  left
  rw [decide_eq_false_iff_not]
  intro ha
  have h97 : 97 ≤ c.toNat := ha
  omega

/-- INTERNAL: what `std::stoul` makes of a string of digits.
SOURCE: SprinklersNode.cpp:83 -/
theorem stoul_digits {digits : CString} (h : ∀ c ∈ digits, isDigit c = true) :
    stoul digits =
      if digits = [] ∨ ULONG_MAX < Nat.ofDigitChars 10 digits 0 then none
      else some (Nat.ofDigitChars 10 digits 0) := by
  cases digits with
  | nil => rfl
  | cons c cs =>
    have hdigits : ∀ d ∈ c :: cs, d.isDigit = true := fun d hd => isDigit_iff.mp (h d hd)
    have hend : ∀ d, ([] : CString).head? = some d → digitVal 10 d = none := by simp
    have hscan := scanNumber_digits (List.cons_ne_nil c cs) hdigits hend
    rw [List.append_nil] at hscan
    unfold stoul strtoul
    simp only [hscan]
    by_cases hbig : ULONG_MAX < Nat.ofDigitChars 10 (c :: cs) 0 <;> simp [hbig]

/-- INTERNAL: a number is written in digits. -/
theorem isDigit_decimal (n : ℕ) : ∀ c ∈ decimal n, isDigit c = true := by
  intro c hc
  exact isDigit_iff.mpr (isDigit_of_mem_toDigits hc)

/-- INTERNAL: a number that fits is read back. -/
theorem stoul_decimal {n : ℕ} (h : n ≤ ULONG_MAX) : stoul (decimal n) = some n := by
  have hvalue : Nat.ofDigitChars 10 (decimal n) 0 = n := Nat.ofDigitChars_ten_toDigits
  have hne : decimal n ≠ [] := decimal_ne_nil n
  rw [stoul_digits (isDigit_decimal n), hvalue, if_neg]
  rintro (hnil | hbig)
  · exact hne hnil
  · omega

/-! ## The scan -/

/-- INTERNAL: the digits in front do not change what matches behind them. -/
theorem sequenceMatches_digits {digits : CString} (h : ∀ c ∈ digits, isDigit c = true)
    (rest : CString) : sequenceMatches (digits ++ rest) = sequenceMatches rest := by
  induction digits with
  | nil => rfl
  | cons c digits ih =>
    have hletter := isLetter_digit (h c List.mem_cons_self)
    rw [List.cons_append, sequenceMatches, hletter]
    exact ih fun d hd => h d (List.mem_cons_of_mem c hd)

/-- INTERNAL: the digits end at the first letter that is none. -/
theorem takeWhile_digits {digits : CString} (h : ∀ c ∈ digits, isDigit c = true)
    {rest : CString} (hrest : ∀ c, rest.head? = some c → isDigit c = false) :
    (digits ++ rest).takeWhile isDigit = digits := by
  rw [List.takeWhile_append_of_pos h]
  cases rest with
  | nil => rw [List.takeWhile_nil, List.append_nil]
  | cons c rest =>
    rw [List.takeWhile_cons_of_neg (by simp [hrest c rfl]), List.append_nil]

/-- INTERNAL: the match of a letter with a number.
SOURCE: SprinklersNode.cpp:80-84 -/
theorem sequenceMatches_pairText {p : Char × ℕ} (hp : isLetter p.1 = true) {rest : CString}
    (hrest : ∀ c, rest.head? = some c → isDigit c = false) :
    sequenceMatches (pairText p ++ rest) = (p.1, decimal p.2) :: sequenceMatches rest := by
  unfold pairText
  rw [List.cons_append, sequenceMatches, hp, if_pos rfl,
    takeWhile_digits (isDigit_decimal p.2) hrest, sequenceMatches_digits (isDigit_decimal p.2)]

/-- INTERNAL: the matches of a list of pairs that is written down.
SOURCE: SprinklersNode.cpp:80-84 -/
theorem sequenceMatches_sequenceText {pairs : List (Char × ℕ)}
    (h : ∀ p ∈ pairs, isLetter p.1 = true) :
    sequenceMatches (sequenceText pairs) = pairs.map fun p => (p.1, decimal p.2) := by
  induction pairs with
  | nil => rfl
  | cons p pairs ih =>
    have hp := h p List.mem_cons_self
    have htail := ih fun q hq => h q (List.mem_cons_of_mem p hq)
    cases pairs with
    | nil =>
      have hend : ∀ c, ([] : CString).head? = some c → isDigit c = false := by simp
      have hmatch := sequenceMatches_pairText hp hend
      have htext : sequenceText [p] = pairText p ++ [] := by simp [sequenceText]
      rw [htext, hmatch]
      rfl
    | cons q pairs =>
      have htext : sequenceText (p :: q :: pairs) =
          pairText p ++ ',' :: sequenceText (q :: pairs) := by
        simp [sequenceText, List.intercalate_cons_cons]
      have hcomma : ∀ c, (',' :: sequenceText (q :: pairs)).head? = some c → isDigit c = false := by
        intro c hc
        cases hc
        rfl
      rw [htext, sequenceMatches_pairText hp hcomma, List.map_cons, ← htail]
      rfl

/-- INTERNAL: every letter of a string starts a match.
SOURCE: SprinklersNode.cpp:80-84 -/
theorem mem_sequenceMatches {letter : Char} (h : isLetter letter = true)
    (before after : CString) :
    (letter, after.takeWhile isDigit) ∈ sequenceMatches (before ++ letter :: after) := by
  induction before with
  | nil =>
    rw [List.nil_append, sequenceMatches, if_pos h]
    exact List.mem_cons_self
  | cons c before ih =>
    rw [List.cons_append, sequenceMatches]
    by_cases hc : isLetter c = true
    · rw [if_pos hc]
      exact List.mem_cons_of_mem _ ih
    · rw [if_neg hc]
      exact ih

/-! ## Decoding -/

/-- INTERNAL: one item that fails makes the whole list fail. -/
theorem mapM_eq_none {α β : Type} {f : α → Option β} {as : List α} {a : α} (ha : a ∈ as)
    (hf : f a = none) : as.mapM f = none := by
  induction as with
  | nil => cases ha
  | cons b as ih =>
    rw [List.mapM_cons]
    rcases List.mem_cons.mp ha with rfl | hmem
    · rw [hf]
      rfl
    · cases f b with
      | none => rfl
      | some b' =>
        rw [ih hmem]
        rfl

/-- INTERNAL: a list without a failing item is mapped item by item. -/
theorem mapM_eq_some_map {α β : Type} {f : α → Option β} {g : α → β} {as : List α}
    (h : ∀ a ∈ as, f a = some (g a)) : as.mapM f = some (as.map g) := by
  induction as with
  | nil => rfl
  | cons a as ih =>
    rw [List.mapM_cons, h a List.mem_cons_self, ih fun b hb => h b (List.mem_cons_of_mem a hb)]
    rfl

/-- INTERNAL: **decoding gives back the pairs**, with the durations as `int`s.
SOURCE: SprinklersNode.cpp:73-94 -/
theorem decodeSequence_sequenceText {pairs : List (Char × ℕ)} (h : Encodable pairs) :
    decodeSequence (sequenceText pairs) = pairs.map fun p => (p.1, toInt p.2) := by
  have hmatches := sequenceMatches_sequenceText fun p hp => (h p hp).1
  have hdecode : ∀ p ∈ pairs,
      (decodeMatch ∘ fun p : Char × ℕ => (p.1, decimal p.2)) p = some (p.1, toInt p.2) := by
    intro p hp
    have hlt := (h p hp).2
    have hmax : ULONG_MAX = 2 ^ 64 - 1 := rfl
    have hread : stoul (decimal p.2) = some p.2 := stoul_decimal (by omega)
    simp only [Function.comp_apply, decodeMatch, hread]
    rfl
  unfold decodeSequence
  rw [hmatches, List.mapM_map, mapM_eq_some_map hdecode, Option.getD_some]

/-- INTERNAL: **a letter without its number spoils the whole string.**
SOURCE: SprinklersNode.cpp:73-94 -/
theorem decodeSequence_of_malformed {seq : CString} (h : Malformed seq) :
    decodeSequence seq = [] := by
  obtain ⟨before, letter, after, rfl, hletter, hnumber⟩ := h
  have hdigits : ∀ c ∈ after.takeWhile isDigit, isDigit c = true :=
    fun c hc => List.all_eq_true.mp List.all_takeWhile c hc
  have hthrow : decodeMatch (letter, after.takeWhile isDigit) = none := by
    unfold decodeMatch
    rw [stoul_digits hdigits, if_pos]
    · rfl
    · by_cases hnil : after.takeWhile isDigit = []
      · exact Or.inl hnil
      · exact Or.inr (Nat.lt_of_not_le fun hle => hnumber ⟨hnil, hle⟩)
  unfold decodeSequence
  rw [mapM_eq_none (mem_sequenceMatches hletter before after) hthrow, Option.getD_none]

/-- INTERNAL: a duration of 32 bits survives its way through an `int`.
SOURCE: SprinklersNode.cpp:83, 106 -/
theorem sequenceItem_toInt {p : Char × ℕ} (h : p.2 < 2 ^ 32) :
    SprinklersNode.sequenceItem (p.1, toInt p.2) = pairItem p := by
  have hsame : toUnsigned (p.2 : ℤ) = p.2 := by
    unfold toUnsigned
    omega
  unfold SprinklersNode.sequenceItem pairItem
  rw [toUnsigned_toInt, hsame]

/-- **Sequence strings decode to what they encode.** The string of a list of pairs makes
`sequence_callback` offer the items of the pairs to the ring buffer, which it has emptied, in
the order of the list. The reply has the number of the pairs as an `int`, which is the number
itself below `2 ^ 31`. A string in which a letter is not followed by a number decodes to the
empty list.
SOURCE: SprinklersNode.cpp:73-110, 183-188 -/
theorem sequence_strings_decode :
    (∀ (n : SprinklersNode) (now : ℤ) (pairs : List (Char × ℕ)), Encodable pairs →
      (n.sequence_callback now (sequenceText pairs)).1.mpSequence =
        (pairs.map pairItem).foldl BoundedQueue.put n.mpSequence.clear ∧
      (n.sequence_callback now (sequenceText pairs)).2 = toInt pairs.length ∧
      (pairs.length < 2 ^ 31 →
        (n.sequence_callback now (sequenceText pairs)).2 = pairs.length)) ∧
    (∀ seq, Malformed seq → decodeSequence seq = []) := by
  constructor
  · intro n now pairs hpairs
    have hdecode := decodeSequence_sequenceText hpairs
    have hcount : (n.sequence_callback now (sequenceText pairs)).2 = toInt pairs.length := by
      rw [SprinklersNode.sequence_callback_items, hdecode, List.length_map]
    refine ⟨?_, hcount, ?_⟩
    · have hitems : pairs.map (SprinklersNode.sequenceItem ∘ fun p => (p.1, toInt p.2)) =
          pairs.map pairItem :=
        List.map_congr_left fun p hp => sequenceItem_toInt (hpairs p hp).2
      rw [SprinklersNode.sequence_callback_mpSequence, hdecode, List.map_map, hitems]
    · intro hlt
      rw [hcount, toInt_eq_self (by omega) (by omega)]
  · intro seq hseq
    exact decodeSequence_of_malformed hseq

/-- The string `a3,b6` and the string `a3b`. -/
theorem sequence_strings_decode_a3 :
    ((SprinklersNode.new []).sequence_callback 0 (sequenceText [('a', 3), ('b', 6)])).2 = 2 ∧
      decodeSequence ['a', '3', 'b'] = [] :=
  ⟨(sequence_strings_decode.1 (SprinklersNode.new []) 0 [('a', 3), ('b', 6)] (by decide)).2.2
      (by decide),
    sequence_strings_decode.2 _ ⟨['a', '3'], 'b', [], rfl, by decide, by decide⟩⟩

/-- A list of `2 ^ 31` pairs. -/
def manyPairs : List (Char × ℕ) := List.replicate (2 ^ 31) ('a', 0)

/-- The reply has a negative number of items. -/
theorem manyPairs_count :
    Encodable manyPairs ∧
      ((SprinklersNode.new []).sequence_callback 0 (sequenceText manyPairs)).2 ≠
        manyPairs.length := by
  have hencodable : Encodable manyPairs := by
    intro p hp
    rw [List.eq_of_mem_replicate hp]
    decide
  have hlength : manyPairs.length = 2 ^ 31 := List.length_replicate
  refine ⟨hencodable, ?_⟩
  rw [SprinklersNode.sequence_callback_items, decodeSequence_sequenceText hencodable,
    List.length_map, hlength]
  decide

end Dhas.Analysis.SequenceStrings
