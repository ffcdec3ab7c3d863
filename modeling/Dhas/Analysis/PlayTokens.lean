import Dhas.Program.SoundListParser
import Mathlib.Data.List.Induction
import Mathlib.Data.List.TakeWhile
import Mathlib.Algebra.Order.Ring.Int

/-!
# Play strings, token by token

A play string is cut at its commas, and each token is to expand to words of its own: a number
from -59 to 59 to the words it is spoken with, any other number to "NaN", a name to itself.
`strtol` is called with base 0 and its result is stored in an `int` before the range is looked
at, so a leading zero makes a number octal and a number beyond an `int` may come back into the
range; and the token between two commas reads as 0.
-/

set_option autoImplicit false

namespace Dhas.Analysis.PlayStrings

open Dhas.Program Dhas.Program.SoundListParser

/-! ## What a token is to expand to -/

/-- A number in decimal, with `digits` behind an optional minus sign. -/
def signed (negative : Bool) (digits : CString) : CString :=
  if negative then '-' :: digits else digits

/-- The sign and the digits of a token that is a decimal integer. -/
def asDecimal : CString → Option (Bool × CString)
  | '-' :: digits =>
    if digits ≠ [] ∧ digits.all Char.isDigit then some (true, digits) else none
  | digits => if digits ≠ [] ∧ digits.all Char.isDigit then some (false, digits) else none

/-- The value of decimal digits. -/
def magnitude (digits : CString) : ℕ := Nat.ofDigitChars 10 digits 0

/-- The numbers that are spoken for a number below 60. -/
def numberParts (n : ℕ) : List ℕ :=
  if n ≤ 20 then [n] else (n / 10 * 10) :: if n % 10 = 0 then [] else [n % 10]

/-- The words for a number below 60. -/
def numberWords (negative : Bool) (n : ℕ) : List CString :=
  (if negative ∧ n ≠ 0 then ["minus".toList] else []) ++ (numberParts n).map (Nat.toDigits 10)

/-- The words for a token. What begins like a number and is none is left to the parser. -/
def expansion (token : CString) : List CString :=
  match asDecimal token with
  | some (negative, digits) =>
    if magnitude digits < 60 then numberWords negative (magnitude digits) else ["NaN".toList]
  | none =>
    match token with
    | [] => []
    | c :: _ =>
      if c.isDigit ∨ c = '-' ∨ c = '+' ∨ isSpace c then getSoundList token else [token]

/-- INTERNAL: a number below 60 is spoken with one or two numbers that have a sound, and these
add up to it. -/
theorem numberParts_spec : ∀ n < 60,
    ((numberParts n).length = 1 ∨ (numberParts n).length = 2) ∧
      (∀ part ∈ numberParts n, part ≤ 20 ∨ part = 30 ∨ part = 40 ∨ part = 50) ∧
      (numberParts n).sum = n := by
  decide +kernel

/-! ## What goes well -/

/-- The base that `strtol` picks for decimal digits. -/
def pickedBase (digits : CString) : ℕ := if digits.head? = some '0' then 8 else 10

/-- The number that `strtol` returns for digits of this base, as an `int`. -/
def pickedInt (negative : Bool) (digits : CString) : ℤ :=
  let value := Nat.ofDigitChars (pickedBase digits) digits 0
  toInt (max (-(2 ^ 63)) (min LONG_MAX (if negative then -(value : ℤ) else value)))

/-- A decimal integer is read right. Below 60 it has no leading zero or only one digit that
counts, less than 8. From 60 on it has no digit 8 or 9 behind a leading zero, and what `strtol`
makes of it is not in the range as an `int`. -/
def ReadRight (negative : Bool) (digits : CString) : Prop :=
  if magnitude digits < 60 then digits.head? ≠ some '0' ∨ magnitude digits < 8
  else (∀ c ∈ digits, (digitVal (pickedBase digits) c).isSome) ∧
    ¬ (-60 < pickedInt negative digits ∧ pickedInt negative digits < 60)

instance (negative : Bool) (digits : CString) : Decidable (ReadRight negative digits) := by
  unfold ReadRight
  have hall := List.decidableBAll (fun c => (digitVal (pickedBase digits) c).isSome) digits
  infer_instance

/-- The parser does with the token what it should, wherever it stands behind other tokens and in
front of others. -/
def TokenRight (token : CString) : Prop :=
  match asDecimal token with
  | some (negative, digits) => ReadRight negative digits
  | none => token.head? ≠ some (Char.ofNat 0)

instance : DecidablePred TokenRight := fun token => by
  unfold TokenRight
  split <;> infer_instance

/-! ## One token -/

/-- INTERNAL: a decimal number is a sign and digits. -/
theorem asDecimal_eq_some {token digits : CString} {negative : Bool}
    (h : asDecimal token = some (negative, digits)) :
    token = signed negative digits ∧ digits ≠ [] ∧ ∀ c ∈ digits, c.isDigit := by
  unfold asDecimal at h
  split at h
  · simp only [Option.ite_none_right_eq_some, Option.some.injEq, Prod.mk.injEq] at h
    obtain ⟨⟨hne, hall⟩, rfl, rfl⟩ := h
    exact ⟨rfl, hne, List.all_eq_true.mp hall⟩
  · simp only [Option.ite_none_right_eq_some, Option.some.injEq, Prod.mk.injEq] at h
    obtain ⟨⟨hne, hall⟩, rfl, rfl⟩ := h
    exact ⟨rfl, hne, List.all_eq_true.mp hall⟩

/-- INTERNAL: a token that `strtol` reads to its end. SOURCE: SoundListParser.cpp:22-62 -/
theorem spellToken_read {token : CString} {value : ℤ}
    (hread : strtol 0 (cString token) = (value, [])) : spellToken token =
      if -60 < toInt value ∧ toInt value < 60 then
        numberWords (decide (toInt value < 0)) (toInt value).natAbs
      else ["NaN".toList] := by
  have hwords : ∀ n < 60, spellNumber (n : ℕ) = (numberParts n).map (Nat.toDigits 10) := by
    decide +kernel
  unfold spellToken
  simp only [hread, if_true]
  generalize toInt value = v
  by_cases hrange : -60 < v ∧ v < 60
  · have hspell := hwords v.natAbs (by omega)
    rw [if_pos hrange, if_pos hrange]
    split
    case isTrue hneg =>
      have habs : 0 - v = (v.natAbs : ℕ) := by omega
      have hne : v.natAbs ≠ 0 := by omega
      rw [habs, hspell, numberWords, decide_eq_true hneg, if_pos ⟨rfl, hne⟩]
      rfl
    case isFalse hpos =>
      have habs : (v.natAbs : ℤ) = v := by omega
      rw [habs] at hspell
      rw [hspell, numberWords, decide_eq_false hpos]
      rfl
  · rw [if_neg hrange, if_neg hrange]

section Digits

variable {digits : CString} (hne : digits ≠ []) (hdigits : ∀ c ∈ digits, c.isDigit)
include hdigits

/-- INTERNAL: a number has no letter that ends a C string. -/
theorem cString_signed (negative : Bool) : cString (signed negative digits) =
    signed negative digits := by
  refine List.takeWhile_eq_self_iff.mpr fun c hc => ?_
  have hnul : ∀ d ∈ digits, d ≠ Char.ofNat 0 := by
    rintro d hd rfl
    exact absurd (hdigits _ hd) (by decide)
  unfold signed at hc
  split at hc
  · rcases List.mem_cons.mp hc with rfl | hc
    · decide
    · simpa using hnul c hc
  · simpa using hnul c hc

include hne

/-- INTERNAL: digits have no prefix `0x`, so their first one decides between octal and
decimal. -/
theorem basePrefix_digits : basePrefix 0 digits = (pickedBase digits, digits) := by
  unfold basePrefix pickedBase
  split
  case h_1 x d rest =>
    have hx : x.isDigit := hdigits x (by simp)
    have hxX : ¬ (x = 'x' ∨ x = 'X') := by
      rintro (rfl | rfl)
      · exact absurd hx (by decide)
      · exact absurd hx (by decide)
    simp [hxX]
  case h_2 => simp
  case h_3 h0 h1 =>
    have hhead : digits.head? ≠ some '0' := by
      intro hhead
      obtain ⟨rest, rfl⟩ := List.head?_eq_some_iff.mp hhead
      exact h1 rest rfl
    simp [hhead]

/-- INTERNAL: what `strtol` scans of a token that is a decimal integer. -/
theorem scanNumber_signed (negative : Bool) {value count : ℕ} {rest : CString}
    (hread : readDigits (pickedBase digits) 0 digits = (value, count, rest)) (hcount : count ≠ 0) :
    scanNumber 0 (signed negative digits) = ⟨negative, value, true, rest⟩ := by
  have hbase := basePrefix_digits hne hdigits
  obtain ⟨c, cs, rfl⟩ := List.exists_cons_of_ne_nil hne
  obtain ⟨hspace, hminus, hplus⟩ := digit_ne (hdigits c List.mem_cons_self)
  cases negative with
  | true =>
    have hbody : (signed true (c :: cs)).dropWhile isSpace = '-' :: c :: cs := rfl
    unfold scanNumber
    simp only [hbody, hbase, hread, if_neg hcount]
  | false =>
    have hsigned : signed false (c :: cs) = c :: cs := rfl
    rw [hsigned, scanNumber_unsigned hspace hminus hplus]
    simp only [hbase, hread, if_neg hcount]

omit hne in
/-- INTERNAL: a digit has its value in every base above it. -/
theorem digitVal_digit (base : ℕ) {c : Char} (hc : c ∈ digits) : digitVal base c =
    if c.toNat - '0'.toNat < base then some (c.toNat - '0'.toNat) else none := by
  have hrange : '0' ≤ c ∧ c ≤ '9' := by
    simpa [Char.isDigit, Char.le_def] using hdigits c hc
  unfold digitVal
  simp only [hrange, and_self, if_true]

omit hne in
/-- INTERNAL: digits that the base does not have stop `strtol`. The induction is on the
digits. -/
theorem readDigits_stops {base : ℕ} (hstop : ¬ ∀ c ∈ digits, (digitVal base c).isSome) (acc : ℕ) :
    (readDigits base acc digits).2.2 ≠ [] := by
  induction digits generalizing acc with
  | nil => exact absurd (by simp) hstop
  | cons c cs ih =>
    have hc := digitVal_digit hdigits base List.mem_cons_self
    simp only [readDigits]
    split
    case h_1 d hd =>
      refine ih (fun c' hc' => hdigits c' (List.mem_cons_of_mem c hc')) (fun hall => ?_) _
      apply hstop
      rw [List.forall_mem_cons, hd]
      exact ⟨rfl, hall⟩
    case h_2 => simp

/-- INTERNAL: **a decimal integer whose digits the base has.**
SOURCE: SoundListParser.cpp:22-62 -/
theorem spellToken_signed (negative : Bool)
    (hread : ∀ c ∈ digits, (digitVal (pickedBase digits) c).isSome) :
    spellToken (signed negative digits) =
      if -60 < pickedInt negative digits ∧ pickedInt negative digits < 60 then
        numberWords (decide (pickedInt negative digits < 0)) (pickedInt negative digits).natAbs
      else ["NaN".toList] := by
  have hrun : readDigits (pickedBase digits) 0 digits =
      (Nat.ofDigitChars (pickedBase digits) digits 0, digits.length, []) := by
    have hdigit : ∀ c ∈ digits, digitVal (pickedBase digits) c =
        some (c.toNat - '0'.toNat) := by
      intro c hc
      have hsome := hread c hc
      rw [digitVal_digit hdigits _ hc] at hsome ⊢
      split
      · rfl
      · rename_i hlt
        rw [if_neg hlt] at hsome
        cases hsome
    have hend (c : Char) (hc : ([] : CString).head? = some c) :
        digitVal (pickedBase digits) c = none := by cases hc
    have hrest := readDigits_run hdigit 0 hend
    rwa [List.append_nil] at hrest
  have hscan := scanNumber_signed hne hdigits negative hrun (mt List.length_eq_zero_iff.mp hne)
  refine spellToken_read ?_
  rw [strtol, cString_signed hdigits, hscan]

/-- INTERNAL: a decimal integer with a leading zero and a digit that is not octal.
SOURCE: SoundListParser.cpp:22-64 -/
theorem spellToken_unread (negative : Bool)
    (hread : ¬ ∀ c ∈ digits, (digitVal (pickedBase digits) c).isSome) :
    digits.head? = some '0' ∧ spellToken (signed negative digits) = [signed negative digits] := by
  have hzero : digits.head? = some '0' := by
    by_contra hhead
    refine hread fun c hc => ?_
    have hlt : c.toNat - '0'.toNat < 10 := by
      have hval := digitVal_of_isDigit (hdigits c hc)
      rw [digitVal_digit hdigits 10 hc] at hval
      by_contra hge
      rw [if_neg hge] at hval
      cases hval
    rw [pickedBase, if_neg hhead, digitVal_digit hdigits 10 hc, if_pos hlt]
    rfl
  refine ⟨hzero, ?_⟩
  have hstops := readDigits_stops hdigits hread 0
  have hcount : (readDigits (pickedBase digits) 0 digits).2.1 ≠ 0 := by
    obtain ⟨rest, rfl⟩ := List.head?_eq_some_iff.mp hzero
    have hbase : pickedBase ('0' :: rest) = 8 := if_pos hzero
    rw [hbase]
    exact Nat.succ_ne_zero _
  have hscan := scanNumber_signed hne hdigits negative rfl hcount
  unfold spellToken strtol
  simp only [cString_signed hdigits, hscan, if_neg hstops]

end Digits

/-! ## Octal and decimal -/

/-- INTERNAL: the two values of the same digits, below 100, the last digit, and the largest one.
The induction is on the digits from the right. -/
theorem octal_value {digits : CString} (hdigits : ∀ c ∈ digits, c.isDigit) :
    (magnitude digits < 100 →
      Nat.ofDigitChars 8 digits 0 = 8 * (magnitude digits / 10) + magnitude digits % 10) ∧
    ((∀ c ∈ digits, c.toNat - '0'.toNat < 8) → magnitude digits % 10 < 8) ∧
    ∀ c ∈ digits, c.toNat - '0'.toNat ≤ magnitude digits := by
  unfold magnitude
  induction digits using List.reverseRecOn with
  | nil => simp
  | append_singleton cs c ih =>
    have hc : c.toNat - '0'.toNat < 10 := by
      have hval := digitVal_of_isDigit (hdigits c (by simp))
      rw [digitVal_digit hdigits 10 (by simp)] at hval
      by_contra hge
      rw [if_neg hge] at hval
      cases hval
    obtain ⟨hvalue, -, hle⟩ := ih fun c' hc' => hdigits c' (by simp [hc'])
    simp only [Nat.ofDigitChars_append, Nat.ofDigitChars_cons, Nat.ofDigitChars_nil]
    generalize Nat.ofDigitChars 10 cs 0 = n at hvalue hle ⊢
    generalize Nat.ofDigitChars 8 cs 0 = o at hvalue ⊢
    refine ⟨?_, ?_, ?_⟩
    · intro hlt
      have := hvalue (by omega)
      omega
    · intro hlt
      have := hlt c (by simp)
      omega
    · intro d hd
      rcases List.mem_append.mp hd with hd | hd
      · have := hle d hd
        omega
      · obtain rfl := List.mem_singleton.mp hd
        omega

end Dhas.Analysis.PlayStrings
