import Mathlib.Data.List.Basic
import Mathlib.Algebra.Order.Ring.Int

/-!
# The C library's number conversions

The program turns request parameters into numbers with `strtoul`, `strtol`, `atoi` and
`std::stoul`. They are written here as glibc documents them for a 64-bit `long` and a
32-bit `int`: leading white space, an optional sign, an optional `0x` for base 16, the
longest run of digits, a value clamped to the type, and the place where reading stopped.

A C string is a list of characters.
-/

set_option autoImplicit false

namespace Dhas.Program

abbrev CString := List Char

/-- The string at a `char*`: it ends at the first NUL. -/
def cString (data : CString) : CString := data.takeWhile (· ≠ Char.ofNat 0)

/-- `ULONG_MAX` of a 64-bit `unsigned long`. -/
def ULONG_MAX : ℕ := 2 ^ 64 - 1

/-- `LONG_MAX` of a 64-bit `long`. -/
def LONG_MAX : ℕ := 2 ^ 63 - 1

/-- `isspace` in the C locale. -/
def isSpace (c : Char) : Bool :=
  c = ' ' || c = '\t' || c = '\n' || c = Char.ofNat 11 || c = Char.ofNat 12 || c = '\r'

/-- The value of a digit in a base; `none` when the character is not one. -/
def digitVal (base : ℕ) (c : Char) : Option ℕ :=
  let v :=
    if '0' ≤ c ∧ c ≤ '9' then c.toNat - '0'.toNat
    else if 'a' ≤ c ∧ c ≤ 'z' then c.toNat - 'a'.toNat + 10
    else if 'A' ≤ c ∧ c ≤ 'Z' then c.toNat - 'A'.toNat + 10
    else base
  if v < base then some v else none

/-- The longest run of digits at the head: its value on top of `acc`, how many digits
there were, and what follows them. -/
def readDigits (base : ℕ) : ℕ → CString → ℕ × ℕ × CString
  | acc, [] => (acc, 0, [])
  | acc, c :: cs =>
    match digitVal base c with
    | some d =>
      let r := readDigits base (acc * base + d) cs
      (r.1, r.2.1 + 1, r.2.2)
    | none => (acc, 0, c :: cs)

/-- The base that `strto*` uses and the text after its prefix: base 0 picks 16, 8 or 10 by
the prefix, and base 16 skips `0x` when a hexadecimal digit follows. -/
def basePrefix (base : ℕ) (s : CString) : ℕ × CString :=
  match s with
  | '0' :: x :: d :: rest =>
    if (base = 0 ∨ base = 16) ∧ (x = 'x' ∨ x = 'X') ∧ (digitVal 16 d).isSome then
      (16, d :: rest)
    else (if base = 0 then 8 else base, s)
  | '0' :: _ => (if base = 0 then 8 else base, s)
  | _ => (if base = 0 then 10 else base, s)

/-- What `strto*` reads: the sign, the magnitude before clamping, and the rest. Without a
digit nothing is consumed, so the rest is the whole string. -/
structure Scan where
  negative : Bool
  magnitude : ℕ
  converted : Bool
  rest : CString

/-- The common part of `strtol` and `strtoul`. -/
def scanNumber (base : ℕ) (s : CString) : Scan :=
  let body := s.dropWhile isSpace
  let (negative, digits) := match body with
    | '-' :: cs => (true, cs)
    | '+' :: cs => (false, cs)
    | cs => (false, cs)
  let (base, digits) := basePrefix base digits
  let (value, count, rest) := readDigits base 0 digits
  if count = 0 then ⟨false, 0, false, s⟩ else ⟨negative, value, true, rest⟩

/-- `strtoul(s, &end, base)`. -/
def strtoul (base : ℕ) (s : CString) : ℕ :=
  let r := scanNumber base s
  if ULONG_MAX < r.magnitude then ULONG_MAX
  else if r.negative then (2 ^ 64 - r.magnitude) % 2 ^ 64 else r.magnitude

/-- `strtol(s, &end, base)` and `end`. -/
def strtol (base : ℕ) (s : CString) : ℤ × CString :=
  let r := scanNumber base s
  let v : ℤ := if r.negative then -(r.magnitude : ℤ) else r.magnitude
  (max (-(2 ^ 63)) (min LONG_MAX v), r.rest)

/-- Conversion to a 32-bit `int`, modulo `2 ^ 32`. -/
def toInt (v : ℤ) : ℤ := v.bmod (2 ^ 32)

/-- Conversion to a 32-bit `unsigned int`, modulo `2 ^ 32`. -/
def toUnsigned (v : ℤ) : ℕ := (v % 2 ^ 32).toNat

/-- INTERNAL: the cut to an int keeps the low 32 bits. -/
theorem toUnsigned_toInt (v : ℤ) : toUnsigned (toInt v) = toUnsigned v := by
  unfold toUnsigned toInt
  congr 1
  exact Int.bmod_emod

/-- Conversion to an `unsigned char`, modulo `2 ^ 8`. -/
def toUnsignedChar (v : ℤ) : UInt8 := UInt8.ofNat (v % 2 ^ 8).toNat

/-- `atoi(s)`: `strtol` in base 10, converted to `int`. -/
def atoi (s : CString) : ℤ := toInt (strtol 10 s).1

/-- `std::stoul(s)`; `none` is the exception it throws when there is no number or the
number does not fit an `unsigned long`. -/
def stoul (s : CString) : Option ℕ :=
  let r := scanNumber 10 s
  if r.converted = false then none
  else if ULONG_MAX < r.magnitude then none
  else some (strtoul 10 s)

/-- `std::stoi(s)`; `none` is the exception it throws when there is no number or the number does
not fit a `long` or an `int`. -/
def stoi (s : CString) : Option ℤ :=
  let r := scanNumber 10 s
  let v : ℤ := if r.negative then -(r.magnitude : ℤ) else r.magnitude
  if r.converted = false then none
  else if v < -(2 ^ 31) ∨ 2 ^ 31 ≤ v then none
  else some v

/-! ## Decimal text -/

/-- What `ss << v` writes for an `int` or a `long`. -/
def decimal : ℤ → CString
  | .ofNat n => Nat.toDigits 10 n
  | .negSucc n => '-' :: Nat.toDigits 10 (n + 1)

/-- INTERNAL: the letters of a decimal number are digits. -/
theorem isDigit_of_mem_toDigits {n : ℕ} {c : Char} (h : c ∈ Nat.toDigits 10 n) : c.isDigit :=
  Nat.isDigit_of_mem_toDigits (by omega) (by omega) h

/-- INTERNAL: a decimal number is written with digits and a minus sign. -/
theorem mem_decimal {v : ℤ} {c : Char} (h : c ∈ decimal v) : c = '-' ∨ c.isDigit := by
  cases v with
  | ofNat n => exact Or.inr (isDigit_of_mem_toDigits h)
  | negSucc n => exact (List.mem_cons.mp h).imp_right isDigit_of_mem_toDigits

/-- INTERNAL: a number has at least one letter. -/
theorem decimal_ne_nil (v : ℤ) : decimal v ≠ [] := by
  cases v with
  | ofNat n => exact Nat.toDigits_ne_nil
  | negSucc n => exact List.cons_ne_nil _ _

/-- INTERNAL: a decimal digit is read with the value that it has in the core library. -/
theorem digitVal_of_isDigit {c : Char} (h : c.isDigit) :
    digitVal 10 c = some (c.toNat - '0'.toNat) := by
  have hc : '0' ≤ c ∧ c ≤ '9' := by
    simpa [Char.isDigit, Char.le_def] using h
  have h9 : c.toNat ≤ 57 := hc.2
  have hlt : c.toNat - '0'.toNat < 10 := by
    show c.toNat - 48 < 10
    omega
  unfold digitVal
  simp only [hc, and_self, if_true, hlt]

/-- INTERNAL: a run of decimal digits that are digits in the base too is read to its end. -/
theorem readDigits_run {base : ℕ} {digits : CString}
    (hdigits : ∀ c ∈ digits, digitVal base c = some (c.toNat - '0'.toNat)) (acc : ℕ)
    {rest : CString} (hrest : ∀ c, rest.head? = some c → digitVal base c = none) :
    readDigits base acc (digits ++ rest) =
      (Nat.ofDigitChars base digits acc, digits.length, rest) := by
  induction digits generalizing acc with
  | nil =>
    cases rest with
    | nil => rfl
    | cons c rest =>
      show readDigits base acc (c :: rest) = _
      simp only [readDigits, hrest c rfl]
      rfl
  | cons c digits ih =>
    have hc := hdigits c List.mem_cons_self
    show readDigits base acc (c :: (digits ++ rest)) = _
    simp only [readDigits, hc]
    rw [ih (fun d hd => hdigits d (List.mem_cons_of_mem c hd)), Nat.ofDigitChars_cons,
      Nat.mul_comm]
    rfl

/-- INTERNAL: the reader takes the digits, and stops at the first letter that is none. -/
theorem readDigits_append {digits : CString} (hdigits : ∀ c ∈ digits, c.isDigit) (acc : ℕ)
    {rest : CString} (hrest : ∀ c, rest.head? = some c → digitVal 10 c = none) :
    readDigits 10 acc (digits ++ rest) = (Nat.ofDigitChars 10 digits acc, digits.length, rest) :=
  readDigits_run (fun c hc => digitVal_of_isDigit (hdigits c hc)) acc hrest

/-- INTERNAL: base 10 has no prefix. -/
theorem basePrefix_ten (s : CString) : basePrefix 10 s = (10, s) := by
  unfold basePrefix
  split <;> simp

/-- INTERNAL: a digit is neither white space nor a sign. -/
theorem digit_ne {c : Char} (h : c.isDigit) : isSpace c = false ∧ c ≠ '-' ∧ c ≠ '+' := by
  refine ⟨?_, ?_, ?_⟩
  · unfold isSpace
    simp only [Bool.or_eq_false_iff, decide_eq_false_iff_not]
    refine ⟨⟨⟨⟨⟨?_, ?_⟩, ?_⟩, ?_⟩, ?_⟩, ?_⟩ <;>
      · rintro rfl
        exact absurd h (by decide)
  · rintro rfl
    exact absurd h (by decide)
  · rintro rfl
    exact absurd h (by decide)

/-- INTERNAL: a string that begins with neither white space nor a sign is scanned as it is. -/
theorem scanNumber_unsigned {c : Char} (hspace : isSpace c = false) (hminus : c ≠ '-')
    (hplus : c ≠ '+') (base : ℕ) (cs : CString) : scanNumber base (c :: cs) =
      let (base, digits) := basePrefix base (c :: cs)
      let (value, count, rest) := readDigits base 0 digits
      if count = 0 then ⟨false, 0, false, c :: cs⟩ else ⟨false, value, true, rest⟩ := by
  have hbody : (c :: cs).dropWhile isSpace = c :: cs :=
    List.dropWhile_cons_of_neg (by simp [hspace])
  unfold scanNumber
  simp only [hbody]
  split
  case h_1 heq => exact absurd (List.head_eq_of_cons_eq heq) hminus
  case h_2 heq => exact absurd (List.head_eq_of_cons_eq heq) hplus
  case h_3 => rfl

/-- INTERNAL: in base 10 only digits have a value. -/
theorem digitVal_ten_of_not_isDigit {c : Char} (h : ¬ c.isDigit) : digitVal 10 c = none := by
  have hrange : ¬ ('0' ≤ c ∧ c ≤ '9') := by
    simpa [Char.isDigit, Char.le_def] using h
  unfold digitVal
  simp only [if_neg hrange]
  grind

section Digits

variable {digits rest : CString} (hne : digits ≠ []) (hdigits : ∀ c ∈ digits, c.isDigit)
  (hrest : ∀ c, rest.head? = some c → digitVal 10 c = none)
include hne hdigits hrest

/-- INTERNAL: the digits at the head of a string are read as a number, up to what follows. -/
theorem scanNumber_digits :
    scanNumber 10 (digits ++ rest) = ⟨false, Nat.ofDigitChars 10 digits 0, true, rest⟩ := by
  have hread := readDigits_append hdigits 0 hrest
  cases digits with
  | nil => exact absurd rfl hne
  | cons c cs =>
    obtain ⟨hspace, hminus, hplus⟩ := digit_ne (hdigits c List.mem_cons_self)
    rw [List.cons_append] at hread ⊢
    rw [scanNumber_unsigned hspace hminus hplus]
    simp [basePrefix_ten, hread]

/-- INTERNAL: a minus sign and digits are read as that number. -/
theorem scanNumber_minus_digits :
    scanNumber 10 ('-' :: (digits ++ rest)) =
      ⟨true, Nat.ofDigitChars 10 digits 0, true, rest⟩ := by
  have hread := readDigits_append hdigits 0 hrest
  have hbody : ('-' :: (digits ++ rest)).dropWhile isSpace = '-' :: (digits ++ rest) := rfl
  unfold scanNumber
  simp only [hbody, basePrefix_ten, hread, if_neg (mt List.length_eq_zero_iff.mp hne)]

end Digits

/-- INTERNAL: a number written in decimal is read back, up to what follows it. -/
theorem scanNumber_decimal (v : ℤ) (rest : CString)
    (hrest : ∀ c, rest.head? = some c → digitVal 10 c = none) :
    scanNumber 10 (decimal v ++ rest) = ⟨decide (v < 0), v.natAbs, true, rest⟩ := by
  have hdigits (n : ℕ) : ∀ c ∈ Nat.toDigits 10 n, c.isDigit := fun _ => isDigit_of_mem_toDigits
  cases v with
  | ofNat n =>
    have hscan := scanNumber_digits Nat.toDigits_ne_nil (hdigits n) hrest
    rw [Nat.ofDigitChars_ten_toDigits] at hscan
    exact hscan.trans (by simp)
  | negSucc n =>
    have hscan := scanNumber_minus_digits Nat.toDigits_ne_nil (hdigits (n + 1)) hrest
    rw [Nat.ofDigitChars_ten_toDigits] at hscan
    exact hscan.trans (by simp [Int.negSucc_lt_zero])

/-- INTERNAL: `atoi` gives back a number that was written in decimal, converted to `int`. -/
theorem atoi_decimal {v : ℤ} (hlow : -(2 ^ 63) ≤ v) (hhigh : v < 2 ^ 63) :
    atoi (decimal v) = toInt v := by
  have hscan := scanNumber_decimal v [] (by simp)
  have hvalue : (if v < 0 then -(v.natAbs : ℤ) else v.natAbs) = v := by
    split <;> omega
  rw [List.append_nil] at hscan
  unfold atoi strtol
  simp only [hscan, decide_eq_true_eq, hvalue]
  congr 1
  have hmax : ((LONG_MAX : ℕ) : ℤ) = 2 ^ 63 - 1 := by decide
  rw [hmax]
  omega

/-- INTERNAL: two numbers have one decimal text only when they are equal. -/
theorem decimal_injective : Function.Injective decimal := by
  intro v w h
  have hv := scanNumber_decimal v [] (by simp)
  have hw := scanNumber_decimal w [] (by simp)
  rw [h, hw] at hv
  have hnegative : decide (w < 0) = decide (v < 0) := congrArg Scan.negative hv
  have hmagnitude : w.natAbs = v.natAbs := congrArg Scan.magnitude hv
  rw [decide_eq_decide] at hnegative
  omega

/-- INTERNAL: a value that fits is not cut. -/
theorem toInt_eq_self {v : ℤ} (hlow : -(2 ^ 31) ≤ v) (hhigh : v < 2 ^ 31) : toInt v = v := by
  unfold toInt
  rw [Int.bmod_def]
  split <;> omega

/-- INTERNAL: an int is between -2^31 and 2^31 - 1. -/
theorem toInt_range (v : ℤ) : -(2 ^ 31) ≤ toInt v ∧ toInt v < 2 ^ 31 := by
  unfold toInt
  rw [Int.bmod_def]
  split <;> omega

/-- INTERNAL: the second cut changes nothing. -/
theorem toInt_toInt (v : ℤ) : toInt (toInt v) = toInt v := Int.bmod_bmod

/-- INTERNAL: an int that is written is read back. -/
theorem atoi_decimal_of_int {v : ℤ} (h : toInt v = v) : atoi (decimal v) = v := by
  have hrange := toInt_range v
  rw [atoi_decimal (by omega) (by omega), h]

end Dhas.Program
