import Dhas.Program.CString
import Mathlib.Algebra.Order.Ring.Nat

/-!
# Numbers in hexadecimal

The Insteon ids go out as `ss << "0x" << std::hex << std::setw(6) << std::setfill('0') << id`,
and come back through `strtoul(s,0,16)`.
-/

set_option autoImplicit false

namespace Dhas.Program

/-- INTERNAL: a digit that is written is read with its value. -/
theorem digitVal_digitChar {d : ℕ} (hd : d < 16) : digitVal 16 (Nat.digitChar d) = some d := by
  have hall : ∀ d ∈ List.range 16, digitVal 16 (Nat.digitChar d) = some d := by decide
  exact hall d (List.mem_range.mpr hd)

/-- INTERNAL: a text that is read to its end is read on into what follows it. -/
theorem readDigits_readDigits {base acc value count : ℕ} {xs : CString}
    (hread : readDigits base acc xs = (value, count, [])) (ys : CString) :
    readDigits base acc (xs ++ ys) =
      ((readDigits base value ys).1, count + (readDigits base value ys).2.1,
        (readDigits base value ys).2.2) := by
  induction xs generalizing acc count with
  | nil =>
    obtain ⟨rfl, hrest⟩ := Prod.mk.inj hread
    obtain ⟨rfl, -⟩ := Prod.mk.inj hrest
    simp
  | cons c xs ih =>
    rw [List.cons_append]
    simp only [readDigits] at hread ⊢
    cases hc : digitVal base c with
    | none => simp [hc] at hread
    | some d =>
      simp only [hc, Prod.mk.injEq] at hread
      obtain ⟨hvalue, hcount, hrest⟩ := hread
      have hxs : readDigits base (acc * base + d) xs =
          (value, (readDigits base (acc * base + d) xs).2.1, []) :=
        Prod.ext hvalue (Prod.ext rfl hrest)
      simp only [ih hxs, ← hcount]
      ext <;> simp only [Nat.add_right_comm]

/-- INTERNAL: the digits of a number are read to their end, with its value. -/
theorem readDigits_toDigits (n : ℕ) :
    readDigits 16 0 (Nat.toDigits 16 n) = (n, (Nat.toDigits 16 n).length, []) := by
  induction n using Nat.strongRecOn with
  | ind n ih =>
    by_cases hn : n < 16
    · rw [Nat.toDigits_of_lt_base hn]
      simp [readDigits, digitVal_digitChar hn]
    · have hle : 16 ≤ n := by omega
      have hdigit : digitVal 16 (Nat.digitChar (n % 16)) = some (n % 16) :=
        digitVal_digitChar (Nat.mod_lt n (by omega))
      have hvalue : n / 16 * 16 + n % 16 = n := by omega
      rw [Nat.toDigits_of_base_le (by omega) hle, readDigits_readDigits (ih (n / 16) (by omega))]
      simp [readDigits, hdigit, hvalue]

/-- INTERNAL: zeros before a number do not count. -/
theorem readDigits_zeros (k : ℕ) :
    readDigits 16 0 (List.replicate k '0') = (0, k, []) := by
  have hzero : digitVal 16 '0' = some 0 := by decide
  induction k with
  | zero => rfl
  | succ k ih => simp [List.replicate_succ, readDigits, hzero, ih]

/-- INTERNAL: a number that is filled up with zeros is read to its end. -/
theorem readDigits_padded (n k : ℕ) :
    readDigits 16 0 (List.replicate k '0' ++ Nat.toDigits 16 n) =
      (n, k + (Nat.toDigits 16 n).length, []) := by
  rw [readDigits_readDigits (readDigits_zeros k), readDigits_toDigits]

/-- **A number in hexadecimal, behind `0x` and any zeros, is read back by `strtoul`.** -/
theorem strtoul_hex {n : ℕ} (hn : n ≤ ULONG_MAX) (k : ℕ) :
    strtoul 16 (['0', 'x'] ++ List.replicate k '0' ++ Nat.toDigits 16 n) = n := by
  have hread := readDigits_padded n k
  have hlength : 0 < (Nat.toDigits 16 n).length := Nat.length_toDigits_pos
  obtain ⟨d, ds, hds⟩ : ∃ d ds, List.replicate k '0' ++ Nat.toDigits 16 n = d :: ds := by
    apply List.exists_cons_of_ne_nil
    simp [Nat.toDigits_ne_nil]
  have hdigit : (digitVal 16 d).isSome := by
    rw [hds] at hread
    simp only [readDigits] at hread
    cases hd : digitVal 16 d with
    | none => simp [hd] at hread
    | some v => rfl
  have hprefix : basePrefix 16 ('0' :: 'x' :: d :: ds) = (16, d :: ds) := by
    simp [basePrefix, hdigit]
  have hscan : scanNumber 16 ('0' :: 'x' :: d :: ds) = ⟨false, n, true, []⟩ := by
    rw [scanNumber_unsigned (by decide) (by decide) (by decide), hprefix]
    rw [hds] at hread
    simp only [hread]
    rw [if_neg (by omega)]
  rw [List.append_assoc, hds]
  show strtoul 16 ('0' :: 'x' :: d :: ds) = n
  simp [strtoul, hscan, Nat.not_lt.mpr hn]

end Dhas.Program
