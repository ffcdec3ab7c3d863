import Dhas.Analysis.PlayTokens

/-!
# When a play string expands token by token

The lists of a whole play string can only agree when the words of each token do: a token that is
read wrong gives words that part from the right ones, or leaves out the last one, and no later
token makes up for that.
-/

set_option autoImplicit false

namespace Dhas.Analysis.PlayStrings

open Dhas.Program Dhas.Program.SoundListParser

/-! ## Words that a wrong reading leaves out -/

/-- The words "4" and "6", which a number that is read octal can lack, and "NaN". -/
def marks : List CString := [['4'], ['6'], "NaN".toList]

/-- The words `code` of a token are not the right ones: they part from them, or lack the last
one. The rest is what a later token would need to make up for it. -/
def Misread (code right : List CString) : Prop :=
  right.head? ≠ some ['0'] ∧
    ((¬ code <+: right ∧ ¬ right <+: code ∧
        ∀ x ∈ marks, code = [x] → x ≠ "NaN".toList ∧ right = ["NaN".toList]) ∨
      (∃ x ∈ [['4'], ['6']], right = code ++ [x]) ∧ ∀ x ∈ marks, code ≠ [x])

instance (code right : List CString) : Decidable (Misread code right) :=
  inferInstanceAs (Decidable (_ ∧ (_ ∨ _)))

/-- A mark or "0" at the head is the only word. -/
def Plain (words : List CString) : Prop :=
  ∀ x ∈ ['0'] :: marks, words.head? = some x → words = [x]

instance : DecidablePred Plain := fun _ => inferInstanceAs (Decidable (∀ x ∈ _, _))

/-- INTERNAL: one word is plain. -/
theorem plain_singleton (word : CString) : Plain [word] := by
  intro x _ hx
  obtain rfl := Option.some.inj hx
  rfl

/-- INTERNAL: the words of a number are plain. -/
theorem plain_numberWords : ∀ n < 60, ∀ negative, Plain (numberWords negative n) := by
  decide +kernel

/-- INTERNAL: the words of every token are plain. SOURCE: SoundListParser.cpp:22-64 -/
theorem plain_spellToken (token : CString) : Plain (spellToken token) := by
  by_cases hrest : (strtol 0 (cString token)).2 = []
  · have hread : strtol 0 (cString token) = ((strtol 0 (cString token)).1, []) := by
      rw [← hrest]
    rw [spellToken_read hread]
    split
    · exact plain_numberWords _ (by omega) _
    · exact plain_singleton _
  · unfold spellToken
    simp only [if_neg hrest]
    exact plain_singleton _

/-- INTERNAL: a token that is passed through and does not begin like the right words. -/
theorem misread_passed {token word : CString} {right : List CString}
    (htoken : token.head? = some '-' ∨ token.head? = some '0')
    (hright : right.head? = some word) (hminus : word.head? ≠ some '-')
    (hzero : word.head? ≠ some '0') : Misread [token] right := by
  obtain ⟨words, rfl⟩ := List.head?_eq_some_iff.mp hright
  have hne : token ≠ word := by
    rintro rfl
    exact htoken.elim hminus hzero
  refine ⟨?_, .inl ⟨?_, ?_, ?_⟩⟩
  · simp only [List.head?_cons, ne_eq, Option.some.injEq]
    rintro rfl
    exact hzero rfl
  · rw [List.cons_prefix_cons]
    exact fun h => hne h.1
  · rw [List.cons_prefix_cons]
    exact fun h => hne h.1.symm
  · intro x hx heq
    obtain rfl := (List.cons.inj heq).1
    simp only [marks, List.mem_cons, List.not_mem_nil, or_false] at hx
    rcases hx with rfl | rfl | rfl
    · exact absurd htoken (by decide)
    · exact absurd htoken (by decide)
    · exact absurd htoken (by decide)

/-! ## One token -/

section Decimal

variable {digits : CString} (hne : digits ≠ []) (hdigits : ∀ c ∈ digits, c.isDigit)
include hne hdigits

omit hne in
/-- INTERNAL: what `strtol` makes of a decimal integer below 60 whose digits it reads. -/
theorem pickedInt_small (negative : Bool) (hsmall : magnitude digits < 60) :
    ∃ value ≤ magnitude digits,
      pickedInt negative digits = (if negative then -(value : ℤ) else value) ∧
      value = if digits.head? = some '0'
        then 8 * (magnitude digits / 10) + magnitude digits % 10 else magnitude digits := by
  have hvalue : Nat.ofDigitChars (pickedBase digits) digits 0 = if digits.head? = some '0'
      then 8 * (magnitude digits / 10) + magnitude digits % 10 else magnitude digits := by
    unfold pickedBase
    split
    · exact (octal_value hdigits).1 (by omega)
    · rfl
  have hle : Nat.ofDigitChars (pickedBase digits) digits 0 ≤ magnitude digits := by
    rw [hvalue]
    split
    · omega
    · exact Nat.le_refl _
  refine ⟨_, hle, ?_, hvalue⟩
  have hmax : ((LONG_MAX : ℕ) : ℤ) = 2 ^ 63 - 1 := by decide
  unfold pickedInt
  dsimp only
  generalize Nat.ofDigitChars (pickedBase digits) digits 0 = value at hle ⊢
  rw [hmax]
  have hclamp : max (-(2 ^ 63) : ℤ)
      (min (2 ^ 63 - 1) (if negative = true then -(value : ℤ) else value)) =
        if negative then -(value : ℤ) else value := by
    split <;> omega
  rw [hclamp]
  apply toInt_eq_self
  · split <;> omega
  · split <;> omega

/-- INTERNAL: a decimal integer below 60 whose digits `strtol` reads.
SOURCE: SoundListParser.cpp:22-62 -/
theorem spellToken_small (negative : Bool) (hsmall : magnitude digits < 60)
    (hread : ∀ c ∈ digits, (digitVal (pickedBase digits) c).isSome) :
    spellToken (signed negative digits) = numberWords negative (if digits.head? = some '0'
      then 8 * (magnitude digits / 10) + magnitude digits % 10 else magnitude digits) := by
  obtain ⟨value, hle, hpicked, hvalue⟩ := pickedInt_small hdigits negative hsmall
  rw [spellToken_signed hne hdigits negative hread, hpicked, ← hvalue]
  cases negative with
  | true =>
    simp only [if_true]
    rw [if_pos ⟨by omega, by omega⟩, Int.natAbs_neg, Int.natAbs_natCast]
    unfold numberWords
    by_cases hzero : value = 0
    · rw [hzero]
      rfl
    · rw [decide_eq_true (by omega)]
  | false =>
    have hpos : ¬ (value : ℤ) < 0 := by omega
    simp only [Bool.false_eq_true, if_false]
    rw [if_pos ⟨by omega, by omega⟩, Int.natAbs_natCast, decide_eq_false hpos]

/-- INTERNAL: **a decimal integer is read right, or its words are wrong.**
SOURCE: SoundListParser.cpp:22-64 -/
theorem spellToken_decimal (negative : Bool) :
    (ReadRight negative digits ∧ spellToken (signed negative digits) =
        if magnitude digits < 60 then numberWords negative (magnitude digits)
        else ["NaN".toList]) ∨
      ¬ ReadRight negative digits ∧ Misread (spellToken (signed negative digits))
        (if magnitude digits < 60 then numberWords negative (magnitude digits)
          else ["NaN".toList]) := by
  have hheads : ∀ n < 60, 8 ≤ n → ∀ negative, ∃ word ∈ (numberWords negative n).head?,
      word.head? ≠ some '-' ∧ word.head? ≠ some '0' := by decide +kernel
  have htoken (h : digits.head? = some '0') : (signed negative digits).head? = some '-' ∨
      (signed negative digits).head? = some '0' := by
    cases negative
    · exact .inr h
    · exact .inl rfl
  by_cases hread : ∀ c ∈ digits, (digitVal (pickedBase digits) c).isSome
  · by_cases hsmall : magnitude digits < 60
    · rw [spellToken_small hne hdigits negative hsmall hread]
      simp only [ReadRight, if_pos hsmall]
      by_cases hzero : digits.head? = some '0'
      · simp only [hzero, if_true, ne_eq, not_true, false_or]
        by_cases height : magnitude digits < 8
        · refine .inl ⟨height, ?_⟩
          rw [show 8 * (magnitude digits / 10) + magnitude digits % 10 = magnitude digits by
            omega]
        · -- a leading zero in front of two digits that count
          have hoctal : ∀ n < 60, 8 ≤ n → n % 10 < 8 → ∀ negative,
              Misread (numberWords negative (8 * (n / 10) + n % 10)) (numberWords negative n) := by
            decide +kernel
          have hdigit : ∀ c ∈ digits, c.toNat - '0'.toNat < 8 := by
            intro c hc
            have hsome := hread c hc
            rw [pickedBase, if_pos hzero, digitVal_digit hdigits 8 hc] at hsome
            by_contra hge
            rw [if_neg hge] at hsome
            cases hsome
          have hlast := (octal_value hdigits).2.1 hdigit
          exact .inr ⟨height, hoctal _ hsmall (by omega) hlast negative⟩
      · exact .inl ⟨.inl hzero, by rw [if_neg hzero]⟩
    · rw [spellToken_signed hne hdigits negative hread]
      simp only [ReadRight, if_neg hsmall]
      split
      case isTrue hrange =>
        have hwrong : ∀ n < 60, ∀ negative,
            Misread (numberWords negative n) ["NaN".toList] := by decide +kernel
        exact .inr ⟨fun h => h.2 hrange, hwrong _ (by omega) _⟩
      case isFalse hrange => exact .inl ⟨⟨hread, hrange⟩, rfl⟩
  · obtain ⟨hzero, hpassed⟩ := spellToken_unread hne hdigits negative hread
    have height : 8 ≤ magnitude digits := by
      by_contra hlt
      refine hread fun c hc => ?_
      have hle := (octal_value hdigits).2.2 c hc
      rw [pickedBase, if_pos hzero, digitVal_digit hdigits 8 hc, if_pos (by omega)]
      rfl
    rw [hpassed]
    refine .inr ⟨?_, ?_⟩
    · unfold ReadRight
      split
      · rintro (hhead | hlt)
        · exact hhead hzero
        · omega
      · exact fun h => hread h.1
    · split
      case isTrue hsmall =>
        obtain ⟨word, hword, hminus, hnotzero⟩ := hheads _ hsmall height negative
        exact misread_passed (htoken hzero) hword hminus hnotzero
      case isFalse =>
        have hnan : (["NaN".toList] : List CString).head? = some "NaN".toList := rfl
        exact misread_passed (htoken hzero) hnan (by decide) (by decide)

end Decimal

/-- INTERNAL: a token without a comma is the only one of its play string. -/
theorem tokensFrom_token {token : CString} (hcomma : ',' ∉ token) (before rest : CString) :
    tokensFrom before token = [before ++ token] ∧
      tokensFrom before (token ++ ',' :: rest) = (before ++ token) :: tokens rest := by
  induction token generalizing before with
  | nil => simp [tokensFrom, tokens]
  | cons c cs ih =>
    rw [List.mem_cons, not_or] at hcomma
    have hc : ¬ c = ',' := fun h => hcomma.1 h.symm
    have hnext := ih hcomma.2 (before ++ [c])
    rw [List.append_assoc, List.singleton_append] at hnext
    constructor
    · simp only [tokensFrom, if_neg hc]
      exact hnext.1
    · simp only [List.cons_append, tokensFrom, if_neg hc]
      exact hnext.2

/-- INTERNAL: a token without a comma is spelled by itself. -/
theorem getSoundList_token {token : CString} (hcomma : ',' ∉ token) (hne : token ≠ []) :
    getSoundList token = spellToken token := by
  rw [getSoundList, tokens, if_neg hne, (tokensFrom_token hcomma [] []).1, List.nil_append,
    List.flatMap_singleton]

/-- INTERNAL: a token that begins like no number is passed through, unless it begins with a NUL,
which is the end of it for `strtol`. SOURCE: SoundListParser.cpp:22-64 -/
theorem spellToken_name {c : Char} {cs : CString}
    (hname : ¬ (c.isDigit ∨ c = '-' ∨ c = '+' ∨ isSpace c)) :
    spellToken (c :: cs) = if c = Char.ofNat 0 then [['0']] else [c :: cs] := by
  simp only [not_or] at hname
  obtain ⟨hdigit, hminus, hplus, hspace⟩ := hname
  split
  case isTrue hnul =>
    have hcString : cString (c :: cs) = [] := List.takeWhile_cons_of_neg (by simp [hnul])
    have hread : strtol 0 (cString (c :: cs)) = (0, []) := by
      rw [hcString]
      decide
    rw [spellToken_read hread]
    decide
  case isFalse hnul =>
    have hcString : cString (c :: cs) = c :: cString cs :=
      List.takeWhile_cons_of_pos (by simpa using hnul)
    have hzero : c ≠ '0' := by
      rintro rfl
      exact hdigit (by decide)
    have hval := digitVal_ten_of_not_isDigit hdigit
    have hbase (rest : CString) : basePrefix 0 (c :: rest) = (10, c :: rest) := by
      unfold basePrefix
      split
      case h_1 heq => exact absurd (List.head_eq_of_cons_eq heq) hzero
      case h_2 heq => exact absurd (List.head_eq_of_cons_eq heq) hzero
      case h_3 => rfl
    have hscan (rest : CString) : scanNumber 0 (c :: rest) = ⟨false, 0, false, c :: rest⟩ := by
      rw [scanNumber_unsigned (Bool.eq_false_of_not_eq_true hspace) hminus hplus]
      simp only [hbase, readDigits, hval, if_true]
    unfold spellToken strtol
    simp only [hcString, hscan]
    rfl

/-- INTERNAL: **every token is expanded right, or its words are wrong.**
SOURCE: SoundListParser.cpp:22-64 -/
theorem spellToken_cases {token : CString} (hcomma : ',' ∉ token) (hne : token ≠ []) :
    (TokenRight token ∧ spellToken token = expansion token) ∨
      ¬ TokenRight token ∧ Misread (spellToken token) (expansion token) := by
  unfold TokenRight expansion
  cases hdecimal : asDecimal token with
  | some decimal =>
    obtain ⟨negative, digits⟩ := decimal
    obtain ⟨rfl, hdne, hdigits⟩ := asDecimal_eq_some hdecimal
    exact spellToken_decimal hdne hdigits negative
  | none =>
    cases token with
    | nil => exact absurd rfl hne
    | cons c cs =>
      simp only [List.head?_cons, ne_eq, Option.some.injEq]
      by_cases hname : c.isDigit ∨ c = '-' ∨ c = '+' ∨ isSpace c
      · have hnul : c ≠ Char.ofNat 0 := by
          rintro rfl
          exact absurd hname (by decide)
        rw [if_pos hname, getSoundList_token hcomma hne]
        exact .inl ⟨hnul, rfl⟩
      · rw [if_neg hname, spellToken_name hname]
        by_cases hnul : c = Char.ofNat 0
        · subst hnul
          rw [if_pos rfl]
          refine .inr ⟨fun h => h rfl, by simp, .inl ⟨by simp, by simp, fun x hx heq => ?_⟩⟩
          obtain rfl := (List.cons.inj heq).1
          exact absurd hx (by decide)
        · rw [if_neg hnul]
          exact .inl ⟨hnul, rfl⟩

/-! ## The whole play string -/

/-- The play string of the tokens. -/
def joined (toks : List CString) : CString := [','].intercalate toks

/-- The words that the parser finds. -/
def heardWords (toks : List CString) : List CString := getSoundList (joined toks)

section Joined

variable {token : CString} {rest : List CString}

/-- INTERNAL: no token, no word. -/
@[simp] theorem heardWords_nil : heardWords [] = [] := rfl

/-- INTERNAL: the loop takes one token after the other. SOURCE: SoundListParser.cpp:15-20 -/
theorem heardWords_cons (hcomma : ',' ∉ token) (hne : token ≠ [] ∨ rest ≠ []) :
    heardWords (token :: rest) = spellToken token ++ heardWords rest := by
  cases rest with
  | nil =>
    have hjoined : joined [token] = token := by simp [joined]
    rw [heardWords, hjoined, getSoundList_token hcomma (by simpa using hne), heardWords_nil,
      List.append_nil]
  | cons next rest =>
    have hjoined : joined (token :: next :: rest) = token ++ ',' :: joined (next :: rest) := by
      simp [joined, List.intercalate]
    have hnonempty : token ++ ',' :: joined (next :: rest) ≠ [] := by simp
    rw [heardWords, hjoined, getSoundList, tokens, if_neg hnonempty,
      (tokensFrom_token hcomma [] _).2, List.nil_append, List.flatMap_cons]
    rfl

/-- INTERNAL: the empty token is spelled as zero. -/
theorem spellToken_nil : spellToken [] = [['0']] := by decide

/-- INTERNAL: no token is expanded to no word. -/
theorem expansion_nil : expansion [] = [] := rfl

end Joined

/-- INTERNAL: a mark that is missing in front is not made up for by the tokens behind it.
The induction is on the tokens. -/
theorem heardWords_ne_mark {toks : List CString} (hcomma : ∀ token ∈ toks, ',' ∉ token)
    {x : CString} (hx : x ∈ marks) : heardWords toks ≠ x :: toks.flatMap expansion := by
  induction toks generalizing x with
  | nil => simp
  | cons token rest ih =>
    rw [List.forall_mem_cons] at hcomma
    have ih' {y : CString} (hy : y ∈ marks) := ih hcomma.2 hy
    intro h
    by_cases hempty : token = []
    · subst hempty
      rw [List.flatMap_cons, expansion_nil, List.nil_append] at h
      cases rest with
      | nil => exact absurd h (by simp [heardWords, joined, getSoundList, tokens])
      | cons next rest =>
        rw [heardWords_cons hcomma.1 (by simp), spellToken_nil] at h
        obtain rfl := (List.cons.inj h).1
        exact absurd hx (by decide)
    · rw [heardWords_cons hcomma.1 (.inl hempty), List.flatMap_cons] at h
      -- the word in front is the only one of the token
      have hsingle : spellToken token = [x] := by
        have hnonempty : spellToken token ≠ [] := by
          rw [← getSoundList_token hcomma.1 hempty]
          exact mt getSoundList_eq_nil.mp hempty
        obtain ⟨word, words, hwords⟩ := List.exists_cons_of_ne_nil hnonempty
        rw [hwords, List.cons_append] at h
        obtain rfl := (List.cons.inj h).1
        exact plain_spellToken token word (List.mem_cons_of_mem _ hx) (by rw [hwords]; rfl)
      rw [hsingle, List.singleton_append] at h
      have htail := (List.cons.inj h).2
      rcases spellToken_cases hcomma.1 hempty with ⟨-, heq⟩ | ⟨-, -, hmis | hmis⟩
      · rw [← heq, hsingle] at htail
        exact ih' hx htail
      · obtain ⟨-, hright⟩ := hmis.2.2 x hx hsingle
        rw [hright] at htail
        exact ih' (by decide) htail
      · exact hmis.2 x hx hsingle

/-- INTERNAL: nor are zeros that are too many. The induction is on the tokens. -/
theorem expansion_ne_zeros {toks : List CString} (hcomma : ∀ token ∈ toks, ',' ∉ token) (k : ℕ) :
    toks.flatMap expansion ≠ List.replicate (k + 1) ['0'] ++ heardWords toks := by
  induction toks generalizing k with
  | nil => simp
  | cons token rest ih =>
    rw [List.forall_mem_cons] at hcomma
    have ih' := ih hcomma.2
    intro h
    rw [List.flatMap_cons] at h
    by_cases hempty : token = []
    · subst hempty
      rw [expansion_nil, List.nil_append] at h
      cases rest with
      | nil => simp at h
      | cons next rest =>
        rw [heardWords_cons hcomma.1 (by simp), spellToken_nil, ← List.append_assoc,
          ← List.replicate_succ'] at h
        exact ih' (k + 1) h
    · rw [heardWords_cons hcomma.1 (.inl hempty)] at h
      have hplain := plain_spellToken token ['0'] List.mem_cons_self
      rcases spellToken_cases hcomma.1 hempty with ⟨-, heq⟩ | ⟨-, hhead, hmis⟩
      · have hnonempty : spellToken token ≠ [] := by
          rw [← getSoundList_token hcomma.1 hempty]
          exact mt getSoundList_eq_nil.mp hempty
        obtain ⟨word, words, hwords⟩ := List.exists_cons_of_ne_nil hnonempty
        rw [← heq, hwords, List.replicate_succ, List.cons_append, List.cons_append] at h
        obtain rfl := (List.cons.inj h).1
        have hsingle := hplain (by rw [hwords]; rfl)
        rw [hwords] at hsingle
        obtain rfl := (List.cons.inj hsingle).2
        have htail := (List.cons.inj h).2
        rw [List.nil_append, ← List.append_assoc, ← List.replicate_succ'] at htail
        exact ih' k htail
      · cases hright : expansion token with
        | nil =>
          rw [hright] at hmis
          rcases hmis with ⟨-, hprefix, -⟩ | ⟨⟨x, -, heq⟩, -⟩
          · exact hprefix List.nil_prefix
          · simp at heq
        | cons word words =>
          rw [hright, List.replicate_succ, List.cons_append, List.cons_append] at h
          rw [hright, (List.cons.inj h).1] at hhead
          exact hhead rfl

/-- **A play string expands token by token exactly when each decimal number in it is read right,
no token begins with a NUL, and no token but the last is empty.** For every list of tokens
without commas. SOURCE: SoundListParser.cpp:7-68 -/
theorem playString_expands_iff (toks : List CString) (hcomma : ∀ token ∈ toks, ',' ∉ token) :
    getSoundList (joined toks) = toks.flatMap expansion ↔
      (∀ token ∈ toks, TokenRight token) ∧ ∀ token ∈ toks.dropLast, token ≠ [] := by
  show heardWords toks = _ ↔ _
  induction toks with
  | nil => simp
  | cons token rest ih =>
    rw [List.forall_mem_cons] at hcomma
    have ih' := ih hcomma.2
    rw [List.forall_mem_cons, List.flatMap_cons]
    by_cases hempty : token = []
    · subst hempty
      rw [expansion_nil, List.nil_append]
      cases rest with
      | nil =>
        refine iff_of_true rfl ⟨⟨?_, by simp⟩, by simp⟩
        decide
      | cons next rest =>
        rw [heardWords_cons hcomma.1 (by simp), spellToken_nil]
        refine iff_of_false (fun h => expansion_ne_zeros hcomma.2 0 h.symm) fun h => ?_
        exact h.2 [] (by simp [List.dropLast]) rfl
    · have hlast : (∀ t ∈ (token :: rest).dropLast, t ≠ []) ↔ ∀ t ∈ rest.dropLast, t ≠ [] := by
        cases rest with
        | nil => simp
        | cons next rest =>
          rw [List.dropLast_cons_cons, List.forall_mem_cons]
          exact and_iff_right hempty
      rw [heardWords_cons hcomma.1 (.inl hempty), hlast]
      rcases spellToken_cases hcomma.1 hempty with ⟨hright, heq⟩ | ⟨hwrong, -, hmis⟩
      · rw [heq, List.append_cancel_left_eq, ih', and_iff_right hright]
      · refine iff_of_false (fun h => ?_) fun h => hwrong h.1.1
        rcases hmis with ⟨hcode, hexpansion, -⟩ | ⟨⟨x, hx, heq⟩, -⟩
        · have hright : expansion token <+: spellToken token ++ heardWords rest := ⟨_, h.symm⟩
          rcases List.prefix_or_prefix_of_prefix (List.prefix_append _ _) hright with
            hprefix | hprefix
          · exact hcode hprefix
          · exact hexpansion hprefix
        · rw [heq, List.append_assoc, List.append_cancel_left_eq, List.singleton_append] at h
          have hmark : x ∈ marks := by
            simp only [List.mem_cons, List.not_mem_nil, or_false] at hx
            rcases hx with rfl | rfl
            · decide
            · decide
          exact heardWords_ne_mark hcomma.2 hmark h

/-- A name, numbers, and an empty token at the end. -/
theorem playString_sample :
    getSoundList (joined ["it is".toList, "-29".toList, "04".toList, "100".toList, []]) =
      ["it is".toList, "-29".toList, "04".toList, "100".toList, []].flatMap expansion := by
  refine (playString_expands_iff _ (by decide +kernel)).mpr ⟨?_, by decide +kernel⟩
  simp only [List.forall_mem_cons]
  refine ⟨?_, ?_, ?_, ?_, ?_, List.forall_mem_nil _⟩
  · exact (by decide : "it is".toList.head? ≠ some (Char.ofNat 0))
  · exact (by decide : ReadRight true "29".toList)
  · exact (by decide : ReadRight false "04".toList)
  · exact (by decide +kernel : ReadRight false "100".toList)
  · exact (by decide : ([] : CString).head? ≠ some (Char.ofNat 0))

/-- `strtol` gives the largest `long` for it, which is -1 as an `int`.
SOURCE: SoundListParser.cpp:22-31 -/
theorem playString_huge :
    getSoundList (joined ["9223372036854775808".toList]) = ["minus".toList, ['1']] ∧
      getSoundList (joined ["9223372036854775808".toList]) ≠
        ["9223372036854775808".toList].flatMap expansion := by
  decide +kernel

end Dhas.Analysis.PlayStrings
