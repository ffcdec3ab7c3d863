import Dhas.Program.CString

/-!
# Play strings

`modules/Sound/SoundListParser.cpp`. A play string is a list of sound names separated by
commas. A token that `strtol` reads to its end is a number, which is spelled with the sounds
of its digits; the empty token is read so too, and stands for 0.
-/

set_option autoImplicit false

namespace Dhas.Program

namespace SoundListParser

/-- The tokens of the rest of a play string, with the characters of the token so far. -/
def tokensFrom (token : CString) : CString → List CString
  | [] => [token]
  | c :: url =>
    if c = ',' then token :: (if url = [] then [] else tokensFrom [] url)
    else tokensFrom (token ++ [c]) url

/-- `while(url!="")` -/
def tokens (url : CString) : List CString :=
  if url = [] then [] else tokensFrom [] url

/-- The decimal digits of a number. -/
def decimal (num : ℤ) : CString := Nat.toDigits 10 num.toNat

/-- The sounds of a number, which is not negative any more. -/
def spellNumber (num : ℤ) : List CString :=
  if 0 ≤ num ∧ num < 20 then [decimal num]
  else if 20 ≤ num ∧ num < 70 then
    let d := num / 10
    let num := num - d * 10
    [decimal d ++ ['0']] ++ if num ≠ 0 then [decimal num] else []
  else []

/-- The sounds of one token. `strtol` sees it up to its first NUL. -/
def spellToken (token : CString) : List CString :=
  let r := strtol 0 (cString token)
  let num := toInt r.1
  if r.2 = [] then
    if -60 < num ∧ num < 60 then
      if num < 0 then "minus".toList :: spellNumber (0 - num) else spellNumber num
    else ["NaN".toList]
  else [token]

/-- `SoundListParser(url)` and `getSoundList()`. -/
def getSoundList (url : CString) : List CString := (tokens url).flatMap spellToken

/-- INTERNAL: only the empty play string has no sounds. SOURCE: SoundListParser.cpp:15-66 -/
theorem getSoundList_eq_nil {url : CString} : getSoundList url = [] ↔ url = [] := by
  have htoken (token : CString) : spellToken token ≠ [] := by
    unfold spellToken
    dsimp only
    split
    · split
      · split
        · simp
        · rename_i hrange hneg
          unfold spellNumber
          dsimp only
          split
          · simp
          · rw [if_pos (by omega)]
            simp
      · simp
    · simp
  have htokens (token : CString) (url : CString) : tokensFrom token url ≠ [] := by
    induction url generalizing token with
    | nil => simp [tokensFrom]
    | cons c url ih =>
      unfold tokensFrom
      split
      · simp
      · exact ih _
  constructor
  · intro h
    by_contra hne
    obtain ⟨token, rest, heq⟩ := List.exists_cons_of_ne_nil (htokens [] url)
    rw [getSoundList, tokens, if_neg hne, heq, List.flatMap_cons] at h
    exact htoken token (List.append_eq_nil_iff.mp h).1
  · rintro rfl
    rfl

end SoundListParser

end Dhas.Program
