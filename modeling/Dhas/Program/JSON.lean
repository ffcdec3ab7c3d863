import Dhas.Program.CString

/-!
# JSON objects

The flat objects of strings and integers that the program builds with `Dumais::JSON`. That
library is not part of the repository: `JSONText` stands for its `stringify` and `parse`, and
`JSONText.RoundTrips` for what the program relies on. `plainText` is the usual notation, for
which this is proved.
-/

set_option autoImplicit false

namespace Dhas.Program

inductive JSONValue where
  | str (s : CString)
  | num (v : ℤ)
  deriving DecidableEq

/-- A flat JSON object, in the order in which its members were added. -/
abbrev JSON := List (String × JSONValue)

/-- `json[key].str()`; a missing member reads as `{invalid}`, here `none`. -/
def JSON.get (json : JSON) (key : String) : Option JSONValue :=
  (json.find? fun member => member.1 = key).map (·.2)

def jsonText (s : String) : JSONValue := .str s.toList

def jsonByte (v : UInt8) : JSONValue := .num v.toNat

/-- The text of a value: a number is written in decimal. -/
def JSONValue.text : JSONValue → CString
  | .str s => s
  | .num v => decimal v

/-- `json[key].str()` as text. -/
def JSON.str (json : JSON) (key : String) : CString :=
  match json.get key with
  | some v => v.text
  | none => "{invalid}".toList

/-- `stringify` and `parse` of `Dumais::JSON`. -/
structure JSONText where
  stringify : JSON → CString
  parse : CString → JSON

/-- What is read back from a text is what was written into it, strings as they are and
integers as decimal text, and the text is a C string. -/
structure JSONText.RoundTrips (text : JSONText) : Prop where
  str_parse : ∀ json key, JSON.str (text.parse (text.stringify json)) key = json.str key
  no_nul : ∀ json, Char.ofNat 0 ∉ text.stringify json

/-! ## The usual notation -/

/-- The quotation mark. -/
def quote : Char := Char.ofNat 34

/-- The backslash. -/
def backslash : Char := Char.ofNat 92

/-- Quotation marks and backslashes are escaped, and NUL is written as `0` behind a
backslash. -/
def escape (c : Char) : CString :=
  if c = quote ∨ c = backslash then [backslash, c]
  else if c = Char.ofNat 0 then [backslash, '0']
  else [c]

def unescape (c : Char) : Char := if c = '0' then Char.ofNat 0 else c

def writeString (s : CString) : CString := quote :: (s.flatMap escape ++ [quote])

/-- A string and what follows it, from behind its first quotation mark; `escaped` says that
a backslash was read last. -/
def readString (escaped : Bool) : CString → CString × CString
  | [] => ([], [])
  | c :: cs =>
    if escaped then (unescape c :: (readString false cs).1, (readString false cs).2)
    else if c = quote then ([], cs)
    else if c = backslash then readString true cs
    else (c :: (readString false cs).1, (readString false cs).2)

def writeValue : JSONValue → CString
  | .str s => writeString s
  | .num v => decimal v

/-- A value and what follows it. -/
def readValue (cs : CString) : JSONValue × CString :=
  if cs.head? = some quote then
    (.str (readString false cs.tail).1, (readString false cs.tail).2)
  else
    let r := scanNumber 10 cs
    (.num (if r.negative then -(r.magnitude : ℤ) else r.magnitude), r.rest)

def writeMember (member : String × JSONValue) : CString :=
  writeString member.1.toList ++ ':' :: writeValue member.2

/-- The members with commas between them, and the closing brace. -/
def writeMembers : JSON → CString
  | [] => [Char.ofNat 125]
  | [member] => writeMember member ++ [Char.ofNat 125]
  | member :: members => writeMember member ++ ',' :: writeMembers members

/-- The members of an object, from behind its opening brace. -/
def readMembers : ℕ → CString → JSON
  | 0, _ => []
  | fuel + 1, cs =>
    if cs.head? = some quote then
      let key := readString false cs.tail
      let value := readValue key.2.tail
      (String.ofList key.1, value.1) ::
        if value.2.head? = some ',' then readMembers fuel value.2.tail else []
    else []

/-- Objects written with quotation marks, commas and braces. -/
def plainText : JSONText where
  stringify json := Char.ofNat 123 :: writeMembers json
  parse cs := readMembers cs.length cs.tail

/-- INTERNAL: an escaped character is read as itself. -/
theorem readString_escape (c : Char) (cs : CString) :
    readString false (escape c ++ cs) =
      (c :: (readString false cs).1, (readString false cs).2) := by
  have hquote : backslash ≠ quote := by decide
  unfold escape
  split
  case isTrue h =>
    have hunescape : unescape c = c := by
      rcases h with rfl | rfl <;> decide
    simp [readString, hquote, hunescape]
  case isFalse h =>
    rw [not_or] at h
    split
    case isTrue hnul => simp [readString, hquote, hnul, unescape]
    case isFalse => simp [readString, h.1, h.2]

/-- INTERNAL: a string is read up to its closing quotation mark. -/
theorem readString_flatMap_escape (s rest : CString) :
    readString false (s.flatMap escape ++ quote :: rest) = (s, rest) := by
  induction s with
  | nil =>
    show readString false (quote :: rest) = ([], rest)
    simp [readString]
  | cons c s ih =>
    rw [List.flatMap_cons, List.append_assoc, readString_escape, ih]

/-- INTERNAL: a value is read up to a comma or a brace. -/
theorem readValue_writeValue (v : JSONValue) {c : Char} (hc : digitVal 10 c = none)
    (rest : CString) : readValue (writeValue v ++ c :: rest) = (v, c :: rest) := by
  cases v with
  | str s =>
    have hread := readString_flatMap_escape s (c :: rest)
    simp [writeValue, writeString, readValue, hread]
  | num v =>
    have hscan := scanNumber_decimal v (c :: rest) (by simpa using hc)
    have hhead : (decimal v ++ c :: rest).head? ≠ some quote := by
      obtain ⟨d, ds, hcons⟩ := List.exists_cons_of_ne_nil (decimal_ne_nil v)
      have hd : d = '-' ∨ d.isDigit := by
        apply mem_decimal (v := v)
        rw [hcons]
        exact List.mem_cons_self
      rw [hcons]
      rintro hquote
      obtain rfl : d = quote := by simpa using hquote
      exact absurd hd (by decide)
    show readValue (decimal v ++ c :: rest) = _
    unfold readValue
    simp only [if_neg hhead, hscan, decide_eq_true_eq]
    congr 2
    split <;> omega

/-- INTERNAL: the members of an object are read back. -/
theorem readMembers_writeMembers (json : JSON) {fuel : ℕ} (hfuel : json.length ≤ fuel) :
    readMembers fuel (writeMembers json) = json := by
  induction json generalizing fuel with
  | nil =>
    cases fuel with
    | zero => rfl
    | succ fuel => rfl
  | cons member members ih =>
    obtain ⟨fuel, rfl⟩ : ∃ n, fuel = n + 1 := ⟨fuel - 1, by simp at hfuel; omega⟩
    have hmembers : members.length ≤ fuel := by simpa using hfuel
    obtain ⟨key, value⟩ := member
    have hkey : ∀ rest, readString false (key.toList.flatMap escape ++ quote :: rest) =
        (key.toList, rest) := readString_flatMap_escape key.toList
    cases members with
    | nil =>
      have hvalue := readValue_writeValue value (c := Char.ofNat 125) (by decide) []
      simp [writeMembers, writeMember, writeString, readMembers, hkey, hvalue]
    | cons next members =>
      have hvalue := readValue_writeValue value (c := ',') (by decide)
        (writeMembers (next :: members))
      simp [writeMembers, writeMember, writeString, readMembers, hkey, hvalue, ih hmembers]

/-- INTERNAL: every member takes up room in the text. -/
theorem length_le_writeMembers (json : JSON) : json.length ≤ (writeMembers json).length := by
  induction json with
  | nil => exact Nat.zero_le _
  | cons member members ih =>
    cases members with
    | nil => simp [writeMembers]
    | cons next members =>
      show (next :: members).length + 1 ≤
        (writeMember member ++ ',' :: writeMembers (next :: members)).length
      simp only [List.length_append, List.length_cons] at ih ⊢
      omega

/-- INTERNAL: the plain text of a document is read back as the document. -/
theorem parse_plainText (json : JSON) : plainText.parse (plainText.stringify json) = json := by
  show readMembers ((writeMembers json).length + 1) (writeMembers json) = json
  apply readMembers_writeMembers
  exact Nat.le_succ_of_le (length_le_writeMembers json)

/-- INTERNAL: a string is written without NUL. -/
theorem nul_notMem_writeString (s : CString) : Char.ofNat 0 ∉ writeString s := by
  have hescape : ∀ c, Char.ofNat 0 ∉ escape c := by
    intro c
    unfold escape
    split
    case isTrue h => rcases h with rfl | rfl <;> decide
    case isFalse h =>
      split
      case isTrue => decide
      case isFalse hnul => simpa using fun h => hnul h.symm
  have hquote : Char.ofNat 0 ≠ quote := by decide
  simp [writeString, hescape, hquote]

/-- INTERNAL: no number is written with the letter that ends a C string. -/
theorem nul_notMem_decimal (v : ℤ) : Char.ofNat 0 ∉ decimal v := by
  intro h
  exact absurd (mem_decimal h) (by decide)

/-- INTERNAL: an object is written without NUL. -/
theorem nul_notMem_writeMembers (json : JSON) : Char.ofNat 0 ∉ writeMembers json := by
  have hmember : ∀ member, Char.ofNat 0 ∉ writeMember member := by
    rintro ⟨key, value⟩
    cases value with
    | str s => simp [writeMember, writeValue, nul_notMem_writeString]
    | num v => simp [writeMember, writeValue, nul_notMem_writeString, nul_notMem_decimal]
  induction json with
  | nil => decide
  | cons member members ih =>
    cases members with
    | nil => simp [writeMembers, hmember]
    | cons next members => simp [writeMembers, hmember, ih]

/-- **The usual notation can be read back.** -/
theorem plainText_roundTrips : plainText.RoundTrips where
  str_parse json key := by rw [parse_plainText]
  no_nul json := by
    show Char.ofNat 0 ∉ Char.ofNat 123 :: writeMembers json
    rw [List.mem_cons, not_or]
    exact ⟨by decide, nul_notMem_writeMembers json⟩

end Dhas.Program
