import Mathlib.Data.List.TakeWhile
import Dhas.Analysis.PageCuts

/-!
# The body of a page with a length

A response whose header gives the length of its body is returned whole, and without the header, if
`getURL` reads that length and waits for that many bytes. It does not when a line before has the
name of the length in it with another number, or when the words of a chunked header stand
somewhere; and an empty body counts as nothing read, so that all that came is returned for it.

`ReturnsBody` is about every way of cutting the response, `Readable` is the exact condition, and
`firstNumber` is what the pattern finds, line by line.
-/

set_option autoImplicit false

namespace Dhas.Analysis.PageBodies

open Dhas.Library Dhas.Program Dhas.Program.HTTPCommunication Dhas.Analysis.PageTexts
open Dhas.Analysis.PageCuts

/-! ## The responses -/

/-- `"\r\n"` -/
def lineEnd : CString := ['\r', '\n']

/-- A line of a header. -/
def IsLine (line : CString) : Prop :=
  line ≠ [] ∧ '\r' ∉ line ∧ '\n' ∉ line ∧ Char.ofNat 0 ∉ line

/-- A status line, header lines of which one is the length of the body, and the body. The other
lines are any. -/
structure Response where
  status : CString
  before : List CString
  /-- `Content-Length: `, in upper or lower case -/
  name : CString
  after : List CString
  body : CString
  name_eq : name.map Char.toLower = contentLengthName
  isLine_status : IsLine status
  isLine_before : ∀ line ∈ before, IsLine line
  isLine_after : ∀ line ∈ after, IsLine line
  no_nul : Char.ofNat 0 ∉ body

namespace Response

def lengthLine (r : Response) : CString := r.name ++ Nat.toDigits 10 r.body.length

def lines (r : Response) : List CString := r.status :: r.before ++ r.lengthLine :: r.after

/-- The lines, each with its end, and the blank line. -/
def header (r : Response) : CString := (r.lines.flatMap fun line => line ++ lineEnd) ++ lineEnd

def text (r : Response) : CString := r.header ++ r.body

end Response

/-- For every way of cutting the response `getURL` returns its body. -/
def ReturnsBody (r : Response) : Prop :=
  ∀ recvs, Cut r.text recvs → getURL true recvs = some r.body

/-- The digits behind the first `content-length: ` of a line, in upper or lower case. -/
def numberOf (line : CString) : Option CString :=
  (findSub contentLengthName (line.map Char.toLower)).map fun i =>
    (line.drop (i + contentLengthName.length)).takeWhile isDigit

/-- The digits in the first line that has any. -/
def firstNumber (lines : List CString) : Option CString := lines.findSome? numberOf

/-- What the header and the body must be like. -/
structure Readable (r : Response) : Prop where
  nonempty : r.body ≠ []
  /-- the first number that is found is the length, and has at most nine digits -/
  number : ∃ num, firstNumber r.lines = some num ∧ num.length < 10 ∧
    Nat.ofDigitChars 10 num 0 = r.body.length
  /-- the words of a chunked header stand nowhere -/
  unmarked : findSub transferEncoding (r.text.map Char.toLower) = none

/-! ## The loop -/

section Loop

variable {front body : CString}

/-- INTERNAL: the header's end takes four bytes. -/
theorem length_page (front body : CString) :
    (front ++ headerEnd ++ body).length = front.length + 4 + body.length := by
  rw [List.length_append, List.length_append]
  rfl

/-- INTERNAL: behind the header's end stands the body. -/
theorem drop_page (front body : CString) :
    (front ++ headerEnd ++ body).drop (front.length + 4) = body :=
  List.drop_left' (by rw [List.length_append]; rfl)

/-- INTERNAL: the last chunk is cut off within the text. SOURCE: HTTPCommunication.cpp:131-135 -/
theorem le_length_of_done {st ret : CString} {s : HTTPCommunication.Loop} {p1 : ℕ}
    (h : receive start st = .done s ret) (hp1 : findSub headerEnd st = some p1)
    (hmarked : saysChunked st = true) : p1 + 8 ≤ st.length := by
  by_contra hlt
  unfold receive at h
  simp only [start, List.nil_append, Bool.false_or, hp1, hmarked, Bool.true_eq_false, false_and,
    if_false, if_neg hlt] at h
  split at h
  case h_1 => cases h
  case h_2 =>
    split at h
    case isTrue => cases h
    case isFalse => cases h

/-- INTERNAL: the last chunk does not end at the fourth byte behind a header. -/
theorem lastChunk_ne {a behind : CString} {c : Char}
    (hsplit : a ++ [c] = front ++ headerEnd ++ behind) (hfour : behind.length = 4)
    (hnone : findSub lastChunk a = none) : findSub lastChunk (a ++ [c]) = none := by
  cases hlast : findSub lastChunk (a ++ [c]) with
  | none => rfl
  | some i =>
    have hend := findSub_append_singleton hnone hlast
    have hlength := congrArg List.length hsplit
    have hseven : lastChunk.length = 7 := rfl
    rw [length_page, hfour, List.length_append, List.length_singleton] at hlength
    obtain rfl : i = front.length + 1 := by omega
    have hzero := findSub_getElem? hlast (show 2 < lastChunk.length by decide)
    rw [hsplit, List.append_assoc, List.getElem?_append_right (by omega)] at hzero
    have hplace : front.length + 1 + 2 - front.length = 3 := by omega
    rw [hplace] at hzero
    exact absurd hzero (by simp [headerEnd, lastChunk])

variable (hfirst : findSub headerEnd (front ++ headerEnd) = some front.length)
include hfirst

/-- INTERNAL: a page that is read whole is returned without its header when it is not marked, has
no less than the length in its header, and is not empty.
SOURCE: HTTPCommunication.cpp:104-162 -/
theorem ending_eq_body_iff {n : ℕ} (hn : contentLength (front ++ headerEnd ++ body) = some n) :
    (∃ st ret, ending (receive start (front ++ headerEnd ++ body)) = some (st, ret) ∧
        returned st ret = body) ↔
      body ≠ [] ∧ n ≤ body.length ∧ saysChunked (front ++ headerEnd ++ body) = false := by
  have hp1 := findSub_append hfirst body
  have hsize := length_page front body
  have hdrop := drop_page front body
  generalize front ++ headerEnd ++ body = page at hn hp1 hsize hdrop ⊢
  have hlonger : page ≠ body := by
    rintro rfl
    omega
  have hlooks := looks_receive page
  generalize receive start page = turn at hlooks ⊢
  cases hlooks with
  | noHeader hnone =>
    rw [hp1] at hnone
    cases hnone
  | overflow _ hnone =>
    rw [hn] at hnone
    cases hnone
  | lastChunk hp1' hc hmarked hlast =>
    rw [hp1] at hp1'
    cases hp1'
    simp only [hmarked, Bool.true_eq_false, and_false, iff_false]
    rintro ⟨st, ret, hend, hret⟩
    cases hend
    have hlength : (returned page (page.drop (front.length + 8))).length = body.length :=
      congrArg List.length hret
    rw [length_returned_drop] at hlength
    split at hlength
    case isTrue => omega
    case isFalse => omega
  | outOfRange hp1' hmarked hlast hshort => simp [hmarked, ending]
  | nextChunk hp1' hc hmarked hlast => simp [hmarked, ending, returned, hlonger]
  | @enough p1 c hp1' hc hplain hle =>
    rw [hp1] at hp1'
    cases hp1'
    rw [contentLength_eq_some hc] at hn
    cases hn
    rw [hsize] at hle
    have hle' : sizeT c ≤ body.length := by omega
    simp only [hdrop, ending, hle', hplain, and_true]
    constructor
    · rintro ⟨st, ret, hend, hret⟩ hnil
      cases hend
      rw [returned, if_pos hnil] at hret
      exact hlonger hret
    · intro hbody
      exact ⟨_, _, rfl, if_neg hbody⟩
  | @tooShort p1 c hp1' hc hplain hlt =>
    rw [hp1] at hp1'
    cases hp1'
    rw [contentLength_eq_some hc] at hn
    cases hn
    rw [hsize] at hlt
    have hgt : body.length < sizeT c := by omega
    simp [ending, returned, hlonger, hgt]

/-- INTERNAL: **a page without the words of a chunked header is returned for all cuts exactly when
it is not empty, its header gives its length and the words are not in the body either.** -/
theorem returnsBody_iff_fits (hheader : saysChunked (front ++ headerEnd) = false) :
    (∀ recvs, Cut (front ++ headerEnd ++ body) recvs → getURL true recvs = some body) ↔
      body ≠ [] ∧ contentLength (front ++ headerEnd) = some body.length ∧
        saysChunked (front ++ headerEnd ++ body) = false := by
  have hp1 := findSub_append hfirst body
  have htake : (front ++ headerEnd ++ body).take (front.length + 4) = front ++ headerEnd := by
    apply List.take_left'
    rw [List.length_append]
    rfl
  have hsize := length_page front body
  have hno : NotChunked (front ++ headerEnd ++ body) := by
    intro p1' hp1'
    rw [hp1] at hp1'
    cases hp1'
    rw [htake]
    exact hheader
  constructor
  · intro hall
    obtain ⟨hgoes, hdefined⟩ := goes_of_sameForAllCuts hno ⟨body, hall⟩
    obtain ⟨n, hn, hmore⟩ := onlyWholeIsEnough_of_goes hno hgoes hdefined _ hp1
    rw [htake] at hn
    have hsame := contentLength_of_body hfirst hheader fun hbody => hgoes _ body rfl hbody
    have hcut : Cut (front ++ headerEnd ++ body) (singles (front ++ headerEnd ++ body)) :=
      ⟨flatten_singles _, fun _ hbuf => mem_singles hbuf⟩
    have hrun := getURL_eq_some_iff.mp (hall _ hcut)
    rw [receiveAll_eq_ending hgoes hcut] at hrun
    obtain ⟨hbody, hle, hplain⟩ := (ending_eq_body_iff hfirst (hsame.trans hn)).mp hrun
    have hpos := List.length_pos_iff.mpr hbody
    -- the text without its last byte is not enough
    have hlast := hmore (front.length + 4 + (body.length - 1)) (by omega) (by omega)
    have hunmarked : ¬ saysChunked ((front ++ headerEnd ++ body).take
        (front.length + 4 + (body.length - 1))) = true := by
      intro hmarked
      have hwhole := saysChunked_append hmarked ((front ++ headerEnd ++ body).drop
        (front.length + 4 + (body.length - 1)))
      rw [List.take_append_drop, hplain] at hwhole
      cases hwhole
    rw [if_neg hunmarked] at hlast
    refine ⟨hbody, ?_, hplain⟩
    rw [hn]
    congr 1
    omega
  · rintro ⟨hbody, hn, hplain⟩ recvs hcut
    have henough := onlyWholeIsEnough_of_length hp1 hplain (htake.symm ▸ hn) (Nat.le_of_eq hsize)
    obtain ⟨hgoes, -⟩ := goes_of_onlyWholeIsEnough hno henough
    have hsame := contentLength_of_body hfirst hheader fun hbody => hgoes _ body rfl hbody
    apply getURL_eq_some_iff.mpr
    rw [receiveAll_eq_ending hgoes hcut]
    exact (ending_eq_body_iff hfirst (hsame.trans hn)).mpr ⟨hbody, Nat.le_refl _, hplain⟩

/-- INTERNAL: where a text on the way is split. -/
theorem split_of_findSub {a b : CString} (hpage : front ++ headerEnd ++ body = a ++ b) {p1 : ℕ}
    (hp1 : findSub headerEnd a = some p1) :
    p1 = front.length ∧ ∃ behind, a = front ++ headerEnd ++ behind ∧ body = behind ++ b := by
  have hfound := findSub_append hfirst body
  rw [hpage, findSub_append hp1 b] at hfound
  obtain rfl : p1 = front.length := Option.some.inj hfound
  obtain ⟨header, behind, rfl, hlength, -, -⟩ := exists_header hp1
  rw [List.append_assoc, List.append_assoc, List.append_assoc] at hpage
  obtain ⟨rfl, hrest⟩ := List.append_inj hpage hlength.symm
  exact ⟨rfl, behind, rfl, List.append_cancel_left hrest⟩

/-- INTERNAL: a page with the words of a chunked header in its header is not returned for a cut into
single bytes. -/
theorem not_returns_of_marked (hheader : saysChunked (front ++ headerEnd) = true) :
    ¬ ∀ recvs, Cut (front ++ headerEnd ++ body) recvs → getURL true recvs = some body := by
  intro hall
  have hcut : Cut (front ++ headerEnd ++ body) (singles (front ++ headerEnd ++ body)) :=
    ⟨flatten_singles _, fun _ hbuf => mem_singles hbuf⟩
  obtain ⟨st, ret, hrun, hret⟩ := getURL_eq_some_iff.mp (hall _ hcut)
  have hstart : receive start [] = .next start := rfl
  have hsize := length_page front body
  rcases receiveAll_singles hstart (front ++ headerEnd ++ body) with
    ⟨-, hend⟩ | ⟨a, c, b, hpage, hgoes, hstop, hend⟩
  · rw [hend] at hrun
    cases hrun
    rw [List.nil_append, returned, if_pos rfl] at hret
    rw [hret] at hsize
    omega
  · rw [List.nil_append] at hstop hend
    rw [hend] at hrun
    cases hturn : receive start (a ++ [c]) with
    | next s => exact hstop ⟨s, hturn⟩
    | undefined =>
      rw [hturn] at hrun
      cases hrun
    | done s ret' =>
      obtain ⟨hst, p1, n, hp1, -, hcase⟩ := of_receive_done hturn
      have hpage' : front ++ headerEnd ++ body = a ++ [c] ++ b := by
        rw [hpage, List.append_assoc, List.singleton_append]
      obtain ⟨rfl, behind, hsplit, rfl⟩ := split_of_findSub hfirst hpage' hp1
      have hmarked : saysChunked (a ++ [c]) = true := hsplit ▸ saysChunked_append hheader behind
      rcases hcase with ⟨-, hlast, rfl⟩ | ⟨hplain, -, -⟩
      · have hle := le_length_of_done hturn hp1 hmarked
        rw [hturn] at hrun
        cases hrun
        have hlength := congrArg List.length hret
        have hsplit' := congrArg List.length hsplit
        have hbody : (behind ++ b).length = behind.length + b.length := List.length_append
        rw [hst, length_returned_drop] at hlength
        rw [length_page] at hsplit'
        have hfour : behind.length = 4 := by
          split at hlength
          case isTrue => omega
          case isFalse => omega
        -- the text without its last byte was marked as well, and had no last chunk
        obtain ⟨rest, d, rfl⟩ : ∃ rest d, behind = rest ++ [d] :=
          ⟨behind.dropLast, behind.getLast (by grind), (List.dropLast_concat_getLast _).symm⟩
        have hinit := hsplit
        rw [← List.append_assoc] at hinit
        obtain ⟨rfl, -⟩ := List.append_inj' hinit rfl
        have hgo := hgoes (front ++ headerEnd ++ rest) [] (List.append_nil _).symm
        rw [List.nil_append] at hgo
        obtain ⟨m, -, hnone⟩ := goes_iff.mp hgo _ (findSub_append hfirst rest)
        rw [if_pos (saysChunked_append hheader rest)] at hnone
        exact hlast (lastChunk_ne hsplit hfour hnone)
      · rw [hmarked] at hplain
        cases hplain

end Loop

/-! ## The header -/

section Header

/-- INTERNAL: a header does not end within a line. -/
theorem length_le_of_headerEnd {line : CString} (hline : '\r' ∉ line) (t before after : CString)
    (h : line ++ t = before ++ headerEnd ++ after) : line.length ≤ before.length := by
  by_contra hlt
  have hat : (line ++ t)[before.length]? = some '\r' := by
    rw [h, List.append_assoc, List.getElem?_append_right (Nat.le_refl _), Nat.sub_self]
    rfl
  rw [List.getElem?_append_left (by omega)] at hat
  exact hline (List.mem_of_getElem? hat)

/-- INTERNAL: nor at the end of a line that another one follows. -/
theorem length_le_of_lineEnd {t : CString} (ht : t.head? ≠ some '\r') (before after : CString)
    (h : lineEnd ++ t = before ++ headerEnd ++ after) : lineEnd.length ≤ before.length := by
  match before with
  | [] =>
    have htail : t = '\r' :: '\n' :: after := (List.cons.inj (List.cons.inj h).2).2
    rw [htail] at ht
    exact absurd rfl ht
  | [c] =>
    have hfeed : '\n' = '\r' := (List.cons.inj (List.cons.inj h).2).1
    exact absurd hfeed (by decide)
  | c :: d :: before => exact Nat.le_add_left 2 before.length

/-- INTERNAL: **the blank line behind the last line is the first one.** -/
theorem findSub_headerEnd {lines : List CString} (hlines : ∀ line ∈ lines, IsLine line)
    (hne : lines ≠ []) :
    ∃ front, (lines.flatMap fun line => line ++ lineEnd) ++ lineEnd = front ++ headerEnd ∧
      findSub headerEnd (front ++ headerEnd) = some front.length := by
  induction lines with
  | nil => exact absurd rfl hne
  | cons line lines ih =>
    obtain ⟨hline, hrest⟩ := List.forall_mem_cons.mp hlines
    cases lines with
    | nil =>
      refine ⟨line, ?_, ?_⟩
      · rw [List.flatMap_cons, List.flatMap_nil, List.append_nil, List.append_assoc]
        rfl
      · have hself : findSub headerEnd headerEnd = some 0 := by decide
        rw [findSub_append_left (length_le_of_headerEnd hline.2.1 _), hself]
        rfl
    | cons next lines =>
      obtain ⟨front, hfront, hfirst⟩ := ih hrest (List.cons_ne_nil _ _)
      refine ⟨line ++ lineEnd ++ front, ?_, ?_⟩
      · rw [List.flatMap_cons, List.append_assoc, hfront, List.append_assoc (line ++ lineEnd)]
      · have hhead : (front ++ headerEnd).head? ≠ some '\r' := by
          obtain ⟨hnext, hcr, -⟩ := hrest next List.mem_cons_self
          obtain ⟨c, cs, rfl⟩ := List.exists_cons_of_ne_nil hnext
          rw [← hfront]
          intro hc
          obtain rfl : c = '\r' := Option.some.inj hc
          exact hcr List.mem_cons_self
        rw [List.append_assoc, List.append_assoc,
          findSub_append_left (length_le_of_headerEnd hline.2.1 _),
          findSub_append_left (length_le_of_lineEnd hhead), hfirst]
        simp

/-- INTERNAL: a character that is in no name and is no digit parts the numbers before it from those
behind. -/
theorem numberOf_append_cons {c : Char} (hname : c.toLower ∉ contentLengthName)
    (hdigit : isDigit c = false) (s t : CString) :
    numberOf (s ++ c :: t) = (numberOf s).or (numberOf t) := by
  unfold numberOf
  rw [List.map_append, List.map_cons]
  cases hfind : findSub contentLengthName (s.map Char.toLower) with
  | none =>
    rw [findSub_append_cons hfind hname, Option.map_none, Option.none_or, Option.map_map,
      List.length_map]
    congr 1
    funext i
    have hdrop : (s ++ c :: t).drop (s.length + 1 + i + contentLengthName.length) =
        t.drop (i + contentLengthName.length) := by
      rw [Nat.add_assoc, ← List.drop_drop]
      congr 1
      have hsplit : s ++ c :: t = (s ++ [c]) ++ t := by simp
      rw [hsplit, List.drop_left' (by simp)]
    exact congrArg (List.takeWhile isDigit) hdrop
  | some i =>
    have hle := findSub_le hfind
    rw [List.length_map] at hle
    rw [findSub_append hfind, Option.map_some, Option.map_some, Option.some_or,
      List.drop_append_of_le_length hle, takeWhile_isDigit_append hdigit]

/-- INTERNAL: **the first number of a header is that of the first line that has one.** -/
theorem numberOf_lines (lines : List CString) :
    numberOf ((lines.flatMap fun line => line ++ lineEnd) ++ lineEnd) = firstNumber lines := by
  have hcr (s t : CString) : numberOf (s ++ '\r' :: t) = (numberOf s).or (numberOf t) :=
    numberOf_append_cons (by decide) (by decide) s t
  have hlf (s t : CString) : numberOf (s ++ '\n' :: t) = (numberOf s).or (numberOf t) :=
    numberOf_append_cons (by decide) (by decide) s t
  have hnil : numberOf [] = none := by decide
  have hend (s t : CString) : numberOf (s ++ (lineEnd ++ t)) = (numberOf s).or (numberOf t) := by
    have htail := hlf [] t
    rw [hnil, Option.none_or, List.nil_append] at htail
    show numberOf (s ++ '\r' :: '\n' :: t) = _
    rw [hcr, htail]
  induction lines with
  | nil =>
    have hblank := hend [] []
    rw [hnil, List.append_nil, List.nil_append] at hblank
    exact hblank
  | cons line lines ih =>
    rw [List.flatMap_cons, List.append_assoc, List.append_assoc, hend, ih]
    unfold firstNumber
    rw [List.findSome?_cons]
    cases numberOf line with
    | none => rfl
    | some num => rfl

/-- INTERNAL: a number of so many digits is below that power of ten. -/
theorem ofDigitChars_lt (digits : CString) (hdigits : ∀ c ∈ digits, c.isDigit) (acc : ℕ) :
    Nat.ofDigitChars 10 digits acc < (acc + 1) * 10 ^ digits.length := by
  induction digits generalizing acc with
  | nil => simp
  | cons c digits ih =>
    obtain ⟨hc, hdigits⟩ := List.forall_mem_cons.mp hdigits
    have hnine : c.toNat - '0'.toNat ≤ 9 := by
      have hle : c.toNat ≤ 57 := by
        simp only [Char.isDigit, Bool.and_eq_true, decide_eq_true_eq] at hc
        exact hc.2
      show c.toNat - 48 ≤ 9
      omega
    rw [Nat.ofDigitChars_cons, List.length_cons, Nat.pow_succ]
    calc Nat.ofDigitChars 10 digits (10 * acc + (c.toNat - '0'.toNat))
        < (10 * acc + (c.toNat - '0'.toNat) + 1) * 10 ^ digits.length := ih hdigits _
      _ ≤ ((acc + 1) * 10) * 10 ^ digits.length := Nat.mul_le_mul_right _ (by omega)
      _ = (acc + 1) * (10 ^ digits.length * 10) := by rw [Nat.mul_assoc, Nat.mul_comm 10]

/-- INTERNAL: a number of at most nine digits is read as it is. -/
theorem sizeT_atoi {num : CString} (hdigits : ∀ c ∈ num, c.isDigit) (hlt : num.length < 10) :
    sizeT (atoi num) = Nat.ofDigitChars 10 num 0 := by
  cases num with
  | nil => decide
  | cons c cs =>
    have hscan : scanNumber 10 (c :: cs ++ []) =
        ⟨false, Nat.ofDigitChars 10 (c :: cs) 0, true, []⟩ :=
      scanNumber_digits (List.cons_ne_nil c cs) hdigits (by simp)
    have hbound := ofDigitChars_lt (c :: cs) hdigits 0
    have hpow : 10 ^ (c :: cs).length ≤ 10 ^ 9 := Nat.pow_le_pow_right (by omega) (by omega)
    rw [List.append_nil] at hscan
    generalize Nat.ofDigitChars 10 (c :: cs) 0 = v at hscan hbound
    have hv : v < 10 ^ 9 := by omega
    have hstrtol : (strtol 10 (c :: cs)).1 = v := by
      unfold strtol
      have hmax : ((LONG_MAX : ℕ) : ℤ) = 2 ^ 63 - 1 := by decide
      simp only [hscan, Bool.false_eq_true, if_false, hmax]
      omega
    unfold atoi sizeT
    rw [hstrtol, toInt_eq_self (by omega) (by omega)]
    omega

/-- INTERNAL: a text without the letter that ends a C string is read whole. -/
theorem cString_eq_self {st : CString} (hst : Char.ofNat 0 ∉ st) : cString st = st := by
  apply List.takeWhile_eq_self_iff.mpr
  intro c hc
  exact decide_eq_true fun hzero => hst (hzero ▸ hc)

/-- INTERNAL: the length that is read in a text without NUL. -/
theorem contentLength_eq_iff {st num : CString} (hst : Char.ofNat 0 ∉ st)
    (hnum : numberOf st = some num) (n : ℕ) :
    contentLength st = some n ↔ num.length < 10 ∧ Nat.ofDigitChars 10 num 0 = n := by
  have htext : contentLengthText st = some num := by
    unfold contentLengthText
    rw [cString_eq_self hst]
    exact hnum
  have hdigits : ∀ c ∈ num, c.isDigit := by
    obtain ⟨i, -, rfl⟩ := Option.map_eq_some_iff.mp hnum
    intro c hc
    exact isDigit_iff.mp (List.mem_takeWhile_imp hc)
  unfold contentLength newContentLength
  simp only [htext]
  by_cases hlt : num.length < 10
  · rw [if_pos hlt, Option.map_some, sizeT_atoi hdigits hlt]
    simp [hlt]
  · rw [if_neg hlt]
    simp [hlt]

end Header

/-! ## The body -/

section Body

/-- INTERNAL: the line with the length is a line. -/
theorem isLine_lengthLine (r : Response) : IsLine r.lengthLine := by
  have hnot {c : Char} (hname : c.toLower ∉ contentLengthName) (hdigit : ¬ c.isDigit) :
      c ∉ r.lengthLine := by
    intro hc
    rcases List.mem_append.mp hc with hc | hc
    · apply hname
      rw [← r.name_eq]
      exact List.mem_map_of_mem hc
    · exact hdigit (isDigit_of_mem_toDigits hc)
  refine ⟨?_, hnot (by decide) (by decide), hnot (by decide) (by decide),
    hnot (by decide) (by decide)⟩
  intro hnil
  exact Nat.toDigits_ne_nil (List.append_eq_nil_iff.mp hnil).2

/-- INTERNAL: the header is written in lines. -/
theorem isLine_lines (r : Response) : ∀ line ∈ r.lines, IsLine line := by
  intro line hline
  unfold Response.lines at hline
  rcases List.mem_append.mp hline with hfront | hback
  · rcases List.mem_cons.mp hfront with rfl | hbefore
    · exact r.isLine_status
    · exact r.isLine_before line hbefore
  · rcases List.mem_cons.mp hback with rfl | hafter
    · exact isLine_lengthLine r
    · exact r.isLine_after line hafter

/-- INTERNAL: no header has the letter that ends a C string. -/
theorem nul_notMem_header (r : Response) : Char.ofNat 0 ∉ r.header := by
  have hend : Char.ofNat 0 ∉ lineEnd := by decide
  unfold Response.header
  rw [List.mem_append, not_or]
  refine ⟨fun hmem => ?_, hend⟩
  obtain ⟨line, hline, hc⟩ := List.mem_flatMap.mp hmem
  rcases List.mem_append.mp hc with hc | hc
  · exact (isLine_lines r line hline).2.2.2 hc
  · exact hend hc

/-- INTERNAL: the line with the length has its number. -/
theorem exists_firstNumber (r : Response) : ∃ num, firstNumber r.lines = some num := by
  have hname : findSub contentLengthName (r.lengthLine.map Char.toLower) ≠ none := by
    intro hnone
    apply findSub_eq_none_iff.mp hnone [] ((Nat.toDigits 10 r.body.length).map Char.toLower)
    unfold Response.lengthLine
    rw [List.map_append, r.name_eq, List.nil_append]
  obtain ⟨i, hi⟩ := Option.ne_none_iff_exists'.mp hname
  have hsome : (firstNumber r.lines).isSome := by
    apply List.findSome?_isSome_iff.mpr
    refine ⟨r.lengthLine, ?_, ?_⟩
    · simp [Response.lines]
    · unfold numberOf
      rw [hi]
      rfl
  exact Option.isSome_iff_exists.mp hsome

/-- **The body is returned for all cuts exactly when it is not empty, the number that is found in
the header is its length, and the words of a chunked header stand nowhere.** The other lines of
the header are any, and the body is any without NUL.
SOURCE: HTTPCommunication.cpp:67-168 -/
theorem returnsBody_iff (r : Response) : ReturnsBody r ↔ Readable r := by
  obtain ⟨front, hfront, hfirst⟩ := findSub_headerEnd (isLine_lines r) (by simp [Response.lines])
  have hheader : r.header = front ++ headerEnd := hfront
  obtain ⟨num, hnum⟩ := exists_firstNumber r
  have hlength := contentLength_eq_iff (nul_notMem_header r)
    ((numberOf_lines r.lines).trans hnum) r.body.length
  have hnul : Char.ofNat 0 ∉ r.text := by
    unfold Response.text
    rw [List.mem_append, not_or]
    exact ⟨nul_notMem_header r, r.no_nul⟩
  have htext : saysChunked r.text = false ↔
      findSub transferEncoding (r.text.map Char.toLower) = none := by
    unfold saysChunked
    rw [cString_eq_self hnul, Option.isSome_eq_false_iff, Option.isNone_iff_eq_none]
  have hreadable : Readable r ↔
      r.body ≠ [] ∧ contentLength r.header = some r.body.length ∧ saysChunked r.text = false := by
    rw [hlength, htext]
    constructor
    · rintro ⟨hbody, ⟨num', hnum', hvalue⟩, hunmarked⟩
      rw [hnum] at hnum'
      cases hnum'
      exact ⟨hbody, hvalue, hunmarked⟩
    · rintro ⟨hbody, hvalue, hunmarked⟩
      exact ⟨hbody, ⟨num, hnum, hvalue⟩, hunmarked⟩
  unfold ReturnsBody
  rw [hreadable]
  unfold Response.text
  rw [hheader]
  by_cases hmarked : saysChunked (front ++ headerEnd) = true
  · have hmore := saysChunked_append hmarked r.body
    simp only [hmore, Bool.true_eq_false, and_false, iff_false]
    exact not_returns_of_marked hfirst hmarked
  · exact returnsBody_iff_fits hfirst (Bool.eq_false_of_not_eq_true hmarked)

/-- A response without a body. -/
def emptyResponse : Response where
  status := "HTTP/1.1 200 OK".toList
  before := []
  name := "Content-Length: ".toList
  after := ["Connection: close".toList]
  body := []
  name_eq := by decide
  isLine_status := by unfold IsLine; decide
  isLine_before := by simp
  isLine_after := by unfold IsLine; decide
  no_nul := by simp

/-- **A response without a body is returned with its header.** -/
theorem emptyResponse_not_returned : ¬ ReturnsBody emptyResponse := by
  intro hreturns
  have hcut : Cut emptyResponse.text [emptyResponse.text] := by
    unfold Cut
    decide
  have hwhole : getURL true [emptyResponse.text] = some emptyResponse.text := by decide +kernel
  rw [hreturns _ hcut] at hwhole
  exact absurd hwhole (by decide)

end Body

end Dhas.Analysis.PageBodies
