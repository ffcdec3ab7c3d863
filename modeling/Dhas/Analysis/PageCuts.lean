import Dhas.Analysis.PageTexts

/-!
# A page and the packets that bring it

`getURL` looks for the end of the page after every `recv`, and takes all that came behind the
header for the page. So what it returns does not depend on the packets exactly when no packet can
end before the page does and still be enough for the loop to end. A header without a length counts
as one of length 0, and one of ten digits overflows `num[10]`.
-/

set_option autoImplicit false

namespace Dhas.Analysis.PageCuts

open Dhas.Library Dhas.Program Dhas.Program.HTTPCommunication Dhas.Analysis.PageTexts

/-- The results of `recv`, at most 1023 bytes each, make up what the server sends. -/
def Cut (page : CString) (recvs : List CString) : Prop :=
  recvs.flatten = page ∧ ∀ buf ∈ recvs, buf ≠ [] ∧ buf.length ≤ 1023

/-- `getURL` returns the same string for all ways of cutting. -/
def SameForAllCuts (page : CString) : Prop :=
  ∃ r, ∀ recvs, Cut page recvs → getURL true recvs = some r

/-- The header does not say that the page is chunked. -/
def NotChunked (page : CString) : Prop :=
  ∀ p1, findSub headerEnd page = some p1 → saysChunked (page.take (p1 + 4)) = false

/-- The length that `getURL` finds in a text; 0 when there is none, and `none` when the number
does not fit `num[10]`. -/
def contentLength (st : CString) : Option ℕ := (newContentLength st 0).map sizeT

/-- The header, if it ends, gives a length `n`, and no beginning of the page has `n` bytes behind
the header. A beginning that has the words of a chunked header behind its header is not measured,
but it must not have the last chunk. -/
def OnlyWholeIsEnough (page : CString) : Prop :=
  ∀ p1, findSub headerEnd page = some p1 →
    ∃ n, contentLength (page.take (p1 + 4)) = some n ∧
      ∀ m, p1 + 4 ≤ m → m < page.length →
        if saysChunked (page.take m) = true then findSub lastChunk (page.take m) = none
        else m - p1 - 4 < n

/-! ## A turn of the loop -/

section Turns

/-- The variables before the first `recv`. -/
def start : Loop := ⟨[], false, 0⟩

variable {st ret : CString} {s : Loop}

/-- What a turn does with a text that came in one piece. -/
inductive Looks (st : CString) : Turn → Prop where
  | noHeader (hnone : findSub headerEnd st = none) : Looks st (.next ⟨st, false, 0⟩)
  | overflow {p1 : ℕ} (hp1 : findSub headerEnd st = some p1) (hn : contentLength st = none) :
    Looks st .undefined
  | lastChunk {p1 : ℕ} {c : ℤ} (hp1 : findSub headerEnd st = some p1)
    (hc : newContentLength st 0 = some c) (hmarked : saysChunked st = true)
    (hlast : findSub lastChunk st ≠ none) : Looks st (.done ⟨st, true, c⟩ (st.drop (p1 + 8)))
  | outOfRange {p1 : ℕ} (hp1 : findSub headerEnd st = some p1) (hmarked : saysChunked st = true)
    (hlast : findSub lastChunk st ≠ none) (hshort : st.length < p1 + 8) : Looks st .undefined
  | nextChunk {p1 : ℕ} {c : ℤ} (hp1 : findSub headerEnd st = some p1)
    (hc : newContentLength st 0 = some c) (hmarked : saysChunked st = true)
    (hlast : findSub lastChunk st = none) : Looks st (.next ⟨st, true, c⟩)
  | enough {p1 : ℕ} {c : ℤ} (hp1 : findSub headerEnd st = some p1)
    (hc : newContentLength st 0 = some c) (hplain : saysChunked st = false)
    (hle : sizeT c ≤ st.length - p1 - 4) : Looks st (.done ⟨st, false, c⟩ (st.drop (p1 + 4)))
  | tooShort {p1 : ℕ} {c : ℤ} (hp1 : findSub headerEnd st = some p1)
    (hc : newContentLength st 0 = some c) (hplain : saysChunked st = false)
    (hlt : st.length - p1 - 4 < sizeT c) : Looks st (.next ⟨st, false, c⟩)

/-- INTERNAL: the length that is found is the number, as a `size_t`. -/
theorem contentLength_eq_some {c : ℤ} (hc : newContentLength st 0 = some c) :
    contentLength st = some (sizeT c) := by
  unfold contentLength
  rw [hc]
  rfl

/-- INTERNAL: a first turn. SOURCE: HTTPCommunication.cpp:107-147 -/
theorem looks_receive (st : CString) : Looks st (receive start st) := by
  unfold receive
  simp only [start, List.nil_append, Bool.false_or]
  cases hp1 : findSub headerEnd st with
  | none => exact .noHeader hp1
  | some p1 =>
    cases hc : newContentLength st 0 with
    | none =>
      refine .overflow hp1 ?_
      unfold contentLength
      rw [hc]
      rfl
    | some c =>
      cases hmarked : saysChunked st with
      | true =>
        cases hlast : findSub lastChunk st with
        | none =>
          simp only [Option.isSome_none, Bool.false_eq_true, false_and, Bool.true_eq_false, if_false]
          exact .nextChunk hp1 hc hmarked hlast
        | some i =>
          have hsome : findSub lastChunk st ≠ none := Option.ne_none_iff_exists'.mpr ⟨i, hlast⟩
          simp only [Option.isSome_some, and_self, if_true]
          by_cases hle : p1 + 8 ≤ st.length
          · rw [if_pos hle]
            exact .lastChunk hp1 hc hmarked hsome
          · rw [if_neg hle]
            exact .outOfRange hp1 hmarked hsome (Nat.lt_of_not_le hle)
      | false =>
        simp only [Bool.false_eq_true, and_false, true_and, if_false]
        by_cases hle : sizeT c ≤ st.length - p1 - 4
        · rw [if_pos hle]
          exact .enough hp1 hc hmarked hle
        · rw [if_neg hle]
          exact .tooShort hp1 hc hmarked (Nat.lt_of_not_le hle)

/-- The loop goes on after this text. -/
def Goes (st : CString) : Prop :=
  ∃ s, receive start st = .next s

/-- INTERNAL: **when the loop goes on after a text**: the header has not ended, or it gives a length
and the body is shorter. -/
theorem goes_iff :
    Goes st ↔ ∀ p1, findSub headerEnd st = some p1 → ∃ n, contentLength st = some n ∧
      if saysChunked st = true then findSub lastChunk st = none else st.length - p1 - 4 < n := by
  unfold Goes
  have hlooks := looks_receive st
  generalize receive start st = turn at hlooks
  constructor
  · rintro ⟨s, rfl⟩ p1 hp1
    cases hlooks with
    | noHeader hnone =>
      rw [hnone] at hp1
      cases hp1
    | nextChunk hp1' hc hmarked hlast =>
      refine ⟨_, contentLength_eq_some hc, ?_⟩
      rw [if_pos hmarked]
      exact hlast
    | tooShort hp1' hc hplain hlt =>
      rw [hp1] at hp1'
      cases hp1'
      refine ⟨_, contentLength_eq_some hc, ?_⟩
      rw [hplain, if_neg Bool.false_ne_true]
      exact hlt
  · intro h
    cases hlooks with
    | noHeader | nextChunk | tooShort => exact ⟨_, rfl⟩
    | overflow hp1 hnone =>
      obtain ⟨n, hn, -⟩ := h _ hp1
      rw [hnone] at hn
      cases hn
    | lastChunk hp1 _ hmarked hlast | outOfRange hp1 hmarked hlast _ =>
      obtain ⟨n, -, hgo⟩ := h _ hp1
      rw [if_pos hmarked] at hgo
      exact absurd hgo hlast
    | enough hp1 hc hplain hle =>
      obtain ⟨n, hn, hgo⟩ := h _ hp1
      rw [contentLength_eq_some hc] at hn
      cases hn
      rw [hplain, if_neg Bool.false_ne_true] at hgo
      exact absurd hle (Nat.not_le.mpr hgo)

/-- INTERNAL: what the loop ends with. -/
theorem of_receive_done (h : receive start st = .done s ret) :
    s.st = st ∧ ∃ p1 n, findSub headerEnd st = some p1 ∧ contentLength st = some n ∧
      ((saysChunked st = true ∧ findSub lastChunk st ≠ none ∧ ret = st.drop (p1 + 8)) ∨
        (saysChunked st = false ∧ n ≤ st.length - p1 - 4 ∧ ret = st.drop (p1 + 4))) := by
  have hlooks := looks_receive st
  rw [h] at hlooks
  cases hlooks with
  | lastChunk hp1 hc hmarked hlast =>
    exact ⟨rfl, _, _, hp1, contentLength_eq_some hc, Or.inl ⟨hmarked, hlast, rfl⟩⟩
  | enough hp1 hc hplain hle =>
    exact ⟨rfl, _, _, hp1, contentLength_eq_some hc, Or.inr ⟨hplain, hle, rfl⟩⟩

/-- INTERNAL: when the behaviour is undefined. -/
theorem of_receive_undefined (h : receive start st = .undefined) :
    ∃ p1, findSub headerEnd st = some p1 ∧
      (contentLength st = none ∨ (saysChunked st = true ∧ st.length < p1 + 8)) := by
  have hlooks := looks_receive st
  rw [h] at hlooks
  cases hlooks with
  | overflow hp1 hnone => exact ⟨_, hp1, Or.inl hnone⟩
  | outOfRange hp1 hmarked _ hshort => exact ⟨_, hp1, Or.inr ⟨hmarked, hshort⟩⟩

/-- INTERNAL: the variables after a text with a header give what the text gives. -/
theorem receive_marked {p1 : ℕ} {c : ℤ} (hp1 : findSub headerEnd st = some p1)
    (hc : newContentLength st 0 = some c) (buf : CString) :
    receive ⟨st, saysChunked st, c⟩ buf = receive start (st ++ buf) := by
  have hchunked : (saysChunked st || saysChunked (st ++ buf)) = saysChunked (st ++ buf) := by
    cases hold : saysChunked st with
    | true => rw [saysChunked_append hold, Bool.or_true]
    | false => rw [Bool.false_or]
  have hlength : newContentLength (st ++ buf) c = newContentLength (st ++ buf) 0 := by
    unfold newContentLength at hc ⊢
    cases htext : contentLengthText (st ++ buf) with
    | some num => rfl
    | none =>
      rw [contentLengthText_of_append htext] at hc
      exact hc.symm
  unfold receive
  simp only [start, List.nil_append, Bool.false_or, findSub_append hp1 buf, hchunked, hlength]

/-- INTERNAL: a turn does what it would do if all had come in one piece.
SOURCE: HTTPCommunication.cpp:107-147 -/
theorem receive_next (h : receive start st = .next s) :
    s.st = st ∧ ∀ buf, receive s buf = receive start (st ++ buf) := by
  have hlooks := looks_receive st
  rw [h] at hlooks
  cases hlooks with
  | noHeader => exact ⟨rfl, fun buf => rfl⟩
  | nextChunk hp1 hc hmarked hlast =>
    refine ⟨rfl, fun buf => ?_⟩
    rw [← receive_marked hp1 hc buf, hmarked]
  | tooShort hp1 hc hplain hlt =>
    refine ⟨rfl, fun buf => ?_⟩
    rw [← receive_marked hp1 hc buf, hplain]

end Turns

/-! ## The loop -/

section Runs

variable {st page : CString} {s : Loop}

/-- INTERNAL: the loop goes on while it goes on after every text on the way. -/
theorem receiveAll_append {recvs : List CString} (rest : List CString)
    (h : receive start st = .next s)
    (hgoes : ∀ a b, recvs = a ++ b → Goes (st ++ a.flatten)) :
    ∃ s', receive start (st ++ recvs.flatten) = .next s' ∧
      receiveAll s (recvs ++ rest) = receiveAll s' rest := by
  induction recvs generalizing st s with
  | nil =>
    refine ⟨s, ?_, rfl⟩
    rw [List.flatten_nil, List.append_nil]
    exact h
  | cons buf recvs ih =>
    obtain ⟨next, hnext⟩ := hgoes [buf] recvs rfl
    rw [List.flatten_singleton] at hnext
    obtain ⟨s', hs', hrun⟩ := ih hnext (by
      intro a b hab
      rw [List.append_assoc, ← List.flatten_cons]
      apply hgoes (buf :: a) b
      rw [hab, List.cons_append])
    refine ⟨s', ?_, ?_⟩
    · rw [List.flatten_cons, ← List.append_assoc]
      exact hs'
    · rw [List.cons_append, receiveAll, (receive_next h).2, hnext]
      exact hrun

/-- One byte in each packet. -/
def singles (s : CString) : List CString := s.map fun c => [c]

/-- INTERNAL: the single bytes make up the text. -/
theorem flatten_singles (s : CString) : (singles s).flatten = s := by
  induction s with
  | nil => rfl
  | cons c s ih =>
    show [c] ++ (singles s).flatten = c :: s
    rw [ih]
    rfl

/-- INTERNAL: a single byte is a chunk that one read can bring. -/
theorem mem_singles {s buf : CString} (h : buf ∈ singles s) : buf ≠ [] ∧ buf.length ≤ 1023 := by
  obtain ⟨c, -, rfl⟩ := List.mem_map.mp h
  exact ⟨List.cons_ne_nil c [], Nat.succ_le_succ (Nat.zero_le _)⟩

/-- INTERNAL: the beginnings of `singles`. -/
theorem goes_of_singles {more : CString} (hgoes : ∀ a b, more = a ++ b → Goes (st ++ a)) :
    ∀ a b, singles more = a ++ b → Goes (st ++ a.flatten) := by
  intro a b hab
  obtain ⟨a', b', hmore, rfl, -⟩ := List.map_eq_append_iff.mp hab
  have hflat : (a'.map fun c => [c]).flatten = a' := flatten_singles a'
  rw [hflat]
  exact hgoes a' b' hmore

/-- What the loop ends with after a text that ends it. -/
def ending : Turn → Option (CString × CString)
  | .next s => some (s.st, [])
  | .done s ret => some (s.st, ret)
  | .undefined => none

/-- INTERNAL: a chunk that ends the loop is the last one. -/
theorem receiveAll_cons (s : Loop) (buf : CString) (rest : List CString)
    (h : (∃ s', receive s buf = .next s') → rest = []) :
    receiveAll s (buf :: rest) = ending (receive s buf) := by
  rw [receiveAll]
  cases hrun : receive s buf with
  | next s' =>
    rw [h ⟨s', hrun⟩]
    rfl
  | done s' ret => rfl
  | undefined => rfl

/-- INTERNAL: with one byte in each packet no text on the way is missed. -/
theorem receiveAll_singles (h : receive start st = .next s) (more : CString) :
    ((∀ a b, more = a ++ b → Goes (st ++ a)) ∧
        receiveAll s (singles more) = some (st ++ more, [])) ∨
      ∃ a c b, more = a ++ c :: b ∧ (∀ a1 a2, a = a1 ++ a2 → Goes (st ++ a1)) ∧
        ¬ Goes (st ++ a ++ [c]) ∧
        receiveAll s (singles more) = ending (receive start (st ++ a ++ [c])) := by
  induction more generalizing st s with
  | nil =>
    refine Or.inl ⟨fun a b hab => ?_, ?_⟩
    · rw [(List.append_eq_nil_iff.mp hab.symm).1, List.append_nil]
      exact ⟨s, h⟩
    · show some (s.st, []) = _
      rw [(receive_next h).1, List.append_nil]
  | cons c more ih =>
    have hturn := (receive_next h).2 [c]
    by_cases hgoes : Goes (st ++ [c])
    · obtain ⟨s', hs'⟩ := hgoes
      have hrun : receiveAll s (singles (c :: more)) = receiveAll s' (singles more) := by
        show receiveAll s ([c] :: singles more) = _
        rw [receiveAll, hturn, hs']
      rw [hrun]
      rcases ih hs' with ⟨hall, hend⟩ | ⟨a, d, b, rfl, hall, hstop, hend⟩
      · left
        rw [List.append_assoc, List.singleton_append] at hend
        refine ⟨fun a b hab => ?_, hend⟩
        rcases List.cons_eq_append_iff.mp hab with ⟨rfl, -⟩ | ⟨a', rfl, hab'⟩
        · rw [List.append_nil]
          exact ⟨s, h⟩
        · have hgo := hall a' b hab'
          rw [List.append_assoc, List.singleton_append] at hgo
          exact hgo
      · right
        rw [List.append_assoc st, List.singleton_append] at hstop hend
        refine ⟨c :: a, d, b, rfl, fun a1 a2 hab => ?_, hstop, hend⟩
        rcases List.cons_eq_append_iff.mp hab with ⟨rfl, -⟩ | ⟨a', rfl, hab'⟩
        · rw [List.append_nil]
          exact ⟨s, h⟩
        · have hgo := hall a' a2 hab'
          rw [List.append_assoc, List.singleton_append] at hgo
          exact hgo
    · right
      refine ⟨[], c, more, rfl, fun a1 a2 hab => ?_, ?_, ?_⟩
      · rw [(List.append_eq_nil_iff.mp hab.symm).1, List.append_nil]
        exact ⟨s, h⟩
      · rw [List.append_nil]
        exact hgoes
      · show receiveAll s ([c] :: singles more) = _
        rw [List.append_nil, receiveAll_cons, hturn]
        rintro ⟨s', hs'⟩
        rw [hturn] at hs'
        exact absurd ⟨s', hs'⟩ hgoes

/-- What `getURL` returns at the end of the loop. -/
def returned (st ret : CString) : CString := if ret = [] then st else ret

/-- INTERNAL: what is returned is the body, or the whole text without one. -/
theorem getURL_eq_some_iff {recvs : List CString} {r : CString} :
    getURL true recvs = some r ↔
      ∃ st ret, receiveAll start recvs = some (st, ret) ∧ returned st ret = r := by
  unfold getURL
  rw [if_pos rfl, Option.map_eq_some_iff]
  constructor
  · rintro ⟨⟨st, ret⟩, hrun, hr⟩
    exact ⟨st, ret, hrun, hr⟩
  · rintro ⟨st, ret, hrun, hr⟩
    exact ⟨(st, ret), hrun, hr⟩

/-- INTERNAL: a page without a body is returned whole, and any other one without its header. -/
theorem length_returned_drop (st : CString) (k : ℕ) :
    (returned st (st.drop k)).length = if st.length ≤ k then st.length else st.length - k := by
  unfold returned
  by_cases hle : st.length ≤ k
  · rw [if_pos (List.drop_eq_nil_of_le hle), if_pos hle]
  · rw [if_neg (fun hnil => hle (List.drop_eq_nil_iff.mp hnil)), if_neg hle, List.length_drop]

/-- INTERNAL: a cut with one packet of some length among packets of one byte. -/
theorem cut_singles {buf more : CString} (hbuf : buf ≠ [] ∧ buf.length ≤ 1023) :
    Cut (st ++ buf ++ more) (singles st ++ buf :: singles more) := by
  constructor
  · rw [List.flatten_append, List.flatten_cons, flatten_singles, flatten_singles, List.append_assoc]
  · intro packet hpacket
    rcases List.mem_append.mp hpacket with hbefore | hafter
    · exact mem_singles hbefore
    · rcases List.mem_cons.mp hafter with rfl | hlater
      · exact hbuf
      · exact mem_singles hlater

/-- INTERNAL: what is returned when one packet brings `buf` and all others one byte. -/
theorem returned_of_cut {buf more r : CString}
    (hr : ∀ recvs, Cut (st ++ buf ++ more) recvs → getURL true recvs = some r)
    (hgoes : ∀ a b, st = a ++ b → Goes a) (hbuf : buf ≠ [] ∧ buf.length ≤ 1023) :
    (∃ s ret, receive start (st ++ buf) = .done s ret ∧ returned (st ++ buf) ret = r) ∨
      ∃ s st' ret, receive start (st ++ buf) = .next s ∧
        receiveAll s (singles more) = some (st', ret) ∧ returned st' ret = r := by
  obtain ⟨st', ret, hrun, hret⟩ := getURL_eq_some_iff.mp (hr _ (cut_singles hbuf))
  have hstart : receive start [] = .next start := rfl
  have hsingles : ∀ a b, singles st = a ++ b → Goes ([] ++ a.flatten) := goes_of_singles hgoes
  obtain ⟨s, hs, hsame⟩ := receiveAll_append (buf :: singles more) hstart hsingles
  rw [flatten_singles, List.nil_append] at hs
  rw [hsame, receiveAll, (receive_next hs).2] at hrun
  cases hturn : receive start (st ++ buf) with
  | next s' =>
    rw [hturn] at hrun
    exact Or.inr ⟨s', st', ret, rfl, hrun, hret⟩
  | done s' ret' =>
    rw [hturn] at hrun
    cases hrun
    rw [(of_receive_done hturn).1] at hret
    exact Or.inl ⟨s', ret, rfl, hret⟩
  | undefined =>
    rw [hturn] at hrun
    cases hrun

end Runs

/-! ## The header -/

section Header

variable {page header : CString} {p1 : ℕ}

/-- INTERNAL: where the header ends, the page falls into three parts. -/
theorem exists_header (h : findSub headerEnd page = some p1) :
    ∃ header body, page = header ++ headerEnd ++ body ∧ header.length = p1 ∧
      page.take (p1 + 4) = header ++ headerEnd ∧
      findSub headerEnd (header ++ headerEnd) = some p1 := by
  obtain ⟨⟨header, body, rfl, rfl⟩, -⟩ := findSub_eq_some_iff.mp h
  have hlength : (header ++ headerEnd).length = header.length + 4 := by
    rw [List.length_append]
    rfl
  refine ⟨header, body, rfl, rfl, List.take_left' hlength, findSub_of_append h ?_⟩
  rw [hlength]
  exact Nat.le_refl _

/-- INTERNAL: a header after which the loop goes on has a number. -/
theorem contentLength_append (hfirst : findSub headerEnd (header ++ headerEnd) = some p1)
    (hno : saysChunked (header ++ headerEnd) = false) (hgoes : Goes (header ++ headerEnd))
    (more : CString) :
    contentLength (header ++ headerEnd ++ more) = contentLength (header ++ headerEnd) := by
  obtain ⟨n, hn, hlt⟩ := goes_iff.mp hgoes p1 hfirst
  rw [hno, if_neg Bool.false_ne_true] at hlt
  unfold contentLength newContentLength at hn ⊢
  cases htext : contentLengthText (header ++ headerEnd) with
  | none =>
    rw [htext] at hn
    obtain rfl : 0 = n := Option.some.inj hn
    exact absurd hlt (Nat.not_lt_zero _)
  | some num => rw [contentLengthText_append htext more]

/-- INTERNAL: one more letter of the body does not change the length that was found. -/
theorem contentLength_append_singleton (c : Char) :
    contentLength (header ++ headerEnd ++ [c]) = contentLength (header ++ headerEnd) := by
  unfold contentLength newContentLength
  cases htext : contentLengthText (header ++ headerEnd) with
  | none => rw [contentLengthText_append_singleton htext c]
  | some num => rw [contentLengthText_append htext [c]]

end Header

/-! ## When the cuts do not matter -/

section Same

variable {st page more r : CString} {c y : Char} {p1 n : ℕ}

/-- INTERNAL: what is returned when one packet brings two bytes and all others one. -/
theorem returned_of_pair
    (hr : ∀ recvs, Cut (st ++ [c] ++ [y] ++ more) recvs → getURL true recvs = some r)
    (hgoes : ∀ a b, st = a ++ b → Goes a) :
    (∃ s ret, receive start (st ++ [c] ++ [y]) = .done s ret ∧
        returned (st ++ [c] ++ [y]) ret = r) ∨
      ∃ s st' ret, receive start (st ++ [c] ++ [y]) = .next s ∧
        receiveAll s (singles more) = some (st', ret) ∧ returned st' ret = r := by
  have hpair : st ++ [c] ++ [y] = st ++ [c, y] := by
    rw [List.append_assoc]
    rfl
  have hboth : [c, y] ≠ [] ∧ [c, y].length ≤ 1023 :=
    ⟨List.cons_ne_nil _ _, show 2 ≤ 1023 by omega⟩
  rw [hpair] at hr ⊢
  exact returned_of_cut hr hgoes hboth

/-- INTERNAL: a text with the words of a chunked header goes on until the last chunk.
SOURCE: HTTPCommunication.cpp:131-135 -/
theorem receiveAll_of_saysChunked {s : Loop} {st' ret : CString} (hnext : receive start st = .next s)
    (hp1 : findSub headerEnd st = some p1) (hmarked : saysChunked st = true)
    (hrun : receiveAll s (singles more) = some (st', ret)) :
    (st' = st ++ more ∧ ret = []) ∨
      ∃ a d, st' = st ++ a ++ [d] ∧ ret = st'.drop (p1 + 8) ∧
        findSub lastChunk (st ++ a) = none ∧ findSub lastChunk (st ++ a ++ [d]) ≠ none := by
  rcases receiveAll_singles hnext more with ⟨-, hend⟩ | ⟨a, d, b, -, hall, hstop, hend⟩
  · rw [hend] at hrun
    cases hrun
    exact Or.inl ⟨rfl, rfl⟩
  · right
    rw [hend] at hrun
    have hpa := findSub_append hp1 a
    have hmarkeda := saysChunked_append hmarked a
    cases hturn : receive start (st ++ a ++ [d]) with
    | next s' => exact absurd ⟨s', hturn⟩ hstop
    | undefined =>
      rw [hturn] at hrun
      cases hrun
    | done s' ret' =>
      rw [hturn] at hrun
      cases hrun
      obtain ⟨hst, p1', n', hp1', -, hcase⟩ := of_receive_done hturn
      rw [findSub_append hpa [d]] at hp1'
      cases hp1'
      rcases hcase with ⟨-, hlast, hret⟩ | ⟨hfalse, -⟩
      · obtain ⟨_, -, hbefore⟩ := goes_iff.mp (hall a [] (List.append_nil a).symm) p1 hpa
        rw [if_pos hmarkeda] at hbefore
        refine ⟨a, d, hst, ?_, hbefore, hlast⟩
        rw [hst]
        exact hret
      · rw [saysChunked_append hmarkeda [d]] at hfalse
        cases hfalse

/-- INTERNAL: a chunked text that ends the loop, and one byte more. -/
theorem not_chunked_end
    (hr : ∀ recvs, Cut (st ++ [c] ++ [y] ++ more) recvs → getURL true recvs = some r)
    (hgoes : ∀ a b, st = a ++ b → Goes a) (hp1 : findSub headerEnd (st ++ [c]) = some p1)
    (hlong : p1 + 8 < (st ++ [c]).length) (hmarked : saysChunked (st ++ [c]) = true)
    (hlast : findSub lastChunk (st ++ [c]) ≠ none)
    (hret : returned (st ++ [c]) ((st ++ [c]).drop (p1 + 8)) = r) : False := by
  obtain ⟨j, hj⟩ := Option.ne_none_iff_exists'.mp hlast
  have hp2 := findSub_append hp1 [y]
  have hmarked2 := saysChunked_append hmarked [y]
  have hlength := congrArg List.length hret
  rw [length_returned_drop, if_neg (by omega)] at hlength
  have hsize : (st ++ [c] ++ [y]).length = (st ++ [c]).length + 1 := List.length_append
  rcases returned_of_pair hr hgoes with ⟨s, ret, hdone, hret'⟩ | ⟨s, -, -, hnext, -⟩
  · obtain ⟨-, p1', n', hp1', -, hcase⟩ := of_receive_done hdone
    rw [hp2] at hp1'
    cases hp1'
    rcases hcase with ⟨-, -, rfl⟩ | ⟨hfalse, -⟩
    · have hlength' := congrArg List.length hret'
      rw [length_returned_drop, if_neg (by omega)] at hlength'
      omega
    · rw [hmarked2] at hfalse
      cases hfalse
  · obtain ⟨n', -, hgo⟩ := goes_iff.mp ⟨s, hnext⟩ p1 hp2
    rw [if_pos hmarked2, findSub_append hj [y]] at hgo
    cases hgo

/-- INTERNAL: a text with all the bytes that the header gives, and one byte more. When that byte
ends the words of a chunked header, three bytes of the page would have to be left for the last
chunk to make up for it, and the words and the last chunk would overlap. -/
theorem not_length_end
    (hr : ∀ recvs, Cut (st ++ [c] ++ [y] ++ more) recvs → getURL true recvs = some r)
    (hgoes : ∀ a b, st = a ++ b → Goes a) (hp1 : findSub headerEnd (st ++ [c]) = some p1)
    (hno : saysChunked (st ++ [c]) = false)
    (hn : contentLength (st ++ [c] ++ [y]) = some n) (hexact : (st ++ [c]).length = p1 + 4 + n)
    (hwords : saysChunked (st ++ [c] ++ [y]) = true → 26 ≤ n + 1)
    (hret : returned (st ++ [c]) ((st ++ [c]).drop (p1 + 4)) = r) : False := by
  have hlength := congrArg List.length hret
  rw [length_returned_drop] at hlength
  have hp2 := findSub_append hp1 [y]
  have hsize : (st ++ [c] ++ [y]).length = (st ++ [c]).length + 1 := List.length_append
  rcases returned_of_pair hr hgoes with ⟨s, ret, hdone, hret'⟩ | ⟨s, st', ret, hnext, hrun, hret'⟩
  · obtain ⟨-, p1', n', hp1', -, hcase⟩ := of_receive_done hdone
    rw [hp2] at hp1'
    cases hp1'
    rcases hcase with ⟨hmarked, -, rfl⟩ | ⟨-, -, rfl⟩
    · have hlong := hwords hmarked
      have hlength' := congrArg List.length hret'
      rw [length_returned_drop, if_neg (by omega)] at hlength'
      rw [if_neg (by omega)] at hlength
      omega
    · have hlength' := congrArg List.length hret'
      rw [length_returned_drop, if_neg (by omega)] at hlength'
      split at hlength <;> omega
  · obtain ⟨n', hn', hgo⟩ := goes_iff.mp ⟨s, hnext⟩ p1 hp2
    rw [hn] at hn'
    cases hn'
    cases hmarked : saysChunked (st ++ [c] ++ [y]) with
    | false =>
      rw [hmarked, if_neg Bool.false_ne_true] at hgo
      omega
    | true =>
      have hlong := hwords hmarked
      rw [if_neg (by omega)] at hlength
      rcases receiveAll_of_saysChunked hnext hp2 hmarked hrun with
        ⟨rfl, rfl⟩ | ⟨a, d, rfl, rfl, hbefore, hlast⟩
      · have hlength' := congrArg List.length hret'
        rw [returned, if_pos rfl, List.length_append] at hlength'
        omega
      · apply length_ne_two_of_lastChunk hno hmarked hbefore hlast
        have hlength' := congrArg List.length hret'
        have hsize' : (st ++ [c] ++ [y] ++ a ++ [d]).length =
            (st ++ [c]).length + 1 + a.length + 1 := by
          rw [List.length_append, List.length_append, hsize]
          rfl
        rw [length_returned_drop, if_neg (by omega)] at hlength'
        omega

/-- INTERNAL: a loop that ends with all the bytes that the header gives has no more than these. -/
theorem length_of_goes {header behind : CString} (hgoes : ∀ a b, st = a ++ b → Goes a)
    (hsplit : st ++ [c] = header ++ headerEnd ++ behind)
    (hlength : header.length = p1) (hfirst : findSub headerEnd (header ++ headerEnd) = some p1)
    (hheader : saysChunked (header ++ headerEnd) = false) (hnot : saysChunked (st ++ [c]) = false)
    (hn : contentLength (st ++ [c]) = some n) (hle : n ≤ behind.length) :
    behind.length = n ∧ contentLength (st ++ [c] ++ [y]) = some n := by
  rcases List.eq_nil_or_concat behind with rfl | ⟨front, d, rfl⟩
  · rw [List.append_nil] at hsplit
    rw [hsplit] at hn ⊢
    rw [contentLength_append_singleton]
    rw [List.length_nil] at hle ⊢
    exact ⟨by omega, hn⟩
  · rw [List.concat_eq_append, ← List.append_assoc] at hsplit
    obtain ⟨rfl, hd⟩ := List.append_inj' hsplit rfl
    cases hd
    have hstart : Goes (header ++ headerEnd) := hgoes _ front rfl
    have hsame := contentLength_append hfirst hheader hstart
    obtain ⟨n', hn', hgo⟩ :=
      goes_iff.mp (hgoes _ [] (List.append_nil _).symm) p1 (findSub_append hfirst front)
    rw [List.append_assoc, hsame] at hn
    rw [hsame, hn] at hn'
    cases hn'
    have hbefore : saysChunked (header ++ headerEnd ++ front) = false := by
      by_contra hmarked
      rw [saysChunked_append (Bool.eq_true_of_not_eq_false hmarked)] at hnot
      cases hnot
    rw [hbefore, if_neg Bool.false_ne_true] at hgo
    have hsize : (header ++ headerEnd ++ front).length = p1 + 4 + front.length := by
      rw [List.length_append, List.length_append, hlength]
      rfl
    rw [List.concat_eq_append, List.length_append, List.length_singleton] at hle ⊢
    refine ⟨by omega, ?_⟩
    rw [List.append_assoc, List.append_assoc, hsame]
    exact hn

/-- INTERNAL: the loop does not end while a byte is left. -/
theorem goes_of_same
    (hno : NotChunked (st ++ [c] ++ [y] ++ more))
    (hr : ∀ recvs, Cut (st ++ [c] ++ [y] ++ more) recvs → getURL true recvs = some r)
    (hgoes : ∀ a b, st = a ++ b → Goes a) : Goes (st ++ [c]) := by
  by_contra hstop
  have hone : [c] ≠ [] ∧ [c].length ≤ 1023 := ⟨List.cons_ne_nil _ _, show 1 ≤ 1023 by omega⟩
  have hr' : ∀ recvs, Cut (st ++ [c] ++ ([y] ++ more)) recvs → getURL true recvs = some r := by
    rw [← List.append_assoc]
    exact hr
  rcases returned_of_cut hr' hgoes hone with ⟨s, ret, hdone, hret⟩ | ⟨s, -, -, hnext, -⟩
  · obtain ⟨-, p1, n, hp1, hn, hcase⟩ := of_receive_done hdone
    obtain ⟨header, behind, hsplit, hlength, htake, hfirst⟩ := exists_header hp1
    have hheader : saysChunked (header ++ headerEnd) = false := by
      have hmarked := hno p1 (findSub_append (findSub_append hp1 [y]) more)
      have hinside : p1 + 4 ≤ (st ++ [c]).length := findSub_le hp1
      rw [List.append_assoc (st ++ [c]), List.take_append_of_le_length hinside, htake] at hmarked
      exact hmarked
    have hsize : (st ++ [c]).length = p1 + 4 + behind.length := by
      rw [hsplit, List.length_append, List.length_append, hlength]
      rfl
    rcases hcase with ⟨hmarked, hlast, rfl⟩ | ⟨hnot, hle, rfl⟩
    · have hlong : 26 ≤ behind.length := by
        apply le_length_of_saysChunked hheader
        rw [← hsplit]
        exact hmarked
      exact not_chunked_end hr hgoes hp1 (by omega) hmarked hlast hret
    · have hexact : behind.length = n ∧ contentLength (st ++ [c] ++ [y]) = some n :=
        length_of_goes hgoes hsplit hlength hfirst hheader hnot hn (by omega)
      refine not_length_end hr hgoes hp1 hnot hexact.2 (by omega) (fun hmarked => ?_) hret
      rw [hsplit, List.append_assoc] at hmarked
      have hlong := le_length_of_saysChunked hheader hmarked
      rw [List.length_append, List.length_singleton] at hlong
      omega
  · exact hstop ⟨s, hnext⟩

/-- INTERNAL: when the cuts do not matter no beginning ends the loop. -/
theorem goes_of_sameForAllCuts (hno : NotChunked page) (hsame : SameForAllCuts page) :
    (∀ a b, page = a ++ b → b ≠ [] → Goes a) ∧ receive start page ≠ .undefined := by
  obtain ⟨r, hr⟩ := hsame
  have hstart : receive start [] = .next start := rfl
  rcases receiveAll_singles hstart page with ⟨hall, -⟩ | ⟨a, c, b, rfl, hall, hstop, -⟩
  · refine ⟨fun a b hab _ => hall a b hab, fun hundefined => ?_⟩
    obtain ⟨s, hs⟩ := hall page [] (List.append_nil page).symm
    rw [List.nil_append, hundefined] at hs
    cases hs
  · cases b with
    | nil =>
      constructor
      · intro a' b' hab hb'
        obtain ⟨front, d, rfl⟩ := (List.eq_nil_or_concat b').resolve_left hb'
        rw [List.concat_eq_append, ← List.append_assoc] at hab
        exact hall a' front (List.append_inj' hab rfl).1
      · intro hundefined
        have hone : [c] ≠ [] ∧ [c].length ≤ 1023 := ⟨List.cons_ne_nil _ _, show 1 ≤ 1023 by omega⟩
        have hr' : ∀ recvs, Cut (a ++ [c] ++ []) recvs → getURL true recvs = some r := by
          rw [List.append_nil]
          exact hr
        rcases returned_of_cut hr' hall hone with ⟨s, ret, hturn, -⟩ | ⟨s, -, -, hturn, -⟩
        · rw [hundefined] at hturn
          cases hturn
        · rw [hundefined] at hturn
          cases hturn
    | cons y b =>
      have hpage : a ++ c :: y :: b = a ++ [c] ++ [y] ++ b := by
        rw [List.append_assoc, List.append_assoc]
        rfl
      rw [hpage] at hno hr
      exact absurd (goes_of_same hno hr hall) hstop

/-- INTERNAL: a loop that no beginning ends has the whole page in its last turn. -/
theorem receiveAll_eq_ending (hgoes : ∀ a b, page = a ++ b → b ≠ [] → Goes a) {recvs : List CString}
    (hcut : Cut page recvs) : receiveAll start recvs = ending (receive start page) := by
  obtain ⟨rfl, hbufs⟩ := hcut
  rcases List.eq_nil_or_concat recvs with rfl | ⟨front, last, rfl⟩
  · rfl
  · rw [List.concat_eq_append] at hgoes hbufs ⊢
    rw [List.flatten_append, List.flatten_singleton] at hgoes ⊢
    have hlast : last ≠ [] :=
      (hbufs last (List.mem_append_right _ (List.mem_singleton.mpr rfl))).1
    have hstart : receive start [] = .next start := rfl
    have hfront : ∀ a b, front = a ++ b → Goes ([] ++ a.flatten) := by
      intro a b hab
      apply hgoes _ (b.flatten ++ last)
      · rw [hab, List.flatten_append, List.nil_append, List.append_assoc]
      · exact fun hnil => hlast (List.append_eq_nil_iff.mp hnil).2
    obtain ⟨s, hs, hrun⟩ := receiveAll_append [last] hstart hfront
    rw [hrun, receiveAll_cons _ _ _ fun _ => rfl, (receive_next hs).2, List.nil_append]

/-- INTERNAL: when the loop goes on after every true beginning, every cut returns the same. -/
theorem sameForAllCuts_of_goes (hgoes : ∀ a b, page = a ++ b → b ≠ [] → Goes a)
    (hdefined : receive start page ≠ .undefined) : SameForAllCuts page := by
  have hsome : ∃ out, ending (receive start page) = some out := by
    cases hturn : receive start page with
    | next s => exact ⟨_, rfl⟩
    | done s ret => exact ⟨_, rfl⟩
    | undefined => exact absurd hturn hdefined
  obtain ⟨⟨st, ret⟩, hout⟩ := hsome
  refine ⟨returned st ret, fun recvs hcut => getURL_eq_some_iff.mpr ⟨st, ret, ?_, rfl⟩⟩
  rw [receiveAll_eq_ending hgoes hcut, hout]

/-- INTERNAL: the length is the one of the header while the header is not enough. -/
theorem contentLength_of_body {header body : CString}
    (hfirst : findSub headerEnd (header ++ headerEnd) = some p1)
    (hheader : saysChunked (header ++ headerEnd) = false)
    (hgoes : body ≠ [] → Goes (header ++ headerEnd)) :
    contentLength (header ++ headerEnd ++ body) = contentLength (header ++ headerEnd) := by
  by_cases hbody : body = []
  · rw [hbody, List.append_nil]
  · exact contentLength_append hfirst hheader (hgoes hbody) body

/-- INTERNAL: when only the whole page is enough, the loop goes on after every true beginning. -/
theorem goes_of_onlyWholeIsEnough (hno : NotChunked page) (henough : OnlyWholeIsEnough page) :
    (∀ a b, page = a ++ b → b ≠ [] → Goes a) ∧ receive start page ≠ .undefined := by
  have hgoes : ∀ a b, page = a ++ b → b ≠ [] → Goes a := by
    rintro a b rfl hb
    apply goes_iff.mpr
    intro p1 hp1
    have hpage := findSub_append hp1 b
    obtain ⟨header, body, rfl, hlength, htake, hfirst⟩ := exists_header hp1
    have hinside : p1 + 4 ≤ (header ++ headerEnd ++ body).length := findSub_le hp1
    have hpos := List.length_pos_iff.mpr hb
    have hgrow : (header ++ headerEnd ++ body ++ b).length =
        (header ++ headerEnd ++ body).length + b.length := List.length_append
    have hheader := hno p1 hpage
    obtain ⟨n, hn, hall⟩ := henough p1 hpage
    rw [List.take_append_of_le_length hinside, htake] at hheader hn
    have hstart : Goes (header ++ headerEnd) := by
      apply goes_iff.mpr
      intro p hp
      rw [hfirst] at hp
      cases hp
      refine ⟨n, hn, ?_⟩
      have hfour := hall (p1 + 4) (Nat.le_refl _) (by omega)
      rw [List.take_append_of_le_length hinside, htake, hheader, if_neg Bool.false_ne_true]
        at hfour
      rw [hheader, if_neg Bool.false_ne_true, List.length_append, hlength]
      show p1 + 4 - p1 - 4 < n
      exact hfour
    refine ⟨n, ?_, ?_⟩
    · rw [contentLength_append hfirst hheader hstart]
      exact hn
    · have hwhole := hall _ hinside (by omega)
      rw [List.take_left] at hwhole
      exact hwhole
  refine ⟨hgoes, fun hundefined => ?_⟩
  obtain ⟨p1, hp1, hcase⟩ := of_receive_undefined hundefined
  obtain ⟨header, body, rfl, hlength, htake, hfirst⟩ := exists_header hp1
  have hheader := hno p1 hp1
  obtain ⟨n, hn, -⟩ := henough p1 hp1
  rw [htake] at hheader hn
  rcases hcase with hnone | ⟨hmarked, hshort⟩
  · rw [contentLength_of_body hfirst hheader (hgoes _ body rfl), hn] at hnone
    cases hnone
  · have hlong := le_length_of_saysChunked hheader hmarked
    rw [List.length_append, List.length_append, hlength] at hshort
    have hfour : headerEnd.length = 4 := rfl
    omega

/-- INTERNAL: when the loop goes on after every true beginning, only the whole page is enough. -/
theorem onlyWholeIsEnough_of_goes (hno : NotChunked page)
    (hgoes : ∀ a b, page = a ++ b → b ≠ [] → Goes a) (hdefined : receive start page ≠ .undefined) :
    OnlyWholeIsEnough page := by
  intro p1 hp1
  obtain ⟨header, body, rfl, hlength, htake, hfirst⟩ := exists_header hp1
  have hheader := hno p1 hp1
  rw [htake] at hheader ⊢
  have hsame : ∀ more, more <+: body →
      contentLength (header ++ headerEnd ++ more) = contentLength (header ++ headerEnd) := by
    rintro more ⟨rest, rfl⟩
    apply contentLength_of_body hfirst hheader
    intro hmore
    refine hgoes _ (more ++ rest) rfl fun hnil => ?_
    exact hmore (List.append_eq_nil_iff.mp hnil).1
  have hsome : ∃ n, contentLength (header ++ headerEnd) = some n := by
    rw [← hsame body (List.prefix_refl _)]
    have hlooks := looks_receive (header ++ headerEnd ++ body)
    generalize receive start (header ++ headerEnd ++ body) = turn at hlooks hdefined
    cases hlooks with
    | noHeader hnone =>
      rw [hp1] at hnone
      cases hnone
    | overflow | outOfRange => exact absurd rfl hdefined
    | lastChunk _ hc | nextChunk _ hc | enough _ hc | tooShort _ hc =>
      exact ⟨_, contentLength_eq_some hc⟩
  obtain ⟨n, hn⟩ := hsome
  refine ⟨n, hn, fun m hm hlt => ?_⟩
  have hfour : (header ++ headerEnd).length = p1 + 4 := by
    rw [List.length_append, hlength]
    rfl
  have htext : (header ++ headerEnd ++ body).take m =
      header ++ headerEnd ++ body.take (m - (p1 + 4)) := by
    rw [List.take_append, hfour, List.take_of_length_le (by omega)]
  have hrest : (header ++ headerEnd ++ body).drop m ≠ [] := by
    intro hnil
    rw [List.drop_eq_nil_iff] at hnil
    omega
  have hgo := hgoes _ _ (List.take_append_drop m _).symm hrest
  have hat : findSub headerEnd ((header ++ headerEnd ++ body).take m) = some p1 := by
    rw [htext]
    exact findSub_append hfirst _
  obtain ⟨n', hn', hcase⟩ := goes_iff.mp hgo p1 hat
  rw [htext, hsame _ (List.take_prefix _ _), hn] at hn'
  cases hn'
  rw [List.length_take_of_le (Nat.le_of_lt hlt)] at hcase
  exact hcase

/-- **Packet boundaries**: for a page that is not chunked, `getURL` returns the same string for
all ways of cutting exactly when only the whole page is enough for it.
SOURCE: HTTPCommunication.cpp:67-168 -/
theorem sameForAllCuts_iff (hno : NotChunked page) :
    SameForAllCuts page ↔ OnlyWholeIsEnough page := by
  constructor
  · intro hsame
    obtain ⟨hgoes, hdefined⟩ := goes_of_sameForAllCuts hno hsame
    exact onlyWholeIsEnough_of_goes hno hgoes hdefined
  · intro henough
    obtain ⟨hgoes, hdefined⟩ := goes_of_onlyWholeIsEnough hno henough
    exact sameForAllCuts_of_goes hgoes hdefined

/-- INTERNAL: a page that has no more than the length in its header. -/
theorem onlyWholeIsEnough_of_length (hp1 : findSub headerEnd page = some p1)
    (hmarked : saysChunked page = false) (hn : contentLength (page.take (p1 + 4)) = some n)
    (hle : page.length ≤ p1 + 4 + n) : OnlyWholeIsEnough page := by
  intro p hp
  rw [hp1] at hp
  cases hp
  refine ⟨n, hn, fun m hm hlt => ?_⟩
  have hnot : saysChunked (page.take m) = false := by
    by_contra hyes
    have hmore := saysChunked_append (Bool.eq_true_of_not_eq_false hyes) (page.drop m)
    rw [List.take_append_drop, hmarked] at hmore
    cases hmore
  rw [hnot, if_neg Bool.false_ne_true]
  omega

/-- A page of five bytes, with its length. -/
def lengthPage : CString := "HTTP/1.1 200 OK\r\nContent-Length: 5\r\n\r\nhello".toList

/-- INTERNAL: the header ends behind 34 letters. -/
theorem lengthPage_header : findSub headerEnd lengthPage = some 34 := by decide +kernel

/-- INTERNAL: the header does not say that the page is chunked. -/
theorem lengthPage_notChunked : saysChunked lengthPage = false := by decide +kernel

/-- A page with its length is returned alike, however the network cuts it. -/
theorem lengthPage_sameForAllCuts : SameForAllCuts lengthPage := by
  have hno : NotChunked lengthPage := by
    intro p1 hp1
    rw [lengthPage_header] at hp1
    cases hp1
    decide +kernel
  have hn : contentLength (lengthPage.take (34 + 4)) = some 5 := by decide +kernel
  exact (sameForAllCuts_iff hno).mpr
    (onlyWholeIsEnough_of_length lengthPage_header lengthPage_notChunked hn (by decide))

/-- A page of five bytes, without a length. -/
def plainPage : CString := "HTTP/1.1 200 OK\r\n\r\nhello".toList

/-- The packet with the end of the header ends the page. -/
theorem plainPage_cut :
    NotChunked plainPage ∧ Cut plainPage [plainPage] ∧
      Cut plainPage [plainPage.take 21, plainPage.drop 21] ∧
      getURL true [plainPage] = some "hello".toList ∧
      getURL true [plainPage.take 21, plainPage.drop 21] = some "he".toList := by
  refine ⟨?_, ?_, ?_, by decide +kernel, by decide +kernel⟩
  · intro p1 hp1
    have hplain : findSub headerEnd plainPage = some 15 := by decide +kernel
    rw [hplain] at hp1
    cases hp1
    decide +kernel
  · unfold Cut
    decide
  · unfold Cut
    decide

end Same

end Dhas.Analysis.PageCuts
