import Dhas.Program.HTTPCommunication

/-!
# A text that goes on

What `getURL` finds in the text that came so far is found at the same place when more of it comes.
The name of the length and its number end with the header, because a header ends with a line feed.
-/

set_option autoImplicit false

namespace Dhas.Analysis.PageTexts

open Dhas.Library Dhas.Program Dhas.Program.HTTPCommunication

section Prefixes

variable {st : CString}

/-- INTERNAL: a C string goes on unless it ended at a NUL. -/
theorem cString_append (st more : CString) :
    ∃ rest, cString (st ++ more) = cString st ++ rest ∧ rest.length ≤ more.length ∧
      (rest ≠ [] → cString st = st) := by
  unfold cString
  rw [List.takeWhile_append]
  split
  case isTrue hall =>
    have hst : st.takeWhile (· ≠ Char.ofNat 0) = st :=
      (List.takeWhile_prefix _).eq_of_length hall
    refine ⟨more.takeWhile (· ≠ Char.ofNat 0), ?_, ?_, fun _ => hst⟩
    · rw [hst]
    · exact (List.takeWhile_prefix _).length_le
  case isFalse => exact ⟨[], (List.append_nil _).symm, Nat.zero_le _, fun h => absurd rfl h⟩

/-- INTERNAL: a further letter is read when the text is read whole. -/
theorem cString_append_singleton (st : CString) (c : Char) :
    cString (st ++ [c]) = cString st ∨ (cString st = st ∧ cString (st ++ [c]) = st ++ [c]) := by
  obtain ⟨rest, hrest, hle, hwhole⟩ := cString_append st [c]
  by_cases hnil : rest = []
  · left
    rw [hrest, hnil, List.append_nil]
  · right
    have hst := hwhole hnil
    refine ⟨hst, ?_⟩
    rw [hst] at hrest
    rw [hrest]
    have hprefix : st ++ rest <+: st ++ [c] := by
      rw [← hrest]
      exact List.takeWhile_prefix _
    apply hprefix.eq_of_length
    have hpos := List.length_pos_iff.mpr hnil
    rw [List.length_singleton] at hle
    rw [List.length_append, List.length_append, List.length_singleton]
    omega

/-- INTERNAL: the words of a chunked header stay when more comes. -/
theorem saysChunked_append (h : saysChunked st = true) (more : CString) :
    saysChunked (st ++ more) = true := by
  obtain ⟨rest, hrest, -, -⟩ := cString_append st more
  unfold saysChunked at h ⊢
  obtain ⟨i, hi⟩ := Option.isSome_iff_exists.mp h
  rw [hrest, List.map_append, findSub_append hi]
  rfl

/-- INTERNAL: words that are there with one character more end at that character. -/
theorem findSub_transferEncoding {c : Char} (hno : saysChunked st = false)
    (hyes : saysChunked (st ++ [c]) = true) :
    ∃ i, findSub transferEncoding ((st ++ [c]).map Char.toLower) = some i ∧
      i + transferEncoding.length = st.length + 1 := by
  unfold saysChunked at hno hyes
  rcases cString_append_singleton st c with hsame | ⟨hst, hwhole⟩
  · rw [hsame, hno] at hyes
    cases hyes
  · rw [hst, Option.isSome_eq_false_iff, Option.isNone_iff_eq_none] at hno
    rw [hwhole] at hyes
    obtain ⟨i, hi⟩ := Option.isSome_iff_exists.mp hyes
    refine ⟨i, hi, ?_⟩
    rw [List.map_append] at hi
    have hend := findSub_append_singleton hno hi
    rw [List.length_map] at hend
    exact hend

/-- INTERNAL: the words do not overlap the last chunk at their fourth character from the end. -/
theorem length_ne_two_of_lastChunk {c d : Char} {more : CString} (hno : saysChunked st = false)
    (hyes : saysChunked (st ++ [c]) = true) (hnone : findSub lastChunk (st ++ [c] ++ more) = none)
    (hlast : findSub lastChunk (st ++ [c] ++ more ++ [d]) ≠ none) : more.length ≠ 2 := by
  intro hlength
  obtain ⟨i, hi, hend⟩ := findSub_transferEncoding hno hyes
  obtain ⟨j, hj⟩ := Option.ne_none_iff_exists'.mp hlast
  have hj' := findSub_append_singleton hnone hj
  have hwords := findSub_getElem? hi (show 22 < transferEncoding.length by decide)
  have hchunk := findSub_getElem? hj (show 0 < lastChunk.length by decide)
  have hsize : transferEncoding.length = 26 := by decide
  have hsize' : lastChunk.length = 7 := by decide
  rw [List.length_append, List.length_append, List.length_singleton] at hj'
  have hplace : i + 22 = j := by omega
  rw [Nat.add_zero, List.append_assoc _ more,
    List.getElem?_append_left (by rw [List.length_append, List.length_singleton]; omega)] at hchunk
  rw [hplace, List.getElem?_map, hchunk] at hwords
  exact absurd hwords (by decide)

variable {header : CString}

/-- INTERNAL: a header ends with a line feed, which is in no name that is looked for. -/
theorem lower_header (header : CString) :
    (header ++ headerEnd).map Char.toLower =
      (header.map Char.toLower ++ ['\r', '\n', '\r']) ++ ['\n'] := by
  rw [List.map_append, List.append_assoc]
  rfl

/-- INTERNAL: texts that end in different letters are different. -/
theorem ne_of_getLast {s t : CString} {a b : Char} (h : a ≠ b) : s ++ [a] ≠ t ++ [b] := by
  intro heq
  exact h (List.cons.inj (List.append_inj' heq rfl).2).1

/-- INTERNAL: a match of the name ends before the header does. -/
theorem findSub_name_lt {i : ℕ}
    (h : findSub contentLengthName ((header ++ headerEnd).map Char.toLower) = some i) :
    i + contentLengthName.length ≤ (header ++ ['\r', '\n', '\r']).length := by
  obtain ⟨⟨before, after, hs, rfl⟩, -⟩ := findSub_eq_some_iff.mp h
  have hafter : after ≠ [] := by
    rintro rfl
    rw [lower_header, List.append_nil] at hs
    have hname : contentLengthName = "content-length:".toList ++ [' '] := by decide
    rw [hname, ← List.append_assoc] at hs
    exact ne_of_getLast (by decide) hs
  have hlength := congrArg List.length hs
  have hpos := List.length_pos_iff.mpr hafter
  simp only [List.length_map, List.length_append, headerEnd, List.length_cons, List.length_nil]
    at hlength ⊢
  omega

/-- INTERNAL: the words of a chunked header are no shorter behind the header, which ends with a
line feed. -/
theorem le_length_of_saysChunked {more : CString} (hno : saysChunked (header ++ headerEnd) = false)
    (hyes : saysChunked (header ++ headerEnd ++ more) = true) : 26 ≤ more.length := by
  obtain ⟨rest, hrest, hle, hwhole⟩ := cString_append (header ++ headerEnd) more
  unfold saysChunked at hno hyes
  rw [hrest] at hyes
  have hnil : rest ≠ [] := by
    rintro rfl
    rw [List.append_nil, hno] at hyes
    cases hyes
  rw [hwhole hnil, Option.isSome_eq_false_iff, Option.isNone_iff_eq_none] at hno
  rw [hwhole hnil, List.map_append] at hyes
  obtain ⟨i, hi⟩ := Option.isSome_iff_exists.mp hyes
  have hbound := findSub_le hi
  have hsize : transferEncoding.length = 26 := by decide
  have hhead : ((header ++ headerEnd).map Char.toLower).length = header.length + 4 := by
    rw [List.length_map, List.length_append]
    rfl
  rw [List.length_append, hhead, List.length_map] at hbound
  by_contra hlt
  have hover : header.length + 4 < i + transferEncoding.length := by
    by_contra hin
    have hfound := findSub_of_append hi (by omega)
    rw [hno] at hfound
    cases hfound
  obtain ⟨k, hk⟩ : ∃ k, i + k = header.length + 3 := ⟨header.length + 3 - i, by omega⟩
  have hfeed := findSub_getElem? hi (show k < transferEncoding.length by omega)
  have hat : (header.map Char.toLower ++ ['\r', '\n', '\r']).length = header.length + 3 := by
    rw [List.length_append, List.length_map]
    rfl
  rw [hk, lower_header, List.append_assoc, ← hat, List.getElem?_append_right (Nat.le_refl _),
    Nat.sub_self] at hfeed
  have hmem : '\n' ∈ transferEncoding := List.mem_of_getElem? hfeed.symm
  exact absurd hmem (by decide)

/-- INTERNAL: digits end at a character that is none. -/
theorem takeWhile_isDigit_append {c : Char} (hc : isDigit c = false) (front rest : CString) :
    (front ++ c :: rest).takeWhile isDigit = front.takeWhile isDigit := by
  induction front with
  | nil => rw [List.nil_append, List.takeWhile_cons_of_neg (by simp [hc]), List.takeWhile_nil]
  | cons d front ih =>
    rw [List.cons_append, List.takeWhile_cons, List.takeWhile_cons, ih]

/-- INTERNAL: the number in a header is not changed by what follows. -/
theorem contentLengthText_append {num : CString}
    (h : contentLengthText (header ++ headerEnd) = some num) (more : CString) :
    contentLengthText (header ++ headerEnd ++ more) = some num := by
  obtain ⟨rest, hrest, -, hwhole⟩ := cString_append (header ++ headerEnd) more
  unfold contentLengthText at h ⊢
  rw [hrest]
  by_cases hnil : rest = []
  · rw [hnil, List.append_nil]
    exact h
  · rw [hwhole hnil] at h ⊢
    obtain ⟨i, hi, rfl⟩ := Option.map_eq_some_iff.mp h
    rw [List.map_append, findSub_append hi, Option.map_some]
    have hlt := findSub_name_lt hi
    have hsplit : header ++ headerEnd = (header ++ ['\r', '\n', '\r']) ++ ['\n'] := by
      rw [List.append_assoc]
      rfl
    rw [hsplit, List.append_assoc, List.drop_append_of_le_length hlt,
      List.drop_append_of_le_length hlt]
    generalize (header ++ ['\r', '\n', '\r']).drop (i + contentLengthName.length) = front
    have hfeed : isDigit '\n' = false := by decide
    have hends := takeWhile_isDigit_append hfeed front
    exact congrArg some ((hends rest).trans (hends []).symm)

/-- INTERNAL: no number begins with the first character behind the header. -/
theorem contentLengthText_append_singleton (h : contentLengthText (header ++ headerEnd) = none)
    (c : Char) : contentLengthText (header ++ headerEnd ++ [c]) = none := by
  unfold contentLengthText at h ⊢
  rcases cString_append_singleton (header ++ headerEnd) c with hsame | ⟨hst, hwhole⟩
  · rw [hsame]
    exact h
  · rw [hst, Option.map_eq_none_iff] at h
    rw [hwhole, Option.map_eq_none_iff]
    cases hfind : findSub contentLengthName ((header ++ headerEnd ++ [c]).map Char.toLower) with
    | none => rfl
    | some i =>
      rw [List.map_append] at hfind
      have hlast := findSub_append_singleton h hfind
      obtain ⟨⟨before, after, hs, rfl⟩, -⟩ := findSub_eq_some_iff.mp hfind
      have hafter : after = [] := by
        apply List.eq_nil_of_length_eq_zero
        have hlength := congrArg List.length hs
        simp only [List.length_append, List.length_map, List.length_singleton] at hlength hlast
        omega
      rw [hafter, List.append_nil, lower_header] at hs
      have hname : contentLengthName = ("content-length".toList ++ [':']) ++ [' '] := by decide
      rw [hname, ← List.append_assoc, ← List.append_assoc] at hs
      exact absurd (List.append_inj' hs rfl).1 (ne_of_getLast (by decide))

/-- INTERNAL: a text without a length had none before. -/
theorem contentLengthText_of_append {more : CString}
    (h : contentLengthText (st ++ more) = none) : contentLengthText st = none := by
  obtain ⟨rest, hrest, -, -⟩ := cString_append st more
  unfold contentLengthText at h ⊢
  rw [Option.map_eq_none_iff] at h ⊢
  rw [hrest, List.map_append] at h
  cases hfind : findSub contentLengthName ((cString st).map Char.toLower) with
  | none => rfl
  | some i =>
    rw [findSub_append hfind] at h
    cases h

end Prefixes

end Dhas.Analysis.PageTexts
