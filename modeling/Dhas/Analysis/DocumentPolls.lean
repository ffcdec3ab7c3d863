import Dhas.Analysis.ThermostatModes
import Dhas.Model.StateDocuments

/-!
# The thermostats say what their documents say

The module looks for patterns in the text of a document. Each pattern is found just where an
element of the document has its name and its kind of content, whatever else stands in the text: a
longer name that begins like it, attributes, a number that is not all of the content. So the
module keeps of each device what its last document says, over any run of polls.
-/

set_option autoImplicit false

namespace Dhas.Analysis.DocumentPolls

open Dhas.Library Dhas.Program Dhas.Model
open Dhas.Program.WeatherModule
open Dhas.Model.Thermostats

/-- The pattern cannot match a part of a tag. -/
structure PatternOk (p : XMLPattern) : Prop where
  chars : p.chars '<' = false
  noClose : ∀ tag ∈ p.tags, '>' ∉ tag.toList
  noSlash : ∀ tag ∈ p.tags, tag.toList.head? ≠ some '/'

/-- The content that a pattern accepts. -/
def accepts (p : XMLPattern) (s : CString) : Bool :=
  if p.many then s.all p.chars else StateDocument.single p.chars s

/-! ## A text without tags -/

section Text

variable {p : XMLPattern} {text rest : CString} {c : Char}

/-- INTERNAL: no match begins at a letter that opens no tag. -/
theorem matchAt_cons (hc : c ≠ '<') : p.matchAt (c :: text) = none := by
  unfold XMLPattern.matchAt
  rw [List.findSome?_eq_none_iff]
  intro tag _
  have hprefix : ¬ (XMLPattern.opening tag).isPrefixOf (c :: text) := by
    simp [XMLPattern.opening, hc.symm]
  exact if_neg hprefix

/-- INTERNAL: no match begins behind the text. -/
theorem matchAt_nil : p.matchAt [] = none := by
  unfold XMLPattern.matchAt
  rw [List.findSome?_eq_none_iff]
  exact fun tag _ => if_neg nofun

/-- INTERNAL: what has no tag in it is passed over. -/
theorem regex_search_append (htext : '<' ∉ text) :
    p.regex_search (text ++ rest) = p.regex_search rest := by
  induction text with
  | nil => rfl
  | cons c text ih =>
    rw [List.mem_cons, not_or] at htext
    rw [List.cons_append, XMLPattern.regex_search, matchAt_cons (Ne.symm htext.1), Option.none_or,
      ih htext.2]

end Text

/-! ## A tag -/

section Tag

variable {p : XMLPattern} {name text rest : CString} {tag : String}

/-- INTERNAL: two names before a `>` are the same or differ before it. -/
theorem isPrefixOf_name {s name : CString} (hs : '>' ∉ s) (hname : '>' ∉ name) (rest : CString) :
    (s ++ ['>']).isPrefixOf (name ++ '>' :: rest) = true ↔ s = name := by
  induction s generalizing name with
  | nil =>
    cases name with
    | nil => simp
    | cons c name =>
      rw [List.mem_cons, not_or] at hname
      simp [hname.1]
  | cons c s ih =>
    rw [List.mem_cons, not_or] at hs
    cases name with
    | nil => simp [Ne.symm hs.1]
    | cons d name =>
      rw [List.mem_cons, not_or] at hname
      have hrest := ih hs.2 hname.2
      simp only [List.cons_append, List.isPrefixOf_cons_cons, Bool.and_eq_true, beq_iff_eq,
        List.cons.injEq, hrest]

/-- INTERNAL: a text that is not empty does not begin with a tag. -/
theorem closing_cons {c : Char} (hc : '<' ≠ c) (text : CString) :
    ¬ XMLPattern.closing <+: c :: text := by
  rw [XMLPattern.closing, List.cons_prefix_cons]
  exact fun hboth => hc hboth.1

/-- INTERNAL: a run of the class reaches the next tag if all of the text is of the class. -/
theorem takeWhile_text {chars : Char → Bool} (hchars : chars '<' = false) (htext : '<' ∉ text)
    (hrest : rest = [] ∨ ∃ rest', rest = '<' :: rest') :
    (if XMLPattern.closing.isPrefixOf
        ((text ++ rest).drop ((text ++ rest).takeWhile chars).length) = true
      then some ((text ++ rest).takeWhile chars) else none) =
    if (text.all chars && XMLPattern.closing.isPrefixOf rest) = true then some text else none := by
  induction text with
  | nil =>
    rcases hrest with rfl | ⟨rest', rfl⟩
    · rfl
    · simp [hchars]
  | cons c text ih =>
    rw [List.mem_cons, not_or] at htext
    rw [List.cons_append, List.takeWhile_cons, List.all_cons]
    cases hc : chars c with
    | true =>
      have hrun := congrArg (Option.map (c :: ·)) (ih htext.2)
      rw [apply_ite (Option.map (c :: ·)), apply_ite (Option.map (c :: ·))] at hrun
      simpa using hrun
    | false =>
      simp [closing_cons htext.1]

/-- INTERNAL: the value that a pattern reads behind a tag is the text, or none. -/
theorem value_text (hchars : p.chars '<' = false) (htext : '<' ∉ text)
    (hrest : rest = [] ∨ ∃ rest', rest = '<' :: rest') :
    ((p.value (text ++ rest)).filter fun v =>
        XMLPattern.closing.isPrefixOf ((text ++ rest).drop v.length)) =
      if (accepts p text && XMLPattern.closing.isPrefixOf rest) = true then some text
      else none := by
  unfold XMLPattern.value accepts
  split
  case isTrue =>
    rw [Option.filter_some]
    exact takeWhile_text hchars htext hrest
  case isFalse =>
    cases text with
    | nil =>
      rcases hrest with rfl | ⟨rest', rfl⟩
      · rfl
      · simp [hchars, StateDocument.single]
    | cons c text =>
      rw [List.mem_cons, not_or] at htext
      cases hc : p.chars c with
      | false => simp [hc, StateDocument.single]
      | true =>
        cases text with
        | nil => simp [hc, StateDocument.single, Option.filter_some]
        | cons d text =>
          rw [List.mem_cons, not_or] at htext
          simp [hc, StateDocument.single, closing_cons htext.2.1]

/-- INTERNAL: an opening tag is found where a tag of that name stands. -/
theorem isPrefixOf_opening (hclose : '>' ∉ tag.toList) (hname : '>' ∉ name) (more : CString) :
    (XMLPattern.opening tag).isPrefixOf ('<' :: (name ++ '>' :: more)) = true ↔
      tag.toList = name := by
  rw [XMLPattern.opening, List.cons_append, List.isPrefixOf_cons_cons, beq_self_eq_true,
    Bool.true_and]
  exact isPrefixOf_name hclose hname more

/-- INTERNAL: at a tag, the pattern reads the text behind it. -/
theorem matchTag_tag (hchars : p.chars '<' = false) (hclose : '>' ∉ tag.toList)
    (hname : '>' ∉ name) (htext : '<' ∉ text)
    (hrest : rest = [] ∨ ∃ rest', rest = '<' :: rest') :
    p.matchTag ('<' :: (name ++ '>' :: (text ++ rest))) tag =
      if tag.toList = name ∧ (accepts p text && XMLPattern.closing.isPrefixOf rest) = true
      then some text else none := by
  unfold XMLPattern.matchTag
  by_cases htag : tag.toList = name
  · have hdrop : ('<' :: (name ++ '>' :: (text ++ rest))).drop (XMLPattern.opening tag).length =
        text ++ rest := by
      rw [XMLPattern.opening, htag]
      simp [List.drop_append]
    rw [if_pos ((isPrefixOf_opening hclose hname _).mpr htag)]
    dsimp only
    rw [hdrop, value_text hchars htext hrest]
    simp only [htag, true_and]
  · rw [if_neg fun hprefix => htag ((isPrefixOf_opening hclose hname _).mp hprefix),
      if_neg fun hboth => htag hboth.1]

/-- INTERNAL: a match at a tag: its name is one of the pattern's, its text is accepted, and a
closing tag follows. -/
theorem matchAt_tag (hok : PatternOk p) (hname : '>' ∉ name) (htext : '<' ∉ text)
    (hrest : rest = [] ∨ ∃ rest', rest = '<' :: rest') :
    p.matchAt ('<' :: (name ++ '>' :: (text ++ rest))) =
      if (p.tags.any (fun tag => tag.toList = name) && accepts p text) = true ∧
        XMLPattern.closing.isPrefixOf rest = true
      then some text else none := by
  have hmatch : ∀ tag ∈ p.tags, p.matchTag ('<' :: (name ++ '>' :: (text ++ rest))) tag =
      if tag.toList = name ∧ (accepts p text && XMLPattern.closing.isPrefixOf rest) = true
      then some text else none :=
    fun tag htag => matchTag_tag hok.chars (hok.noClose tag htag) hname htext hrest
  unfold XMLPattern.matchAt
  split
  case isTrue hall =>
    rw [Bool.and_eq_true, List.any_eq_true] at hall
    obtain ⟨⟨⟨tag, htag, hsame⟩, haccepts⟩, hcloses⟩ := hall
    have hsome : (p.tags.findSome?
        (p.matchTag ('<' :: (name ++ '>' :: (text ++ rest))))).isSome := by
      rw [List.findSome?_isSome_iff]
      refine ⟨tag, htag, ?_⟩
      rw [hmatch tag htag, if_pos ⟨of_decide_eq_true hsame, by rw [haccepts, hcloses]; rfl⟩]
      rfl
    obtain ⟨v, hv⟩ := Option.isSome_iff_exists.mp hsome
    obtain ⟨tag', htag', hv'⟩ := List.exists_of_findSome?_eq_some hv
    rw [hmatch tag' htag', Option.ite_none_right_eq_some] at hv'
    rw [hv, hv'.2]
  case isFalse hnone =>
    rw [List.findSome?_eq_none_iff]
    intro tag htag
    rw [hmatch tag htag, if_neg]
    rintro ⟨hsame, hboth⟩
    rw [Bool.and_eq_true] at hboth
    apply hnone
    rw [Bool.and_eq_true, List.any_eq_true]
    exact ⟨⟨⟨tag, htag, decide_eq_true hsame⟩, hboth.1⟩, hboth.2⟩

end Tag

/-! ## A document -/

section Document

variable {p : XMLPattern}

/-- The element has a name of the pattern and a content of its kind. -/
def fits (p : XMLPattern) (e : StateElement) : Bool :=
  p.tags.any (fun tag => tag.toList = e.name) && accepts p e.content

/-- INTERNAL: a text behind a tag ends where the next tag begins. -/
theorem renderTags_head (tags : List (Tag × TagText)) :
    renderTags tags = [] ∨ ∃ rest, renderTags tags = '<' :: rest := by
  cases tags with
  | nil => exact .inl rfl
  | cons item tags =>
    obtain ⟨tag, t⟩ := item
    cases tag with
    | opening n => exact .inr ⟨_, rfl⟩
    | closing n => exact .inr ⟨_, rfl⟩

/-- INTERNAL: an opening tag and its text come first. -/
theorem renderTags_opening (n : TagName) (t : TagText) (tags : List (Tag × TagText)) :
    renderTags ((.opening n, t) :: tags) =
      '<' :: (n.name ++ '>' :: (t.text ++ renderTags tags)) := by
  simp [renderTags, Tag.render]

/-- INTERNAL: a closing tag and its text come first. -/
theorem renderTags_closing (n : TagName) (t : TagText) (tags : List (Tag × TagText)) :
    renderTags ((.closing n, t) :: tags) =
      '<' :: (('/' :: n.name) ++ '>' :: (t.text ++ renderTags tags)) := by
  simp [renderTags, Tag.render]

/-- INTERNAL: a closing tag comes first exactly when the text says so. -/
theorem isPrefixOf_renderTags (tags : List (Tag × TagText)) :
    XMLPattern.closing.isPrefixOf (renderTags tags) = closes tags := by
  cases tags with
  | nil => rfl
  | cons item tags =>
    obtain ⟨tag, t⟩ := item
    cases tag with
    | closing n => rfl
    | opening n =>
      have hslash := n.noSlash
      have hother (c : Char) (more : CString) (hc : '/' ≠ c) :
          XMLPattern.closing.isPrefixOf ('<' :: c :: more) = false := by
        rw [XMLPattern.closing, List.isPrefixOf_cons_cons, List.isPrefixOf_cons_cons,
          beq_eq_false_iff_ne.mpr hc, Bool.false_and, Bool.and_false]
      rw [renderTags_opening]
      cases hname : n.name with
      | nil => exact hother _ _ (by decide)
      | cons c name =>
        rw [hname, List.head?_cons] at hslash
        exact hother _ _ fun hc => hslash (congrArg some hc.symm)

/-- INTERNAL: what a search finds behind the tags. Each tag is either where it stops, or passed
over with the text behind it. -/
theorem regex_search_renderTags (hok : PatternOk p) (tags : List (Tag × TagText)) :
    p.regex_search (renderTags tags) =
      ((elementsOf tags).find? (fits p)).map StateElement.content := by
  induction tags with
  | nil =>
    exact matchAt_nil
  | cons item tags ih =>
    obtain ⟨tag, t⟩ := item
    have hskip (name : CString) (hname : '<' ∉ name) :
        p.regex_search (name ++ '>' :: (t.text ++ renderTags tags)) =
          p.regex_search (renderTags tags) := by
      rw [regex_search_append hname]
      have htext : '<' ∉ '>' :: t.text := by
        rw [List.mem_cons, not_or]
        exact ⟨by decide, t.noTag⟩
      exact regex_search_append htext
    cases tag with
    | opening n =>
      have hname : '>' ∉ n.name := fun hmem => (n.noTag _ hmem).2 rfl
      have hname' : '<' ∉ n.name := fun hmem => (n.noTag _ hmem).1 rfl
      rw [renderTags_opening, XMLPattern.regex_search, hskip n.name hname', ih,
        matchAt_tag hok hname t.noTag (renderTags_head tags), isPrefixOf_renderTags, elementsOf]
      cases closes tags with
      | false => simp
      | true =>
        rw [if_pos rfl, List.find?_cons]
        cases hfits : fits p ⟨n.name, t.text⟩ with
        | true =>
          rw [if_pos ⟨hfits, rfl⟩]
          rfl
        | false =>
          have hfits' :
              ¬ (p.tags.any (fun tag => tag.toList = n.name) && accepts p t.text) = true := by
            rw [show (p.tags.any _ && accepts p t.text) = false from hfits]
            exact Bool.false_ne_true
          rw [if_neg fun hboth => hfits' hboth.1, Option.none_or]
    | closing n =>
      have hname : '>' ∉ '/' :: n.name := by
        rw [List.mem_cons, not_or]
        exact ⟨by decide, fun hmem => (n.noTag _ hmem).2 rfl⟩
      have hname' : '<' ∉ '/' :: n.name := by
        rw [List.mem_cons, not_or]
        exact ⟨by decide, fun hmem => (n.noTag _ hmem).1 rfl⟩
      have hother : p.tags.any (fun tag => tag.toList = '/' :: n.name) = false := by
        rw [List.any_eq_false]
        intro tag htag hsame
        have hslash := hok.noSlash tag htag
        rw [of_decide_eq_true hsame] at hslash
        exact hslash rfl
      rw [renderTags_closing, XMLPattern.regex_search, hskip _ hname', ih,
        matchAt_tag hok hname t.noTag (renderTags_head tags), hother, Bool.false_and, elementsOf,
        if_neg (fun hboth => Bool.false_ne_true hboth.1), Option.none_or]

/-- INTERNAL: **a pattern finds the first element that fits it.** -/
theorem regex_search_render (hok : PatternOk p) (doc : StateDocument) :
    p.regex_search doc.render = ((elementsOf doc.tags).find? (fits p)).map StateElement.content := by
  rw [StateDocument.render, regex_search_append doc.lead.noTag, regex_search_renderTags hok]

/-- INTERNAL: **the search on the text reads what the document says.** -/
theorem getXMLValue_render (hok : PatternOk p) (doc : StateDocument) :
    getXMLValue doc.render p = doc.read p.tags (accepts p) := by
  rw [getXMLValue, regex_search_render hok]
  rfl

/-- INTERNAL: **the state that is read from the text of a document is what the document says.**
SOURCE: WeatherModule.cpp:92-116 -/
theorem parseState_render (doc : StateDocument) : parseState doc.render = doc.info := by
  have hmany (tags : List String) (chars : Char → Bool) (hchars : chars '<' = false)
      (htags : ∀ tag ∈ tags, '>' ∉ tag.toList ∧ tag.toList.head? ≠ some '/') :
      getXMLValue doc.render ⟨tags, chars, true⟩ = doc.read tags (·.all chars) :=
    getXMLValue_render ⟨hchars, fun tag h => (htags tag h).1, fun tag h => (htags tag h).2⟩ doc
  have hsingle (tags : List String) (chars : Char → Bool) (hchars : chars '<' = false)
      (htags : ∀ tag ∈ tags, '>' ∉ tag.toList ∧ tag.toList.head? ≠ some '/') :
      getXMLValue doc.render ⟨tags, chars, false⟩ = doc.read tags (StateDocument.single chars) :=
    getXMLValue_render ⟨hchars, fun tag h => (htags tag h).1, fun tag h => (htags tag h).2⟩ doc
  unfold parseState heatPattern coolPattern
  simp (disch := decide) only [hmany, hsingle]
  rfl

end Document

/-! ## The polls -/

section Polls

variable {d : Thermostat} {devices : List Thermostat} {k : ℕ}

/-- INTERNAL: what a poll does with a device. SOURCE: WeatherModule.cpp:133-139 -/
theorem device_polled (docs : ℕ → StateDocument) (i : ℕ) (d : Thermostat) :
    device (d.polled docs i) =
      if (device d).mServer ≠ [] then update (device d) (docs i).render else device d := by
  unfold Thermostat.polled
  show _ = if d.mServer ≠ [] then _ else _
  split
  case isTrue =>
    unfold update
    rw [parseState_render]
    rfl
  case isFalse => rfl

/-- INTERNAL: a poll of the pages is a poll of the documents. -/
theorem poll_device (docs : ℕ → StateDocument) (devices : List Thermostat) :
    (poll (fun i => (docs i).render) 0 (devices.map device)).1 =
      (devices.mapIdx (Thermostat.polled docs)).map device := by
  apply List.ext_getElem?
  intro i
  rw [ThermostatModes.getElem?_poll, Nat.zero_add, List.getElem?_map, List.getElem?_map,
    List.getElem?_mapIdx]
  cases devices[i]? with
  | none => rfl
  | some d => exact congrArg some (device_polled docs i d).symm

/-- INTERNAL: the events of a poll, one device after the other. -/
theorem changes_device (devices devices' : List Thermostat) (k : ℕ) :
    ThermostatModes.changes k (devices.map device) (devices'.map device) =
      ((devices.zip devices').zipIdx k).filterMap Thermostat.change := by
  induction devices generalizing devices' k with
  | nil => rfl
  | cons d devices ih =>
    cases devices' with
    | nil => rfl
    | cons d' devices' =>
      rw [List.map_cons, List.map_cons, ThermostatModes.changes, ih, List.zip_cons_cons,
        List.zipIdx_cons, List.filterMap_cons, Thermostat.change]
      by_cases hsame : d'.status ≠ d.status
      · simp [hsame, device]
      · simp [hsame, device]

/-- INTERNAL: a step of the module is a step of the thermostats. -/
theorem module_next (s : Thermostats) (act : Act) :
    moduleNext s.module act = (s.next act).module := by
  cases act with
  | turn t docs =>
    show s.module.turn t (fun i => (docs i).render) = _
    by_cases hdue : s.mLastPollTime ≤ t
    · have hmodule : s.module.turn t (fun i => (docs i).render) =
          ⟨t + 30, (poll (fun i => (docs i).render) 0 (s.devices.map device)).1,
            s.events ++ (poll (fun i => (docs i).render) 0 (s.devices.map device)).2⟩ :=
        if_pos hdue
      have hnext : s.next (.turn t docs) = ⟨t + 30, s.devices.mapIdx (Thermostat.polled docs),
          s.events ++ changed s.devices (s.devices.mapIdx (Thermostat.polled docs))⟩ :=
        if_pos hdue
      have hevents := @ThermostatModes.poll_events (fun i => (docs i).render)
        (s.devices.map device) 0
      rw [poll_device, changes_device] at hevents
      rw [hmodule, hnext, poll_device, hevents]
      rfl
    · have hmodule : s.module.turn t (fun i => (docs i).render) = s.module := if_neg hdue
      have hnext : s.next (.turn t docs) = s := if_neg hdue
      rw [hmodule, hnext]
  | setIP ip =>
    show (⟨_, _, _⟩ : WeatherModule) = ⟨_, _, _⟩
    rw [Thermostats.next, List.map_append]
    rfl

end Polls

/-- **Over every run of polls and added devices, the module keeps of each device what the document
that it returned last says, and its events are those of the thermostats whose documents say another
status than before.** SOURCE: WeatherModule.cpp:84-175 -/
theorem module_refines (acts : List Act) :
    acts.foldl moduleNext .new = (acts.foldl Thermostats.next .init).module := by
  show acts.foldl moduleNext Thermostats.init.module = _
  exact List.foldl_hom Thermostats.module fun s act => module_next s act

end Dhas.Analysis.DocumentPolls
