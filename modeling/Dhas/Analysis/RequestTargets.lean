import Dhas.Model.ThermostatRequests

/-!
# The requests that the thermostats read

Every text that the weather module sends begins with `GET /state.xml`, but what a REST call gives
for the temperature is put into the target as it is. A character that a target does not hold ends
it, and what follows may be anything, another request among it; behind a `&` another parameter
begins. With none of these in a temperature, the thermostats read what was asked for.
-/

set_option autoImplicit false

namespace Dhas.Analysis.RequestTargets

open Dhas.Library Dhas.Program Dhas.Model
open Dhas.Model.ThermostatRequests

/-- What the servers read is what was asked for. -/
def ReadAsAsked (s : ThermostatRequests) : Prop :=
  s.sent.map (fun c => (c.1, readRequests c.2)) =
    s.asked.map fun a => (a.1, some [a.2.reading])

/-- A text that is one value of a query. -/
def IsValue (text : CString) : Prop := (∀ c ∈ text, isVisible c = true) ∧ '&' ∉ text

/-- The temperature of a call that reaches a thermostat is one value. -/
def AsksForValues (s : ThermostatRequests) : Act → Prop
  | .call (.setpoint id temp) true => (s.module.device id).isSome → IsValue temp
  | _ => True

/-! ## A target -/

section Target

variable {server url : CString}

/-- The lines behind the first one. -/
def fields (server : CString) : List CString :=
  ["Host: ".toList ++ server, "Connection: close".toList]

/-- INTERNAL: the text of a request is the request line and its fields. -/
theorem requestText_eq (server url : CString) :
    HTTPCommunication.requestText server url = requestSyntax.write url (fields server) := by
  unfold RequestSyntax.write requestSyntax fields HTTPCommunication.requestText
  simp only [List.flatMap_cons, List.flatMap_nil, List.append_nil, List.append_assoc]

/-- INTERNAL: the lines of the fields are as they have to be when the server has a name. -/
theorem fields_ok (hserver : ∀ c ∈ server, isVisible c = true) :
    ∀ field ∈ fields server, field ≠ [] ∧ '\r' ∉ field := by
  have hcr : '\r' ∉ server := by
    intro hmem
    have hvisible := hserver _ hmem
    revert hvisible
    decide
  intro field hfield
  rcases List.mem_cons.mp hfield with rfl | hfield
  · refine ⟨by simp, fun hmem => ?_⟩
    rcases List.mem_append.mp hmem with hhost | hmem
    · revert hhost
      decide
    · exact hcr hmem
  · obtain rfl := List.mem_singleton.mp hfield
    decide

/-- INTERNAL: a target of visible characters is read. -/
theorem readRequests_of_visible (hserver : ∀ c ∈ server, isVisible c = true)
    (hurl : ∀ c ∈ url, isVisible c = true) :
    readRequests (HTTPCommunication.requestText server url) = some [readTarget url] := by
  have hread := RequestSyntax.read_write (q := requestSyntax) hurl (fields_ok hserver)
  unfold readRequests
  rw [requestText_eq, hread]
  rfl

/-- INTERNAL: what is read of a target is the part before the first other character. -/
theorem readTarget_of_readRequests {r : CString × List (CString × CString)}
    (h : readRequests (HTTPCommunication.requestText server url) = some [r]) :
    r = readTarget (url.takeWhile isVisible) := by
  unfold readRequests at h
  rw [requestText_eq, Option.map_eq_some_iff] at h
  obtain ⟨targets, hread, hmap⟩ := h
  obtain ⟨target, rfl, rfl⟩ := List.map_eq_singleton_iff.mp hmap
  rw [RequestSyntax.read_eq_singleton hread]
  rfl

/-- INTERNAL: a text is cut at the first letter of that kind. -/
theorem cutAt_append {c : Char} {before : CString} (h : c ∉ before) (after : CString) :
    cutAt c (before ++ c :: after) = (before, after) := by
  have hbefore : ∀ x ∈ before, decide (x ≠ c) = true :=
    fun x hx => decide_eq_true fun hxc => h (hxc ▸ hx)
  unfold cutAt
  rw [List.takeWhile_append_of_pos hbefore, List.dropWhile_append_of_pos hbefore]
  simp

/-- INTERNAL: a query with one parameter, when there is no `&` in its value.
The values are what is read, so one `&` is one parameter more. -/
theorem readTarget_parameter {path name : CString} (hpath : '?' ∉ path)
    (hname : '&' ∉ name ∧ '=' ∉ name) (x y : CString) :
    readTarget (path ++ '?' :: (name ++ '=' :: x)) = (path, [(name, y)]) ↔ x = y ∧ '&' ∉ x := by
  have hquery : name ++ '=' :: x ≠ [] := by simp
  unfold readTarget
  simp only [cutAt_append hpath, if_neg hquery, Prod.mk.injEq, true_and]
  by_cases hamp : '&' ∈ x
  · obtain ⟨u, v, rfl⟩ := List.append_of_mem hamp
    have hsplit : (name ++ '=' :: (u ++ '&' :: v)).splitOn '&' =
        (name ++ '=' :: u).splitOn '&' ++ v.splitOn '&' := by
      rw [← List.splitOn_append_cons_self, List.append_assoc, List.cons_append]
    constructor
    · intro heq
      have hlength := congrArg List.length heq
      rw [hsplit, List.length_map, List.length_append, List.length_singleton] at hlength
      have hu := List.length_pos_iff.mpr (List.splitOn_ne_nil '&' (name ++ '=' :: u))
      have hv := List.length_pos_iff.mpr (List.splitOn_ne_nil '&' v)
      omega
    · rintro ⟨-, hnot⟩
      exact absurd hamp hnot
  · have hnot : '&' ∉ name ++ '=' :: x := by
      simp only [List.mem_append, List.mem_cons, not_or]
      exact ⟨hname.1, by decide, hamp⟩
    rw [List.splitOn_eq_singleton hnot, List.map_singleton, cutAt_append hname.2]
    simp [hamp]

/-- INTERNAL: a value that is put into a target is read back exactly when it is one. -/
theorem readRequests_parameter (hserver : ∀ c ∈ server, isVisible c = true)
    {before path name : CString} (hbefore : ∀ c ∈ before, isVisible c = true)
    (hcut : before = path ++ '?' :: (name ++ ['='])) (hpath : '?' ∉ path)
    (hname : '&' ∉ name ∧ '=' ∉ name) (x : CString) :
    readRequests (HTTPCommunication.requestText server (before ++ x)) =
        some [(path, [(name, x)])] ↔ IsValue x := by
  have htarget (y : CString) : before ++ y = path ++ '?' :: (name ++ '=' :: y) := by
    rw [hcut]
    simp
  constructor
  · intro h
    have hread := readTarget_of_readRequests h
    rw [List.takeWhile_append_of_pos hbefore, htarget] at hread
    obtain ⟨hsame, hamp⟩ := (readTarget_parameter hpath hname _ x).mp hread.symm
    rw [hsame] at hamp
    exact ⟨List.takeWhile_eq_self_iff.mp hsame, hamp⟩
  · rintro ⟨hvisible, hamp⟩
    have hall : ∀ c ∈ before ++ x, isVisible c = true := by
      intro c hc
      rcases List.mem_append.mp hc with hc | hc
      · exact hbefore c hc
      · exact hvisible c hc
    rw [readRequests_of_visible hserver hall, htarget,
      (readTarget_parameter hpath hname x x).mpr ⟨rfl, hamp⟩]

/-- The page that is asked for. -/
def target : ThermostatRequest → CString
  | .state => "/state.xml".toList
  | .resetFilter => "/state.xml?rstFilt=1".toList
  | .setTemp temp => "/state.xml?setTemp=".toList ++ temp
  | .heatMode mode => "/state.xml?heatMode=".toList ++ decimal mode.toInt
  | .hold => "/state.xml?hold=1".toList

/-- INTERNAL: a temperature is read back exactly when it is one value. -/
theorem readRequests_setTemp (hserver : ∀ c ∈ server, isVisible c = true) (temp : CString) :
    readRequests (HTTPCommunication.requestText server (target (.setTemp temp))) =
        some [(ThermostatRequest.setTemp temp).reading] ↔ IsValue temp := by
  have hbefore : ∀ c ∈ "/state.xml?setTemp=".toList, isVisible c = true :=
    List.all_eq_true.mp (by decide)
  have hcut : "/state.xml?setTemp=".toList =
      "/state.xml".toList ++ '?' :: ("setTemp".toList ++ ['=']) := rfl
  have hpath : '?' ∉ "/state.xml".toList := by decide
  have hname : '&' ∉ "setTemp".toList ∧ '=' ∉ "setTemp".toList := by decide
  exact readRequests_parameter hserver hbefore hcut hpath hname temp

/-- INTERNAL: a request without a temperature is read as it is. -/
theorem readRequests_fixed (hserver : ∀ c ∈ server, isVisible c = true) {r : ThermostatRequest}
    (hvisible : (target r).all isVisible = true) (hread : readTarget (target r) = r.reading) :
    readRequests (HTTPCommunication.requestText server (target r)) = some [r.reading] := by
  rw [readRequests_of_visible hserver (List.all_eq_true.mp hvisible), hread]

/-- INTERNAL: which requests are read as they were meant. -/
theorem readRequests_iff (hserver : ∀ c ∈ server, isVisible c = true) (r : ThermostatRequest) :
    readRequests (HTTPCommunication.requestText server (target r)) = some [r.reading] ↔
      ∀ temp, r = .setTemp temp → IsValue temp := by
  cases r with
  | setTemp temp =>
    rw [readRequests_setTemp hserver]
    simp
  | state => exact ⟨by simp, fun _ => readRequests_fixed hserver rfl rfl⟩
  | resetFilter => exact ⟨by simp, fun _ => readRequests_fixed hserver rfl rfl⟩
  | hold => exact ⟨by simp, fun _ => readRequests_fixed hserver rfl rfl⟩
  | heatMode mode =>
    refine ⟨by simp, fun _ => ?_⟩
    cases mode <;> exact readRequests_fixed hserver rfl rfl

end Target

/-! ## The callbacks -/

section Callbacks

variable {m : WeatherModule} {id text : CString} {r : ThermostatRequest}

/-- INTERNAL: a request to a device that is listed goes to its server. -/
theorem request_of_some {dev : Device} (h : m.device id = some dev) (url : CString) :
    m.request id url = .getURL dev.mServer url := by
  unfold WeatherModule.request
  rw [h]

/-- INTERNAL: no request is made without the device. -/
theorem request_of_none (h : m.device id = none) (url : CString) : m.request id url = .nothing := by
  unfold WeatherModule.request
  rw [h]

/-- INTERNAL: `setmode_callback` knows the modes that there are.
SOURCE: WeatherModule.cpp:263-285 -/
theorem modenum_eq (text : CString) :
    WeatherModule.modenum text = ((RestCall.mode text).map fun mode => decimal mode.toInt).getD
      [] := by
  unfold WeatherModule.modenum RestCall.mode
  split
  · rfl
  · split
    · rfl
    · split <;> rfl

/-- INTERNAL: a mode that has a number is sent, and any other is an error. -/
theorem setmode_callback_of_some {dev : Device} (h : m.device id = some dev) (text : CString) :
    m.setmode_callback id text =
      if WeatherModule.modenum text = [] then .error
      else .getURL dev.mServer ("/state.xml?heatMode=".toList ++ WeatherModule.modenum text) := by
  unfold WeatherModule.setmode_callback
  rw [h]

/-- INTERNAL: a callback asks for the page of what the call is for, or does not ask.
SOURCE: WeatherModule.cpp:188-298 -/
theorem callback_cases (c : RestCall) (m : WeatherModule) :
    (∃ server r, c.asks m = some (server, r) ∧ c.callback m = .getURL server (target r)) ∨
      c.asks m = none ∧ (c.callback m = .nothing ∨ c.callback m = .error) := by
  cases hdevice : m.device c.id with
  | none =>
    refine .inr ⟨by simp [RestCall.asks, hdevice], ?_⟩
    cases c with
    | setmode id text =>
      have hnone : m.device id = none := hdevice
      exact .inl (by simp [RestCall.callback, WeatherModule.setmode_callback, hnone])
    | getThermostat id | resetfilter id | setpoint id temp | toggleschedule id =>
      have hnone : m.device id = none := hdevice
      exact .inl (request_of_none hnone _)
  | some dev =>
    cases c with
    | setmode id text =>
      have hsome : m.device id = some dev := hdevice
      cases hmode : RestCall.mode text with
      | none =>
        have hnum : WeatherModule.modenum text = [] := by rw [modenum_eq, hmode]; rfl
        refine .inr ⟨by simp [RestCall.asks, RestCall.meaning, hmode], .inr ?_⟩
        have hcallback := setmode_callback_of_some hsome text
        rw [if_pos hnum] at hcallback
        exact hcallback
      | some mode =>
        have hnum : WeatherModule.modenum text = decimal mode.toInt := by
          rw [modenum_eq, hmode]
          rfl
        have hcallback := setmode_callback_of_some hsome text
        rw [hnum, if_neg (decimal_ne_nil _)] at hcallback
        refine .inl ⟨dev.mServer, .heatMode mode, ?_, hcallback⟩
        simp [RestCall.asks, RestCall.meaning, hmode, hdevice]
    | getThermostat id =>
      have hsome : m.device id = some dev := hdevice
      exact .inl ⟨dev.mServer, .state, by simp [RestCall.asks, RestCall.meaning, hdevice],
        request_of_some hsome _⟩
    | resetfilter id =>
      have hsome : m.device id = some dev := hdevice
      exact .inl ⟨dev.mServer, .resetFilter, by simp [RestCall.asks, RestCall.meaning, hdevice],
        request_of_some hsome _⟩
    | setpoint id temp =>
      have hsome : m.device id = some dev := hdevice
      exact .inl ⟨dev.mServer, .setTemp temp, by simp [RestCall.asks, RestCall.meaning, hdevice],
        request_of_some hsome _⟩
    | toggleschedule id =>
      have hsome : m.device id = some dev := hdevice
      exact .inl ⟨dev.mServer, .hold, by simp [RestCall.asks, RestCall.meaning, hdevice],
        request_of_some hsome _⟩

end Callbacks

/-! ## The runs -/

section Steps

variable {resolves : CString → Bool} {s s' : ThermostatRequests}
  (hresolves : ∀ server, resolves server = true → ∀ c ∈ server, isVisible c = true)

/-- INTERNAL: what is added to the texts and to what was asked for. -/
theorem readAsAsked_record {texts : List (CString × CString)}
    {asked : List (CString × ThermostatRequest)} (h : ReadAsAsked s) :
    ReadAsAsked (s.record texts asked) ↔
      texts.map (fun c => (c.1, readRequests c.2)) =
        asked.map fun a => (a.1, some [a.2.reading]) := by
  unfold ReadAsAsked at h ⊢
  unfold record
  rw [List.map_append, List.map_append, h]
  exact List.append_right_inj _

include hresolves in
/-- INTERNAL: a poll asks each thermostat for its state, and is read so.
SOURCE: WeatherModule.cpp:131-136 -/
theorem readAsAsked_turn (h : ReadAsAsked s) {t : ℤ} {pages : ℕ → Option CString}
    (hstep : step resolves s (.turn t pages) = some s') : ReadAsAsked s' := by
  rw [step, Option.ite_none_right_eq_some] at hstep
  obtain ⟨hdue, hs⟩ := hstep
  obtain rfl := Option.some.inj hs
  refine (readAsAsked_record (s := { s with module := _ }) h).mpr ?_
  rw [List.map_map, List.map_map]
  refine List.map_congr_left fun server hserver => ?_
  have hvisible : ∀ c ∈ server, isVisible c = true := by
    unfold polled at hserver
    split at hserver
    case isFalse => cases hserver
    case isTrue ht =>
      obtain ⟨it, hit, rfl⟩ := List.mem_map.mp hserver
      obtain ⟨hmem, hpolled⟩ := List.mem_filter.mp hit
      have hne : it.1.mServer ≠ [] := (decide_eq_true_iff.mp hpolled).1
      exact hresolves _ (hdue ht _ (List.fst_mem_of_mem_zipIdx hmem) hne)
  have hread := (readRequests_iff hvisible .state).mpr (fun _ h => ThermostatRequest.noConfusion h)
  simp only [Function.comp_apply, connection]
  exact congrArg (Prod.mk server) hread

/-- INTERNAL: what a call that reaches a thermostat has to give. -/
theorem asksForValues_of_asks {c : RestCall} {server : CString} {r : ThermostatRequest}
    (h : c.asks s.module = some (server, r)) :
    AsksForValues s (.call c true) ↔ ∀ temp, r = .setTemp temp → IsValue temp := by
  obtain ⟨dev, hdevice, hmeaning⟩ := Option.bind_eq_some_iff.mp h
  obtain ⟨r', hr, hpair⟩ := Option.map_eq_some_iff.mp hmeaning
  obtain ⟨-, rfl⟩ := Prod.mk.inj hpair
  cases c with
  | setpoint id temp =>
    have hsome : s.module.device id = some dev := hdevice
    obtain rfl := Option.some.inj hr
    simp [AsksForValues, hsome]
  | setmode id text =>
    obtain ⟨mode, -, rfl⟩ := Option.map_eq_some_iff.mp hr
    simp [AsksForValues]
  | getThermostat | resetfilter | toggleschedule =>
    obtain rfl := Option.some.inj hr
    simp [AsksForValues]

/-- INTERNAL: a callback that makes no request asks for values, whatever they are. -/
theorem asksForValues_of_asks_none {c : RestCall} (h : c.asks s.module = none) :
    AsksForValues s (.call c true) := by
  cases c with
  | setpoint id temp =>
    intro hdevice
    obtain ⟨dev, hdev⟩ := Option.isSome_iff_exists.mp hdevice
    have hsome : s.module.device (RestCall.setpoint id temp).id = some dev := hdev
    rw [RestCall.asks, hsome] at h
    cases h
  | getThermostat | resetfilter | setmode | toggleschedule => trivial

include hresolves in
/-- INTERNAL: a call is read as it was meant exactly when it asks for a value.
SOURCE: WeatherModule.cpp:188-298 -/
theorem readAsAsked_call (h : ReadAsAsked s) {c : RestCall} {connected : Bool}
    (hstep : step resolves s (.call c connected) = some s') :
    ReadAsAsked s' ↔ AsksForValues s (.call c connected) := by
  have hnone : AsksForValues s (.call c false) := by
    cases c <;> trivial
  rcases callback_cases c s.module with ⟨server, r, hasks, hcallback⟩ | ⟨hasks, hcallback⟩
  · simp only [step, hcallback, hasks, Option.toList_some] at hstep
    rw [Option.ite_none_right_eq_some] at hstep
    obtain ⟨hserver, hs⟩ := hstep
    cases connected with
    | false =>
      obtain rfl := Option.some.inj hs
      exact iff_of_true h hnone
    | true =>
      obtain rfl := Option.some.inj hs
      rw [readAsAsked_record h, asksForValues_of_asks hasks,
        ← readRequests_iff (hresolves server hserver) r]
      simp [connection]
  · have hs : s' = s := by
      have hsame : s.record [] [] = s := by simp [record]
      rcases hcallback with hcallback | hcallback <;>
        simp only [step, hcallback, hasks, Option.toList_none, hsame, ite_self,
          Option.some.injEq] at hstep <;> exact hstep.symm
    subst hs
    refine iff_of_true h ?_
    cases connected with
    | false => exact hnone
    | true => exact asksForValues_of_asks_none hasks

end Steps

/-- **The thermostats read what they were asked for, request by request, exactly in the runs in
which every temperature that a call gives for one of them is made of characters that a request
target may hold, with no `&` among them.**
SOURCE: WeatherModule.cpp:125-155, 188-298, HTTPCommunication.cpp:71-75 -/
theorem readAsAsked_throughout_iff (resolves : CString → Bool)
    (hresolves : ∀ server, resolves server = true → ∀ c ∈ server, isVisible c = true)
    (acts : List Act) :
    Throughout (step resolves) ReadAsAsked init acts ↔
      Along (step resolves) AsksForValues init acts := by
  refine throughout_iff_along (I := ReadAsAsked) (fun _ h => h) ?_ ?_ rfl
  · intro s a s' h hC hstep
    cases a with
    | setIP ip =>
      obtain rfl := Option.some.inj hstep
      exact h
    | turn t pages => exact readAsAsked_turn hresolves h hstep
    | call c connected => exact (readAsAsked_call hresolves h hstep).mpr hC
  · intro s a s' h hstep hP
    cases a with
    | setIP | turn => trivial
    | call c connected => exact (readAsAsked_call hresolves h hstep).mp hP

/-- The first thermostat is given a setpoint. -/
def setsFirst (temp : CString) : List Act :=
  [.setIP "10.0.0.7".toList, .call (.setpoint "0".toList temp) true]

/-- A temperature of three digits and a point is read. -/
theorem readAsAsked_setsFirst :
    Throughout (step fun server => server.all isVisible) ReadAsAsked init
        (setsFirst "21.5".toList) ∧
      (run (step fun server => server.all isVisible) init
        (setsFirst "21.5".toList)).isSome := by
  refine ⟨?_, rfl⟩
  refine (readAsAsked_throughout_iff (fun server => server.all isVisible)
    (fun _ hserver => List.all_eq_true.mp hserver) _).mpr ?_
  have hvalue : IsValue "21.5".toList := ⟨List.all_eq_true.mp (by decide), by decide⟩
  intro s _
  refine ⟨trivial, fun s' _ => ?_⟩
  exact ⟨fun _ => hvalue, trivial⟩

/-- A temperature with a request behind it: the thermostat sets its mode too. -/
example :
    readRequests (HTTPCommunication.requestText "10.0.0.7".toList (target (.setTemp
      ("20 HTTP/1.1".toList ++ ['\r', '\n', '\r', '\n'] ++
        "GET /state.xml?heatMode=2".toList)))) =
      some [(ThermostatRequest.setTemp "20".toList).reading,
        (ThermostatRequest.heatMode .cool).reading] := rfl

end Dhas.Analysis.RequestTargets
