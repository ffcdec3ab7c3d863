import Dhas.Program.Wiz110sr

/-!
# Finding the serial port

The modules of the network answer in any order, any number of times, and with anything. The
constructor of `WizIPSerialPort` takes the last answer of the module with the MAC address that
it is given, and configures that module when its baud rate is another one. What it does, and
what it sends, depends on the answers of that module only.
-/

set_option autoImplicit false

namespace Dhas.Analysis.WizDiscovery

open Dhas.Program

/-! ## The text of an address -/

/-- INTERNAL: a byte is written with two letters. -/
theorem length_hexByte (b : UInt8) : (hexByte b).length = 2 := by
  have hle : (Nat.toDigits 16 b.toNat).length ≤ 2 :=
    (Nat.length_toDigits_le_iff (by omega) (by omega)).mpr b.toNat_lt
  unfold hexByte
  dsimp only
  rw [List.length_append, List.length_replicate]
  omega

/-- INTERNAL: different bytes are written differently. -/
theorem hexByte_injective : Function.Injective hexByte := by
  intro b b' h
  have hvalue := congrArg (fun s => (readDigits 16 0 s).1) h
  simp only [hexByte, readDigits_padded] at hvalue
  exact UInt8.toNat_inj.mp hvalue

/-- INTERNAL: two bytes and what follows their texts. -/
theorem hexByte_append_inj {b b' : UInt8} {rest rest' : CString}
    (h : hexByte b ++ ':' :: rest = hexByte b' ++ ':' :: rest') : b = b' ∧ rest = rest' := by
  obtain ⟨hbyte, hrest⟩ := List.append_inj h (by rw [length_hexByte, length_hexByte])
  exact ⟨hexByte_injective hbyte, List.tail_eq_of_cons_eq hrest⟩

/-- INTERNAL: a text belongs to one MAC address. SOURCE: Wiz110sr.cpp:70-77 -/
theorem macText_injective : Function.Injective macText := by
  intro mac mac' h
  obtain ⟨h0, h⟩ := hexByte_append_inj h
  obtain ⟨h1, h⟩ := hexByte_append_inj h
  obtain ⟨h2, h⟩ := hexByte_append_inj h
  obtain ⟨h3, h⟩ := hexByte_append_inj h
  obtain ⟨h4, h⟩ := hexByte_append_inj h
  have h5 := hexByte_injective h
  apply Vector.ext
  intro i hi
  match i, hi with
  | 0, _ => exact h0
  | 1, _ => exact h1
  | 2, _ => exact h2
  | 3, _ => exact h3
  | 4, _ => exact h4
  | 5, _ => exact h5

/-! ## The two loops -/

/-- The configurations that arrive before a receive fails. -/
def answers : List WizRecv → List Wiz110srConfig
  | [] => []
  | r :: rs =>
    match r.received with
    | none => []
    | some conf => conf :: answers rs

/-- What is still to be received behind the first failure. -/
def behind : List WizRecv → List WizRecv
  | [] => []
  | r :: rs =>
    match r.received with
    | none => rs
    | some _ => behind rs

/-- The last answer of a module. -/
def lastAnswer (mac : Vector UInt8 6) (recvs : List WizRecv) : Option Wiz110srConfig :=
  ((answers recvs).filter fun conf => conf.mac = mac).getLast?

/-- The first answer of the module accepts the configuration. -/
def Accepted (mac : Vector UInt8 6) (recvs : List WizRecv) : Prop :=
  ∃ response, (answers recvs).find? (fun conf => conf.mac = mac) = some response ∧
    response.accepts

/-- What is received without the answers of the other modules. -/
def onlyFrom (mac : Vector UInt8 6) (recvs : List WizRecv) : List WizRecv :=
  recvs.filter fun r => r.received.all fun conf => conf.mac = mac

section Loops

variable (mac : Vector UInt8 6) (recvs : List WizRecv)

/-- INTERNAL: the search ends with the first failure. SOURCE: Wiz110sr.cpp:64-79 -/
theorem searchLoop_snd (confs : AList fun _ : CString => Wiz110srConfig) :
    (Wiz110sr.searchLoop recvs confs).2 = behind recvs := by
  induction recvs generalizing confs with
  | nil => rfl
  | cons r rs ih =>
    unfold Wiz110sr.searchLoop behind
    cases r.received with
    | none => rfl
    | some conf => exact ih _

/-- INTERNAL: a module is found with its last answer. SOURCE: Wiz110sr.cpp:64-79 -/
theorem searchLoop_lookup (confs : AList fun _ : CString => Wiz110srConfig) :
    (Wiz110sr.searchLoop recvs confs).1.lookup (macText mac) =
      (lastAnswer mac recvs).or (confs.lookup (macText mac)) := by
  induction recvs generalizing confs with
  | nil => rfl
  | cons r rs ih =>
    unfold Wiz110sr.searchLoop lastAnswer answers
    cases r.received with
    | none => rfl
    | some conf =>
      dsimp only
      rw [ih, List.filter_cons]
      by_cases hmac : conf.mac = mac
      · rw [if_pos (by simpa using hmac), hmac, AList.lookup_insert, List.getLast?_cons]
        unfold lastAnswer
        cases ((answers rs).filter fun conf => decide (conf.mac = mac)).getLast? with
        | none => rfl
        | some conf' => rfl
      · have htext : macText mac ≠ macText conf.mac :=
          fun heq => hmac (macText_injective heq).symm
        rw [if_neg (by simpa using hmac), AList.lookup_insert_ne htext]
        rfl

/-- INTERNAL: answers of other modules do not end the loop.
SOURCE: Wiz110sr.cpp:100-111 -/
theorem configureLoop_eq_true_iff (conf : Wiz110srConfig) :
    Wiz110sr.configureLoop conf recvs = true ↔ Accepted conf.mac recvs := by
  induction recvs with
  | nil => simp [Wiz110sr.configureLoop, Accepted, answers]
  | cons r rs ih =>
    unfold Wiz110sr.configureLoop Accepted answers
    cases r.received with
    | none => simp
    | some response =>
      dsimp only
      rw [List.find?_cons]
      by_cases hmac : response.mac = conf.mac
      · simp [hmac]
      · simp only [ne_eq, hmac, not_false_eq_true, if_true, decide_false]
        exact ih

/-- INTERNAL: the answers of a module are those that are left when the others are not heard. -/
theorem answers_onlyFrom :
    answers (onlyFrom mac recvs) = (answers recvs).filter fun conf => conf.mac = mac := by
  induction recvs with
  | nil => rfl
  | cons r rs ih =>
    unfold onlyFrom at ih ⊢
    rw [List.filter_cons]
    cases hr : r.received with
    | none => simp [answers, hr]
    | some conf =>
      by_cases hmac : conf.mac = mac
      · simp [answers, hr, hmac, ih]
      · simp [answers, hr, hmac, ih]

/-- INTERNAL: what is behind an answer, from one module only. -/
theorem behind_onlyFrom : behind (onlyFrom mac recvs) = onlyFrom mac (behind recvs) := by
  induction recvs with
  | nil => rfl
  | cons r rs ih =>
    unfold onlyFrom at ih ⊢
    rw [List.filter_cons]
    cases hr : r.received with
    | none => simp [behind, hr]
    | some conf =>
      by_cases hmac : conf.mac = mac
      · simp [behind, hr, hmac, ih]
      · simp [behind, hr, hmac, ih]

/-- INTERNAL: the last answer of a module does not depend on the others. -/
theorem lastAnswer_onlyFrom : lastAnswer mac (onlyFrom mac recvs) = lastAnswer mac recvs := by
  unfold lastAnswer
  rw [answers_onlyFrom, List.filter_filter]
  simp

/-- INTERNAL: whether a module accepts does not depend on the others. -/
theorem accepted_onlyFrom : Accepted mac (onlyFrom mac recvs) ↔ Accepted mac recvs := by
  unfold Accepted
  rw [answers_onlyFrom, List.find?_filter]
  simp

end Loops

/-! ## The constructor -/

/-- The modules can be asked for. -/
def Usable (net : WizNetwork) : Prop :=
  0 < net.descriptor ∧ net.binds = true ∧ net.sendsFind = true

/-- The datagram that configures a module. -/
def settings (wc : Wiz110srConfig) : List UInt8 := (wc.setBaud 0xFA).setCode.toList

/-- INTERNAL: the configuration changes the code and the baud rate only.
SOURCE: Wiz110sr.cpp:84-97, WizIPSerialPort.cpp:26-38 -/
theorem getElem?_settings (wc : Wiz110srConfig) {i : ℕ} (hcode : 4 ≤ i) (hbaud : i ≠ 31) :
    (settings wc)[i]? = wc.toList[i]? := by
  unfold settings Wiz110srConfig.setCode Wiz110srConfig.setBaud
  simp only [Vector.toList_set, List.getElem?_set]
  have h0 : ¬ 0 = i := by omega
  have h1 : ¬ 1 = i := by omega
  have h2 : ¬ 2 = i := by omega
  have h3 : ¬ 3 = i := by omega
  simp only [h0, h1, h2, h3, Ne.symm hbaud, if_false]

/-- INTERNAL: the settings keep the module's address. -/
theorem setCode_mac (wc : Wiz110srConfig) : ((wc.setBaud 0xFA).setCode).mac = wc.mac := by
  unfold Wiz110srConfig.setCode Wiz110srConfig.setBaud Wiz110srConfig.mac
  simp

/-- INTERNAL: the baud rate is no part of the port. -/
theorem ofConfig_setBaud (wc : Wiz110srConfig) (w : Wiz110sr) :
    WizIPSerialPort.ofConfig (wc.setBaud 0xFA) w = WizIPSerialPort.ofConfig wc w := by
  unfold WizIPSerialPort.ofConfig Wiz110srConfig.setBaud Wiz110srConfig.ip Wiz110srConfig.port
    Wiz110srConfig.portBytes
  simp

/-- What the constructor makes of the network. -/
inductive Outcome (mac : Vector UInt8 6) (net : WizNetwork) : WizIPSerialPort → Prop
  | unusable (h : ¬ Usable net) : Outcome mac net ⟨[], 0, []⟩
  | notFound (h : Usable net) (hlast : lastAnswer mac net.recvs = none) :
      Outcome mac net ⟨[], 0, [Wiz110sr.dataSend]⟩
  | ready (wc : Wiz110srConfig) (h : Usable net) (hlast : lastAnswer mac net.recvs = some wc)
      (hbaud : wc.baud = 0xFA) :
      Outcome mac net ⟨WizIPSerialPort.dotted wc.ip, bswap16 wc.port, [Wiz110sr.dataSend]⟩
  | notSent (wc : Wiz110srConfig) (h : Usable net) (hlast : lastAnswer mac net.recvs = some wc)
      (hbaud : wc.baud ≠ 0xFA) (hsend : net.sendsConfig = false) :
      Outcome mac net ⟨[], 0, [Wiz110sr.dataSend]⟩
  | refused (wc : Wiz110srConfig) (h : Usable net) (hlast : lastAnswer mac net.recvs = some wc)
      (hbaud : wc.baud ≠ 0xFA) (hsend : net.sendsConfig = true)
      (haccepted : ¬ Accepted mac (behind net.recvs)) :
      Outcome mac net ⟨[], 0, [Wiz110sr.dataSend, settings wc]⟩
  | configured (wc : Wiz110srConfig) (h : Usable net)
      (hlast : lastAnswer mac net.recvs = some wc) (hbaud : wc.baud ≠ 0xFA)
      (hsend : net.sendsConfig = true) (haccepted : Accepted mac (behind net.recvs)) :
      Outcome mac net
        ⟨WizIPSerialPort.dotted wc.ip, bswap16 wc.port, [Wiz110sr.dataSend, settings wc]⟩

section Constructor

variable (mac : Vector UInt8 6) (net : WizNetwork)

/-- INTERNAL: a socket that is not usable finds nothing. SOURCE: Wiz110sr.cpp:10-62 -/
theorem search_unusable (h : ¬ Usable net) :
    ∃ w, (Wiz110sr.new net).search net = (w, ∅, net.recvs) ∧ w.sent = [] := by
  unfold Wiz110sr.search
  split
  · exact ⟨_, rfl, rfl⟩
  · split
    · exact ⟨_, rfl, rfl⟩
    case isFalse hzero hbad =>
      refine absurd ?_ h
      simp only [Wiz110sr.new] at hzero hbad
      unfold Usable
      grind

/-- INTERNAL: on a usable socket the search sends one request, and reads the answers. -/
theorem search_usable (h : Usable net) : (Wiz110sr.new net).search net =
    (⟨net.descriptor, [Wiz110sr.dataSend]⟩, Wiz110sr.searchLoop net.recvs ∅) := by
  obtain ⟨hdescriptor, hbinds, hsends⟩ := h
  have hnew : (Wiz110sr.new net).client = net.descriptor := by
    simp [Wiz110sr.new, hbinds]
  have hpositive : ¬ (net.descriptor < 0 ∨ net.sendsFind = false) := by
    rw [hsends]
    simp
    omega
  unfold Wiz110sr.search
  rw [hnew, if_neg (by omega), if_neg hpositive]
  simp [Wiz110sr.new, hbinds]

/-- INTERNAL: what a configuration sends and returns, from the answers of its module.
SOURCE: Wiz110sr.cpp:84-112 -/
theorem configure_eq (wc : Wiz110srConfig) (hdescriptor : net.descriptor ≠ 0)
    (sent : List (List UInt8)) (recvs : List WizRecv) :
    Wiz110sr.configure ⟨net.descriptor, sent⟩ net (wc.setBaud 0xFA) recvs =
      if net.sendsConfig = false then (⟨0, sent⟩, false)
      else (⟨net.descriptor, sent ++ [settings wc]⟩,
        Wiz110sr.configureLoop (wc.setBaud 0xFA).setCode recvs) := by
  unfold Wiz110sr.configure settings
  rw [if_neg hdescriptor]

/-- INTERNAL: what the constructor can come to. SOURCE: WizIPSerialPort.cpp:19-51 -/
theorem new_outcome : Outcome mac net (WizIPSerialPort.new (macText mac) net) := by
  unfold WizIPSerialPort.new
  by_cases h : Usable net
  case neg =>
    obtain ⟨w, hsearch, hsent⟩ := search_unusable net h
    rw [hsearch]
    simp only [AList.lookup_empty, WizIPSerialPort.unset, hsent]
    exact .unusable h
  case pos =>
    rw [search_usable net h]
    simp only [searchLoop_lookup, searchLoop_snd, AList.lookup_empty, Option.or_none]
    cases hlast : lastAnswer mac net.recvs with
    | none => exact .notFound h hlast
    | some wc =>
      have hmac : wc.mac = mac := by
        have hmem := List.mem_of_getLast? hlast
        simpa using (List.mem_filter.mp hmem).2
      dsimp only
      split
      case isFalse hbaud =>
        exact .ready wc h hlast (by simpa using hbaud)
      case isTrue hbaud =>
        have hdescriptor : net.descriptor ≠ 0 := by
          have hpositive := h.1
          omega
        have hloop := configureLoop_eq_true_iff (behind net.recvs) (wc.setBaud 0xFA).setCode
        rw [setCode_mac, hmac] at hloop
        rw [configure_eq net _ hdescriptor]
        cases hsend : net.sendsConfig with
        | false => exact .notSent wc h hlast hbaud hsend
        | true =>
          simp only [Bool.true_eq_false, if_false]
          split
          case isTrue hok =>
            rw [ofConfig_setBaud]
            exact .configured wc h hlast hbaud hsend (hloop.mp hok)
          case isFalse hok =>
            exact .refused wc h hlast hbaud hsend (fun hacc => hok (hloop.mpr hacc))

/-- The network with the answers of one module only. -/
def heardFrom : WizNetwork := { net with recvs := onlyFrom mac net.recvs }

/-- INTERNAL: the other modules can as well be silent. -/
theorem new_heardFrom : WizIPSerialPort.new (macText mac) (heardFrom mac net) =
    WizIPSerialPort.new (macText mac) net := by
  have hloop (wc : Wiz110srConfig) (hmac : wc.mac = mac) :
      Wiz110sr.configureLoop (wc.setBaud 0xFA).setCode (behind (onlyFrom mac net.recvs)) =
        Wiz110sr.configureLoop (wc.setBaud 0xFA).setCode (behind net.recvs) := by
    rw [Bool.eq_iff_iff, configureLoop_eq_true_iff, configureLoop_eq_true_iff, setCode_mac, hmac,
      behind_onlyFrom, accepted_onlyFrom]
  have husable : Usable (heardFrom mac net) ↔ Usable net := Iff.rfl
  unfold WizIPSerialPort.new
  by_cases h : Usable net
  case neg =>
    obtain ⟨w, hsearch, hsent⟩ := search_unusable net h
    obtain ⟨w', hsearch', hsent'⟩ := search_unusable (heardFrom mac net) (mt husable.mp h)
    rw [hsearch, hsearch']
    simp [WizIPSerialPort.unset, hsent, hsent']
  case pos =>
    rw [search_usable net h, search_usable (heardFrom mac net) (husable.mpr h)]
    simp only [searchLoop_lookup, searchLoop_snd, AList.lookup_empty, Option.or_none, heardFrom,
      lastAnswer_onlyFrom]
    cases hlast : lastAnswer mac net.recvs with
    | none => rfl
    | some wc =>
      have hmac : wc.mac = mac := by
        have hmem := List.mem_of_getLast? hlast
        simpa using (List.mem_filter.mp hmem).2
      have hdescriptor : net.descriptor ≠ 0 := by
        have hpositive := h.1
        omega
      have hconfigure := configure_eq (heardFrom mac net) wc hdescriptor
      simp only [heardFrom] at hconfigure
      simp only [configure_eq net _ hdescriptor, hconfigure, hloop wc hmac]

end Constructor

/-- What the port that is looked for has to do with the network. -/
structure Discovers (mac : Vector UInt8 6) (net : WizNetwork) : Prop where
  /-- it gets the address and the port number, in network order, of the last answer of the module,
  when that has the baud rate or accepts it -/
  found : ∀ wc, Usable net → lastAnswer mac net.recvs = some wc →
    (wc.baud = 0xFA ∨ (net.sendsConfig = true ∧ Accepted mac (behind net.recvs))) →
      (WizIPSerialPort.new (macText mac) net).mAddress = WizIPSerialPort.dotted wc.ip ∧
        (WizIPSerialPort.new (macText mac) net).mPort =
          256 * wc.portBytes.1.toNat + wc.portBytes.2.toNat
  /-- and no address otherwise -/
  unset : (¬ ∃ wc, Usable net ∧ lastAnswer mac net.recvs = some wc ∧
    (wc.baud = 0xFA ∨ (net.sendsConfig = true ∧ Accepted mac (behind net.recvs)))) →
      (WizIPSerialPort.new (macText mac) net).mAddress = [] ∧
        (WizIPSerialPort.new (macText mac) net).mPort = 0
  /-- a module is configured only if its baud rate is another one, and keeps its settings -/
  keeps : ∀ bytes ∈ (WizIPSerialPort.new (macText mac) net).sent, bytes ≠ Wiz110sr.dataSend →
    ∃ wc, lastAnswer mac net.recvs = some wc ∧ wc.baud ≠ 0xFA ∧ bytes[31]? = some 0xFA ∧
      ∀ i, 4 ≤ i → i ≠ 31 → bytes[i]? = wc.toList[i]?
  /-- the other modules of the network do not matter -/
  others : WizIPSerialPort.new (macText mac) (heardFrom mac net) =
    WizIPSerialPort.new (macText mac) net

/-- INTERNAL: the port is written with its high byte first. -/
theorem bswap16_port (wc : Wiz110srConfig) :
    bswap16 wc.port = 256 * wc.portBytes.1.toNat + wc.portBytes.2.toNat := by
  have hlow := wc.portBytes.1.toNat_lt
  have hhigh := wc.portBytes.2.toNat_lt
  unfold bswap16 Wiz110srConfig.port
  omega

/-- INTERNAL: the baud rate is the byte at place 31. -/
theorem getElem?_settings_baud (wc : Wiz110srConfig) : (settings wc)[31]? = some 0xFA := by
  unfold settings Wiz110srConfig.setCode Wiz110srConfig.setBaud
  simp [Vector.toList_set]

/-- **The serial port is that of the module with the MAC address, whatever the network answers.**
SOURCE: Wiz110sr.cpp:10-112, WizIPSerialPort.cpp:19-51 -/
theorem discovers_always (mac : Vector UInt8 6) (net : WizNetwork) : Discovers mac net where
  found := by
    intro wc husable hlast hbaud
    have houtcome := new_outcome mac net
    generalize WizIPSerialPort.new (macText mac) net = port at houtcome ⊢
    cases houtcome with
    | unusable h => exact absurd husable h
    | notFound h hnone => simp [hnone] at hlast
    | ready wc' h hlast' hbaud' =>
      obtain rfl := Option.some.inj (hlast'.symm.trans hlast)
      exact ⟨rfl, bswap16_port wc'⟩
    | notSent wc' h hlast' hbaud' hsend =>
      obtain rfl := Option.some.inj (hlast'.symm.trans hlast)
      simp [hbaud', hsend] at hbaud
    | refused wc' h hlast' hbaud' hsend haccepted =>
      obtain rfl := Option.some.inj (hlast'.symm.trans hlast)
      simp [hbaud', haccepted] at hbaud
    | configured wc' h hlast' hbaud' hsend haccepted =>
      obtain rfl := Option.some.inj (hlast'.symm.trans hlast)
      exact ⟨rfl, bswap16_port wc'⟩
  unset := by
    intro hno
    have houtcome := new_outcome mac net
    generalize WizIPSerialPort.new (macText mac) net = port at houtcome ⊢
    cases houtcome with
    | unusable h => exact ⟨rfl, rfl⟩
    | notFound h hnone => exact ⟨rfl, rfl⟩
    | ready wc h hlast hbaud => exact absurd ⟨wc, h, hlast, .inl hbaud⟩ hno
    | notSent wc h hlast hbaud hsend => exact ⟨rfl, rfl⟩
    | refused wc h hlast hbaud hsend haccepted => exact ⟨rfl, rfl⟩
    | configured wc h hlast hbaud hsend haccepted =>
      exact absurd ⟨wc, h, hlast, .inr ⟨hsend, haccepted⟩⟩ hno
  keeps := by
    have houtcome := new_outcome mac net
    generalize WizIPSerialPort.new (macText mac) net = port at houtcome ⊢
    have hsettings (wc : Wiz110srConfig) (hlast : lastAnswer mac net.recvs = some wc)
        (hbaud : wc.baud ≠ 0xFA) : ∀ bytes ∈ [Wiz110sr.dataSend, settings wc],
          bytes ≠ Wiz110sr.dataSend → ∃ wc, lastAnswer mac net.recvs = some wc ∧ wc.baud ≠ 0xFA ∧
            bytes[31]? = some 0xFA ∧ ∀ i, 4 ≤ i → i ≠ 31 → bytes[i]? = wc.toList[i]? := by
      intro bytes hmem hne
      obtain rfl : bytes = settings wc := by simpa [hne] using hmem
      exact ⟨wc, hlast, hbaud, getElem?_settings_baud wc,
        fun i hcode hother => getElem?_settings wc hcode hother⟩
    cases houtcome with
    | unusable h => simp
    | notFound h hnone => simp
    | ready wc h hlast hbaud => simp
    | notSent wc h hlast hbaud hsend => simp
    | refused wc h hlast hbaud hsend haccepted => exact hsettings wc hlast hbaud
    | configured wc h hlast hbaud hsend haccepted => exact hsettings wc hlast hbaud
  others := new_heardFrom mac net

end Dhas.Analysis.WizDiscovery
