import Dhas.Program.AlarmModule

/-!
# The records of the alarm panel and the reads that bring them

`run` takes what one `read` returns for a record, and drops it when it is shorter. A record that
comes in two reads gives no event, and every later one comes in two reads as well unless a
short read makes up for it.
-/

set_option autoImplicit false

namespace Dhas.Analysis.AlarmRecords

open Dhas.Program Dhas.Program.AlarmModule

/-- A record as the panel sends it. -/
structure AlarmRecord where
  bytes : List UInt8
  length_eq : bytes.length = AlarmData.size

/-- What the reads of a connection may return: no data, or some bytes but no more than were
asked for. -/
def OnConnection (net : AlarmTurn) : Prop :=
  net.read = .noData ∨
    ∃ bytes, net.read = .data bytes ∧ bytes ≠ [] ∧ bytes.length ≤ AlarmData.size

/-- The bytes that a read returns. -/
def bytesRead (net : AlarmTurn) : Option (List UInt8) :=
  match net.read with
  | .data bytes => some bytes
  | _ => none

/-- What the reads of some turns returned. -/
def pieces (turns : List AlarmTurn) : List (List UInt8) := turns.filterMap bytesRead

/-- A whole record was read. -/
def Full (bytes : List UInt8) : Bool := bytes.length = AlarmData.size

/-- INTERNAL: on an open connection a turn makes an event of a full read, and of no other.
SOURCE: AlarmModule.cpp:58-136, IPSerialPort.cpp:66-96 -/
theorem turn_open {m : AlarmModule} {net : AlarmTurn} (hopen : m.mpSerialPort.mSocket = true)
    (hnet : OnConnection net) :
    (m.turn net).mpSerialPort = m.mpSerialPort ∧
      (m.turn net).events =
        m.events ++
          ((pieces [net]).filter Full).map fun bytes => (AlarmData.ofBytes bytes).event := by
  have hconnected : m.mpSerialPort.Reconnect net.t net.connects = (m.mpSerialPort, true) :=
    if_pos hopen
  have hsocket : ¬ m.mpSerialPort.mSocket = false := by
    rw [hopen]
    decide
  unfold turn IPSerialPort.Read
  rw [hconnected]
  simp only [if_true, if_neg hsocket]
  rcases hnet with hread | ⟨bytes, hread, -, hle⟩
  · simp [hread, pieces, bytesRead]
  · simp only [hread, List.take_of_length_le hle]
    by_cases hfull : bytes.length = AlarmData.size
    · rw [if_pos hfull]
      simp [pieces, bytesRead, hread, Full, hfull]
    · rw [if_neg hfull]
      simp [pieces, bytesRead, hread, Full, hfull]

/-- INTERNAL: **the events of a connection are those of its full reads.** -/
theorem run_events {turns : List AlarmTurn} (hturns : ∀ net ∈ turns, OnConnection net)
    {m : AlarmModule} (hopen : m.mpSerialPort.mSocket = true) :
    (m.run turns).events =
      m.events ++
        ((pieces turns).filter Full).map fun bytes => (AlarmData.ofBytes bytes).event := by
  induction turns generalizing m with
  | nil => exact (List.append_nil _).symm
  | cons net turns ih =>
    obtain ⟨hnet, hturns⟩ := List.forall_mem_cons.mp hturns
    obtain ⟨hport, hevents⟩ := turn_open hopen hnet
    have hrest := ih hturns (m := m.turn net) (hport ▸ hopen)
    have hpieces : pieces (net :: turns) = pieces [net] ++ pieces turns := by
      unfold pieces
      rw [← List.filterMap_append]
      rfl
    show ((m.turn net).run turns).events = _
    rw [hrest, hevents, hpieces, List.filter_append, List.map_append, List.append_assoc]

/-- INTERNAL: full pieces take their size, and the others a byte at least. -/
theorem length_flatten_pieces {ps : List (List UInt8)} (h : ∀ bytes ∈ ps, bytes ≠ []) :
    AlarmData.size * (ps.filter Full).length + (ps.filter fun bytes => !Full bytes).length ≤
      ps.flatten.length := by
  induction ps with
  | nil => exact Nat.le_refl _
  | cons bytes ps ih =>
    obtain ⟨hbytes, hps⟩ := List.forall_mem_cons.mp h
    have hpos := List.length_pos_iff.mpr hbytes
    have hle := ih hps
    rw [List.flatten_cons, List.length_append]
    by_cases hfull : bytes.length = AlarmData.size
    · rw [List.filter_cons_of_pos (by simp [Full, hfull]),
        List.filter_cons_of_neg (by simp [Full, hfull]), List.length_cons, hfull, Nat.mul_succ]
      omega
    · rw [List.filter_cons_of_neg (by simp [Full, hfull]),
        List.filter_cons_of_pos (by simp [Full, hfull]), List.length_cons]
      omega

/-- INTERNAL: pieces that are all full are the records. -/
theorem eq_of_flatten_eq {ps qs : List (List UInt8)}
    (hps : ∀ bytes ∈ ps, bytes.length = AlarmData.size)
    (hqs : ∀ bytes ∈ qs, bytes.length = AlarmData.size) (h : ps.flatten = qs.flatten) : ps = qs := by
  induction ps generalizing qs with
  | nil =>
    cases qs with
    | nil => rfl
    | cons q qs =>
      have hq := hqs q List.mem_cons_self
      have hlength := congrArg List.length h
      rw [List.flatten_cons, List.length_append, hq] at hlength
      simp [AlarmData.size] at hlength
      omega
  | cons p ps ih =>
    have hp := hps p List.mem_cons_self
    cases qs with
    | nil =>
      have hlength := congrArg List.length h
      rw [List.flatten_cons, List.length_append, hp] at hlength
      simp [AlarmData.size] at hlength
    | cons q qs =>
      have hq := hqs q List.mem_cons_self
      rw [List.flatten_cons, List.flatten_cons] at h
      obtain ⟨rfl, hrest⟩ := List.append_inj h (hp.trans hq.symm)
      rw [ih (fun b hb => hps b (List.mem_cons_of_mem _ hb))
        (fun b hb => hqs b (List.mem_cons_of_mem _ hb)) hrest]

/-- **The alarm events are the records exactly when every read that returns data returns a
whole record.** The records are any, and so are the reads of the connection that bring their
bytes.
SOURCE: AlarmModule.cpp:52-137, IPSerialPort.cpp:66-94 -/
theorem alarmEvents_eq_records_iff (records : List AlarmRecord) (turns : List AlarmTurn)
    {m : AlarmModule} (hopen : m.mpSerialPort.mSocket = true)
    (hturns : ∀ net ∈ turns, OnConnection net)
    (hstream : (pieces turns).flatten = (records.map AlarmRecord.bytes).flatten) :
    (m.run turns).events =
        m.events ++ records.map (fun record => (AlarmData.ofBytes record.bytes).event) ↔
      ∀ bytes ∈ pieces turns, bytes.length = AlarmData.size := by
  have hrecords : ∀ bytes ∈ records.map AlarmRecord.bytes, bytes.length = AlarmData.size := by
    intro bytes hbytes
    obtain ⟨record, -, rfl⟩ := List.mem_map.mp hbytes
    exact record.length_eq
  rw [run_events hturns hopen, List.append_cancel_left_eq]
  constructor
  · intro hevents
    have hnonempty : ∀ bytes ∈ pieces turns, bytes ≠ [] := by
      intro bytes hbytes
      obtain ⟨net, hnet, hread⟩ := List.mem_filterMap.mp hbytes
      rcases hturns net hnet with hno | ⟨bytes', hdata, hne, -⟩
      · simp [bytesRead, hno] at hread
      · have hsame : bytes' = bytes := by simpa [bytesRead, hdata] using hread
        exact hsame ▸ hne
    have hcount := congrArg List.length hevents
    rw [List.length_map, List.length_map] at hcount
    have htotal : (pieces turns).flatten.length = AlarmData.size * records.length := by
      rw [hstream, List.length_flatten, List.map_map]
      have hsizes : records.map (List.length ∘ AlarmRecord.bytes) =
          List.replicate records.length AlarmData.size := by
        rw [List.eq_replicate_iff]
        refine ⟨List.length_map _, fun n hn => ?_⟩
        obtain ⟨record, -, rfl⟩ := List.mem_map.mp hn
        exact record.length_eq
      rw [hsizes, List.sum_replicate_nat, Nat.mul_comm]
    -- no byte is left for a piece that is not full
    have hle := length_flatten_pieces hnonempty
    rw [htotal, ← hcount] at hle
    have hnone : (pieces turns).filter (fun bytes => !Full bytes) = [] :=
      List.eq_nil_of_length_eq_zero (by omega)
    intro bytes hbytes
    by_contra hfull
    exact absurd (List.mem_filter.mpr ⟨hbytes, by simp [Full, hfull]⟩) (hnone ▸ List.not_mem_nil)
  · intro hfull
    have hfilter : (pieces turns).filter Full = pieces turns := by
      rw [List.filter_eq_self]
      intro bytes hbytes
      exact decide_eq_true (hfull bytes hbytes)
    rw [hfilter, eq_of_flatten_eq hfull hrecords hstream, List.map_map]
    rfl

/-- A record of user 3, who arms the system. -/
def armedRecord : AlarmRecord where
  bytes := [0, 0, 0, 0, 0, 0, 0, 29, 3, 1, 0, 0, 0, 0, 0, 0x55, 0x73, 0x65, 0x72, 0x20, 0x33, 0, 0,
    0, 0, 0, 0, 0, 0, 0, 0, 0, 0, 0, 0, 0, 0]
  length_eq := rfl

/-- The module when it has just connected. -/
def connectedModule : AlarmModule := ⟨⟨true, 0, false⟩, []⟩

/-- A record of user 4, who disarms it. -/
def disarmedRecord : AlarmRecord where
  bytes := [0, 0, 0, 0, 0, 0, 0, 31, 4, 1, 0, 0, 0, 0, 0, 0x55, 0x73, 0x65, 0x72, 0x20, 0x34, 0, 0,
    0, 0, 0, 0, 0, 0, 0, 0, 0, 0, 0, 0, 0, 0]
  length_eq := rfl

/-- Two records that come in one read each give their two events. -/
theorem twoRecords_events :
    (connectedModule.run [⟨10, true, .noData⟩, ⟨11, true, .data armedRecord.bytes⟩,
        ⟨12, true, .data disarmedRecord.bytes⟩]).events =
      [(AlarmData.ofBytes armedRecord.bytes).event,
        (AlarmData.ofBytes disarmedRecord.bytes).event] := by
  have hfull : ∀ bytes ∈ [armedRecord.bytes, disarmedRecord.bytes],
      bytes.length = AlarmData.size := by
    decide
  exact (alarmEvents_eq_records_iff [armedRecord, disarmedRecord] _ rfl
    (by simp [OnConnection, AlarmData.size, armedRecord, disarmedRecord]) rfl).mpr hfull

/-- The first record alone, in two reads. -/
def splitRecord : List AlarmTurn :=
  [⟨10, true, .data (armedRecord.bytes.take 20)⟩, ⟨11, true, .data (armedRecord.bytes.drop 20)⟩]

/-- **A record that comes in two reads gives no event.** -/
theorem splitRecord_noEvent :
    (pieces splitRecord).flatten = ([armedRecord].map AlarmRecord.bytes).flatten ∧
      (connectedModule.run splitRecord).events ≠ connectedModule.events ++
        [armedRecord].map (fun record => (AlarmData.ofBytes record.bytes).event) := by
  decide

end Dhas.Analysis.AlarmRecords
