import FswCore.EventSink
import FswCore.Pus.Packet

/-!
Contract: `lib/pus/src/pus5.c`, function by function.

Owns:
- the event report, built with the counters it commits;
- that a report that is built reads as what it was given, and that one is built
  whenever its arguments are in range and its octets fit.

A NULL `aux` is the empty list.
-/

namespace FswCore

open Library Library.BigEndian

/-- `MIGRIS_PUS_SERVICE_EVENT_REPORTING`. -/
def pusServiceEventReporting : UInt8 := 5

/-- `MIGRIS_PUS5_EVENT_ID_SIZE`. -/
def pus5EventIdSize : Nat := 2

/-- `MIGRIS_PUS5_AUX_MAX_LEN`. -/
def pus5AuxMaxLen : Nat := 32

/-- `MIGRIS_PUS5_TM_MAX_PACKET_SIZE`. -/
def pus5TmMaxPacketSize : Nat := 52

inductive Pus5Status where
  | errBufTooSmall
  | errBadArg
deriving DecidableEq, Repr

def pus5Secondary (request : TmRequest) (counters : PusCounters) (severity : UInt8) :
    PusTmSecondaryHeader :=
  { pusVersion := pusVersionC
    scTimeRefStatus := 0
    serviceType := pusServiceEventReporting
    serviceSubtype := severity + 1
    msgCounter := counters.pus5.toList.getD severity.toNat 0
    destinationId := request.destinationId
    timeSeconds := request.nowSeconds }

/-- The sequence count one on, and the message counter of this severity. -/
def pus5Commit (counters : PusCounters) (severity : UInt8) : PusCounters :=
  { counters with
    tmSeqCount := tmSeqNext counters.tmSeqCount
    pus5 := counters.pus5.setIfInBounds severity.toNat
      (counters.pus5.toList.getD severity.toNat 0 + 1) }

def pus5BuildEventReport (request : TmRequest) (counters : PusCounters) (severity : UInt8)
    (eventId : UInt16) (aux : List UInt8) : Except Pus5Status (List UInt8) × PusCounters :=
  if severity > pus5SevHigh then (.error .errBadArg, counters)
  else if aux.length > pus5AuxMaxLen then (.error .errBadArg, counters)
  else
    let sourceLen := pus5EventIdSize + aux.length
    let dataField := UInt16.ofNat (pusTmSecondaryHeaderSize + sourceLen + 2)
    if request.outCap < ccsdsPrimaryHeaderSize + dataField.toNat then
      (.error .errBufTooSmall, counters)
    else
      match packTm (tmPrimaryOf request counters.tmSeqCount sourceLen)
          (pus5Secondary request counters severity) (put16 eventId ++ aux) request.outCap with
      | none => (.error .errBufTooSmall, counters)
      | some packet => (.ok packet, pus5Commit counters severity)

/-! ### The report as it reads -/

/-- The packet an event is reported as. -/
def pus5Packet (request : TmRequest) (counters : PusCounters) (severity : UInt8)
    (eventId : UInt16) (aux : List UInt8) : TmPacket :=
  { primary := tmPrimaryOf request counters.tmSeqCount (pus5EventIdSize + aux.length)
    secondary := pus5Secondary request counters severity
    source := put16 eventId ++ aux }

/-- Either nothing is built and nothing committed, or the report reads back. -/
theorem pus5BuildEventReport_cases (request : TmRequest) (counters : PusCounters)
    (severity : UInt8) (eventId : UInt16) (aux : List UInt8) :
    (∃ status, pus5BuildEventReport request counters severity eventId aux =
        (.error status, counters)) ∨
      (∃ packet, pus5BuildEventReport request counters severity eventId aux =
          (.ok packet, pus5Commit counters severity) ∧
        ReadsAs packet (pus5Packet request counters severity eventId aux)) := by
  simp only [pus5BuildEventReport]
  split
  · exact .inl ⟨_, rfl⟩
  split
  · exact .inl ⟨_, rfl⟩
  rename_i auxFits
  split
  · exact .inl ⟨_, rfl⟩
  split
  · exact .inl ⟨_, rfl⟩
  · rename_i packet packed
    refine .inr ⟨packet, rfl, packTm_reads packed ?_⟩
    simp only [pus5AuxMaxLen] at auxFits
    have field := dataField_pred_toNat
      (show pus5EventIdSize + aux.length + 12 < 65536 by simp only [pus5EventIdSize]; omega)
    rw [List.length_append, put16_length]
    exact field

/-- A report in range is built. -/
theorem pus5BuildEventReport_ok {request : TmRequest} {counters : PusCounters}
    {severity : UInt8} (eventId : UInt16) {aux : List UInt8} (graded : severity ≤ pus5SevHigh)
    (auxFits : aux.length ≤ pus5AuxMaxLen) (apid : request.apid ≤ 0x7FF)
    (seqCount : counters.tmSeqCount ≤ 0x3FFF) (room : pus5TmMaxPacketSize ≤ request.outCap) :
    ∃ packet, pus5BuildEventReport request counters severity eventId aux =
        (.ok packet, pus5Commit counters severity) ∧
      ReadsAs packet (pus5Packet request counters severity eventId aux) := by
  rcases pus5BuildEventReport_cases request counters severity eventId aux with
    ⟨status, failed⟩ | built
  · exfalso
    simp only [pus5AuxMaxLen, pus5TmMaxPacketSize] at auxFits room
    have field : ¬request.outCap < ccsdsPrimaryHeaderSize +
        (UInt16.ofNat (pusTmSecondaryHeaderSize + (pus5EventIdSize + aux.length) + 2)).toNat := by
      rw [UInt16.toNat_ofNat', pusTmSecondaryHeaderSize, ccsdsPrimaryHeaderSize,
        pus5EventIdSize, Nat.mod_eq_of_lt (by omega)]
      omega
    have packed := packTm_isSome (put16 eventId ++ aux)
      (tmPrimary_inRange (pus5EventIdSize + aux.length) apid seqCount)
      (show (pus5Secondary request counters severity).pusVersion = pusVersionC from rfl) rfl
      (show ccsdsPrimaryHeaderSize + pusTmSecondaryHeaderSize ≤ request.outCap by
        simp only [ccsdsPrimaryHeaderSize, pusTmSecondaryHeaderSize]
        omega)
    obtain ⟨packet, packed⟩ := Option.isSome_iff_exists.mp packed
    have packed' : packTm
        (tmPrimaryOf request counters.tmSeqCount (pus5EventIdSize + aux.length))
        (pus5Secondary request counters severity) (put16 eventId ++ aux) request.outCap =
        some packet := packed
    have shortAux : ¬aux.length > pus5AuxMaxLen := by
      simp only [pus5AuxMaxLen]
      omega
    simp only [pus5BuildEventReport, if_neg (UInt8.not_lt.mpr graded), if_neg shortAux,
      if_neg field, packed'] at failed
    exact absurd (congrArg Prod.fst failed) (by simp)
  · exact built

end FswCore
