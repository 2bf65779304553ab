import FswCore.Config
import FswCore.Pus.Packet

/-!
Contract: `lib/pus/src/pus13.c`, function by function.

Owns:
- the part packet of a large data transfer, built with the counters it commits;
- that a part that is built reads as what it was given, and when one is built.
-/

namespace FswCore

open Library Library.BigEndian

/-- `MIGRIS_PUS_SERVICE_LARGE_DATA`. -/
def pusServiceLargeData : UInt8 := 13

/-- `MIGRIS_PUS13_SUBTYPE_FIRST_PART`. -/
def pus13SubtypeFirstPart : UInt8 := 1

/-- `MIGRIS_PUS13_SUBTYPE_INTERMEDIATE_PART`. -/
def pus13SubtypeIntermediatePart : UInt8 := 2

/-- `MIGRIS_PUS13_SUBTYPE_LAST_PART`. -/
def pus13SubtypeLastPart : UInt8 := 3

/-- `MIGRIS_PUS13_PART_HEADER_SIZE`. -/
def pus13PartHeaderSize : Nat := 6

/-- `MIGRIS_PUS13_PART_PACKET_MAX`. -/
def pus13PartPacketMax (cfg : Config) : Nat := 24 + cfg.pus13PartSize

inductive Pus13Status where
  | errBufTooSmall
  | errBadArg
deriving DecidableEq, Repr

/-- A message counter for each of the three subtypes. -/
structure Pus13Ctx where
  msgCounter : Vector UInt8 3
deriving DecidableEq, Repr

/-- The reference arguments as the call leaves them. -/
structure Pus13Reply where
  result : Except Pus13Status (List UInt8)
  ctx : Pus13Ctx
  tmSeqCount : UInt16

/-- The final index comes first: a single part is a last part. -/
def pus13SubtypeFor (partNumber totalParts : UInt16) : UInt8 :=
  if partNumber = totalParts - 1 then pus13SubtypeLastPart
  else if partNumber = 0 then pus13SubtypeFirstPart
  else pus13SubtypeIntermediatePart

def pus13Secondary (request : TmRequest) (subtype msgCounter : UInt8) : PusTmSecondaryHeader :=
  { pusVersion := pusVersionC
    scTimeRefStatus := 0
    serviceType := pusServiceLargeData
    serviceSubtype := subtype
    msgCounter := msgCounter
    destinationId := request.destinationId
    timeSeconds := request.nowSeconds }

/-- The part header and the payload. -/
def pus13Source (transactionId partNumber totalParts : UInt16) (payload : List UInt8) :
    List UInt8 :=
  put16 transactionId ++ put16 partNumber ++ put16 totalParts ++ payload

def pus13BuildPart (cfg : Config) (ctx : Pus13Ctx) (tmSeqCount : UInt16) (request : TmRequest)
    (transactionId partNumber totalParts : UInt16) (payload : List UInt8) : Pus13Reply :=
  let failed (status : Pus13Status) : Pus13Reply :=
    { result := .error status, ctx := ctx, tmSeqCount := tmSeqCount }
  if totalParts = 0 ∨ partNumber ≥ totalParts then failed .errBadArg
  else if payload.length = 0 ∨ payload.length > cfg.pus13PartSize then failed .errBadArg
  else
    let sourceLen := pus13PartHeaderSize + payload.length
    let dataField := UInt16.ofNat (pusTmSecondaryHeaderSize + sourceLen + 2)
    if request.outCap < ccsdsPrimaryHeaderSize + dataField.toNat then failed .errBufTooSmall
    else
      let subtype := pus13SubtypeFor partNumber totalParts
      let counterIndex := (subtype - 1).toNat
      let counter := ctx.msgCounter.toList.getD counterIndex 0
      match packTm (tmPrimaryOf request tmSeqCount sourceLen)
          (pus13Secondary request subtype counter)
          (pus13Source transactionId partNumber totalParts payload) request.outCap with
      | none => failed .errBufTooSmall
      | some packet =>
          { result := .ok packet
            ctx := { msgCounter := ctx.msgCounter.setIfInBounds counterIndex (counter + 1) }
            tmSeqCount := tmSeqNext tmSeqCount }

/-! ### The part as it reads -/

@[simp] theorem pus13Source_length (transactionId partNumber totalParts : UInt16)
    (payload : List UInt8) :
    (pus13Source transactionId partNumber totalParts payload).length =
      pus13PartHeaderSize + payload.length := by
  simp only [pus13Source, List.length_append, put16_length, pus13PartHeaderSize]

/-- The payload stands behind the part header. -/
theorem drop_pus13Source (transactionId partNumber totalParts : UInt16) (payload : List UInt8) :
    (pus13Source transactionId partNumber totalParts payload).drop pus13PartHeaderSize =
      payload := by
  have header : (put16 transactionId ++ put16 partNumber ++ put16 totalParts).length =
      pus13PartHeaderSize := by
    simp only [List.length_append, put16_length, pus13PartHeaderSize]
  rw [pus13Source, ← header, List.drop_left]

/-- The packet a part is downlinked as. -/
def pus13Packet (request : TmRequest) (tmSeqCount : UInt16)
    (transactionId partNumber totalParts : UInt16) (payload : List UInt8) (msgCounter : UInt8) :
    TmPacket :=
  { primary := tmPrimaryOf request tmSeqCount (pus13PartHeaderSize + payload.length)
    secondary := pus13Secondary request (pus13SubtypeFor partNumber totalParts) msgCounter
    source := pus13Source transactionId partNumber totalParts payload }

/-- The octets of a part packet. -/
theorem pus13DataField_toNat {payloadLen : Nat} (small : payloadLen + 18 < 65536) :
    ccsdsPrimaryHeaderSize +
        (UInt16.ofNat (pusTmSecondaryHeaderSize + (pus13PartHeaderSize + payloadLen) + 2)).toNat =
      24 + payloadLen := by
  rw [UInt16.toNat_ofNat', pusTmSecondaryHeaderSize, ccsdsPrimaryHeaderSize, pus13PartHeaderSize,
    Nat.mod_eq_of_lt (by omega)]
  omega

section Builder

variable (cfg : Config) (ctx : Pus13Ctx) (tmSeqCount : UInt16) (request : TmRequest)
  (transactionId partNumber totalParts : UInt16) (payload : List UInt8)

/-- Either nothing is built and no counter is touched, or the octets fit, the part
reads back and takes the sequence count. -/
theorem pus13BuildPart_cases (small : cfg.pus13PartSize + 18 < 65536) :
    (∃ status, pus13BuildPart cfg ctx tmSeqCount request transactionId partNumber totalParts
        payload = { result := .error status, ctx := ctx, tmSeqCount := tmSeqCount }) ∨
      (∃ packet ctx' msgCounter,
        pus13BuildPart cfg ctx tmSeqCount request transactionId partNumber totalParts payload =
            { result := .ok packet, ctx := ctx', tmSeqCount := tmSeqNext tmSeqCount } ∧
          24 + payload.length ≤ request.outCap ∧
          ReadsAs packet (pus13Packet request tmSeqCount transactionId partNumber totalParts
            payload msgCounter)) := by
  simp only [pus13BuildPart]
  split
  · exact .inl ⟨_, rfl⟩
  split
  · exact .inl ⟨_, rfl⟩
  rename_i payloadFits
  split
  · exact .inl ⟨_, rfl⟩
  rename_i room
  split
  · exact .inl ⟨_, rfl⟩
  · rename_i packet packed
    refine .inr ⟨packet, _, _, rfl, ?_, packTm_reads packed ?_⟩
    · rw [pus13DataField_toNat (by omega)] at room
      exact Nat.le_of_not_lt room
    · have field := dataField_pred_toNat
        (show pus13PartHeaderSize + payload.length + 12 < 65536 by
          simp only [pus13PartHeaderSize]
          omega)
      rw [pus13Source_length]
      exact field

variable {tmSeqCount request partNumber totalParts payload}

/-- A part in range is built if its octets fit. -/
theorem pus13BuildPart_ok (small : cfg.pus13PartSize + 18 < 65536)
    (index : partNumber < totalParts) (nonempty : 1 ≤ payload.length)
    (payloadFits : payload.length ≤ cfg.pus13PartSize) (apid : request.apid ≤ 0x7FF)
    (seqCount : tmSeqCount ≤ 0x3FFF) (room : 24 + payload.length ≤ request.outCap) :
    ∃ packet, (pus13BuildPart cfg ctx tmSeqCount request transactionId partNumber totalParts
      payload).result = .ok packet := by
  rcases pus13BuildPart_cases cfg ctx tmSeqCount request transactionId partNumber totalParts
    payload small with ⟨status, failed⟩ | ⟨packet, _, _, built, _⟩
  · exfalso
    have placed : ¬(totalParts = 0 ∨ partNumber ≥ totalParts) := by
      rintro (none | beyond)
      · rw [none] at index
        exact absurd index UInt16.not_lt_zero
      · exact absurd index (UInt16.not_lt.mpr beyond)
    have cut : ¬(payload.length = 0 ∨ payload.length > cfg.pus13PartSize) := by omega
    have field : ¬request.outCap < ccsdsPrimaryHeaderSize + (UInt16.ofNat
        (pusTmSecondaryHeaderSize + (pus13PartHeaderSize + payload.length) + 2)).toNat := by
      rw [pus13DataField_toNat (by omega)]
      omega
    have packed (subtype msgCounter : UInt8) := packTm_isSome
      (pus13Source transactionId partNumber totalParts payload)
      (tmPrimaryOf_inRange (pus13PartHeaderSize + payload.length) apid seqCount)
      (show (pus13Secondary request subtype msgCounter).pusVersion = pusVersionC from rfl) rfl
      (show ccsdsPrimaryHeaderSize + pusTmSecondaryHeaderSize ≤ request.outCap by
        simp only [ccsdsPrimaryHeaderSize, pusTmSecondaryHeaderSize]
        omega)
    simp only [pus13BuildPart, if_neg placed, if_neg cut, if_neg field] at failed
    split at failed
    · rename_i unpacked
      exact Option.not_isSome_iff_eq_none.mpr unpacked (packed _ _)
    · exact absurd (congrArg Pus13Reply.result failed) (by simp)
  · exact ⟨packet, congrArg Pus13Reply.result built⟩

end Builder

/-- What the ground takes from a part packet, between the part header and the
checksum. -/
def partPayload (packet : List UInt8) : List UInt8 :=
  window packet (ccsdsPrimaryHeaderSize + pusTmSecondaryHeaderSize + pus13PartHeaderSize)
    (packet.length - (ccsdsPrimaryHeaderSize + pusTmSecondaryHeaderSize + pus13PartHeaderSize) - 2)

theorem partPayload_reads {packet payload : List UInt8} {tm : TmPacket}
    {transactionId partNumber totalParts : UInt16} (reads : ReadsAs packet tm)
    (part : tm.source = pus13Source transactionId partNumber totalParts payload) :
    partPayload packet = payload := by
  have source := reads.source
  have length := reads.sourceLength
  rw [part, pus13Source_length] at source length
  have rest : packet.length -
      (ccsdsPrimaryHeaderSize + pusTmSecondaryHeaderSize + pus13PartHeaderSize) - 2 =
        payload.length := by
    rw [length]
    omega
  rw [partPayload, rest, window_add, source, drop_pus13Source]

end FswCore
