import FswCore.Pus.Ccsds

/-!
Contract: `lib/pus/src/pus_tc.c` and `lib/pus/src/pus_tm.c`, function by
function, and the construction every report builder repeats.

Owns:
- the telecommand and telemetry secondary headers;
- `buildTm`, headers, source data and trailing checksum, committed as a whole;
- `ReadsAs`, a complete telemetry packet as its receiver reads it, and that
  what `buildTm` builds reads as what it was given.

Does not own: which report is due and what its source data say.
-/

namespace FswCore

open Library Library.BigEndian

/-- `MIGRIS_PUS_TC_SECONDARY_HEADER_SIZE`. -/
def pusTcSecondaryHeaderSize : Nat := 5

/-- `MIGRIS_PUS_TM_SECONDARY_HEADER_SIZE`. -/
def pusTmSecondaryHeaderSize : Nat := 10

/-- The `MIGRIS_PUS_SERVICE_*` types. -/
def pusServiceVerification : UInt8 := 1
def pusServiceHousekeeping : UInt8 := 3
def pusServiceScheduling : UInt8 := 11
def pusServiceStorage : UInt8 := 15
def pusServiceTest : UInt8 := 17
def pusServiceOnboardParameter : UInt8 := 20

/-- `MIGRIS_PUS_VERSION_C`. -/
def pusVersionC : UInt8 := 2

/-- `MIGRIS_PUS_TC_ACK_ACCEPTANCE` and `MIGRIS_PUS_TC_ACK_COMPLETION`. -/
def pusTcAckAcceptance : UInt8 := 0x01
def pusTcAckCompletion : UInt8 := 0x08

structure PusTcSecondaryHeader where
  pusVersion : UInt8
  ackFlags : UInt8
  serviceType : UInt8
  serviceSubtype : UInt8
  sourceId : UInt16
deriving DecidableEq, Repr

structure PusTmSecondaryHeader where
  pusVersion : UInt8
  scTimeRefStatus : UInt8
  serviceType : UInt8
  serviceSubtype : UInt8
  msgCounter : UInt8
  destinationId : UInt16
  timeSeconds : UInt32
deriving DecidableEq, Repr

inductive PusHeaderStatus where
  | errBufTooSmall
  | errFieldOutOfRange
deriving DecidableEq, Repr

def pusTcSecondaryPack (hdr : PusTcSecondaryHeader) (outLen : Nat) :
    Except PusHeaderStatus (List UInt8) :=
  if outLen < pusTcSecondaryHeaderSize then .error .errBufTooSmall
  else if hdr.pusVersion > 0xF ∨ hdr.ackFlags > 0xF then .error .errFieldOutOfRange
  else .ok ([((hdr.pusVersion &&& 0xF) <<< 4) ||| (hdr.ackFlags &&& 0xF),
    hdr.serviceType, hdr.serviceSubtype] ++ put16 hdr.sourceId)

def pusTcSecondaryUnpack (input : List UInt8) : Except PusHeaderStatus PusTcSecondaryHeader :=
  if input.length < pusTcSecondaryHeaderSize then .error .errBufTooSmall
  else .ok
    { pusVersion := (input.getD 0 0 >>> 4) &&& 0xF
      ackFlags := input.getD 0 0 &&& 0xF
      serviceType := input.getD 1 0
      serviceSubtype := input.getD 2 0
      sourceId := be16At input 3 }

def pusTmSecondaryPack (hdr : PusTmSecondaryHeader) (outLen : Nat) :
    Except PusHeaderStatus (List UInt8) :=
  if outLen < pusTmSecondaryHeaderSize then .error .errBufTooSmall
  else if hdr.pusVersion > 0xF ∨ hdr.scTimeRefStatus > 0xF then .error .errFieldOutOfRange
  else .ok ([((hdr.pusVersion &&& 0xF) <<< 4) ||| (hdr.scTimeRefStatus &&& 0xF),
    hdr.serviceType, hdr.serviceSubtype, hdr.msgCounter] ++ put16 hdr.destinationId ++
      put32 hdr.timeSeconds)

def pusTmSecondaryUnpack (input : List UInt8) : Except PusHeaderStatus PusTmSecondaryHeader :=
  if input.length < pusTmSecondaryHeaderSize then .error .errBufTooSmall
  else .ok
    { pusVersion := (input.getD 0 0 >>> 4) &&& 0xF
      scTimeRefStatus := input.getD 0 0 &&& 0xF
      serviceType := input.getD 1 0
      serviceSubtype := input.getD 2 0
      msgCounter := input.getD 3 0
      destinationId := be16At input 4
      timeSeconds := be32At input 6 }

/-! ### Building a report -/

/-- What every report builder is handed. -/
structure TmRequest where
  apid : UInt16
  nowSeconds : UInt32
  destinationId : UInt16
  outCap : Nat

/-- The reports a routed telecommand can cause. -/
inductive TmKind where
  | acceptanceSuccess
  | acceptanceFailure
  | completionSuccess
  | completionFailure
  | hkParamReport
  | summaryReport
  | storeReport
  | areYouAlive
  | valueReport
deriving DecidableEq, Repr

def TmKind.service : TmKind → UInt8
  | .acceptanceSuccess | .acceptanceFailure | .completionSuccess | .completionFailure =>
      pusServiceVerification
  | .hkParamReport => pusServiceHousekeeping
  | .summaryReport => pusServiceScheduling
  | .storeReport => pusServiceStorage
  | .areYouAlive => pusServiceTest
  | .valueReport => pusServiceOnboardParameter

/-- The TM subtype enumerators. -/
def TmKind.subtype : TmKind → UInt8
  | .acceptanceSuccess => 1
  | .acceptanceFailure => 2
  | .completionSuccess => 7
  | .completionFailure => 8
  | .hkParamReport => 25
  | .summaryReport => 12
  | .storeReport => 13
  | .areYouAlive => 2
  | .valueReport => 2

/-- The shared sequence count and every service context's message counters. -/
structure PusCounters where
  tmSeqCount : UInt16
  pus1 : Vector UInt8 4
  pus5 : Vector UInt8 4
  pus17 : UInt8
  pus3 : UInt8
  pus20 : UInt8
  pus11 : UInt8
  pus15 : UInt8
deriving DecidableEq, Repr

namespace PusCounters

def msgCounter (counters : PusCounters) : TmKind → UInt8
  | .acceptanceSuccess => counters.pus1[0]
  | .acceptanceFailure => counters.pus1[1]
  | .completionSuccess => counters.pus1[2]
  | .completionFailure => counters.pus1[3]
  | .hkParamReport => counters.pus3
  | .summaryReport => counters.pus11
  | .storeReport => counters.pus15
  | .areYouAlive => counters.pus17
  | .valueReport => counters.pus20

def setMsgCounter (counters : PusCounters) (value : UInt8) : TmKind → PusCounters
  | .acceptanceSuccess => { counters with pus1 := counters.pus1.set 0 value }
  | .acceptanceFailure => { counters with pus1 := counters.pus1.set 1 value }
  | .completionSuccess => { counters with pus1 := counters.pus1.set 2 value }
  | .completionFailure => { counters with pus1 := counters.pus1.set 3 value }
  | .hkParamReport => { counters with pus3 := value }
  | .summaryReport => { counters with pus11 := value }
  | .storeReport => { counters with pus15 := value }
  | .areYouAlive => { counters with pus17 := value }
  | .valueReport => { counters with pus20 := value }

/-- The commit of a report: the sequence count one on modulo 2^14, the message
counter of its kind one on modulo 2^8. -/
def commit (counters : PusCounters) (kind : TmKind) : PusCounters :=
  { counters with tmSeqCount := (counters.tmSeqCount + 1) &&& 0x3FFF }.setMsgCounter
    (counters.msgCounter kind + 1) kind

theorem msgCounter_commit (counters : PusCounters) (kind other : TmKind) :
    (counters.commit kind).msgCounter other =
      counters.msgCounter other + if other = kind then 1 else 0 := by
  cases kind <;> cases other <;> simp [commit, setMsgCounter, msgCounter]

@[simp] theorem tmSeqCount_commit (counters : PusCounters) (kind : TmKind) :
    (counters.commit kind).tmSeqCount = (counters.tmSeqCount + 1) &&& 0x3FFF := by
  cases kind <;> rfl

@[simp] theorem pus5_commit (counters : PusCounters) (kind : TmKind) :
    (counters.commit kind).pus5 = counters.pus5 := by
  cases kind <;> rfl

/-- The committed sequence count is one on modulo 2^14. -/
theorem tmSeqCount_commit_toNat (counters : PusCounters) (kind : TmKind) :
    (counters.commit kind).tmSeqCount.toNat = (counters.tmSeqCount.toNat + 1) % 16384 := by
  have mask (value : Nat) : value &&& 16383 = value % 16384 :=
    Nat.and_two_pow_sub_one_eq_mod value 14
  simp only [tmSeqCount_commit, UInt16.toNat_and, UInt16.toNat_add, UInt16.reduceToNat, mask]
  omega

theorem tmSeqCount_commit_le (counters : PusCounters) (kind : TmKind) :
    (counters.commit kind).tmSeqCount ≤ 0x3FFF := by
  have wrapped := counters.tmSeqCount_commit_toNat kind
  simp only [UInt16.le_iff_toNat_le, UInt16.reduceToNat]
  omega

end PusCounters

/-- The octets of a report and the counters it leaves behind. -/
structure TmOut where
  packet : List UInt8
  counters : PusCounters
deriving DecidableEq, Repr

def tmPrimary (request : TmRequest) (counters : PusCounters) (sourceLen : Nat) :
    CcsdsPrimaryHeader :=
  { version := 0
    type := ccsdsPacketTypeTm
    secHdrFlag := 1
    apid := request.apid
    seqFlags := ccsdsSeqFlagsUnsegmented
    seqCount := counters.tmSeqCount
    dataLength := UInt16.ofNat (pusTmSecondaryHeaderSize + sourceLen + 2) - 1 }

def tmSecondary (request : TmRequest) (counters : PusCounters) (kind : TmKind) :
    PusTmSecondaryHeader :=
  { pusVersion := pusVersionC
    scTimeRefStatus := 0
    serviceType := kind.service
    serviceSubtype := kind.subtype
    msgCounter := counters.msgCounter kind
    destinationId := request.destinationId
    timeSeconds := request.nowSeconds }

/-- The body the report builders share. `source` is `none` where an element of
the source data did not fit; `none` as a result is the builder's
`ERR_BUF_TOO_SMALL`, which leaves the counters alone. -/
def buildTm (request : TmRequest) (counters : PusCounters) (kind : TmKind)
    (sourceLen : Nat) (source : Option (List UInt8)) : Option TmOut :=
  let dataField := UInt16.ofNat (pusTmSecondaryHeaderSize + sourceLen + 2)
  if request.outCap < ccsdsPrimaryHeaderSize + dataField.toNat then none
  else
    match ccsdsPrimaryPack (tmPrimary request counters sourceLen) request.outCap with
    | .error _ => none
    | .ok primary =>
        match pusTmSecondaryPack (tmSecondary request counters kind)
            (request.outCap - ccsdsPrimaryHeaderSize) with
        | .error _ => none
        | .ok secondary =>
            match source with
            | none => none
            | some source =>
                let covered := primary ++ secondary ++ source
                some
                  { packet := covered ++ put16 (crc16CcittFalse covered)
                    counters := counters.commit kind }

/-! ### Reading a report -/

/-- A telemetry packet as its receiver reads it. -/
structure TmPacket where
  primary : CcsdsPrimaryHeader
  secondary : PusTmSecondaryHeader
  source : List UInt8
deriving DecidableEq, Repr

/-- The octets are one complete packet: both headers read, the packet data length
is the length, and the checksum is that of everything before it. -/
structure ReadsAs (bytes : List UInt8) (tm : TmPacket) : Prop where
  primary : ccsdsPrimaryUnpack bytes = .ok tm.primary
  dataLength : bytes.length = ccsdsPacketTotalSize tm.primary.dataLength
  secondary : pusTmSecondaryUnpack (bytes.drop ccsdsPrimaryHeaderSize) = .ok tm.secondary
  source : window bytes (ccsdsPrimaryHeaderSize + pusTmSecondaryHeaderSize) tm.source.length =
    tm.source
  sourceLength : bytes.length =
    ccsdsPrimaryHeaderSize + pusTmSecondaryHeaderSize + tm.source.length + 2
  checksum : be16At bytes (bytes.length - 2) = crc16CcittFalse (bytes.take (bytes.length - 2))

/-- What stands between the headers and the checksum of a packet. -/
def tmSourceData (packet : List UInt8) : List UInt8 :=
  window packet (ccsdsPrimaryHeaderSize + pusTmSecondaryHeaderSize)
    (packet.length - (ccsdsPrimaryHeaderSize + pusTmSecondaryHeaderSize + 2))

theorem ReadsAs.sourceData {bytes : List UInt8} {tm : TmPacket} (reads : ReadsAs bytes tm) :
    tmSourceData bytes = tm.source := by
  have sized : bytes.length - (ccsdsPrimaryHeaderSize + pusTmSecondaryHeaderSize + 2) =
      tm.source.length := by
    rw [reads.sourceLength]
    omega
  rw [tmSourceData, sized]
  exact reads.source

/-- What a report built from these parts reads as. -/
def tmPacket (request : TmRequest) (counters : PusCounters) (kind : TmKind)
    (source : List UInt8) : TmPacket :=
  { primary := tmPrimary request counters source.length
    secondary := tmSecondary request counters kind
    source := source }

/-- Two nibbles packed into an octet. -/
theorem nibbles_toNat {high low : UInt8} (highFits : high ≤ 0xF) (lowFits : low ≤ 0xF) :
    (((high &&& 0xF) <<< 4) ||| (low &&& 0xF)).toNat = high.toNat * 2 ^ 4 + low.toNat := by
  simp only [UInt8.le_iff_toNat_le, UInt8.reduceToNat] at highFits lowFits
  have highMask : high.toNat &&& 15 = high.toNat := mask_field 4 (by omega)
  have lowMask : low.toNat &&& 15 = low.toNat := mask_field 4 (by omega)
  simp only [UInt8.toNat_or, UInt8.toNat_shiftLeft, UInt8.toNat_and, UInt8.reduceToNat,
    Nat.reduceMod, Nat.shiftLeft_eq, highMask, lowMask]
  rw [Nat.mod_eq_of_lt (by omega)]
  exact field_or_low (by omega) high.toNat

/-- The nibbles of an octet. -/
theorem nibbles_split {high low octet : UInt8}
    (packed : octet.toNat = high.toNat * 2 ^ 4 + low.toNat) (lowFits : low ≤ 0xF) :
    (octet >>> 4) &&& 0xF = high ∧ octet &&& 0xF = low := by
  have low4 (value : Nat) : value &&& 15 = value % 16 := Nat.and_two_pow_sub_one_eq_mod value 4
  have bound := octet.toNat_lt
  simp only [UInt8.le_iff_toNat_le, UInt8.reduceToNat] at lowFits
  constructor <;> rw [← UInt8.toNat_inj]
  · simp only [UInt8.toNat_and, UInt8.toNat_shiftRight, UInt8.reduceToNat, Nat.reduceMod,
      Nat.shiftRight_eq_div_pow, packed, low4]
    omega
  · simp only [UInt8.toNat_and, UInt8.reduceToNat, packed, low4]
    omega

theorem nibbles_join (octet : UInt8) :
    ((((octet >>> 4) &&& 0xF) &&& 0xF) <<< 4) ||| ((octet &&& 0xF) &&& 0xF) = octet := by
  have low4 (value : Nat) : value &&& 15 = value % 16 := Nat.and_two_pow_sub_one_eq_mod value 4
  have bound := octet.toNat_lt
  have fits (value : UInt8) : value &&& 0xF ≤ 0xF := by
    simp only [UInt8.le_iff_toNat_le, UInt8.toNat_and, UInt8.reduceToNat, low4]
    omega
  rw [← UInt8.toNat_inj, nibbles_toNat (fits _) (fits _)]
  simp only [UInt8.toNat_and, UInt8.toNat_shiftRight, UInt8.reduceToNat, Nat.reduceMod,
    Nat.shiftRight_eq_div_pow, low4]
  omega

/-- A nibble stays in its field. -/
theorem nibble_le (value : UInt8) : ¬value &&& 0xF > 0xF := by
  have low4 : value.toNat &&& 15 = value.toNat % 16 := Nat.and_two_pow_sub_one_eq_mod _ 4
  simp only [gt_iff_lt, UInt8.lt_iff_toNat_lt, UInt8.toNat_and, UInt8.reduceToNat, low4]
  omega

theorem pusTmSecondaryUnpack_pack {hdr : PusTmSecondaryHeader} {outLen : Nat}
    {bytes : List UInt8} (packed : pusTmSecondaryPack hdr outLen = .ok bytes)
    (behind : List UInt8) : pusTmSecondaryUnpack (bytes ++ behind) = .ok hdr := by
  unfold pusTmSecondaryPack at packed
  split_ifs at packed with short outOfRange
  cases packed
  rw [not_or, UInt8.not_lt, UInt8.not_lt] at outOfRange
  have octet := nibbles_toNat outOfRange.1 outOfRange.2
  generalize first : ((hdr.pusVersion &&& 0xF) <<< 4) ||| (hdr.scTimeRefStatus &&& 0xF) =
    packedOctet at octet ⊢
  have destination := be16At_append
    [packedOctet, hdr.serviceType, hdr.serviceSubtype, hdr.msgCounter]
    (put32 hdr.timeSeconds ++ behind) hdr.destinationId
  have time := be32At_append
    ([packedOctet, hdr.serviceType, hdr.serviceSubtype, hdr.msgCounter] ++ put16 hdr.destinationId)
    behind hdr.timeSeconds
  simp only [← List.append_assoc] at destination time
  obtain ⟨version, status⟩ := nibbles_split octet outOfRange.2
  rw [pusTmSecondaryUnpack, if_neg (by simp [pusTmSecondaryHeaderSize]; omega)]
  simp only [List.length_append, List.length_cons, List.length_nil, put16_length, Nat.reduceAdd]
    at destination time
  simp only [destination, time]
  simp [version, status]

theorem pusTcSecondaryUnpack_pack {hdr : PusTcSecondaryHeader} {outLen : Nat}
    {bytes : List UInt8} (packed : pusTcSecondaryPack hdr outLen = .ok bytes)
    (behind : List UInt8) : pusTcSecondaryUnpack (bytes ++ behind) = .ok hdr := by
  unfold pusTcSecondaryPack at packed
  split_ifs at packed with short outOfRange
  cases packed
  rw [not_or, UInt8.not_lt, UInt8.not_lt] at outOfRange
  have octet := nibbles_toNat outOfRange.1 outOfRange.2
  generalize ((hdr.pusVersion &&& 0xF) <<< 4) ||| (hdr.ackFlags &&& 0xF) = packedOctet at octet ⊢
  obtain ⟨version, flags⟩ := nibbles_split octet outOfRange.2
  have source := be16At_append [packedOctet, hdr.serviceType, hdr.serviceSubtype] behind
    hdr.sourceId
  simp only [List.length_cons, List.length_nil, Nat.reduceAdd] at source
  rw [pusTcSecondaryUnpack, if_neg (by simp [pusTcSecondaryHeaderSize])]
  simp only [source]
  simp [version, flags]

/-- A header unpacked is packed to the octets it was read from. -/
theorem pusTcSecondaryPack_unpack {input : List UInt8} {hdr : PusTcSecondaryHeader}
    (unpacked : pusTcSecondaryUnpack input = .ok hdr) {outLen : Nat}
    (room : pusTcSecondaryHeaderSize ≤ outLen) :
    pusTcSecondaryPack hdr outLen = .ok (input.take pusTcSecondaryHeaderSize) := by
  unfold pusTcSecondaryUnpack at unpacked
  split_ifs at unpacked with short
  cases unpacked
  have inRange : ¬ ((input.getD 0 0 >>> 4) &&& 0xF > 0xF ∨ input.getD 0 0 &&& 0xF > 0xF) :=
    fun outOfRange => outOfRange.elim (nibble_le _) (nibble_le _)
  rw [pusTcSecondaryPack, if_neg (by omega)]
  simp only [if_neg inRange, nibbles_join]
  rcases input with _ | ⟨first, _ | ⟨second, _ | ⟨third, _ | ⟨fourth, _ | ⟨fifth, rest⟩⟩⟩⟩⟩
  all_goals simp only [pusTcSecondaryHeaderSize, List.length_cons, List.length_nil] at short
  all_goals first
    | omega
    | simp [be16At, put16_get16, pusTcSecondaryHeaderSize]

theorem pusTmSecondaryPack_unpack {input : List UInt8} {hdr : PusTmSecondaryHeader}
    (unpacked : pusTmSecondaryUnpack input = .ok hdr) {outLen : Nat}
    (room : pusTmSecondaryHeaderSize ≤ outLen) :
    pusTmSecondaryPack hdr outLen = .ok (input.take pusTmSecondaryHeaderSize) := by
  unfold pusTmSecondaryUnpack at unpacked
  split_ifs at unpacked with short
  cases unpacked
  have inRange : ¬ ((input.getD 0 0 >>> 4) &&& 0xF > 0xF ∨ input.getD 0 0 &&& 0xF > 0xF) :=
    fun outOfRange => outOfRange.elim (nibble_le _) (nibble_le _)
  rw [pusTmSecondaryPack, if_neg (by omega)]
  simp only [if_neg inRange, nibbles_join]
  have ten : pusTmSecondaryHeaderSize = 10 := rfl
  have destination := drop_eq_put16 input 4 (by omega)
  have time := drop_eq_put32 input 6 (by omega)
  rw [time] at destination
  rcases input with _ | ⟨first, _ | ⟨second, _ | ⟨third, _ | ⟨fourth, rest⟩⟩⟩⟩
  all_goals simp only [pusTmSecondaryHeaderSize, List.length_cons, List.length_nil] at short
  case cons.cons.cons.cons =>
    have behind : rest.take 6 =
        put16 (be16At (first :: second :: third :: fourth :: rest) 4) ++
          put32 (be32At (first :: second :: third :: fourth :: rest) 6) := by
      have isRest : (first :: second :: third :: fourth :: rest).drop 4 = rest := rfl
      rw [isRest, ← List.append_assoc] at destination
      exact (congrArg (List.take 6) destination).trans (List.take_left' rfl)
    simp only [pusTmSecondaryHeaderSize, List.take_succ_cons, behind]
    rfl
  all_goals omega

theorem pusTmSecondaryPack_ok (request : TmRequest) (counters : PusCounters) (kind : TmKind)
    {outLen : Nat} (room : pusTmSecondaryHeaderSize ≤ outLen) :
    ∃ bytes, pusTmSecondaryPack (tmSecondary request counters kind) outLen = .ok bytes ∧
      bytes.length = pusTmSecondaryHeaderSize := by
  have inRange : ¬((tmSecondary request counters kind).pusVersion > 0xF ∨
      (tmSecondary request counters kind).scTimeRefStatus > 0xF) := by
    simp [tmSecondary, pusVersionC]
  rw [pusTmSecondaryPack, if_neg (by omega), if_neg inRange]
  exact ⟨_, rfl, by simp [pusTmSecondaryHeaderSize]⟩

/-- The packet data length field, one less than the octets behind the primary
header. -/
theorem dataField_pred_toNat {sourceLen : Nat} (small : sourceLen + 12 < 65536) :
    (UInt16.ofNat (pusTmSecondaryHeaderSize + sourceLen + 2) - 1).toNat = sourceLen + 11 := by
  have field : (UInt16.ofNat (pusTmSecondaryHeaderSize + sourceLen + 2)).toNat =
      sourceLen + 12 := by
    rw [UInt16.toNat_ofNat', pusTmSecondaryHeaderSize, Nat.mod_eq_of_lt (by omega)]
    omega
  have positive : (1 : UInt16) ≤ UInt16.ofNat (pusTmSecondaryHeaderSize + sourceLen + 2) := by
    simp only [UInt16.le_iff_toNat_le, field, UInt16.reduceToNat]
    omega
  simp only [UInt16.toNat_sub_of_le _ _ positive, field, UInt16.reduceToNat]
  omega

theorem tmPrimary_inRange {request : TmRequest} {counters : PusCounters} (sourceLen : Nat)
    (addressable : request.apid ≤ 0x7FF) (inRange : counters.tmSeqCount ≤ 0x3FFF) :
    (tmPrimary request counters sourceLen).InRange := by
  simp only [CcsdsPrimaryHeader.InRange, tmPrimary, ccsdsPacketTypeTm, ccsdsSeqFlagsUnsegmented]
  exact ⟨by decide, by decide, by decide, addressable, by decide, inRange⟩

/-- Headers, source data and checksum, one after the other, are a complete packet. -/
theorem readsAs_of_headers {primaryHeader : CcsdsPrimaryHeader}
    {secondaryHeader : PusTmSecondaryHeader} {source primary secondary : List UInt8}
    {outLen : Nat} (packedPrimary : ccsdsPrimaryPack primaryHeader outLen = .ok primary)
    (primaryLength : primary.length = ccsdsPrimaryHeaderSize)
    (packedSecondary : pusTmSecondaryPack secondaryHeader (outLen - ccsdsPrimaryHeaderSize) =
      .ok secondary)
    (secondaryLength : secondary.length = pusTmSecondaryHeaderSize)
    (field : primaryHeader.dataLength.toNat = source.length + 11) :
    ReadsAs (primary ++ secondary ++ source ++
        put16 (crc16CcittFalse (primary ++ secondary ++ source)))
      { primary := primaryHeader, secondary := secondaryHeader, source := source } := by
  have readPrimary := ccsdsPrimaryUnpack_pack packedPrimary
  have readSecondary := pusTmSecondaryUnpack_pack packedSecondary
  generalize checksum : crc16CcittFalse (primary ++ secondary ++ source) = crc
  have total : (primary ++ secondary ++ source ++ put16 crc).length = 18 + source.length := by
    simp only [List.length_append, primaryLength, secondaryLength, put16_length,
      ccsdsPrimaryHeaderSize, pusTmSecondaryHeaderSize]
    omega
  have covered : (primary ++ secondary ++ source ++ put16 crc).length - 2 =
      (primary ++ secondary ++ source).length := by
    rw [List.length_append, put16_length, Nat.add_sub_cancel]
  constructor
  · simp only [List.append_assoc]
    exact readPrimary _
  · rw [total, ccsdsPacketTotalSize, field, ccsdsPrimaryHeaderSize]
    omega
  · simp only [List.append_assoc]
    rw [← primaryLength, List.drop_left]
    exact readSecondary _
  · have front : ccsdsPrimaryHeaderSize + pusTmSecondaryHeaderSize =
        (primary ++ secondary).length := by
      rw [List.length_append, primaryLength, secondaryLength]
    rw [front]
    exact window_append (primary ++ secondary) source (put16 crc)
  · rw [total]
    simp only [ccsdsPrimaryHeaderSize, pusTmSecondaryHeaderSize]
    omega
  · have stored := be16At_append (primary ++ secondary ++ source) [] crc
    rw [List.append_nil] at stored
    rw [covered, List.take_left, stored, checksum]

theorem readsAs_of_layout {request : TmRequest} {counters : PusCounters} {kind : TmKind}
    {source primary secondary : List UInt8} {outLen : Nat}
    (packedPrimary : ccsdsPrimaryPack (tmPrimary request counters source.length) outLen =
      .ok primary)
    (primaryLength : primary.length = ccsdsPrimaryHeaderSize)
    (packedSecondary : pusTmSecondaryPack (tmSecondary request counters kind)
      (outLen - ccsdsPrimaryHeaderSize) = .ok secondary)
    (secondaryLength : secondary.length = pusTmSecondaryHeaderSize)
    (small : source.length + 12 < 65536) :
    ReadsAs (primary ++ secondary ++ source ++
        put16 (crc16CcittFalse (primary ++ secondary ++ source)))
      (tmPacket request counters kind source) :=
  readsAs_of_headers packedPrimary primaryLength packedSecondary secondaryLength
    (dataField_pred_toNat small)

/-- A request a builder can serve: addressable, in sequence, and with room. -/
structure TmRequest.Serves (request : TmRequest) (counters : PusCounters) (room : Nat) :
    Prop where
  apid : request.apid ≤ 0x7FF
  seqCount : counters.tmSeqCount ≤ 0x3FFF
  room : room ≤ request.outCap

/-- `out` is a report of `kind` in at most `size` octets, and its commit. -/
structure TmOut.Reports (out : TmOut) (request : TmRequest) (counters : PusCounters)
    (kind : TmKind) (source : List UInt8) (size : Nat) : Prop where
  reads : ReadsAs out.packet (tmPacket request counters kind source)
  length : out.packet.length ≤ size
  counters : out.counters = counters.commit kind

/-- A service's return: an error other than its `ERR_BUF_TOO_SMALL`, zero, or a
report of `kind` in at most `size` octets. -/
def ReturnsWithin {status : Type} (result : Except status (Option TmOut)) (bufTooSmall : status)
    (request : TmRequest) (counters : PusCounters) (kind : TmKind) (size : Nat) : Prop :=
  match result with
  | .error code => code ≠ bufTooSmall
  | .ok none => True
  | .ok (some out) => ∃ source, out.Reports request counters kind source size

/-- A report whose octets fit is built, and reads as what it was given. -/
theorem buildTm_reports {request : TmRequest} {counters : PusCounters} (kind : TmKind)
    {sourceLen size : Nat} {source : List UInt8} (serves : request.Serves counters size)
    (sized : source.length = sourceLen) (fits : 18 + sourceLen ≤ size) (small : size < 65536) :
    ∃ out, buildTm request counters kind sourceLen (some source) = some out ∧
      out.Reports request counters kind source size := by
  subst sized
  have room := serves.room
  have roomPrimary : ccsdsPrimaryHeaderSize ≤ request.outCap := by
    simp only [ccsdsPrimaryHeaderSize]
    omega
  have roomSecondary :
      pusTmSecondaryHeaderSize ≤ request.outCap - ccsdsPrimaryHeaderSize := by
    simp only [ccsdsPrimaryHeaderSize, pusTmSecondaryHeaderSize]
    omega
  obtain ⟨primary, packedPrimary, primaryLength⟩ :=
    ccsdsPrimaryPack_ok (tmPrimary_inRange source.length serves.apid serves.seqCount) roomPrimary
  obtain ⟨secondary, packedSecondary, secondaryLength⟩ :=
    pusTmSecondaryPack_ok request counters kind roomSecondary
  have fitsField : ¬request.outCap < ccsdsPrimaryHeaderSize +
      (UInt16.ofNat (pusTmSecondaryHeaderSize + source.length + 2)).toNat := by
    rw [UInt16.toNat_ofNat', pusTmSecondaryHeaderSize, ccsdsPrimaryHeaderSize,
      Nat.mod_eq_of_lt (by omega)]
    omega
  have built : buildTm request counters kind source.length (some source) =
      some { packet := primary ++ secondary ++ source ++
               put16 (crc16CcittFalse (primary ++ secondary ++ source))
             counters := counters.commit kind } := by
    simp only [buildTm, if_neg fitsField, packedPrimary, packedSecondary]
  refine ⟨_, built, ?_⟩
  constructor
  · exact readsAs_of_layout packedPrimary primaryLength packedSecondary secondaryLength (by omega)
  · simp only [List.length_append, primaryLength, secondaryLength, put16_length,
      ccsdsPrimaryHeaderSize, pusTmSecondaryHeaderSize]
    omega
  · rfl

/-! ### Reports outside the router -/

/-- The primary header of a report, with the sequence count on its own. -/
def tmPrimaryOf (request : TmRequest) (seqCount : UInt16) (sourceLen : Nat) :
    CcsdsPrimaryHeader :=
  { version := 0
    type := ccsdsPacketTypeTm
    secHdrFlag := 1
    apid := request.apid
    seqFlags := ccsdsSeqFlagsUnsegmented
    seqCount := seqCount
    dataLength := UInt16.ofNat (pusTmSecondaryHeaderSize + sourceLen + 2) - 1 }

theorem tmPrimaryOf_inRange {request : TmRequest} {seqCount : UInt16} (sourceLen : Nat)
    (addressable : request.apid ≤ 0x7FF) (inRange : seqCount ≤ 0x3FFF) :
    (tmPrimaryOf request seqCount sourceLen).InRange := by
  simp only [CcsdsPrimaryHeader.InRange, tmPrimaryOf, ccsdsPacketTypeTm, ccsdsSeqFlagsUnsegmented]
  exact ⟨by decide, by decide, by decide, addressable, by decide, inRange⟩

/-- The sequence count a report leaves behind. -/
def tmSeqNext (seqCount : UInt16) : UInt16 := (seqCount + 1) &&& 0x3FFF

/-- Headers, source data and trailing checksum; `none` where a header could not be
packed. -/
def packTm (primary : CcsdsPrimaryHeader) (secondary : PusTmSecondaryHeader)
    (source : List UInt8) (outCap : Nat) : Option (List UInt8) :=
  match ccsdsPrimaryPack primary outCap with
  | .error _ => none
  | .ok primary =>
      match pusTmSecondaryPack secondary (outCap - ccsdsPrimaryHeaderSize) with
      | .error _ => none
      | .ok secondary =>
          let covered := primary ++ secondary ++ source
          some (covered ++ put16 (crc16CcittFalse covered))

/-- A packed report reads as its headers and its source data. -/
theorem packTm_reads {primary : CcsdsPrimaryHeader} {secondary : PusTmSecondaryHeader}
    {source packet : List UInt8} {outCap : Nat}
    (packed : packTm primary secondary source outCap = some packet)
    (field : primary.dataLength.toNat = source.length + 11) :
    ReadsAs packet { primary := primary, secondary := secondary, source := source } := by
  rw [packTm] at packed
  split at packed
  · contradiction
  rename_i primaryOctets packedPrimary
  split at packed
  · contradiction
  rename_i secondaryOctets packedSecondary
  obtain rfl := Option.some.inj packed
  have primaryLength : primaryOctets.length = ccsdsPrimaryHeaderSize := by
    unfold ccsdsPrimaryPack at packedPrimary
    split_ifs at packedPrimary
    cases packedPrimary
    simp [ccsdsPrimaryHeaderSize]
  have secondaryLength : secondaryOctets.length = pusTmSecondaryHeaderSize := by
    unfold pusTmSecondaryPack at packedSecondary
    split_ifs at packedSecondary
    cases packedSecondary
    simp [pusTmSecondaryHeaderSize]
  exact readsAs_of_headers packedPrimary primaryLength packedSecondary secondaryLength field

theorem packTm_isSome {primary : CcsdsPrimaryHeader} {secondary : PusTmSecondaryHeader}
    (source : List UInt8) {outCap : Nat} (inRange : primary.InRange)
    (version : secondary.pusVersion = pusVersionC) (status : secondary.scTimeRefStatus = 0)
    (room : ccsdsPrimaryHeaderSize + pusTmSecondaryHeaderSize ≤ outCap) :
    (packTm primary secondary source outCap).isSome := by
  obtain ⟨primaryOctets, packedPrimary, _⟩ := ccsdsPrimaryPack_ok inRange
    (Nat.le_trans (Nat.le_add_right _ _) room)
  have fits : ¬outCap - ccsdsPrimaryHeaderSize < pusTmSecondaryHeaderSize := by omega
  have nibbles : ¬(secondary.pusVersion > 0xF ∨ secondary.scTimeRefStatus > 0xF) := by
    rw [version, status]
    decide
  simp only [packTm, packedPrimary, pusTmSecondaryPack, if_neg fits, if_neg nibbles,
    Option.isSome_some]

theorem tmSeqNext_toNat (seqCount : UInt16) :
    (tmSeqNext seqCount).toNat = (seqCount.toNat + 1) % 16384 := by
  have mask (value : Nat) : value &&& 16383 = value % 16384 :=
    Nat.and_two_pow_sub_one_eq_mod value 14
  simp only [tmSeqNext, UInt16.toNat_and, UInt16.toNat_add, UInt16.reduceToNat, mask]
  omega

theorem tmSeqNext_le (seqCount : UInt16) : tmSeqNext seqCount ≤ 0x3FFF := by
  have wrapped := tmSeqNext_toNat seqCount
  simp only [UInt16.le_iff_toNat_le, UInt16.reduceToNat]
  omega

/-- What a builder of the router packs and commits. -/
theorem buildTm_packs {request : TmRequest} {counters : PusCounters} {kind : TmKind}
    {sourceLen : Nat} {source : Option (List UInt8)} {out : TmOut}
    (built : buildTm request counters kind sourceLen source = some out) :
    ∃ octets, source = some octets ∧
      packTm (tmPrimaryOf request counters.tmSeqCount sourceLen)
        (tmSecondary request counters kind) octets request.outCap = some out.packet ∧
      out.counters = counters.commit kind := by
  simp only [buildTm] at built
  split at built
  · contradiction
  split at built
  · contradiction
  rename_i primaryOctets packedPrimary
  split at built
  · contradiction
  rename_i secondaryOctets packedSecondary
  cases source with
  | none => contradiction
  | some octets =>
      obtain rfl := Option.some.inj built
      have packedPrimary' : ccsdsPrimaryPack
          (tmPrimaryOf request counters.tmSeqCount sourceLen) request.outCap =
          .ok primaryOctets := packedPrimary
      refine ⟨octets, rfl, ?_, rfl⟩
      simp only [packTm, packedPrimary', packedSecondary]

/-- A report that was built reads as its headers and its source data. -/
theorem buildTm_packet {request : TmRequest} {counters : PusCounters} {kind : TmKind}
    {source : List UInt8} {sourceLen : Nat} {out : TmOut}
    (built : buildTm request counters kind sourceLen (some source) = some out)
    (sized : source.length = sourceLen) (small : sourceLen + 12 < 65536) :
    ReadsAs out.packet (tmPacket request counters kind source) := by
  obtain ⟨octets, given, packed, _⟩ := buildTm_packs built
  obtain rfl := Option.some.inj given
  subst sized
  exact packTm_reads packed (dataField_pred_toNat small)

/-- What is built had room for the whole packet. -/
theorem buildTm_room {request : TmRequest} {counters : PusCounters} {kind : TmKind}
    {sourceLen : Nat} {source : Option (List UInt8)} {out : TmOut}
    (built : buildTm request counters kind sourceLen source = some out)
    (small : sourceLen + 12 < 65536) :
    ccsdsPrimaryHeaderSize + pusTmSecondaryHeaderSize + sourceLen + 2 ≤ request.outCap := by
  simp only [buildTm] at built
  split at built
  · contradiction
  rename_i room
  rw [UInt16.toNat_ofNat', Nat.mod_eq_of_lt (by
    rw [pusTmSecondaryHeaderSize]
    omega)] at room
  omega

/-- A packet with these counters' sequence count that was built reads back. -/
theorem buildTm_reads {request : TmRequest} {counters : PusCounters} {kind : TmKind}
    {sourceLen : Nat} {source : Option (List UInt8)} {out : TmOut}
    (built : buildTm request counters kind sourceLen source = some out)
    (sized : ∀ octets, source = some octets → octets.length = sourceLen)
    (small : sourceLen + 12 < 65536) :
    (∃ tm, ReadsAs out.packet tm ∧
        tm.primary = tmPrimaryOf request counters.tmSeqCount sourceLen) ∧
      out.counters = counters.commit kind := by
  obtain ⟨octets, given, packed, committed⟩ := buildTm_packs built
  have field : (tmPrimaryOf request counters.tmSeqCount sourceLen).dataLength.toNat =
      octets.length + 11 := by
    rw [sized octets given]
    exact dataField_pred_toNat small
  exact ⟨⟨_, packTm_reads packed field, rfl⟩, committed⟩

end FswCore
