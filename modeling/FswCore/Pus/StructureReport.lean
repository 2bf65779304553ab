import FswCore.Pus.Housekeeping

/-!
Contract: the report of a ground-created structure, exactly.

Owns:
- when it is built, and how long it is then;
- its source data, and the values a walk over them recovers;
- the counters it leaves, and that a failed one leaves them alone.

Does not own: when a structure is due.
-/

namespace FswCore

open Library Library.BigEndian

/-! ### Size and values -/

/-- The octets a parameter takes; none where the pool lacks it. -/
def dpWidthOf (dp : Datapool) (id : UInt16) : Nat :=
  match datapoolGet dp id with
  | .error _ => 0
  | .ok value => dpTypeWidth value.type

/-- The whole report: both headers, the identifier, the values and the checksum. -/
def dynamicHkSize (dp : Datapool) (held : HkStructure) : Nat :=
  ccsdsPrimaryHeaderSize + pusTmSecondaryHeaderSize + pus3SidSize +
    (held.paramIds.map (dpWidthOf dp)).sum + 2

/-- The receiver's walk: one value after the other, each as wide as its type. -/
def dpValueWalk : List DpType → List UInt8 → Option (List DpValue × List UInt8)
  | [], input => some ([], input)
  | type :: rest, input =>
      match dpValueDecode type input with
      | .error _ => none
      | .ok (value, read) =>
          match dpValueWalk rest (input.drop read) with
          | none => none
          | some (values, behind) => some (value :: values, behind)

theorem dpValueWalk_flatMap (values : List DpValue) (behind : List UInt8) :
    dpValueWalk (values.map DpValue.type) (values.flatMap dpValueImage ++ behind) =
      some (values, behind) := by
  induction values with
  | nil => rfl
  | cons value rest inductionHypothesis =>
      have skip : (dpValueImage value ++ (rest.flatMap dpValueImage ++ behind)).drop
          (dpTypeWidth value.type) = rest.flatMap dpValueImage ++ behind := by
        rw [← dpValueImage_length]
        exact List.drop_left
      rw [List.map_cons, List.flatMap_cons, List.append_assoc, dpValueWalk,
        dpValueDecode_dpValueImage]
      simp only [skip, inductionHypothesis]

theorem pus3ResolveParams_some {dp : Datapool} {ids : List UInt16} {values : List DpValue}
    (resolved : pus3ResolveParams dp ids = some values) :
    ids.map (datapoolGet dp) = values.map .ok := by
  induction ids generalizing values with
  | nil =>
      obtain rfl := Option.some.inj resolved
      rfl
  | cons id rest inductionHypothesis =>
      rw [pus3ResolveParams] at resolved
      split at resolved
      · contradiction
      rename_i value here
      split at resolved
      · contradiction
      rename_i found
      obtain rfl := Option.some.inj resolved
      rw [List.map_cons, List.map_cons, here, inductionHypothesis found]

/-- The values are resolved exactly when the pool defines every parameter. -/
theorem pus3ResolveParams_iff {dp : Datapool} {ids : List UInt16} :
    (∃ values, pus3ResolveParams dp ids = some values) ↔
      ∀ id ∈ ids, ∃ value, datapoolGet dp id = .ok value := by
  constructor
  · rintro ⟨values, resolved⟩ id member
    have lookups := pus3ResolveParams_some resolved
    have found : datapoolGet dp id ∈ values.map .ok := lookups ▸ List.mem_map_of_mem member
    obtain ⟨value, _, isValue⟩ := List.mem_map.mp found
    exact ⟨value, isValue.symm⟩
  · intro defined
    induction ids with
    | nil => exact ⟨[], rfl⟩
    | cons id rest inductionHypothesis =>
        obtain ⟨value, here⟩ := defined id List.mem_cons_self
        obtain ⟨values, resolved⟩ := inductionHypothesis fun other member =>
          defined other (List.mem_cons_of_mem _ member)
        refine ⟨value :: values, ?_⟩
        rw [pus3ResolveParams, here]
        simp only [resolved]

/-- The widths looked up beforehand are those of the values. -/
theorem sum_dpWidthOf {dp : Datapool} {ids : List UInt16} {values : List DpValue}
    (lookups : ids.map (datapoolGet dp) = values.map .ok) :
    (ids.map (dpWidthOf dp)).sum = (values.map fun value => dpTypeWidth value.type).sum := by
  induction ids generalizing values with
  | nil =>
      obtain rfl := List.map_eq_nil_iff.mp lookups.symm
      rfl
  | cons id rest inductionHypothesis =>
      cases values with
      | nil => contradiction
      | cons value others =>
          rw [List.map_cons, List.map_cons, List.cons.injEq] at lookups
          have width : dpWidthOf dp id = dpTypeWidth value.type := by
            rw [dpWidthOf, lookups.1]
          rw [List.map_cons, List.map_cons, List.sum_cons, List.sum_cons, width,
            inductionHypothesis lookups.2]

/-! ### The report -/

/-- The counters a builder's call leaves behind. -/
def countersAfter {status : Type} (counters : PusCounters) : Except status TmOut → PusCounters
  | .error _ => counters
  | .ok out => out.counters

/-- A report of this structure as it is sent, and what it leaves. -/
structure DynamicHkReported (request : TmRequest) (counters : PusCounters) (dp : Datapool)
    (held : HkStructure) (out : TmOut) : Prop where
  length : out.packet.length = dynamicHkSize dp held
  reads : ReadsAs out.packet
    (tmPacket request counters .hkParamReport (tmSourceData out.packet))
  values : ∃ values, held.paramIds.map (datapoolGet dp) = values.map .ok ∧
    tmSourceData out.packet = put16 held.sid ++ values.flatMap dpValueImage ∧
    dpValueWalk (values.map DpValue.type) ((tmSourceData out.packet).drop pus3SidSize) =
      some (values, [])
  seqCount : out.counters.tmSeqCount.toNat = (counters.tmSeqCount.toNat + 1) % 16384
  msgCounter : out.counters.msgCounter .hkParamReport = counters.msgCounter .hkParamReport + 1
  otherCounters : ∀ kind, kind ≠ .hkParamReport →
    out.counters.msgCounter kind = counters.msgCounter kind
  eventCounters : out.counters.pus5 = counters.pus5

theorem dynamicHkReported {request : TmRequest} {counters : PusCounters} {dp : Datapool}
    {held : HkStructure} {values : List DpValue} {out : TmOut}
    (resolved : pus3ResolveParams dp held.paramIds = some values)
    (built : buildTm request counters .hkParamReport
      (pus3SidSize + (values.map fun value => dpTypeWidth value.type).sum)
      (pus3EncodeLoop request.outCap values (put16 held.sid)) = some out)
    (small : pus3SidSize + (values.map fun value => dpTypeWidth value.type).sum + 12 < 65536) :
    DynamicHkReported request counters dp held out := by
  have lookups := pus3ResolveParams_some resolved
  obtain ⟨octets, encoded, packed, committed⟩ := buildTm_packs built
  have isSource := pus3EncodeLoop_eq encoded
  have sized : octets.length =
      pus3SidSize + (values.map fun value => dpTypeWidth value.type).sum := by
    rw [isSource, List.length_append, flatMap_dpValueImage_length]
    rfl
  rw [← sized] at packed small
  have reads : ReadsAs out.packet (tmPacket request counters .hkParamReport octets) :=
    packTm_reads packed (dataField_pred_toNat small)
  have source : tmSourceData out.packet = octets := reads.sourceData
  constructor
  · rw [reads.sourceLength, dynamicHkSize, sum_dpWidthOf lookups]
    simp only [tmPacket, sized]
    omega
  · rw [source]
    exact reads
  · refine ⟨values, lookups, source.trans isSource, ?_⟩
    have walked := dpValueWalk_flatMap values []
    rw [List.append_nil] at walked
    have behind : (put16 held.sid ++ values.flatMap dpValueImage).drop pus3SidSize =
        values.flatMap dpValueImage := by
      rw [pus3SidSize, ← put16_length held.sid]
      exact List.drop_left
    rw [source, isSource, behind, walked]
  · rw [committed]
    exact counters.tmSeqCount_commit_toNat .hkParamReport
  · rw [committed, PusCounters.msgCounter_commit, if_pos rfl]
  · intro kind other
    rw [committed, PusCounters.msgCounter_commit, if_neg other, UInt8.add_zero]
  · rw [committed, PusCounters.pus5_commit]

/-- A report that the builder returns. -/
theorem pus3BuildDynamicHkReport_reported {request : TmRequest} {counters : PusCounters}
    {dp : Datapool} {held : HkStructure} {out : TmOut}
    (built : pus3BuildDynamicHkReport request counters dp held = .ok out)
    (small : 20 + 4 * held.paramIds.length < 65536) :
    DynamicHkReported request counters dp held out := by
  unfold pus3BuildDynamicHkReport at built
  split at built
  · contradiction
  rename_i values resolved
  simp only at built
  split at built
  · contradiction
  rename_i packed
  obtain rfl := Except.ok.inj built
  have widths := sum_dpTypeWidth_le values
  have count := pus3ResolveParams_length resolved
  apply dynamicHkReported resolved packed
  rw [pus3SidSize]
  omega

/-- Resolved values are packed exactly when the whole packet fits. -/
theorem buildTm_values_iff {request : TmRequest} {counters : PusCounters} {dp : Datapool}
    {held : HkStructure} {values : List DpValue}
    (resolved : pus3ResolveParams dp held.paramIds = some values)
    (addressable : request.apid ≤ 0x7FF) (inRange : counters.tmSeqCount ≤ 0x3FFF)
    (small : dynamicHkSize dp held < 65536) :
    (∃ out, buildTm request counters .hkParamReport
        (pus3SidSize + (values.map fun value => dpTypeWidth value.type).sum)
        (pus3EncodeLoop request.outCap values (put16 held.sid)) = some out) ↔
      dynamicHkSize dp held ≤ request.outCap := by
  have size : dynamicHkSize dp held =
      18 + (pus3SidSize + (values.map fun value => dpTypeWidth value.type).sum) := by
    rw [dynamicHkSize, sum_dpWidthOf (pus3ResolveParams_some resolved), ccsdsPrimaryHeaderSize,
      pusTmSecondaryHeaderSize]
    omega
  constructor
  · rintro ⟨out, built⟩
    have room := buildTm_room built (by omega)
    rw [ccsdsPrimaryHeaderSize, pusTmSecondaryHeaderSize] at room
    omega
  · intro fits
    have encoded : pus3EncodeLoop request.outCap values (put16 held.sid) =
        some (put16 held.sid ++ values.flatMap dpValueImage) := by
      apply pus3EncodeLoop_some
      rw [put16_length]
      rw [size, pus3SidSize] at fits
      omega
    have sized : (put16 held.sid ++ values.flatMap dpValueImage).length =
        pus3SidSize + (values.map fun value => dpTypeWidth value.type).sum := by
      rw [List.length_append, flatMap_dpValueImage_length]
      rfl
    have serves : request.Serves counters (dynamicHkSize dp held) :=
      ⟨addressable, inRange, fits⟩
    obtain ⟨out, built, _⟩ :=
      buildTm_reports .hkParamReport serves sized (Nat.le_of_eq size.symm) small
    rw [encoded]
    exact ⟨out, built⟩

theorem dynamicHkSize_le {dp : Datapool} {held : HkStructure} {values : List DpValue}
    (resolved : pus3ResolveParams dp held.paramIds = some values) :
    dynamicHkSize dp held ≤ 20 + 4 * held.paramIds.length := by
  have count := pus3ResolveParams_length resolved
  have widths := sum_dpTypeWidth_le values
  rw [dynamicHkSize, sum_dpWidthOf (pus3ResolveParams_some resolved), ccsdsPrimaryHeaderSize,
    pusTmSecondaryHeaderSize, pus3SidSize]
  omega

/-- What a call of the builder does, for any structure and any buffer. -/
structure DynamicHkExact (request : TmRequest) (counters : PusCounters) (dp : Datapool)
    (held : HkStructure) (result : Except Pus3Status TmOut) : Prop where
  built_iff : (∃ out, result = .ok out) ↔
    (∀ id ∈ held.paramIds, ∃ value, datapoolGet dp id = .ok value) ∧
      dynamicHkSize dp held ≤ request.outCap
  reported : ∀ out, result = .ok out → DynamicHkReported request counters dp held out
  refused : (∀ out, result ≠ .ok out) → countersAfter counters result = counters

theorem countersAfter_refused {status : Type} {counters : PusCounters}
    {result : Except status TmOut} (refused : ∀ out, result ≠ .ok out) :
    countersAfter counters result = counters := by
  cases result with
  | error status => rfl
  | ok out => exact absurd rfl (refused out)

/-- No packet, where there must be none. -/
theorem DynamicHkExact.of_error {request : TmRequest} {counters : PusCounters} {dp : Datapool}
    {held : HkStructure} {status : Pus3Status}
    (none : ¬((∀ id ∈ held.paramIds, ∃ value, datapoolGet dp id = .ok value) ∧
      dynamicHkSize dp held ≤ request.outCap)) :
    DynamicHkExact request counters dp held (.error status) := by
  constructor
  · constructor
    · rintro ⟨out, built⟩
      contradiction
    · intro possible
      exact absurd possible none
  · intro out built
    contradiction
  · exact countersAfter_refused

/-- For any pool, structure, buffer and counters a report can be sent with. The
longest report of a structure has a length of 16 bits. -/
theorem pus3BuildDynamicHkReport_exact {cfg : Config} {request : TmRequest}
    {counters : PusCounters} (dp : Datapool) {held : HkStructure}
    (representable : 20 + 4 * cfg.hkstoreMaxParams < 65536)
    (bounded : held.paramIds.length ≤ cfg.hkstoreMaxParams)
    (addressable : request.apid ≤ 0x7FF) (inRange : counters.tmSeqCount ≤ 0x3FFF) :
    DynamicHkExact request counters dp held
      (pus3BuildDynamicHkReport request counters dp held) := by
  unfold pus3BuildDynamicHkReport
  cases resolved : pus3ResolveParams dp held.paramIds with
  | none =>
      apply DynamicHkExact.of_error
      rintro ⟨defined, _⟩
      obtain ⟨values, found⟩ := pus3ResolveParams_iff.mpr defined
      rw [resolved] at found
      contradiction
  | some values =>
      have longest := dynamicHkSize_le resolved
      have packed_iff :=
        buildTm_values_iff resolved addressable inRange (Nat.lt_of_le_of_lt longest (by omega))
      have defined := pus3ResolveParams_iff.mp ⟨values, resolved⟩
      simp only
      cases built : buildTm request counters .hkParamReport
          (pus3SidSize + (values.map fun value => dpTypeWidth value.type).sum)
          (pus3EncodeLoop request.outCap values (put16 held.sid)) with
      | none =>
          rw [built] at packed_iff
          apply DynamicHkExact.of_error
          rintro ⟨_, fits⟩
          obtain ⟨out, impossible⟩ := packed_iff.mpr fits
          contradiction
      | some sent =>
          constructor
          · exact ⟨fun _ => ⟨defined, packed_iff.mp ⟨sent, built⟩⟩, fun _ => ⟨sent, rfl⟩⟩
          · intro out isSent
            obtain rfl := Except.ok.inj isSent
            have widths := sum_dpTypeWidth_le values
            have count := pus3ResolveParams_length resolved
            apply dynamicHkReported resolved built
            rw [pus3SidSize]
            omega
          · exact countersAfter_refused

/-- Three widths, in a buffer that fits them exactly. -/
theorem pus3BuildDynamicHkReport_exact_fitting :
    let counters : PusCounters := ⟨16383, #v[0, 0, 0, 0], #v[0, 0, 0, 0], 0, 255, 0, 0, 0⟩
    let pool : Datapool := ⟨[⟨1, .readOnly, .f32 0x40490FDB⟩, ⟨2, .readWrite, .i8 (-1)⟩,
      ⟨3, .readWrite, .u16 513⟩], 0⟩
    let held : HkStructure := ⟨0x0100, [3, 1, 2], 10, 0, true⟩
    DynamicHkExact ⟨5, 100, 0, 27⟩ counters pool held
        (pus3BuildDynamicHkReport ⟨5, 100, 0, 27⟩ counters pool held) ∧
      (pus3BuildDynamicHkReport ⟨5, 100, 0, 27⟩ counters pool held).toOption.isSome := by
  intro counters pool held
  have representable : 20 + 4 * defaultConfig.hkstoreMaxParams < 65536 := by decide
  have bounded : held.paramIds.length ≤ defaultConfig.hkstoreMaxParams := by decide
  constructor
  · exact pus3BuildDynamicHkReport_exact pool representable bounded (by decide) (by decide)
  · decide +kernel

end FswCore
