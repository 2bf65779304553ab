import FswCore.Datapool.Codec
import FswCore.Hkstore.Invariant
import FswCore.Pus.Packet

/-!
Contract: `lib/pus/src/pus3.c`, function by function.

Owns:
- the framework report and the report of a ground-created structure;
- the structure-management requests, and that a refused one changes nothing;
- that each report is built and reads back whenever its octets fit.

Does not own: the structure store itself.
-/

namespace FswCore

open Library Library.BigEndian

/-- `MIGRIS_PUS3_SID_SIZE`. -/
def pus3SidSize : Nat := 2

/-- `MIGRIS_PUS3_SID_FRAMEWORK_DIAG`. -/
def pus3SidFrameworkDiag : UInt16 := 0x0001

/-- `MIGRIS_PUS3_HK_SOURCE_DATA_SIZE`. -/
def pus3HkSourceDataSize : Nat := 29

/-- `MIGRIS_PUS3_HK_TM_PACKET_SIZE`. -/
def pus3HkTmPacketSize : Nat := 47

/-- `MIGRIS_PUS3_POLL_TC_APP_DATA_SIZE`. -/
def pus3PollTcAppDataSize : Nat := 2

/-- The TC subtype enumerators. -/
def pus3SubtypeCreateStructure : UInt8 := 1
def pus3SubtypeDeleteStructure : UInt8 := 2
def pus3SubtypeEnableStructure : UInt8 := 5
def pus3SubtypeDisableStructure : UInt8 := 6
def pus3SubtypeOneShotPoll : UInt8 := 27

inductive Pus3Status where
  | ok
  | errBufTooSmall
  | errBadArg
  | errUnknownSid
  | errUnknownParam
  | errExecFailed
deriving DecidableEq, Repr

structure Pus3HkParams where
  pus1MsgCounter : Vector UInt8 4
  pus5MsgCounter : Vector UInt8 4
  pus17TmMsgCounter : UInt8
  tcAcceptedCount : UInt32
  tcRejectedCount : UInt32
  rxRingOverflowDrops : UInt32

/-! ### Reports -/

/-- The frozen parameter block behind its structure identifier. -/
def pus3HkSource (sid : UInt16) (nowSeconds : UInt32) (seqSnapshot : UInt16)
    (params : Pus3HkParams) : List UInt8 :=
  put16 sid ++ put32 nowSeconds ++ put16 seqSnapshot ++ params.pus1MsgCounter.toList ++
    params.pus5MsgCounter.toList ++ [params.pus17TmMsgCounter] ++ put32 params.tcAcceptedCount ++
    put32 params.tcRejectedCount ++ put32 params.rxRingOverflowDrops

def pus3BuildHkReport (request : TmRequest) (counters : PusCounters) (sid : UInt16)
    (params : Pus3HkParams) : Except Pus3Status TmOut :=
  if sid ≠ pus3SidFrameworkDiag then .error .errUnknownSid
  else
    match buildTm request counters .hkParamReport pus3HkSourceDataSize
        (some (pus3HkSource sid request.nowSeconds counters.tmSeqCount params)) with
    | none => .error .errBufTooSmall
    | some out => .ok out

/-- The values the structure names, or `none` where the pool lacks one. -/
def pus3ResolveParams (dp : Datapool) : List UInt16 → Option (List DpValue)
  | [] => some []
  | id :: rest =>
      match datapoolGet dp id with
      | .error _ => none
      | .ok value =>
          match pus3ResolveParams dp rest with
          | none => none
          | some values => some (value :: values)

/-- The value loop, behind the source data written so far. -/
def pus3EncodeLoop (outCap : Nat) : List DpValue → List UInt8 → Option (List UInt8)
  | [], source => some source
  | value :: rest, source =>
      let off := ccsdsPrimaryHeaderSize + pusTmSecondaryHeaderSize + source.length
      match dpValueEncode value (outCap - off) with
      | .error _ => none
      | .ok bytes => pus3EncodeLoop outCap rest (source ++ bytes)

/-- Every parameter is resolved before an octet is written. -/
def pus3BuildDynamicHkReport (request : TmRequest) (counters : PusCounters) (dp : Datapool)
    (held : HkStructure) : Except Pus3Status TmOut :=
  match pus3ResolveParams dp held.paramIds with
  | none => .error .errUnknownParam
  | some values =>
      let valueBytes := (values.map fun value => dpTypeWidth value.type).sum
      match buildTm request counters .hkParamReport (pus3SidSize + valueBytes)
          (pus3EncodeLoop request.outCap values (put16 held.sid)) with
      | none => .error .errBufTooSmall
      | some out => .ok out

/-! ### Structure management -/

/-- `(rc == MIGRIS_HKSTORE_OK) ? MIGRIS_PUS3_OK : MIGRIS_PUS3_ERR_EXEC_FAILED`. -/
def pus3Return (result : HkstoreStatus × Hkstore) : Pus3Status × Hkstore :=
  (if result.1 = .ok then .ok else .errExecFailed, result.2)

/-- Application data: SID (2), count (1), parameter identifiers (2 each), interval (4). -/
def pus3ExecCreate (cfg : Config) (store : Hkstore) (app : List UInt8) : Pus3Status × Hkstore :=
  if app.length < 7 then (.errBadArg, store)
  else
    let count := (app.getD 2 0).toNat
    if app.length ≠ 7 + 2 * count then (.errBadArg, store)
    else if count > cfg.hkstoreMaxParams then (.errExecFailed, store)
    else
      let ids := (List.range count).map fun index => be16At app (3 + 2 * index)
      let interval := be32At app (3 + 2 * count)
      pus3Return (hkstoreCreate cfg store (be16At app 0) ids interval)

def pus3ExecSidOnly (store : Hkstore) (app : List UInt8) (subtype : UInt8) :
    Pus3Status × Hkstore :=
  if app.length ≠ pus3SidSize then (.errBadArg, store)
  else
    let sid := be16At app 0
    if subtype = pus3SubtypeDeleteStructure then pus3Return (hkstoreDelete store sid)
    else pus3Return (hkstoreSetEnabled store sid (subtype == pus3SubtypeEnableStructure))

def pus3Execute (cfg : Config) (store : Hkstore) (serviceSubtype : UInt8)
    (app : List UInt8) : Pus3Status × Hkstore :=
  if serviceSubtype = pus3SubtypeCreateStructure then pus3ExecCreate cfg store app
  else if serviceSubtype = pus3SubtypeDeleteStructure ∨
      serviceSubtype = pus3SubtypeEnableStructure ∨
      serviceSubtype = pus3SubtypeDisableStructure then
    pus3ExecSidOnly store app serviceSubtype
  else (.errBadArg, store)

theorem pus3Return_refused {store : Hkstore} {result : HkstoreStatus × Hkstore}
    (kept : result.1 ≠ .ok → result.2 = store) (refused : (pus3Return result).1 ≠ .ok) :
    (pus3Return result).2 = store := by
  apply kept
  intro succeeded
  exact refused (if_pos succeeded)

theorem pus3ExecCreate_refused {cfg : Config} {store : Hkstore} {app : List UInt8}
    (refused : (pus3ExecCreate cfg store app).1 ≠ .ok) :
    (pus3ExecCreate cfg store app).2 = store := by
  simp only [pus3ExecCreate] at refused ⊢
  split_ifs at refused ⊢
  · rfl
  · rfl
  · rfl
  · refine pus3Return_refused (fun failed => ?_) refused
    obtain ⟨_, unchanged⟩ | ⟨succeeded, _⟩ := hkstoreCreate_cases cfg store (be16At app 0)
      ((List.range (app.getD 2 0).toNat).map fun index => be16At app (3 + 2 * index))
      (be32At app (3 + 2 * (app.getD 2 0).toNat))
    · exact unchanged
    · exact absurd succeeded failed

theorem pus3ExecSidOnly_refused {store : Hkstore} {app : List UInt8} {subtype : UInt8}
    (refused : (pus3ExecSidOnly store app subtype).1 ≠ .ok) :
    (pus3ExecSidOnly store app subtype).2 = store := by
  simp only [pus3ExecSidOnly] at refused ⊢
  split_ifs at refused ⊢
  · rfl
  · refine pus3Return_refused (fun failed => ?_) refused
    obtain ⟨_, unchanged, _⟩ | ⟨succeeded, _⟩ := hkstoreDelete_cases store (be16At app 0)
    · exact unchanged
    · exact absurd succeeded failed
  · refine pus3Return_refused (fun failed => ?_) refused
    obtain ⟨_, unchanged, _⟩ | ⟨succeeded, _⟩ := hkstoreSetEnabled_cases store (be16At app 0)
      (subtype == pus3SubtypeEnableStructure)
    · exact unchanged
    · exact absurd succeeded failed

/-- A refused request leaves the store as it was. -/
theorem pus3Execute_refused {cfg : Config} {store : Hkstore} {serviceSubtype : UInt8}
    {app : List UInt8} (refused : (pus3Execute cfg store serviceSubtype app).1 ≠ .ok) :
    (pus3Execute cfg store serviceSubtype app).2 = store := by
  rw [pus3Execute] at refused ⊢
  split_ifs at refused ⊢ with create sidOnly
  · exact pus3ExecCreate_refused refused
  · exact pus3ExecSidOnly_refused refused
  · rfl

/-! ### Reports as they read -/

theorem pus3BuildHkReport_ok {request : TmRequest} {counters : PusCounters}
    (params : Pus3HkParams) (serves : request.Serves counters pus3HkTmPacketSize) :
    ∃ out source, pus3BuildHkReport request counters pus3SidFrameworkDiag params = .ok out ∧
      out.Reports request counters .hkParamReport source pus3HkTmPacketSize := by
  have sized : (pus3HkSource pus3SidFrameworkDiag request.nowSeconds counters.tmSeqCount
      params).length = pus3HkSourceDataSize := by
    simp [pus3HkSource, pus3HkSourceDataSize]
  obtain ⟨out, built, reports⟩ :=
    buildTm_reports .hkParamReport serves sized (Nat.le_refl _) (by decide)
  refine ⟨out, _, ?_, reports⟩
  rw [pus3BuildHkReport, if_neg (not_not.mpr rfl)]
  simp only [built]

theorem pus3BuildHkReport_within {request : TmRequest} {counters : PusCounters}
    (params : Pus3HkParams) (serves : request.Serves counters pus3HkTmPacketSize) :
    ReturnsWithin ((pus3BuildHkReport request counters pus3SidFrameworkDiag params).map some)
      .errBufTooSmall request counters .hkParamReport pus3HkTmPacketSize := by
  obtain ⟨out, source, built, reports⟩ := pus3BuildHkReport_ok params serves
  rw [built]
  exact ⟨source, reports⟩

theorem pus3ResolveParams_length {dp : Datapool} {ids : List UInt16} {values : List DpValue}
    (resolved : pus3ResolveParams dp ids = some values) : values.length = ids.length := by
  induction ids generalizing values with
  | nil =>
      obtain rfl := Option.some.inj resolved
      rfl
  | cons id rest inductionHypothesis =>
      rw [pus3ResolveParams] at resolved
      split at resolved
      · contradiction
      split at resolved
      · contradiction
      · rename_i found
        obtain rfl := Option.some.inj resolved
        simp only [List.length_cons, inductionHypothesis found]

/-- A value takes four octets at most. -/
theorem sum_dpTypeWidth_le (values : List DpValue) :
    (values.map fun value => dpTypeWidth value.type).sum ≤ 4 * values.length := by
  induction values with
  | nil => simp
  | cons value rest inductionHypothesis =>
      have width := dpTypeWidth_le value.type
      simp only [List.map_cons, List.sum_cons, List.length_cons]
      omega

/-- With room for every value the loop writes them one after the other. -/
theorem pus3EncodeLoop_some {outCap : Nat} {values : List DpValue} {source : List UInt8}
    (room : 16 + source.length + (values.map fun value => dpTypeWidth value.type).sum ≤ outCap) :
    pus3EncodeLoop outCap values source = some (source ++ values.flatMap dpValueImage) := by
  induction values generalizing source with
  | nil => simp [pus3EncodeLoop]
  | cons value rest inductionHypothesis =>
      simp only [List.map_cons, List.sum_cons] at room
      have fits : ¬outCap - (ccsdsPrimaryHeaderSize + pusTmSecondaryHeaderSize + source.length) <
          dpTypeWidth value.type := by
        simp only [ccsdsPrimaryHeaderSize, pusTmSecondaryHeaderSize]
        omega
      simp only [pus3EncodeLoop, dpValueEncode_eq, if_neg fits]
      rw [inductionHypothesis (by rw [List.length_append, dpValueImage_length]; omega),
        List.flatMap_cons, List.append_assoc]

/-- What the loop writes, when it does. -/
theorem pus3EncodeLoop_eq {outCap : Nat} {values : List DpValue} {source octets : List UInt8}
    (encoded : pus3EncodeLoop outCap values source = some octets) :
    octets = source ++ values.flatMap dpValueImage := by
  induction values generalizing source with
  | nil =>
      rw [List.flatMap_nil, List.append_nil]
      exact (Option.some.inj encoded).symm
  | cons value rest inductionHypothesis =>
      simp only [pus3EncodeLoop, dpValueEncode_eq] at encoded
      split at encoded
      · contradiction
      · rename_i bytes image
        split at image
        · contradiction
        cases image
        rw [inductionHypothesis encoded, List.flatMap_cons, List.append_assoc]

theorem flatMap_dpValueImage_length (values : List DpValue) :
    (values.flatMap dpValueImage).length =
      (values.map fun value => dpTypeWidth value.type).sum := by
  simp [List.length_flatMap]

theorem pus3BuildDynamicHkReport_ok {request : TmRequest} {counters : PusCounters}
    {dp : Datapool} {held : HkStructure} {values : List DpValue} {size : Nat}
    (resolved : pus3ResolveParams dp held.paramIds = some values)
    (serves : request.Serves counters size) (fits : 20 + 4 * held.paramIds.length ≤ size)
    (small : size < 65536) :
    ∃ out source, pus3BuildDynamicHkReport request counters dp held = .ok out ∧
      out.Reports request counters .hkParamReport source size := by
  have count := pus3ResolveParams_length resolved
  have widths := sum_dpTypeWidth_le values
  have room := serves.room
  have encoded : pus3EncodeLoop request.outCap values (put16 held.sid) =
      some (put16 held.sid ++ values.flatMap dpValueImage) :=
    pus3EncodeLoop_some (by rw [put16_length]; omega)
  have sized : (put16 held.sid ++ values.flatMap dpValueImage).length =
      pus3SidSize + (values.map fun value => dpTypeWidth value.type).sum := by
    rw [List.length_append, flatMap_dpValueImage_length]
    rfl
  obtain ⟨out, built, reports⟩ := buildTm_reports .hkParamReport serves sized
    (by simp only [pus3SidSize]; omega) small
  refine ⟨out, _, ?_, reports⟩
  simp only [pus3BuildDynamicHkReport, resolved, encoded, built]

/-- The report of a structure fails for a parameter the pool lacks, and else is
built. -/
theorem pus3BuildDynamicHkReport_within {request : TmRequest} {counters : PusCounters}
    (dp : Datapool) {held : HkStructure} {size : Nat} (serves : request.Serves counters size)
    (fits : 20 + 4 * held.paramIds.length ≤ size) (small : size < 65536) :
    ReturnsWithin ((pus3BuildDynamicHkReport request counters dp held).map some) .errBufTooSmall
      request counters .hkParamReport size := by
  cases resolved : pus3ResolveParams dp held.paramIds with
  | none => simp [pus3BuildDynamicHkReport, resolved, Except.map, ReturnsWithin]
  | some values =>
      obtain ⟨out, source, built, reports⟩ :=
        pus3BuildDynamicHkReport_ok resolved serves fits small
      rw [built]
      exact ⟨source, reports⟩

/-- A report of the framework structure reads as its headers and its block. -/
theorem pus3BuildHkReport_packet {request : TmRequest} {counters : PusCounters}
    {params : Pus3HkParams} {out : TmOut}
    (built : pus3BuildHkReport request counters pus3SidFrameworkDiag params = .ok out) :
    ReadsAs out.packet (tmPacket request counters .hkParamReport
      (pus3HkSource pus3SidFrameworkDiag request.nowSeconds counters.tmSeqCount params)) := by
  rw [pus3BuildHkReport, if_neg (not_not.mpr rfl)] at built
  split at built
  · contradiction
  rename_i packed
  cases built
  exact buildTm_packet packed (by simp [pus3HkSource, pus3HkSourceDataSize]) (by decide)

/-- A report of a structure reads as its headers, its identifier and its values. -/
theorem pus3BuildDynamicHkReport_packet {request : TmRequest} {counters : PusCounters}
    {dp : Datapool} {held : HkStructure} {out : TmOut}
    (built : pus3BuildDynamicHkReport request counters dp held = .ok out)
    (small : 14 + 4 * held.paramIds.length < 65536) :
    ∃ values, pus3ResolveParams dp held.paramIds = some values ∧
      ReadsAs out.packet (tmPacket request counters .hkParamReport
        (put16 held.sid ++ values.flatMap dpValueImage)) := by
  rw [pus3BuildDynamicHkReport] at built
  split at built
  · contradiction
  rename_i values resolved
  have count := pus3ResolveParams_length resolved
  have widths := sum_dpTypeWidth_le values
  simp only at built
  split at built
  · contradiction
  rename_i packed
  cases built
  obtain ⟨octets, encoded, _⟩ := buildTm_packs packed
  have isSource := pus3EncodeLoop_eq encoded
  rw [encoded, isSource] at packed
  have sized : (put16 held.sid ++ values.flatMap dpValueImage).length =
      pus3SidSize + (values.map fun value => dpTypeWidth value.type).sum := by
    rw [List.length_append, flatMap_dpValueImage_length]
    rfl
  have room : pus3SidSize + (values.map fun value => dpTypeWidth value.type).sum + 12 <
      65536 := by
    simp only [pus3SidSize]
    omega
  exact ⟨values, resolved, buildTm_packet packed sized room⟩

/-- A report of the framework structure that was built reads back. -/
theorem pus3BuildHkReport_reads {request : TmRequest} {counters : PusCounters} {sid : UInt16}
    {params : Pus3HkParams} {out : TmOut}
    (built : pus3BuildHkReport request counters sid params = .ok out) :
    ∃ sourceLen, (∃ tm, ReadsAs out.packet tm ∧
        tm.primary = tmPrimaryOf request counters.tmSeqCount sourceLen) ∧
      out.counters = counters.commit .hkParamReport := by
  rw [pus3BuildHkReport] at built
  split at built
  · contradiction
  split at built
  · contradiction
  rename_i packed
  cases built
  refine ⟨_, buildTm_reads packed ?_ (by decide)⟩
  rintro _ ⟨⟩
  simp [pus3HkSource, pus3HkSourceDataSize]

/-- A dynamic report that was built reads back. -/
theorem pus3BuildDynamicHkReport_reads {request : TmRequest} {counters : PusCounters}
    {dp : Datapool} {held : HkStructure} {out : TmOut}
    (small : 14 + 4 * held.paramIds.length < 65536)
    (built : pus3BuildDynamicHkReport request counters dp held = .ok out) :
    ∃ sourceLen, (∃ tm, ReadsAs out.packet tm ∧
        tm.primary = tmPrimaryOf request counters.tmSeqCount sourceLen) ∧
      out.counters = counters.commit .hkParamReport := by
  rw [pus3BuildDynamicHkReport] at built
  split at built
  · contradiction
  rename_i values resolved
  have count := pus3ResolveParams_length resolved
  have widths := sum_dpTypeWidth_le values
  simp only at built
  split at built
  · contradiction
  rename_i packed
  cases built
  refine ⟨_, buildTm_reads packed ?_ (by simp only [pus3SidSize]; omega)⟩
  intro octets encoded
  rw [pus3EncodeLoop_eq encoded, List.length_append, flatMap_dpValueImage_length]
  rfl

/-! ### The structures a request may leave -/

theorem pus3ExecCreate_wellFormed {cfg : Config} {store : Hkstore}
    (wellFormed : store.WellFormed cfg) (app : List UInt8) :
    (pus3ExecCreate cfg store app).2.WellFormed cfg := by
  simp only [pus3ExecCreate]
  split_ifs
  · exact wellFormed
  · exact wellFormed
  · exact wellFormed
  · exact wellFormed.create ..

theorem pus3ExecSidOnly_wellFormed {cfg : Config} {store : Hkstore}
    (wellFormed : store.WellFormed cfg) (app : List UInt8) (subtype : UInt8) :
    (pus3ExecSidOnly store app subtype).2.WellFormed cfg := by
  simp only [pus3ExecSidOnly]
  split_ifs
  · exact wellFormed
  · exact wellFormed.delete ..
  · exact wellFormed.setEnabled ..

/-- A request keeps the store in order. -/
theorem pus3Execute_wellFormed {cfg : Config} {store : Hkstore}
    (wellFormed : store.WellFormed cfg) (serviceSubtype : UInt8) (app : List UInt8) :
    (pus3Execute cfg store serviceSubtype app).2.WellFormed cfg := by
  rw [pus3Execute]
  split_ifs
  · exact pus3ExecCreate_wellFormed wellFormed app
  · exact pus3ExecSidOnly_wellFormed wellFormed app serviceSubtype
  · exact wellFormed

end FswCore
