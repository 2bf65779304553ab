import FswCore.Pktstore.Model
import FswCore.Pus.Packet

/-!
Contract: `lib/pus/src/pus15.c`, function by function.

Owns:
- the storage requests, and that a refused one changes nothing;
- the store report, built and read back whenever its octets fit.

Does not own: the packet store itself, and the drain of a retrieval that a
downlink request arms.
-/

namespace FswCore

open Library Library.BigEndian

/-- The TC subtype enumerators. -/
def pus15SubtypeEnableStorage : UInt8 := 1
def pus15SubtypeDisableStorage : UInt8 := 2
def pus15SubtypeDownlinkRange : UInt8 := 9
def pus15SubtypeDeleteRange : UInt8 := 11
def pus15SubtypeReportRequest : UInt8 := 12

/-- `MIGRIS_PUS15_STORE_REPORT_PACKET_SIZE`. -/
def pus15StoreReportPacketSize : Nat := 29

inductive Pus15Status where
  | errBufTooSmall
  | errBadArg
  | errMalformed
  | errRetrievalActive
  | errBadSubtype
deriving DecidableEq, Repr

variable {cfg : Config}

/-- Enabled flag, packet count, oldest and newest storage time. -/
def pus15StoreSource (store : Pktstore cfg) : List UInt8 :=
  let (oldest, newest) := (pktstoreSpan store).getD (0, 0)
  [if pktstoreIsEnabled store then 1 else 0] ++ put16 (UInt16.ofNat (pktstoreCount store)) ++
    put32 oldest ++ put32 newest

def pus15BuildStoreReport (request : TmRequest) (counters : PusCounters)
    (store : Pktstore cfg) : Except Pus15Status TmOut :=
  match buildTm request counters .storeReport 11 (some (pus15StoreSource store)) with
  | none => .error .errBufTooSmall
  | some out => .ok out

/-- Application data: from-time (4), to-time (4). -/
def pus15Downlink (store : Pktstore cfg) (app : List UInt8) :
    Except Pus15Status Unit × Pktstore cfg :=
  if app.length ≠ 8 then (.error .errMalformed, store)
  else
    match pktstoreArmRetrieval store (be32At app 0) (be32At app 4) with
    | (.ok, after) => (.ok (), after)
    | (.errRetrievalActive, after) => (.error .errRetrievalActive, after)
    | (_, after) => (.error .errMalformed, after)

/-- Application data: the time up to and including which packets are deleted. -/
def pus15Delete (store : Pktstore cfg) (app : List UInt8) :
    Except Pus15Status Unit × Pktstore cfg :=
  if app.length ≠ 4 then (.error .errMalformed, store)
  else
    match pktstoreDeleteUpTo store (be32At app 0) with
    | (.ok _, after) => (.ok (), after)
    | (.error .errRetrievalActive, after) => (.error .errRetrievalActive, after)
    | (.error _, after) => (.error .errBadArg, after)

/-- `.ok none` is the return value zero. -/
def pus15Execute (request : TmRequest) (counters : PusCounters) (store : Pktstore cfg)
    (serviceSubtype : UInt8) (app : List UInt8) :
    Except Pus15Status (Option TmOut) × Pktstore cfg :=
  if serviceSubtype = pus15SubtypeEnableStorage then
    if app.length ≠ 0 then (.error .errMalformed, store)
    else (.ok none, pktstoreSetEnabled store true)
  else if serviceSubtype = pus15SubtypeDisableStorage then
    if app.length ≠ 0 then (.error .errMalformed, store)
    else (.ok none, pktstoreSetEnabled store false)
  else if serviceSubtype = pus15SubtypeDownlinkRange then
    let (result, after) := pus15Downlink store app
    (result.map fun _ => none, after)
  else if serviceSubtype = pus15SubtypeDeleteRange then
    let (result, after) := pus15Delete store app
    (result.map fun _ => none, after)
  else if serviceSubtype = pus15SubtypeReportRequest then
    if app.length ≠ 0 then (.error .errMalformed, store)
    else ((pus15BuildStoreReport request counters store).map some, store)
  else (.error .errBadSubtype, store)

/-! ### Refused requests -/

theorem pktstoreArmRetrieval_refused {store : Pktstore cfg} {fromTime toTime : UInt32}
    (refused : (pktstoreArmRetrieval store fromTime toTime).1 ≠ .ok) :
    (pktstoreArmRetrieval store fromTime toTime).2 = store := by
  rw [pktstoreArmRetrieval] at refused ⊢
  split_ifs at refused ⊢
  · rfl
  · rfl
  · exact absurd rfl refused

theorem pktstoreDeleteUpTo_refused {store : Pktstore cfg} {timeSeconds : UInt32}
    {status : PktstoreStatus}
    (refused : (pktstoreDeleteUpTo store timeSeconds).1 = .error status) :
    (pktstoreDeleteUpTo store timeSeconds).2 = store := by
  simp only [pktstoreDeleteUpTo] at refused ⊢
  split_ifs at refused ⊢
  rfl

theorem pus15Downlink_refused {store : Pktstore cfg} {app : List UInt8} {status : Pus15Status}
    (refused : (pus15Downlink store app).1 = .error status) :
    (pus15Downlink store app).2 = store := by
  rw [pus15Downlink] at refused ⊢
  split_ifs at refused ⊢
  · rfl
  · have kept : (pktstoreArmRetrieval store (be32At app 0) (be32At app 4)).1 ≠ .ok →
        (pktstoreArmRetrieval store (be32At app 0) (be32At app 4)).2 = store :=
      pktstoreArmRetrieval_refused
    rcases result : pktstoreArmRetrieval store (be32At app 0) (be32At app 4) with ⟨code, after⟩
    rw [result] at refused kept
    cases code with
    | ok => contradiction
    | errRetrievalActive => exact kept (by simp)
    | errBadArg => exact kept (by simp)
    | errPacketTooLarge => exact kept (by simp)
    | errBufTooSmall => exact kept (by simp)

theorem pus15Delete_refused {store : Pktstore cfg} {app : List UInt8} {status : Pus15Status}
    (refused : (pus15Delete store app).1 = .error status) :
    (pus15Delete store app).2 = store := by
  rw [pus15Delete] at refused ⊢
  split_ifs at refused ⊢
  · rfl
  · have kept {code : PktstoreStatus}
        (failed : (pktstoreDeleteUpTo store (be32At app 0)).1 = .error code) :
        (pktstoreDeleteUpTo store (be32At app 0)).2 = store := pktstoreDeleteUpTo_refused failed
    split at refused
    · contradiction
    · rename_i result
      simp only [result] at kept ⊢
      exact kept rfl
    · rename_i result
      simp only [result] at kept ⊢
      exact kept rfl

/-- A refused request leaves the store as it was. -/
theorem pus15Execute_refused {request : TmRequest} {counters : PusCounters}
    {store : Pktstore cfg} {serviceSubtype : UInt8} {app : List UInt8} {status : Pus15Status}
    (refused : (pus15Execute request counters store serviceSubtype app).1 = .error status) :
    (pus15Execute request counters store serviceSubtype app).2 = store := by
  simp only [pus15Execute] at refused ⊢
  split_ifs at refused ⊢
  · rfl
  · rfl
  · cases result : (pus15Downlink store app).1 with
    | error code => exact pus15Downlink_refused result
    | ok _ => simp [result, Except.map] at refused
  · cases result : (pus15Delete store app).1 with
    | error code => exact pus15Delete_refused result
    | ok _ => simp [result, Except.map] at refused
  · rfl
  · rfl
  · rfl

/-! ### The report as it reads -/

theorem pus15Execute_within {request : TmRequest} {counters : PusCounters}
    (store : Pktstore cfg) (serviceSubtype : UInt8) (app : List UInt8)
    (serves : request.Serves counters pus15StoreReportPacketSize) :
    ReturnsWithin (pus15Execute request counters store serviceSubtype app).1 .errBufTooSmall
      request counters .storeReport pus15StoreReportPacketSize := by
  simp only [pus15Execute]
  split_ifs
  · simp [ReturnsWithin]
  · trivial
  · simp [ReturnsWithin]
  · trivial
  · rw [pus15Downlink]
    split
    · simp [Except.map, ReturnsWithin]
    split
    · trivial
    · simp [Except.map, ReturnsWithin]
    · simp [Except.map, ReturnsWithin]
  · rw [pus15Delete]
    split
    · simp [Except.map, ReturnsWithin]
    split
    · trivial
    · simp [Except.map, ReturnsWithin]
    · simp [Except.map, ReturnsWithin]
  · simp [ReturnsWithin]
  · have sized : (pus15StoreSource store).length = 11 := rfl
    obtain ⟨out, built, reports⟩ :=
      buildTm_reports .storeReport serves sized (Nat.le_refl _) (by decide)
    simp only [pus15BuildStoreReport, built]
    exact ⟨_, reports⟩
  · simp [ReturnsWithin]

end FswCore
