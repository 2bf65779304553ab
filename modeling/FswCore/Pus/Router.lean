import FswCore.EventSink
import FswCore.Pus.Housekeeping
import FswCore.Pus.Parameter
import FswCore.Pus.Reports
import FswCore.Pus.Scheduling
import FswCore.Pus.Storage

/-!
Contract: `lib/pus/src/tc_router.c`, function by function.

A store that is not wired is `none`. Of the event sink the context keeps whether
it is wired; a dispatch lists the calls it makes of it. Next to its output a
dispatch records what no caller sees: the reply of the handler, when one ran, and
whether a builder found its buffer too small.
-/

namespace FswCore

open Library Library.BigEndian

/-- `MIGRIS_TC_ROUTER_MIN_TC`. -/
def tcRouterMinTc : Nat := ccsdsPrimaryHeaderSize + pusTcSecondaryHeaderSize + 2

/-- `MIGRIS_TC_ROUTER_MAX_TM`. -/
def tcRouterMaxTm : Nat := 128

structure RouterCtx (cfg : Config) where
  apid : UInt16
  counters : PusCounters
  tcAcceptedCount : UInt32
  tcRejectedCount : UInt32
  rxRingOverflowDrops : UInt32
  sinkWired : Bool
  datapool : Option Datapool
  schedule : Option Schedule
  store : Option (Pktstore cfg)
  hkstore : Option Hkstore
deriving DecidableEq

/-! ### Acceptance -/

structure TcAcceptResult where
  addressed : Bool
  fc : Pus1FailureCode
  ackFlags : UInt8
  sourceId : UInt16
  serviceType : UInt8
  serviceSubtype : UInt8
deriving DecidableEq, Repr

def tcAccept (tc : List UInt8) (expectedApid : UInt16) : TcAcceptResult :=
  let ignored : TcAcceptResult :=
    { addressed := false
      fc := .none
      ackFlags := 0
      sourceId := 0
      serviceType := 0
      serviceSubtype := 0 }
  match ccsdsPrimaryUnpack tc with
  | .error _ => ignored
  | .ok primary =>
      if primary.version ≠ 0 ∨ primary.type ≠ ccsdsPacketTypeTc ∨ primary.secHdrFlag ≠ 1 ∨
          primary.seqFlags ≠ ccsdsSeqFlagsUnsegmented then ignored
      else if primary.apid ≠ expectedApid then ignored
      else
        let addressed := { ignored with addressed := true }
        if tc.length < tcRouterMinTc ∨ tc.length ≠ ccsdsPacketTotalSize primary.dataLength then
          { addressed with fc := .lengthError }
        else
          match pusTcSecondaryUnpack (tc.drop ccsdsPrimaryHeaderSize) with
          | .error _ => { addressed with fc := .lengthError }
          | .ok sec =>
              -- captured before the checksum, so that a requested report still goes out
              let identified := { addressed with
                ackFlags := sec.ackFlags
                sourceId := sec.sourceId
                serviceType := sec.serviceType
                serviceSubtype := sec.serviceSubtype }
              let crcOffset := tc.length - 2
              if crc16CcittFalse (tc.take crcOffset) ≠ be16At tc crcOffset then
                { identified with fc := .crcFailure }
              else if sec.pusVersion ≠ pusVersionC then { identified with fc := .badPusVersion }
              else if sec.serviceType ≠ pusServiceTest ∧
                  sec.serviceType ≠ pusServiceHousekeeping ∧
                  sec.serviceType ≠ pusServiceOnboardParameter ∧
                  sec.serviceType ≠ pusServiceScheduling ∧
                  sec.serviceType ≠ pusServiceStorage then
                { identified with fc := .unknownService }
              else identified

/-! ### Handlers -/

variable {cfg : Config}

/-- What a handler leaves behind: the context, the octets written and the
completion verdict. -/
structure RouteReply (cfg : Config) where
  ctx : RouterCtx cfg
  out : List UInt8
  execFc : Pus1FailureCode
  bufTooSmall : Bool

def routeFail (ctx : RouterCtx cfg) (execFc : Pus1FailureCode) : RouteReply cfg :=
  { ctx := ctx, out := [], execFc := execFc, bufTooSmall := false }

/-- A positive, a zero and a negative return of a service. -/
def routeReturn {status : Type} [DecidableEq status] (unknownSubtype : status → Bool)
    (bufTooSmall : status) (ctx : RouterCtx cfg) (result : Except status (Option TmOut)) :
    RouteReply cfg :=
  match result with
  | .error code =>
      { ctx := ctx
        out := []
        execFc := if unknownSubtype code then .unknownSubtype else .execFailure
        bufTooSmall := code = bufTooSmall }
  | .ok none => { ctx := ctx, out := [], execFc := .none, bufTooSmall := false }
  | .ok (some tm) =>
      { ctx := { ctx with counters := tm.counters }
        out := tm.packet
        execFc := .none
        bufTooSmall := false }

def routerRequest (ctx : RouterCtx cfg) (nowSeconds : UInt32) (destinationId : UInt16)
    (outCap : Nat) : TmRequest :=
  { apid := ctx.apid
    nowSeconds := nowSeconds
    destinationId := destinationId
    outCap := outCap }

/-- The application data, between the secondary header and the checksum. -/
def routerAppData (tc : List UInt8) : List UInt8 :=
  let appOff := ccsdsPrimaryHeaderSize + pusTcSecondaryHeaderSize
  window tc appOff (tc.length - appOff - 2)

def routerPus3PollFramework (ctx : RouterCtx cfg) (v : TcAcceptResult) (nowSeconds : UInt32)
    (outCap : Nat) : RouteReply cfg :=
  let params : Pus3HkParams :=
    { pus1MsgCounter := ctx.counters.pus1
      pus5MsgCounter := ctx.counters.pus5
      pus17TmMsgCounter := ctx.counters.pus17
      tcAcceptedCount := ctx.tcAcceptedCount
      tcRejectedCount := ctx.tcRejectedCount
      rxRingOverflowDrops := ctx.rxRingOverflowDrops }
  routeReturn (fun _ => false) .errBufTooSmall ctx
    ((pus3BuildHkReport (routerRequest ctx nowSeconds v.sourceId outCap) ctx.counters
      pus3SidFrameworkDiag params).map some)

def routerPus3PollDynamic (ctx : RouterCtx cfg) (v : TcAcceptResult) (nowSeconds : UInt32)
    (sid : UInt16) (outCap : Nat) : RouteReply cfg :=
  match ctx.hkstore with
  | none => routeFail ctx .unknownSubtype
  | some hkstore =>
      match hkstoreFind hkstore sid with
      | none => routeFail ctx .unknownSubtype
      | some held =>
          match ctx.datapool with
          | none => routeFail ctx .execFailure
          | some dp =>
              routeReturn (fun _ => false) .errBufTooSmall ctx
                ((pus3BuildDynamicHkReport (routerRequest ctx nowSeconds v.sourceId outCap)
                  ctx.counters dp held).map some)

def routerPus3Poll (ctx : RouterCtx cfg) (v : TcAcceptResult) (nowSeconds : UInt32)
    (app : List UInt8) (outCap : Nat) : RouteReply cfg :=
  if app.length ≠ pus3PollTcAppDataSize then routeFail ctx .unknownSubtype
  else
    let sid := be16At app 0
    if sid = pus3SidFrameworkDiag then routerPus3PollFramework ctx v nowSeconds outCap
    else routerPus3PollDynamic ctx v nowSeconds sid outCap

def routerPus3Manage (ctx : RouterCtx cfg) (v : TcAcceptResult) (app : List UInt8) :
    RouteReply cfg :=
  match ctx.hkstore with
  | none => routeFail ctx .execFailure
  | some hkstore =>
      let (status, after) := pus3Execute cfg hkstore v.serviceSubtype app
      routeFail { ctx with hkstore := some after } (if status = .ok then .none else .execFailure)

/-- `router_handler_t`. -/
abbrev RouterHandler (cfg : Config) : Type :=
  RouterCtx cfg → TcAcceptResult → UInt32 → List UInt8 → Nat → RouteReply cfg

def routerPus3 : RouterHandler cfg := fun ctx v nowSeconds tc outCap =>
  let app := routerAppData tc
  if v.serviceSubtype = pus3SubtypeOneShotPoll then routerPus3Poll ctx v nowSeconds app outCap
  else if v.serviceSubtype = pus3SubtypeCreateStructure ∨
      v.serviceSubtype = pus3SubtypeDeleteStructure ∨
      v.serviceSubtype = pus3SubtypeEnableStructure ∨
      v.serviceSubtype = pus3SubtypeDisableStructure then routerPus3Manage ctx v app
  else routeFail ctx .unknownSubtype

def routerPus17 : RouterHandler cfg := fun ctx v nowSeconds _ outCap =>
  routeReturn (· == .errNotPus17Tc) .errBufTooSmall ctx
    ((pus17Execute (routerRequest ctx nowSeconds v.sourceId outCap) ctx.counters
      v.serviceSubtype).map some)

def routerPus20 : RouterHandler cfg := fun ctx v nowSeconds tc outCap =>
  match ctx.datapool with
  | none => routeFail ctx .execFailure
  | some dp =>
      let (result, after) := pus20Execute cfg (routerRequest ctx nowSeconds v.sourceId outCap)
        ctx.counters dp v.serviceSubtype (routerAppData tc)
      routeReturn (· == .errBadSubtype) .errBufTooSmall { ctx with datapool := some after } result

def routerPus11 : RouterHandler cfg := fun ctx v nowSeconds tc outCap =>
  match ctx.schedule with
  | none => routeFail ctx .execFailure
  | some sched =>
      let (result, after) := pus11Execute cfg (routerRequest ctx nowSeconds v.sourceId outCap)
        ctx.counters sched v.serviceSubtype (routerAppData tc)
      routeReturn (· == .errBadSubtype) .errBufTooSmall { ctx with schedule := some after } result

def routerPus15 : RouterHandler cfg := fun ctx v nowSeconds tc outCap =>
  match ctx.store with
  | none => routeFail ctx .execFailure
  | some store =>
      let (result, after) := pus15Execute (routerRequest ctx nowSeconds v.sourceId outCap)
        ctx.counters store v.serviceSubtype (routerAppData tc)
      routeReturn (· == .errBadSubtype) .errBufTooSmall { ctx with store := some after } result

def routerDispatchTable (cfg : Config) : List (UInt8 × RouterHandler cfg) :=
  [(pusServiceTest, routerPus17), (pusServiceHousekeeping, routerPus3),
    (pusServiceOnboardParameter, routerPus20), (pusServiceScheduling, routerPus11),
    (pusServiceStorage, routerPus15)]

def routerRoute : RouterHandler cfg := fun ctx v nowSeconds tc outCap =>
  match (routerDispatchTable cfg).find? fun entry => entry.1 == v.serviceType with
  | some entry => entry.2 ctx v nowSeconds tc outCap
  | none => routeFail ctx .execFailure

/-! ### Dispatch -/

def routerReportRejection (ctx : RouterCtx cfg) (nowSeconds : UInt32) (v : TcAcceptResult) :
    List SinkReport :=
  if ctx.sinkWired = false then []
  else
    [{ nowSeconds := nowSeconds
       severity := pus5SevLow
       eventId := pus5EvtTcRejected
       aux := [v.fc.code, v.serviceType, v.serviceSubtype] }]

/-- The context and the octets written so far. -/
structure RouterOutput (cfg : Config) where
  ctx : RouterCtx cfg
  out : List UInt8
  bufTooSmall : Bool

/-- A verification report behind the octets written so far. -/
def RouterOutput.verify (written : RouterOutput cfg)
    (build : TmRequest → PusCounters → Option TmOut) (nowSeconds : UInt32)
    (destinationId : UInt16) (outCap : Nat) : RouterOutput cfg :=
  match build (routerRequest written.ctx nowSeconds destinationId (outCap - written.out.length))
      written.ctx.counters with
  | none => { written with bufTooSmall := true }
  | some tm =>
      { written with
        ctx := { written.ctx with counters := tm.counters }
        out := written.out ++ tm.packet }

inductive TcRouterStatus where
  | ok
  | errBufTooSmall
deriving DecidableEq, Repr

structure DispatchReply (cfg : Config) where
  status : TcRouterStatus
  ctx : RouterCtx cfg
  out : List UInt8
  sinkReports : List SinkReport
  routed : Option (RouteReply cfg)
  bufTooSmall : Bool

/-- Every addressed telecommand is counted once, by its verdict. -/
def routerCount (ctx : RouterCtx cfg) (v : TcAcceptResult) : RouterCtx cfg :=
  if v.fc ≠ .none then { ctx with tcRejectedCount := ctx.tcRejectedCount + 1 }
  else { ctx with tcAcceptedCount := ctx.tcAcceptedCount + 1 }

/-- The acceptance report, first of all. -/
def routerAcceptance (ctx : RouterCtx cfg) (v : TcAcceptResult) (nowSeconds : UInt32)
    (tc : List UInt8) (destinationId : UInt16) (outCap : Nat) : RouterOutput cfg :=
  RouterOutput.verify { ctx := ctx, out := [], bufTooSmall := false }
    (fun request counters =>
      pus1BuildAcceptance request counters (tc.take pus1RequestIdSize) v.fc)
    nowSeconds destinationId outCap

/-- The acceptance report if the telecommand asks for one. -/
def routerAcceptanceRequested (ctx : RouterCtx cfg) (v : TcAcceptResult) (nowSeconds : UInt32)
    (tc : List UInt8) (outCap : Nat) : RouterOutput cfg :=
  if v.ackFlags &&& pusTcAckAcceptance ≠ 0 then
    routerAcceptance ctx v nowSeconds tc v.sourceId outCap
  else { ctx := ctx, out := [], bufTooSmall := false }

/-- No routing and no completion report. -/
def routerRejected (written : RouterOutput cfg) (v : TcAcceptResult) (nowSeconds : UInt32) :
    DispatchReply cfg :=
  { status := .ok
    ctx := written.ctx
    out := written.out
    sinkReports := routerReportRejection written.ctx nowSeconds v
    routed := none
    bufTooSmall := written.bufTooSmall }

/-- The handler, and the completion report if the telecommand asks for one. -/
def routerAccepted (written : RouterOutput cfg) (v : TcAcceptResult) (nowSeconds : UInt32)
    (tc : List UInt8) (outCap : Nat) : DispatchReply cfg :=
  let routed := routerRoute written.ctx v nowSeconds tc (outCap - written.out.length)
  let executed : RouterOutput cfg :=
    { ctx := routed.ctx
      out := written.out ++ routed.out
      bufTooSmall := written.bufTooSmall || routed.bufTooSmall }
  let completed :=
    if v.ackFlags &&& pusTcAckCompletion ≠ 0 then
      executed.verify (fun request counters =>
        pus1BuildCompletion request counters (tc.take pus1RequestIdSize) routed.execFc)
        nowSeconds v.sourceId outCap
    else executed
  { status := .ok
    ctx := completed.ctx
    out := completed.out
    sinkReports := []
    routed := some routed
    bufTooSmall := completed.bufTooSmall }

def tcRouterDispatch (ctx : RouterCtx cfg) (nowSeconds : UInt32) (tc : List UInt8)
    (outCap : Nat) : DispatchReply cfg :=
  let silent (status : TcRouterStatus) : DispatchReply cfg :=
    { status := status
      ctx := ctx
      out := []
      sinkReports := []
      routed := none
      bufTooSmall := false }
  if outCap < tcRouterMaxTm then silent .errBufTooSmall
  else
    let v := tcAccept tc ctx.apid
    if v.addressed = false then silent .ok
    else
      let counted := routerCount ctx v
      -- the ack flags of a telecommand of the wrong length cannot be trusted
      if v.fc = .lengthError then
        routerRejected (routerAcceptance counted v nowSeconds tc 0 outCap) v nowSeconds
      else if v.fc ≠ .none then
        routerRejected (routerAcceptanceRequested counted v nowSeconds tc outCap) v nowSeconds
      else
        routerAccepted (routerAcceptanceRequested counted v nowSeconds tc outCap) v nowSeconds tc
          outCap

end FswCore
