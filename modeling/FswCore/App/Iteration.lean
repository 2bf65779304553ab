import FswCore.App.MainLoop
import FswCore.App.Model
import FswCore.App.SequenceCount

/-!
Contract: boot and iteration of the main loop of `samples/tc_uart/src/main.c`, tick
by tick.

What a tick builds is transmitted before the next one; a drained retrieval goes out
past `transmit_tm`. The interrupt may drop octets at any time, so a tick that reads
its drop counter is handed the value it reads. Without the large data demo the
session is one that was never started.

Does not own: the save tick, which sends nothing and changes no subsystem.
-/

namespace FswCore

open Library Library.BigEndian

/-- `MIGRIS_FSW_APID`. -/
def fswApid : UInt16 := 0x100

/-- `MIGRIS_FSW_PARAM_HK_PERIOD_SEC`. -/
def fswParamHkPeriodSec : UInt16 := 0x0001

/-- What the loop carries from one iteration to the next; `pus3Ctx` is the message
counter of its own housekeeping context. -/
structure MainState (cfg : Config) where
  loop : LoopState cfg
  framer : TcFramer
  pus3Ctx : UInt8
  lastHkEmitSec : UInt32
  lastReportedRxDrops : UInt32
  largedata : LargedataSession

/-- The live telemetry a tick transmits, and the packet it replays. -/
structure LoopOutput where
  sent : List UInt8
  replayed : List UInt8
deriving DecidableEq, Repr

variable {cfg : Config}

namespace MainState

def senders (state : MainState cfg) : TmSenders cfg where
  ctx := state.loop.ctx
  pus3Ctx := state.pus3Ctx
  fdir := state.loop.fdir.fdir
  largedata := state.largedata

/-- A tick that sends nothing. -/
def quiet (state : MainState cfg) : MainState cfg × LoopOutput :=
  (state, { sent := [], replayed := [] })

/-- The interrupt's drop counter is read into the router's context. -/
def snapshot (state : MainState cfg) (drops : UInt32) : MainState cfg :=
  { state with
    loop :=
      { state.loop with
        ctx := { state.loop.ctx with rxRingOverflowDrops := drops }
        rxRingDrops := drops } }

/-- The structure store with a structure marked as emitted. -/
def marked (state : MainState cfg) (hkstore : Hkstore) : MainState cfg :=
  { state with
    loop := { state.loop with ctx := { state.loop.ctx with hkstore := some hkstore } } }

/-- A builder, and `transmit_tm` if it wrote something. -/
def send (state : MainState cfg) (nowSeconds : UInt32) (call : TmCall cfg) :
    MainState cfg × LoopOutput :=
  let (senders, sent) := tmCall state.senders call
  let ctx := if sent.length > 0 then transmitTm senders.ctx nowSeconds sent else senders.ctx
  ({ state with
    loop :=
      { state.loop with
        ctx := ctx
        fdir := { state.loop.fdir with fdir := senders.fdir } }
    pus3Ctx := senders.pus3Ctx
    largedata := senders.largedata }, { sent := sent, replayed := [] })

/-- The request of a spontaneous report: no destination, and all of `out`. -/
def request (state : MainState cfg) (nowSeconds : UInt32) : TmRequest where
  apid := state.loop.ctx.apid
  nowSeconds := nowSeconds
  destinationId := 0
  outCap := tcRouterMaxTm

/-- What a dispatch leaves behind. -/
def dispatched (state : MainState cfg) (reply : LoopReply cfg) : MainState cfg × LoopOutput :=
  ({ state with loop := reply.state }, { sent := reply.sent, replayed := [] })

end MainState

/-! ### Boot -/

def pusCountersZero : PusCounters where
  tmSeqCount := 0
  pus1 := Vector.replicate 4 0
  pus5 := Vector.replicate 4 0
  pus17 := 0
  pus3 := 0
  pus20 := 0
  pus11 := 0
  pus15 := 0

/-- The router's context once the restored subsystems are wired to it. -/
def mainRouterCtx (cfg : Config) (subs : Subsystems) : RouterCtx cfg where
  apid := fswApid
  counters := pusCountersZero
  tcAcceptedCount := 0
  tcRejectedCount := 0
  rxRingOverflowDrops := 0
  sinkWired := true
  datapool := some subs.datapool
  schedule := some subs.schedule
  store := some (pktstoreInit (emptyMemory cfg))
  hkstore := some subs.hkstore

/-- With a housekeeping context of the loop's own; FDIR and the large data session
are as the build has set them up. -/
def mainWired (cfg : Config) (subs : Subsystems) (fdir : FdirSystem cfg)
    (largedata : LargedataSession) (bootSeconds : UInt32) : MainState cfg where
  loop := { ctx := mainRouterCtx cfg subs, fdir := fdir, rxRingDrops := 0 }
  framer := framerIdle
  pus3Ctx := 0
  lastHkEmitSec := bootSeconds
  lastReportedRxDrops := 0
  largedata := largedata

/-- Up to the loop: the boot event. -/
def mainBoot (cfg : Config) (subs : Subsystems) (fdir : FdirSystem cfg)
    (largedata : LargedataSession) (bootSeconds : UInt32) : MainState cfg × LoopOutput :=
  let wired := mainWired cfg subs fdir largedata bootSeconds
  wired.send bootSeconds (.eventReport (wired.request bootSeconds) pus5SevInfo pus5EvtFswBoot [])

/-! ### Ticks -/

def fillHkParams (ctx : RouterCtx cfg) : Pus3HkParams where
  pus1MsgCounter := ctx.counters.pus1
  pus5MsgCounter := ctx.counters.pus5
  pus17TmMsgCounter := ctx.counters.pus17
  tcAcceptedCount := ctx.tcAcceptedCount
  tcRejectedCount := ctx.tcRejectedCount
  rxRingOverflowDrops := ctx.rxRingOverflowDrops

/-- The period, read from the pool in every iteration; 0 disables the report. -/
def hkPeriodSec (ctx : RouterCtx cfg) : UInt32 :=
  match ctx.datapool with
  | none => 0
  | some dp =>
      match datapoolGet dp fswParamHkPeriodSec with
      | .ok (.u32 seconds) => seconds
      | _ => 0

def hkDue (state : MainState cfg) (nowSeconds : UInt32) : Bool :=
  let period := hkPeriodSec state.loop.ctx
  period != 0 && decide (nowSeconds - state.lastHkEmitSec ≥ period)

/-- Spontaneous periodic housekeeping. -/
def hkTick (state : MainState cfg) (nowSeconds drops : UInt32) : MainState cfg × LoopOutput :=
  if hkDue state nowSeconds then
    let snapshot := state.snapshot drops
    let (after, output) := snapshot.send nowSeconds
      (.hkReport (snapshot.request nowSeconds) pus3SidFrameworkDiag
        (fillHkParams snapshot.loop.ctx))
    ({ after with lastHkEmitSec := nowSeconds }, output)
  else state.quiet

/-- Dynamic housekeeping structures: one that is due, marked as emitted whether or
not its report is built. -/
def dynamicHkTick (state : MainState cfg) (nowSeconds : UInt32) : MainState cfg × LoopOutput :=
  match state.loop.ctx.hkstore, state.loop.ctx.datapool with
  | some hkstore, some dp =>
      let (due, after) := hkstoreDue hkstore nowSeconds
      let marked := state.marked after
      match due with
      | none => marked.quiet
      | some held =>
          marked.send nowSeconds (.dynamicHkReport (marked.request nowSeconds) dp held)
  | _, _ => state.quiet

/-- The RX overflow detector: the interrupt's drops since the last iteration. -/
def rxOverflowTick (state : MainState cfg) (nowSeconds drops : UInt32) :
    MainState cfg × LoopOutput :=
  if drops ≠ state.lastReportedRxDrops then
    let reply := fdirReportAnomaly state.loop.fdir FdirAnomaly.rxOverflow.code.toUInt32
      nowSeconds (drops - state.lastReportedRxDrops)
    { state with
      loop := { state.loop with fdir := reply.system, rxRingDrops := drops }
      lastReportedRxDrops := drops }.quiet
  else state.quiet

/-- One FDIR event. -/
def fdirTick (state : MainState cfg) (nowSeconds : UInt32) : MainState cfg × LoopOutput :=
  state.send nowSeconds (.fdirDrain state.loop.ctx.apid tcRouterMaxTm)

/-- One packet of a retrieval, verbatim and not tapped. -/
def retrievalTick (state : MainState cfg) : MainState cfg × LoopOutput :=
  match state.loop.ctx.store with
  | none => state.quiet
  | some store =>
      let (result, after) := pktstoreRetrieveNext store tcRouterMaxTm
      ({ state with
        loop := { state.loop with ctx := { state.loop.ctx with store := some after } } },
        { sent := [], replayed := result.toOption.join.getD [] })

/-- One part of the large data transfer. -/
def largedataTick (state : MainState cfg) (nowSeconds : UInt32) : MainState cfg × LoopOutput :=
  state.send nowSeconds (.largedataPart (state.request nowSeconds))

/-- One octet of the receive ring, and the telecommand it completes. -/
def receiveTick (state : MainState cfg) (nowSeconds drops : UInt32) (received : Option UInt8) :
    MainState cfg × LoopOutput :=
  match received with
  | none => state.quiet
  | some byte =>
      let (framer, completed) := framerByte state.framer byte
      let framed := { state with framer := framer }
      match completed with
      | none => framed.quiet
      | some tc =>
          framed.dispatched
            (framerDispatch { state.loop with rxRingDrops := drops } nowSeconds tc)

/-! ### Iterations -/

inductive LoopTick where
  | hk (nowSeconds drops : UInt32)
  | dynamicHk (nowSeconds : UInt32)
  | rxOverflow (nowSeconds drops : UInt32)
  | fdir (nowSeconds : UInt32)
  | release (nowSeconds : UInt32)
  | retrieval
  | largedata (nowSeconds : UInt32)
  | receive (nowSeconds drops : UInt32) (received : Option UInt8)
deriving DecidableEq, Repr

def loopTick (state : MainState cfg) : LoopTick → MainState cfg × LoopOutput
  | .hk nowSeconds drops => hkTick state nowSeconds drops
  | .dynamicHk nowSeconds => dynamicHkTick state nowSeconds
  | .rxOverflow nowSeconds drops => rxOverflowTick state nowSeconds drops
  | .fdir nowSeconds => fdirTick state nowSeconds
  | .release nowSeconds => state.dispatched (releaseTick state.loop nowSeconds)
  | .retrieval => retrievalTick state
  | .largedata nowSeconds => largedataTick state nowSeconds
  | .receive nowSeconds drops received => receiveTick state nowSeconds drops received

/-- What an iteration reads from outside: the clock, once, the drop counter, three
times, and the receive ring. -/
structure LoopInput where
  nowSeconds : UInt32
  hkDrops : UInt32
  detectedDrops : UInt32
  dispatchDrops : UInt32
  received : Option UInt8
deriving DecidableEq, Repr

/-- The ticks of an iteration, in their order. -/
def loopTicks (input : LoopInput) : List LoopTick :=
  [.hk input.nowSeconds input.hkDrops, .dynamicHk input.nowSeconds,
    .rxOverflow input.nowSeconds input.detectedDrops, .fdir input.nowSeconds,
    .release input.nowSeconds, .retrieval, .largedata input.nowSeconds,
    .receive input.nowSeconds input.dispatchDrops input.received]

/-- A run of the loop: the state it is in, and what each tick put out. -/
def mainRun (state : MainState cfg) (inputs : List LoopInput) : MainState cfg × List LoopOutput :=
  outputs loopTick state (inputs.flatMap loopTicks)

end FswCore
