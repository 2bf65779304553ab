import FswCore.App.HkCounters
import FswCore.Pus.RequestCalls

/-!
Contract: what the main loop does to its components, as calls of their interfaces.

Owns:
- the calls each tick makes of the four stores and of the FDIR context, as they
  follow from the state the tick finds;
- the components behind a tick, and behind a run, are what these calls leave.

Does not own: what a call does to its component, and the telemetry a tick sends.
-/

namespace FswCore

open Library

variable {cfg : Config}

/-! ### Components -/

/-- The on-board stores, and the FDIR context with the mode manager. -/
structure Components (cfg : Config) where
  stores : RouterStores cfg
  fdir : FdirSystem cfg

structure ComponentCalls where
  stores : StoreCalls := {}
  fdir : List FdirOp := []

def ComponentCalls.andThen (first second : ComponentCalls) : ComponentCalls where
  stores := first.stores.andThen second.stores
  fdir := first.fdir ++ second.fdir

def Components.after (components : Components cfg) (calls : ComponentCalls) : Components cfg where
  stores := components.stores.after calls.stores
  fdir := fdirRun components.fdir calls.fdir

@[simp] theorem Components.after_none (components : Components cfg) :
    components.after {} = components := by
  simp [Components.after, fdirRun]

theorem Components.after_andThen (components : Components cfg) (first second : ComponentCalls) :
    components.after (first.andThen second) = (components.after first).after second := by
  simp only [Components.after, ComponentCalls.andThen, RouterStores.after_andThen, fdirRun,
    List.foldl_append]

def LoopState.components (state : LoopState cfg) : Components cfg :=
  { stores := state.ctx.stores, fdir := state.fdir }

/-! ### Transmission -/

/-- `transmit_tm` stores each packet of a burst. -/
def recordCalls (storeTime : UInt32) (burst : List UInt8) : StoreCalls :=
  { pktstore := (burstPackets burst.length burst).map fun packet => .store packet storeTime }

@[simp] theorem recordCalls_nil (storeTime : UInt32) : recordCalls storeTime [] = {} := rfl

theorem pktstoreRun_stores (store : Pktstore cfg) (packets : List (List UInt8))
    (storeTime : UInt32) :
    (pktstoreRun store (packets.map fun packet => .store packet storeTime)).2 =
      packets.foldl (fun store packet => (pktstoreStore store packet storeTime).2) store := by
  induction packets generalizing store with
  | nil => rfl
  | cons packet rest inductionHypothesis => exact inductionHypothesis _

theorem transmitTm_calls (ctx : RouterCtx cfg) (storeTime : UInt32) (burst : List UInt8) :
    (transmitTm ctx storeTime burst).stores = ctx.stores.after (recordCalls storeTime burst) := by
  have taps (store : Pktstore cfg) := transmitTaps_eq storeTime burst.length burst store
  rw [recordCalls, RouterStores.after_pktstore]
  simp only [RouterCtx.stores, transmitTm, pktstoreRun_stores, ← taps]

/-! ### Dispatch and release -/

/-- A telecommand's calls, the taps of its reports, and the calls of the sink. -/
def telecommandCalls (ctx : RouterCtx cfg) (nowSeconds : UInt32) (tc : List UInt8) :
    ComponentCalls :=
  let reply := tcRouterDispatch ctx nowSeconds tc tcRouterMaxTm
  { stores := (dispatchCalls ctx tc).andThen (recordCalls nowSeconds reply.out)
    fdir := reply.sinkReports.map .sinkReport }

theorem fdirRun_sinkReports (system : FdirSystem cfg) (reports : List SinkReport) :
    fdirRun system (reports.map .sinkReport) =
      reports.foldl (fun system report => (fdirSinkReport system report).system) system := by
  rw [fdirRun, List.foldl_map]
  rfl

theorem tcRouterDispatch_ok (ctx : RouterCtx cfg) (nowSeconds : UInt32) (tc : List UInt8) :
    (tcRouterDispatch ctx nowSeconds tc tcRouterMaxTm).status = .ok := by
  simp only [tcRouterDispatch, if_neg (Nat.lt_irrefl _)]
  split_ifs <;> rfl

theorem loopDispatch_calls (state : LoopState cfg) (nowSeconds : UInt32) (tc : List UInt8) :
    (loopDispatch state nowSeconds tc).state.components =
      state.components.after (telecommandCalls state.ctx nowSeconds tc) := by
  have stores := tcRouterDispatch_calls state.ctx nowSeconds tc (Nat.le_refl tcRouterMaxTm)
  rw [Components.after, telecommandCalls, fdirRun_sinkReports, loopDispatch]
  simp only [RouterStores.after_andThen, LoopState.components]
  rw [← stores, tcRouterDispatch_ok]
  by_cases silent : (tcRouterDispatch state.ctx nowSeconds tc tcRouterMaxTm).out = []
  · rw [if_neg (by simp [silent]), silent, recordCalls_nil, RouterStores.after_none]
  · rw [if_pos ⟨rfl, List.length_pos_iff.mpr silent⟩, transmitTm_calls]

/-- The context once the release tick has asked the schedule. -/
def poppedCtx (ctx : RouterCtx cfg) (nowSeconds : UInt32) : RouterCtx cfg :=
  { ctx with
    schedule := ctx.schedule.map fun sched =>
      (schedulePopDue sched nowSeconds cfg.scheduleTcMax).2 }

/-- The telecommand of the activity that is due follows its pop. -/
def releaseCalls (ctx : RouterCtx cfg) (nowSeconds : UInt32) : ComponentCalls :=
  ComponentCalls.andThen { stores := { schedule := [.popDue nowSeconds cfg.scheduleTcMax] } }
    (match releasedTc ctx nowSeconds with
    | none => {}
    | some tc => telecommandCalls (poppedCtx ctx nowSeconds) nowSeconds tc)

/-- The tick dispatches what it takes from the schedule, and nothing else. -/
theorem releaseTick_eq (state : LoopState cfg) (nowSeconds : UInt32) :
    releaseTick state nowSeconds =
      match releasedTc state.ctx nowSeconds with
      | none => { state := { state with ctx := poppedCtx state.ctx nowSeconds }, sent := [] }
      | some tc =>
          loopDispatch { state with ctx := poppedCtx state.ctx nowSeconds } nowSeconds tc := by
  cases wired : state.ctx.schedule with
  | none =>
      have unwired : poppedCtx state.ctx nowSeconds = state.ctx := by
        simp only [poppedCtx, wired, Option.map_none]
        rw [← wired]
      simp only [releaseTick, releasedTc, wired, unwired]
  | some sched =>
      simp only [releaseTick, releasedTc, poppedCtx, wired, Option.map_some]
      rcases schedulePopDue sched nowSeconds cfg.scheduleTcMax with ⟨result, after⟩
      cases result with
      | error status => rfl
      | ok released => cases released <;> rfl

theorem releaseTick_calls (state : LoopState cfg) (nowSeconds : UInt32) :
    (releaseTick state nowSeconds).state.components =
      state.components.after (releaseCalls state.ctx nowSeconds) := by
  have popped : LoopState.components { state with ctx := poppedCtx state.ctx nowSeconds } =
      state.components.after
        { stores := { schedule := [.popDue nowSeconds cfg.scheduleTcMax] } } := by
    simp only [Components.after, RouterStores.after_schedule]
    rfl
  rw [releaseTick_eq, releaseCalls, Components.after_andThen, ← popped]
  cases releasedTc state.ctx nowSeconds with
  | none => rw [Components.after_none]
  | some tc => exact loopDispatch_calls _ nowSeconds tc

/-! ### Builders -/

/-- A call that builds at most one report. -/
def TmCall.Builds : TmCall cfg → Prop
  | .dispatch _ _ _ | .largedataStart _ _ | .otherWork _ _ => False
  | _ => True

/-- A builder reaches no store. -/
theorem tmCall_stores (senders : TmSenders cfg) {call : TmCall cfg} (builds : call.Builds) :
    (tmCall senders call).1.ctx.stores = senders.ctx.stores := by
  cases call with
  | dispatch | largedataStart | otherWork => exact builds.elim
  | hkReport request sid params =>
      simp only [tmCall, TmSenders.sendPeriodic]
      split <;> rfl
  | dynamicHkReport request dp held =>
      simp only [tmCall, TmSenders.sendPeriodic]
      split <;> rfl
  | eventReport request severity eventId aux => rfl
  | fdirDrain apid outCap => rfl
  | largedataPart request => rfl

theorem sendPeriodic_fdir (senders : TmSenders cfg) (result : Except Pus3Status TmOut) :
    (senders.sendPeriodic result).1.fdir = senders.fdir := by
  unfold TmSenders.sendPeriodic
  split <;> rfl

/-- What is sent is recorded. -/
theorem MainState.send_stores (state : MainState cfg) (nowSeconds : UInt32) (call : TmCall cfg)
    (builds : call.Builds) :
    (state.send nowSeconds call).1.loop.ctx.stores =
      state.loop.ctx.stores.after
        (recordCalls nowSeconds (state.send nowSeconds call).2.sent) := by
  have kept := tmCall_stores state.senders builds
  unfold MainState.send
  generalize tmCall state.senders call = step at kept
  obtain ⟨senders, sent⟩ := step
  simp only at kept ⊢
  have same : senders.ctx.stores = state.loop.ctx.stores := kept
  split
  · rw [transmitTm_calls, same]
  · rename_i silent
    obtain rfl : sent = [] := List.length_eq_zero_iff.mp (Nat.eq_zero_of_not_pos silent)
    rw [recordCalls_nil, RouterStores.after_none, same]

/-- A builder that drains no event. -/
theorem MainState.send_components (state : MainState cfg) (nowSeconds : UInt32)
    (call : TmCall cfg) (builds : call.Builds)
    (kept : (tmCall state.senders call).1.fdir = state.loop.fdir.fdir) :
    (state.send nowSeconds call).1.loop.components =
      state.loop.components.after
        { stores := recordCalls nowSeconds (state.send nowSeconds call).2.sent } := by
  have fdir : (state.send nowSeconds call).1.loop.fdir = state.loop.fdir := by
    simp only [MainState.send, kept]
  simp only [LoopState.components, Components.after, fdirRun, List.foldl_nil, fdir,
    state.send_stores nowSeconds call builds]

/-! ### Ticks -/

def MainState.components (state : MainState cfg) : Components cfg := state.loop.components

/-- The telecommand that an octet of the receive ring completes. -/
def framedTc (state : MainState cfg) (received : Option UInt8) : Option (List UInt8) :=
  received.bind fun byte => (framerByte state.framer byte).2

/-- A telecommand handed to the router, and the context it is dispatched in. -/
structure TickDispatch (cfg : Config) where
  ctx : RouterCtx cfg
  nowSeconds : UInt32
  tc : List UInt8

/-- What a tick hands to the router. -/
def MainState.dispatches (state : MainState cfg) : LoopTick → Option (TickDispatch cfg)
  | .release nowSeconds =>
      (releasedTc state.loop.ctx nowSeconds).map
        (TickDispatch.mk (poppedCtx state.loop.ctx nowSeconds) nowSeconds)
  | .receive nowSeconds drops received =>
      (framedTc state received).map
        (TickDispatch.mk { state.loop.ctx with rxRingOverflowDrops := drops } nowSeconds)
  | _ => none

def TickDispatch.calls (dispatch : TickDispatch cfg) : ComponentCalls :=
  telecommandCalls dispatch.ctx dispatch.nowSeconds dispatch.tc

/-- The calls a tick makes before it hands a telecommand to the router. -/
def MainState.ownCalls (state : MainState cfg) (tick : LoopTick) : ComponentCalls :=
  let record (nowSeconds : UInt32) : StoreCalls :=
    recordCalls nowSeconds (loopTick state tick).2.sent
  match tick with
  | .hk nowSeconds _ | .largedata nowSeconds => { stores := record nowSeconds }
  | .dynamicHk nowSeconds =>
      match state.loop.ctx.hkstore, state.loop.ctx.datapool with
      | some _, some _ =>
          { stores := StoreCalls.andThen { hkstore := [.due nowSeconds] } (record nowSeconds) }
      | _, _ => {}
  | .rxOverflow nowSeconds drops =>
      if drops ≠ state.lastReportedRxDrops then
        { fdir := [.reportAnomaly FdirAnomaly.rxOverflow.code.toUInt32 nowSeconds
            (drops - state.lastReportedRxDrops)] }
      else {}
  | .fdir nowSeconds =>
      { stores := record nowSeconds
        fdir := [.drain state.loop.ctx.apid state.loop.ctx.counters tcRouterMaxTm] }
  | .release nowSeconds => { stores := { schedule := [.popDue nowSeconds cfg.scheduleTcMax] } }
  | .retrieval => { stores := { pktstore := [.retrieveNext tcRouterMaxTm] } }
  | .receive _ _ _ => {}

/-- The calls of a tick, in the state it finds. -/
def MainState.tickCalls (state : MainState cfg) (tick : LoopTick) : ComponentCalls :=
  (state.ownCalls tick).andThen
    (match state.dispatches tick with
    | none => {}
    | some dispatch => dispatch.calls)

@[simp] theorem ComponentCalls.andThen_none (calls : ComponentCalls) :
    calls.andThen {} = calls := by
  simp [ComponentCalls.andThen, StoreCalls.andThen]

section Ticks

variable (state : MainState cfg) (nowSeconds : UInt32)

theorem hkTick_calls (drops : UInt32) :
    (hkTick state nowSeconds drops).1.components =
      state.components.after
        { stores := recordCalls nowSeconds (hkTick state nowSeconds drops).2.sent } := by
  rw [hkTick]
  split
  · exact (state.snapshot drops).send_components nowSeconds
      (.hkReport ((state.snapshot drops).request nowSeconds) pus3SidFrameworkDiag
        (fillHkParams (state.snapshot drops).loop.ctx)) trivial (sendPeriodic_fdir _ _)
  · exact (Components.after_none _).symm

theorem dynamicHkTick_calls :
    (dynamicHkTick state nowSeconds).1.components =
      state.components.after (state.ownCalls (.dynamicHk nowSeconds)) := by
  simp only [MainState.ownCalls, loopTick, dynamicHkTick]
  cases wired : state.loop.ctx.hkstore with
  | none => exact (Components.after_none _).symm
  | some hkstore =>
      cases pool : state.loop.ctx.datapool with
      | none => exact (Components.after_none _).symm
      | some dp =>
          have due : (state.marked (hkstoreDue hkstore nowSeconds).2).components =
              state.components.after { stores := { hkstore := [.due nowSeconds] } } := by
            simp only [Components.after, RouterStores.after_hkstore, MainState.components,
              LoopState.components, RouterCtx.stores, wired, Option.map_some]
            rfl
          have after (sent : List UInt8) :
              state.components.after
                  { stores := StoreCalls.andThen { hkstore := [.due nowSeconds] }
                      (recordCalls nowSeconds sent) } =
                (state.marked (hkstoreDue hkstore nowSeconds).2).components.after
                  { stores := recordCalls nowSeconds sent } := by
            rw [due, ← Components.after_andThen]
            rfl
          simp only [after]
          split
          · exact (Components.after_none _).symm
          · rename_i held _
            have sends := (state.marked (hkstoreDue hkstore nowSeconds).2).send_components
              nowSeconds (.dynamicHkReport
                ((state.marked (hkstoreDue hkstore nowSeconds).2).request nowSeconds) dp held)
              trivial (sendPeriodic_fdir _ _)
            exact sends

theorem rxOverflowTick_calls (drops : UInt32) :
    (rxOverflowTick state nowSeconds drops).1.components =
      state.components.after (state.ownCalls (.rxOverflow nowSeconds drops)) := by
  simp only [rxOverflowTick, MainState.ownCalls]
  split
  · simp only [Components.after, RouterStores.after_none]
    rfl
  · exact (Components.after_none _).symm

theorem fdirTick_calls :
    (fdirTick state nowSeconds).1.components =
      state.components.after (state.ownCalls (.fdir nowSeconds)) := by
  have stores := state.send_stores nowSeconds
    (.fdirDrain state.loop.ctx.apid tcRouterMaxTm) trivial
  simp only [fdirTick, MainState.ownCalls, loopTick, MainState.components, LoopState.components,
    Components.after, stores]
  rfl

theorem retrievalTick_calls :
    (retrievalTick state).1.components =
      state.components.after { stores := { pktstore := [.retrieveNext tcRouterMaxTm] } } := by
  simp only [Components.after, RouterStores.after_pktstore, MainState.components,
    LoopState.components, RouterCtx.stores]
  rw [retrievalTick]
  cases wired : state.loop.ctx.store with
  | none => simp only [MainState.quiet, wired, Option.map_none]; rfl
  | some store => rfl

theorem receiveTick_calls (drops : UInt32) (received : Option UInt8) :
    (receiveTick state nowSeconds drops received).1.components =
      state.components.after (state.tickCalls (.receive nowSeconds drops received)) := by
  simp only [MainState.tickCalls, MainState.ownCalls, MainState.dispatches, framedTc, receiveTick]
  cases received with
  | none => exact (Components.after_none _).symm
  | some byte =>
      simp only [Option.bind_some]
      rcases framerByte state.framer byte with ⟨framer, completed⟩
      cases completed with
      | none => exact (Components.after_none _).symm
      | some tc => exact loopDispatch_calls _ nowSeconds tc

end Ticks

theorem MainState.tickCalls_own {state : MainState cfg} {tick : LoopTick}
    (silent : state.dispatches tick = none) : state.tickCalls tick = state.ownCalls tick := by
  simp only [MainState.tickCalls, silent, ComponentCalls.andThen_none]

/-- The components behind a tick are what its calls leave. -/
theorem loopTick_calls (state : MainState cfg) (tick : LoopTick) :
    (loopTick state tick).1.components = state.components.after (state.tickCalls tick) := by
  cases tick with
  | hk nowSeconds drops =>
      rw [MainState.tickCalls_own rfl]
      exact hkTick_calls state nowSeconds drops
  | dynamicHk nowSeconds =>
      rw [MainState.tickCalls_own rfl]
      exact dynamicHkTick_calls state nowSeconds
  | rxOverflow nowSeconds drops =>
      rw [MainState.tickCalls_own rfl]
      exact rxOverflowTick_calls state nowSeconds drops
  | fdir nowSeconds =>
      rw [MainState.tickCalls_own rfl]
      exact fdirTick_calls state nowSeconds
  | release nowSeconds =>
      have calls := releaseTick_calls state.loop nowSeconds
      simp only [loopTick, MainState.dispatched, MainState.components, MainState.tickCalls,
        MainState.ownCalls, MainState.dispatches, calls, releaseCalls]
      cases releasedTc state.loop.ctx nowSeconds <;> rfl
  | retrieval =>
      rw [MainState.tickCalls_own rfl]
      exact retrievalTick_calls state
  | largedata nowSeconds =>
      rw [MainState.tickCalls_own rfl]
      exact state.send_components nowSeconds (.largedataPart (state.request nowSeconds)) trivial rfl
  | receive nowSeconds drops received => exact receiveTick_calls state nowSeconds drops received

/-- The schedule among them. -/
theorem loopTick_schedule (state : MainState cfg) (tick : LoopTick) :
    (loopTick state tick).1.loop.ctx.schedule = state.loop.ctx.schedule.map fun sched =>
      scheduleCalls cfg sched (state.tickCalls tick).stores.schedule :=
  congrArg (fun components => components.stores.schedule) (loopTick_calls state tick)

end FswCore
