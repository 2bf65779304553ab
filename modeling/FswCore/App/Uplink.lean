import FswCore.App.HkCounters
import FswCore.Hkstore.DueOrder
import FswCore.Pus.Acceptance

/-!
Contract: telecommands sent to an application at rest.

Owns:
- `MainState.Calm`, the states in which an iteration downlinks a part and takes an octet;
- from such a state a telecommand is dispatched in the iteration of its last octet,
  and nothing else is transmitted on the way;
- what the dispatch of a telecommand is that asks for no verification report.

Does not own: what a service does with the telecommand.
-/

namespace FswCore

open Library Library.BigEndian

variable {cfg : Config}

/-! ### Iterations with nothing due -/

/-- Nothing is due, nothing waits, and no octet was dropped; a transfer may run. -/
structure MainState.Calm (state : MainState cfg) (nowSeconds : UInt32) : Prop where
  hk : state.lastHkEmitSec = nowSeconds
  structures : ∀ hkstore, state.loop.ctx.hkstore = some hkstore →
    ∀ held ∈ hkstore.held, held.enabled = false
  drops : state.lastReportedRxDrops = 0
  events : state.loop.fdir.fdir.fifo.count = 0
  schedule : ∀ sched, state.loop.ctx.schedule = some sched → sched.enabled = false
  store : ∀ store, state.loop.ctx.store = some store → store.retrievalActive = false

namespace MainState.Calm

variable {state : MainState cfg} {nowSeconds : UInt32} (calm : state.Calm nowSeconds)

include calm

theorem hkTick (drops : UInt32) : hkTick state nowSeconds drops = state.quiet := by
  have early : hkDue state nowSeconds = false := by
    rw [hkDue, calm.hk, UInt32.sub_self]
    by_cases off : hkPeriodSec state.loop.ctx = 0
    · simp [off]
    · have above : ¬hkPeriodSec state.loop.ctx ≤ 0 := fun zero => off (UInt32.le_zero_iff.mp zero)
      simp [above]
  rw [FswCore.hkTick, early]
  rfl

theorem dynamicHkTick : dynamicHkTick state nowSeconds = state.quiet := by
  unfold FswCore.dynamicHkTick
  split
  · rename_i hkstore dp wired _
    rw [hkstoreDue_disabled (calm.structures hkstore wired)]
    simp only [MainState.marked, ← wired]
  · rfl

theorem rxOverflowTick : rxOverflowTick state nowSeconds 0 = state.quiet := by
  rw [FswCore.rxOverflowTick, if_neg (not_not.mpr calm.drops.symm)]

theorem fdirTick : fdirTick state nowSeconds = state.quiet := by
  have empty : eventFifoPop state.loop.fdir.fdir.fifo = (none, state.loop.fdir.fdir.fifo) :=
    if_pos calm.events
  have room : ¬tcRouterMaxTm < pus5TmMaxPacketSize := by decide
  simp only [FswCore.fdirTick, MainState.send, tmCall, fdirDrain, if_neg room, MainState.senders,
    empty]
  rfl

theorem releaseTick : state.dispatched (releaseTick state.loop nowSeconds) = state.quiet := by
  unfold FswCore.releaseTick
  split
  · rfl
  · rename_i sched wired
    rw [schedulePopDue, if_pos (calm.schedule sched wired)]
    simp only [← wired]
    rfl

theorem retrievalTick : retrievalTick state = state.quiet := by
  unfold FswCore.retrievalTick
  split
  · rfl
  · rename_i store wired
    rw [pktstoreRetrieveNext, if_pos (calm.store store wired)]
    simp only [← wired]
    rfl

/-- The iteration does what its last two ticks do. -/
theorem iteration (received : Option UInt8) :
    let part := FswCore.largedataTick state nowSeconds
    let taken := receiveTick part.1 nowSeconds 0 received
    mainRun state [iterationAt nowSeconds received] =
      (taken.1, List.replicate 6 state.quiet.2 ++ [part.2, taken.2]) := by
  have same : state.quiet.1 = state := rfl
  simp only [mainRun, List.flatMap_cons, List.flatMap_nil, List.append_nil, loopTicks, iterationAt,
    outputs, loopTick, calm.hkTick, calm.dynamicHkTick, calm.rxOverflowTick, calm.fdirTick,
    calm.releaseTick, calm.retrievalTick, same]
  rfl

end MainState.Calm

theorem largedataTick_idle {state : MainState cfg} (idle : state.largedata.state ≠ .active)
    (nowSeconds : UInt32) : largedataTick state nowSeconds = state.quiet := by
  simp only [largedataTick, MainState.send, tmCall, MainState.senders,
    largedataNextPart_idle idle]
  rfl

/-! ### A telecommand, octet by octet -/

/-- Iterations at one time in which these octets arrive. -/
def uplink (nowSeconds : UInt32) (octets : List UInt8) : List LoopInput :=
  octets.map fun byte => iterationAt nowSeconds (some byte)

theorem mainRun_append (state : MainState cfg) (first second : List LoopInput) :
    mainRun state (first ++ second) =
      ((mainRun (mainRun state first).1 second).1,
        (mainRun state first).2 ++ (mainRun (mainRun state first).1 second).2) := by
  simp only [mainRun, List.flatMap_append, outputs_append]

/-- What the dispatch of the telecommand makes of the state, and sends. -/
structure UplinkEnds (state : MainState cfg) (reply : LoopReply cfg)
    (run : MainState cfg × List LoopOutput) : Prop where
  state : run.1 = { state with framer := framerIdle, loop := reply.state }
  sent : ∃ output ∈ run.2, output.sent = reply.sent

theorem MainState.Calm.uplink_rest {state : MainState cfg} {nowSeconds : UInt32}
    (calm : state.Calm nowSeconds) (idle : state.largedata.state ≠ .active)
    {tc received rest : List UInt8} (accepts : FramerAccepts tc)
    (stream : tc = received ++ rest) (more : rest ≠ [])
    (framed : state.framer = framerAfter tc received) :
    UplinkEnds state (framerDispatch { state.loop with rxRingDrops := 0 } nowSeconds tc)
      (mainRun state (uplink nowSeconds rest)) := by
  induction rest generalizing received state with
  | nil => exact absurd rfl more
  | cons byte rest inductionHypothesis =>
      have quiet : state.quiet.1 = state := rfl
      have first := calm.iteration (some byte)
      simp only [largedataTick_idle idle, quiet] at first
      have run : mainRun state (uplink nowSeconds (byte :: rest)) = _ :=
        mainRun_append state [iterationAt nowSeconds (some byte)] (uplink nowSeconds rest)
      rw [run, first]
      simp only [receiveTick, framed, framerByte_after accepts stream]
      by_cases last : rest = []
      · subst last
        simp only [if_true]
        let reply := framerDispatch { state.loop with rxRingDrops := 0 } nowSeconds tc
        refine ⟨rfl, (MainState.dispatched { state with framer := framerIdle } reply).2, ?_, rfl⟩
        exact List.mem_append_left _ (List.mem_append_right _
          (List.mem_cons_of_mem _ (List.mem_singleton_self _)))
      · have front : tc = (received ++ [byte]) ++ rest := by
          rw [stream, List.append_assoc, List.singleton_append]
        let moved : MainState cfg := { state with framer := framerAfter tc (received ++ [byte]) }
        have movedCalm : moved.Calm nowSeconds :=
          ⟨calm.hk, calm.structures, calm.drops, calm.events, calm.schedule, calm.store⟩
        have ends := inductionHypothesis movedCalm idle front last rfl
        simp only [if_neg last]
        obtain ⟨output, member, sent⟩ := ends.sent
        exact ⟨ends.state, output, List.mem_append_right _ member, sent⟩

/-- A telecommand fed to a calm state with an idle framer. -/
theorem MainState.Calm.uplink {state : MainState cfg} {nowSeconds : UInt32}
    (calm : state.Calm nowSeconds) (idle : state.largedata.state ≠ .active)
    (framed : state.framer = framerIdle) {tc : List UInt8} (accepts : FramerAccepts tc) :
    UplinkEnds state (framerDispatch { state.loop with rxRingDrops := 0 } nowSeconds tc)
      (mainRun state (FswCore.uplink nowSeconds tc)) := by
  have nonempty : tc ≠ [] := by
    rintro rfl
    have delimited := accepts.delimited
    rw [List.length_nil, ccsdsPacketTotalSize] at delimited
    omega
  exact calm.uplink_rest idle accepts (List.nil_append tc).symm nonempty framed

/-! ### Telecommands without reports -/

/-- What the acceptance chain finds in a telecommand for the application that asks
for no verification report. -/
def bareVerdict (serviceType serviceSubtype : UInt8) : TcAcceptResult where
  addressed := true
  fc := .none
  ackFlags := 0
  sourceId := 0
  serviceType := serviceType
  serviceSubtype := serviceSubtype

def bareTc (serviceType serviceSubtype : UInt8) (app : List UInt8) : List UInt8 :=
  (encodeTc
    { apid := fswApid
      seqCount := 0
      ackFlags := 0
      sourceId := 0
      serviceType := serviceType
      serviceSubtype := serviceSubtype
      app := app }).getD []

structure Unacknowledged (tc : List UInt8) (v : TcAcceptResult) (app : List UInt8) : Prop where
  framed : FramerAccepts tc
  verdict : tcAccept tc fswApid = v
  addressed : v.addressed = true
  fc : v.fc = .none
  silent : v.ackFlags = 0
  appData : routerAppData tc = app

/-- The dispatch is what the handler does, for a context that has counted it. -/
theorem tcRouterDispatch_unacknowledged {ctx : RouterCtx cfg} (address : ctx.apid = fswApid)
    {tc app : List UInt8} {v : TcAcceptResult} (tcOf : Unacknowledged tc v app)
    (nowSeconds : UInt32) :
    let routed := routerRoute (routerCount ctx v) v nowSeconds tc tcRouterMaxTm
    let reply := tcRouterDispatch ctx nowSeconds tc tcRouterMaxTm
    reply.status = .ok ∧ reply.ctx = routed.ctx ∧ reply.out = routed.out ∧
      reply.sinkReports = [] := by
  have accepted : TcAccepted tc ctx.apid := by
    rw [address]
    constructor
    · rw [tcOf.verdict, tcOf.addressed]
    · rw [tcOf.verdict, tcOf.fc]
  have dispatched := tcRouterDispatch_accepted nowSeconds accepted (Nat.le_refl tcRouterMaxTm)
  have noAcceptance : ¬v.ackFlags &&& pusTcAckAcceptance ≠ 0 := by
    rw [tcOf.silent]
    decide
  have noCompletion : ¬v.ackFlags &&& pusTcAckCompletion ≠ 0 := by
    rw [tcOf.silent]
    decide
  rw [address, tcOf.verdict] at dispatched
  simp only [routerAcceptanceRequested, if_neg noAcceptance, routerAccepted, if_neg noCompletion,
    List.nil_append, List.length_nil, Nat.sub_zero] at dispatched
  simp only [dispatched, and_self]

/-- The context the handler of a received telecommand sees. -/
def receivedCtx (state : MainState cfg) : RouterCtx cfg :=
  { state.loop.ctx with
    rxRingOverflowDrops := 0
    tcAcceptedCount := state.loop.ctx.tcAcceptedCount + 1 }

theorem receivedCtx_counted (state : MainState cfg) {v : TcAcceptResult} (fc : v.fc = .none) :
    routerCount { state.loop.ctx with rxRingOverflowDrops := 0 } v = receivedCtx state := by
  rw [routerCount, if_neg (not_not.mpr fc)]
  rfl

/-- An idle state with another context. -/
def MainState.withCtx (state : MainState cfg) (ctx : RouterCtx cfg) : MainState cfg :=
  { state with
    framer := framerIdle
    loop := { state.loop with rxRingDrops := 0, ctx := ctx } }

/-- An application at rest: nothing is due, no transfer runs, and no telecommand has
begun. -/
structure MainState.Waits (state : MainState cfg) (nowSeconds : UInt32) : Prop where
  calm : state.Calm nowSeconds
  idle : state.largedata.state ≠ .active
  framed : state.framer = framerIdle
  address : state.loop.ctx.apid = fswApid

theorem MainState.Waits.withCtx {state : MainState cfg} {nowSeconds : UInt32}
    (waits : state.Waits nowSeconds) {ctx : RouterCtx cfg} (address : ctx.apid = fswApid)
    (structures : ∀ hkstore, ctx.hkstore = some hkstore →
      ∀ held ∈ hkstore.held, held.enabled = false)
    (schedule : ∀ sched, ctx.schedule = some sched → sched.enabled = false)
    (store : ∀ store, ctx.store = some store → store.retrievalActive = false) :
    (state.withCtx ctx).Waits nowSeconds where
  calm := ⟨waits.calm.hk, structures, waits.calm.drops, waits.calm.events, schedule, store⟩
  idle := waits.idle
  framed := rfl
  address := address

section Commands

variable {state : MainState cfg} {nowSeconds : UInt32} (waits : state.Waits nowSeconds)
  {tc app : List UInt8} {v : TcAcceptResult} (tcOf : Unacknowledged tc v app)

include waits tcOf

theorem framerDispatch_unacknowledged :
    let routed := routerRoute (receivedCtx state) v nowSeconds tc tcRouterMaxTm
    let reply := framerDispatch { state.loop with rxRingDrops := 0 } nowSeconds tc
    reply.sent = routed.out ∧
      (routed.out = [] →
        reply.state = { state.loop with rxRingDrops := 0, ctx := routed.ctx }) := by
  intro routed reply
  have address : ({ state.loop.ctx with rxRingOverflowDrops := 0 } : RouterCtx cfg).apid =
      fswApid := waits.address
  have dispatched := tcRouterDispatch_unacknowledged address tcOf nowSeconds
  rw [receivedCtx_counted state tcOf.fc] at dispatched
  obtain ⟨status, ctx, out, sinkReports⟩ := dispatched
  have unfolded : reply = loopDispatch _ nowSeconds tc := rfl
  rw [unfolded, loopDispatch]
  simp only [status, ctx, out, sinkReports, List.foldl_nil, true_and]
  split
  · rename_i written
    refine ⟨rfl, fun nothing => ?_⟩
    change routed.out.length > 0 at written
    rw [nothing] at written
    exact absurd written (Nat.lt_irrefl 0)
  · rename_i nothing
    refine ⟨?_, fun _ => rfl⟩
    exact (List.eq_nil_of_length_eq_zero (Nat.eq_zero_of_not_pos nothing)).symm

/-- What a telecommand that is answered downlinks. -/
theorem MainState.Waits.answered :
    ∃ output ∈ (mainRun state (uplink nowSeconds tc)).2,
      output.sent = (routerRoute (receivedCtx state) v nowSeconds tc tcRouterMaxTm).out := by
  have ends := waits.calm.uplink waits.idle waits.framed tcOf.framed
  rw [← (framerDispatch_unacknowledged waits tcOf).1]
  exact ends.sent

/-- Where a telecommand leads that is not answered. -/
theorem MainState.Waits.executed
    (silent : (routerRoute (receivedCtx state) v nowSeconds tc tcRouterMaxTm).out = []) :
    (mainRun state (uplink nowSeconds tc)).1 =
      state.withCtx (routerRoute (receivedCtx state) v nowSeconds tc tcRouterMaxTm).ctx := by
  have ends := waits.calm.uplink waits.idle waits.framed tcOf.framed
  rw [ends.state, (framerDispatch_unacknowledged waits tcOf).2 silent]
  rfl

end Commands

end FswCore
