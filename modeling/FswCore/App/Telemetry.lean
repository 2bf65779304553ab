import FswCore.App.Replay

/-!
Contract: the telemetry of a tick, as one call of a sender.

Owns:
- `TickSends`: which sender a tick calls, in which state, and that its output and its
  counters are those of the call;
- every tick of the main loop is of that form, and start-up sends the boot event.

Does not own: what the call writes.
-/

namespace FswCore

open Library

variable {cfg : Config}

/-! ### Start-up -/

/-- What start-up wires, before the boot event. -/
def appWired (build : AppBuild) (power : PowerUp cfg) (subs : Subsystems) : MainState cfg :=
  mainWired cfg subs
    { fdir := appFdir build power.fdirMemory, mode := subs.mode, modeSinkIsFdir := true }
    (appLargedata cfg build) power.bootSeconds

def bootEvent (build : AppBuild) (power : PowerUp cfg) (subs : Subsystems) : TmCall cfg :=
  .eventReport ((appWired build power subs).request power.bootSeconds) pus5SevInfo
    pus5EvtFswBoot []

theorem appWired_ready (build : AppBuild) (power : PowerUp cfg) {subs : Subsystems}
    (within : subs.Within cfg) : (appWired build power subs).senders.Ready := by
  have address : fswApid ≤ 0x7FF := by decide
  have first : pusCountersZero.tmSeqCount ≤ 0x3FFF := by decide
  refine ⟨address, first, ?_⟩
  intro hkstore stored
  obtain rfl := Option.some.inj stored
  exact within.hkstore

/-- What is built is sent, and the tap reaches no counter. -/
theorem MainState.send_counters (state : MainState cfg) (nowSeconds : UInt32)
    (call : TmCall cfg) :
    (state.send nowSeconds call).2.sent = (tmCall state.senders call).2 ∧
      (state.send nowSeconds call).1.senders.counters =
        (tmCall state.senders call).1.counters := by
  obtain ⟨sent, store, after⟩ := state.send_senders nowSeconds call
  exact ⟨sent, by rw [after]; rfl⟩

/-- Start-up sends the boot event. -/
theorem appMain_sends (build : AppBuild) (power : PowerUp cfg) (subs : Subsystems) :
    let boot := appMain cfg build power subs
    let event := tmCall (appWired build power subs).senders (bootEvent build power subs)
    boot.2.sent = event.2 ∧ boot.1.senders.counters = event.1.counters := by
  obtain ⟨sent, counters⟩ := (appWired build power subs).send_counters power.bootSeconds
    (bootEvent build power subs)
  have booted : mainBoot cfg subs
      { fdir := appFdir build power.fdirMemory, mode := subs.mode, modeSinkIsFdir := true }
      (appLargedata cfg build) power.bootSeconds =
        (appWired build power subs).send power.bootSeconds (bootEvent build power subs) := rfl
  simp only [appMain, booted]
  split <;> exact ⟨sent, counters⟩

/-- The application starts with its senders ready. -/
theorem appMain_ready (limits : cfg.ReportLimits) (partSize : cfg.pus13PartSize + 18 < 65536)
    (build : AppBuild) (power : PowerUp cfg) {subs : Subsystems} (within : subs.Within cfg) :
    (appMain cfg build power subs).1.senders.Ready := by
  have ready := (mainBoot_hkTick limits partSize within
    { fdir := appFdir build power.fdirMemory, mode := subs.mode, modeSinkIsFdir := true }
    (appLargedata cfg build) power.bootSeconds).1
  simp only [appMain]
  split
  · exact ⟨ready.apid, ready.seqCount, ready.hkstore⟩
  · exact ready

/-! ### One tick -/

/-- The senders a telecommand is dispatched with. -/
def TickDispatch.senders (dispatch : TickDispatch cfg) (state : MainState cfg) : TmSenders cfg :=
  { state.senders with ctx := dispatch.ctx }

/-- The service of the report a call builds. -/
def TmCall.service : TmCall cfg → UInt8
  | .hkReport _ _ _ | .dynamicHkReport _ _ _ => pusServiceHousekeeping
  | .eventReport _ _ _ _ | .fdirDrain _ _ => pusServiceEventReporting
  | .largedataPart _ => pusServiceLargeData
  | .dispatch _ _ _ | .largedataStart _ _ | .otherWork _ _ => 0

/-- The service a tick of the loop reports of, if of any. -/
def LoopTick.service : LoopTick → UInt8
  | .hk _ _ | .dynamicHk _ => pusServiceHousekeeping
  | .fdir _ => pusServiceEventReporting
  | .largedata _ => pusServiceLargeData
  | .rxOverflow _ _ | .release _ | .retrieval | .receive _ _ _ => 0

/-- A tick sends nothing, or builds at most one report of the loop's own, or dispatches
a telecommand. -/
inductive TickSends (state : MainState cfg) (tick : LoopTick) : Prop where
  | nothing (handed : state.dispatches tick = none) (sent : (loopTick state tick).2.sent = [])
      (counters : (loopTick state tick).1.senders.counters = state.senders.counters)
  | report (handed : state.dispatches tick = none) {before : TmSenders cfg} {call : TmCall cfg}
      (ready : before.Ready) (counters : before.counters = state.senders.counters)
      (builds : call.Builds) (admitted : call.Admitted)
      (service : call.service = tick.service)
      (sent : (loopTick state tick).2.sent = (tmCall before call).2)
      (after : (loopTick state tick).1.senders.counters = (tmCall before call).1.counters)
  | telecommand {dispatch : TickDispatch cfg} (handed : state.dispatches tick = some dispatch)
      (ready : (dispatch.senders state).Ready)
      (counters : (dispatch.senders state).counters = state.senders.counters)
      (sent : (loopTick state tick).2.sent = dispatch.reply.out)
      (after : (loopTick state tick).1.senders.counters =
        { state.senders.counters with router := dispatch.reply.ctx.counters })

theorem loopDispatch_counters (state : LoopState cfg) (nowSeconds : UInt32) (tc : List UInt8) :
    (loopDispatch state nowSeconds tc).state.ctx.counters =
      (tcRouterDispatch state.ctx nowSeconds tc tcRouterMaxTm).ctx.counters := by
  simp only [loopDispatch]
  split <;> rfl

section Ticks

variable {state : MainState cfg} (ready : state.senders.Ready)

include ready

theorem dynamicHkTick_sends (nowSeconds : UInt32) : TickSends state (.dynamicHk nowSeconds) := by
  have quiet (same : (loopTick state (.dynamicHk nowSeconds)) = state.quiet) :
      TickSends state (.dynamicHk nowSeconds) :=
    .nothing rfl (by rw [same]; rfl) (by rw [same]; rfl)
  cases wired : state.loop.ctx.hkstore with
  | none => exact quiet (by simp only [loopTick, dynamicHkTick, wired])
  | some hkstore =>
      cases pool : state.loop.ctx.datapool with
      | none => exact quiet (by simp only [loopTick, dynamicHkTick, wired, pool])
      | some dp =>
          have wellFormed := ready.hkstore hkstore wired
          let marked := state.marked (hkstoreDue hkstore nowSeconds).2
          have markedReady : marked.senders.Ready := ready.marked (wellFormed.due nowSeconds)
          cases due : (hkstoreDue hkstore nowSeconds).1 with
          | none =>
              have idle : loopTick state (.dynamicHk nowSeconds) = marked.quiet := by
                simp only [loopTick, dynamicHkTick, wired, pool, due]
                rfl
              exact .nothing rfl (by rw [idle]; rfl) (by rw [idle]; rfl)
          | some held =>
              let call : TmCall cfg := .dynamicHkReport (marked.request nowSeconds) dp held
              have builds : loopTick state (.dynamicHk nowSeconds) =
                  marked.send nowSeconds call := by
                simp only [loopTick, dynamicHkTick, wired, pool, due]
                rfl
              obtain ⟨sent, counters⟩ := marked.send_counters nowSeconds call
              exact .report rfl markedReady rfl (show call.Builds from trivial)
                (wellFormed.due_params_le due) rfl
                (by rw [builds]; exact sent) (by rw [builds]; exact counters)

theorem hkTick_sends (nowSeconds drops : UInt32) : TickSends state (.hk nowSeconds drops) := by
  cases due : hkDue state nowSeconds with
  | false =>
      have idle : loopTick state (.hk nowSeconds drops) = state.quiet := by
        simp only [loopTick, hkTick, due, Bool.false_eq_true, if_false]
      exact .nothing rfl (by rw [idle]; rfl) (by rw [idle]; rfl)
  | true =>
      let snapshot := state.snapshot drops
      let call : TmCall cfg := .hkReport (snapshot.request nowSeconds) pus3SidFrameworkDiag
        (fillHkParams snapshot.loop.ctx)
      have builds : loopTick state (.hk nowSeconds drops) =
          ({ (snapshot.send nowSeconds call).1 with lastHkEmitSec := nowSeconds },
            (snapshot.send nowSeconds call).2) := by
        simp only [loopTick, hkTick, due, if_true]
        rfl
      have snapshotReady : snapshot.senders.Ready := ⟨ready.apid, ready.seqCount, ready.hkstore⟩
      obtain ⟨sent, counters⟩ := snapshot.send_counters nowSeconds call
      exact .report rfl snapshotReady rfl (show call.Builds from trivial) trivial
        rfl (by rw [builds]; exact sent) (by rw [builds]; exact counters)

omit ready in
/-- A telecommand that is handed to the router. -/
theorem dispatched_sends {tick : LoopTick} {dispatch : TickDispatch cfg} (loop : LoopState cfg)
    (handed : state.dispatches tick = some dispatch) (ctx : loop.ctx = dispatch.ctx)
    (prepared : (dispatch.senders state).Ready)
    (counters : (dispatch.senders state).counters = state.senders.counters)
    (step : (loopTick state tick).2.sent =
      (loopDispatch loop dispatch.nowSeconds dispatch.tc).sent)
    (router : (loopTick state tick).1.senders.counters =
      { state.senders.counters with
        router := (loopDispatch loop dispatch.nowSeconds dispatch.tc).state.ctx.counters }) :
    TickSends state tick := by
  refine .telecommand handed prepared counters ?_ ?_
  · rw [step, loopDispatch_sent, ctx]
    rfl
  · rw [router, loopDispatch_counters, ctx]
    rfl

/-- Every tick. -/
theorem loopTick_sends (tick : LoopTick) : TickSends state tick := by
  have own (nowSeconds : UInt32) (call : TmCall cfg) (builds : call.Builds)
      (admitted : call.Admitted) (handed : state.dispatches tick = none)
      (service : call.service = tick.service)
      (step : loopTick state tick = state.send nowSeconds call) : TickSends state tick := by
    obtain ⟨sent, counters⟩ := state.send_counters nowSeconds call
    exact .report handed ready rfl builds admitted service (by rw [step]; exact sent)
      (by rw [step]; exact counters)
  cases tick with
  | hk nowSeconds drops => exact hkTick_sends ready nowSeconds drops
  | dynamicHk nowSeconds => exact dynamicHkTick_sends ready nowSeconds
  | rxOverflow nowSeconds drops =>
      refine .nothing rfl ?_ ?_ <;> simp only [loopTick, rxOverflowTick] <;> split <;> rfl
  | fdir nowSeconds =>
      exact own nowSeconds (.fdirDrain state.loop.ctx.apid tcRouterMaxTm) trivial trivial rfl rfl
        rfl
  | retrieval =>
      refine .nothing rfl ?_ ?_ <;> simp only [loopTick, retrievalTick] <;> split <;> rfl
  | largedata nowSeconds =>
      exact own nowSeconds (.largedataPart (state.request nowSeconds)) trivial trivial rfl rfl
        rfl
  | release nowSeconds =>
      have eq := releaseTick_eq state.loop nowSeconds
      cases released : releasedTc state.loop.ctx nowSeconds with
      | none =>
          rw [released] at eq
          have handed : state.dispatches (.release nowSeconds) = none := by
            simp only [MainState.dispatches, released, Option.map_none]
          refine .nothing handed ?_ ?_ <;> simp only [loopTick, MainState.dispatched, eq]
          rfl
      | some tc =>
          rw [released] at eq
          have handed : state.dispatches (.release nowSeconds) =
              some ⟨poppedCtx state.loop.ctx nowSeconds, nowSeconds, tc⟩ := by
            simp only [MainState.dispatches, released, Option.map_some]
          refine dispatched_sends { state.loop with ctx := poppedCtx state.loop.ctx nowSeconds }
            handed rfl ⟨ready.apid, ready.seqCount, ready.hkstore⟩ rfl ?_ ?_ <;>
            simp only [loopTick, MainState.dispatched, eq]
          rfl
  | receive nowSeconds drops received =>
      cases framed : framedTc state received with
      | none =>
          have handed : state.dispatches (.receive nowSeconds drops received) = none := by
            simp only [MainState.dispatches, framed, Option.map_none]
          cases received with
          | none => exact .nothing handed rfl rfl
          | some byte =>
              have incomplete : (framerByte state.framer byte).2 = none := framed
              refine .nothing handed ?_ ?_ <;> simp only [loopTick, receiveTick, incomplete] <;> rfl
      | some tc =>
          have handed : state.dispatches (.receive nowSeconds drops received) =
              some ⟨{ state.loop.ctx with rxRingOverflowDrops := drops }, nowSeconds, tc⟩ := by
            simp only [MainState.dispatches, framed, Option.map_some]
          cases received with
          | none => contradiction
          | some byte =>
              have complete : (framerByte state.framer byte).2 = some tc := framed
              refine dispatched_sends
                (.mk { state.loop.ctx with rxRingOverflowDrops := drops } state.loop.fdir drops)
                handed rfl ⟨ready.apid, ready.seqCount, ready.hkstore⟩ rfl ?_ ?_ <;>
                simp only [loopTick, receiveTick, complete] <;> rfl

end Ticks

/-! ### What the loop builds -/

/-- A complete packet is the one packet of its octets. -/
theorem burstPackets_one {packet : List UInt8} {tm : TmPacket} (reads : ReadsAs packet tm) :
    burstPackets packet.length packet = [packet] := by
  have complete : ∀ other ∈ [packet], ∃ tm, ReadsAs other tm := by
    intro other member
    rw [List.mem_singleton.mp member]
    exact ⟨tm, reads⟩
  have one := burstPackets_flatten complete (Nat.le_refl _)
  rwa [List.flatten_singleton] at one

/-- The octets are complete packets, and the reader makes these values of them. -/
def Yields {α : Type} (read : List UInt8 → Option α) (out : List UInt8) (values : List α) : Prop :=
  ∃ packets : List (List UInt8), packets.flatten = out ∧
    (∀ packet ∈ packets, ∃ tm, ReadsAs packet tm) ∧ packets.filterMap read = values

namespace Yields

variable {α : Type} {read : List UInt8 → Option α}

theorem nil : Yields read [] [] :=
  ⟨[], rfl, fun _ none => absurd none List.not_mem_nil, rfl⟩

theorem append {first second : List UInt8} {before after : List α}
    (front : Yields read first before) (back : Yields read second after) :
    Yields read (first ++ second) (before ++ after) := by
  obtain ⟨packets, rfl, complete, rfl⟩ := front
  obtain ⟨others, rfl, othersComplete, rfl⟩ := back
  refine ⟨packets ++ others, List.flatten_append, ?_, List.filterMap_append⟩
  exact List.forall_mem_append.mpr ⟨complete, othersComplete⟩

theorem one {packet : List UInt8} {tm : TmPacket} (reads : ReadsAs packet tm) :
    Yields read packet (read packet).toList := by
  refine ⟨[packet], List.flatten_singleton, fun other member => ?_, ?_⟩
  · rw [List.mem_singleton.mp member]
    exact ⟨tm, reads⟩
  · rw [List.filterMap_cons]
    cases read packet <;> rfl

/-- The packets are those that their own headers delimit. -/
theorem burst {out : List UInt8} {values : List α} (yields : Yields read out values) :
    (burstPackets out.length out).filterMap read = values := by
  obtain ⟨packets, rfl, complete, rfl⟩ := yields
  rw [burstPackets_flatten complete (Nat.le_refl _)]

end Yields

/-- The octets are complete packets of a service, if there are any. -/
def WritesReports (service : UInt8) (sent : List UInt8) : Prop :=
  ∀ packet ∈ burstPackets sent.length sent,
    ∃ tm, ReadsAs packet tm ∧ tm.secondary.serviceType = service

theorem writesReports_none (service : UInt8) : WritesReports service [] :=
  fun _ none => absurd none List.not_mem_nil

theorem ReadsAs.writesReports {packet : List UInt8} {tm : TmPacket} (reads : ReadsAs packet tm) :
    WritesReports tm.secondary.serviceType packet := by
  intro other member
  rw [burstPackets_one reads, List.mem_singleton] at member
  rw [member]
  exact ⟨tm, reads, rfl⟩

theorem hkReport_writes (senders : TmSenders cfg) (request : TmRequest) (sid : UInt16)
    (params : Pus3HkParams) :
    WritesReports pusServiceHousekeeping (tmCall senders (.hkReport request sid params)).2 := by
  rw [tmCall]
  cases built : pus3BuildHkReport request senders.periodicCounters sid params with
  | error status => exact writesReports_none _
  | ok out =>
      by_cases framework : sid = pus3SidFrameworkDiag
      · subst framework
        exact (pus3BuildHkReport_packet built).writesReports
      · rw [pus3BuildHkReport, if_pos framework] at built
        contradiction

theorem dynamicHkReport_writes (senders : TmSenders cfg) (request : TmRequest) (dp : Datapool)
    {held : HkStructure} (small : 14 + 4 * held.paramIds.length < 65536) :
    WritesReports pusServiceHousekeeping
      (tmCall senders (.dynamicHkReport request dp held)).2 := by
  rw [tmCall]
  cases built : pus3BuildDynamicHkReport request senders.periodicCounters dp held with
  | error status => exact writesReports_none _
  | ok out =>
      obtain ⟨_, _, reads⟩ := pus3BuildDynamicHkReport_packet built small
      exact reads.writesReports

theorem eventReport_writes (request : TmRequest) (counters : PusCounters) (severity : UInt8)
    (eventId : UInt16) (aux : List UInt8) :
    WritesReports pusServiceEventReporting
      ((pus5BuildEventReport request counters severity eventId aux).1.toOption.getD []) := by
  rcases pus5BuildEventReport_cases request counters severity eventId aux with
    ⟨status, failed⟩ | ⟨packet, built, reads⟩
  · rw [failed]
    exact writesReports_none _
  · rw [built]
    exact reads.writesReports

/-- A builder writes reports of its service only. -/
theorem tmCall_writes (limits : cfg.ReportLimits) (partSize : cfg.pus13PartSize + 18 < 65536)
    (senders : TmSenders cfg) {call : TmCall cfg} (builds : call.Builds)
    (admitted : call.Admitted) : WritesReports call.service (tmCall senders call).2 := by
  cases call with
  | dispatch | largedataStart | otherWork => exact builds.elim
  | hkReport request sid params => exact hkReport_writes senders request sid params
  | dynamicHkReport request dp held =>
      have few : held.paramIds.length ≤ cfg.hkstoreMaxParams := admitted
      have limit := limits.hkstoreMaxParams
      exact dynamicHkReport_writes senders request dp (by omega)
  | eventReport request severity eventId aux => exact eventReport_writes _ _ _ _ _
  | fdirDrain apid outCap =>
      simp only [tmCall, fdirDrain]
      by_cases short : outCap < pus5TmMaxPacketSize
      · rw [if_pos short]
        exact writesReports_none _
      · rw [if_neg short]
        rcases eventFifoPop senders.fdir.fifo with ⟨popped, fifo⟩
        cases popped with
        | none => exact writesReports_none _
        | some event => exact eventReport_writes _ _ _ _ _
  | largedataPart request =>
      have stepped := largedataPart_step partSize senders request
      generalize tmCall senders (.largedataPart request) = step at stepped ⊢
      cases stepped with
      | nothing session same => exact writesReports_none _
      | part session chunk reads => exact reads.writesReports

/-- The packets of a dispatch are of the router's kinds. -/
theorem dispatch_writes (limits : cfg.ReportLimits) {senders : TmSenders cfg}
    (ready : senders.Ready) (nowSeconds : UInt32) (tc : List UInt8) :
    let out := (tcRouterDispatch senders.ctx nowSeconds tc tcRouterMaxTm).out
    ∀ packet ∈ burstPackets out.length out,
      ∃ tm, ReadsAs packet tm ∧ ∃ kind : TmKind, tm.secondary.serviceType = kind.service := by
  intro out
  obtain ⟨emissions, _, _, _, emits⟩ :=
    tcRouterDispatch_written (ready.router limits) nowSeconds tc (Nat.le_refl _)
  obtain ⟨packets, octets, _, consecutive, _⟩ := Emits.packets emits ready.seqCount
  have reads : ∀ packet ∈ packets, ∃ tm, ReadsAs packet tm ∧
      ∃ kind : TmKind, tm.secondary.serviceType = kind.service := by
    intro packet member
    obtain ⟨index, stored⟩ := List.mem_iff_getElem?.mp member
    obtain ⟨tm, whole, _, _, _, _, kind, service, _⟩ := consecutive index packet stored
    exact ⟨tm, whole, kind, service⟩
  have burst : burstPackets out.length out = packets := by
    rw [show out = packets.flatten from octets]
    apply burstPackets_flatten _ (Nat.le_refl _)
    intro packet member
    obtain ⟨tm, whole, _⟩ := reads packet member
    exact ⟨tm, whole⟩
  rw [burst]
  exact reads

theorem TmKind.service_ne_event (kind : TmKind) : kind.service ≠ pusServiceEventReporting := by
  cases kind <;> decide

end FswCore
