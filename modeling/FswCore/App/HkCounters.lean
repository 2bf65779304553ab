import FswCore.App.Buffers
import FswCore.App.Iteration
import FswCore.Pus.Poll
import Mathlib.Data.UInt

/-!
Contract: the message counters of the housekeeping reports the main loop transmits.

Owns:
- a burst taken apart as its packets' headers delimit them;
- which tick sends a housekeeping report, from the state before it, and from which
  of the two contexts it takes its message counter;
- the counters of a run are consecutive exactly as long as no report is sent while
  the other context has counted one.

Does not own: packets replayed from the store, which carry the counters they were
first sent with.
-/

namespace FswCore

open Library Library.BigEndian

variable {cfg : Config}

/-! ### Packets of a burst -/

/-- The packets of a burst, as `transmit_tm` delimits them; the fuel bounds their
number. -/
def burstPackets : Nat → List UInt8 → List (List UInt8)
  | 0, _ => []
  | fuel + 1, burst =>
      if burst.length < ccsdsPrimaryHeaderSize then []
      else
        let pktSize := ccsdsPacketTotalSize (be16At burst 4)
        if burst.length < pktSize then []
        else burst.take pktSize :: burstPackets fuel (burst.drop pktSize)

/-- They are what is tapped into the store. -/
theorem transmitTaps_eq (storeTime : UInt32) (fuel : Nat) (burst : List UInt8)
    (store : Pktstore cfg) :
    transmitTaps storeTime fuel burst store =
      (burstPackets fuel burst).foldl
        (fun store packet => (pktstoreStore store packet storeTime).2) store := by
  induction fuel generalizing burst store with
  | zero => rfl
  | succ fuel inductionHypothesis =>
      simp only [transmitTaps, burstPackets]
      split
      · rfl
      split
      · rfl
      · rw [List.foldl_cons, inductionHypothesis]

/-- A complete packet, as its own header delimits it. -/
def Delimited (packet : List UInt8) : Prop :=
  packet.length = ccsdsPacketTotalSize (be16At packet 4)

theorem Delimited.least {packet : List UInt8} (delimited : Delimited packet) :
    7 ≤ packet.length := by
  rw [delimited, ccsdsPacketTotalSize, ccsdsPrimaryHeaderSize]
  omega

/-- A packet that reads ends where its header says. -/
theorem ReadsAs.delimited {packet : List UInt8} {tm : TmPacket} (reads : ReadsAs packet tm) :
    Delimited packet := by
  have size := reads.dataLength
  have header : ccsdsPrimaryHeaderSize ≤ packet.length := by
    rw [size, ccsdsPacketTotalSize]
    omega
  have field : tm.primary.dataLength = be16At packet 4 := by
    have unpacked := reads.primary
    rw [ccsdsPrimaryUnpack, if_neg (Nat.not_lt.mpr header)] at unpacked
    rw [← Except.ok.inj unpacked]
  rw [Delimited, ← field]
  exact size

/-- Complete packets, one behind the other, are the packets of the burst. -/
theorem burstPackets_delimited {packets : List (List UInt8)} {fuel : Nat}
    (complete : ∀ packet ∈ packets, Delimited packet)
    (enough : packets.flatten.length ≤ fuel) : burstPackets fuel packets.flatten = packets := by
  induction packets generalizing fuel with
  | nil => cases fuel <;> rfl
  | cons packet rest inductionHypothesis =>
      have delimited := complete packet List.mem_cons_self
      have least := delimited.least
      have size : ccsdsPacketTotalSize (be16At (packet ++ rest.flatten) 4) = packet.length := by
        rw [be16At_append_left rest.flatten (by omega)]
        exact delimited.symm
      rw [List.flatten_cons, List.length_append] at enough
      cases fuel with
      | zero => omega
      | succ fuel =>
          have later : burstPackets fuel rest.flatten = rest := by
            apply inductionHypothesis
            · exact fun other member => complete other (List.mem_cons_of_mem _ member)
            · omega
          simp only [List.flatten_cons, burstPackets, size]
          rw [if_neg (by rw [List.length_append, ccsdsPrimaryHeaderSize]; omega),
            if_neg (by rw [List.length_append]; omega), List.take_left, List.drop_left, later]

theorem burstPackets_flatten {packets : List (List UInt8)} {fuel : Nat}
    (complete : ∀ packet ∈ packets, ∃ tm, ReadsAs packet tm)
    (enough : packets.flatten.length ≤ fuel) : burstPackets fuel packets.flatten = packets := by
  apply burstPackets_delimited _ enough
  intro packet member
  obtain ⟨tm, reads⟩ := complete packet member
  exact reads.delimited

/-! ### Housekeeping reports -/

/-- The message counters of the housekeeping reports in a burst. -/
def hkMsgCounters (sent : List UInt8) : List UInt8 :=
  ((burstPackets sent.length sent).filter (packetOfKind .hkParamReport)).map packetMsgCounter

theorem hkMsgCounters_flatten {packets : List (List UInt8)}
    (complete : ∀ packet ∈ packets, ∃ tm, ReadsAs packet tm) :
    hkMsgCounters packets.flatten =
      (packets.filter (packetOfKind .hkParamReport)).map packetMsgCounter := by
  rw [hkMsgCounters, burstPackets_flatten complete (Nat.le_refl _)]

theorem hkMsgCounters_one {packet : List UInt8} {tm : TmPacket} (reads : ReadsAs packet tm) :
    hkMsgCounters packet =
      if packetOfKind .hkParamReport packet = true then [tm.secondary.msgCounter] else [] := by
  have complete : ∀ other ∈ [packet], ∃ tm, ReadsAs other tm := by
    intro other member
    rw [List.mem_singleton.mp member]
    exact ⟨tm, reads⟩
  have whole := hkMsgCounters_flatten complete
  rw [List.flatten_singleton] at whole
  rw [whole, List.filter_singleton]
  cases packetOfKind .hkParamReport packet with
  | false => rfl
  | true => exact congrArg (fun label => [label]) reads.labels.2.2

/-- A packet of another service is none. -/
theorem hkMsgCounters_other {packet : List UInt8} {tm : TmPacket} (reads : ReadsAs packet tm)
    (service : tm.secondary.serviceType ≠ pusServiceHousekeeping) :
    hkMsgCounters packet = [] := by
  rw [hkMsgCounters_one reads, if_neg]
  rw [packetOfKind, reads.labels.1, Bool.and_eq_true]
  rintro ⟨same, _⟩
  exact service (beq_iff_eq.mp same)

/-- The two contexts a housekeeping report takes its message counter from: that of
the loop, and that of the router. -/
def TmSenders.hkCounters (senders : TmSenders cfg) : TwoCounters UInt8 where
  left := senders.pus3Ctx
  right := senders.ctx.counters.pus3

/-- What was sent is labelled from one of the contexts, or has no label to draw. -/
structure HkLabelled (before after : TmSenders cfg) (sent : List UInt8)
    (source : Option CounterSide) : Prop where
  labels : hkMsgCounters sent = before.hkCounters.drawn source
  next : after.hkCounters = before.hkCounters.next 1 source

theorem sendPeriodic_labelled {senders : TmSenders cfg} {request : TmRequest} {out : TmOut}
    {source : List UInt8} {size : Nat}
    (reports : out.Reports request senders.periodicCounters .hkParamReport source size) :
    HkLabelled senders (senders.sendPeriodic (.ok out)).1 (senders.sendPeriodic (.ok out)).2
      (some .left) where
  labels := by
    show hkMsgCounters out.packet = _
    have kind : packetOfKind .hkParamReport out.packet = true :=
      reports.reads.ofKind (show _ = TmKind.hkParamReport.service from rfl) rfl .hkParamReport
    rw [hkMsgCounters_one reports.reads, kind]
    rfl
  next := by
    show TwoCounters.mk out.counters.pus3 senders.ctx.counters.pus3 = _
    rw [reports.counters, pus3_commit, if_pos rfl]
    rfl

theorem eventReport_labelled (senders : TmSenders cfg) (request : TmRequest) (severity : UInt8)
    (eventId : UInt16) (aux : List UInt8) :
    let reported := pus5BuildEventReport request senders.ctx.counters severity eventId aux
    HkLabelled senders (senders.setRouterCounters reported.2) (reported.1.toOption.getD [])
      none := by
  intro reported
  rcases pus5BuildEventReport_cases request senders.ctx.counters severity eventId aux with
    ⟨status, failed⟩ | ⟨packet, built, reads⟩
  · rw [show reported = _ from failed]
    exact ⟨rfl, rfl⟩
  · rw [show reported = _ from built]
    exact ⟨hkMsgCounters_other reads (by decide : pusServiceEventReporting ≠ _), rfl⟩

theorem fdirDrain_labelled (senders : TmSenders cfg) (apid : UInt16) (outCap : Nat) :
    let step := tmCall senders (.fdirDrain apid outCap)
    HkLabelled senders step.1 step.2 none := by
  simp only [tmCall, fdirDrain]
  split
  · exact ⟨rfl, rfl⟩
  split
  · exact ⟨rfl, rfl⟩
  · have labelled := eventReport_labelled senders
    exact ⟨(labelled _ _ _ _).labels, (labelled _ _ _ _).next⟩

theorem largedataPart_labelled (small : cfg.pus13PartSize + 18 < 65536)
    (senders : TmSenders cfg) (request : TmRequest) :
    let step := tmCall senders (.largedataPart request)
    HkLabelled senders step.1 step.2 none := by
  have stepped := largedataPart_step small senders request
  generalize tmCall senders (.largedataPart request) = step at stepped ⊢
  cases stepped with
  | nothing session same => exact ⟨rfl, rfl⟩
  | part session chunk reads =>
      exact ⟨hkMsgCounters_other reads (by decide : pusServiceLargeData ≠ _), rfl⟩

/-- The burst of a dispatch: one report for an answered poll, and else none. -/
theorem dispatch_labelled (limits : cfg.ReportLimits) {senders : TmSenders cfg}
    (ready : senders.Ready) (nowSeconds : UInt32) (tc : List UInt8) :
    let reply := tcRouterDispatch senders.ctx nowSeconds tc tcRouterMaxTm
    HkLabelled senders { senders with ctx := reply.ctx } reply.out
      (if PollAnswered senders.ctx tc then some .right else none) := by
  intro reply
  have routerReady := ready.router limits
  obtain ⟨emissions, burst, _, _, emits⟩ :=
    tcRouterDispatch_written routerReady nowSeconds tc (Nat.le_refl _)
  obtain ⟨packets, octets, complete, counts, moved, burstLength⟩ :=
    Emits.countsFrom emits .hkParamReport
  have labels := hkMsgCounters_flatten complete
  rw [← octets] at labels
  have answered : reply.ctx.counters.pus3 =
      senders.ctx.counters.pus3 + if PollAnswered senders.ctx tc then 1 else 0 :=
    tcRouterDispatch_pus3 routerReady nowSeconds tc (Nat.le_refl _)
  have few := List.length_filter_le (packetOfKind .hkParamReport) packets
  generalize packets.filter (packetOfKind .hkParamReport) = reports at *
  -- at most three packets, so the counter's move tells how many of them are reports
  have same : UInt8.ofNat reports.length =
      if PollAnswered senders.ctx tc then 1 else 0 := by
    have total := moved.symm.trans answered
    exact (UInt8.add_right_inj _).mp total
  have number : reports.length = if PollAnswered senders.ctx tc then 1 else 0 := by
    have octet := congrArg UInt8.toNat same
    rw [UInt8.toNat_ofNat', Nat.mod_eq_of_lt (by omega)] at octet
    rw [octet]
    split <;> rfl
  constructor
  · rw [labels]
    split_ifs at number ⊢
    · obtain ⟨report, rfl⟩ := List.length_eq_one_iff.mp number
      exact congrArg (fun label => [label]) counts.1
    · rw [List.length_eq_zero_iff.mp number]
      rfl
  · show TwoCounters.mk senders.pus3Ctx reply.ctx.counters.pus3 = _
    rw [answered]
    split
    · rfl
    · rw [UInt8.add_zero]
      rfl

/-! ### Ticks -/

/-- The activity the release tick takes from the schedule. -/
def releasedTc (ctx : RouterCtx cfg) (nowSeconds : UInt32) : Option (List UInt8) :=
  match ctx.schedule with
  | none => none
  | some sched => (schedulePopDue sched nowSeconds cfg.scheduleTcMax).1.toOption.join

/-- A structure is due, and its report can be built. -/
def dynamicHkDue (ctx : RouterCtx cfg) (nowSeconds : UInt32) : Bool :=
  match ctx.hkstore, ctx.datapool with
  | some hkstore, some dp =>
      match (hkstoreDue hkstore nowSeconds).1 with
      | none => false
      | some held => structureReportable dp held
  | _, _ => false

/-- The loop's own context, for a report that is sent. -/
def periodicSource (sends : Bool) : Option CounterSide := bif sends then some .left else none

/-- The context a poll is answered from. -/
def pollSource (ctx : RouterCtx cfg) : Option (List UInt8) → Option CounterSide
  | none => none
  | some tc => if PollAnswered ctx tc then some .right else none

/-- The context whose message counter the tick's report carries, if it sends one:
the loop's for a periodic report, the router's for a poll. -/
def MainState.hkSource (state : MainState cfg) : LoopTick → Option CounterSide
  | .hk nowSeconds _ => periodicSource (hkDue state nowSeconds)
  | .dynamicHk nowSeconds => periodicSource (dynamicHkDue state.loop.ctx nowSeconds)
  | .release nowSeconds => pollSource state.loop.ctx (releasedTc state.loop.ctx nowSeconds)
  | .receive _ _ received =>
      pollSource state.loop.ctx (received.bind fun byte => (framerByte state.framer byte).2)
  | .rxOverflow _ _ | .fdir _ | .retrieval | .largedata _ => none

/-- What a tick leaves ready, and how it labels its reports. -/
structure HkTick (state : MainState cfg) (step : MainState cfg × LoopOutput)
    (source : Option CounterSide) : Prop where
  ready : step.1.senders.Ready
  labelled : HkLabelled state.senders step.1.senders step.2.sent source

theorem quiet_hkTick {state after : MainState cfg} (ready : after.senders.Ready)
    (same : after.senders.hkCounters = state.senders.hkCounters) :
    HkTick state after.quiet none where
  ready := ready
  labelled := ⟨rfl, same⟩

/-- The tap changes the packet store only. -/
theorem TmSenders.Ready.tapped {senders : TmSenders cfg} (ready : senders.Ready)
    (store : Option (Pktstore cfg)) :
    TmSenders.Ready { senders with ctx := { senders.ctx with store := store } } where
  apid := ready.apid
  seqCount := ready.seqCount
  hkstore := ready.hkstore

/-- What a builder leaves, but for the tap. -/
theorem MainState.send_senders (state : MainState cfg) (nowSeconds : UInt32)
    (call : TmCall cfg) :
    (state.send nowSeconds call).2.sent = (tmCall state.senders call).2 ∧
      ∃ store, (state.send nowSeconds call).1.senders =
        { (tmCall state.senders call).1 with
          ctx := { (tmCall state.senders call).1.ctx with store := store } } := by
  unfold MainState.send
  generalize tmCall state.senders call = step
  obtain ⟨senders, sent⟩ := step
  refine ⟨rfl, ?_⟩
  simp only [MainState.senders]
  split
  · exact ⟨_, rfl⟩
  · exact ⟨senders.ctx.store, rfl⟩

theorem send_hkTick (limits : cfg.ReportLimits) (partSize : cfg.pus13PartSize + 18 < 65536)
    {state : MainState cfg} (ready : state.senders.Ready) (nowSeconds : UInt32)
    {call : TmCall cfg} (admitted : call.Admitted) {source : Option CounterSide}
    (labelled : HkLabelled state.senders (tmCall state.senders call).1
      (tmCall state.senders call).2 source) :
    HkTick state (state.send nowSeconds call) source := by
  have sends := (tmCall_sends limits partSize ready admitted).1
  obtain ⟨output, store, after⟩ := state.send_senders nowSeconds call
  constructor
  · rw [after]
    exact sends.tapped store
  · rw [after, output]
    exact ⟨labelled.labels, labelled.next⟩

theorem dispatched_hkTick (limits : cfg.ReportLimits) {state : MainState cfg}
    (ready : state.senders.Ready) (nowSeconds : UInt32) (tc : List UInt8) :
    HkTick state (state.dispatched (loopDispatch state.loop nowSeconds tc))
      (pollSource state.loop.ctx (some tc)) := by
  have labelled := dispatch_labelled limits ready nowSeconds tc
  have sends := dispatch_sends limits ready nowSeconds tc tcRouterMaxTm
  have after := dispatch_ready ready nowSeconds tc tcRouterMaxTm sends.seqCount_le
  have status : (tcRouterDispatch state.loop.ctx nowSeconds tc tcRouterMaxTm).status = .ok := by
    simp only [tcRouterDispatch, if_neg (Nat.lt_irrefl tcRouterMaxTm)]
    split_ifs <;> rfl
  simp only [MainState.senders] at labelled after
  simp only [MainState.dispatched, loopDispatch, status, true_and]
  split
  · exact ⟨⟨after.apid, after.seqCount, after.hkstore⟩, labelled.labels, labelled.next⟩
  · rename_i silent
    rw [List.eq_nil_of_length_eq_zero (Nat.eq_zero_of_not_pos silent)] at labelled
    exact ⟨⟨after.apid, after.seqCount, after.hkstore⟩, labelled.labels, labelled.next⟩

/-- The request of a ready sender, for a periodic report of this size. -/
theorem TmSenders.Ready.serves {state : MainState cfg} (ready : state.senders.Ready)
    (nowSeconds : UInt32) {size : Nat} (room : size ≤ tcRouterMaxTm) :
    (state.request nowSeconds).Serves state.senders.periodicCounters size where
  apid := ready.apid
  seqCount := ready.seqCount
  room := room

/-- A well-formed store in place of the one held. -/
theorem TmSenders.Ready.marked {state : MainState cfg} (ready : state.senders.Ready)
    {hkstore : Hkstore} (wellFormed : hkstore.WellFormed cfg) :
    (state.marked hkstore).senders.Ready where
  apid := ready.apid
  seqCount := ready.seqCount
  hkstore := by
    intro other held
    obtain rfl := Option.some.inj held
    exact wellFormed

section Ticks

variable (limits : cfg.ReportLimits) {state : MainState cfg} (ready : state.senders.Ready)
  (nowSeconds : UInt32)

include limits ready

theorem releaseTick_labelled :
    HkTick state (state.dispatched (releaseTick state.loop nowSeconds))
      (pollSource state.loop.ctx (releasedTc state.loop.ctx nowSeconds)) := by
  unfold releaseTick releasedTc
  cases wired : state.loop.ctx.schedule with
  | none => exact quiet_hkTick ready rfl
  | some sched =>
      simp only
      generalize schedulePopDue sched nowSeconds cfg.scheduleTcMax = step
      obtain ⟨result, after⟩ := step
      let popped : MainState cfg := { state with
        loop := { state.loop with ctx := { state.loop.ctx with schedule := some after } } }
      have poppedReady : popped.senders.Ready := ⟨ready.apid, ready.seqCount, ready.hkstore⟩
      rcases result with status | (nothing | tc)
      · exact quiet_hkTick poppedReady rfl
      · exact quiet_hkTick poppedReady rfl
      · have tick := dispatched_hkTick limits poppedReady nowSeconds tc
        exact ⟨tick.ready, tick.labelled.labels, tick.labelled.next⟩

theorem receiveTick_labelled (drops : UInt32) (received : Option UInt8) :
    HkTick state (receiveTick state nowSeconds drops received)
      (pollSource state.loop.ctx
        (received.bind fun byte => (framerByte state.framer byte).2)) := by
  unfold receiveTick
  cases received with
  | none => exact quiet_hkTick ready rfl
  | some byte =>
      simp only [Option.bind_some]
      generalize framerByte state.framer byte = step
      obtain ⟨framer, completed⟩ := step
      cases completed with
      | none => exact quiet_hkTick ready rfl
      | some tc =>
          have snapshotReady : (state.snapshot drops).senders.Ready :=
            ⟨ready.apid, ready.seqCount, ready.hkstore⟩
          have tick := dispatched_hkTick limits snapshotReady nowSeconds tc
          exact ⟨tick.ready, tick.labelled.labels, tick.labelled.next⟩

variable (partSize : cfg.pus13PartSize + 18 < 65536)

include partSize

/-- The framework report is always built. -/
theorem hkReport_hkTick (params : Pus3HkParams) :
    HkTick state
      (state.send nowSeconds (.hkReport (state.request nowSeconds) pus3SidFrameworkDiag params))
      (some .left) := by
  have room : pus3HkTmPacketSize ≤ tcRouterMaxTm := by decide
  obtain ⟨out, source, built, reports⟩ :=
    pus3BuildHkReport_ok params (ready.serves nowSeconds room)
  have admitted : TmCall.Admitted
      (.hkReport (state.request nowSeconds) pus3SidFrameworkDiag params : TmCall cfg) := trivial
  apply send_hkTick limits partSize ready nowSeconds admitted
  simp only [tmCall, built]
  exact sendPeriodic_labelled reports

theorem hkTick_labelled (drops : UInt32) :
    HkTick state (hkTick state nowSeconds drops) (periodicSource (hkDue state nowSeconds)) := by
  unfold hkTick
  cases hkDue state nowSeconds with
  | false => exact quiet_hkTick ready rfl
  | true =>
      have snapshotReady : (state.snapshot drops).senders.Ready :=
        ⟨ready.apid, ready.seqCount, ready.hkstore⟩
      have tick := hkReport_hkTick limits snapshotReady nowSeconds partSize
        (fillHkParams (state.snapshot drops).loop.ctx)
      exact ⟨tick.ready, tick.labelled.labels, tick.labelled.next⟩

/-- A structure's report is built if its parameters have values. -/
theorem dynamicHkReport_hkTick (dp : Datapool) {held : HkStructure}
    (bounded : held.paramIds.length ≤ cfg.hkstoreMaxParams) :
    HkTick state
      (state.send nowSeconds (.dynamicHkReport (state.request nowSeconds) dp held))
      (periodicSource (structureReportable dp held)) := by
  have admitted : TmCall.Admitted
      (.dynamicHkReport (state.request nowSeconds) dp held : TmCall cfg) := bounded
  apply send_hkTick limits partSize ready nowSeconds admitted
  simp only [tmCall, structureReportable]
  cases resolved : pus3ResolveParams dp held.paramIds with
  | none =>
      simp only [pus3BuildDynamicHkReport, resolved]
      exact ⟨rfl, rfl⟩
  | some values =>
      have room : tcRouterMaxReport ≤ tcRouterMaxTm := by decide
      obtain ⟨out, source, built, reports⟩ := pus3BuildDynamicHkReport_ok resolved
        (ready.serves nowSeconds room) (limits.structureReport_fits bounded) (by decide)
      rw [built]
      exact sendPeriodic_labelled reports

theorem dynamicHkTick_labelled :
    HkTick state (dynamicHkTick state nowSeconds)
      (periodicSource (dynamicHkDue state.loop.ctx nowSeconds)) := by
  unfold dynamicHkTick dynamicHkDue
  cases wired : state.loop.ctx.hkstore with
  | none => exact quiet_hkTick ready rfl
  | some hkstore =>
      cases pool : state.loop.ctx.datapool with
      | none => exact quiet_hkTick ready rfl
      | some dp =>
          have wellFormed := ready.hkstore hkstore wired
          have marked := wellFormed.due nowSeconds
          have bounded : ∀ held, (hkstoreDue hkstore nowSeconds).1 = some held →
              held.paramIds.length ≤ cfg.hkstoreMaxParams :=
            fun held due => wellFormed.due_params_le due
          simp only
          generalize hkstoreDue hkstore nowSeconds = step at marked bounded
          obtain ⟨due, later⟩ := step
          let after : MainState cfg := state.marked later
          have afterReady : after.senders.Ready := ready.marked marked
          cases due with
          | none => exact quiet_hkTick afterReady rfl
          | some held =>
              have tick := dynamicHkReport_hkTick limits afterReady nowSeconds partSize dp
                (bounded held rfl)
              exact ⟨tick.ready, tick.labelled.labels, tick.labelled.next⟩

omit limits partSize nowSeconds in
theorem rxOverflowTick_labelled (nowSeconds drops : UInt32) :
    HkTick state (rxOverflowTick state nowSeconds drops) none := by
  unfold rxOverflowTick
  split
  · exact quiet_hkTick ⟨ready.apid, ready.seqCount, ready.hkstore⟩ rfl
  · exact quiet_hkTick ready rfl

omit limits partSize nowSeconds in
/-- What is replayed is not sent as new. -/
theorem retrievalTick_labelled : HkTick state (retrievalTick state) none := by
  unfold retrievalTick
  split
  · exact quiet_hkTick ready rfl
  · exact ⟨⟨ready.apid, ready.seqCount, ready.hkstore⟩, rfl, rfl⟩

omit nowSeconds in
/-- One tick. -/
theorem loopTick_labelled (tick : LoopTick) :
    HkTick state (loopTick state tick) (state.hkSource tick) := by
  cases tick with
  | hk nowSeconds drops => exact hkTick_labelled limits ready nowSeconds partSize drops
  | dynamicHk nowSeconds => exact dynamicHkTick_labelled limits ready nowSeconds partSize
  | rxOverflow nowSeconds drops => exact rxOverflowTick_labelled ready nowSeconds drops
  | fdir nowSeconds =>
      have admitted : TmCall.Admitted
          (.fdirDrain state.loop.ctx.apid tcRouterMaxTm : TmCall cfg) := trivial
      apply send_hkTick limits partSize ready nowSeconds admitted
      exact fdirDrain_labelled _ _ _
  | release nowSeconds => exact releaseTick_labelled limits ready nowSeconds
  | retrieval => exact retrievalTick_labelled ready
  | largedata nowSeconds =>
      have admitted : TmCall.Admitted
          (.largedataPart (state.request nowSeconds) : TmCall cfg) := trivial
      apply send_hkTick limits partSize ready nowSeconds admitted
      exact largedataPart_labelled partSize _ _
  | receive nowSeconds drops received =>
      exact receiveTick_labelled limits ready nowSeconds drops received

end Ticks

/-- The system the library's counters are about. -/
theorem hkLabelsFrom (limits : cfg.ReportLimits) (partSize : cfg.pus13PartSize + 18 < 65536) :
    LabelsFrom 1 (loopTick : MainState cfg → LoopTick → _) (fun state => state.senders.Ready)
      (fun state => state.senders.hkCounters) MainState.hkSource
      (fun output => hkMsgCounters output.sent) where
  holds := fun _ tick ready => (loopTick_labelled limits ready partSize tick).ready
  labels := fun _ tick ready => (loopTick_labelled limits ready partSize tick).labelled.labels
  next := fun _ tick ready => (loopTick_labelled limits ready partSize tick).labelled.next

/-! ### Runs -/

/-- The loop starts with no housekeeping report counted in either context. -/
theorem mainBoot_hkTick (limits : cfg.ReportLimits) (partSize : cfg.pus13PartSize + 18 < 65536)
    {subs : Subsystems} (within : subs.Within cfg) (fdir : FdirSystem cfg)
    (largedata : LargedataSession) (bootSeconds : UInt32) :
    let start := (mainBoot cfg subs fdir largedata bootSeconds).1
    start.senders.Ready ∧ start.senders.hkCounters = ⟨0, 0⟩ := by
  intro start
  let wired := mainWired cfg subs fdir largedata bootSeconds
  have address : fswApid ≤ 0x7FF := by decide
  have first : pusCountersZero.tmSeqCount ≤ 0x3FFF := by decide
  have ready : wired.senders.Ready := by
    refine ⟨address, first, ?_⟩
    intro hkstore stored
    obtain rfl := Option.some.inj stored
    exact within.hkstore
  have admitted : TmCall.Admitted
      (.eventReport (wired.request bootSeconds) pus5SevInfo pus5EvtFswBoot [] : TmCall cfg) :=
    trivial
  have reported := eventReport_labelled wired.senders (wired.request bootSeconds) pus5SevInfo
    pus5EvtFswBoot []
  have tick := send_hkTick limits partSize ready bootSeconds admitted
    ⟨reported.labels, reported.next⟩
  exact ⟨tick.ready, tick.labelled.next⟩

/-- The message counters of the housekeeping reports sent are consecutive. -/
def HkCountersConsecutive (outputs : List LoopOutput) : Prop :=
  (outputs.flatMap fun output => hkMsgCounters output.sent).IsChain
    fun earlier later => later = earlier + 1

instance (outputs : List LoopOutput) : Decidable (HkCountersConsecutive outputs) :=
  inferInstanceAs (Decidable (List.IsChain _ _))

/-- A report is sent from one context while the message counter of the other is 0. -/
def HkOneContext (state : MainState cfg) (tick : LoopTick) : Prop :=
  state.senders.hkCounters.OtherIdle (state.hkSource tick)

/-- In every run from boot the counters are consecutive exactly as long as every
report, periodic or polled, is sent while the other context's counter is 0. -/
theorem mainRun_hkCounters_iff (limits : cfg.ReportLimits)
    (partSize : cfg.pus13PartSize + 18 < 65536) (hkPeriodSec : UInt32) (fwVersion : UInt16)
    (fwBuildId : UInt32) (loaded : NvstoreStatus × Nvstore) (fdir : FdirSystem cfg)
    (largedata : LargedataSession) (bootSeconds : UInt32) (inputs : List LoopInput) :
    let subs := appRestore cfg (appTables hkPeriodSec fwVersion fwBuildId) loaded
    let start := (mainBoot cfg subs fdir largedata bootSeconds).1
    HkCountersConsecutive (mainRun start inputs).2 ↔
      AllSteps loopTick HkOneContext start (inputs.flatMap loopTicks) := by
  intro subs start
  have params : (appTables hkPeriodSec fwVersion fwBuildId).params.length ≤ 3 := Nat.le_refl _
  have within : subs.Within cfg := Subsystems.Within.appRestore cfg params loaded
  obtain ⟨ready, unused⟩ := mainBoot_hkTick limits partSize within fdir largedata bootSeconds
  have system := hkLabelsFrom limits partSize
  have counted := system.isChain_iff ready unused (inputs.flatMap loopTicks)
  exact counted

/-- The application after a first power-up, without flash. -/
def firstLoop : MainState defaultConfig :=
  let subs := appRestore defaultConfig (appTables 10 1 0x20260522) (.errNoValidImage, nvstoreZero)
  let fdir : FdirSystem defaultConfig :=
    { fdir := fdirZero defaultConfig, mode := subs.mode, modeSinkIsFdir := true }
  (mainBoot defaultConfig subs fdir largedataInit 0).1

/-- An iteration at a time, with an octet received or none. -/
def iterationAt (nowSeconds : UInt32) (received : Option UInt8) : LoopInput where
  nowSeconds := nowSeconds
  hkDrops := 0
  detectedDrops := 0
  dispatchDrops := 0
  received := received

/-- Two periodic reports, and none that is polled. -/
theorem mainRun_hkCounters_iff_periodic :
    let inputs := [iterationAt 10 none, iterationAt 20 none]
    ((mainRun firstLoop inputs).2.flatMap fun output => hkMsgCounters output.sent) = [0, 1] ∧
      AllSteps loopTick HkOneContext firstLoop (inputs.flatMap loopTicks) :=
  ⟨by decide +kernel,
    (mainRun_hkCounters_iff Config.default_kconfigAdmitted.reportLimits (by decide) 10 1 0x20260522
      (.errNoValidImage, nvstoreZero) _ largedataInit 0 _).mp (by decide +kernel)⟩

/-- A periodic report, and then one that is polled: both carry the counter 0. -/
theorem mainRun_poll_restarts :
    let pollTc : List UInt8 :=
      [0x19, 0x00, 0xC0, 0x00, 0x00, 0x08, 0x29, 0x03, 0x1B, 0x00, 0x05, 0x00, 0x01, 0x3B, 0x8A]
    let outputs := (mainRun firstLoop (pollTc.map fun byte => iterationAt 10 (some byte))).2
    (outputs.flatMap fun output => hkMsgCounters output.sent) = [0, 0] ∧
      ¬ HkCountersConsecutive outputs := by
  decide +kernel

end FswCore
