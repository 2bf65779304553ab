import FswCore.Fdir.Model
import FswCore.Largedata.Model
import FswCore.Library.Numbering
import FswCore.Pus.Verification

/-!
Contract: the sequence count that every sender of telemetry shares.

Owns:
- the calls that send telemetry, in any order, between any other work on the
  stores, the event queue and the large data session;
- the packets of a run are numbered without a gap, and a call that sends nothing
  touches no counter.

Does not own: what the packets report.
-/

namespace FswCore

open Library

variable {cfg : Config}

/-- The senders: the router, the periodic reports with a message counter of their
own, the event queue and the large data session. -/
structure TmSenders (cfg : Config) where
  ctx : RouterCtx cfg
  pus3Ctx : UInt8
  fdir : FdirCtx cfg
  largedata : LargedataSession

/-- Every counter a packet is labelled with. -/
structure TmCounters where
  router : PusCounters
  periodic : UInt8
  parts : Pus13Ctx
deriving DecidableEq

namespace TmSenders

def seqCount (senders : TmSenders cfg) : Nat := senders.ctx.counters.tmSeqCount.toNat

def counters (senders : TmSenders cfg) : TmCounters :=
  { router := senders.ctx.counters
    periodic := senders.pus3Ctx
    parts := senders.largedata.pus13 }

def setRouterCounters (senders : TmSenders cfg) (counters : PusCounters) : TmSenders cfg :=
  { senders with ctx := { senders.ctx with counters := counters } }

/-- The counters of the periodic reports: the shared sequence count, and their own
message counter. -/
def periodicCounters (senders : TmSenders cfg) : PusCounters :=
  { senders.ctx.counters with pus3 := senders.pus3Ctx }

/-- What a periodic report leaves behind. -/
def sendPeriodic (senders : TmSenders cfg) (result : Except Pus3Status TmOut) :
    TmSenders cfg × List UInt8 :=
  match result with
  | .error _ => (senders, [])
  | .ok tm =>
      ({ senders.setRouterCounters
          { senders.ctx.counters with tmSeqCount := tm.counters.tmSeqCount } with
        pus3Ctx := tm.counters.pus3 }, tm.packet)

end TmSenders

/-- The calls that send telemetry, with their arguments; the other work of the main
loop leaves the stores and the event queue in any state, and starts transfers. -/
inductive TmCall (cfg : Config) where
  | dispatch (nowSeconds : UInt32) (tc : List UInt8) (outCap : Nat)
  | hkReport (request : TmRequest) (sid : UInt16) (params : Pus3HkParams)
  | dynamicHkReport (request : TmRequest) (dp : Datapool) (held : HkStructure)
  | eventReport (request : TmRequest) (severity : UInt8) (eventId : UInt16) (aux : List UInt8)
  | fdirDrain (apid : UInt16) (outCap : Nat)
  | largedataPart (request : TmRequest)
  | largedataStart (transactionId : UInt16) (unit : List UInt8)
  | otherWork (stores : RouterStores cfg) (fdir : FdirCtx cfg)

/-- A structure is one that the structure store holds or could hold. -/
def TmCall.Admitted : TmCall cfg → Prop
  | .dynamicHkReport _ _ held => held.paramIds.length ≤ cfg.hkstoreMaxParams
  | .otherWork stores _ => ∀ hkstore, stores.hkstore = some hkstore → hkstore.WellFormed cfg
  | _ => True

/-- The senders a call leaves behind, and the octets it wrote. -/
def tmCall (senders : TmSenders cfg) : TmCall cfg → TmSenders cfg × List UInt8
  | .dispatch nowSeconds tc outCap =>
      let reply := tcRouterDispatch senders.ctx nowSeconds tc outCap
      ({ senders with ctx := reply.ctx }, reply.out)
  | .hkReport request sid params =>
      senders.sendPeriodic (pus3BuildHkReport request senders.periodicCounters sid params)
  | .dynamicHkReport request dp held =>
      senders.sendPeriodic (pus3BuildDynamicHkReport request senders.periodicCounters dp held)
  | .eventReport request severity eventId aux =>
      let (result, counters) :=
        pus5BuildEventReport request senders.ctx.counters severity eventId aux
      (senders.setRouterCounters counters, result.toOption.getD [])
  | .fdirDrain apid outCap =>
      let (result, fdir, counters) := fdirDrain senders.fdir apid senders.ctx.counters outCap
      let sent := match result with
        | .ok (some drained) => drained.report.toOption.getD []
        | _ => []
      ({ senders.setRouterCounters counters with fdir := fdir }, sent)
  | .largedataPart request =>
      let reply := largedataNextPart cfg senders.largedata senders.ctx.counters.tmSeqCount request
      ({ senders.setRouterCounters
          { senders.ctx.counters with tmSeqCount := reply.tmSeqCount } with
        largedata := reply.session }, reply.result.toOption.join.getD [])
  | .largedataStart transactionId unit =>
      let (_, session) := largedataStart cfg senders.largedata transactionId unit
      ({ senders with largedata := session }, [])
  | .otherWork stores fdir =>
      ({ senders with
        ctx :=
          { senders.ctx with
            datapool := stores.datapool
            schedule := stores.schedule
            store := stores.store
            hkstore := stores.hkstore }
        fdir := fdir }, [])

/-! ### The invariant -/

/-- The identifiers fit their fields, and the structure store is in order. -/
structure TmSenders.Ready (senders : TmSenders cfg) : Prop where
  apid : senders.ctx.apid ≤ 0x7FF
  seqCount : senders.ctx.counters.tmSeqCount ≤ 0x3FFF
  hkstore : ∀ hkstore, senders.ctx.hkstore = some hkstore → hkstore.WellFormed cfg

/-- A complete telemetry packet with this sequence count. -/
def Counted (packet : List UInt8) (count : Nat) : Prop :=
  ∃ tm, ReadsAs packet tm ∧ tm.primary.type = ccsdsPacketTypeTm ∧
    tm.primary.seqCount.toNat = count

/-- What a call does to the counters: the packets it sends are numbered on, and one
that sends none leaves every counter alone. -/
def Sends (before after : TmSenders cfg) (sent : List UInt8) : Prop :=
  (∃ packets : List (List UInt8), packets.flatten = sent ∧
      Advances Counted 16384 before.seqCount packets after.seqCount) ∧
    (sent = [] → after.counters = before.counters)

theorem seqCount_lt {count : UInt16} (inRange : count ≤ 0x3FFF) : count.toNat < 16384 := by
  simp only [UInt16.le_iff_toNat_le, UInt16.reduceToNat] at inRange
  omega

theorem TmSenders.Ready.seqCount_lt {senders : TmSenders cfg} (ready : senders.Ready) :
    senders.seqCount < 16384 :=
  FswCore.seqCount_lt ready.seqCount

theorem ReadsAs.ne_nil {packet : List UInt8} {tm : TmPacket} (reads : ReadsAs packet tm) :
    packet ≠ [] := by
  rintro rfl
  have length := reads.sourceLength
  simp only [List.length_nil, ccsdsPrimaryHeaderSize] at length
  omega

/-- Nothing is sent and no counter touched. -/
theorem sends_nothing {before after : TmSenders cfg} (ready : before.Ready)
    (same : after.counters = before.counters) : Sends before after [] := by
  have shared : after.seqCount = before.seqCount :=
    congrArg (fun counters => counters.router.tmSeqCount.toNat) same
  refine ⟨⟨[], rfl, ?_⟩, fun _ => same⟩
  rw [shared]
  exact .none ready.seqCount_lt

/-- One packet, which takes the sequence count. -/
theorem sends_packet {before after : TmSenders cfg} (ready : before.Ready)
    {packet : List UInt8} {tm : TmPacket} {request : TmRequest} {sourceLen : Nat}
    (reads : ReadsAs packet tm)
    (labelled : tm.primary = tmPrimaryOf request before.ctx.counters.tmSeqCount sourceLen)
    (next : after.ctx.counters.tmSeqCount = tmSeqNext before.ctx.counters.tmSeqCount) :
    Sends before after packet := by
  refine ⟨⟨[packet], ?_, ?_⟩, fun nothing => absurd nothing reads.ne_nil⟩
  · rw [List.flatten_singleton]
  · refine .one ready.seqCount_lt ⟨tm, reads, by rw [labelled]; rfl, by rw [labelled]; rfl⟩ ?_
    rw [TmSenders.seqCount, next, tmSeqNext_toNat]
    rfl

/-! ### The router -/

/-- A run of emissions without octets is none. -/
theorem Emits.silent {apid : UInt16} {nowSeconds : UInt32} {before after : PusCounters}
    {emissions : List Emission} {out : List UInt8}
    (emits : Emits apid nowSeconds before emissions out after) (nothing : out = []) :
    after = before := by
  cases emits with
  | nil => rfl
  | cons reads follows => exact absurd (List.append_eq_nil_iff.mp nothing).1 reads.ne_nil

theorem Consecutive.numbered {apid seqCount : UInt16} {packets : List (List UInt8)}
    (consecutive : Consecutive apid seqCount packets) :
    Numbered Counted 16384 seqCount.toNat packets := by
  intro index packet read
  obtain ⟨tm, reads, _, type, _, count, _⟩ := consecutive index packet read
  exact ⟨tm, reads, type, count⟩

/-- A router context ready to serve. -/
theorem TmSenders.Ready.router (limits : cfg.ReportLimits) {senders : TmSenders cfg}
    (ready : senders.Ready) : senders.ctx.Ready where
  limits := limits
  apid := ready.apid
  seqCount := ready.seqCount
  hkParams := fun hkstore wired held member =>
    ((ready.hkstore hkstore wired).bounded held member).params_le

theorem tcRouterDispatch_short (ctx : RouterCtx cfg) (nowSeconds : UInt32) (tc : List UInt8)
    {outCap : Nat} (short : outCap < tcRouterMaxTm) :
    (tcRouterDispatch ctx nowSeconds tc outCap).out = [] ∧
      (tcRouterDispatch ctx nowSeconds tc outCap).ctx = ctx := by
  simp only [tcRouterDispatch, if_pos short, and_self]

/-- A dispatch moves a message counter for a packet of its kind only: no builder that
ends without a packet does. -/
def DispatchCounts (before : PusCounters) (reply : DispatchReply cfg) : Prop :=
  ∃ packets : List (List UInt8), packets.flatten = reply.out ∧
    (∀ kind, reply.ctx.counters.msgCounter kind =
      before.msgCounter kind + UInt8.ofNat (packets.countP (packetOfKind kind))) ∧
    reply.ctx.counters.pus5 = before.pus5

theorem tcRouterDispatch_counts (limits : cfg.ReportLimits) {senders : TmSenders cfg}
    (ready : senders.Ready) (nowSeconds : UInt32) (tc : List UInt8) (outCap : Nat) :
    DispatchCounts senders.ctx.counters (tcRouterDispatch senders.ctx nowSeconds tc outCap) := by
  rcases Nat.lt_or_ge outCap tcRouterMaxTm with short | room
  · obtain ⟨nothing, unchanged⟩ := tcRouterDispatch_short senders.ctx nowSeconds tc short
    refine ⟨[], nothing.symm, fun kind => ?_, by rw [unchanged]⟩
    rw [unchanged, List.countP_nil]
    exact (UInt8.add_zero _).symm
  · obtain ⟨emissions, _, _, _, emits⟩ :=
      tcRouterDispatch_written (ready.router limits) nowSeconds tc room
    obtain ⟨packets, octets, _, _, kinds⟩ := Emits.packets emits ready.seqCount
    refine ⟨packets, octets.symm, fun kind => ?_, Emits.pus5 emits⟩
    rw [Emits.msgCounter emits kind, kinds kind]

/-- The burst of a telecommand. -/
theorem dispatch_sends (limits : cfg.ReportLimits) {senders : TmSenders cfg}
    (ready : senders.Ready) (nowSeconds : UInt32) (tc : List UInt8) (outCap : Nat) :
    let reply := tcRouterDispatch senders.ctx nowSeconds tc outCap
    Sends senders { senders with ctx := reply.ctx } reply.out := by
  intro reply
  rcases Nat.lt_or_ge outCap tcRouterMaxTm with short | room
  · obtain ⟨nothing, unchanged⟩ := tcRouterDispatch_short senders.ctx nowSeconds tc short
    rw [show reply.out = [] from nothing, show reply.ctx = senders.ctx from unchanged]
    exact sends_nothing ready rfl
  · obtain ⟨emissions, _, _, _, emits⟩ :=
      tcRouterDispatch_written (ready.router limits) nowSeconds tc room
    have emits : Emits senders.ctx.apid nowSeconds senders.ctx.counters emissions reply.out
        reply.ctx.counters := emits
    obtain ⟨packets, octets, count, consecutive, _⟩ := emits.packets ready.seqCount
    refine ⟨⟨packets, octets.symm, consecutive.numbered, ?_⟩, fun nothing => ?_⟩
    · rw [count]
      exact emits.seqCount ready.seqCount
    · show TmCounters.mk reply.ctx.counters senders.pus3Ctx senders.largedata.pus13 = _
      rw [emits.silent nothing]
      rfl

theorem dispatch_ready {senders : TmSenders cfg} (ready : senders.Ready)
    (nowSeconds : UInt32) (tc : List UInt8) (outCap : Nat)
    (seqCount : (tcRouterDispatch senders.ctx nowSeconds tc outCap).ctx.counters.tmSeqCount ≤
      0x3FFF) :
    TmSenders.Ready
      { senders with ctx := (tcRouterDispatch senders.ctx nowSeconds tc outCap).ctx } := by
  have keep : UpdatesKeep fun ctx : RouterCtx cfg => ctx.apid = senders.ctx.apid ∧
      ∀ hkstore, ctx.hkstore = some hkstore → hkstore.WellFormed cfg :=
    { counters := fun _ _ kept => kept
      tcAcceptedCount := fun _ _ kept => kept
      tcRejectedCount := fun _ _ kept => kept
      datapool := fun _ _ kept => kept
      schedule := fun _ _ kept => kept
      store := fun _ _ kept => kept
      hkstore := by
        intro ctx hkstore subtype app wired kept
        refine ⟨kept.1, fun after changed => ?_⟩
        obtain rfl := Option.some.inj changed
        exact pus3Execute_wellFormed (kept.2 hkstore wired) subtype app }
  have kept := keep.tcRouterDispatch nowSeconds tc outCap ⟨rfl, ready.hkstore⟩
  exact
    { apid := by
        show (tcRouterDispatch senders.ctx nowSeconds tc outCap).ctx.apid ≤ 0x7FF
        rw [kept.1]
        exact ready.apid
      seqCount := seqCount
      hkstore := kept.2 }

/-! ### The other senders -/

/-- A periodic report, if it is built. -/
theorem sendPeriodic_sends {senders : TmSenders cfg} (ready : senders.Ready)
    {request : TmRequest} {result : Except Pus3Status TmOut}
    (reads : ∀ out, result = .ok out → ∃ sourceLen, (∃ tm, ReadsAs out.packet tm ∧
        tm.primary = tmPrimaryOf request senders.periodicCounters.tmSeqCount sourceLen) ∧
      out.counters = senders.periodicCounters.commit .hkParamReport) :
    Sends senders (senders.sendPeriodic result).1 (senders.sendPeriodic result).2 := by
  cases result with
  | error status => exact sends_nothing ready rfl
  | ok out =>
      obtain ⟨sourceLen, ⟨tm, whole, labelled⟩, committed⟩ := reads out rfl
      apply sends_packet ready whole labelled
      show out.counters.tmSeqCount = _
      rw [committed, PusCounters.tmSeqCount_commit]
      rfl

theorem eventReport_sends {senders : TmSenders cfg} (ready : senders.Ready)
    (request : TmRequest) (severity : UInt8) (eventId : UInt16) (aux : List UInt8) :
    let reported := pus5BuildEventReport request senders.ctx.counters severity eventId aux
    Sends senders (senders.setRouterCounters reported.2) (reported.1.toOption.getD []) := by
  intro reported
  rcases pus5BuildEventReport_cases request senders.ctx.counters severity eventId aux with
    ⟨status, failed⟩ | ⟨packet, built, reads⟩
  · rw [show reported = _ from failed]
    exact sends_nothing ready rfl
  · rw [show reported = _ from built]
    exact sends_packet ready reads rfl rfl

theorem fdirDrain_sends {senders : TmSenders cfg} (ready : senders.Ready) (apid : UInt16)
    (outCap : Nat) :
    let step := tmCall senders (.fdirDrain apid outCap)
    Sends senders step.1 step.2 := by
  simp only [tmCall, fdirDrain]
  split
  · exact sends_nothing ready rfl
  split
  · exact sends_nothing ready rfl
  · exact eventReport_sends ready _ _ _ _

/-- While no transfer runs there is no part. -/
theorem largedataNextPart_idle {session : LargedataSession} (idle : session.state ≠ .active)
    (tmSeqCount : UInt16) (request : TmRequest) :
    largedataNextPart cfg session tmSeqCount request =
      { result := .ok none, session := session, tmSeqCount := tmSeqCount } := if_pos idle

/-- The next part of a transfer: nothing is sent, or one packet, which takes the
sequence count. -/
inductive PartStep (senders : TmSenders cfg) (request : TmRequest) :
    TmSenders cfg × List UInt8 → Prop where
  | nothing (session : LargedataSession) (same : session.pus13 = senders.largedata.pus13) :
      PartStep senders request
        ({ senders.setRouterCounters senders.ctx.counters with largedata := session }, [])
  | part (session : LargedataSession) {packet payload : List UInt8}
      {transactionId partNumber totalParts : UInt16} {msgCounter : UInt8}
      (chunk : payload.length ≤ cfg.pus13PartSize)
      (reads : ReadsAs packet (pus13Packet request senders.ctx.counters.tmSeqCount transactionId
        partNumber totalParts payload msgCounter)) :
      PartStep senders request
        ({ senders.setRouterCounters { senders.ctx.counters with
              tmSeqCount := tmSeqNext senders.ctx.counters.tmSeqCount } with
            largedata := session }, packet)

theorem largedataPart_step (small : cfg.pus13PartSize + 18 < 65536) (senders : TmSenders cfg)
    (request : TmRequest) : PartStep senders request (tmCall senders (.largedataPart request)) := by
  simp only [tmCall, largedataNextPart]
  split
  · exact .nothing _ rfl
  generalize chosen : (if senders.largedata.unit.length - senders.largedata.cursor >
      cfg.pus13PartSize then cfg.pus13PartSize
    else senders.largedata.unit.length - senders.largedata.cursor) = chunk
  have chunkLe : chunk ≤ cfg.pus13PartSize := by
    rw [← chosen]
    split <;> omega
  have taken : (window senders.largedata.unit senders.largedata.cursor chunk).length ≤ chunk :=
    List.length_take_le _ _
  rcases pus13BuildPart_cases cfg senders.largedata.pus13 senders.ctx.counters.tmSeqCount request
    senders.largedata.transactionId senders.largedata.nextPart senders.largedata.totalParts
    (window senders.largedata.unit senders.largedata.cursor chunk) small with
    ⟨status, refused⟩ | ⟨packet, counters, msgCounter, built, _, reads⟩
  · rw [refused]
    cases status <;> exact .nothing _ rfl
  · rw [built]
    exact .part _ (Nat.le_trans taken chunkLe) reads

theorem largedataPart_sends (small : cfg.pus13PartSize + 18 < 65536) {senders : TmSenders cfg}
    (ready : senders.Ready) (request : TmRequest) :
    let step := tmCall senders (.largedataPart request)
    Sends senders step.1 step.2 := by
  have stepped := largedataPart_step small senders request
  generalize tmCall senders (.largedataPart request) = step at stepped ⊢
  cases stepped with
  | nothing session same => exact sends_nothing ready (congrArg (TmCounters.mk _ _) same)
  | part session chunk reads => exact sends_packet ready reads rfl rfl

/-! ### Every run -/

/-- The sequence count stays in its field. -/
theorem Sends.seqCount_le {before after : TmSenders cfg} {sent : List UInt8}
    (sends : Sends before after sent) : after.ctx.counters.tmSeqCount ≤ 0x3FFF := by
  obtain ⟨⟨packets, _, advances⟩, _⟩ := sends
  have counted := advances.counted
  simp only [TmSenders.seqCount] at counted
  simp only [UInt16.le_iff_toNat_le, UInt16.reduceToNat]
  omega

/-- Calls that leave the address and the structure store alone. -/
theorem TmSenders.Ready.after {before after : TmSenders cfg} (ready : before.Ready)
    {sent : List UInt8} (sends : Sends before after sent)
    (apid : after.ctx.apid = before.ctx.apid) (hkstore : after.ctx.hkstore = before.ctx.hkstore) :
    after.Ready where
  apid := by rw [apid]; exact ready.apid
  seqCount := sends.seqCount_le
  hkstore := by rw [hkstore]; exact ready.hkstore

theorem sendPeriodic_ctx (senders : TmSenders cfg) (result : Except Pus3Status TmOut) :
    (senders.sendPeriodic result).1.ctx.apid = senders.ctx.apid ∧
      (senders.sendPeriodic result).1.ctx.hkstore = senders.ctx.hkstore := by
  cases result <;> exact ⟨rfl, rfl⟩

/-- One call. -/
theorem tmCall_sends (limits : cfg.ReportLimits) (partSize : cfg.pus13PartSize + 18 < 65536)
    {senders : TmSenders cfg} (ready : senders.Ready) {call : TmCall cfg}
    (admitted : call.Admitted) :
    (tmCall senders call).1.Ready ∧
      Sends senders (tmCall senders call).1 (tmCall senders call).2 := by
  cases call with
  | dispatch nowSeconds tc outCap =>
      have sends := dispatch_sends limits ready nowSeconds tc outCap
      exact ⟨dispatch_ready ready nowSeconds tc outCap sends.seqCount_le, sends⟩
  | hkReport request sid params =>
      have sends := sendPeriodic_sends ready
        fun out (built : pus3BuildHkReport request _ sid params = .ok out) =>
          pus3BuildHkReport_reads built
      have kept := sendPeriodic_ctx senders
        (pus3BuildHkReport request senders.periodicCounters sid params)
      exact ⟨ready.after sends kept.1 kept.2, sends⟩
  | dynamicHkReport request dp held =>
      have small : 14 + 4 * held.paramIds.length < 65536 := by
        have params : held.paramIds.length ≤ cfg.hkstoreMaxParams := admitted
        have limit := limits.hkstoreMaxParams
        omega
      have sends := sendPeriodic_sends ready
        fun out (built : pus3BuildDynamicHkReport request _ dp held = .ok out) =>
          pus3BuildDynamicHkReport_reads small built
      have kept := sendPeriodic_ctx senders
        (pus3BuildDynamicHkReport request senders.periodicCounters dp held)
      exact ⟨ready.after sends kept.1 kept.2, sends⟩
  | eventReport request severity eventId aux =>
      have sends := eventReport_sends ready request severity eventId aux
      exact ⟨ready.after sends rfl rfl, sends⟩
  | fdirDrain apid outCap =>
      have sends := fdirDrain_sends ready apid outCap
      exact ⟨ready.after sends rfl rfl, sends⟩
  | largedataPart request =>
      have sends := largedataPart_sends partSize ready request
      exact ⟨ready.after sends rfl rfl, sends⟩
  | largedataStart transactionId unit =>
      have counters : (largedataStart cfg senders.largedata transactionId unit).2.pus13 =
          senders.largedata.pus13 := by
        simp only [largedataStart]
        split_ifs <;> rfl
      have sends : Sends senders (tmCall senders (.largedataStart transactionId unit)).1 [] :=
        sends_nothing ready (congrArg (fun parts : Pus13Ctx =>
          TmCounters.mk senders.ctx.counters senders.pus3Ctx parts) counters)
      exact ⟨ready.after sends rfl rfl, sends⟩
  | otherWork stores fdir =>
      have sends : Sends senders (tmCall senders (.otherWork stores fdir)).1 [] :=
        sends_nothing ready rfl
      exact ⟨⟨ready.apid, ready.seqCount, admitted⟩, sends⟩

/-- However the calls follow each other: the packets they emit are numbered without a
gap, the count stays in its field, and the next call moves no counter but for a packet
it sends. -/
theorem tmRun_gapFree (cfg : Config) (limits : cfg.ReportLimits)
    (partSize : cfg.pus13PartSize + 18 < 65536) (senders : TmSenders cfg)
    (ready : senders.Ready) (calls : List (TmCall cfg)) (admitted : ∀ call ∈ calls, call.Admitted) :
    let run := outputs tmCall senders calls
    (∃ bursts : List (List (List UInt8)), bursts.map List.flatten = run.2 ∧
        Numbered Counted 16384 senders.seqCount bursts.flatten ∧
        run.1.seqCount = (senders.seqCount + bursts.flatten.length) % 16384) ∧
      run.1.ctx.counters.tmSeqCount ≤ 0x3FFF ∧
      (∀ call : TmCall cfg, call.Admitted → (tmCall run.1 call).2 = [] →
        (tmCall run.1 call).1.counters = run.1.counters) ∧
      ∀ nowSeconds tc outCap, DispatchCounts run.1.ctx.counters
        (tcRouterDispatch run.1.ctx nowSeconds tc outCap) := by
  intro run
  have small : ∀ state : TmSenders cfg, state.Ready → state.seqCount < 16384 :=
    fun _ => TmSenders.Ready.seqCount_lt
  have each : ∀ (state : TmSenders cfg) (call : TmCall cfg), state.Ready → call.Admitted →
      (tmCall state call).1.Ready ∧ ∃ packets : List (List UInt8),
        packets.flatten = (tmCall state call).2 ∧
          Advances Counted 16384 state.seqCount packets (tmCall state call).1.seqCount := by
    intro state call ready allowed
    have sends := tmCall_sends limits partSize ready allowed
    exact ⟨sends.1, sends.2.1⟩
  obtain ⟨final, bursts, octets, advances⟩ := outputs_advances small each ready calls admitted
  refine ⟨⟨bursts, octets, advances.numbered, advances.counted⟩, final.seqCount, ?_,
    tcRouterDispatch_counts limits final⟩
  intro call allowed nothing
  exact (tmCall_sends limits partSize final allowed).2.2 nothing

/-- A context before the last sequence count, and an idle session. -/
def pollSenders : TmSenders defaultConfig where
  ctx := pollCtx
  pus3Ctx := 0
  fdir := fdirZero defaultConfig
  largedata := largedataInit

/-- Five packets of three senders, a report that did not fit, and a drain without an
event. -/
theorem tmRun_gapFree_wrap :
    let request (outCap : Nat) : TmRequest :=
      { apid := 0x2A, nowSeconds := 7, destinationId := 0, outCap := outCap }
    let params : Pus3HkParams :=
      { pus1MsgCounter := Vector.replicate 4 0
        pus5MsgCounter := Vector.replicate 4 0
        pus17TmMsgCounter := 0
        tcAcceptedCount := 0
        tcRejectedCount := 0
        rxRingOverflowDrops := 0 }
    let run := outputs tmCall pollSenders
      [.eventReport (request 128) pus5SevInfo pus5EvtFswBoot [], .dispatch 7 pollTc 128,
        .hkReport (request 46) pus3SidFrameworkDiag params,
        .largedataStart 9 (List.replicate 100 0xA5), .largedataPart (request 128),
        .fdirDrain 0x2A 128]
    run.1.seqCount = 4 ∧ ∃ bursts : List (List (List UInt8)),
      bursts.map List.flatten = run.2 ∧ Numbered Counted 16384 0x3FFF bursts.flatten := by
  intro request params run
  have ready : pollSenders.Ready :=
    { apid := by decide
      seqCount := by decide
      hkstore := by
        intro hkstore wired
        obtain rfl := Option.some.inj wired
        exact hkstoreRun_wellFormed defaultConfig _ }
  obtain ⟨⟨bursts, octets, numbered, _⟩, _⟩ := tmRun_gapFree defaultConfig
    Config.default_kconfigAdmitted.reportLimits (by decide) pollSenders ready
    [.eventReport (request 128) pus5SevInfo pus5EvtFswBoot [], .dispatch 7 pollTc 128,
      .hkReport (request 46) pus3SidFrameworkDiag params,
      .largedataStart 9 (List.replicate 100 0xA5), .largedataPart (request 128),
      .fdirDrain 0x2A 128] (by simp only [List.forall_mem_cons, TmCall.Admitted]; simp)
  exact ⟨by decide +kernel, bursts, octets, numbered⟩

end FswCore
