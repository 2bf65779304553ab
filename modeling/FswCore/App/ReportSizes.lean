import FswCore.App.Buffers
import FswCore.App.Recording
import FswCore.Pus.ReadOnly

/-!
Contract: how large the packets are that the main loop of
`samples/tc_uart/src/main.c` transmits live.

Owns:
- `ServiceSizes` and `MainState.Sizes`, sizes no packet is larger than, by the limits
  of the services, the parameters there are and whether a large data transfer runs;
- every handler, every dispatch and every tick keeps to them, and keeps its premises.

Does not own: which limits the packet store is configured with.
-/

namespace FswCore

open Library Library.BigEndian

variable {cfg : Config}

/-! ### Services -/

/-- A size for the reports of the services: that of the fixed reports and of a full
parameter report, then what the limits allow. Without parameters a structure has
no values to report. -/
structure ServiceSizes (cfg : Config) (datapool : Option Datapool) (size : Nat) : Prop where
  limits : cfg.ReportLimits
  floor : 67 ≤ size
  router : size ≤ tcRouterMaxReport
  summary : 19 + 8 * cfg.pus11MaxPerTc ≤ size
  structures : 20 + 4 * cfg.hkstoreMaxParams ≤ size ∨
    ∀ dp, datapool = some dp → dp.params = []

theorem ServiceSizes.representable {datapool : Option Datapool} {size : Nat}
    (sizes : ServiceSizes cfg datapool size) : size < 65536 :=
  Nat.lt_of_le_of_lt sizes.router (by decide)

theorem routeReturn_length {status : Type} [DecidableEq status]
    (unknownSubtype : status → Bool) {bufTooSmall : status} (ctx : RouterCtx cfg)
    {request : TmRequest} {counters : PusCounters} {kind : TmKind} {size : Nat}
    {result : Except status (Option TmOut)}
    (within : ReturnsWithin result bufTooSmall request counters kind size) :
    (routeReturn unknownSubtype bufTooSmall ctx result).out.length ≤ size := by
  cases result with
  | error code => exact Nat.zero_le _
  | ok report =>
      cases report with
      | none => exact Nat.zero_le _
      | some tm =>
          obtain ⟨source, reports⟩ := within
          exact reports.length

/-- The values of a structure's report fit, or there are none. -/
theorem structureValues_fit {datapool : Option Datapool} {size : Nat}
    (sizes : ServiceSizes cfg datapool size) {dp : Datapool} (wired : datapool = some dp)
    {held : HkStructure} (bounded : held.paramIds.length ≤ cfg.hkstoreMaxParams)
    {values : List DpValue} (resolved : pus3ResolveParams dp held.paramIds = some values) :
    20 + 4 * held.paramIds.length ≤ size := by
  rcases sizes.structures with fits | noParams
  · omega
  · have empty := noParams dp wired
    have floor := sizes.floor
    cases ids : held.paramIds with
    | nil =>
        rw [List.length_nil]
        omega
    | cons id rest =>
        rw [ids, pus3ResolveParams, datapoolGet, datapoolFind, empty] at resolved
        contradiction

/-- A structure's report within the size, or none. -/
theorem pus3BuildDynamicHkReport_sized {datapool : Option Datapool} {size : Nat}
    (sizes : ServiceSizes cfg datapool size) {dp : Datapool} (wired : datapool = some dp)
    {held : HkStructure} (bounded : held.paramIds.length ≤ cfg.hkstoreMaxParams)
    {request : TmRequest} {counters : PusCounters} (serves : request.Serves counters size) :
    ReturnsWithin ((pus3BuildDynamicHkReport request counters dp held).map some) .errBufTooSmall
      request counters .hkParamReport size := by
  cases resolved : pus3ResolveParams dp held.paramIds with
  | none => simp [pus3BuildDynamicHkReport, resolved, Except.map, ReturnsWithin]
  | some values =>
      exact pus3BuildDynamicHkReport_within dp serves
        (structureValues_fit sizes wired bounded resolved) sizes.representable

section Handlers

variable {ctx : RouterCtx cfg} {size : Nat} (sizes : ServiceSizes cfg ctx.datapool size)
  (ready : ctx.Ready) (v : TcAcceptResult) (nowSeconds : UInt32) (tc : List UInt8) {outCap : Nat}
  (room : tcRouterMaxReport ≤ outCap)

include sizes ready room

theorem routerPus3Poll_length (app : List UInt8) :
    (routerPus3Poll ctx v nowSeconds app outCap).out.length ≤ size := by
  have floor := sizes.floor
  have serves := ready.serves nowSeconds v.sourceId sizes.router room
  unfold routerPus3Poll routerPus3PollFramework routerPus3PollDynamic
  split
  · exact Nat.zero_le _
  simp only
  split
  · have fixed : pus3HkTmPacketSize ≤ tcRouterMaxReport := by decide
    have within : pus3HkTmPacketSize ≤ size := by
      have value : pus3HkTmPacketSize = 47 := rfl
      omega
    apply Nat.le_trans _ within
    exact routeReturn_length _ ctx (pus3BuildHkReport_within _
      (ready.serves nowSeconds v.sourceId fixed room))
  cases wired : ctx.hkstore with
  | none => exact Nat.zero_le _
  | some hkstore =>
      simp only
      cases found : hkstoreFind hkstore (be16At app 0) with
      | none => exact Nat.zero_le _
      | some held =>
          simp only
          cases pool : ctx.datapool with
          | none => exact Nat.zero_le _
          | some dp =>
              rw [hkstoreFind_eq] at found
              have bounded := ready.hkParams hkstore wired held (List.mem_of_find?_eq_some found)
              exact routeReturn_length _ ctx
                (pus3BuildDynamicHkReport_sized sizes pool bounded serves)

theorem routerPus3_length : (routerPus3 ctx v nowSeconds tc outCap).out.length ≤ size := by
  simp only [routerPus3]
  split_ifs
  · exact routerPus3Poll_length sizes ready v nowSeconds room _
  · unfold routerPus3Manage
    split <;> exact Nat.zero_le _
  · exact Nat.zero_le _

theorem routerPus20_length : (routerPus20 ctx v nowSeconds tc outCap).out.length ≤ size := by
  have fits : 19 + 6 * cfg.pus20MaxParamsPerTc ≤ size := by
    have limit := sizes.limits.pus20MaxParamsPerTc
    have floor := sizes.floor
    omega
  unfold routerPus20
  split
  · exact Nat.zero_le _
  · exact routeReturn_length _ _ (pus20Execute_within _ v.serviceSubtype (routerAppData tc)
      (ready.serves nowSeconds v.sourceId sizes.router room) fits sizes.representable)

theorem routerPus11_length : (routerPus11 ctx v nowSeconds tc outCap).out.length ≤ size := by
  unfold routerPus11
  split
  · exact Nat.zero_le _
  · exact routeReturn_length _ _ (pus11Execute_within _ v.serviceSubtype (routerAppData tc)
      (ready.serves nowSeconds v.sourceId sizes.router room) sizes.summary sizes.representable)

theorem routerPus15_length : (routerPus15 ctx v nowSeconds tc outCap).out.length ≤ size := by
  have fixed : pus15StoreReportPacketSize ≤ 67 := by decide
  unfold routerPus15
  split
  · exact Nat.zero_le _
  · apply Nat.le_trans _ (Nat.le_trans fixed sizes.floor)
    exact routeReturn_length _ _ (pus15Execute_within _ v.serviceSubtype (routerAppData tc)
      (ready.serves nowSeconds v.sourceId (by decide) room))

theorem routerPus17_length : (routerPus17 ctx v nowSeconds tc outCap).out.length ≤ size := by
  have fixed : pus17TmPacketSize ≤ 67 := by decide
  apply Nat.le_trans _ (Nat.le_trans fixed sizes.floor)
  exact routeReturn_length _ _ (pus17Execute_within
    (ready.serves nowSeconds v.sourceId (by decide) room) v.serviceSubtype)

theorem routerRoute_length : (routerRoute ctx v nowSeconds tc outCap).out.length ≤ size := by
  rcases routerRoute_cases ctx v nowSeconds tc outCap with unrouted | ⟨entry, member, _, routed⟩
  · rw [unrouted]
    exact Nat.zero_le _
  · rw [routed]
    simp only [routerDispatchTable, List.mem_cons, List.not_mem_nil, or_false] at member
    rcases member with rfl | rfl | rfl | rfl | rfl
    · exact routerPus17_length sizes ready v nowSeconds tc room
    · exact routerPus3_length sizes ready v nowSeconds tc room
    · exact routerPus20_length sizes ready v nowSeconds tc room
    · exact routerPus11_length sizes ready v nowSeconds tc room
    · exact routerPus15_length sizes ready v nowSeconds tc room

end Handlers

/-! ### Dispatch -/

/-- Complete packets, one behind the other, none larger than `size`. -/
def SentWithin (size : Nat) (sent : List UInt8) : Prop :=
  ∃ packets : List (List UInt8), packets.flatten = sent ∧
    ∀ packet ∈ packets, Delimited packet ∧ packet.length ≤ size

theorem sentWithin_nil (size : Nat) : SentWithin size [] :=
  ⟨[], rfl, fun _ member => absurd member List.not_mem_nil⟩

theorem SentWithin.mono {small large : Nat} {sent : List UInt8} (within : SentWithin small sent)
    (le : small ≤ large) : SentWithin large sent := by
  obtain ⟨packets, octets, each⟩ := within
  refine ⟨packets, octets, fun packet member => ?_⟩
  exact ⟨(each packet member).1, Nat.le_trans (each packet member).2 le⟩

theorem sentWithin_packet {size : Nat} {packet : List UInt8} {tm : TmPacket}
    (reads : ReadsAs packet tm) (fits : packet.length ≤ size) : SentWithin size packet := by
  refine ⟨[packet], List.flatten_singleton, ?_⟩
  intro other member
  rw [List.mem_singleton.mp member]
  exact ⟨reads.delimited, fits⟩

/-- A single packet is within a size as a burst exactly as it is on its own. -/
theorem SentWithin.single {size : Nat} {packet : List UInt8} (delimited : Delimited packet)
    (within : SentWithin size packet) : packet.length ≤ size := by
  obtain ⟨packets, octets, each⟩ := within
  have split := burstPackets_delimited (fun other member => (each other member).1)
    (Nat.le_refl packets.flatten.length)
  have whole : burstPackets packet.length [packet].flatten = [packet] := by
    apply burstPackets_delimited
    · intro other member
      rw [List.mem_singleton.mp member]
      exact delimited
    · rw [List.flatten_singleton]
  rw [List.flatten_singleton] at whole
  rw [octets, whole] at split
  apply (each packet _).2
  rw [← split]
  exact List.mem_singleton_self packet

/-- A string of emissions is a burst; each packet is its source data with the headers
and the checksum. -/
theorem Emits.sentWithin {apid : UInt16} {nowSeconds : UInt32} {before after : PusCounters}
    {emissions : List Emission} {out : List UInt8} {size : Nat}
    (emits : Emits apid nowSeconds before emissions out after)
    (fit : ∀ emission ∈ emissions, 18 + emission.source.length ≤ size) :
    SentWithin size out := by
  induction emits with
  | nil counters => exact sentWithin_nil size
  | @cons _ _ emission rest packet _ reads _ inductionHypothesis =>
      obtain ⟨packets, octets, each⟩ := inductionHypothesis fun other member =>
        fit other (List.mem_cons_of_mem _ member)
      have length := reads.sourceLength
      rw [Emission.tm_source, ccsdsPrimaryHeaderSize, pusTmSecondaryHeaderSize] at length
      have source := fit emission List.mem_cons_self
      refine ⟨packet :: packets, ?_, ?_⟩
      · rw [List.flatten_cons, octets]
      · intro other member
        rcases List.mem_cons.mp member with rfl | later
        · exact ⟨reads.delimited, by omega⟩
        · exact each other later

/-- A verification report quotes four octets, and a failure code. -/
theorem verificationReport_source_le (tc : List UInt8) (kindSuccess kindFailure : TmKind)
    (destinationId : UInt16) (fc : Pus1FailureCode) :
    (verificationReport tc kindSuccess kindFailure destinationId fc).source.length ≤ 5 := by
  simp only [verificationReport, List.length_append, List.length_take]
  split
  · rw [List.length_nil]
    omega
  · rw [List.length_singleton]
    omega

theorem acceptanceReports_source_le {tc : List UInt8} {v : TcAcceptResult} {emission : Emission}
    (member : emission ∈ acceptanceReports tc v) : emission.source.length ≤ 5 := by
  unfold acceptanceReports at member
  split at member
  · rw [List.mem_singleton.mp member]
    exact verificationReport_source_le ..
  · exact absurd member List.not_mem_nil

theorem completionReports_source_le {tc : List UInt8} {v : TcAcceptResult}
    {execFc : Pus1FailureCode} {emission : Emission}
    (member : emission ∈ completionReports tc v execFc) : emission.source.length ≤ 5 := by
  unfold completionReports at member
  split at member
  · rw [List.mem_singleton.mp member]
    exact verificationReport_source_le ..
  · exact absurd member List.not_mem_nil

theorem RouterCtx.datapool_of_stores {left right : RouterCtx cfg}
    (same : left.stores = right.stores) : left.datapool = right.datapool :=
  congrArg RouterStores.datapool same

/-- A burst of the router. -/
theorem tcRouterDispatch_sentWithin {ctx : RouterCtx cfg} {size : Nat}
    (sizes : ServiceSizes cfg ctx.datapool size) (ready : ctx.Ready) (nowSeconds : UInt32)
    (tc : List UInt8) {outCap : Nat} (room : tcRouterMaxTm ≤ outCap) :
    SentWithin size (tcRouterDispatch ctx nowSeconds tc outCap).out := by
  have floor := sizes.floor
  have verdict (addressed : ¬(tcAccept tc ctx.apid).addressed = false) :
      Verdict tc (tcAccept tc ctx.apid) := tcAccept_verdict (Bool.not_eq_false _ ▸ addressed)
  simp only [tcRouterDispatch, if_neg (Nat.not_lt.mpr room)]
  generalize tcAccept tc ctx.apid = v at verdict ⊢
  split_ifs with ignored wrongLength failed
  · exact sentWithin_nil size
  · have after := routerAcceptance_written (ready.count v).addressable v nowSeconds
      (verdict ignored).header 0 room
    apply after.emits.sentWithin
    intro emission member
    rw [List.mem_singleton.mp member]
    have source := verificationReport_source_le tc .acceptanceSuccess .acceptanceFailure 0 v.fc
    rw [acceptanceReport]
    omega
  · have after := routerAcceptanceRequested_written (ready.count v).addressable v nowSeconds
      (verdict ignored).header room
    apply after.emits.sentWithin
    intro emission member
    have source := acceptanceReports_source_le member
    omega
  · have before := routerAcceptanceRequested_written (ready.count v).addressable v nowSeconds
      (verdict ignored).header room
    rw [if_pos (not_not.mp failed)] at before
    have stores := routerAcceptanceRequested_stores (routerCount ctx v) v nowSeconds tc outCap
    have length := before.length
    obtain ⟨routed, service, routes, _, _, sized, after⟩ :=
      routerAccepted_written (v := v) (ready.count v) (verdict ignored).header room before stores
    apply after.emits.sentWithin
    have handler : routed.out.length ≤ size := by
      rw [← Option.some.inj routes]
      apply routerRoute_length
      · rw [RouterCtx.datapool_of_stores (stores.trans (routerCount_stores ctx v))]
        exact sizes
      · exact (ready.count v).of_stores before.identity.apid
          (before.emits.seqCount_le (ready.count v).seqCount) stores
      · simp only [tcRouterMaxReport, tcRouterMaxTm] at room ⊢
        omega
    intro emission member
    rcases List.mem_append.mp member with first | last
    · rcases List.mem_append.mp first with acceptance | own
      · have source := acceptanceReports_source_le acceptance
        omega
      · exact Nat.le_trans (sized emission own) handler
    · have source := completionReports_source_le last
      omega

/-! ### The parameters there are -/

/-- A pool keeps the parameters it has; values may change. -/
def PoolKept (before after : Option Datapool) : Prop :=
  ∀ dp, after = some dp →
    ∃ old, before = some old ∧ shapesOf dp.params = shapesOf old.params

theorem poolKept_of_eq {before after : Option Datapool} (same : after = before) :
    PoolKept before after := by
  intro dp wired
  exact ⟨dp, same.symm.trans wired, rfl⟩

theorem ServiceSizes.kept {before after : Option Datapool} {size : Nat}
    (sizes : ServiceSizes cfg before size) (kept : PoolKept before after) :
    ServiceSizes cfg after size where
  limits := sizes.limits
  floor := sizes.floor
  router := sizes.router
  summary := sizes.summary
  structures := by
    rcases sizes.structures with fits | noParams
    · exact .inl fits
    · refine .inr fun dp wired => ?_
      obtain ⟨old, held, shapes⟩ := kept dp wired
      rw [noParams old held] at shapes
      exact List.map_eq_nil_iff.mp shapes

theorem pus20Execute_shapes (request : TmRequest) (counters : PusCounters) (dp : Datapool)
    (serviceSubtype : UInt8) (app : List UInt8) :
    shapesOf (pus20Execute cfg request counters dp serviceSubtype app).2.params =
      shapesOf dp.params := by
  simp only [pus20Execute]
  split_ifs
  · rfl
  · exact pus20Set_shapes cfg dp app
  · rfl

theorem routerRoute_pool (ctx : RouterCtx cfg) (v : TcAcceptResult) (nowSeconds : UInt32)
    (tc : List UInt8) (outCap : Nat) :
    PoolKept ctx.datapool (routerRoute ctx v nowSeconds tc outCap).ctx.datapool := by
  have pool {after : RouterCtx cfg} (stores : after.stores = ctx.stores) :
      PoolKept ctx.datapool after.datapool :=
    poolKept_of_eq (RouterCtx.datapool_of_stores stores)
  rcases routerRoute_cases ctx v nowSeconds tc outCap with unrouted | ⟨entry, member, _, routed⟩
  · rw [unrouted]
    exact poolKept_of_eq rfl
  rw [routed]
  simp only [routerDispatchTable, List.mem_cons, List.not_mem_nil, or_false] at member
  rcases member with rfl | rfl | rfl | rfl | rfl
  · exact pool (routerPus17_stores ctx v nowSeconds tc outCap)
  · simp only [routerPus3]
    split_ifs
    · exact pool (routerPus3Poll_stores ctx v nowSeconds _ outCap)
    · unfold routerPus3Manage
      split <;> exact poolKept_of_eq rfl
    · exact poolKept_of_eq rfl
  · simp only [routerPus20]
    split
    · exact poolKept_of_eq rfl
    · rename_i dp wired
      rw [RouterCtx.datapool_of_stores (routeReturn_stores ..)]
      intro after changed
      rw [← Option.some.inj changed]
      exact ⟨dp, wired, pus20Execute_shapes _ _ dp _ _⟩
  · simp only [routerPus11]
    split
    · exact poolKept_of_eq rfl
    · rw [RouterCtx.datapool_of_stores (routeReturn_stores ..)]
      exact poolKept_of_eq rfl
  · simp only [routerPus15]
    split
    · exact poolKept_of_eq rfl
    · rw [RouterCtx.datapool_of_stores (routeReturn_stores ..)]
      exact poolKept_of_eq rfl

theorem tcRouterDispatch_pool (ctx : RouterCtx cfg) (nowSeconds : UInt32) (tc : List UInt8)
    (outCap : Nat) :
    PoolKept ctx.datapool (tcRouterDispatch ctx nowSeconds tc outCap).ctx.datapool := by
  have pool {after : RouterCtx cfg} (stores : after.stores = ctx.stores) :
      PoolKept ctx.datapool after.datapool :=
    poolKept_of_eq (RouterCtx.datapool_of_stores stores)
  simp only [tcRouterDispatch]
  split_ifs
  · exact poolKept_of_eq rfl
  · exact poolKept_of_eq rfl
  · exact pool (by simp [routerRejected])
  · exact pool (by simp [routerRejected])
  · generalize tcAccept tc ctx.apid = v
    have before := RouterCtx.datapool_of_stores ((routerAcceptanceRequested_stores
      (routerCount ctx v) v nowSeconds tc outCap).trans (routerCount_stores ctx v))
    generalize routerAcceptanceRequested (routerCount ctx v) v nowSeconds tc outCap = written
      at before
    have routed := routerRoute_pool written.ctx v nowSeconds tc (outCap - written.out.length)
    rw [before] at routed
    simp only [routerAccepted]
    split
    · rw [RouterCtx.datapool_of_stores (RouterOutput.verify_stores ..)]
      exact routed
    · exact routed

/-! ### Ticks -/

theorem pus5BuildEventReport_length {request : TmRequest} {counters : PusCounters}
    {severity : UInt8} {eventId : UInt16} {aux packet : List UInt8}
    (built : (pus5BuildEventReport request counters severity eventId aux).1 = .ok packet) :
    (∃ tm, ReadsAs packet tm) ∧ packet.length ≤ pus5TmMaxPacketSize := by
  have auxFits : aux.length ≤ pus5AuxMaxLen := by
    rw [pus5BuildEventReport] at built
    split at built
    · contradiction
    split at built
    · contradiction
    · rename_i fits
      exact Nat.le_of_not_lt fits
  rcases pus5BuildEventReport_cases request counters severity eventId aux with
    ⟨status, failed⟩ | ⟨other, result, reads⟩
  · rw [failed] at built
    contradiction
  · rw [result] at built
    obtain rfl := Except.ok.inj built
    refine ⟨⟨_, reads⟩, ?_⟩
    have length := reads.sourceLength
    rw [pus5Packet, List.length_append, put16_length, ccsdsPrimaryHeaderSize,
      pusTmSecondaryHeaderSize] at length
    rw [pus5AuxMaxLen] at auxFits
    rw [pus5TmMaxPacketSize]
    omega

/-- The call of a tick, not a dispatch: one packet, or nothing, and the pool as it
was. -/
structure SendsOne (size : Nat) (senders : TmSenders cfg) (call : TmCall cfg) : Prop where
  sent : SentWithin size (tmCall senders call).2
  pool : (tmCall senders call).1.ctx.datapool = senders.ctx.datapool
  session : senders.largedata.state ≠ .active → (tmCall senders call).1.largedata.state ≠ .active

theorem sendPeriodic_sendsOne {size : Nat} {senders : TmSenders cfg}
    {result : Except Pus3Status TmOut} {request : TmRequest}
    (within : ReturnsWithin (result.map some) .errBufTooSmall request senders.periodicCounters
      .hkParamReport size) :
    SentWithin size (senders.sendPeriodic result).2 ∧
      (senders.sendPeriodic result).1.ctx.datapool = senders.ctx.datapool ∧
      (senders.sendPeriodic result).1.largedata = senders.largedata := by
  cases result with
  | error status => exact ⟨sentWithin_nil size, rfl, rfl⟩
  | ok out =>
      obtain ⟨source, reports⟩ := within
      exact ⟨sentWithin_packet reports.reads reports.length, rfl, rfl⟩

theorem eventReport_sentWithin {size : Nat} (floor : pus5TmMaxPacketSize ≤ size)
    (request : TmRequest) (counters : PusCounters) (severity : UInt8) (eventId : UInt16)
    (aux : List UInt8) :
    SentWithin size
      ((pus5BuildEventReport request counters severity eventId aux).1.toOption.getD []) := by
  generalize result : (pus5BuildEventReport request counters severity eventId aux).1 = built
  cases built with
  | error status => exact sentWithin_nil size
  | ok packet =>
      obtain ⟨⟨tm, reads⟩, length⟩ := pus5BuildEventReport_length result
      exact sentWithin_packet reads (Nat.le_trans length floor)

theorem eventReport_sendsOne {size : Nat} (floor : pus5TmMaxPacketSize ≤ size)
    (senders : TmSenders cfg) (request : TmRequest) (severity : UInt8) (eventId : UInt16)
    (aux : List UInt8) : SendsOne size senders (.eventReport request severity eventId aux) where
  sent := eventReport_sentWithin floor request _ severity eventId aux
  pool := rfl
  session := id

theorem fdirDrain_sendsOne {size : Nat} (floor : pus5TmMaxPacketSize ≤ size)
    (senders : TmSenders cfg) (apid : UInt16) (outCap : Nat) :
    SendsOne size senders (.fdirDrain apid outCap) where
  sent := by
    simp only [tmCall, fdirDrain]
    by_cases noRoom : outCap < pus5TmMaxPacketSize
    · simp only [if_pos noRoom]
      exact sentWithin_nil size
    · simp only [if_neg noRoom]
      generalize eventFifoPop senders.fdir.fifo = popped
      obtain ⟨event, fifo⟩ := popped
      cases event with
      | none => exact sentWithin_nil size
      | some event => exact eventReport_sentWithin floor _ _ _ _ _
  pool := rfl
  session := id

/-- A part, of the largest size at most; none while no transfer runs. -/
theorem largedataPart_sendsOne {size : Nat} (partSize : cfg.pus13PartSize + 18 < 65536)
    {senders : TmSenders cfg}
    (parts : 24 + cfg.pus13PartSize ≤ size ∨ senders.largedata.state ≠ .active)
    (request : TmRequest) : SendsOne size senders (.largedataPart request) := by
  by_cases idle : senders.largedata.state ≠ .active
  · constructor
    · simp only [tmCall, largedataNextPart_idle idle]
      exact sentWithin_nil size
    · rfl
    · intro _
      simp only [tmCall, largedataNextPart_idle idle]
      exact idle
  have fits := parts.resolve_right idle
  refine ⟨?_, rfl, fun other => absurd other idle⟩
  have stepped := largedataPart_step partSize senders request
  generalize tmCall senders (.largedataPart request) = step at stepped ⊢
  cases stepped with
  | nothing session same => exact sentWithin_nil size
  | @part session packet payload _ _ _ _ chunk reads =>
      have length := reads.sourceLength
      rw [pus13Packet, pus13Source_length, pus13PartHeaderSize, ccsdsPrimaryHeaderSize,
        pusTmSecondaryHeaderSize] at length
      have fitting : packet.length ≤ size := by omega
      exact sentWithin_packet reads fitting

/-- A state whose reports keep to a size: that of the services, and that of the parts
while a transfer runs. -/
structure MainState.Sizes (service size : Nat) (state : MainState cfg) : Prop where
  ready : state.senders.Ready
  services : ServiceSizes cfg state.loop.ctx.datapool service
  service_le : service ≤ size
  partSize : cfg.pus13PartSize + 18 < 65536
  parts : 24 + cfg.pus13PartSize ≤ size ∨ state.largedata.state ≠ .active

/-- What a tick sends, and what it leaves of the premises. -/
structure TickWithin (size : Nat) (state : MainState cfg) (step : MainState cfg × LoopOutput) :
    Prop where
  sent : SentWithin size step.2.sent
  pool : PoolKept state.loop.ctx.datapool step.1.loop.ctx.datapool
  session : state.largedata.state ≠ .active → step.1.largedata.state ≠ .active

theorem quiet_within (size : Nat) {state after : MainState cfg}
    (pool : after.loop.ctx.datapool = state.loop.ctx.datapool)
    (session : after.largedata = state.largedata) : TickWithin size state after.quiet where
  sent := sentWithin_nil size
  pool := poolKept_of_eq pool
  session := fun idle active => idle (by rw [← session]; exact active)

theorem send_within {size : Nat} {state : MainState cfg} (nowSeconds : UInt32)
    {call : TmCall cfg} (one : SendsOne size state.senders call) :
    TickWithin size state (state.send nowSeconds call) := by
  obtain ⟨output, store, after⟩ := state.send_senders nowSeconds call
  constructor
  · rw [output]
    exact one.sent
  · have pool : (state.send nowSeconds call).1.loop.ctx.datapool =
        (tmCall state.senders call).1.ctx.datapool :=
      congrArg (fun senders => senders.ctx.datapool) after
    exact poolKept_of_eq (pool.trans one.pool)
  · have session : (state.send nowSeconds call).1.largedata =
        (tmCall state.senders call).1.largedata :=
      congrArg (fun senders => senders.largedata) after
    rw [session]
    exact one.session

/-- A periodic report: the framework's, or that of a structure. -/
theorem sendPeriodic_within {reportSize size : Nat} (fits : reportSize ≤ size)
    {state : MainState cfg} (nowSeconds : UInt32) {call : TmCall cfg} {request : TmRequest}
    {result : Except Pus3Status TmOut}
    (called : tmCall state.senders call = state.senders.sendPeriodic result)
    (within : ReturnsWithin (result.map some) .errBufTooSmall request
      state.senders.periodicCounters .hkParamReport reportSize) :
    TickWithin size state (state.send nowSeconds call) := by
  obtain ⟨sent, pool, session⟩ := sendPeriodic_sendsOne within
  apply send_within nowSeconds
  constructor
  · rw [called]
    exact sent.mono fits
  · rw [called]
    exact pool
  · rw [called, session]
    exact id

namespace MainState.Sizes

variable {service size : Nat} {state : MainState cfg} (sizes : state.Sizes service size)
  (nowSeconds : UInt32)

include sizes

theorem floor : 67 ≤ size := Nat.le_trans sizes.services.floor sizes.service_le

theorem events : pus5TmMaxPacketSize ≤ size := Nat.le_trans (by decide) sizes.floor

theorem loopDispatch (tc : List UInt8) :
    TickWithin size state (state.dispatched (loopDispatch state.loop nowSeconds tc)) := by
  have router := sizes.ready.router sizes.services.limits
  have burst := tcRouterDispatch_sentWithin sizes.services router nowSeconds tc
    (Nat.le_refl tcRouterMaxTm)
  have pool := tcRouterDispatch_pool state.loop.ctx nowSeconds tc tcRouterMaxTm
  simp only [MainState.dispatched, FswCore.loopDispatch]
  split
  · exact ⟨burst.mono sizes.service_le, pool, id⟩
  · exact ⟨sentWithin_nil size, pool, id⟩

theorem releaseTick :
    TickWithin size state (state.dispatched (releaseTick state.loop nowSeconds)) := by
  unfold FswCore.releaseTick
  cases wired : state.loop.ctx.schedule with
  | none => exact quiet_within size rfl rfl
  | some sched =>
      simp only
      generalize schedulePopDue sched nowSeconds cfg.scheduleTcMax = step
      obtain ⟨result, after⟩ := step
      let popped : MainState cfg := { state with
        loop := { state.loop with ctx := { state.loop.ctx with schedule := some after } } }
      have poppedSizes : popped.Sizes service size :=
        { sizes with ready := ⟨sizes.ready.apid, sizes.ready.seqCount, sizes.ready.hkstore⟩ }
      rcases result with status | (nothing | tc)
      · exact ⟨sentWithin_nil size, poolKept_of_eq rfl, id⟩
      · exact ⟨sentWithin_nil size, poolKept_of_eq rfl, id⟩
      · have tick := poppedSizes.loopDispatch nowSeconds tc
        exact ⟨tick.sent, tick.pool, tick.session⟩

theorem receiveTick (drops : UInt32) (received : Option UInt8) :
    TickWithin size state (receiveTick state nowSeconds drops received) := by
  unfold FswCore.receiveTick
  cases received with
  | none => exact quiet_within size rfl rfl
  | some byte =>
      simp only
      generalize framerByte state.framer byte = step
      obtain ⟨framer, completed⟩ := step
      cases completed with
      | none => exact quiet_within size rfl rfl
      | some tc =>
          have ready := sizes.ready
          have snapshotSizes : (state.snapshot drops).Sizes service size :=
            { sizes with ready := ⟨ready.apid, ready.seqCount, ready.hkstore⟩ }
          have tick := snapshotSizes.loopDispatch nowSeconds tc
          exact ⟨tick.sent, tick.pool, tick.session⟩

theorem hkTick (drops : UInt32) : TickWithin size state (hkTick state nowSeconds drops) := by
  have fixed : pus3HkTmPacketSize ≤ size := Nat.le_trans (by decide) sizes.floor
  unfold FswCore.hkTick
  split
  · have room : pus3HkTmPacketSize ≤ tcRouterMaxTm := by decide
    have serves : ((state.snapshot drops).request nowSeconds).Serves
        (state.snapshot drops).senders.periodicCounters pus3HkTmPacketSize :=
      ⟨sizes.ready.apid, sizes.ready.seqCount, room⟩
    have within := pus3BuildHkReport_within (fillHkParams (state.snapshot drops).loop.ctx) serves
    have called : tmCall (state.snapshot drops).senders
        (.hkReport ((state.snapshot drops).request nowSeconds) pus3SidFrameworkDiag
          (fillHkParams (state.snapshot drops).loop.ctx)) =
        (state.snapshot drops).senders.sendPeriodic (pus3BuildHkReport _ _ _ _) := rfl
    have tick := sendPeriodic_within fixed nowSeconds called within
    exact ⟨tick.sent, tick.pool, tick.session⟩
  · exact quiet_within size rfl rfl

theorem dynamicHkTick : TickWithin size state (dynamicHkTick state nowSeconds) := by
  unfold FswCore.dynamicHkTick
  cases wired : state.loop.ctx.hkstore with
  | none => exact quiet_within size rfl rfl
  | some hkstore =>
      cases pool : state.loop.ctx.datapool with
      | none => exact quiet_within size rfl rfl
      | some dp =>
          have wellFormed := sizes.ready.hkstore hkstore wired
          have dueBounded : ∀ held, (hkstoreDue hkstore nowSeconds).1 = some held →
              held.paramIds.length ≤ cfg.hkstoreMaxParams :=
            fun held due => wellFormed.due_params_le due
          simp only
          generalize hkstoreDue hkstore nowSeconds = step at dueBounded
          obtain ⟨due, after⟩ := step
          cases due with
          | none => exact quiet_within size rfl rfl
          | some held =>
              have room : service ≤ tcRouterMaxTm :=
                Nat.le_trans sizes.services.router (by decide)
              have serves : ((state.marked after).request nowSeconds).Serves
                  (state.marked after).senders.periodicCounters service :=
                ⟨sizes.ready.apid, sizes.ready.seqCount, room⟩
              have within := pus3BuildDynamicHkReport_sized sizes.services pool
                (dueBounded held rfl) serves
              have called : tmCall (state.marked after).senders
                  (.dynamicHkReport ((state.marked after).request nowSeconds) dp held) =
                  (state.marked after).senders.sendPeriodic (pus3BuildDynamicHkReport _ _ _ _) :=
                rfl
              have tick := sendPeriodic_within sizes.service_le nowSeconds called within
              exact ⟨tick.sent, tick.pool, tick.session⟩

omit nowSeconds in
/-- Every tick. -/
theorem loopTick (tick : LoopTick) : TickWithin size state (loopTick state tick) := by
  cases tick with
  | hk nowSeconds drops => exact sizes.hkTick nowSeconds drops
  | dynamicHk nowSeconds => exact sizes.dynamicHkTick nowSeconds
  | rxOverflow nowSeconds drops =>
      simp only [FswCore.loopTick, rxOverflowTick]
      split
      · exact quiet_within size rfl rfl
      · exact quiet_within size rfl rfl
  | fdir nowSeconds =>
      exact send_within nowSeconds
        (fdirDrain_sendsOne sizes.events state.senders state.loop.ctx.apid tcRouterMaxTm)
  | release nowSeconds => exact sizes.releaseTick nowSeconds
  | retrieval =>
      simp only [FswCore.loopTick, retrievalTick]
      split
      · exact quiet_within size rfl rfl
      · exact ⟨sentWithin_nil size, poolKept_of_eq rfl, id⟩
  | largedata nowSeconds =>
      exact send_within nowSeconds
        (largedataPart_sendsOne sizes.partSize sizes.parts (state.request nowSeconds))
  | receive nowSeconds drops received => exact sizes.receiveTick nowSeconds drops received

omit nowSeconds in
theorem after (tick : LoopTick) : (FswCore.loopTick state tick).1.Sizes service size := by
  have step := sizes.loopTick tick
  refine ⟨?_, sizes.services.kept step.pool, sizes.service_le, sizes.partSize, ?_⟩
  · exact (loopTick_labelled sizes.services.limits sizes.ready sizes.partSize tick).ready
  · exact sizes.parts.imp_right step.session

omit nowSeconds in
/-- Every run. -/
theorem outputs (ticks : List LoopTick) :
    ∀ output ∈ (outputs FswCore.loopTick state ticks).2, SentWithin size output.sent := by
  induction ticks generalizing state with
  | nil => exact fun output member => absurd member List.not_mem_nil
  | cons tick rest inductionHypothesis =>
      intro output member
      rcases List.mem_cons.mp member with rfl | later
      · exact (sizes.loopTick tick).sent
      · exact inductionHypothesis (sizes.after tick) output later

end MainState.Sizes

end FswCore
