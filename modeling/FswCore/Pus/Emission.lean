import FswCore.Pus.Atomicity

/-!
Contract: what a handler emits.

Owns:
- `Emits`, a string of complete telemetry packets and the counters it consumes;
- what a run of packets does to the sequence count and the message counters;
- every handler emits at most one report of its own service, within a bound the
  configuration menu guarantees.

Does not own: the verification reports around a handler.
-/

namespace FswCore

open Library Library.BigEndian

/-- One report: its kind, its destination and its source data. -/
structure Emission where
  kind : TmKind
  destinationId : UInt16
  source : List UInt8
deriving DecidableEq, Repr

/-- The packet an emission reads as, with these counters. -/
def Emission.tm (emission : Emission) (apid : UInt16) (nowSeconds : UInt32)
    (counters : PusCounters) : TmPacket :=
  tmPacket
    { apid := apid
      nowSeconds := nowSeconds
      destinationId := emission.destinationId
      outCap := 0 } counters emission.kind emission.source

theorem Emission.tm_source (emission : Emission) (apid : UInt16) (nowSeconds : UInt32)
    (counters : PusCounters) : (emission.tm apid nowSeconds counters).source = emission.source :=
  rfl

/-- `out` is the emissions one after the other, each a complete packet labelled
with the counters it consumes. -/
inductive Emits (apid : UInt16) (nowSeconds : UInt32) :
    PusCounters → List Emission → List UInt8 → PusCounters → Prop where
  | nil (counters : PusCounters) : Emits apid nowSeconds counters [] [] counters
  | cons {before after : PusCounters} {emission : Emission} {rest : List Emission}
      {packet out : List UInt8}
      (reads : ReadsAs packet (emission.tm apid nowSeconds before))
      (follows : Emits apid nowSeconds (before.commit emission.kind) rest out after) :
      Emits apid nowSeconds before (emission :: rest) (packet ++ out) after

namespace Emits

variable {apid : UInt16} {nowSeconds : UInt32}

theorem append {before middle after : PusCounters} {first second : List Emission}
    {left right : List UInt8} (front : Emits apid nowSeconds before first left middle)
    (back : Emits apid nowSeconds middle second right after) :
    Emits apid nowSeconds before (first ++ second) (left ++ right) after := by
  induction front with
  | nil counters => exact back
  | cons reads _ inductionHypothesis =>
      rw [List.cons_append, List.append_assoc]
      exact .cons reads (inductionHypothesis back)

/-- One report of a builder is one emission. -/
theorem one {request : TmRequest} {counters : PusCounters} {kind : TmKind}
    {source : List UInt8} {size : Nat} {tm : TmOut}
    (reports : tm.Reports request counters kind source size) :
    Emits request.apid request.nowSeconds counters
      [{ kind := kind, destinationId := request.destinationId, source := source }] tm.packet
      tm.counters := by
  have emitted : Emits request.apid request.nowSeconds counters
      [{ kind := kind, destinationId := request.destinationId, source := source }]
      (tm.packet ++ []) (counters.commit kind) := .cons reports.reads (.nil _)
  rw [List.append_nil] at emitted
  rw [reports.counters]
  exact emitted

/-- Every emission stands in the octets, with its headers and its checksum. -/
theorem source_le {before after : PusCounters} {emissions : List Emission} {out : List UInt8}
    (emits : Emits apid nowSeconds before emissions out after) :
    ∀ emission ∈ emissions, 18 + emission.source.length ≤ out.length := by
  induction emits with
  | nil counters => simp
  | cons reads _ inductionHypothesis =>
      have length := reads.sourceLength
      rw [ccsdsPrimaryHeaderSize, pusTmSecondaryHeaderSize] at length
      intro emission member
      rw [List.length_append]
      rcases List.mem_cons.mp member with rfl | later
      · rw [Emission.tm_source] at length
        omega
      · have rest := inductionHypothesis emission later
        omega

/-- The sequence count is one on for every packet. -/
theorem seqCount {before after : PusCounters} {emissions : List Emission} {out : List UInt8}
    (emits : Emits apid nowSeconds before emissions out after)
    (inRange : before.tmSeqCount ≤ 0x3FFF) :
    after.tmSeqCount.toNat = (before.tmSeqCount.toNat + emissions.length) % 16384 := by
  induction emits with
  | nil counters =>
      simp only [UInt16.le_iff_toNat_le, UInt16.reduceToNat] at inRange
      rw [List.length_nil, Nat.add_zero, Nat.mod_eq_of_lt (by omega)]
  | cons reads follows inductionHypothesis =>
      rw [inductionHypothesis (PusCounters.tmSeqCount_commit_le ..),
        PusCounters.tmSeqCount_commit_toNat, List.length_cons]
      omega

theorem seqCount_le {before after : PusCounters} {emissions : List Emission} {out : List UInt8}
    (emits : Emits apid nowSeconds before emissions out after)
    (inRange : before.tmSeqCount ≤ 0x3FFF) : after.tmSeqCount ≤ 0x3FFF := by
  have wrapped := emits.seqCount inRange
  simp only [UInt16.le_iff_toNat_le, UInt16.reduceToNat]
  omega

/-- A message counter is one on for every packet of its kind. -/
theorem msgCounter {before after : PusCounters} {emissions : List Emission} {out : List UInt8}
    (emits : Emits apid nowSeconds before emissions out after) (kind : TmKind) :
    after.msgCounter kind =
      before.msgCounter kind +
        UInt8.ofNat (emissions.countP fun emission => emission.kind = kind) := by
  induction emits with
  | nil counters => simp
  | @cons _ _ emission _ _ _ reads follows inductionHypothesis =>
      rw [inductionHypothesis, PusCounters.msgCounter_commit, List.countP_cons]
      by_cases same : kind = emission.kind
      · simp only [if_pos same, decide_eq_true_eq, if_pos same.symm]
        rw [UInt8.add_assoc, UInt8.add_comm 1, UInt8.ofNat_add]
        rfl
      · simp only [if_neg same, decide_eq_true_eq, if_neg (Ne.symm same), UInt8.add_zero,
          Nat.add_zero]

theorem pus5 {before after : PusCounters} {emissions : List Emission} {out : List UInt8}
    (emits : Emits apid nowSeconds before emissions out after) : after.pus5 = before.pus5 := by
  induction emits with
  | nil counters => rfl
  | cons reads follows inductionHypothesis =>
      rw [inductionHypothesis, PusCounters.pus5_commit]

end Emits

/-! ### The octets -/

/-- Every packet is a complete one, of this process, with the next sequence count. -/
def Consecutive (apid seqCount : UInt16) (packets : List (List UInt8)) : Prop :=
  ∀ (index : Nat) (packet : List UInt8), packets[index]? = some packet →
    ∃ tm, ReadsAs packet tm ∧ tm.primary.version = 0 ∧ tm.primary.type = ccsdsPacketTypeTm ∧
      tm.primary.apid = apid ∧ tm.primary.seqCount.toNat = (seqCount.toNat + index) % 16384 ∧
      ∃ kind : TmKind, tm.secondary.serviceType = kind.service ∧
        tm.secondary.serviceSubtype = kind.subtype

/-- The service and subtype octets of a packet are those of a kind. -/
def packetOfKind (kind : TmKind) (packet : List UInt8) : Bool :=
  packet.getD 7 0 == kind.service && packet.getD 8 0 == kind.subtype

theorem TmKind.eq_of_wire {left right : TmKind} (service : left.service = right.service)
    (subtype : left.subtype = right.subtype) : left = right := by
  cases left <;> cases right <;> first | rfl | (exfalso; revert service subtype; decide)

/-- The label octets of a packet are those of its secondary header. -/
theorem ReadsAs.labels {packet : List UInt8} {tm : TmPacket} (reads : ReadsAs packet tm) :
    packet.getD 7 0 = tm.secondary.serviceType ∧
      packet.getD 8 0 = tm.secondary.serviceSubtype ∧
      packet.getD 9 0 = tm.secondary.msgCounter := by
  have header := reads.secondary
  rw [pusTmSecondaryUnpack] at header
  split_ifs at header
  have fields := Except.ok.inj header
  rw [← fields]
  simp only [getD_drop, ccsdsPrimaryHeaderSize, Nat.reduceAdd, and_self]

theorem ReadsAs.ofKind {packet : List UInt8} {tm : TmPacket} (reads : ReadsAs packet tm)
    {kind : TmKind} (service : tm.secondary.serviceType = kind.service)
    (subtype : tm.secondary.serviceSubtype = kind.subtype) (other : TmKind) :
    packetOfKind other packet = decide (kind = other) := by
  obtain ⟨serviceOctet, subtypeOctet, _⟩ := reads.labels
  rw [packetOfKind, serviceOctet, subtypeOctet, service, subtype, Bool.eq_iff_iff]
  simp only [Bool.and_eq_true, beq_iff_eq, decide_eq_true_eq]
  constructor
  · rintro ⟨sameService, sameSubtype⟩
    exact TmKind.eq_of_wire sameService sameSubtype
  · rintro rfl
    exact ⟨rfl, rfl⟩

/-- The octets of a run of emissions are its packets, one after the other. -/
theorem Emits.packets {apid : UInt16} {nowSeconds : UInt32} {before after : PusCounters}
    {emissions : List Emission} {out : List UInt8}
    (emits : Emits apid nowSeconds before emissions out after)
    (inRange : before.tmSeqCount ≤ 0x3FFF) :
    ∃ packets : List (List UInt8), out = packets.flatten ∧ packets.length = emissions.length ∧
      Consecutive apid before.tmSeqCount packets ∧
      ∀ kind, packets.countP (packetOfKind kind) =
        emissions.countP fun emission => emission.kind = kind := by
  induction emits with
  | nil counters => exact ⟨[], rfl, rfl, by simp [Consecutive], by simp⟩
  | @cons before _ emission _ packet _ reads follows inductionHypothesis =>
      obtain ⟨packets, octets, count, consecutive, kinds⟩ :=
        inductionHypothesis (PusCounters.tmSeqCount_commit_le ..)
      refine ⟨packet :: packets, by rw [octets, List.flatten_cons],
        by rw [List.length_cons, count, List.length_cons], ?_, ?_⟩
      · intro index other stored
        cases index with
        | zero =>
            obtain rfl := Option.some.inj stored
            simp only [UInt16.le_iff_toNat_le, UInt16.reduceToNat] at inRange
            have first : before.tmSeqCount.toNat = (before.tmSeqCount.toNat + 0) % 16384 := by
              omega
            exact ⟨_, reads, rfl, rfl, rfl, first, emission.kind, rfl, rfl⟩
        | succ index =>
            obtain ⟨tm, whole, version, type, address, seqCount, kind⟩ :=
              consecutive index other stored
            refine ⟨tm, whole, version, type, address, ?_, kind⟩
            rw [seqCount, PusCounters.tmSeqCount_commit_toNat]
            omega
      · intro kind
        rw [List.countP_cons, List.countP_cons, kinds, reads.ofKind rfl rfl kind]

/-! ### Handlers -/

variable {cfg : Config}

/-- The largest report of a service: a dynamic housekeeping report of sixteen
four-octet parameters. -/
def tcRouterMaxReport : Nat := 84

/-- Every structure a housekeeping store holds fits the parameter array. -/
def RouterCtx.HkParamsFit (ctx : RouterCtx cfg) : Prop :=
  ∀ hkstore, ctx.hkstore = some hkstore → ∀ held ∈ hkstore.held,
    held.paramIds.length ≤ cfg.hkstoreMaxParams

theorem hkParamsFit_of_reachable {ctx : RouterCtx cfg}
    (reachable : ∀ hkstore, ctx.hkstore = some hkstore →
      ∃ events, hkstore = hkstoreRun cfg events) : ctx.HkParamsFit := by
  intro hkstore wired held member
  obtain ⟨events, rfl⟩ := reachable hkstore wired
  exact ((hkstoreRun_wellFormed cfg events).bounded held member).params_le

/-- The limits that bound a service's report. -/
structure Config.ReportLimits (cfg : Config) : Prop where
  pus20MaxParamsPerTc : cfg.pus20MaxParamsPerTc ≤ 8
  pus11MaxPerTc : cfg.pus11MaxPerTc ≤ 8
  hkstoreMaxParams : cfg.hkstoreMaxParams ≤ 16

theorem Config.KconfigAdmitted.reportLimits {cfg : Config} (admitted : cfg.KconfigAdmitted) :
    cfg.ReportLimits where
  pus20MaxParamsPerTc := admitted.pus20MaxParamsPerTc.2
  pus11MaxPerTc := admitted.pus11MaxPerTc.2
  hkstoreMaxParams := admitted.hkstoreMaxParams.2

section ReportLimits

variable (limits : cfg.ReportLimits)

include limits

theorem Config.ReportLimits.valueReport_fits :
    19 + 6 * cfg.pus20MaxParamsPerTc ≤ tcRouterMaxReport := by
  have limit := limits.pus20MaxParamsPerTc
  simp only [tcRouterMaxReport]
  omega

theorem Config.ReportLimits.summaryReport_fits :
    19 + 8 * cfg.pus11MaxPerTc ≤ tcRouterMaxReport := by
  have limit := limits.pus11MaxPerTc
  simp only [tcRouterMaxReport]
  omega

theorem Config.ReportLimits.structureReport_fits {held : HkStructure}
    (bounded : held.paramIds.length ≤ cfg.hkstoreMaxParams) :
    20 + 4 * held.paramIds.length ≤ tcRouterMaxReport := by
  have limit := limits.hkstoreMaxParams
  simp only [tcRouterMaxReport]
  omega

end ReportLimits

/-- A context the router can serve: limits its output buffer is sized for, an
address and a sequence count in range. -/
structure RouterCtx.Ready (ctx : RouterCtx cfg) : Prop where
  limits : cfg.ReportLimits
  apid : ctx.apid ≤ 0x7FF
  seqCount : ctx.counters.tmSeqCount ≤ 0x3FFF
  hkParams : ctx.HkParamsFit

/-- The report of a structure that is polled. -/
theorem RouterCtx.Ready.structureReport_fits {ctx : RouterCtx cfg} (ready : ctx.Ready)
    {hkstore : Hkstore} (wired : ctx.hkstore = some hkstore) {sid : UInt16} {held : HkStructure}
    (found : hkstoreFind hkstore sid = some held) :
    20 + 4 * held.paramIds.length ≤ tcRouterMaxReport := by
  rw [hkstoreFind_eq] at found
  have member := List.mem_of_find?_eq_some found
  exact ready.limits.structureReport_fits (ready.hkParams hkstore wired held member)

/-- An address and a sequence count that fit a primary header. -/
structure RouterCtx.Addressable (ctx : RouterCtx cfg) : Prop where
  apid : ctx.apid ≤ 0x7FF
  seqCount : ctx.counters.tmSeqCount ≤ 0x3FFF

theorem RouterCtx.Ready.addressable {ctx : RouterCtx cfg} (ready : ctx.Ready) :
    ctx.Addressable := ⟨ready.apid, ready.seqCount⟩

/-- Two contexts that differ in stores and counters at most. -/
structure SameIdentity (left right : RouterCtx cfg) : Prop where
  apid : left.apid = right.apid
  tcAcceptedCount : left.tcAcceptedCount = right.tcAcceptedCount
  tcRejectedCount : left.tcRejectedCount = right.tcRejectedCount
  sinkWired : left.sinkWired = right.sinkWired

theorem SameIdentity.trans {first second third : RouterCtx cfg}
    (left : SameIdentity first second) (right : SameIdentity second third) :
    SameIdentity first third where
  apid := left.apid.trans right.apid
  tcAcceptedCount := left.tcAcceptedCount.trans right.tcAcceptedCount
  tcRejectedCount := left.tcRejectedCount.trans right.tcRejectedCount
  sinkWired := left.sinkWired.trans right.sinkWired

/-- At most one report, of the telecommand's own service, back to its source. -/
structure OwnReport (v : TcAcceptResult) (service : List Emission) : Prop where
  atMostOne : service.length ≤ 1
  own : ∀ emission ∈ service,
    emission.kind.service = v.serviceType ∧ emission.destinationId = v.sourceId

/-- What a handler does besides its work on a store. -/
structure RouteContract (ctx : RouterCtx cfg) (v : TcAcceptResult) (nowSeconds : UInt32)
    (reply : RouteReply cfg) : Prop where
  identity : SameIdentity reply.ctx ctx
  fits : reply.bufTooSmall = false
  codes : reply.execFc = .none ∨ reply.execFc = .unknownSubtype ∨ reply.execFc = .execFailure
  failed : reply.execFc ≠ .none → reply.out = []
  length : reply.out.length ≤ tcRouterMaxReport
  emits : ∃ service, OwnReport v service ∧
    Emits ctx.apid nowSeconds ctx.counters service reply.out reply.ctx.counters

/-- A handler that writes nothing and leaves the counters alone. -/
theorem routeContract_silent {ctx : RouterCtx cfg} {v : TcAcceptResult} {nowSeconds : UInt32}
    {reply : RouteReply cfg} (identity : SameIdentity reply.ctx ctx)
    (counters : reply.ctx.counters = ctx.counters) (fits : reply.bufTooSmall = false)
    (codes : reply.execFc = .none ∨ reply.execFc = .unknownSubtype ∨
      reply.execFc = .execFailure) (nothing : reply.out = []) :
    RouteContract ctx v nowSeconds reply where
  identity := identity
  fits := fits
  codes := codes
  failed := fun _ => nothing
  length := by rw [nothing]; exact Nat.zero_le _
  emits := ⟨[], ⟨Nat.zero_le _, by simp⟩, by rw [nothing, counters]; exact .nil _⟩

theorem routeFail_contract (ctx : RouterCtx cfg) (v : TcAcceptResult) (nowSeconds : UInt32)
    {execFc : Pus1FailureCode}
    (codes : execFc = .none ∨ execFc = .unknownSubtype ∨ execFc = .execFailure) :
    RouteContract ctx v nowSeconds (routeFail ctx execFc) :=
  routeContract_silent ⟨rfl, rfl, rfl, rfl⟩ rfl rfl codes rfl

/-- A service that keeps to its contract makes its handler keep to its own. -/
theorem routeReturn_contract {status : Type} [DecidableEq status]
    (unknownSubtype : status → Bool) {bufTooSmall : status} {ctx inner : RouterCtx cfg}
    {v : TcAcceptResult} {nowSeconds : UInt32} {outCap size : Nat} {kind : TmKind}
    {result : Except status (Option TmOut)} (identity : SameIdentity inner ctx)
    (counters : inner.counters = ctx.counters)
    (within : ReturnsWithin result bufTooSmall (routerRequest ctx nowSeconds v.sourceId outCap)
      ctx.counters kind size)
    (bounded : size ≤ tcRouterMaxReport) (own : kind.service = v.serviceType) :
    RouteContract ctx v nowSeconds (routeReturn unknownSubtype bufTooSmall inner result) := by
  cases result with
  | error code =>
      have fits : code ≠ bufTooSmall := within
      refine routeContract_silent identity counters (by simp [routeReturn, fits]) ?_ rfl
      simp only [routeReturn]
      split <;> simp
  | ok report =>
      cases report with
      | none => exact routeContract_silent identity counters rfl (.inl rfl) rfl
      | some tm =>
          obtain ⟨source, reports⟩ := within
          exact
            { identity := ⟨identity.apid, identity.tcAcceptedCount, identity.tcRejectedCount,
                identity.sinkWired⟩
              fits := rfl
              codes := .inl rfl
              failed := fun failed => absurd rfl failed
              length := Nat.le_trans reports.length bounded
              emits := ⟨_, ⟨Nat.le_refl _, by simpa [routerRequest] using own⟩,
                Emits.one reports⟩ }

/-- The request of a ready context, for a report of this size. -/
theorem RouterCtx.Ready.serves {ctx : RouterCtx cfg} (ready : ctx.Ready) (nowSeconds : UInt32)
    (destinationId : UInt16) {outCap size : Nat} (bounded : size ≤ tcRouterMaxReport)
    (room : tcRouterMaxReport ≤ outCap) :
    (routerRequest ctx nowSeconds destinationId outCap).Serves ctx.counters size where
  apid := ready.apid
  seqCount := ready.seqCount
  room := Nat.le_trans bounded room

section Contracts

variable {ctx : RouterCtx cfg} (ready : ctx.Ready) (v : TcAcceptResult) (nowSeconds : UInt32)
  (tc : List UInt8) {outCap : Nat} (room : tcRouterMaxReport ≤ outCap)

include ready room

theorem routerPus17_contract (service : pusServiceTest = v.serviceType) :
    RouteContract ctx v nowSeconds (routerPus17 ctx v nowSeconds tc outCap) := by
  have size : pus17TmPacketSize ≤ tcRouterMaxReport := by decide
  have within := pus17Execute_within (ready.serves nowSeconds v.sourceId size room)
    v.serviceSubtype
  exact routeReturn_contract _ ⟨rfl, rfl, rfl, rfl⟩ rfl within size service

theorem routerPus20_contract (service : pusServiceOnboardParameter = v.serviceType) :
    RouteContract ctx v nowSeconds (routerPus20 ctx v nowSeconds tc outCap) := by
  unfold routerPus20
  cases wired : ctx.datapool with
  | none => exact routeFail_contract ctx v nowSeconds (.inr (.inr rfl))
  | some dp =>
      have fits := ready.limits.valueReport_fits
      have within := pus20Execute_within dp v.serviceSubtype (routerAppData tc)
        (ready.serves nowSeconds v.sourceId (Nat.le_refl _) room) fits (by decide)
      exact routeReturn_contract _ ⟨rfl, rfl, rfl, rfl⟩ rfl within (Nat.le_refl _) service

theorem routerPus11_contract (service : pusServiceScheduling = v.serviceType) :
    RouteContract ctx v nowSeconds (routerPus11 ctx v nowSeconds tc outCap) := by
  unfold routerPus11
  cases wired : ctx.schedule with
  | none => exact routeFail_contract ctx v nowSeconds (.inr (.inr rfl))
  | some sched =>
      have fits := ready.limits.summaryReport_fits
      have within := pus11Execute_within sched v.serviceSubtype (routerAppData tc)
        (ready.serves nowSeconds v.sourceId (Nat.le_refl _) room) fits (by decide)
      exact routeReturn_contract _ ⟨rfl, rfl, rfl, rfl⟩ rfl within (Nat.le_refl _) service

theorem routerPus15_contract (service : pusServiceStorage = v.serviceType) :
    RouteContract ctx v nowSeconds (routerPus15 ctx v nowSeconds tc outCap) := by
  unfold routerPus15
  cases wired : ctx.store with
  | none => exact routeFail_contract ctx v nowSeconds (.inr (.inr rfl))
  | some store =>
      have size : pus15StoreReportPacketSize ≤ tcRouterMaxReport := by decide
      have within := pus15Execute_within store v.serviceSubtype (routerAppData tc)
        (ready.serves nowSeconds v.sourceId size room)
      exact routeReturn_contract _ ⟨rfl, rfl, rfl, rfl⟩ rfl within size service

theorem routerPus3Poll_contract (app : List UInt8)
    (service : pusServiceHousekeeping = v.serviceType) :
    RouteContract ctx v nowSeconds (routerPus3Poll ctx v nowSeconds app outCap) := by
  unfold routerPus3Poll routerPus3PollFramework routerPus3PollDynamic
  split
  · exact routeFail_contract ctx v nowSeconds (.inr (.inl rfl))
  simp only
  split
  · have size : pus3HkTmPacketSize ≤ tcRouterMaxReport := by decide
    exact routeReturn_contract _ ⟨rfl, rfl, rfl, rfl⟩ rfl
      (pus3BuildHkReport_within _ (ready.serves nowSeconds v.sourceId size room)) size service
  cases wired : ctx.hkstore with
  | none => exact routeFail_contract ctx v nowSeconds (.inr (.inl rfl))
  | some hkstore =>
      simp only
      cases found : hkstoreFind hkstore (be16At app 0) with
      | none => exact routeFail_contract ctx v nowSeconds (.inr (.inl rfl))
      | some held =>
          simp only
          cases resolved : ctx.datapool with
          | none => exact routeFail_contract ctx v nowSeconds (.inr (.inr rfl))
          | some dp =>
              have fits := ready.structureReport_fits wired found
              have within := pus3BuildDynamicHkReport_within dp
                (ready.serves nowSeconds v.sourceId (Nat.le_refl _) room) fits (by decide)
              exact routeReturn_contract _ ⟨rfl, rfl, rfl, rfl⟩ rfl within (Nat.le_refl _) service

theorem routerPus3_contract (service : pusServiceHousekeeping = v.serviceType) :
    RouteContract ctx v nowSeconds (routerPus3 ctx v nowSeconds tc outCap) := by
  simp only [routerPus3]
  split_ifs
  · exact routerPus3Poll_contract ready v nowSeconds room _ service
  · unfold routerPus3Manage
    cases wired : ctx.hkstore with
    | none => exact routeFail_contract ctx v nowSeconds (.inr (.inr rfl))
    | some hkstore =>
        refine routeContract_silent ⟨rfl, rfl, rfl, rfl⟩ rfl rfl ?_ rfl
        simp only [routeFail]
        split <;> simp
  · exact routeFail_contract ctx v nowSeconds (.inr (.inl rfl))

/-- Every handler keeps to the contract. -/
theorem routerRoute_contract :
    RouteContract ctx v nowSeconds (routerRoute ctx v nowSeconds tc outCap) := by
  rcases routerRoute_cases ctx v nowSeconds tc outCap with unrouted | ⟨entry, member, own, routed⟩
  · rw [unrouted]
    exact routeFail_contract ctx v nowSeconds (.inr (.inr rfl))
  · rw [routed]
    simp only [routerDispatchTable, List.mem_cons, List.not_mem_nil, or_false] at member
    rcases member with rfl | rfl | rfl | rfl | rfl
    · exact routerPus17_contract ready v nowSeconds tc room own
    · exact routerPus3_contract ready v nowSeconds tc room own
    · exact routerPus20_contract ready v nowSeconds tc room own
    · exact routerPus11_contract ready v nowSeconds tc room own
    · exact routerPus15_contract ready v nowSeconds tc room own

end Contracts

end FswCore
