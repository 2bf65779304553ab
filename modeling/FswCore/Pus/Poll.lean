import FswCore.Library.SharedCounter
import FswCore.Pus.Acceptance
import FswCore.Pus.Verification

/-!
Contract: the polls of service 3 and the message counter they are answered with.

Owns:
- which telecommands are answered with a housekeeping report, from the context they
  meet;
- a dispatch moves the counter for such a telecommand, and for no other;
- the message counters of a string of packets count on from the one before it.
-/

namespace FswCore

open Library Library.BigEndian

variable {cfg : Config}

/-- Every parameter of the structure has a value. -/
def structureReportable (dp : Datapool) (held : HkStructure) : Bool :=
  (pus3ResolveParams dp held.paramIds).isSome

/-- The structure a poll may ask for: the framework's, or a defined one whose
parameters are. -/
def sidReportable (ctx : RouterCtx cfg) (sid : UInt16) : Bool :=
  sid == pus3SidFrameworkDiag ||
    match ctx.hkstore with
    | none => false
    | some hkstore =>
        match hkstoreFind hkstore sid with
        | none => false
        | some held =>
            match ctx.datapool with
            | none => false
            | some dp => structureReportable dp held

/-- A request for one report, of a structure that can be reported. -/
def PollRequest (ctx : RouterCtx cfg) (v : TcAcceptResult) (app : List UInt8) : Prop :=
  v.serviceType = pusServiceHousekeeping ∧ v.serviceSubtype = pus3SubtypeOneShotPoll ∧
    app.length = pus3PollTcAppDataSize ∧ sidReportable ctx (be16At app 0) = true

instance (ctx : RouterCtx cfg) (v : TcAcceptResult) (app : List UInt8) :
    Decidable (PollRequest ctx v app) :=
  inferInstanceAs (Decidable (_ ∧ _))

/-- An accepted telecommand that is such a request. -/
def PollAnswered (ctx : RouterCtx cfg) (tc : List UInt8) : Prop :=
  TcAccepted tc ctx.apid ∧ PollRequest ctx (tcAccept tc ctx.apid) (routerAppData tc)

instance (ctx : RouterCtx cfg) (tc : List UInt8) : Decidable (PollAnswered ctx tc) :=
  inferInstanceAs (Decidable (_ ∧ _))

/-! ### The handler -/

theorem pus3_commit (counters : PusCounters) (kind : TmKind) :
    (counters.commit kind).pus3 = counters.pus3 + if kind = .hkParamReport then 1 else 0 := by
  rw [show (counters.commit kind).pus3 = (counters.commit kind).msgCounter .hkParamReport from rfl,
    PusCounters.msgCounter_commit]
  simp only [eq_comm (a := TmKind.hkParamReport)]
  rfl

section Handler

variable {ctx : RouterCtx cfg} (ready : ctx.Ready) (v : TcAcceptResult) (nowSeconds : UInt32)
  {outCap : Nat} (room : tcRouterMaxReport ≤ outCap)

include ready room

theorem routerPus3PollFramework_pus3 :
    (routerPus3PollFramework ctx v nowSeconds outCap).ctx.counters.pus3 =
      ctx.counters.pus3 + 1 := by
  have size : pus3HkTmPacketSize ≤ tcRouterMaxReport := by decide
  simp only [routerPus3PollFramework]
  obtain ⟨out, source, built, reports⟩ := pus3BuildHkReport_ok
    { pus1MsgCounter := ctx.counters.pus1
      pus5MsgCounter := ctx.counters.pus5
      pus17TmMsgCounter := ctx.counters.pus17
      tcAcceptedCount := ctx.tcAcceptedCount
      tcRejectedCount := ctx.tcRejectedCount
      rxRingOverflowDrops := ctx.rxRingOverflowDrops }
    (ready.serves nowSeconds v.sourceId size room)
  rw [built]
  show out.counters.pus3 = _
  rw [reports.counters, pus3_commit, if_pos rfl]

theorem routerPus3PollDynamic_pus3 (sid : UInt16) (ground : sid ≠ pus3SidFrameworkDiag) :
    (routerPus3PollDynamic ctx v nowSeconds sid outCap).ctx.counters.pus3 =
      ctx.counters.pus3 + bif sidReportable ctx sid then 1 else 0 := by
  have framework : (sid == pus3SidFrameworkDiag) = false := beq_eq_false_iff_ne.mpr ground
  simp only [routerPus3PollDynamic, sidReportable, framework, Bool.false_or]
  cases wired : ctx.hkstore with
  | none => simp [routeFail]
  | some hkstore =>
      simp only
      cases found : hkstoreFind hkstore sid with
      | none => simp [routeFail]
      | some held =>
          cases pool : ctx.datapool with
          | none => simp [routeFail]
          | some dp =>
              simp only [structureReportable]
              cases resolved : pus3ResolveParams dp held.paramIds with
              | none => simp [pus3BuildDynamicHkReport, resolved, routeReturn, Except.map]
              | some values =>
                  have fits := ready.structureReport_fits wired found
                  obtain ⟨out, source, built, reports⟩ := pus3BuildDynamicHkReport_ok resolved
                    (ready.serves nowSeconds v.sourceId (Nat.le_refl _) room) fits (by decide)
                  rw [built]
                  show out.counters.pus3 = _
                  rw [reports.counters, pus3_commit, if_pos rfl]
                  rfl

theorem routerPus3_pus3 (tc : List UInt8) (service : pusServiceHousekeeping = v.serviceType) :
    (routerPus3 ctx v nowSeconds tc outCap).ctx.counters.pus3 =
      ctx.counters.pus3 + if PollRequest ctx v (routerAppData tc) then 1 else 0 := by
  simp only [routerPus3, PollRequest, ← service, true_and]
  split
  · rename_i poll
    simp only [poll, true_and]
    rw [routerPus3Poll]
    split
    · rename_i wrongLength
      rw [if_neg fun request => wrongLength request.1]
      exact (UInt8.add_zero _).symm
    · rename_i sized
      simp only [not_not.mp sized, true_and]
      split
      · rename_i framework
        rw [routerPus3PollFramework_pus3 ready v nowSeconds room, framework]
        rfl
      · rename_i ground
        rw [routerPus3PollDynamic_pus3 ready v nowSeconds room _ ground]
        cases sidReportable ctx (be16At (routerAppData tc) 0) <;> rfl
  · rename_i other
    rw [if_neg (fun request => other request.1)
      (c := v.serviceSubtype = pus3SubtypeOneShotPoll ∧ _), UInt8.add_zero]
    split
    · unfold routerPus3Manage
      split <;> rfl
    · rfl

/-- The handlers of the other services send no housekeeping report. -/
theorem routerRoute_pus3 (tc : List UInt8) :
    (routerRoute ctx v nowSeconds tc outCap).ctx.counters.pus3 =
      ctx.counters.pus3 + if PollRequest ctx v (routerAppData tc) then 1 else 0 := by
  by_cases service : pusServiceHousekeeping = v.serviceType
  · have routed : routerRoute ctx v nowSeconds tc outCap =
        routerPus3 ctx v nowSeconds tc outCap := by
      rw [routerRoute, ← service]
      rfl
    rw [routed, routerPus3_pus3 ready v nowSeconds room tc service]
  · obtain ⟨emissions, own, emits⟩ := (routerRoute_contract ready v nowSeconds tc room).emits
    have none : (emissions.countP fun emission => emission.kind = .hkParamReport) = 0 := by
      rw [List.countP_eq_zero]
      intro emission member
      simp only [decide_eq_true_eq]
      intro report
      apply service
      rw [← (own.own emission member).1, report]
      rfl
    have moved := emits.msgCounter .hkParamReport
    rw [none] at moved
    rw [if_neg fun request => service request.1.symm]
    exact moved

end Handler

/-! ### The dispatch -/

/-- A verification report is none of service 3. -/
theorem RouterOutput.verify_pus3 (written : RouterOutput cfg) (requestId : List UInt8)
    (fc : Pus1FailureCode) {kindSuccess kindFailure : TmKind}
    (verifies : kindSuccess ≠ .hkParamReport ∧ kindFailure ≠ .hkParamReport)
    (nowSeconds : UInt32) (destinationId : UInt16) (outCap : Nat) :
    (written.verify (fun request counters =>
        buildReport request counters requestId fc kindSuccess kindFailure)
      nowSeconds destinationId outCap).ctx.counters.pus3 = written.ctx.counters.pus3 := by
  unfold RouterOutput.verify
  split
  · rfl
  · rename_i tm built
    obtain ⟨_, _, _, committed⟩ := buildTm_packs built
    show tm.counters.pus3 = _
    rw [committed, pus3_commit, if_neg, UInt8.add_zero]
    split
    · exact verifies.1
    · exact verifies.2

theorem routerAcceptance_pus3 (ctx : RouterCtx cfg) (v : TcAcceptResult) (nowSeconds : UInt32)
    (tc : List UInt8) (destinationId : UInt16) (outCap : Nat) :
    (routerAcceptance ctx v nowSeconds tc destinationId outCap).ctx.counters.pus3 =
      ctx.counters.pus3 :=
  RouterOutput.verify_pus3 _ _ _ (by decide) nowSeconds destinationId outCap

theorem routerAcceptanceRequested_pus3 (ctx : RouterCtx cfg) (v : TcAcceptResult)
    (nowSeconds : UInt32) (tc : List UInt8) (outCap : Nat) :
    (routerAcceptanceRequested ctx v nowSeconds tc outCap).ctx.counters.pus3 =
      ctx.counters.pus3 := by
  unfold routerAcceptanceRequested
  split
  · exact routerAcceptance_pus3 ..
  · rfl

theorem routerAccepted_pus3 (written : RouterOutput cfg) (v : TcAcceptResult)
    (nowSeconds : UInt32) (tc : List UInt8) (outCap : Nat) :
    (routerAccepted written v nowSeconds tc outCap).ctx.counters.pus3 =
      (routerRoute written.ctx v nowSeconds tc
        (outCap - written.out.length)).ctx.counters.pus3 := by
  simp only [routerAccepted]
  split
  · exact RouterOutput.verify_pus3 _ _ _ (by decide) nowSeconds v.sourceId outCap
  · rfl

/-- A poll reads the address, the pool and the structures of a context. -/
theorem PollRequest.congr {left right : RouterCtx cfg} (datapool : left.datapool = right.datapool)
    (hkstore : left.hkstore = right.hkstore) (v : TcAcceptResult) (app : List UInt8) :
    PollRequest left v app = PollRequest right v app := by
  simp only [PollRequest, sidReportable, datapool, hkstore]

theorem routerAccepted_poll {ctx : RouterCtx cfg} (ready : ctx.Ready) {v : TcAcceptResult}
    (accepted : v.fc = .none) (nowSeconds : UInt32) {tc : List UInt8}
    (header : ccsdsPrimaryHeaderSize ≤ tc.length) {outCap : Nat}
    (room : tcRouterMaxTm ≤ outCap) :
    (routerAccepted (routerAcceptanceRequested ctx v nowSeconds tc outCap) v nowSeconds tc
        outCap).ctx.counters.pus3 =
      ctx.counters.pus3 + if PollRequest ctx v (routerAppData tc) then 1 else 0 := by
  have written := routerAcceptanceRequested_written ready.addressable v nowSeconds header room
  have stores := routerAcceptanceRequested_stores ctx v nowSeconds tc outCap
  have counter := routerAcceptanceRequested_pus3 ctx v nowSeconds tc outCap
  generalize routerAcceptanceRequested ctx v nowSeconds tc outCap = before at *
  have beforeReady : before.ctx.Ready :=
    ready.of_stores written.identity.apid (written.emits.seqCount_le ready.seqCount) stores
  have length := written.length
  rw [if_pos accepted] at length
  have space : tcRouterMaxReport ≤ outCap - before.out.length := by
    simp only [tcRouterMaxReport, tcRouterMaxTm] at room ⊢
    omega
  have same := PollRequest.congr (congrArg RouterStores.datapool stores)
    (congrArg RouterStores.hkstore stores) v (routerAppData tc)
  rw [routerAccepted_pus3, routerRoute_pus3 beforeReady v nowSeconds space tc, counter]
  simp only [show PollRequest before.ctx v (routerAppData tc) =
    PollRequest ctx v (routerAppData tc) from same]

/-- A dispatch counts a housekeeping report for an answered poll, and else none. -/
theorem tcRouterDispatch_pus3 {ctx : RouterCtx cfg} (ready : ctx.Ready) (nowSeconds : UInt32)
    (tc : List UInt8) {outCap : Nat} (room : tcRouterMaxTm ≤ outCap) :
    (tcRouterDispatch ctx nowSeconds tc outCap).ctx.counters.pus3 =
      ctx.counters.pus3 + if PollAnswered ctx tc then 1 else 0 := by
  have counted (v : TcAcceptResult) : (routerCount ctx v).counters = ctx.counters :=
    (routerCount_labels ctx v).2
  by_cases accepted : TcAccepted tc ctx.apid
  · have stores := routerCount_stores ctx (tcAccept tc ctx.apid)
    have header := (tcAccept_verdict accepted.addressed).header
    have same := PollRequest.congr (congrArg RouterStores.datapool stores)
      (congrArg RouterStores.hkstore stores) (tcAccept tc ctx.apid) (routerAppData tc)
    rw [tcRouterDispatch_accepted nowSeconds accepted room,
      routerAccepted_poll (ready.count _) accepted.fc nowSeconds header room, counted]
    simp only [PollAnswered, accepted, true_and]
    simp only [show PollRequest (routerCount ctx (tcAccept tc ctx.apid)) _ _ =
      PollRequest ctx _ _ from same]
  · rw [if_neg fun answered => accepted answered.1, UInt8.add_zero]
    rcases tcRouterDispatch_refused nowSeconds accepted with same | same | same
    · rw [same]
    · rw [same, routerAcceptance_pus3, counted]
    · rw [same, routerAcceptanceRequested_pus3, counted]

/-! ### The labels of a burst -/

/-- The message counter octet of a packet. -/
def packetMsgCounter (packet : List UInt8) : UInt8 := packet.getD 9 0

/-- The packets of a run of emissions, each complete; those of a kind carry message
counters that count on. -/
theorem Emits.countsFrom {apid : UInt16} {nowSeconds : UInt32} {before after : PusCounters}
    {emissions : List Emission} {out : List UInt8}
    (emits : Emits apid nowSeconds before emissions out after) (kind : TmKind) :
    ∃ packets : List (List UInt8), out = packets.flatten ∧
      (∀ packet ∈ packets, ∃ tm, ReadsAs packet tm) ∧
      CountsFrom 1 (before.msgCounter kind)
        ((packets.filter (packetOfKind kind)).map packetMsgCounter) ∧
      after.msgCounter kind = before.msgCounter kind +
        UInt8.ofNat (packets.filter (packetOfKind kind)).length ∧
      packets.length = emissions.length := by
  induction emits with
  | nil counters => exact ⟨[], rfl, by simp, trivial, by simp, rfl⟩
  | @cons before _ emission _ packet _ reads follows inductionHypothesis =>
      obtain ⟨packets, octets, complete, counts, moved, number⟩ := inductionHypothesis
      rw [PusCounters.msgCounter_commit] at counts moved
      refine ⟨packet :: packets, by rw [octets, List.flatten_cons], ?_, ?_, ?_,
        congrArg Nat.succ number⟩
      · intro other member
        rcases List.mem_cons.mp member with rfl | later
        · exact ⟨_, reads⟩
        · exact complete other later
      · rw [List.filter_cons, reads.ofKind rfl rfl kind]
        by_cases same : emission.kind = kind
        · rw [if_pos same.symm] at counts
          simp only [same, decide_true, if_true, List.map_cons]
          refine ⟨?_, counts⟩
          rw [packetMsgCounter, reads.labels.2.2, ← same]
          rfl
        · rw [if_neg (Ne.symm same), UInt8.add_zero] at counts
          simpa only [same, decide_false, Bool.false_eq_true, if_false] using counts
      · rw [List.filter_cons, reads.ofKind rfl rfl kind]
        by_cases same : emission.kind = kind
        · rw [if_pos same.symm] at moved
          simp only [same, decide_true, if_true, List.length_cons]
          rw [moved, UInt8.ofNat_add, UInt8.add_assoc, UInt8.add_comm 1]
          rfl
        · rw [if_neg (Ne.symm same), UInt8.add_zero] at moved
          simpa only [same, decide_false, Bool.false_eq_true, if_false] using moved

end FswCore
