import FswCore.Pus.Acceptance
import FswCore.Pus.AppLayout
import FswCore.Pus.Verification

/-!
Contract: which application data a routed telecommand may carry.

Owns:
- a request succeeds on its layout only, and one that fails writes no report;
- the exception: the connection test does not look at its application data.

Does not own: the layouts, and what a request does to the stores.
-/

namespace FswCore

open Library Library.BigEndian

variable {cfg : Config}

/-! ### Strict replies -/

/-- Success only on the layout, and no report of the service with a failure. -/
structure StrictReply (layout : Prop) (reply : RouteReply cfg) : Prop where
  success : reply.execFc = .none → layout
  silent : reply.execFc ≠ .none → reply.out = []

theorem routeFail_strict {layout : Prop} {ctx : RouterCtx cfg} {execFc : Pus1FailureCode}
    (failed : execFc ≠ .none) : StrictReply layout (routeFail ctx execFc) where
  success := fun succeeded => absurd succeeded failed
  silent := fun _ => rfl

theorem routeReturn_strict {layout : Prop} {status : Type} [DecidableEq status]
    {unknownSubtype : status → Bool} {bufTooSmall : status} {ctx : RouterCtx cfg}
    {result : Except status (Option TmOut)}
    (returned : ∀ report, result = .ok report → layout) :
    StrictReply layout (routeReturn unknownSubtype bufTooSmall ctx result) := by
  cases result with
  | error code =>
      constructor
      · intro succeeded
        simp only [routeReturn] at succeeded
        split at succeeded <;> contradiction
      · intro _
        rfl
  | ok report =>
      constructor
      · intro _
        exact returned report rfl
      · intro failed
        cases report <;> exact absurd rfl failed

theorem StrictReply.weaken {layout other : Prop} {reply : RouteReply cfg}
    (strict : StrictReply layout reply) (implied : layout → other) : StrictReply other reply where
  success := fun succeeded => implied (strict.success succeeded)
  silent := strict.silent

/-! ### Handlers -/

theorem routerPus3Poll_strict (ctx : RouterCtx cfg) {v : TcAcceptResult} (nowSeconds : UInt32)
    (app : List UInt8) (outCap : Nat) :
    StrictReply (∃ sid, app = put16 sid) (routerPus3Poll ctx v nowSeconds app outCap) := by
  rw [routerPus3Poll]
  split
  · exact routeFail_strict (by decide)
  rename_i sized
  have layout : ∃ sid, app = put16 sid := ⟨_, eq_put16 (not_not.mp sized)⟩
  simp only
  split
  · exact routeReturn_strict fun _ _ => layout
  unfold routerPus3PollDynamic
  split
  · exact routeFail_strict (by decide)
  split
  · exact routeFail_strict (by decide)
  split
  · exact routeFail_strict (by decide)
  · exact routeReturn_strict fun _ _ => layout

/-- The layout a routed telecommand has to carry. -/
def RoutedLayout (ctx : RouterCtx cfg) (v : TcAcceptResult) (app : List UInt8) : Prop :=
  PinnedLayout cfg ctx.datapool v.serviceType v.serviceSubtype app

section Handlers

variable (ctx : RouterCtx cfg) {v : TcAcceptResult} (nowSeconds : UInt32) (tc : List UInt8)
  (outCap : Nat)

theorem routerPus3_strict (service : pusServiceHousekeeping = v.serviceType) :
    StrictReply (RoutedLayout ctx v (routerAppData tc))
      (routerPus3 ctx v nowSeconds tc outCap) := by
  rw [RoutedLayout, ← service]
  simp only [routerPus3]
  split
  · rename_i poll
    apply (routerPus3Poll_strict ctx nowSeconds (routerAppData tc) outCap).weaken
    intro layout
    exact ⟨.oneShotPoll, rfl, poll.symm, layout⟩
  split
  · unfold routerPus3Manage
    split
    · exact routeFail_strict (by decide)
    · constructor
      · intro succeeded
        apply pus3Execute_layout
        simp only [routeFail] at succeeded
        split at succeeded
        · assumption
        · contradiction
      · intro _
        rfl
  · exact routeFail_strict (by decide)

theorem routerPus20_strict (service : pusServiceOnboardParameter = v.serviceType) :
    StrictReply (RoutedLayout ctx v (routerAppData tc))
      (routerPus20 ctx v nowSeconds tc outCap) := by
  unfold routerPus20
  split
  · exact routeFail_strict (by decide)
  · rename_i dp wired
    apply routeReturn_strict
    intro report succeeded
    rw [RoutedLayout, ← service, wired]
    exact pus20Execute_layout succeeded

theorem routerPus11_strict (service : pusServiceScheduling = v.serviceType) :
    StrictReply (RoutedLayout ctx v (routerAppData tc))
      (routerPus11 ctx v nowSeconds tc outCap) := by
  unfold routerPus11
  split
  · exact routeFail_strict (by decide)
  · apply routeReturn_strict
    intro report succeeded
    rw [RoutedLayout, ← service]
    exact pus11Execute_layout _ succeeded

theorem routerPus15_strict (service : pusServiceStorage = v.serviceType) :
    StrictReply (RoutedLayout ctx v (routerAppData tc))
      (routerPus15 ctx v nowSeconds tc outCap) := by
  unfold routerPus15
  split
  · exact routeFail_strict (by decide)
  · apply routeReturn_strict
    intro report succeeded
    rw [RoutedLayout, ← service]
    exact pus15Execute_layout _ succeeded

/-- The connection test is strict about its subtype only. -/
theorem routerPus17_strict (service : pusServiceTest = v.serviceType) (app : List UInt8)
    (empty : v.serviceSubtype = pus17SubtypeAreYouAliveTc → app = []) :
    StrictReply (RoutedLayout ctx v app) (routerPus17 ctx v nowSeconds tc outCap) := by
  apply routeReturn_strict
  intro report succeeded
  have subtype : v.serviceSubtype = pus17SubtypeAreYouAliveTc := by
    by_contra other
    simp only [pus17Execute] at succeeded
    split_ifs at succeeded <;> contradiction
  rw [RoutedLayout, ← service, subtype, empty subtype]
  exact ⟨.areYouAlive, rfl, rfl, rfl⟩

end Handlers

theorem pinnedLayout_ping {datapool : Option Datapool} {app : List UInt8}
    (pinned : PinnedLayout cfg datapool pusServiceTest pus17SubtypeAreYouAliveTc app) :
    app = [] := by
  obtain ⟨request, service, _, layout⟩ := pinned
  have ping : request = .areYouAlive := by
    revert service
    cases request <;> decide
  rw [ping] at layout
  exact layout

/-- A connection test with octets in its user data field. -/
def PingCarriesData (tc : List UInt8) (v : TcAcceptResult) : Prop :=
  v.serviceType = pusServiceTest ∧ v.serviceSubtype = pus17SubtypeAreYouAliveTc ∧
    routerAppData tc ≠ []

theorem routerRoute_strict (ctx : RouterCtx cfg) {v : TcAcceptResult} (nowSeconds : UInt32)
    (tc : List UInt8) (outCap : Nat) (empty : ¬PingCarriesData tc v) :
    StrictReply (RoutedLayout ctx v (routerAppData tc))
      (routerRoute ctx v nowSeconds tc outCap) := by
  rcases routerRoute_cases ctx v nowSeconds tc outCap with
    unrouted | ⟨entry, member, own, routed⟩
  · rw [unrouted]
    exact routeFail_strict (by decide)
  · rw [routed]
    simp only [routerDispatchTable, List.mem_cons, List.not_mem_nil, or_false] at member
    rcases member with rfl | rfl | rfl | rfl | rfl
    · apply routerPus17_strict ctx nowSeconds tc outCap own
      intro subtype
      by_contra carries
      exact empty ⟨own.symm, subtype, carries⟩
    · exact routerPus3_strict ctx nowSeconds tc outCap own
    · exact routerPus20_strict ctx nowSeconds tc outCap own
    · exact routerPus11_strict ctx nowSeconds tc outCap own
    · exact routerPus15_strict ctx nowSeconds tc outCap own

/-! ### The connection test -/

/-- No report is built with a sequence count that its header has no room for. -/
theorem buildTm_seqCount_le {request : TmRequest} {counters : PusCounters} {kind : TmKind}
    {sourceLen : Nat} {source : Option (List UInt8)} {out : TmOut}
    (built : buildTm request counters kind sourceLen source = some out) :
    counters.tmSeqCount ≤ 0x3FFF := by
  have inRange : (tmPrimary request counters sourceLen).InRange := by
    by_contra outside
    simp only [buildTm, ccsdsPrimaryPack] at built
    split at built
    · contradiction
    split at built
    · contradiction
    rename_i packed
    split_ifs at packed
  exact inRange.2.2.2.2.2

theorem routerPus17_eq (ctx : RouterCtx cfg) {v : TcAcceptResult} (nowSeconds : UInt32)
    (tc : List UInt8) (outCap : Nat) (service : v.serviceType = pusServiceTest) :
    routerRoute ctx v nowSeconds tc outCap = routerPus17 ctx v nowSeconds tc outCap := by
  rw [routerRoute, service]
  rfl

theorem routerPus17_success_iff (ctx : RouterCtx cfg) {v : TcAcceptResult}
    (nowSeconds : UInt32) (tc : List UInt8) {outCap : Nat}
    (subtype : v.serviceSubtype = pus17SubtypeAreYouAliveTc) (apid : ctx.apid ≤ 0x7FF)
    (room : pus17TmPacketSize ≤ outCap) :
    (routerPus17 ctx v nowSeconds tc outCap).execFc = .none ↔
      ctx.counters.tmSeqCount ≤ 0x3FFF := by
  simp only [routerPus17, pus17Execute, subtype, ne_eq, not_true_eq_false, if_false,
    routerRequest, if_neg (Nat.not_lt.mpr room)]
  constructor
  · intro succeeded
    split at succeeded
    · contradiction
    · rename_i built
      exact buildTm_seqCount_le built
  · intro seqCount
    have serves : (routerRequest ctx nowSeconds v.sourceId outCap).Serves ctx.counters
        pus17TmPacketSize := ⟨apid, seqCount, room⟩
    obtain ⟨out, built, _⟩ := buildTm_reports .areYouAlive serves
      (show ([] : List UInt8).length = 0 from rfl) (Nat.le_refl _) (by decide)
    rw [routerRequest] at built
    rw [built]
    rfl

/-- Among the requests only a connection test with data, answered, is not strict. -/
theorem routerRoute_strict_iff (ctx : RouterCtx cfg) {v : TcAcceptResult} (nowSeconds : UInt32)
    (tc : List UInt8) {outCap : Nat} (apid : ctx.apid ≤ 0x7FF)
    (room : pus17TmPacketSize ≤ outCap) :
    StrictReply (RoutedLayout ctx v (routerAppData tc))
        (routerRoute ctx v nowSeconds tc outCap) ↔
      ¬PingCarriesData tc v ∨ 0x3FFF < ctx.counters.tmSeqCount := by
  by_cases carries : PingCarriesData tc v
  · obtain ⟨service, subtype, octets⟩ := carries
    have succeeds := routerPus17_success_iff ctx nowSeconds tc subtype apid room
    have silent : StrictReply True (routerPus17 ctx v nowSeconds tc outCap) :=
      routeReturn_strict fun _ _ => trivial
    rw [routerPus17_eq ctx nowSeconds tc outCap service]
    constructor
    · intro strict
      right
      apply UInt16.not_le.mp
      intro seqCount
      have pinned := strict.success (succeeds.mpr seqCount)
      rw [RoutedLayout, service, subtype] at pinned
      exact octets (pinnedLayout_ping pinned)
    · rintro (absent | unusable)
      · exact absurd ⟨service, subtype, octets⟩ absent
      · constructor
        · intro succeeded
          exact absurd (succeeds.mp succeeded) (UInt16.not_le.mpr unusable)
        · exact silent.silent
  · exact iff_of_true (routerRoute_strict ctx nowSeconds tc outCap carries) (.inl carries)

/-! ### Dispatch -/

/-- An accepted telecommand is routed, and its reply strict. -/
def StrictAppData (ctx : RouterCtx cfg) (nowSeconds : UInt32) (tc : List UInt8)
    (outCap : Nat) : Prop :=
  ∃ reply, (tcRouterDispatch ctx nowSeconds tc outCap).routed = some reply ∧
    StrictReply (RoutedLayout ctx (tcAccept tc ctx.apid) (routerAppData tc)) reply

/-- An accepted telecommand reaches its handler behind the acceptance report. -/
theorem tcRouterDispatch_routed {ctx : RouterCtx cfg} (nowSeconds : UInt32) {tc : List UInt8}
    {outCap : Nat} (accepted : TcAccepted tc ctx.apid) (room : tcRouterMaxTm ≤ outCap) :
    let v := tcAccept tc ctx.apid
    let written := routerAcceptanceRequested (routerCount ctx v) v nowSeconds tc outCap
    (tcRouterDispatch ctx nowSeconds tc outCap).routed =
      some (routerRoute written.ctx v nowSeconds tc (outCap - written.out.length)) := by
  rw [tcRouterDispatch_accepted nowSeconds accepted room]
  rfl

/-- The acceptance report leaves room for the handler, and a sequence count as
usable as it found it. -/
theorem routerAcceptanceRequested_room {ctx : RouterCtx cfg} (apid : ctx.apid ≤ 0x7FF)
    {v : TcAcceptResult} (accepted : v.fc = .none) (nowSeconds : UInt32) {tc : List UInt8}
    (header : ccsdsPrimaryHeaderSize ≤ tc.length) {outCap : Nat}
    (room : tcRouterMaxTm ≤ outCap) :
    (routerAcceptanceRequested ctx v nowSeconds tc outCap).ctx.apid = ctx.apid ∧
      (routerAcceptanceRequested ctx v nowSeconds tc outCap).out.length ≤ 22 ∧
      ((routerAcceptanceRequested ctx v nowSeconds tc outCap).ctx.counters.tmSeqCount ≤ 0x3FFF ↔
        ctx.counters.tmSeqCount ≤ 0x3FFF) := by
  by_cases seqCount : ctx.counters.tmSeqCount ≤ 0x3FFF
  · have written := routerAcceptanceRequested_written ⟨apid, seqCount⟩ v nowSeconds header room
    rw [if_pos accepted] at written
    exact ⟨written.identity.apid, written.length,
      iff_of_true (written.emits.seqCount_le seqCount) seqCount⟩
  · have unbuilt (request : TmRequest) :
        pus1BuildAcceptance request ctx.counters (tc.take pus1RequestIdSize) v.fc = none := by
      apply Option.eq_none_iff_forall_ne_some.mpr
      intro out built
      rw [pus1BuildAcceptance, buildReport] at built
      exact seqCount (buildTm_seqCount_le built)
    unfold routerAcceptanceRequested
    split
    · rw [routerAcceptance, RouterOutput.verify]
      simp only [unbuilt]
      exact ⟨trivial, Nat.zero_le _, trivial⟩
    · exact ⟨rfl, Nat.zero_le _, Iff.rfl⟩

/-- The application data of an accepted telecommand is checked against its layout,
but for that of a connection test whose report can be built. -/
theorem tcRouterDispatch_strict_iff {ctx : RouterCtx cfg} (nowSeconds : UInt32)
    {tc : List UInt8} {outCap : Nat} (accepted : TcAccepted tc ctx.apid)
    (room : tcRouterMaxTm ≤ outCap) :
    StrictAppData ctx nowSeconds tc outCap ↔
      ¬PingCarriesData tc (tcAccept tc ctx.apid) ∨ 0x3FFF < ctx.counters.tmSeqCount := by
  obtain ⟨primary, sec, checked⟩ := accepted.checked
  have apid : ctx.apid ≤ 0x7FF := by
    rw [← checked.apid]
    exact (ccsdsPrimaryUnpack_inRange checked.unpacked).2.2.2.1
  have header : ccsdsPrimaryHeaderSize ≤ tc.length := by
    have shortest := checked.shortest
    simp only [tcRouterMinTc] at shortest
    omega
  have routed := tcRouterDispatch_routed nowSeconds accepted room
  have fc := accepted.fc
  rw [StrictAppData]
  generalize tcAccept tc ctx.apid = v at routed fc ⊢
  obtain ⟨labels, counters⟩ := routerCount_labels ctx v
  have countedApid : (routerCount ctx v).apid ≤ 0x7FF := labels.symm ▸ apid
  obtain ⟨sameApid, length, sameSeq⟩ :=
    routerAcceptanceRequested_room countedApid fc nowSeconds header room
  have stores := routerAcceptanceRequested_stores (routerCount ctx v) v nowSeconds tc outCap
  simp only at routed
  generalize routerAcceptanceRequested (routerCount ctx v) v nowSeconds tc outCap = written at *
  have datapool : written.ctx.datapool = ctx.datapool :=
    congrArg RouterStores.datapool (stores.trans (routerCount_stores ctx v))
  have space : pus17TmPacketSize ≤ outCap - written.out.length := by
    simp only [tcRouterMaxTm, pus17TmPacketSize] at room ⊢
    omega
  have handler := routerRoute_strict_iff written.ctx (v := v) nowSeconds tc
    (sameApid.symm ▸ countedApid) space
  have usable : 0x3FFF < written.ctx.counters.tmSeqCount ↔ 0x3FFF < ctx.counters.tmSeqCount := by
    rw [← UInt16.not_le, ← UInt16.not_le, sameSeq, counters]
  rw [routed, ← usable, ← handler]
  rw [RoutedLayout, RoutedLayout, datapool]
  simp

theorem tcRouterDispatch_strict_iff_poll :
    TcAccepted pollTc pollCtx.apid ∧ StrictAppData pollCtx 7 pollTc 128 := by
  have accepted : TcAccepted pollTc pollCtx.apid := by decide +kernel
  refine ⟨accepted, (tcRouterDispatch_strict_iff 7 accepted (by decide)).mpr (.inl ?_)⟩
  rintro ⟨service, _⟩
  exact absurd service (by decide +kernel)

/-- A connection test with one octet of application data. -/
def pingTc : List UInt8 :=
  [0x18, 0x2A, 0xC0, 0x00, 0x00, 0x07, 0x29, 0x11, 0x01, 0x00, 0x05, 0xFF, 0xCB, 0x7C]

/-- It is accepted, and answered as if its user data field were empty. -/
theorem tcRouterDispatch_ping_lax :
    TcAccepted pingTc pollCtx.apid ∧ ¬StrictAppData pollCtx 7 pingTc 128 := by
  refine ⟨by decide +kernel, ?_⟩
  rintro ⟨reply, routed, strict⟩
  have completes : ((tcRouterDispatch pollCtx 7 pingTc 128).routed.map fun reply =>
      reply.execFc) = some .none := by decide +kernel
  have request : (tcAccept pingTc pollCtx.apid).serviceType = pusServiceTest ∧
      (tcAccept pingTc pollCtx.apid).serviceSubtype = pus17SubtypeAreYouAliveTc := by
    decide +kernel
  rw [routed] at completes
  have pinned := strict.success (Option.some.inj completes)
  rw [RoutedLayout, request.1, request.2] at pinned
  exact absurd (pinnedLayout_ping pinned) (by decide)

end FswCore
