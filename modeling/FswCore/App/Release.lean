import FswCore.App.MainLoop
import FswCore.Pus.Atomicity

/-!
Contract: a scheduled telecommand against the same telecommand received.

Owns:
- the drop count of the router's context is read by one request only, the poll of
  the framework structure, and is never written by a dispatch;
- when the release tick and the framer do the same with a telecommand.

Does not own: what a dispatch does with the telecommand.
-/

namespace FswCore

open Library.BigEndian

variable {cfg : Config}

def RouterCtx.withDrops (ctx : RouterCtx cfg) (drops : UInt32) : RouterCtx cfg :=
  { ctx with rxRingOverflowDrops := drops }

section

variable (ctx : RouterCtx cfg) (drops : UInt32)

@[simp] theorem RouterCtx.withDrops_datapool : (ctx.withDrops drops).datapool = ctx.datapool := rfl

@[simp] theorem RouterCtx.withDrops_schedule : (ctx.withDrops drops).schedule = ctx.schedule := rfl

@[simp] theorem RouterCtx.withDrops_store : (ctx.withDrops drops).store = ctx.store := rfl

@[simp] theorem RouterCtx.withDrops_hkstore : (ctx.withDrops drops).hkstore = ctx.hkstore := rfl

end

def RouteReply.withDrops (reply : RouteReply cfg) (drops : UInt32) : RouteReply cfg :=
  { reply with ctx := reply.ctx.withDrops drops }

def RouterOutput.withDrops (written : RouterOutput cfg) (drops : UInt32) : RouterOutput cfg :=
  { written with ctx := written.ctx.withDrops drops }

def DispatchReply.withDrops (reply : DispatchReply cfg) (drops : UInt32) : DispatchReply cfg :=
  { reply with
    ctx := reply.ctx.withDrops drops
    routed := reply.routed.map fun routed => routed.withDrops drops }

/-- The one request that reads the drop count. -/
structure FrameworkPoll (v : TcAcceptResult) (tc : List UInt8) : Prop where
  service : v.serviceType = pusServiceHousekeeping
  subtype : v.serviceSubtype = pus3SubtypeOneShotPoll
  appData : (routerAppData tc).length = pus3PollTcAppDataSize
  sid : be16At (routerAppData tc) 0 = pus3SidFrameworkDiag

/-! ### Handlers -/

section Handlers

variable (ctx : RouterCtx cfg) (drops : UInt32) (v : TcAcceptResult) (nowSeconds : UInt32)
  (tc : List UInt8) (outCap : Nat)

theorem routeReturn_withDrops {status : Type} [DecidableEq status]
    (unknownSubtype : status → Bool) (bufTooSmall : status)
    (result : Except status (Option TmOut)) :
    routeReturn unknownSubtype bufTooSmall (ctx.withDrops drops) result =
      (routeReturn unknownSubtype bufTooSmall ctx result).withDrops drops := by
  cases result with
  | error code => rfl
  | ok report => cases report <;> rfl

theorem routerPus17_withDrops :
    routerPus17 (ctx.withDrops drops) v nowSeconds tc outCap =
      (routerPus17 ctx v nowSeconds tc outCap).withDrops drops :=
  routeReturn_withDrops ..

theorem routerPus20_withDrops :
    routerPus20 (ctx.withDrops drops) v nowSeconds tc outCap =
      (routerPus20 ctx v nowSeconds tc outCap).withDrops drops := by
  simp only [routerPus20, RouterCtx.withDrops_datapool]
  cases ctx.datapool with
  | none => rfl
  | some dp =>
      exact routeReturn_withDrops { ctx with datapool := some _ } drops _ _ _

theorem routerPus11_withDrops :
    routerPus11 (ctx.withDrops drops) v nowSeconds tc outCap =
      (routerPus11 ctx v nowSeconds tc outCap).withDrops drops := by
  simp only [routerPus11, RouterCtx.withDrops_schedule]
  cases ctx.schedule with
  | none => rfl
  | some sched =>
      exact routeReturn_withDrops { ctx with schedule := some _ } drops _ _ _

theorem routerPus15_withDrops :
    routerPus15 (ctx.withDrops drops) v nowSeconds tc outCap =
      (routerPus15 ctx v nowSeconds tc outCap).withDrops drops := by
  simp only [routerPus15, RouterCtx.withDrops_store]
  cases ctx.store with
  | none => rfl
  | some store =>
      exact routeReturn_withDrops { ctx with store := some _ } drops _ _ _

theorem routerPus3Manage_withDrops (app : List UInt8) :
    routerPus3Manage (ctx.withDrops drops) v app =
      (routerPus3Manage ctx v app).withDrops drops := by
  simp only [routerPus3Manage, RouterCtx.withDrops_hkstore]
  cases ctx.hkstore <;> rfl

theorem routerPus3PollDynamic_withDrops (sid : UInt16) :
    routerPus3PollDynamic (ctx.withDrops drops) v nowSeconds sid outCap =
      (routerPus3PollDynamic ctx v nowSeconds sid outCap).withDrops drops := by
  simp only [routerPus3PollDynamic, RouterCtx.withDrops_hkstore, RouterCtx.withDrops_datapool]
  cases ctx.hkstore with
  | none => rfl
  | some hkstore =>
      simp only
      cases hkstoreFind hkstore sid with
      | none => rfl
      | some held =>
          simp only
          cases ctx.datapool with
          | none => rfl
          | some dp => exact routeReturn_withDrops ctx drops _ _ _

variable {v tc} in
theorem routerPus3_withDrops (service : pusServiceHousekeeping = v.serviceType)
    (other : ¬ FrameworkPoll v tc) :
    routerPus3 (ctx.withDrops drops) v nowSeconds tc outCap =
      (routerPus3 ctx v nowSeconds tc outCap).withDrops drops := by
  simp only [routerPus3]
  split_ifs with poll manage
  · unfold routerPus3Poll
    by_cases wrongSize : (routerAppData tc).length ≠ pus3PollTcAppDataSize
    · rw [if_pos wrongSize, if_pos wrongSize]
      rfl
    · have dynamic : be16At (routerAppData tc) 0 ≠ pus3SidFrameworkDiag :=
        fun framework => other ⟨service.symm, poll, not_not.mp wrongSize, framework⟩
      simp only [if_neg wrongSize, if_neg dynamic]
      exact routerPus3PollDynamic_withDrops ..
  · exact routerPus3Manage_withDrops ..
  · rfl

variable {v tc} in
/-- Every other request is handled whatever the drop count, and leaves it. -/
theorem routerRoute_withDrops (other : ¬ FrameworkPoll v tc) :
    routerRoute (ctx.withDrops drops) v nowSeconds tc outCap =
      (routerRoute ctx v nowSeconds tc outCap).withDrops drops := by
  unfold routerRoute
  cases found : (routerDispatchTable cfg).find? fun entry => entry.1 == v.serviceType with
  | none => rfl
  | some entry =>
      have service : entry.1 = v.serviceType := by simpa using List.find?_some found
      have member := List.mem_of_find?_eq_some found
      simp only [routerDispatchTable, List.mem_cons, List.not_mem_nil, or_false] at member
      rcases member with rfl | rfl | rfl | rfl | rfl
      · exact routerPus17_withDrops ctx drops v nowSeconds tc outCap
      · exact routerPus3_withDrops ctx drops nowSeconds outCap service other
      · exact routerPus20_withDrops ..
      · exact routerPus11_withDrops ..
      · exact routerPus15_withDrops ..

end Handlers

/-! ### Dispatch -/

section Dispatch

variable (ctx : RouterCtx cfg) (drops : UInt32) (v : TcAcceptResult) (nowSeconds : UInt32)
  (tc : List UInt8) (outCap : Nat)

theorem RouterOutput.verify_withDrops (written : RouterOutput cfg)
    (build : TmRequest → PusCounters → Option TmOut) (destinationId : UInt16) :
    (written.withDrops drops).verify build nowSeconds destinationId outCap =
      (written.verify build nowSeconds destinationId outCap).withDrops drops := by
  have same : build (routerRequest (written.withDrops drops).ctx nowSeconds destinationId
      (outCap - (written.withDrops drops).out.length)) (written.withDrops drops).ctx.counters =
        build (routerRequest written.ctx nowSeconds destinationId (outCap - written.out.length))
          written.ctx.counters := rfl
  unfold RouterOutput.verify
  rw [same]
  cases build (routerRequest written.ctx nowSeconds destinationId (outCap - written.out.length))
    written.ctx.counters <;> rfl

theorem routerCount_withDrops :
    routerCount (ctx.withDrops drops) v = (routerCount ctx v).withDrops drops := by
  unfold routerCount
  split <;> rfl

theorem routerAcceptance_withDrops (destinationId : UInt16) :
    routerAcceptance (ctx.withDrops drops) v nowSeconds tc destinationId outCap =
      (routerAcceptance ctx v nowSeconds tc destinationId outCap).withDrops drops :=
  RouterOutput.verify_withDrops drops nowSeconds outCap
    { ctx := ctx, out := [], bufTooSmall := false } _ _

theorem routerAcceptanceRequested_withDrops :
    routerAcceptanceRequested (ctx.withDrops drops) v nowSeconds tc outCap =
      (routerAcceptanceRequested ctx v nowSeconds tc outCap).withDrops drops := by
  unfold routerAcceptanceRequested
  split
  · exact routerAcceptance_withDrops ..
  · rfl

theorem routerRejected_withDrops (written : RouterOutput cfg) :
    routerRejected (written.withDrops drops) v nowSeconds =
      (routerRejected written v nowSeconds).withDrops drops := rfl

variable {v tc} in
theorem routerAccepted_withDrops (written : RouterOutput cfg) (other : ¬ FrameworkPoll v tc) :
    routerAccepted (written.withDrops drops) v nowSeconds tc outCap =
      (routerAccepted written v nowSeconds tc outCap).withDrops drops := by
  have routed : routerRoute (written.withDrops drops).ctx v nowSeconds tc
      (outCap - (written.withDrops drops).out.length) =
        (routerRoute written.ctx v nowSeconds tc (outCap - written.out.length)).withDrops drops :=
    routerRoute_withDrops written.ctx drops nowSeconds _ other
  simp only [routerAccepted, routed]
  generalize routerRoute written.ctx v nowSeconds tc (outCap - written.out.length) = reply
  split
  · have completed := RouterOutput.verify_withDrops drops nowSeconds outCap
      { ctx := reply.ctx
        out := written.out ++ reply.out
        bufTooSmall := written.bufTooSmall || reply.bufTooSmall }
      (fun request counters =>
        pus1BuildCompletion request counters (tc.take pus1RequestIdSize) reply.execFc) v.sourceId
    exact congrArg (fun completed : RouterOutput cfg =>
      ({ status := .ok
         ctx := completed.ctx
         out := completed.out
         sinkReports := []
         routed := some (reply.withDrops drops)
         bufTooSmall := completed.bufTooSmall } : DispatchReply cfg)) completed
  · rfl

/-- Apart from an accepted poll of the framework structure, a dispatch does the
same whatever the drop count, and leaves it. -/
theorem tcRouterDispatch_withDrops
    (other : (tcAccept tc ctx.apid).fc = .none → ¬ FrameworkPoll (tcAccept tc ctx.apid) tc) :
    tcRouterDispatch (ctx.withDrops drops) nowSeconds tc outCap =
      (tcRouterDispatch ctx nowSeconds tc outCap).withDrops drops := by
  have verdict : tcAccept tc (ctx.withDrops drops).apid = tcAccept tc ctx.apid := rfl
  simp only [tcRouterDispatch, verdict, routerCount_withDrops]
  split_ifs with short ignored wrongLength rejected
  · rfl
  · rfl
  · rw [routerAcceptance_withDrops, routerRejected_withDrops]
  · rw [routerAcceptanceRequested_withDrops, routerRejected_withDrops]
  · rw [routerAcceptanceRequested_withDrops,
      routerAccepted_withDrops drops nowSeconds outCap _ (other (not_not.mp rejected))]

/-- No dispatch writes the drop count. -/
theorem tcRouterDispatch_drops :
    (tcRouterDispatch ctx nowSeconds tc outCap).ctx.rxRingOverflowDrops =
      ctx.rxRingOverflowDrops := by
  have keep : UpdatesKeep fun other : RouterCtx cfg =>
      other.rxRingOverflowDrops = ctx.rxRingOverflowDrops :=
    { counters := fun _ _ kept => kept
      tcAcceptedCount := fun _ _ kept => kept
      tcRejectedCount := fun _ _ kept => kept
      datapool := fun _ _ kept => kept
      schedule := fun _ _ kept => kept
      store := fun _ _ kept => kept
      hkstore := fun _ _ _ _ _ kept => kept }
  exact keep.tcRouterDispatch nowSeconds tc outCap rfl

end Dispatch

/-! ### The two paths -/

theorem loopDispatch_drops (state : LoopState cfg) (nowSeconds : UInt32) (tc : List UInt8) :
    (loopDispatch state nowSeconds tc).state.ctx.rxRingOverflowDrops =
      state.ctx.rxRingOverflowDrops := by
  simp only [loopDispatch]
  split
  · exact tcRouterDispatch_drops ..
  · exact tcRouterDispatch_drops ..

/-- The framer does what the release tick does, and leaves the interrupt's drop
count in the context, unless the telecommand polls the framework structure. -/
theorem framerDispatch_other (state : LoopState cfg) (nowSeconds : UInt32) {tc : List UInt8}
    (other : (tcAccept tc state.ctx.apid).fc = .none →
      ¬ FrameworkPoll (tcAccept tc state.ctx.apid) tc) :
    let released := releaseDispatch state nowSeconds tc
    framerDispatch state nowSeconds tc =
      { released with
        state :=
          { released.state with ctx := released.state.ctx.withDrops state.rxRingDrops } } := by
  have dispatched := tcRouterDispatch_withDrops state.ctx state.rxRingDrops nowSeconds tc
    tcRouterMaxTm other
  show loopDispatch { state with ctx := state.ctx.withDrops state.rxRingDrops } nowSeconds tc = _
  simp only [releaseDispatch, loopDispatch, dispatched]
  show (if (tcRouterDispatch state.ctx nowSeconds tc tcRouterMaxTm).status = .ok ∧
    (tcRouterDispatch state.ctx nowSeconds tc tcRouterMaxTm).out.length > 0 then _ else _) = _
  split <;> rfl

/-- A scheduled telecommand does what it does when it is received exactly where the
context already holds the interrupt's drop count. -/
theorem releaseDispatch_framer_iff {tc : List UInt8} (accepts : FramerAccepts tc)
    (state : LoopState cfg) (nowSeconds : UInt32) :
    framerFeed nowSeconds framerIdle state tc =
        (framerIdle, releaseDispatch state nowSeconds tc) ↔
      state.ctx.rxRingOverflowDrops = state.rxRingDrops := by
  rw [framerFeed_tc accepts, Prod.mk.injEq, eq_self_iff_true, true_and]
  constructor
  · intro same
    have drops := congrArg (fun reply => reply.state.ctx.rxRingOverflowDrops) same
    calc state.ctx.rxRingOverflowDrops
        = (releaseDispatch state nowSeconds tc).state.ctx.rxRingOverflowDrops :=
          (loopDispatch_drops ..).symm
      _ = (framerDispatch state nowSeconds tc).state.ctx.rxRingOverflowDrops := drops.symm
      _ = state.rxRingDrops := loopDispatch_drops ..
  · intro held
    have snapshot : { state.ctx with rxRingOverflowDrops := state.rxRingDrops } = state.ctx := by
      rw [← held]
    rw [framerDispatch, releaseDispatch, snapshot]

/-- A poll of the framework structure that asks for both reports. -/
def frameworkPollTc : List UInt8 :=
  [0x18, 0x2A, 0xC0, 0x00, 0x00, 0x08, 0x29, 0x03, 0x1B, 0x00, 0x05, 0x00, 0x01, 0x0D, 0x0B]

/-- The interrupt has dropped an octet since the context was last brought up to date. -/
def droppedState (schedule : Schedule) : LoopState defaultConfig where
  ctx :=
    { apid := 0x2A
      counters :=
        { tmSeqCount := 0
          pus1 := Vector.replicate 4 0
          pus5 := Vector.replicate 4 0
          pus17 := 0
          pus3 := 0
          pus20 := 0
          pus11 := 0
          pus15 := 0 }
      tcAcceptedCount := 0
      tcRejectedCount := 0
      rxRingOverflowDrops := 0
      sinkWired := true
      datapool := none
      schedule := some schedule
      store := some (pktstoreInit (emptyMemory defaultConfig))
      hkstore := none }
  fdir :=
    { fdir := fdirZero defaultConfig
      mode := { defs := [⟨0, 6⟩], current := 0, sinkWired := true, generation := 0 }
      modeSinkIsFdir := true }
  rxRingDrops := 1

/-- Once the context is brought up to date, the poll does the same on both paths. -/
theorem releaseDispatch_framer_iff_current :
    let current : LoopState defaultConfig :=
      { droppedState { activities := [], enabled := true, generation := 2 } with rxRingDrops := 0 }
    framerFeed 7 framerIdle current frameworkPollTc =
      (framerIdle, releaseDispatch current 7 frameworkPollTc) :=
  (releaseDispatch_framer_iff (by constructor <;> decide) _ 7).mpr rfl

/-- A scheduled poll is released with the old drop count; the poll received on the
same state reports the new one. -/
theorem releaseDispatch_framer_poll :
    let poll : ScheduleActivity := { releaseTime := 5, tc := frameworkPollTc }
    let due : Schedule := { activities := [poll], enabled := true, generation := 1 }
    let after : Schedule := { activities := [], enabled := true, generation := 2 }
    FramerAccepts frameworkPollTc ∧ frameworkPollTc.length ≤ defaultConfig.scheduleTcMax ∧
      releaseTick (droppedState due) 7 = releaseDispatch (droppedState after) 7 frameworkPollTc ∧
      (framerFeed 7 framerIdle (droppedState after) frameworkPollTc).2.sent ≠
        (releaseTick (droppedState due) 7).sent := by
  intro poll due after
  have released : releaseTick (droppedState due) 7 =
      releaseDispatch (droppedState after) 7 frameworkPollTc :=
    @releaseTick_due _ (droppedState due) due after 7 frameworkPollTc rfl (by decide +kernel)
  refine ⟨by constructor <;> decide, by decide, released, ?_⟩
  rw [released]
  decide +kernel

end FswCore
