import FswCore.Pus.Router

/-!
Contract: what a telecommand that is not executed leaves alone.

Owns:
- a handler that ends with a failure code leaves the four stores as they were;
- a telecommand that is not addressed here leaves everything as it was, and one
  that is rejected or fails leaves the stores;
- what each single update of a dispatch keeps, every dispatch keeps.

Does not own: the reports that are emitted on the way.
-/

namespace FswCore

variable {cfg : Config}

/-- The on-board stores a telecommand can reach. -/
structure RouterStores (cfg : Config) where
  datapool : Option Datapool
  schedule : Option Schedule
  store : Option (Pktstore cfg)
  hkstore : Option Hkstore

def RouterCtx.stores (ctx : RouterCtx cfg) : RouterStores cfg :=
  { datapool := ctx.datapool
    schedule := ctx.schedule
    store := ctx.store
    hkstore := ctx.hkstore }

/-! ### Handlers -/

/-- A return commits counters at most. -/
@[simp] theorem routeReturn_stores {status : Type} [DecidableEq status]
    (unknownSubtype : status → Bool) (bufTooSmall : status) (ctx : RouterCtx cfg)
    (result : Except status (Option TmOut)) :
    (routeReturn unknownSubtype bufTooSmall ctx result).ctx.stores = ctx.stores := by
  cases result with
  | error code => rfl
  | ok report => cases report <;> rfl

theorem routeReturn_failed {status : Type} [DecidableEq status] {unknownSubtype : status → Bool}
    {bufTooSmall : status} {ctx : RouterCtx cfg} {result : Except status (Option TmOut)}
    (failed : (routeReturn unknownSubtype bufTooSmall ctx result).execFc ≠ .none) :
    ∃ code, result = .error code := by
  cases result with
  | error code => exact ⟨code, rfl⟩
  | ok report => cases report <;> exact absurd rfl failed

@[simp] theorem routeFail_stores (ctx : RouterCtx cfg) (execFc : Pus1FailureCode) :
    (routeFail ctx execFc).ctx.stores = ctx.stores := rfl

/-- A poll and the connection test reach no store. -/
theorem routerPus3Poll_stores (ctx : RouterCtx cfg) (v : TcAcceptResult) (nowSeconds : UInt32)
    (app : List UInt8) (outCap : Nat) :
    (routerPus3Poll ctx v nowSeconds app outCap).ctx.stores = ctx.stores := by
  unfold routerPus3Poll routerPus3PollFramework routerPus3PollDynamic
  split
  · rfl
  simp only
  split
  · exact routeReturn_stores ..
  split
  · rfl
  split
  · rfl
  split
  · rfl
  · exact routeReturn_stores ..

theorem routerPus17_stores (ctx : RouterCtx cfg) (v : TcAcceptResult) (nowSeconds : UInt32)
    (tc : List UInt8) (outCap : Nat) :
    (routerPus17 ctx v nowSeconds tc outCap).ctx.stores = ctx.stores :=
  routeReturn_stores ..

theorem routerPus3Manage_failed {ctx : RouterCtx cfg} {v : TcAcceptResult} {app : List UInt8}
    (failed : (routerPus3Manage ctx v app).execFc ≠ .none) :
    (routerPus3Manage ctx v app).ctx.stores = ctx.stores := by
  unfold routerPus3Manage at failed ⊢
  cases wired : ctx.hkstore with
  | none => rfl
  | some hkstore =>
      simp only [wired] at failed ⊢
      have refused : (pus3Execute cfg hkstore v.serviceSubtype app).1 ≠ .ok := by
        intro succeeded
        exact failed (if_pos succeeded)
      simp only [routeFail, RouterCtx.stores, pus3Execute_refused refused, wired]

theorem routerPus3_failed {ctx : RouterCtx cfg} {v : TcAcceptResult} {nowSeconds : UInt32}
    {tc : List UInt8} {outCap : Nat}
    (failed : (routerPus3 ctx v nowSeconds tc outCap).execFc ≠ .none) :
    (routerPus3 ctx v nowSeconds tc outCap).ctx.stores = ctx.stores := by
  simp only [routerPus3] at failed ⊢
  split_ifs at failed ⊢
  · exact routerPus3Poll_stores ..
  · exact routerPus3Manage_failed failed
  · rfl

theorem routerPus20_failed {ctx : RouterCtx cfg} {v : TcAcceptResult} {nowSeconds : UInt32}
    {tc : List UInt8} {outCap : Nat}
    (failed : (routerPus20 ctx v nowSeconds tc outCap).execFc ≠ .none) :
    (routerPus20 ctx v nowSeconds tc outCap).ctx.stores = ctx.stores := by
  unfold routerPus20 at failed ⊢
  cases wired : ctx.datapool with
  | none => rfl
  | some dp =>
      simp only [wired] at failed ⊢
      obtain ⟨code, refused⟩ := routeReturn_failed failed
      rw [routeReturn_stores, pus20Execute_refused refused]
      simp only [RouterCtx.stores, wired]

theorem routerPus11_failed {ctx : RouterCtx cfg} {v : TcAcceptResult} {nowSeconds : UInt32}
    {tc : List UInt8} {outCap : Nat}
    (failed : (routerPus11 ctx v nowSeconds tc outCap).execFc ≠ .none) :
    (routerPus11 ctx v nowSeconds tc outCap).ctx.stores = ctx.stores := by
  unfold routerPus11 at failed ⊢
  cases wired : ctx.schedule with
  | none => rfl
  | some sched =>
      simp only [wired] at failed ⊢
      obtain ⟨code, refused⟩ := routeReturn_failed failed
      rw [routeReturn_stores, pus11Execute_refused refused]
      simp only [RouterCtx.stores, wired]

theorem routerPus15_failed {ctx : RouterCtx cfg} {v : TcAcceptResult} {nowSeconds : UInt32}
    {tc : List UInt8} {outCap : Nat}
    (failed : (routerPus15 ctx v nowSeconds tc outCap).execFc ≠ .none) :
    (routerPus15 ctx v nowSeconds tc outCap).ctx.stores = ctx.stores := by
  unfold routerPus15 at failed ⊢
  cases wired : ctx.store with
  | none => rfl
  | some store =>
      simp only [wired] at failed ⊢
      obtain ⟨code, refused⟩ := routeReturn_failed failed
      rw [routeReturn_stores, pus15Execute_refused refused]
      simp only [RouterCtx.stores, wired]

/-- The handler a service type is routed to, or none. -/
theorem routerRoute_cases (ctx : RouterCtx cfg) (v : TcAcceptResult) (nowSeconds : UInt32)
    (tc : List UInt8) (outCap : Nat) :
    routerRoute ctx v nowSeconds tc outCap = routeFail ctx .execFailure ∨
      ∃ entry ∈ routerDispatchTable cfg, entry.1 = v.serviceType ∧
        routerRoute ctx v nowSeconds tc outCap = entry.2 ctx v nowSeconds tc outCap := by
  unfold routerRoute
  split
  · rename_i entry found
    exact .inr ⟨entry, List.mem_of_find?_eq_some found,
      by simpa using List.find?_some found, rfl⟩
  · exact .inl rfl

/-- A handler that ends with a failure code leaves the stores as they were. -/
theorem routerRoute_failed {ctx : RouterCtx cfg} {v : TcAcceptResult} {nowSeconds : UInt32}
    {tc : List UInt8} {outCap : Nat}
    (failed : (routerRoute ctx v nowSeconds tc outCap).execFc ≠ .none) :
    (routerRoute ctx v nowSeconds tc outCap).ctx.stores = ctx.stores := by
  rcases routerRoute_cases ctx v nowSeconds tc outCap with unrouted | ⟨entry, member, _, routed⟩
  · rw [unrouted, routeFail_stores]
  · rw [routed] at failed ⊢
    simp only [routerDispatchTable, List.mem_cons, List.not_mem_nil, or_false] at member
    rcases member with rfl | rfl | rfl | rfl | rfl
    · exact routerPus17_stores ctx v nowSeconds tc outCap
    · exact routerPus3_failed failed
    · exact routerPus20_failed failed
    · exact routerPus11_failed failed
    · exact routerPus15_failed failed

/-! ### Dispatch -/

@[simp] theorem RouterOutput.verify_stores (written : RouterOutput cfg)
    (build : TmRequest → PusCounters → Option TmOut) (nowSeconds : UInt32)
    (destinationId : UInt16) (outCap : Nat) :
    (written.verify build nowSeconds destinationId outCap).ctx.stores = written.ctx.stores := by
  unfold RouterOutput.verify
  split <;> rfl

@[simp] theorem routerCount_stores (ctx : RouterCtx cfg) (v : TcAcceptResult) :
    (routerCount ctx v).stores = ctx.stores := by
  unfold routerCount
  split <;> rfl

@[simp] theorem routerAcceptance_stores (ctx : RouterCtx cfg) (v : TcAcceptResult)
    (nowSeconds : UInt32) (tc : List UInt8) (destinationId : UInt16) (outCap : Nat) :
    (routerAcceptance ctx v nowSeconds tc destinationId outCap).ctx.stores = ctx.stores :=
  RouterOutput.verify_stores ..

@[simp] theorem routerAcceptanceRequested_stores (ctx : RouterCtx cfg) (v : TcAcceptResult)
    (nowSeconds : UInt32) (tc : List UInt8) (outCap : Nat) :
    (routerAcceptanceRequested ctx v nowSeconds tc outCap).ctx.stores = ctx.stores := by
  unfold routerAcceptanceRequested
  split
  · exact routerAcceptance_stores ..
  · rfl

/-- Behind the handler only a completion report follows. -/
theorem routerAccepted_failed {written : RouterOutput cfg} {v : TcAcceptResult}
    {nowSeconds : UInt32} {tc : List UInt8} {outCap : Nat} {routed : RouteReply cfg}
    (routes : (routerAccepted written v nowSeconds tc outCap).routed = some routed)
    (failed : routed.execFc ≠ .none) :
    (routerAccepted written v nowSeconds tc outCap).ctx.stores = written.ctx.stores := by
  obtain rfl := Option.some.inj routes
  have kept := routerRoute_failed failed
  simp only [routerAccepted]
  split
  · rw [RouterOutput.verify_stores, kept]
  · exact kept

/-- A telecommand for someone else has no effect at all; one that fails acceptance
or execution has none on the stores. -/
theorem tcRouterDispatch_atomic (ctx : RouterCtx cfg) (nowSeconds : UInt32) (tc : List UInt8)
    (outCap : Nat) :
    ((tcAccept tc ctx.apid).addressed = false →
        (tcRouterDispatch ctx nowSeconds tc outCap).out = [] ∧
          (tcRouterDispatch ctx nowSeconds tc outCap).sinkReports = [] ∧
          (tcRouterDispatch ctx nowSeconds tc outCap).ctx = ctx) ∧
      ((tcAccept tc ctx.apid).fc ≠ .none →
        (tcRouterDispatch ctx nowSeconds tc outCap).ctx.stores = ctx.stores) ∧
      (∀ routed, (tcRouterDispatch ctx nowSeconds tc outCap).routed = some routed →
        routed.execFc ≠ .none →
          (tcRouterDispatch ctx nowSeconds tc outCap).ctx.stores = ctx.stores) := by
  simp only [tcRouterDispatch]
  split_ifs with short ignored wrongLength rejected
  · exact ⟨fun _ => ⟨rfl, rfl, rfl⟩, fun _ => rfl, fun _ routes => nomatch routes⟩
  · exact ⟨fun _ => ⟨rfl, rfl, rfl⟩, fun _ => rfl, fun _ routes => nomatch routes⟩
  · refine ⟨fun silent => absurd silent ignored, fun _ => ?_, fun _ routes => nomatch routes⟩
    simp [routerRejected]
  · refine ⟨fun silent => absurd silent ignored, fun _ => ?_, fun _ routes => nomatch routes⟩
    simp [routerRejected]
  · refine ⟨fun silent => absurd silent ignored, fun failed => absurd failed rejected, ?_⟩
    intro routed routes failed
    rw [routerAccepted_failed routes failed, routerAcceptanceRequested_stores,
      routerCount_stores]

/-! ### What every dispatch keeps -/

/-- A property of the context that each single update of a dispatch keeps. -/
structure UpdatesKeep (Kept : RouterCtx cfg → Prop) : Prop where
  counters : ∀ ctx counters, Kept ctx → Kept { ctx with counters := counters }
  tcAcceptedCount : ∀ ctx count, Kept ctx → Kept { ctx with tcAcceptedCount := count }
  tcRejectedCount : ∀ ctx count, Kept ctx → Kept { ctx with tcRejectedCount := count }
  datapool : ∀ ctx datapool, Kept ctx → Kept { ctx with datapool := some datapool }
  schedule : ∀ ctx schedule, Kept ctx → Kept { ctx with schedule := some schedule }
  store : ∀ ctx store, Kept ctx → Kept { ctx with store := some store }
  hkstore : ∀ ctx hkstore subtype app, ctx.hkstore = some hkstore → Kept ctx →
    Kept { ctx with hkstore := some (pus3Execute cfg hkstore subtype app).2 }

namespace UpdatesKeep

variable {Kept : RouterCtx cfg → Prop} (keep : UpdatesKeep Kept)

include keep

theorem routeReturn {status : Type} [DecidableEq status] (unknownSubtype : status → Bool)
    (bufTooSmall : status) {ctx : RouterCtx cfg} (result : Except status (Option TmOut))
    (kept : Kept ctx) : Kept (routeReturn unknownSubtype bufTooSmall ctx result).ctx := by
  cases result with
  | error code => exact kept
  | ok report =>
      cases report with
      | none => exact kept
      | some tm => exact keep.counters ctx tm.counters kept

theorem routerPus3 {ctx : RouterCtx cfg} (v : TcAcceptResult) (nowSeconds : UInt32)
    (tc : List UInt8) (outCap : Nat) (kept : Kept ctx) :
    Kept (routerPus3 ctx v nowSeconds tc outCap).ctx := by
  simp only [FswCore.routerPus3]
  split_ifs
  · unfold routerPus3Poll routerPus3PollFramework routerPus3PollDynamic
    split
    · exact kept
    simp only
    split
    · exact keep.routeReturn _ _ _ kept
    split
    · exact kept
    split
    · exact kept
    split
    · exact kept
    · exact keep.routeReturn _ _ _ kept
  · unfold routerPus3Manage
    split
    · exact kept
    · rename_i hkstore wired
      exact keep.hkstore ctx hkstore _ _ wired kept
  · exact kept

theorem routerRoute {ctx : RouterCtx cfg} (v : TcAcceptResult) (nowSeconds : UInt32)
    (tc : List UInt8) (outCap : Nat) (kept : Kept ctx) :
    Kept (routerRoute ctx v nowSeconds tc outCap).ctx := by
  rcases routerRoute_cases ctx v nowSeconds tc outCap with unrouted | ⟨entry, member, _, routed⟩
  · rw [unrouted]
    exact kept
  · rw [routed]
    simp only [routerDispatchTable, List.mem_cons, List.not_mem_nil, or_false] at member
    rcases member with rfl | rfl | rfl | rfl | rfl
    · exact keep.routeReturn _ _ _ kept
    · exact keep.routerPus3 v nowSeconds tc outCap kept
    · simp only [routerPus20]
      split
      · exact kept
      · exact keep.routeReturn _ _ _ (keep.datapool ctx _ kept)
    · simp only [routerPus11]
      split
      · exact kept
      · exact keep.routeReturn _ _ _ (keep.schedule ctx _ kept)
    · simp only [routerPus15]
      split
      · exact kept
      · exact keep.routeReturn _ _ _ (keep.store ctx _ kept)

theorem verify {written : RouterOutput cfg} (build : TmRequest → PusCounters → Option TmOut)
    (nowSeconds : UInt32) (destinationId : UInt16) (outCap : Nat) (kept : Kept written.ctx) :
    Kept (written.verify build nowSeconds destinationId outCap).ctx := by
  unfold RouterOutput.verify
  split
  · exact kept
  · exact keep.counters written.ctx _ kept

theorem routerCount {ctx : RouterCtx cfg} (v : TcAcceptResult) (kept : Kept ctx) :
    Kept (routerCount ctx v) := by
  unfold FswCore.routerCount
  split
  · exact keep.tcRejectedCount ctx _ kept
  · exact keep.tcAcceptedCount ctx _ kept

theorem routerAcceptanceRequested {ctx : RouterCtx cfg} (v : TcAcceptResult)
    (nowSeconds : UInt32) (tc : List UInt8) (outCap : Nat) (kept : Kept ctx) :
    Kept (routerAcceptanceRequested ctx v nowSeconds tc outCap).ctx := by
  unfold FswCore.routerAcceptanceRequested
  split
  · exact keep.verify _ nowSeconds _ outCap kept
  · exact kept

theorem routerAccepted {written : RouterOutput cfg} (v : TcAcceptResult) (nowSeconds : UInt32)
    (tc : List UInt8) (outCap : Nat) (kept : Kept written.ctx) :
    Kept (routerAccepted written v nowSeconds tc outCap).ctx := by
  simp only [FswCore.routerAccepted]
  split
  · exact keep.verify _ nowSeconds _ outCap (keep.routerRoute v nowSeconds tc _ kept)
  · exact keep.routerRoute v nowSeconds tc _ kept

/-- Every dispatch keeps it. -/
theorem tcRouterDispatch {ctx : RouterCtx cfg} (nowSeconds : UInt32) (tc : List UInt8)
    (outCap : Nat) (kept : Kept ctx) : Kept (tcRouterDispatch ctx nowSeconds tc outCap).ctx := by
  have counted := keep.routerCount (tcAccept tc ctx.apid) kept
  simp only [FswCore.tcRouterDispatch]
  split_ifs
  · exact kept
  · exact kept
  · exact keep.verify _ nowSeconds _ outCap counted
  · exact keep.routerAcceptanceRequested _ nowSeconds tc outCap counted
  · exact keep.routerAccepted _ nowSeconds tc outCap
      (keep.routerAcceptanceRequested _ nowSeconds tc outCap counted)

end UpdatesKeep

end FswCore
