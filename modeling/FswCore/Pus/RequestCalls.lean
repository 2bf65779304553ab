import FswCore.Hkstore.Invariant
import FswCore.Pus.Atomicity
import FswCore.Schedule.Uniqueness

/-!
Contract: what a telecommand does to the on-board stores, as calls of their
interfaces.

Owns:
- the calls each service makes for a request, and none for one it refuses;
- the calls of a dispatch, and that they are all that happens to the stores.

Does not own: the reports on the way, and what a call does to its store.
-/

namespace FswCore

open Library Library.BigEndian

variable {cfg : Config}

/-! ### Calls -/

/-- Calls of the stores; those of one store are in order. -/
structure StoreCalls where
  datapool : List (UInt16 × DpValue) := []
  schedule : List ScheduleOp := []
  hkstore : List HkstoreOp := []
  pktstore : List PktstoreOp := []

def StoreCalls.andThen (first second : StoreCalls) : StoreCalls where
  datapool := first.datapool ++ second.datapool
  schedule := first.schedule ++ second.schedule
  hkstore := first.hkstore ++ second.hkstore
  pktstore := first.pktstore ++ second.pktstore

def scheduleCalls (cfg : Config) (sched : Schedule) (ops : List ScheduleOp) : Schedule :=
  ops.foldl (fun sched op => (scheduleApply cfg sched op).2) sched

def hkstoreOpsRun (cfg : Config) (store : Hkstore) (ops : List HkstoreOp) : Hkstore :=
  ops.foldl (hkstoreApply cfg) store

/-- The stores that are wired, behind their calls. -/
def RouterStores.after (stores : RouterStores cfg) (calls : StoreCalls) : RouterStores cfg where
  datapool := stores.datapool.map fun dp => pus20Apply dp calls.datapool
  schedule := stores.schedule.map fun sched => scheduleCalls cfg sched calls.schedule
  store := stores.store.map fun store => (pktstoreRun store calls.pktstore).2
  hkstore := stores.hkstore.map fun hkstore => hkstoreOpsRun cfg hkstore calls.hkstore

@[simp] theorem RouterStores.after_none (stores : RouterStores cfg) : stores.after {} = stores := by
  simp [RouterStores.after, pus20Apply, scheduleCalls, hkstoreOpsRun, pktstoreRun]

section OneStore

variable (stores : RouterStores cfg)

theorem RouterStores.after_datapool (sets : List (UInt16 × DpValue)) :
    stores.after { datapool := sets } =
      { stores with datapool := stores.datapool.map fun dp => pus20Apply dp sets } := by
  simp [RouterStores.after, scheduleCalls, hkstoreOpsRun, pktstoreRun]

theorem RouterStores.after_schedule (ops : List ScheduleOp) :
    stores.after { schedule := ops } =
      { stores with schedule := stores.schedule.map fun sched => scheduleCalls cfg sched ops } := by
  simp [RouterStores.after, pus20Apply, hkstoreOpsRun, pktstoreRun]

theorem RouterStores.after_hkstore (ops : List HkstoreOp) :
    stores.after { hkstore := ops } =
      { stores with hkstore := stores.hkstore.map fun store => hkstoreOpsRun cfg store ops } := by
  simp [RouterStores.after, pus20Apply, scheduleCalls, pktstoreRun]

theorem RouterStores.after_pktstore (ops : List PktstoreOp) :
    stores.after { pktstore := ops } =
      { stores with store := stores.store.map fun store => (pktstoreRun store ops).2 } := by
  simp [RouterStores.after, pus20Apply, scheduleCalls, hkstoreOpsRun]

end OneStore

theorem pktstoreRun_append (store : Pktstore cfg) (first second : List PktstoreOp) :
    (pktstoreRun store (first ++ second)).2 =
      (pktstoreRun (pktstoreRun store first).2 second).2 := by
  induction first generalizing store with
  | nil => rfl
  | cons op rest inductionHypothesis => exact inductionHypothesis _

theorem RouterStores.after_andThen (stores : RouterStores cfg) (first second : StoreCalls) :
    stores.after (first.andThen second) = (stores.after first).after second := by
  simp only [RouterStores.after, StoreCalls.andThen, pus20Apply, scheduleCalls, hkstoreOpsRun,
    List.foldl_append, pktstoreRun_append, Option.map_map]
  rfl

/-! ### Services -/

def pus20Calls (cfg : Config) (dp : Datapool) (serviceSubtype : UInt8) (app : List UInt8) :
    List (UInt16 × DpValue) :=
  if serviceSubtype = pus20SubtypeSetRequest then
    match pus20DecodeSets cfg dp app with
    | .error _ => []
    | .ok sets => sets
  else []

theorem pus20Execute_calls (request : TmRequest) (counters : PusCounters) (dp : Datapool)
    (serviceSubtype : UInt8) (app : List UInt8) :
    (pus20Execute cfg request counters dp serviceSubtype app).2 =
      pus20Apply dp (pus20Calls cfg dp serviceSubtype app) := by
  by_cases report : serviceSubtype = pus20SubtypeReportRequest
  · subst report
    rfl
  simp only [pus20Execute, if_neg report, pus20Calls]
  split
  · cases decoded : pus20DecodeSets cfg dp app with
    | error status => simp only [pus20Set, decoded, pus20Apply, List.foldl_nil]
    | ok sets => simp only [pus20Set, decoded]
  · rfl

def pus11Calls (cfg : Config) (sched : Schedule) (serviceSubtype : UInt8) (app : List UInt8) :
    List ScheduleOp :=
  if serviceSubtype = pus11SubtypeEnable then if app.length ≠ 0 then [] else [.setEnabled true]
  else if serviceSubtype = pus11SubtypeDisable then
    if app.length ≠ 0 then [] else [.setEnabled false]
  else if serviceSubtype = pus11SubtypeReset then if app.length ≠ 0 then [] else [.reset]
  else if serviceSubtype = pus11SubtypeInsert then
    match pus11DecodeInserts cfg sched app with
    | .error _ => []
    | .ok batch => batch.map fun activity => .insert activity.releaseTime activity.tc
  else if serviceSubtype = pus11SubtypeDelete then
    match pus11DecodeRequestIds cfg app with
    | .error _ => []
    | .ok ids => if ids.any fun id => (scheduleFind sched id).isNone then [] else ids.map .delete
  else []

theorem pus11Execute_calls (request : TmRequest) (counters : PusCounters) (sched : Schedule)
    (serviceSubtype : UInt8) (app : List UInt8) :
    (pus11Execute cfg request counters sched serviceSubtype app).2 =
      scheduleCalls cfg sched (pus11Calls cfg sched serviceSubtype app) := by
  simp only [pus11Execute, pus11Calls]
  split_ifs
  · rfl
  · rfl
  · rfl
  · rfl
  · rfl
  · rfl
  · cases decoded : pus11DecodeInserts cfg sched app with
    | error status => simp only [pus11Insert, decoded, scheduleCalls, List.foldl_nil]
    | ok batch =>
        simp only [pus11Insert, decoded, scheduleCalls, List.foldl_map]
        rfl
  · cases decoded : pus11DecodeRequestIds cfg app with
    | error status => simp only [pus11Delete, decoded, scheduleCalls, List.foldl_nil]
    | ok ids =>
        simp only [pus11Delete, decoded]
        split
        · rfl
        · rw [scheduleCalls, List.foldl_map]
          rfl
  · rfl
  · rfl

def pus3Calls (cfg : Config) (serviceSubtype : UInt8) (app : List UInt8) : List HkstoreOp :=
  if serviceSubtype = pus3SubtypeCreateStructure then
    let count := (app.getD 2 0).toNat
    if app.length < 7 then []
    else if app.length ≠ 7 + 2 * count then []
    else if count > cfg.hkstoreMaxParams then []
    else [.create (be16At app 0) ((List.range count).map fun index => be16At app (3 + 2 * index))
      (be32At app (3 + 2 * count))]
  else if serviceSubtype = pus3SubtypeDeleteStructure ∨
      serviceSubtype = pus3SubtypeEnableStructure ∨
      serviceSubtype = pus3SubtypeDisableStructure then
    if app.length ≠ pus3SidSize then []
    else if serviceSubtype = pus3SubtypeDeleteStructure then [.delete (be16At app 0)]
    else [.setEnabled (be16At app 0) (serviceSubtype == pus3SubtypeEnableStructure)]
  else []

theorem pus3Execute_calls (store : Hkstore) (serviceSubtype : UInt8) (app : List UInt8) :
    (pus3Execute cfg store serviceSubtype app).2 =
      hkstoreOpsRun cfg store (pus3Calls cfg serviceSubtype app) := by
  simp only [pus3Execute, pus3Calls, pus3ExecCreate, pus3ExecSidOnly]
  split_ifs <;> rfl

def pus15Calls (serviceSubtype : UInt8) (app : List UInt8) : List PktstoreOp :=
  if serviceSubtype = pus15SubtypeEnableStorage then
    if app.length ≠ 0 then [] else [.setEnabled true]
  else if serviceSubtype = pus15SubtypeDisableStorage then
    if app.length ≠ 0 then [] else [.setEnabled false]
  else if serviceSubtype = pus15SubtypeDownlinkRange then
    if app.length ≠ 8 then [] else [.armRetrieval (be32At app 0) (be32At app 4)]
  else if serviceSubtype = pus15SubtypeDeleteRange then
    if app.length ≠ 4 then [] else [.deleteUpTo (be32At app 0)]
  else []

theorem pus15Execute_calls (request : TmRequest) (counters : PusCounters) (store : Pktstore cfg)
    (serviceSubtype : UInt8) (app : List UInt8) :
    (pus15Execute request counters store serviceSubtype app).2 =
      (pktstoreRun store (pus15Calls serviceSubtype app)).2 := by
  simp only [pus15Execute, pus15Calls, pus15Downlink, pus15Delete]
  split_ifs
  · rfl
  · rfl
  · rfl
  · rfl
  · rfl
  · simp only [pktstoreRun, pktstoreApply]
    split <;> rename_i result <;> rw [result]
  · rfl
  · simp only [pktstoreRun, pktstoreApply]
    split <;> rename_i result <;> rw [result]
  · rfl
  · rfl
  · rfl

/-! ### Dispatch -/

/-- The calls of an accepted request, by its service. -/
def requestCalls (stores : RouterStores cfg) (v : TcAcceptResult) (app : List UInt8) :
    StoreCalls :=
  if v.serviceType = pusServiceHousekeeping then
    { hkstore := pus3Calls cfg v.serviceSubtype app }
  else if v.serviceType = pusServiceOnboardParameter then
    { datapool :=
        (stores.datapool.map fun dp => pus20Calls cfg dp v.serviceSubtype app).getD [] }
  else if v.serviceType = pusServiceScheduling then
    { schedule :=
        (stores.schedule.map fun sched => pus11Calls cfg sched v.serviceSubtype app).getD [] }
  else if v.serviceType = pusServiceStorage then { pktstore := pus15Calls v.serviceSubtype app }
  else {}

/-- The calls of a telecommand: those of its request if it is accepted. -/
def dispatchCalls (ctx : RouterCtx cfg) (tc : List UInt8) : StoreCalls :=
  let v := tcAccept tc ctx.apid
  if v.addressed = true ∧ v.fc = .none then requestCalls ctx.stores v (routerAppData tc) else {}

theorem routerPus3_calls (ctx : RouterCtx cfg) (v : TcAcceptResult) (nowSeconds : UInt32)
    (tc : List UInt8) (outCap : Nat) :
    (routerPus3 ctx v nowSeconds tc outCap).ctx.stores =
      ctx.stores.after { hkstore := pus3Calls cfg v.serviceSubtype (routerAppData tc) } := by
  have notManaged {serviceSubtype : UInt8}
      (other : ¬(serviceSubtype = pus3SubtypeCreateStructure ∨
        serviceSubtype = pus3SubtypeDeleteStructure ∨
        serviceSubtype = pus3SubtypeEnableStructure ∨
        serviceSubtype = pus3SubtypeDisableStructure)) (app : List UInt8) :
      pus3Calls cfg serviceSubtype app = [] := by
    rw [not_or] at other
    rw [pus3Calls, if_neg other.1, if_neg other.2]
  simp only [routerPus3]
  split_ifs with poll managed
  · rw [routerPus3Poll_stores, notManaged (by rw [poll]; decide), RouterStores.after_none]
  · rw [RouterStores.after_hkstore, routerPus3Manage]
    cases wired : ctx.hkstore with
    | none => simp only [RouterCtx.stores, routeFail, wired, Option.map_none]
    | some hkstore =>
        simp only [RouterCtx.stores, routeFail, wired, Option.map_some, pus3Execute_calls]
  · rw [notManaged managed, RouterStores.after_none, routeFail_stores]

theorem routerPus20_calls (ctx : RouterCtx cfg) (v : TcAcceptResult) (nowSeconds : UInt32)
    (tc : List UInt8) (outCap : Nat) :
    (routerPus20 ctx v nowSeconds tc outCap).ctx.stores =
      ctx.stores.after { datapool := (ctx.stores.datapool.map fun dp =>
        pus20Calls cfg dp v.serviceSubtype (routerAppData tc)).getD [] } := by
  rw [RouterStores.after_datapool, routerPus20]
  cases wired : ctx.datapool with
  | none => simp only [RouterCtx.stores, routeFail, wired, Option.map_none]
  | some dp =>
      simp only [routeReturn_stores, pus20Execute_calls]
      simp only [RouterCtx.stores, wired, Option.map_some, Option.getD_some]

theorem routerPus11_calls (ctx : RouterCtx cfg) (v : TcAcceptResult) (nowSeconds : UInt32)
    (tc : List UInt8) (outCap : Nat) :
    (routerPus11 ctx v nowSeconds tc outCap).ctx.stores =
      ctx.stores.after { schedule := (ctx.stores.schedule.map fun sched =>
        pus11Calls cfg sched v.serviceSubtype (routerAppData tc)).getD [] } := by
  rw [RouterStores.after_schedule, routerPus11]
  cases wired : ctx.schedule with
  | none => simp only [RouterCtx.stores, routeFail, wired, Option.map_none]
  | some sched =>
      simp only [routeReturn_stores, pus11Execute_calls]
      simp only [RouterCtx.stores, wired, Option.map_some, Option.getD_some]

theorem routerPus15_calls (ctx : RouterCtx cfg) (v : TcAcceptResult) (nowSeconds : UInt32)
    (tc : List UInt8) (outCap : Nat) :
    (routerPus15 ctx v nowSeconds tc outCap).ctx.stores =
      ctx.stores.after { pktstore := pus15Calls v.serviceSubtype (routerAppData tc) } := by
  rw [RouterStores.after_pktstore, routerPus15]
  cases wired : ctx.store with
  | none => simp only [RouterCtx.stores, routeFail, wired, Option.map_none]
  | some store =>
      simp only [routeReturn_stores, pus15Execute_calls]
      simp only [RouterCtx.stores, wired, Option.map_some]

/-- The table as the chain of comparisons its search makes. -/
theorem routerRoute_eq (ctx : RouterCtx cfg) (v : TcAcceptResult) (nowSeconds : UInt32)
    (tc : List UInt8) (outCap : Nat) :
    routerRoute ctx v nowSeconds tc outCap =
      if v.serviceType = pusServiceTest then routerPus17 ctx v nowSeconds tc outCap
      else if v.serviceType = pusServiceHousekeeping then routerPus3 ctx v nowSeconds tc outCap
      else if v.serviceType = pusServiceOnboardParameter then routerPus20 ctx v nowSeconds tc outCap
      else if v.serviceType = pusServiceScheduling then routerPus11 ctx v nowSeconds tc outCap
      else if v.serviceType = pusServiceStorage then routerPus15 ctx v nowSeconds tc outCap
      else routeFail ctx .execFailure := by
  have turned (service : UInt8) : (service == v.serviceType) = (v.serviceType == service) :=
    BEq.comm
  have tested (service : UInt8) :
      (v.serviceType = service) = ((v.serviceType == service) = true) := beq_iff_eq.symm.eq
  simp only [routerRoute, routerDispatchTable, List.find?_cons, List.find?_nil, turned, tested]
  cases v.serviceType == pusServiceTest
  · cases v.serviceType == pusServiceHousekeeping
    · cases v.serviceType == pusServiceOnboardParameter
      · cases v.serviceType == pusServiceScheduling
        · cases v.serviceType == pusServiceStorage <;> rfl
        · rfl
      · rfl
    · rfl
  · rfl

/-- Each handler makes its service's calls and no other. -/
theorem routerRoute_calls (ctx : RouterCtx cfg) (v : TcAcceptResult) (nowSeconds : UInt32)
    (tc : List UInt8) (outCap : Nat) :
    (routerRoute ctx v nowSeconds tc outCap).ctx.stores =
      ctx.stores.after (requestCalls ctx.stores v (routerAppData tc)) := by
  rw [routerRoute_eq, requestCalls]
  by_cases test : v.serviceType = pusServiceTest
  · rw [if_pos test, test]
    simp [pusServiceTest, pusServiceHousekeeping, pusServiceOnboardParameter,
      pusServiceScheduling, pusServiceStorage, routerPus17_stores]
  rw [if_neg test]
  split_ifs
  · exact routerPus3_calls ..
  · exact routerPus20_calls ..
  · exact routerPus11_calls ..
  · exact routerPus15_calls ..
  · rw [RouterStores.after_none, routeFail_stores]

/-- The calls of a telecommand are all that a dispatch does to the stores. -/
theorem tcRouterDispatch_calls (ctx : RouterCtx cfg) (nowSeconds : UInt32) (tc : List UInt8)
    {outCap : Nat} (room : tcRouterMaxTm ≤ outCap) :
    (tcRouterDispatch ctx nowSeconds tc outCap).ctx.stores =
      ctx.stores.after (dispatchCalls ctx tc) := by
  simp only [tcRouterDispatch, if_neg (Nat.not_lt.mpr room), dispatchCalls]
  by_cases ignored : (tcAccept tc ctx.apid).addressed = false
  · simp [ignored]
  rw [if_neg ignored]
  by_cases accepted : (tcAccept tc ctx.apid).fc = .none
  · rw [if_neg (by rw [accepted]; decide), if_neg (not_not.mpr accepted),
      if_pos ⟨by simpa using ignored, accepted⟩]
    have executed := routerRoute_calls
      (routerAcceptanceRequested (routerCount ctx (tcAccept tc ctx.apid)) (tcAccept tc ctx.apid)
        nowSeconds tc outCap).ctx (tcAccept tc ctx.apid) nowSeconds tc
    simp only [routerAcceptanceRequested_stores, routerCount_stores] at executed
    simp only [routerAccepted]
    split
    · rw [RouterOutput.verify_stores, executed]
    · rw [executed]
  · rw [if_neg (c := _ ∧ _) fun both => accepted both.2, RouterStores.after_none]
    split_ifs
    · simp [routerRejected]
    · simp [routerRejected]

end FswCore
