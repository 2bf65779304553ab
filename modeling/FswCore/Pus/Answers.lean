import FswCore.Pktstore.Capture
import FswCore.Pus.ReportSet
import FswCore.Pus.ScheduleRequests
import FswCore.Pus.Verification

/-!
Contract: what a query is answered, read off the stores.

Owns:
- `countedItems`, the items behind a count octet, by their layout alone;
- the source data the datapool, the schedule, the packet store and the housekeeping
  store answer a query with;
- every service answers so, and answers nothing to a query that is malformed or names
  what its store does not hold.

Does not own: in which packets of a run the answers stand.
-/

namespace FswCore

open Library Library.BigEndian

variable {cfg : Config}

/-! ### Counted items -/

/-- A count octet, and the items behind it. -/
def countedSource (items : List (List UInt8)) : List UInt8 :=
  UInt8.ofNat items.length :: items.flatten

/-- The items of this width behind a count octet: at most so many, and nothing else. -/
def countedItems (limit width : Nat) : List UInt8 → Option (List (List UInt8))
  | [] => none
  | count :: rest =>
      if count.toNat ≤ limit ∧ rest.length = count.toNat * width then
        some ((List.range count.toNat).map (slice width rest))
      else none

theorem countedSource_map {α : Type} (items : List α) (octets : α → List UInt8) :
    countedSource (items.map octets) = [UInt8.ofNat items.length] ++ items.flatMap octets := by
  rw [countedSource, List.length_map, List.flatMap_def]
  rfl

theorem countedItems_iff {limit width : Nat} {app : List UInt8} {items : List (List UInt8)} :
    countedItems limit width app = some items ↔
      app = countedSource items ∧ items.length < 256 ∧ items.length ≤ limit ∧
        ∀ item ∈ items, item.length = width := by
  constructor
  · intro decoded
    cases app with
    | nil => contradiction
    | cons count rest =>
        rw [countedItems] at decoded
        split_ifs at decoded with layout
        obtain ⟨few, sized⟩ := layout
        obtain rfl := Option.some.inj decoded
        have total : width * count.toNat ≤ rest.length := by rw [sized, Nat.mul_comm]
        rw [countedSource, flatten_slices, ← sized, List.take_length, List.length_map,
          List.length_range, UInt8.ofNat_toNat]
        exact ⟨rfl, count.toNat_lt, few, slices_sized total⟩
  · rintro ⟨rfl, counted, few, sized⟩
    have count : (UInt8.ofNat items.length).toNat = items.length := by
      rw [UInt8.toNat_ofNat', Nat.mod_eq_of_lt counted]
    have octets : items.flatten.length = items.length * width := by
      have total : (items.flatMap id).length = width * items.length := length_flatMap_eq sized
      rw [← List.flatMap_id, total, Nat.mul_comm]
    rw [countedSource, countedItems, count, if_pos ⟨few, octets⟩, slices_flatten sized]

/-! ### Answers -/

/-- A report on what a store holds, as it is read on the ground. -/
structure Answer where
  service : UInt8
  subtype : UInt8
  destinationId : UInt16
  source : List UInt8
deriving DecidableEq, Repr

def Answer.of (kind : TmKind) (destinationId : UInt16) (source : List UInt8) : Answer where
  service := kind.service
  subtype := kind.subtype
  destinationId := destinationId
  source := source

/-- The values of the parameters named, each behind its identifier. -/
def Datapool.answer (cfg : Config) (dp : Datapool) (app : List UInt8) : Option (List UInt8) :=
  (countedItems cfg.pus20MaxParamsPerTc 2 app).bind fun items =>
    ((items.map fun item => be16At item 0).mapM (datapoolFind dp)).map fun found =>
      countedSource (found.map pus20ParamSource)

/-- The activities of these requests that are scheduled. -/
def Schedule.named (sched : Schedule) (requestIds : List (List UInt8)) : List ScheduleActivity :=
  requestIds.filterMap fun requestId =>
    sched.activities.find? fun activity => requestIdOf activity.tc == requestId

/-- Release time and request of the activities named that are scheduled. -/
def Schedule.answer (cfg : Config) (sched : Schedule) (app : List UInt8) : Option (List UInt8) :=
  (countedItems cfg.pus11MaxPerTc scheduleRequestIdSize app).map fun requestIds =>
    countedSource ((sched.named requestIds).map pus11SummaryEntry)

/-- Whether packets are recorded, how many are held, and the oldest and the newest time. -/
def Pktstore.answer (store : Pktstore cfg) (app : List UInt8) : Option (List UInt8) :=
  let times := (pktstoreView store).map (·.storageTime)
  if app = [] then
    some ([if store.enabled then 1 else 0] ++ put16 (UInt16.ofNat times.length) ++
      put32 (times.head?.getD 0) ++ put32 (times.getLast?.getD 0))
  else none

/-- The identifier of a structure and the values of its parameters. -/
def HkStructure.source (dp : Datapool) (held : HkStructure) : Option (List UInt8) :=
  (held.paramIds.mapM fun id => (datapoolFind dp id).map (·.value)).map fun values =>
    put16 held.sid ++ values.flatMap dpValueImage

/-- The structure named, but for that of the framework, which is none of the store's. -/
def Hkstore.answer (hkstore : Hkstore) (dp : Datapool) (app : List UInt8) :
    Option (List UInt8) :=
  if app.length = 2 ∧ be16At app 0 ≠ pus3SidFrameworkDiag then
    (hkstore.held.find? fun held => held.sid == be16At app 0).bind (·.source dp)
  else none

def RouterStores.structureAnswer (stores : RouterStores cfg) (app : List UInt8) :
    Option (List UInt8) :=
  stores.hkstore.bind fun hkstore => stores.datapool.bind fun dp => hkstore.answer dp app

/-- The answer to a telecommand, back to its source, if it is a query. -/
def RouterStores.answer (stores : RouterStores cfg) (v : TcAcceptResult) (app : List UInt8) :
    Option Answer :=
  if v.serviceType = pusServiceTest then
    (if v.serviceSubtype = pus17SubtypeAreYouAliveTc then some [] else none).map
      (.of .areYouAlive v.sourceId)
  else if v.serviceType = pusServiceHousekeeping then
    (if v.serviceSubtype = pus3SubtypeOneShotPoll then stores.structureAnswer app else none).map
      (.of .hkParamReport v.sourceId)
  else if v.serviceType = pusServiceOnboardParameter then
    (if v.serviceSubtype = pus20SubtypeReportRequest then stores.datapool.bind (·.answer cfg app)
      else none).map (.of .valueReport v.sourceId)
  else if v.serviceType = pusServiceScheduling then
    (if v.serviceSubtype = pus11SubtypeSummaryReportRequest then
      stores.schedule.bind (·.answer cfg app) else none).map (.of .summaryReport v.sourceId)
  else if v.serviceType = pusServiceStorage then
    (if v.serviceSubtype = pus15SubtypeReportRequest then stores.store.bind (·.answer app)
      else none).map (.of .storeReport v.sourceId)
  else none

/-! ### Lookups -/

theorem pus11DecodeRequestIds_items (cfg : Config) (app : List UInt8) :
    (pus11DecodeRequestIds cfg app).toOption =
      countedItems cfg.pus11MaxPerTc scheduleRequestIdSize app := by
  have same (ids : List (List UInt8)) : pus11DecodeRequestIds cfg app = .ok ids ↔
      countedItems cfg.pus11MaxPerTc scheduleRequestIdSize app = some ids :=
    pus11DecodeRequestIds_iff.trans countedItems_iff.symm
  cases decoded : pus11DecodeRequestIds cfg app with
  | ok ids => exact ((same ids).mp decoded).symm
  | error status =>
      cases items : countedItems cfg.pus11MaxPerTc scheduleRequestIdSize app with
      | none => rfl
      | some ids =>
          rw [(same ids).mpr items] at decoded
          contradiction

theorem scheduleFind_eq (sched : Schedule) {requestId : List UInt8}
    (sized : requestId.length = scheduleRequestIdSize) :
    scheduleFind sched requestId =
      sched.activities.find? fun activity => requestIdOf activity.tc == requestId := by
  have equal : (fun activity : ScheduleActivity => schedRequestIdEq activity.tc requestId) =
      fun activity => requestIdOf activity.tc == requestId := by
    funext activity
    rw [Bool.eq_iff_iff, schedRequestIdEq_iff, beq_iff_eq, requestIdOf_of_length sized]
  rw [scheduleFind, schedIndexOf, equal, List.find?_eq_bind_findIdx?_getElem?]
  split <;> rename_i found <;> rw [found] <;> rfl

/-- The parameters collected are those looked up, one after the other. -/
theorem pus20CollectLoop_lookups (dp : Datapool) (app : List UInt8) (remaining off : Nat)
    (found : List DpParam) (source : Nat) :
    (pus20CollectLoop dp app remaining off found source).toOption.map Prod.fst =
      (((List.range remaining).map fun index => pus20ReadId app (off + 2 * index)).mapM
        (datapoolFind dp)).map (found ++ ·) := by
  induction remaining generalizing off found source with
  | zero => simp [pus20CollectLoop, Except.toOption]
  | succ remaining inductionHypothesis =>
      have later : ((List.range remaining).map Nat.succ).map
          (fun index => pus20ReadId app (off + 2 * index)) =
            (List.range remaining).map fun index => pus20ReadId app (off + 2 + 2 * index) := by
        rw [List.map_map]
        refine List.map_congr_left fun index _ => ?_
        rw [Function.comp_apply, Nat.succ_eq_add_one, Nat.mul_add, Nat.add_right_comm,
          Nat.add_assoc]
      rw [List.range_succ_eq_map, List.map_cons, later, List.mapM_cons, Nat.mul_zero, Nat.add_zero,
        pus20CollectLoop]
      cases datapoolFind dp (pus20ReadId app off) with
      | none => rfl
      | some param =>
          simp only [inductionHypothesis]
          cases ((List.range remaining).map fun index =>
            pus20ReadId app (off + 2 + 2 * index)).mapM (datapoolFind dp) <;> simp

theorem pus20Collect_lookups (cfg : Config) (dp : Datapool) (app : List UInt8) :
    (pus20Collect cfg dp app).toOption.map Prod.fst =
      (countedItems cfg.pus20MaxParamsPerTc 2 app).bind fun items =>
        (items.map fun item => be16At item 0).mapM (datapoolFind dp) := by
  cases app with
  | nil => rfl
  | cons count rest =>
      have empty : ¬(count :: rest).length < 1 := by simp
      rw [pus20Collect, if_neg empty, countedItems]
      simp only [List.getD_cons_zero]
      by_cases many : count.toNat > cfg.pus20MaxParamsPerTc
      · rw [if_pos many, if_neg fun layout => Nat.not_le.mpr many layout.1]
        rfl
      by_cases sized : (count :: rest).length = 1 + 2 * count.toNat
      · have total : rest.length = count.toNat * 2 := by
          rw [List.length_cons] at sized
          omega
        have ids : ((List.range count.toNat).map (slice 2 rest)).map (fun item => be16At item 0) =
            (List.range count.toNat).map fun index =>
              pus20ReadId (count :: rest) (1 + 2 * index) := by
          rw [List.map_map]
          refine List.map_congr_left fun index _ => ?_
          have tail : be16At (count :: rest) (1 + 2 * index) = be16At rest (2 * index) :=
            (be16At_drop (count :: rest) 1 (2 * index)).symm
          rw [Function.comp_apply, slice, be16At_window (Nat.le_refl _), pus20ReadId, tail,
            Nat.mul_comm, Nat.add_zero]
        rw [if_neg many, if_neg (not_not.mpr sized), if_pos ⟨Nat.not_lt.mp many, total⟩,
          pus20CollectLoop_lookups, Option.bind_some, ids]
        simp
      · have other : rest.length ≠ count.toNat * 2 := by
          rw [List.length_cons] at sized
          omega
        rw [if_neg many, if_pos sized, if_neg fun layout => other layout.2]
        rfl

theorem pus3ResolveParams_eq (dp : Datapool) (ids : List UInt16) :
    pus3ResolveParams dp ids = ids.mapM fun id => (datapoolFind dp id).map (·.value) := by
  induction ids with
  | nil => rfl
  | cons id rest inductionHypothesis =>
      rw [pus3ResolveParams, datapoolGet, List.mapM_cons, inductionHypothesis]
      cases datapoolFind dp id with
      | none => rfl
      | some param =>
          cases rest.mapM fun id => (datapoolFind dp id).map (·.value) <;> rfl

theorem pus15StoreSource_eq (store : Pktstore cfg) :
    store.answer [] = some (pus15StoreSource store) := by
  have count : ((pktstoreView store).map (·.storageTime)).length = store.count := by
    rw [List.length_map, pktstoreView, ringView_length]
  have oldest : (pktstoreSpan store).map Prod.fst =
      ((pktstoreView store).map (·.storageTime)).head? := by
    rw [pktstoreSpan, List.head?_map, pktstoreView]
    by_cases empty : store.count = 0
    · rw [if_pos empty, empty]
      rfl
    · rw [if_neg empty, ringView_head? _ _ (Nat.pos_of_ne_zero empty)]
      rfl
  have newest : (pktstoreSpan store).map Prod.snd =
      ((pktstoreView store).map (·.storageTime)).getLast? := by
    rw [pktstoreSpan, List.getLast?_map, pktstoreView]
    by_cases empty : store.count = 0
    · rw [if_pos empty, empty]
      rfl
    · rw [if_neg empty, ringView_getLast? _ _ (Nat.pos_of_ne_zero empty)]
      rfl
  simp only [Pktstore.answer, if_true, count, ← oldest, ← newest, pus15StoreSource,
    pktstoreIsEnabled, pktstoreCount]
  cases pktstoreSpan store <;> rfl

/-! ### Services -/

/-- A service reports, as a report of this kind, what it owes, or nothing. -/
def Answers {status : Type} (result : Except status (Option TmOut)) (request : TmRequest)
    (counters : PusCounters) (kind : TmKind) (owed : Option (List UInt8)) : Prop :=
  match result with
  | .ok (some out) =>
      ∃ source, owed = some source ∧ ReadsAs out.packet (tmPacket request counters kind source)
  | _ => owed = none

theorem answers_nothing {status α : Type} {request : TmRequest} {counters : PusCounters}
    {kind : TmKind} (result : Except status α) :
    Answers (result.map fun _ => none) request counters kind none := by
  cases result <;> rfl

section Services

variable {request : TmRequest} {counters : PusCounters}

theorem pus17Execute_answers (serves : request.Serves counters pus17TmPacketSize)
    (serviceSubtype : UInt8) :
    Answers ((pus17Execute request counters serviceSubtype).map some) request counters
      .areYouAlive (if serviceSubtype = pus17SubtypeAreYouAliveTc then some [] else none) := by
  have room : ¬request.outCap < pus17TmPacketSize := Nat.not_lt.mpr serves.room
  obtain ⟨out, built, reports⟩ :=
    buildTm_reports .areYouAlive serves (show ([] : List UInt8).length = 0 from rfl)
      (Nat.le_refl _) (by decide)
  rw [pus17Execute, if_neg room]
  by_cases alive : serviceSubtype = pus17SubtypeAreYouAliveTc
  · rw [if_neg (not_not.mpr alive), if_pos alive]
    simp only [built]
    exact ⟨[], rfl, reports.reads⟩
  · rw [if_pos alive, if_neg alive]
    rfl

theorem pus11Report_answers (sched : Schedule) (app : List UInt8) {size : Nat}
    (serves : request.Serves counters size) (fits : 19 + 8 * cfg.pus11MaxPerTc ≤ size)
    (small : size < 65536) :
    Answers ((pus11Report cfg request counters sched app).map some) request counters
      .summaryReport (sched.answer cfg app) := by
  rw [Schedule.answer, ← pus11DecodeRequestIds_items, pus11Report]
  cases decoded : pus11DecodeRequestIds cfg app with
  | error status => rfl
  | ok ids =>
      obtain ⟨_, _, limit, layout⟩ := pus11DecodeRequestIds_iff.mp decoded
      have found : ids.filterMap (scheduleFind sched) = sched.named ids :=
        List.filterMap_congr fun id member => scheduleFind_eq sched (layout id member)
      have few : (sched.named ids).length ≤ ids.length := List.length_filterMap_le _ _
      have sized : ([UInt8.ofNat (sched.named ids).length] ++
          (sched.named ids).flatMap pus11SummaryEntry).length =
            1 + (sched.named ids).length * 8 := by
        rw [List.length_append, flatMap_pus11SummaryEntry_length, List.length_singleton]
      obtain ⟨out, built, reports⟩ :=
        buildTm_reports .summaryReport serves sized (by omega) small
      simp only [pus11BuildSummaryReport, found, built]
      exact ⟨_, congrArg some (countedSource_map _ _), reports.reads⟩

theorem pus11Execute_answers (sched : Schedule) (serviceSubtype : UInt8) (app : List UInt8)
    {size : Nat} (serves : request.Serves counters size)
    (fits : 19 + 8 * cfg.pus11MaxPerTc ≤ size) (small : size < 65536) :
    Answers (pus11Execute cfg request counters sched serviceSubtype app).1 request counters
      .summaryReport
      (if serviceSubtype = pus11SubtypeSummaryReportRequest then sched.answer cfg app
        else none) := by
  by_cases query : serviceSubtype = pus11SubtypeSummaryReportRequest
  · subst query
    exact pus11Report_answers sched app serves fits small
  · simp only [pus11Execute, if_neg query]
    split_ifs <;> first | rfl | exact answers_nothing _

theorem pus20Report_answers (dp : Datapool) (app : List UInt8) {size : Nat}
    (serves : request.Serves counters size) (fits : 19 + 6 * cfg.pus20MaxParamsPerTc ≤ size)
    (small : size < 65536) :
    Answers ((pus20Report cfg request counters dp app).map some) request counters .valueReport
      (dp.answer cfg app) := by
  have lookups := pus20Collect_lookups cfg dp app
  have answer : dp.answer cfg app = ((pus20Collect cfg dp app).toOption.map Prod.fst).map
      fun found => countedSource (found.map pus20ParamSource) := by
    rw [lookups, Datapool.answer]
    cases countedItems cfg.pus20MaxParamsPerTc 2 app <;> rfl
  rw [answer, pus20Report]
  cases collected : pus20Collect cfg dp app with
  | error status => rfl
  | ok result =>
      obtain ⟨found, sourceData⟩ := result
      obtain ⟨count, rfl⟩ := pus20Collect_size collected
      have widths := pus20ParamSource_length_le found
      have room := serves.room
      have encoded : pus20EncodeLoop request.outCap found [UInt8.ofNat found.length] =
          some ([UInt8.ofNat found.length] ++ found.flatMap pus20ParamSource) :=
        pus20EncodeLoop_some (by rw [List.length_singleton]; omega)
      have sized : ([UInt8.ofNat found.length] ++ found.flatMap pus20ParamSource).length =
          1 + (found.flatMap pus20ParamSource).length := by
        rw [List.length_append, List.length_singleton]
      obtain ⟨out, built, reports⟩ :=
        buildTm_reports .valueReport serves sized (by omega) small
      simp only [encoded, built]
      exact ⟨_, congrArg some (countedSource_map _ _), reports.reads⟩

theorem pus20Execute_answers (dp : Datapool) (serviceSubtype : UInt8) (app : List UInt8)
    {size : Nat} (serves : request.Serves counters size)
    (fits : 19 + 6 * cfg.pus20MaxParamsPerTc ≤ size) (small : size < 65536) :
    Answers (pus20Execute cfg request counters dp serviceSubtype app).1 request counters
      .valueReport
      (if serviceSubtype = pus20SubtypeReportRequest then dp.answer cfg app else none) := by
  by_cases query : serviceSubtype = pus20SubtypeReportRequest
  · subst query
    exact pus20Report_answers dp app serves fits small
  · simp only [pus20Execute, if_neg query]
    split_ifs <;> first | rfl | exact answers_nothing _

theorem pus15Execute_answers (store : Pktstore cfg) (serviceSubtype : UInt8) (app : List UInt8)
    (serves : request.Serves counters pus15StoreReportPacketSize) :
    Answers (pus15Execute request counters store serviceSubtype app).1 request counters
      .storeReport
      (if serviceSubtype = pus15SubtypeReportRequest then store.answer app else none) := by
  by_cases query : serviceSubtype = pus15SubtypeReportRequest
  · subst query
    by_cases empty : app = []
    · subst empty
      obtain ⟨out, built, reports⟩ := buildTm_reports .storeReport serves
        (show (pus15StoreSource store).length = 11 from rfl) (Nat.le_refl _) (by decide)
      have sent : (pus15Execute request counters store pus15SubtypeReportRequest []).1 =
          .ok (some out) := by
        change (pus15BuildStoreReport request counters store).map some = _
        simp only [pus15BuildStoreReport, built]
        rfl
      rw [sent]
      exact ⟨_, pus15StoreSource_eq store, reports.reads⟩
    · have malformed : app.length ≠ 0 := fun none => empty (List.length_eq_zero_iff.mp none)
      have refused : (pus15Execute request counters store pus15SubtypeReportRequest app).1 =
          .error .errMalformed := congrArg Prod.fst (if_pos malformed)
      rw [refused, if_pos rfl]
      exact if_neg empty
  · simp only [pus15Execute, if_neg query]
    split_ifs <;> first | rfl | exact answers_nothing _

/-- A structure whose parameters the pool holds is reported. -/
theorem pus3BuildDynamicHkReport_answers (dp : Datapool) {held : HkStructure} {size : Nat}
    (serves : request.Serves counters size) (fits : 20 + 4 * held.paramIds.length ≤ size)
    (small : size < 65536) :
    Answers ((pus3BuildDynamicHkReport request counters dp held).map some) request counters
      .hkParamReport (held.source dp) := by
  rw [HkStructure.source, ← pus3ResolveParams_eq]
  cases resolved : pus3ResolveParams dp held.paramIds with
  | none =>
      simp only [pus3BuildDynamicHkReport, resolved]
      rfl
  | some values =>
      obtain ⟨out, _, built, _⟩ := pus3BuildDynamicHkReport_ok resolved serves fits small
      obtain ⟨others, same, reads⟩ := pus3BuildDynamicHkReport_packet built (by omega)
      obtain rfl := Option.some.inj (resolved.symm.trans same)
      rw [built]
      exact ⟨_, rfl, reads⟩

end Services

end FswCore
