import FswCore.App.StoreLimit
import FswCore.App.Uplink
import FswCore.Pus.ScheduleRequests
import FswCore.Pus.StructureReport
import FswCore.Pus.StructureRequests

/-!
Contract: runs that downlink the largest reports there are.

Owns:
- from first boot, two telecommands to a full schedule summary, two to a structure
  of as many parameters as there may be, and one iteration to a part;
- the limits under which every live packet is recorded are necessary for it.

Does not own: that they suffice.
-/

namespace FswCore

open Library Library.BigEndian

variable {cfg : Config}

/-! ### First boot -/

/-- The loop as the first power-up enters it, with no image and no event. -/
def firstBoot (cfg : Config) (demo : Bool) : MainState cfg × LoopOutput :=
  let subs := appRestore cfg (appTables 0 0 0) (.errNoValidImage, nvstoreZero)
  mainBoot cfg subs { fdir := fdirZero cfg, mode := subs.mode, modeSinkIsFdir := true }
    (largedataBoot cfg demo) 0

theorem transmitTaps_retrievalActive (storeTime : UInt32) (fuel : Nat) (burst : List UInt8)
    (store : Pktstore cfg) :
    (transmitTaps storeTime fuel burst store).retrievalActive = store.retrievalActive := by
  rw [transmitTaps_eq]
  apply List.foldlRecOn (motive := fun after : Pktstore cfg =>
    after.retrievalActive = store.retrievalActive) _ _ rfl
  intro after same packet _
  rw [← same, pktstoreStore_retrievalActive]

/-- Boot changes counters and the packet store. -/
theorem firstBoot_ctx (cfg : Config) (demo : Bool) :
    ∃ counters store, store.retrievalActive = false ∧
      (firstBoot cfg demo).1.loop.ctx =
        { mainRouterCtx cfg (subsystemsInit cfg (appTables 0 0 0)) with
          counters := counters
          store := some store } := by
  unfold firstBoot mainBoot MainState.send
  simp only
  split
  · exact ⟨_, _, transmitTaps_retrievalActive .., rfl⟩
  · exact ⟨_, _, rfl, rfl⟩

theorem firstBoot_calm (cfg : Config) (demo : Bool) : (firstBoot cfg demo).1.Calm 0 := by
  obtain ⟨counters, store, idle, ctx⟩ := firstBoot_ctx cfg demo
  constructor
  · rfl
  · rw [ctx]
    intro hkstore wired
    obtain rfl := Option.some.inj wired
    intro held member
    simp [Hkstore.held, subsystemsInit, hkstoreInit] at member
  · rfl
  · rfl
  · rw [ctx]
    intro sched wired
    obtain rfl := Option.some.inj wired
    rfl
  · rw [ctx]
    intro store wired
    obtain rfl := Option.some.inj wired
    exact idle

theorem Config.SampleBuild.partSize (build : cfg.SampleBuild) : cfg.pus13PartSize + 18 < 65536 := by
  rw [build.pus13PartSize]
  decide

theorem firstBoot_ready (build : cfg.SampleBuild) (demo : Bool) :
    (firstBoot cfg demo).1.senders.Ready := by
  have params : (appTables 0 0 0).params.length ≤ 3 := Nat.le_refl _
  exact (mainBoot_hkTick build.admitted.reportLimits build.partSize
    (Subsystems.Within.appRestore cfg params (.errNoValidImage, nvstoreZero)) _ _ 0).1

/-! ### A part -/

/-- As long as as much is left, a part has as much payload as a part may have. -/
theorem largedataNextPart_full (session : LargedataSession) {tmSeqCount : UInt16}
    {request : TmRequest} (small : cfg.pus13PartSize + 18 < 65536)
    (nonempty : 1 ≤ cfg.pus13PartSize) (active : session.state = .active)
    (index : session.nextPart < session.totalParts)
    (left : session.cursor + cfg.pus13PartSize ≤ session.unit.length)
    (apid : request.apid ≤ 0x7FF) (seqCount : tmSeqCount ≤ 0x3FFF)
    (room : pus13PartPacketMax cfg ≤ request.outCap) :
    ∃ packet, (largedataNextPart cfg session tmSeqCount request).result = .ok (some packet) ∧
      Delimited packet ∧ packet.length = pus13PartPacketMax cfg := by
  have chunk : (if session.unit.length - session.cursor > cfg.pus13PartSize then
      cfg.pus13PartSize else session.unit.length - session.cursor) = cfg.pus13PartSize := by
    split <;> omega
  have payload : (window session.unit session.cursor cfg.pus13PartSize).length =
      cfg.pus13PartSize := by
    rw [window, List.length_take, List.length_drop]
    omega
  rw [largedataNextPart, if_neg (not_not.mpr active)]
  simp only [chunk]
  rw [pus13PartPacketMax] at room ⊢
  generalize window session.unit session.cursor cfg.pus13PartSize = octets at payload ⊢
  obtain ⟨packet, built⟩ := pus13BuildPart_ok cfg session.pus13 session.transactionId small index
    (show 1 ≤ octets.length by omega) (Nat.le_of_eq payload) apid seqCount (by omega)
  rcases pus13BuildPart_cases cfg session.pus13 tmSeqCount request session.transactionId
    session.nextPart session.totalParts octets small with
    ⟨status, refused⟩ | ⟨other, counters, msgCounter, accepted, _, reads⟩
  · rw [refused] at built
    contradiction
  · rw [accepted]
    refine ⟨other, rfl, reads.delimited, ?_⟩
    rw [reads.sourceLength, pus13Packet, pus13Source_length, payload, ccsdsPrimaryHeaderSize,
      pusTmSecondaryHeaderSize, pus13PartHeaderSize]
    omega

theorem largedataDemoUnit_length : largedataDemoUnit.length = 200 := by
  rw [largedataDemoUnit, List.length_map, List.length_range]

theorem firstBoot_largedata (cfg : Config) (demo : Bool) :
    (firstBoot cfg demo).1.largedata = largedataBoot cfg demo := rfl

theorem largedataTick_sent (state : MainState cfg) (nowSeconds : UInt32) :
    (largedataTick state nowSeconds).2.sent =
      (largedataNextPart cfg state.largedata state.loop.ctx.counters.tmSeqCount
        (state.request nowSeconds)).result.toOption.join.getD [] := rfl

/-- The demonstration downlinks a part in the first iteration. -/
theorem largedataTick_firstBoot (build : cfg.SampleBuild) :
    Delimited (largedataTick (firstBoot cfg true).1 0).2.sent ∧
      (largedataTick (firstBoot cfg true).1 0).2.sent.length = pus13PartPacketMax cfg := by
  have ready := firstBoot_ready build true
  have session : (firstBoot cfg true).1.largedata = { largedataInit with
      totalParts := 4
      unit := largedataDemoUnit
      transactionId := 1
      state := .active } := by
    have idle : ¬largedataInit.state ≠ .idle := by decide
    rw [firstBoot_largedata, largedataBoot, if_pos rfl, largedataStart, build.largedataUnitMax,
      build.pus13PartSize, largedataDemoUnit_length, if_neg (by decide), if_neg idle,
      if_neg (by decide)]
    rfl
  generalize (firstBoot cfg true).1 = state at ready session ⊢
  have room : pus13PartPacketMax cfg ≤ (state.request 0).outCap := by
    rw [pus13PartPacketMax, build.pus13PartSize]
    show 24 + 64 ≤ tcRouterMaxTm
    decide
  obtain ⟨packet, next, delimited, length⟩ := largedataNextPart_full state.largedata
    build.partSize (by rw [build.pus13PartSize]; decide) (by rw [session])
    (by rw [session]; decide)
    (by rw [session, build.pus13PartSize, largedataDemoUnit_length]; decide)
    (show (state.request 0).apid ≤ 0x7FF from ready.apid) ready.seqCount room
  have sent : (largedataTick state 0).2.sent = packet := by
    rw [largedataTick_sent]
    exact congrArg (fun result => result.toOption.join.getD []) next
  rw [sent]
  exact ⟨delimited, length⟩

/-! ### Two telecommands -/

theorem firstBoot_waits (cfg : Config) : (firstBoot cfg false).1.Waits 0 where
  calm := firstBoot_calm cfg false
  idle := largedataBoot_idle cfg (by decide)
  framed := rfl
  address := by
    obtain ⟨counters, store, _, ctx⟩ := firstBoot_ctx cfg false
    rw [ctx]
    rfl

theorem BurstRecorded.single {sent : List UInt8} {packets : List (List UInt8)}
    (recorded : BurstRecorded cfg sent packets) (delimited : Delimited sent) :
    sent.length ≤ cfg.pktstorePacketMax :=
  SentWithin.single delimited ⟨packets, recorded.burst, recorded.complete⟩

/-- Every output of a run from first boot. -/
theorem LiveTmRecorded.output {demo : Bool} (recorded : LiveTmRecorded cfg demo)
    (inputs : List LoopInput) {output : LoopOutput}
    (member : output ∈ (mainRun (firstBoot cfg demo).1 inputs).2)
    (delimited : Delimited output.sent) : output.sent.length ≤ cfg.pktstorePacketMax := by
  obtain ⟨packets, complete⟩ := recorded 0 0 0 (.errNoValidImage, nvstoreZero)
    { fdir := fdirZero cfg
      mode := (appRestore cfg (appTables 0 0 0) (.errNoValidImage, nvstoreZero)).mode
      modeSinkIsFdir := true } 0 inputs output (List.mem_cons_of_mem _ member)
  exact complete.single delimited

/-- A telecommand that is executed without an answer, then one that is answered. -/
theorem LiveTmRecorded.answer (recorded : LiveTmRecorded cfg false) {setup query : List UInt8}
    {setupApp queryApp : List UInt8} {setupVerdict queryVerdict : TcAcceptResult}
    (setupOf : Unacknowledged setup setupVerdict setupApp)
    (queryOf : Unacknowledged query queryVerdict queryApp) {ctx : RouterCtx cfg}
    (executed : routerRoute (receivedCtx (firstBoot cfg false).1) setupVerdict 0 setup
      tcRouterMaxTm = routeFail ctx .none)
    (waits : ((firstBoot cfg false).1.withCtx ctx).Waits 0)
    {out : List UInt8} (answered : (routerRoute
      (receivedCtx ((firstBoot cfg false).1.withCtx ctx)) queryVerdict 0 query tcRouterMaxTm).out =
        out) (delimited : Delimited out) : out.length ≤ cfg.pktstorePacketMax := by
  have after := (firstBoot_waits cfg).executed setupOf (by rw [executed]; rfl)
  rw [executed] at after
  obtain ⟨output, member, sent⟩ := waits.answered queryOf
  rw [answered] at sent
  rw [← sent] at delimited ⊢
  apply recorded.output (uplink 0 setup ++ uplink 0 query) _ delimited
  rw [mainRun_append, after]
  exact List.mem_append_right _ member

/-! ### A structure -/

theorem Unacknowledged.of_bareTc {serviceType serviceSubtype : UInt8} {app : List UInt8}
    (framed : FramerAccepts (bareTc serviceType serviceSubtype app))
    (verdict : tcAccept (bareTc serviceType serviceSubtype app) fswApid =
      bareVerdict serviceType serviceSubtype)
    (appData : routerAppData (bareTc serviceType serviceSubtype app) = app) :
    Unacknowledged (bareTc serviceType serviceSubtype app)
      (bareVerdict serviceType serviceSubtype) app :=
  ⟨framed, verdict, rfl, rfl, rfl, appData⟩

/-- A structure of sixteen times the first parameter of the application. -/
def largestStructure : StructureRequest := .create 0x0100 (List.replicate 16 1) 0

theorem largestStructure_unacknowledged :
    Unacknowledged (bareTc 3 1 largestStructure.image) (bareVerdict 3 1) largestStructure.image :=
  .of_bareTc ⟨by decide +kernel, by decide +kernel⟩ (by decide +kernel) (by decide +kernel)

theorem pollLargest_unacknowledged :
    Unacknowledged (bareTc 3 27 (put16 0x0100)) (bareVerdict 3 27) (put16 0x0100) :=
  .of_bareTc ⟨by decide +kernel, by decide +kernel⟩ (by decide +kernel) (by decide +kernel)

section Structure

variable (ctx : RouterCtx cfg)

/-- The store with the one structure. -/
def largestStore (cfg : Config) : Hkstore :=
  (hkstoreCreate cfg (hkstoreInit cfg) 0x0100 (List.replicate 16 1) 0).2

/-- There is room for it from first boot. -/
theorem largestStore_created (params : cfg.hkstoreMaxParams = 16)
    (room : 1 ≤ cfg.hkstoreCapacity) :
    (hkstoreCreate cfg (hkstoreInit cfg) 0x0100 (List.replicate 16 1) 0).1 = .ok ∧
      CreateOk cfg (hkstoreInit cfg) 0x0100 (List.replicate 16 1) 0 (largestStore cfg) := by
  have empty : (hkstoreInit cfg).held = [] := by simp [Hkstore.held, hkstoreInit]
  have created : (hkstoreCreate cfg (hkstoreInit cfg) 0x0100 (List.replicate 16 1) 0).1 = .ok := by
    apply hkstoreCreate_ok
    · decide
    · decide
    · rw [params, List.length_replicate]
    · rw [empty]
      intro held member
      exact absurd member List.not_mem_nil
    · rw [empty, hkstoreInit, List.length_replicate]
      exact room
  rcases hkstoreCreate_cases cfg (hkstoreInit cfg) 0x0100 (List.replicate 16 1) 0 with
    ⟨failed, _⟩ | both
  · exact absurd created failed
  · exact both

/-- The one structure held. -/
theorem largestStore_held (params : cfg.hkstoreMaxParams = 16) (room : 1 ≤ cfg.hkstoreCapacity) :
    (largestStore cfg).held =
      [{ sid := 0x0100
         paramIds := List.replicate 16 1
         intervalSec := 0
         lastEmitSec := 0
         enabled := false }] := by
  obtain ⟨left, right, before, after⟩ := (largestStore_created params room).2.change
  have empty : (hkstoreInit cfg).held = [] := by simp [Hkstore.held, hkstoreInit]
  rw [Hkstore.held, before, occupied_append, occupied_cons_none, List.append_eq_nil_iff] at empty
  rw [Hkstore.held, after, occupied_append, occupied_cons_some, empty.1, empty.2]
  rfl

theorem routerRoute_create (wired : ctx.hkstore = some (hkstoreInit cfg))
    (params : cfg.hkstoreMaxParams = 16) (room : 1 ≤ cfg.hkstoreCapacity) :
    routerRoute ctx (bareVerdict 3 1) 0 (bareTc 3 1 largestStructure.image) tcRouterMaxTm =
      routeFail { ctx with hkstore := some (largestStore cfg) } .none := by
  have manage : routerRoute ctx (bareVerdict 3 1) 0 (bareTc 3 1 largestStructure.image)
      tcRouterMaxTm = routerPus3Manage ctx (bareVerdict 3 1)
        (routerAppData (bareTc 3 1 largestStructure.image)) := rfl
  have executed : pus3Execute cfg (hkstoreInit cfg) 1 largestStructure.image =
      (.ok, largestStore cfg) := by
    have within : ¬(List.replicate 16 (1 : UInt16)).length > cfg.hkstoreMaxParams := by
      rw [params, List.length_replicate]
      exact Nat.lt_irrefl 16
    have create : pus3Execute cfg (hkstoreInit cfg) 1 largestStructure.image =
        pus3ExecCreate cfg (hkstoreInit cfg) largestStructure.image := rfl
    rw [create, largestStructure, pus3ExecCreate_image 0x0100 0 (by decide), if_neg within,
      pus3Return, if_pos (largestStore_created params room).1]
    rfl
  rw [manage, largestStructure_unacknowledged.appData, routerPus3Manage, wired]
  simp only [bareVerdict, executed]
  rfl

/-- The parameters of the application, as booted. -/
theorem datapoolInit_appTables (pool : 3 ≤ cfg.datapoolCapacity) :
    (datapoolInit cfg (appTables 0 0 0).params).2 =
      { params := (appTables 0 0 0).params, generation := 0 } := by
  have fits : ¬(appTables 0 0 0).params.length > cfg.datapoolCapacity := Nat.not_lt.mpr pool
  have valid : dpValidate (appTables 0 0 0).params = .ok := by decide
  rw [datapoolInit, if_neg fits, valid]

/-- The parameters of the application. -/
def bootPool : Datapool := { params := (appTables 0 0 0).params, generation := 0 }

/-- The report of the one structure has sixteen values of four octets. -/
theorem routerRoute_poll (wired : ctx.hkstore = some (largestStore cfg))
    (datapool : ctx.datapool = some bootPool) (params : cfg.hkstoreMaxParams = 16)
    (room : 1 ≤ cfg.hkstoreCapacity) (ready : ctx.Ready) :
    let out := (routerRoute ctx (bareVerdict 3 27) 0 (bareTc 3 27 (put16 0x0100))
      tcRouterMaxTm).out
    Delimited out ∧ out.length = 84 := by
  intro out
  let held : HkStructure := ⟨0x0100, List.replicate 16 1, 0, 0, false⟩
  have found : hkstoreFind (largestStore cfg) 0x0100 = some held := by
    rw [hkstoreFind_eq, largestStore_held params room]
    rfl
  have resolved : pus3ResolveParams bootPool held.paramIds =
      some (List.replicate 16 (.u32 0)) := by decide
  have size : dynamicHkSize bootPool held = 84 := by decide
  have serves := ready.serves 0 0 (show 84 ≤ tcRouterMaxReport by decide)
    (show tcRouterMaxReport ≤ tcRouterMaxTm by decide)
  obtain ⟨report, source, built, reports⟩ :=
    pus3BuildDynamicHkReport_ok resolved serves (by decide) (by decide)
  have packet : out = report.packet := by
    have polled : routerRoute ctx (bareVerdict 3 27) 0 (bareTc 3 27 (put16 0x0100))
        tcRouterMaxTm = routerPus3Poll ctx (bareVerdict 3 27) 0
          (routerAppData (bareTc 3 27 (put16 0x0100))) tcRouterMaxTm := rfl
    have dynamic : routerPus3Poll ctx (bareVerdict 3 27) 0 (put16 0x0100) tcRouterMaxTm =
        routerPus3PollDynamic ctx (bareVerdict 3 27) 0 0x0100 tcRouterMaxTm := rfl
    change RouteReply.out _ = _
    rw [polled, pollLargest_unacknowledged.appData, dynamic, routerPus3PollDynamic, wired]
    simp only [found, datapool]
    have request : (bareVerdict 3 27).sourceId = 0 := rfl
    rw [request, built]
    rfl
  have reported := pus3BuildDynamicHkReport_reported built (by decide)
  rw [packet]
  exact ⟨reports.reads.delimited, reported.length.trans size⟩

end Structure

/-! ### A summary -/

/-- The shortest telecommand that delimits itself. -/
def shortestActivity : ScheduleActivity := { releaseTime := 0, tc := List.replicate 7 0 }

def insertShortest : List UInt8 := 1 :: pus11InsertItem shortestActivity

/-- Its identifier eight times: a repetition is not removed. -/
def largestSummary : List UInt8 := 8 :: (List.replicate 8 (List.replicate 4 0)).flatten

theorem insertShortest_unacknowledged :
    Unacknowledged (bareTc 11 4 insertShortest) (bareVerdict 11 4) insertShortest :=
  .of_bareTc ⟨by decide +kernel, by decide +kernel⟩ (by decide +kernel) (by decide +kernel)

theorem largestSummary_unacknowledged :
    Unacknowledged (bareTc 11 11 largestSummary) (bareVerdict 11 11) largestSummary :=
  .of_bareTc ⟨by decide +kernel, by decide +kernel⟩ (by decide +kernel) (by decide +kernel)

section Summary

variable (ctx : RouterCtx cfg)

/-- The schedule with the one activity. -/
def shortestSchedule : Schedule :=
  { activities := [shortestActivity], enabled := false, generation := 1 }

theorem insertShortest_request (build : cfg.SampleBuild) :
    InsertRequest cfg scheduleInit insertShortest [shortestActivity] where
  layout := rfl
  counted := by decide
  withinLimit := build.admitted.pus11MaxPerTc.1
  selfDelimiting activity member := by
    rw [List.mem_singleton.mp member]
    unfold SelfDelimiting
    decide
  fits activity member := by
    have least := build.admitted.scheduleTcMax.1
    rw [List.mem_singleton.mp member, shortestActivity, List.length_replicate]
    omega
  room := build.admitted.scheduleCapacity.1
  fresh activity _ stored member := absurd member List.not_mem_nil
  distinct := List.nodup_singleton _

theorem routerRoute_insert (build : cfg.SampleBuild) (wired : ctx.schedule = some scheduleInit) :
    routerRoute ctx (bareVerdict 11 4) 0 (bareTc 11 4 insertShortest) tcRouterMaxTm =
      routeFail { ctx with schedule := some shortestSchedule } .none := by
  have request := insertShortest_request build
  have routed : routerRoute ctx (bareVerdict 11 4) 0 (bareTc 11 4 insertShortest)
      tcRouterMaxTm =
        routerPus11 ctx (bareVerdict 11 4) 0 (bareTc 11 4 insertShortest) tcRouterMaxTm := rfl
  have executed (sent : TmRequest) (counters : PusCounters) :
      pus11Execute cfg sent counters scheduleInit 4 insertShortest =
        (.ok none, shortestSchedule) := by
    have insert : pus11Execute cfg sent counters scheduleInit 4 insertShortest =
        ((pus11Insert cfg scheduleInit insertShortest).1.map fun _ => none,
          (pus11Insert cfg scheduleInit insertShortest).2) := rfl
    rw [insert, pus11Insert, pus11DecodeInserts_iff.mpr request]
    simp only [pus11InsertAll_eq request.room request.admitted]
    rfl
  rw [routed, routerPus11, wired, insertShortest_unacknowledged.appData]
  simp only [bareVerdict, executed]
  rfl

/-- The summary lists the activity eight times. -/
theorem routerRoute_summary (limit : 8 ≤ cfg.pus11MaxPerTc)
    (wired : ctx.schedule = some shortestSchedule) (ready : ctx.Ready) :
    let out := (routerRoute ctx (bareVerdict 11 11) 0 (bareTc 11 11 largestSummary)
      tcRouterMaxTm).out
    Delimited out ∧ out.length = 83 := by
  intro out
  have decoded : pus11DecodeRequestIds cfg largestSummary =
      .ok (List.replicate 8 (List.replicate 4 0)) := by
    apply pus11DecodeRequestIds_iff.mpr
    refine ⟨rfl, by decide, limit, ?_⟩
    intro id member
    rw [List.eq_of_mem_replicate member]
    decide
  have found : (List.replicate 8 (List.replicate 4 0)).filterMap (scheduleFind shortestSchedule) =
      List.replicate 8 shortestActivity := by decide
  have serves := ready.serves 0 0 (show 83 ≤ tcRouterMaxReport by decide)
    (show tcRouterMaxReport ≤ tcRouterMaxTm by decide)
  have sized : ([UInt8.ofNat (List.replicate 8 shortestActivity).length] ++
      (List.replicate 8 shortestActivity).flatMap pus11SummaryEntry).length =
        1 + (List.replicate 8 shortestActivity).length * 8 := by decide
  obtain ⟨report, built, reports⟩ :=
    buildTm_reports .summaryReport serves sized (by decide) (by decide)
  have packet : out = report.packet := by
    have routed : routerRoute ctx (bareVerdict 11 11) 0 (bareTc 11 11 largestSummary)
        tcRouterMaxTm =
          routerPus11 ctx (bareVerdict 11 11) 0 (bareTc 11 11 largestSummary) tcRouterMaxTm := rfl
    have summary (request : TmRequest) (counters : PusCounters) :
        pus11Execute cfg request counters shortestSchedule 11 largestSummary =
          ((pus11Report cfg request counters shortestSchedule largestSummary).map some,
            shortestSchedule) := rfl
    change RouteReply.out _ = _
    rw [routed, routerPus11, wired, largestSummary_unacknowledged.appData]
    simp only [bareVerdict, summary, pus11Report, decoded, found, pus11BuildSummaryReport, built]
    rfl
  have length := reports.reads.sourceLength
  rw [packet]
  refine ⟨reports.reads.delimited, length.trans ?_⟩
  rw [tmPacket, sized]
  decide

end Summary

/-! ### Limits that are necessary -/

/-- A context a telecommand is executed in at first boot. -/
structure FirstCtx (ctx : RouterCtx cfg) : Prop where
  ready : ctx.Ready
  address : ctx.apid = fswApid
  datapool : ctx.datapool = some (datapoolInit cfg (appTables 0 0 0).params).2
  schedule : ctx.schedule = some scheduleInit
  hkstore : ctx.hkstore = some (hkstoreInit cfg)
  store : ∀ store, ctx.store = some store → store.retrievalActive = false

theorem firstBoot_firstCtx (build : cfg.SampleBuild) (demo : Bool) :
    FirstCtx (receivedCtx (firstBoot cfg demo).1) := by
  have ready := firstBoot_ready build demo
  obtain ⟨counters, packets, idle, ctx⟩ := firstBoot_ctx cfg demo
  constructor
  · exact (ready.router build.admitted.reportLimits).of_stores rfl ready.seqCount rfl
  · rw [receivedCtx, ctx]
    rfl
  · rw [receivedCtx, ctx]
    rfl
  · rw [receivedCtx, ctx]
    rfl
  · rw [receivedCtx, ctx]
    rfl
  · rw [receivedCtx, ctx]
    intro store wired
    obtain rfl := Option.some.inj wired
    exact idle

theorem LiveTmRecorded.structures (build : cfg.SampleBuild) (recorded : LiveTmRecorded cfg false)
    (pool : 3 ≤ cfg.datapoolCapacity) :
    20 + 4 * cfg.hkstoreMaxParams ≤ cfg.pktstorePacketMax := by
  have first := firstBoot_firstCtx build false
  have least := build.admitted.pktstorePacketMax.1
  have most := build.admitted.hkstoreMaxParams.2
  have room := build.admitted.hkstoreCapacity.1
  by_contra tooSmall
  have params : cfg.hkstoreMaxParams = 16 := by omega
  let ctx : RouterCtx cfg :=
    { receivedCtx (firstBoot cfg false).1 with hkstore := some (largestStore cfg) }
  have held := largestStore_held params room
  have waits : ((firstBoot cfg false).1.withCtx ctx).Waits 0 := by
    have address : ctx.apid = fswApid := first.address
    apply (firstBoot_waits cfg).withCtx address
    · intro hkstore wired
      obtain rfl := Option.some.inj wired
      rw [held]
      intro other member
      rw [List.mem_singleton.mp member]
    · intro sched wired
      have same := first.schedule.symm.trans wired
      rw [← Option.some.inj same]
      rfl
    · exact first.store
  have ready : (receivedCtx ((firstBoot cfg false).1.withCtx ctx)).Ready := by
    refine ⟨build.admitted.reportLimits, first.ready.apid, first.ready.seqCount, ?_⟩
    intro hkstore wired
    obtain rfl := Option.some.inj wired
    rw [held, params]
    intro other member
    rw [List.mem_singleton.mp member]
    exact Nat.le_refl 16
  have datapool := first.datapool
  rw [datapoolInit_appTables pool] at datapool
  have report := routerRoute_poll (receivedCtx ((firstBoot cfg false).1.withCtx ctx)) rfl datapool
    params room ready
  have fits := recorded.answer largestStructure_unacknowledged pollLargest_unacknowledged
    (routerRoute_create _ first.hkstore params room) waits rfl report.1
  rw [report.2] at fits
  omega

theorem LiveTmRecorded.summary (build : cfg.SampleBuild) (recorded : LiveTmRecorded cfg false) :
    19 + 8 * cfg.pus11MaxPerTc ≤ cfg.pktstorePacketMax := by
  have first := firstBoot_firstCtx build false
  have least := build.admitted.pktstorePacketMax.1
  have most := build.admitted.pus11MaxPerTc.2
  by_contra tooSmall
  let ctx : RouterCtx cfg :=
    { receivedCtx (firstBoot cfg false).1 with schedule := some shortestSchedule }
  have waits : ((firstBoot cfg false).1.withCtx ctx).Waits 0 := by
    have address : ctx.apid = fswApid := first.address
    apply (firstBoot_waits cfg).withCtx address
    · intro hkstore wired
      have same := first.hkstore.symm.trans wired
      rw [← Option.some.inj same, Hkstore.held, hkstoreInit, occupied_replicate_none]
      intro other member
      exact absurd member List.not_mem_nil
    · intro sched wired
      rw [← Option.some.inj wired]
      rfl
    · exact first.store
  have ready : (receivedCtx ((firstBoot cfg false).1.withCtx ctx)).Ready :=
    ⟨build.admitted.reportLimits, first.ready.apid, first.ready.seqCount, first.ready.hkParams⟩
  have report := routerRoute_summary (receivedCtx ((firstBoot cfg false).1.withCtx ctx))
    (by omega) rfl ready
  have fits := recorded.answer insertShortest_unacknowledged largestSummary_unacknowledged
    (routerRoute_insert _ build first.schedule) waits rfl report.1
  rw [report.2] at fits
  omega

theorem LiveTmRecorded.parts (build : cfg.SampleBuild) (recorded : LiveTmRecorded cfg true) :
    pus13PartPacketMax cfg ≤ cfg.pktstorePacketMax := by
  obtain ⟨delimited, length⟩ := largedataTick_firstBoot build
  have outputs := congrArg Prod.snd ((firstBoot_calm cfg true).iteration none)
  rw [← length]
  apply recorded.output [iterationAt 0 none] _ delimited
  rw [outputs]
  exact List.mem_append_right _ List.mem_cons_self

/-- The limits are exactly those under which no live packet is too large for the
store, in any run. -/
theorem liveTmRecorded_iff (build : cfg.SampleBuild) (demo : Bool) :
    LiveTmRecorded cfg demo ↔ ReportsFitStore cfg demo := by
  constructor
  · intro recorded
    cases demo with
    | false =>
        exact ⟨recorded.summary build, recorded.structures build, fun on => absurd on (by decide)⟩
    | true =>
        have parts := recorded.parts build
        have limits := build.admitted.reportLimits
        have summary := limits.pus11MaxPerTc
        have structures := limits.hkstoreMaxParams
        have size := parts
        rw [pus13PartPacketMax, build.pus13PartSize] at size
        exact ⟨by omega, fun _ => by omega, fun _ => parts⟩
  · exact liveTmRecorded_of_fits build

/-- The limits as they are shipped, with the demonstration. -/
theorem liveTmRecorded_iff_default :
    (LiveTmRecorded defaultConfig true ↔ ReportsFitStore defaultConfig true) ∧
      ReportsFitStore defaultConfig true := by
  have build : defaultConfig.SampleBuild := ⟨Config.default_kconfigAdmitted, rfl, rfl⟩
  exact ⟨liveTmRecorded_iff build true, by decide⟩

/-- The shipped limits with the smallest packet size the menu admits. -/
def smallestPackets : Config := { defaultConfig with pktstorePacketMax := 80 }

theorem smallestPackets_build : smallestPackets.SampleBuild where
  admitted := by constructor <;> decide
  largedataUnitMax := rfl
  pus13PartSize := rfl

/-- A full summary is left out of the smallest store. -/
theorem liveTmRecorded_smallestPackets :
    smallestPackets.KconfigAdmitted ∧ ¬LiveTmRecorded smallestPackets false := by
  refine ⟨smallestPackets_build.admitted, ?_⟩
  intro recorded
  exact absurd (recorded.summary smallestPackets_build) (by decide)

end FswCore
