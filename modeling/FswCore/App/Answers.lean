import FswCore.App.Diagnostics
import FswCore.Pus.Answers

/-!
Contract: the reports on what the stores hold, against the stores.

Owns:
- `answerOf`, the reading of a report on the ground, other than the verification, the
  events, the parts of a large transfer and the diagnostics of the framework;
- the answers owed in a run: to the queries dispatched, by what the stores hold when they
  are, and to the housekeeping structures that fall due;
- the answers in the live telemetry of a run are those owed, in their order, with none
  lost and none of anything else.

Does not own: when a structure falls due.
-/

namespace FswCore

open Library Library.BigEndian

variable {cfg : Config} {build : AppBuild}

/-! ### Reports as answers -/

/-- A report with its own account elsewhere is no answer. -/
def Answer.read (service subtype : UInt8) (destinationId : UInt16) (source : List UInt8) :
    Option Answer :=
  if service = pusServiceVerification ∨ service = pusServiceEventReporting ∨
      service = pusServiceLargeData ∨
      (service = pusServiceHousekeeping ∧ be16At source 0 = pus3SidFrameworkDiag) then none
  else
    some
      { service := service
        subtype := subtype
        destinationId := destinationId
        source := source }

def answerOf (packet : List UInt8) : Option Answer :=
  match pusTmSecondaryUnpack (packet.drop ccsdsPrimaryHeaderSize) with
  | .error _ => none
  | .ok sec =>
      Answer.read sec.serviceType sec.serviceSubtype sec.destinationId (tmSourceData packet)

/-- What is owed to a telecommand handed to the router: if it is accepted, by the stores as
they are then. -/
def TickDispatch.answers (dispatch : TickDispatch cfg) : List Answer :=
  if dispatch.verdict.addressed = true ∧ dispatch.verdict.fc = .none then
    (dispatch.ctx.stores.answer dispatch.verdict (routerAppData dispatch.tc)).toList
  else []

/-- The report of the structure that is due, to nobody in particular. -/
def RouterStores.dueAnswer (stores : RouterStores cfg) (nowSeconds : UInt32) : Option Answer :=
  stores.hkstore.bind fun hkstore => stores.datapool.bind fun dp =>
    (hkstoreDue hkstore nowSeconds).1.bind fun held =>
      (held.source dp).map fun source => .of .hkParamReport 0 source

/-- The answers owed in a tick. -/
def MainState.answers (state : MainState cfg) (tick : LoopTick) : List Answer :=
  match tick with
  | .dynamicHk nowSeconds => (state.loop.ctx.stores.dueAnswer nowSeconds).toList
  | _ => (state.dispatches tick).toList.flatMap TickDispatch.answers

def tickAnswers (state : MainState cfg) : List LoopTick → List Answer
  | [] => []
  | tick :: rest => state.answers tick ++ tickAnswers (loopTick state tick).1 rest

theorem answerOf_reads {packet : List UInt8} {tm : TmPacket} (reads : ReadsAs packet tm) :
    answerOf packet = Answer.read tm.secondary.serviceType tm.secondary.serviceSubtype
      tm.secondary.destinationId tm.source := by
  simp only [answerOf, reads.secondary, reads.sourceData]

theorem answerOf_yields {packet : List UInt8} {tm : TmPacket} (reads : ReadsAs packet tm) :
    Yields answerOf packet (Answer.read tm.secondary.serviceType tm.secondary.serviceSubtype
      tm.secondary.destinationId tm.source).toList :=
  answerOf_reads reads ▸ .one reads

theorem Answer.read_own {service : UInt8} (own : service = pusServiceVerification ∨
    service = pusServiceEventReporting ∨ service = pusServiceLargeData) (subtype : UInt8)
    (destinationId : UInt16) (source : List UInt8) :
    Answer.read service subtype destinationId source = none :=
  if_pos (by rcases own with own | own | own <;> simp [own])

/-- A report of a structure of the store is an answer, and so is every report of the
three other stores. -/
theorem Answer.read_of {kind : TmKind} {source : List UInt8}
    (other : kind.service ≠ pusServiceVerification)
    (sid : kind = .hkParamReport → be16At source 0 ≠ pus3SidFrameworkDiag)
    (destinationId : UInt16) :
    Answer.read kind.service kind.subtype destinationId source =
      some (.of kind destinationId source) := by
  refine if_neg ?_
  cases kind with
  | acceptanceSuccess | acceptanceFailure | completionSuccess | completionFailure =>
      exact absurd rfl other
  | hkParamReport =>
      rintro (own | own | own | ⟨_, framework⟩)
      · exact absurd own (by decide)
      · exact absurd own (by decide)
      · exact absurd own (by decide)
      · exact sid rfl framework
  | summaryReport | storeReport | areYouAlive | valueReport =>
      simp only [TmKind.service]
      exact fun own => absurd own (by rintro (own | own | own | ⟨own, _⟩) <;> revert own <;> decide)

/-! ### One telecommand -/

/-- A service that owes what it reports. -/
theorem routeReturn_yields {status : Type} [DecidableEq status] (unknownSubtype : status → Bool)
    (bufTooSmall : status) {ctx inner : RouterCtx cfg} {v : TcAcceptResult} {nowSeconds : UInt32}
    {outCap : Nat} {kind : TmKind} {result : Except status (Option TmOut)}
    {owed : Option (List UInt8)}
    (answers : Answers result (routerRequest ctx nowSeconds v.sourceId outCap) ctx.counters kind
      owed)
    (other : kind.service ≠ pusServiceVerification)
    (sid : ∀ source, owed = some source → kind = .hkParamReport →
      be16At source 0 ≠ pus3SidFrameworkDiag) :
    Yields answerOf (routeReturn unknownSubtype bufTooSmall inner result).out
      (owed.map (Answer.of kind v.sourceId)).toList := by
  cases result with
  | error code =>
      rw [show owed = none from answers]
      exact .nil
  | ok report =>
      cases report with
      | none =>
          rw [show owed = none from answers]
          exact .nil
      | some tm =>
          obtain ⟨source, rfl, reads⟩ := answers
          have yields := answerOf_yields reads
          have said := Answer.read_of other (sid source rfl) v.sourceId
          rw [Option.map_some, ← said]
          exact yields

theorem pus3HkSource_sid (sid : UInt16) (nowSeconds : UInt32) (seqSnapshot : UInt16)
    (params : Pus3HkParams) : be16At (pus3HkSource sid nowSeconds seqSnapshot params) 0 = sid := by
  simp only [pus3HkSource, List.append_assoc]
  exact be16At_append [] _ sid

/-- The source data of a structure start with its identifier. -/
theorem HkStructure.source_sid {dp : Datapool} (held : HkStructure) {source : List UInt8}
    (said : held.source dp = some source) : be16At source 0 = held.sid := by
  obtain ⟨values, _, rfl⟩ := Option.map_eq_some_iff.mp said
  exact be16At_append [] _ held.sid

section Handlers

variable {ctx : RouterCtx cfg} (ready : ctx.Ready) (v : TcAcceptResult) (nowSeconds : UInt32)
  (tc : List UInt8) {outCap : Nat} (room : tcRouterMaxReport ≤ outCap)

include ready room

/-- The framework's structure has its own account. -/
theorem routerPus3PollFramework_yields :
    Yields answerOf (routerPus3PollFramework ctx v nowSeconds outCap).out [] := by
  have size : pus3HkTmPacketSize ≤ tcRouterMaxReport := by decide
  obtain ⟨out, _, built, _⟩ := pus3BuildHkReport_ok (fillHkParams ctx)
    (ready.serves nowSeconds v.sourceId size room)
  have reads := pus3BuildHkReport_packet built
  have framework : be16At (pus3HkSource pus3SidFrameworkDiag nowSeconds ctx.counters.tmSeqCount
      (fillHkParams ctx)) 0 = pus3SidFrameworkDiag := pus3HkSource_sid ..
  have sent : (routerPus3PollFramework ctx v nowSeconds outCap).out = out.packet := by
    change (routeReturn _ _ ctx ((pus3BuildHkReport _ _ _ (fillHkParams ctx)).map some)).out = _
    rw [built]
    rfl
  have yields := answerOf_yields reads
  rw [Answer.read, if_pos (.inr (.inr (.inr ⟨rfl, framework⟩)))] at yields
  rw [sent]
  exact yields

theorem routerPus3PollDynamic_yields {app : List UInt8}
    (query : app.length = 2 ∧ be16At app 0 ≠ pus3SidFrameworkDiag) :
    Yields answerOf (routerPus3PollDynamic ctx v nowSeconds (be16At app 0) outCap).out
      ((ctx.stores.structureAnswer app).map (Answer.of .hkParamReport v.sourceId)).toList := by
  rw [routerPus3PollDynamic, RouterStores.structureAnswer, RouterCtx.stores]
  cases wired : ctx.hkstore with
  | none => exact .nil
  | some hkstore =>
      simp only [Option.bind_some, hkstoreFind_eq]
      cases found : hkstore.held.find? fun held => held.sid == be16At app 0 with
      | none =>
          cases ctx.datapool with
          | none => exact .nil
          | some dp =>
              rw [Option.bind_some, Hkstore.answer, if_pos query, found]
              exact .nil
      | some held =>
          cases pool : ctx.datapool with
          | none => exact .nil
          | some dp =>
              have fits := ready.limits.structureReport_fits
                (ready.hkParams hkstore wired held (List.mem_of_find?_eq_some found))
              have named : held.sid = be16At app 0 := by
                have same := List.find?_some found
                exact beq_iff_eq.mp same
              rw [Option.bind_some, Hkstore.answer, if_pos query, found, Option.bind_some]
              refine routeReturn_yields _ _ (pus3BuildDynamicHkReport_answers dp
                (ready.serves nowSeconds v.sourceId (Nat.le_refl _) room) fits (by decide))
                (by decide) fun source said _ => ?_
              rw [held.source_sid said, named]
              exact query.2

theorem routerPus3Poll_yields (app : List UInt8) :
    Yields answerOf (routerPus3Poll ctx v nowSeconds app outCap).out
      ((ctx.stores.structureAnswer app).map (Answer.of .hkParamReport v.sourceId)).toList := by
  have unasked (other : ¬(app.length = 2 ∧ be16At app 0 ≠ pus3SidFrameworkDiag)) :
      ctx.stores.structureAnswer app = none := by
    simp [RouterStores.structureAnswer, Hkstore.answer, if_neg other]
  rw [routerPus3Poll]
  by_cases sized : app.length = pus3PollTcAppDataSize
  · rw [if_neg (not_not.mpr sized)]
    by_cases framework : be16At app 0 = pus3SidFrameworkDiag
    · simp only [if_pos framework]
      rw [unasked fun query => query.2 framework]
      exact routerPus3PollFramework_yields ready v nowSeconds room
    · simp only [if_neg framework]
      exact routerPus3PollDynamic_yields ready v nowSeconds room ⟨sized, framework⟩
  · rw [if_pos sized, unasked fun query => sized query.1]
    exact .nil

theorem routerPus17_yields :
    Yields answerOf (routerPus17 ctx v nowSeconds tc outCap).out
      ((if v.serviceSubtype = pus17SubtypeAreYouAliveTc then some [] else none).map
        (Answer.of .areYouAlive v.sourceId)).toList := by
  have size : pus17TmPacketSize ≤ tcRouterMaxReport := by decide
  exact routeReturn_yields _ _ (pus17Execute_answers
    (ready.serves nowSeconds v.sourceId size room) v.serviceSubtype) (by decide)
    fun _ _ kind => by contradiction

theorem routerPus3_yields :
    Yields answerOf (routerPus3 ctx v nowSeconds tc outCap).out
      ((if v.serviceSubtype = pus3SubtypeOneShotPoll then
          ctx.stores.structureAnswer (routerAppData tc) else none).map
        (Answer.of .hkParamReport v.sourceId)).toList := by
  simp only [routerPus3]
  by_cases poll : v.serviceSubtype = pus3SubtypeOneShotPoll
  · rw [if_pos poll, if_pos poll]
    exact routerPus3Poll_yields ready v nowSeconds room _
  · rw [if_neg poll, if_neg poll]
    split
    · rw [routerPus3Manage]
      split <;> exact .nil
    · exact .nil

theorem routerPus20_yields :
    Yields answerOf (routerPus20 ctx v nowSeconds tc outCap).out
      ((if v.serviceSubtype = pus20SubtypeReportRequest then
          ctx.datapool.bind (·.answer cfg (routerAppData tc)) else none).map
        (Answer.of .valueReport v.sourceId)).toList := by
  rw [routerPus20]
  cases ctx.datapool with
  | none =>
      rw [Option.bind_none, ite_self]
      exact .nil
  | some dp =>
      have fits := ready.limits.valueReport_fits
      exact routeReturn_yields _ _ (pus20Execute_answers dp v.serviceSubtype (routerAppData tc)
        (ready.serves nowSeconds v.sourceId (Nat.le_refl _) room) fits (by decide)) (by decide)
        fun _ _ kind => by contradiction

theorem routerPus11_yields :
    Yields answerOf (routerPus11 ctx v nowSeconds tc outCap).out
      ((if v.serviceSubtype = pus11SubtypeSummaryReportRequest then
          ctx.schedule.bind (·.answer cfg (routerAppData tc)) else none).map
        (Answer.of .summaryReport v.sourceId)).toList := by
  rw [routerPus11]
  cases ctx.schedule with
  | none =>
      rw [Option.bind_none, ite_self]
      exact .nil
  | some sched =>
      have fits := ready.limits.summaryReport_fits
      exact routeReturn_yields _ _ (pus11Execute_answers sched v.serviceSubtype
        (routerAppData tc) (ready.serves nowSeconds v.sourceId (Nat.le_refl _) room) fits
        (by decide)) (by decide) fun _ _ kind => by contradiction

theorem routerPus15_yields :
    Yields answerOf (routerPus15 ctx v nowSeconds tc outCap).out
      ((if v.serviceSubtype = pus15SubtypeReportRequest then
          ctx.store.bind (·.answer (routerAppData tc)) else none).map
        (Answer.of .storeReport v.sourceId)).toList := by
  rw [routerPus15]
  cases ctx.store with
  | none =>
      rw [Option.bind_none, ite_self]
      exact .nil
  | some store =>
      have size : pus15StoreReportPacketSize ≤ tcRouterMaxReport := by decide
      exact routeReturn_yields _ _ (pus15Execute_answers store v.serviceSubtype
        (routerAppData tc) (ready.serves nowSeconds v.sourceId size room)) (by decide)
        fun _ _ kind => by contradiction

/-- Every handler answers with what is owed. -/
theorem routerRoute_yields :
    Yields answerOf (routerRoute ctx v nowSeconds tc outCap).out
      (ctx.stores.answer v (routerAppData tc)).toList := by
  rw [RouterStores.answer, routerRoute_eq]
  by_cases test : v.serviceType = pusServiceTest
  · rw [if_pos test, if_pos test]
    exact routerPus17_yields ready v nowSeconds tc room
  rw [if_neg test, if_neg test]
  by_cases housekeeping : v.serviceType = pusServiceHousekeeping
  · rw [if_pos housekeeping, if_pos housekeeping]
    exact routerPus3_yields ready v nowSeconds tc room
  rw [if_neg housekeeping, if_neg housekeeping]
  by_cases parameter : v.serviceType = pusServiceOnboardParameter
  · rw [if_pos parameter, if_pos parameter]
    exact routerPus20_yields ready v nowSeconds tc room
  rw [if_neg parameter, if_neg parameter]
  by_cases scheduling : v.serviceType = pusServiceScheduling
  · rw [if_pos scheduling, if_pos scheduling]
    exact routerPus11_yields ready v nowSeconds tc room
  rw [if_neg scheduling, if_neg scheduling]
  by_cases storage : v.serviceType = pusServiceStorage
  · rw [if_pos storage, if_pos storage]
    exact routerPus15_yields ready v nowSeconds tc room
  rw [if_neg storage, if_neg storage]
  exact .nil

end Handlers

/-- A verification report is no answer. -/
theorem RouterOutput.verify_yields {written : RouterOutput cfg} {answers : List Answer}
    (yields : Yields answerOf written.out answers) {tc : List UInt8}
    (header : ccsdsPrimaryHeaderSize ≤ tc.length) (fc : Pus1FailureCode)
    {kindSuccess kindFailure : TmKind} (success : kindSuccess.service = pusServiceVerification)
    (failure : kindFailure.service = pusServiceVerification) (nowSeconds : UInt32)
    (destinationId : UInt16) (outCap : Nat) :
    Yields answerOf (written.verify (fun request counters => buildReport request counters
      (tc.take pus1RequestIdSize) fc kindSuccess kindFailure) nowSeconds destinationId outCap).out
      answers := by
  have identified : (tc.take pus1RequestIdSize).length = pus1RequestIdSize := by
    rw [List.length_take, Nat.min_eq_left]
    simp only [ccsdsPrimaryHeaderSize] at header
    simp only [pus1RequestIdSize]
    omega
  have sized : (pus1Source (tc.take pus1RequestIdSize) fc).length =
      pus1RequestIdSize + if fc = .none then 0 else 1 := by
    rw [pus1Source, List.length_append, List.length_take, identified, Nat.min_self]
    split <;> rfl
  have own : (if fc = .none then kindSuccess else kindFailure).service =
      pusServiceVerification := by
    split
    · exact success
    · exact failure
  rw [RouterOutput.verify]
  split
  · exact yields
  · rename_i tm built
    have small : pus1RequestIdSize + (if fc = .none then 0 else 1) + 12 < 65536 := by
      split <;> decide
    have reads := buildTm_packet built sized small
    have said : answerOf tm.packet = none := by
      rw [answerOf_reads reads]
      exact Answer.read_own (.inl own) _ _ _
    have both := yields.append (Yields.one reads)
    rw [said, Option.toList_none, List.append_nil] at both
    exact both

theorem routerAcceptanceRequested_yields (ctx : RouterCtx cfg) (v : TcAcceptResult)
    (nowSeconds : UInt32) {tc : List UInt8} (header : ccsdsPrimaryHeaderSize ≤ tc.length)
    (outCap : Nat) :
    Yields answerOf (routerAcceptanceRequested ctx v nowSeconds tc outCap).out [] := by
  rw [routerAcceptanceRequested]
  split
  · exact RouterOutput.verify_yields .nil header v.fc rfl rfl nowSeconds v.sourceId outCap
  · exact .nil

/-- An accepted telecommand is answered by its handler, with the stores as it found them. -/
theorem routerAccepted_yields {ctx : RouterCtx cfg} (ready : ctx.Ready) (v : TcAcceptResult)
    (nowSeconds : UInt32) {tc : List UInt8} (header : ccsdsPrimaryHeaderSize ≤ tc.length) :
    Yields answerOf (routerAccepted
        (routerAcceptanceRequested ctx v nowSeconds tc tcRouterMaxTm) v nowSeconds tc
        tcRouterMaxTm).out
      (ctx.stores.answer v (routerAppData tc)).toList := by
  have before := routerAcceptanceRequested_yields ctx v nowSeconds header tcRouterMaxTm
  have written := routerAcceptanceRequested_written ready.addressable v nowSeconds header
    (Nat.le_refl tcRouterMaxTm)
  have stores := routerAcceptanceRequested_stores ctx v nowSeconds tc tcRouterMaxTm
  generalize routerAcceptanceRequested ctx v nowSeconds tc tcRouterMaxTm = accepted at *
  have acceptedReady : accepted.ctx.Ready :=
    ready.of_stores written.identity.apid (written.emits.seqCount_le ready.seqCount) stores
  have length := written.length
  have room : tcRouterMaxReport ≤ tcRouterMaxTm - accepted.out.length := by
    simp only [tcRouterMaxReport, tcRouterMaxTm] at length ⊢
    split at length <;> omega
  have routed := routerRoute_yields acceptedReady v nowSeconds tc room
  rw [stores] at routed
  have executed := before.append routed
  rw [List.nil_append] at executed
  simp only [routerAccepted]
  split
  · exact RouterOutput.verify_yields executed header _ rfl rfl nowSeconds v.sourceId tcRouterMaxTm
  · exact executed

/-- A telecommand that is not accepted is owed nothing. -/
theorem TickDispatch.yields {dispatch : TickDispatch cfg} (ready : dispatch.ctx.Ready) :
    Yields answerOf dispatch.reply.out dispatch.answers := by
  have verdict (addressed : ¬dispatch.verdict.addressed = false) :
      Verdict dispatch.tc dispatch.verdict := tcAccept_verdict (Bool.not_eq_false _ ▸ addressed)
  have unanswered (rejected : dispatch.verdict.fc ≠ .none) : dispatch.answers = [] :=
    if_neg fun owed => rejected owed.2
  simp only [TickDispatch.reply, tcRouterDispatch, if_neg (Nat.lt_irrefl _)]
  change Yields answerOf (if dispatch.verdict.addressed = false then _ else _ :
    DispatchReply cfg).out _
  split_ifs with ignored wrongLength failed
  · have unaddressed : dispatch.answers = [] :=
      if_neg fun owed => absurd (ignored.symm.trans owed.1) (by decide)
    rw [unaddressed]
    exact .nil
  · rw [unanswered fun accepted => absurd (wrongLength.symm.trans accepted) (by decide)]
    exact RouterOutput.verify_yields .nil (verdict ignored).header _ rfl rfl dispatch.nowSeconds 0
      tcRouterMaxTm
  · rw [unanswered failed]
    exact routerAcceptanceRequested_yields _ dispatch.verdict dispatch.nowSeconds
      (verdict ignored).header tcRouterMaxTm
  · have accepted := routerAccepted_yields (ready.count dispatch.verdict) dispatch.verdict
      dispatch.nowSeconds (verdict ignored).header
    rw [routerCount_stores] at accepted
    rw [TickDispatch.answers, if_pos ⟨Bool.not_eq_false _ ▸ ignored, not_not.mp failed⟩]
    exact accepted

/-! ### Runs -/

/-- A report of another service of the loop's own is no answer. -/
theorem WritesReports.unanswering {service : UInt8} {sent : List UInt8}
    (writes : WritesReports service sent) (own : service = pusServiceVerification ∨
      service = pusServiceEventReporting ∨ service = pusServiceLargeData) :
    (burstPackets sent.length sent).filterMap answerOf = [] := by
  refine List.filterMap_eq_nil_iff.mpr fun packet member => ?_
  obtain ⟨tm, reads, same⟩ := writes packet member
  rw [answerOf_reads reads]
  exact Answer.read_own (same ▸ own) _ _ _

/-- A structure that falls due is none of the framework's. -/
theorem Hkstore.WellFormed.due_sid {store : Hkstore} (wellFormed : store.WellFormed cfg)
    {nowSeconds : UInt32} {held : HkStructure}
    (due : (hkstoreDue store nowSeconds).1 = some held) : held.sid ≠ pus3SidFrameworkDiag := by
  rcases hkstoreDue_cases store nowSeconds with same | ⟨left, old, right, split, result⟩
  · rw [same] at due
    contradiction
  · rw [result] at due
    obtain rfl := Option.some.inj due
    have floor := (wellFormed.bounded old (by simp [Hkstore.held, occupied, split])).sidFloor
    rintro framework
    change old.sid = pus3SidFrameworkDiag at framework
    rw [framework] at floor
    exact absurd floor (by decide)

section Runs

variable (limits : cfg.ReportLimits) (partSize : cfg.pus13PartSize + 18 < 65536)

include limits

/-- The structure that is due is reported, if the pool holds its parameters. -/
theorem dynamicHkTick_answers {state : MainState cfg} (ready : state.senders.Ready)
    (nowSeconds : UInt32) :
    (loopTick state (.dynamicHk nowSeconds)).2.live.filterMap answerOf =
      state.answers (.dynamicHk nowSeconds) := by
  rw [MainState.answers, RouterStores.dueAnswer, RouterCtx.stores, LoopOutput.live]
  simp only [loopTick, dynamicHkTick]
  cases wired : state.loop.ctx.hkstore with
  | none => rfl
  | some hkstore =>
      cases pool : state.loop.ctx.datapool with
      | none => rfl
      | some dp =>
          have wellFormed := ready.hkstore hkstore wired
          simp only [Option.bind_some]
          cases due : (hkstoreDue hkstore nowSeconds).1 with
          | none => rfl
          | some held =>
              have fits := limits.structureReport_fits (wellFormed.due_params_le due)
              let marked := state.marked (hkstoreDue hkstore nowSeconds).2
              have room : tcRouterMaxReport ≤ tcRouterMaxTm := by decide
              have serves := (ready.marked (wellFormed.due nowSeconds)).serves nowSeconds room
              have answers := pus3BuildDynamicHkReport_answers dp serves fits (by decide)
              obtain ⟨sent, _⟩ := marked.send_counters nowSeconds
                (.dynamicHkReport (marked.request nowSeconds) dp held)
              suffices yields : Yields answerOf (tmCall marked.senders
                  (.dynamicHkReport (marked.request nowSeconds) dp held)).2
                  ((held.source dp).map (Answer.of .hkParamReport 0)).toList by
                rw [← sent] at yields
                exact yields.burst
              rw [tmCall]
              cases built : pus3BuildDynamicHkReport (marked.request nowSeconds)
                marked.senders.periodicCounters dp held with
              | error status =>
                  rw [built] at answers
                  rw [show held.source dp = none from answers]
                  exact .nil
              | ok out =>
                  rw [built] at answers
                  obtain ⟨source, said, reads⟩ := answers
                  have sid : be16At source 0 ≠ pus3SidFrameworkDiag := by
                    rw [held.source_sid said]
                    exact wellFormed.due_sid due
                  have yields := answerOf_yields reads
                  rw [said, Option.map_some, ← Answer.read_of (by decide) (fun _ => sid)]
                  exact yields

omit limits in
/-- The framework's own report is no answer. -/
theorem hkTick_answers {state : MainState cfg} (ready : state.senders.Ready)
    (nowSeconds drops : UInt32) :
    (loopTick state (.hk nowSeconds drops)).2.live.filterMap answerOf = [] := by
  cases due : hkDue state nowSeconds with
  | false =>
      have idle : loopTick state (.hk nowSeconds drops) = state.quiet := by
        simp only [loopTick, hkTick, due, Bool.false_eq_true, if_false]
      rw [idle]
      rfl
  | true =>
      obtain ⟨packet, sent, reads⟩ := hkTick_live ready drops due
      have own : answerOf packet = none := by
        rw [answerOf_reads reads]
        exact if_pos (.inr (.inr (.inr ⟨rfl, pus3HkSource_sid ..⟩)))
      rw [sent, List.filterMap_cons, own]
      rfl

include partSize

theorem loopTick_answers {state : MainState cfg} (ready : state.senders.Ready)
    (tick : LoopTick) :
    (loopTick state tick).2.live.filterMap answerOf = state.answers tick := by
  have others (unmarked : ∀ nowSeconds, tick ≠ .dynamicHk nowSeconds)
      (unframed : ∀ nowSeconds drops, tick ≠ .hk nowSeconds drops) :
      (loopTick state tick).2.live.filterMap answerOf =
        (state.dispatches tick).toList.flatMap TickDispatch.answers := by
    rw [LoopOutput.live]
    cases loopTick_sends ready tick with
    | nothing handed sent _ =>
        rw [handed, sent]
        rfl
    | @report handed before call _ _ builds admitted service sent _ =>
        rw [handed, sent]
        refine (tmCall_writes limits partSize before builds admitted).unanswering ?_
        cases call with
        | dispatch | largedataStart | otherWork => exact builds.elim
        | eventReport | fdirDrain => exact .inr (.inl rfl)
        | largedataPart => exact .inr (.inr rfl)
        | hkReport | dynamicHkReport =>
            cases tick with
            | hk nowSeconds drops => exact absurd rfl (unframed nowSeconds drops)
            | dynamicHk nowSeconds => exact absurd rfl (unmarked nowSeconds)
            | rxOverflow | fdir | release | retrieval | largedata | receive =>
                exact absurd service (by simp only [TmCall.service, LoopTick.service]; decide)
    | @telecommand dispatch handed prepared _ sent _ =>
        rw [handed, sent]
        have yields := TickDispatch.yields (prepared.router limits : dispatch.ctx.Ready)
        rw [yields.burst]
        exact (List.flatMap_singleton _ _).symm
  cases tick with
  | dynamicHk nowSeconds => exact dynamicHkTick_answers limits ready nowSeconds
  | hk nowSeconds drops => exact hkTick_answers ready nowSeconds drops
  | rxOverflow | fdir | release | retrieval | largedata | receive =>
      exact others (fun _ => by simp) fun _ _ => by simp

theorem tickRun_answers {state : MainState cfg} (ready : state.senders.Ready)
    (ticks : List LoopTick) :
    (tickLive state ticks).filterMap answerOf = tickAnswers state ticks := by
  induction ticks generalizing state with
  | nil => rfl
  | cons tick rest inductionHypothesis =>
      have next := (loopTick_labelled limits ready partSize tick).ready
      have live : tickLive state (tick :: rest) =
          (loopTick state tick).2.live ++ tickLive (loopTick state tick).1 rest := rfl
      rw [live, List.filterMap_append, loopTick_answers limits partSize ready tick,
        inductionHypothesis next, tickAnswers]

end Runs

/-- In every run from start-up the live telemetry, apart from what verification, events,
large data and the framework's diagnostics account for, is the answers owed, one after the
other: each says what its store held when the query was dispatched, or the structure fell
due. -/
theorem appMain_answers (admitted : cfg.KconfigAdmitted)
    (partSize : cfg.pus13PartSize + 18 < 65536) (power : PowerUp cfg)
    (loaded : NvstoreStatus × Nvstore) (ticks : List LoopTick) :
    let boot := appMain cfg build power (appRestore cfg build.tables loaded)
    (boot.2.live ++ tickLive boot.1 ticks).filterMap answerOf = tickAnswers boot.1 ticks := by
  intro boot
  have params : build.tables.params.length ≤ 3 := Nat.le_refl _
  have within := Subsystems.Within.appRestore cfg params loaded
  have ready : boot.1.senders.Ready :=
    appMain_ready admitted.reportLimits partSize build power within
  have event : boot.2.live.filterMap answerOf = [] := by
    rw [LoopOutput.live, (appMain_sends build power (appRestore cfg build.tables loaded)).1]
    have builds : (bootEvent build power (appRestore cfg build.tables loaded)).Builds := trivial
    exact (tmCall_writes admitted.reportLimits partSize _ builds trivial).unanswering
      (.inr (.inl rfl))
  rw [List.filterMap_append, event, List.nil_append]
  exact tickRun_answers admitted.reportLimits partSize ready ticks

/-- The values of two parameters, and a request that is not scheduled, for source 5. -/
def queryUplink : List LoopTick :=
  let values : List UInt8 :=
    [0x19, 0, 0xC0, 2, 0, 11, 0x20, 20, 1, 0, 5, 2, 0, 1, 0, 2, 0x7D, 0xED]
  let summary : List UInt8 :=
    [0x19, 0, 0xC0, 3, 0, 11, 0x20, 11, 11, 0, 5, 1, 0x19, 0, 0xC0, 9, 0xF4, 0x55]
  (values ++ summary).map fun byte => .receive 9 0 (some byte)

/-- The period of 10 seconds and version 1, and no activity; the diagnostics are sent between
them. -/
theorem appMain_answers_queries :
    let boot := appMain defaultConfig watchfulBuild (zeroedPowerUp defaultConfig 0)
      (appRestore defaultConfig watchfulBuild.tables (.errNoValidImage, nvstoreZero))
    let ticks := queryUplink.take 20 ++ [.hk 10 0] ++ queryUplink.drop 20
    tickAnswers boot.1 ticks =
        [{ service := 20, subtype := 2, destinationId := 5
           source := [2, 0, 1, 0, 0, 0, 10, 0, 2, 0, 1] },
          { service := 11, subtype := 12, destinationId := 5, source := [0] }] ∧
      (boot.2.live ++ tickLive boot.1 ticks).filterMap answerOf = tickAnswers boot.1 ticks := by
  intro boot ticks
  exact ⟨by decide +kernel, appMain_answers Config.default_kconfigAdmitted (by decide)
    (zeroedPowerUp defaultConfig 0) (.errNoValidImage, nvstoreZero) ticks⟩

end FswCore
