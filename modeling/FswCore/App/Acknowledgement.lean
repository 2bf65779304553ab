import FswCore.App.Downlink
import FswCore.App.Safing

/-!
Contract: the verification reports of a run, against the telecommands it dispatched.

Owns:
- `Acknowledgement`, a verification report as it is read on the ground;
- the acknowledgements of a telecommand, as they follow from its verdict, its ack flags
  and what its handler returned;
- the acknowledgements in the live telemetry of a run are those of the telecommands
  dispatched, in their order, with none lost and none of anything else.

Does not own: which telecommands are accepted.
-/

namespace FswCore

open Library Library.BigEndian

variable {cfg : Config} {build : AppBuild}

/-! ### Reports as acknowledgements -/

/-- What a verification report says: the stage and outcome, to whom, of which request, and
the code of a failure. -/
structure Acknowledgement where
  subtype : UInt8
  destinationId : UInt16
  requestId : List UInt8
  failure : Option UInt8
deriving DecidableEq, Repr

def acknowledgementOf (packet : List UInt8) : Option Acknowledgement :=
  match pusTmSecondaryUnpack (packet.drop ccsdsPrimaryHeaderSize) with
  | .error _ => none
  | .ok sec =>
      if sec.serviceType = pusServiceVerification then some
        { subtype := sec.serviceSubtype
          destinationId := sec.destinationId
          requestId := (tmSourceData packet).take 4
          failure := (tmSourceData packet)[4]? }
      else none

/-- The acknowledgement of one stage. -/
def acknowledge (tc : List UInt8) (kindSuccess kindFailure : TmKind) (destinationId : UInt16)
    (fc : Pus1FailureCode) : Acknowledgement where
  subtype := if fc = .none then kindSuccess.subtype else kindFailure.subtype
  destinationId := destinationId
  requestId := tc.take 4
  failure := if fc = .none then none else some fc.code

/-- The acknowledgements of a telecommand with this verdict, and what its handler
returned if it was routed. -/
def acknowledgementsOf (tc : List UInt8) (v : TcAcceptResult) (routed : Option (RouteReply cfg)) :
    List Acknowledgement :=
  let acceptance := acknowledge tc .acceptanceSuccess .acceptanceFailure
  let completion := acknowledge tc .completionSuccess .completionFailure
  if v.addressed = false then []
  else if v.fc = .lengthError then [acceptance 0 .lengthError]
  else
    (if v.ackFlags &&& pusTcAckAcceptance ≠ 0 then [acceptance v.sourceId v.fc] else []) ++
      match routed with
      | none => []
      | some reply =>
          if v.ackFlags &&& pusTcAckCompletion ≠ 0 then [completion v.sourceId reply.execFc]
          else []

def TickDispatch.acknowledgements (dispatch : TickDispatch cfg) : List Acknowledgement :=
  acknowledgementsOf dispatch.tc dispatch.verdict dispatch.reply.routed

theorem acknowledgementOf_reads {packet : List UInt8} {tm : TmPacket} (reads : ReadsAs packet tm) :
    acknowledgementOf packet =
      if tm.secondary.serviceType = pusServiceVerification then some
        { subtype := tm.secondary.serviceSubtype
          destinationId := tm.secondary.destinationId
          requestId := tm.source.take 4
          failure := tm.source[4]? }
      else none := by
  simp only [acknowledgementOf, reads.secondary, reads.sourceData]

/-! ### One telecommand -/

def Emission.acknowledgement (emission : Emission) : Option Acknowledgement :=
  if emission.kind.service = pusServiceVerification then some
    { subtype := emission.kind.subtype
      destinationId := emission.destinationId
      requestId := emission.source.take 4
      failure := emission.source[4]? }
  else none

/-- The acknowledgements in the octets of emissions are those of the emissions. -/
theorem Emits.acknowledgements {apid : UInt16} {nowSeconds : UInt32} {before after : PusCounters}
    {emissions : List Emission} {out : List UInt8}
    (emits : Emits apid nowSeconds before emissions out after) :
    (burstPackets out.length out).filterMap acknowledgementOf =
      emissions.filterMap Emission.acknowledgement := by
  suffices yields : Yields acknowledgementOf out (emissions.filterMap Emission.acknowledgement) from
    yields.burst
  induction emits with
  | nil counters => exact .nil
  | @cons before _ emission rest packet _ reads follows inductionHypothesis =>
      have first : acknowledgementOf packet = emission.acknowledgement :=
        acknowledgementOf_reads reads
      have both := (Yields.one reads).append inductionHypothesis
      rw [first] at both
      rw [List.filterMap_cons]
      cases said : emission.acknowledgement <;> rw [said] at both <;> exact both

/-- A verification report acknowledges its telecommand. -/
theorem verificationReport_acknowledgement {tc : List UInt8}
    (header : ccsdsPrimaryHeaderSize ≤ tc.length) {kindSuccess kindFailure : TmKind}
    (success : kindSuccess.service = pusServiceVerification)
    (failure : kindFailure.service = pusServiceVerification) (destinationId : UInt16)
    (fc : Pus1FailureCode) :
    (verificationReport tc kindSuccess kindFailure destinationId fc).acknowledgement =
      some (acknowledge tc kindSuccess kindFailure destinationId fc) := by
  have size : (tc.take 4).length = 4 := by
    rw [List.length_take, Nat.min_eq_left]
    simp only [ccsdsPrimaryHeaderSize] at header
    omega
  have service : (if fc = .none then kindSuccess else kindFailure).service =
      pusServiceVerification := by
    split
    · exact success
    · exact failure
  simp only [verificationReport, Emission.acknowledgement, service, if_true, acknowledge]
  by_cases none : fc = .none
  · simp [none, size]
  · simp [none, size]

theorem OwnReport.acknowledgements {v : TcAcceptResult} {service : List Emission}
    (own : OwnReport v service) (other : v.serviceType ≠ pusServiceVerification) :
    service.filterMap Emission.acknowledgement = [] := by
  refine List.filterMap_eq_nil_iff.mpr fun emission member => if_neg ?_
  rw [(own.own emission member).1]
  exact other

theorem acceptanceReports_acknowledgements {tc : List UInt8}
    (header : ccsdsPrimaryHeaderSize ≤ tc.length) (v : TcAcceptResult) :
    (acceptanceReports tc v).filterMap Emission.acknowledgement =
      if v.ackFlags &&& pusTcAckAcceptance ≠ 0 then
        [acknowledge tc .acceptanceSuccess .acceptanceFailure v.sourceId v.fc]
      else [] := by
  rw [acceptanceReports]
  split
  · rw [acceptanceReport, List.filterMap_cons, verificationReport_acknowledgement header rfl rfl]
    rfl
  · rfl

theorem completionReports_acknowledgements {tc : List UInt8}
    (header : ccsdsPrimaryHeaderSize ≤ tc.length) (v : TcAcceptResult) (execFc : Pus1FailureCode) :
    (completionReports tc v execFc).filterMap Emission.acknowledgement =
      if v.ackFlags &&& pusTcAckCompletion ≠ 0 then
        [acknowledge tc .completionSuccess .completionFailure v.sourceId execFc]
      else [] := by
  rw [completionReports]
  split
  · rw [completionReport, List.filterMap_cons, verificationReport_acknowledgement header rfl rfl]
    rfl
  · rfl

/-- A telecommand is acknowledged, and nothing else is. -/
theorem tcRouterDispatch_acknowledges {ctx : RouterCtx cfg} (ready : ctx.Ready)
    (nowSeconds : UInt32) (tc : List UInt8) :
    let reply := tcRouterDispatch ctx nowSeconds tc tcRouterMaxTm
    ∃ emissions, reply.Emits ctx nowSeconds emissions ∧
      emissions.filterMap Emission.acknowledgement =
        acknowledgementsOf tc (tcAccept tc ctx.apid) reply.routed := by
  have room := Nat.le_refl tcRouterMaxTm
  have verdict (addressed : ¬(tcAccept tc ctx.apid).addressed = false) :
      Verdict tc (tcAccept tc ctx.apid) := tcAccept_verdict (Bool.not_eq_false _ ▸ addressed)
  simp only [tcRouterDispatch, if_neg (Nat.lt_irrefl _)]
  generalize tcAccept tc ctx.apid = v at verdict ⊢
  split_ifs with ignored wrongLength failed
  · exact ⟨[], .nil _, by rw [acknowledgementsOf, if_pos ignored]; rfl⟩
  · have header := (verdict ignored).header
    have after := routerAcceptance_written (ready.count v).addressable v nowSeconds header 0 room
    refine ⟨_, after.counted, ?_⟩
    rw [acceptanceReport, List.filterMap_cons, verificationReport_acknowledgement header rfl rfl]
    simp only [acknowledgementsOf, if_neg ignored, if_pos wrongLength]
    rw [wrongLength]
    rfl
  · have header := (verdict ignored).header
    have after := routerAcceptanceRequested_written (ready.count v).addressable v nowSeconds
      header room
    refine ⟨_, after.counted, ?_⟩
    rw [acceptanceReports_acknowledgements header]
    simp only [acknowledgementsOf, if_neg ignored, if_neg wrongLength]
    exact (List.append_nil _).symm
  · have header := (verdict ignored).header
    have accepted := not_not.mp failed
    have before := routerAcceptanceRequested_written (ready.count v).addressable v nowSeconds
      header room
    rw [if_pos accepted] at before
    obtain ⟨routed, service, routes, _, own, _, after⟩ :=
      routerAccepted_written (ready.count v) header room before
        (routerAcceptanceRequested_stores ..)
    refine ⟨_, after.counted, ?_⟩
    rw [List.filterMap_append, List.filterMap_append, acceptanceReports_acknowledgements header,
      completionReports_acknowledgements header,
      own.acknowledgements ((verdict ignored).routable accepted), List.append_nil]
    simp only [acknowledgementsOf, if_neg ignored, if_neg wrongLength, routes]

theorem TickDispatch.acknowledged {dispatch : TickDispatch cfg} (ready : dispatch.ctx.Ready) :
    (burstPackets dispatch.reply.out.length dispatch.reply.out).filterMap acknowledgementOf =
      dispatch.acknowledgements := by
  obtain ⟨emissions, emits, acknowledges⟩ :=
    tcRouterDispatch_acknowledges ready dispatch.nowSeconds dispatch.tc
  exact (Emits.acknowledgements emits).trans acknowledges

/-! ### Runs -/

theorem WritesReports.unacknowledged {service : UInt8} {sent : List UInt8}
    (writes : WritesReports service sent) (other : service ≠ pusServiceVerification) :
    (burstPackets sent.length sent).filterMap acknowledgementOf = [] := by
  refine List.filterMap_eq_nil_iff.mpr fun packet member => ?_
  obtain ⟨tm, reads, own⟩ := writes packet member
  rw [acknowledgementOf_reads reads, own, if_neg other]

/-- No report of the loop's own is a verification report. -/
theorem TmCall.service_ne_verification (call : TmCall cfg) :
    call.service ≠ pusServiceVerification := by
  cases call <;> simp only [TmCall.service] <;> decide

section Runs

variable (limits : cfg.ReportLimits) (partSize : cfg.pus13PartSize + 18 < 65536)

include limits partSize

/-- A tick acknowledges the telecommand it hands to the router, and no other. -/
theorem loopTick_acknowledges {state : MainState cfg} (ready : state.senders.Ready)
    (tick : LoopTick) :
    (loopTick state tick).2.live.filterMap acknowledgementOf =
      (state.dispatches tick).toList.flatMap TickDispatch.acknowledgements := by
  rw [LoopOutput.live]
  cases loopTick_sends ready tick with
  | nothing handed sent _ =>
      rw [handed, sent]
      rfl
  | @report handed before call _ _ builds admitted _ sent _ =>
      rw [handed, sent, (tmCall_writes limits partSize before builds admitted).unacknowledged
        call.service_ne_verification]
      rfl
  | telecommand handed prepared _ sent _ =>
      rw [handed, sent, TickDispatch.acknowledged (prepared.router limits)]
      exact (List.flatMap_singleton _ _).symm

theorem tickRun_acknowledges {state : MainState cfg} (ready : state.senders.Ready)
    (ticks : List LoopTick) :
    (tickLive state ticks).filterMap acknowledgementOf =
      (tickDispatches state ticks).flatMap TickDispatch.acknowledgements := by
  induction ticks generalizing state with
  | nil => rfl
  | cons tick rest inductionHypothesis =>
      have next := (loopTick_labelled limits ready partSize tick).ready
      have live : tickLive state (tick :: rest) =
          (loopTick state tick).2.live ++ tickLive (loopTick state tick).1 rest := rfl
      rw [live, List.filterMap_append, loopTick_acknowledges limits partSize ready tick,
        inductionHypothesis next, tickDispatches, List.flatMap_append]

end Runs

/-- In every run from start-up the verification reports sent live are the acknowledgements
of the telecommands dispatched, one telecommand after the other. -/
theorem appMain_acknowledges (admitted : cfg.KconfigAdmitted)
    (partSize : cfg.pus13PartSize + 18 < 65536) (power : PowerUp cfg)
    (loaded : NvstoreStatus × Nvstore) (ticks : List LoopTick) :
    let boot := appMain cfg build power (appRestore cfg build.tables loaded)
    (boot.2.live ++ tickLive boot.1 ticks).filterMap acknowledgementOf =
      (tickDispatches boot.1 ticks).flatMap TickDispatch.acknowledgements := by
  intro boot
  have params : build.tables.params.length ≤ 3 := Nat.le_refl _
  have within := Subsystems.Within.appRestore cfg params loaded
  have ready : boot.1.senders.Ready :=
    appMain_ready admitted.reportLimits partSize build power within
  have event : boot.2.live.filterMap acknowledgementOf = [] := by
    rw [LoopOutput.live, (appMain_sends build power (appRestore cfg build.tables loaded)).1]
    have builds : (bootEvent build power (appRestore cfg build.tables loaded)).Builds := trivial
    exact (tmCall_writes admitted.reportLimits partSize _ builds trivial).unacknowledged
      (TmCall.service_ne_verification _)
  rw [List.filterMap_append, event, List.nil_append]
  exact tickRun_acknowledges admitted.reportLimits partSize ready ticks

/-- A connection test from source 5, with both ack flags. -/
def testUplink : List LoopTick :=
  [0x19, 0, 0xC0, 1, 0, 6, 0x29, 17, 1, 0, 5, 0x7B, 0xE2].map fun byte => .receive 9 0 (some byte)

/-- A telecommand with a wrong checksum, and one that is carried out. -/
theorem appMain_acknowledges_two :
    let boot := appMain defaultConfig watchfulBuild (zeroedPowerUp defaultConfig 0)
      (appRestore defaultConfig watchfulBuild.tables (.errNoValidImage, nvstoreZero))
    let ticks := corruptUplink ++ [.fdir 9] ++ testUplink
    (tickDispatches boot.1 ticks).flatMap TickDispatch.acknowledgements =
        [{ subtype := 2, destinationId := 0, requestId := [0x19, 0, 0xC0, 0], failure := some 4 },
          { subtype := 1, destinationId := 5, requestId := [0x19, 0, 0xC0, 1], failure := none },
          { subtype := 7, destinationId := 5, requestId := [0x19, 0, 0xC0, 1], failure := none }] ∧
      (boot.2.live ++ tickLive boot.1 ticks).filterMap acknowledgementOf =
        (tickDispatches boot.1 ticks).flatMap TickDispatch.acknowledgements := by
  intro boot ticks
  exact ⟨by decide +kernel, appMain_acknowledges Config.default_kconfigAdmitted (by decide)
    (zeroedPowerUp defaultConfig 0) (.errNoValidImage, nvstoreZero) ticks⟩

end FswCore
