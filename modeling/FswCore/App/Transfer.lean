import FswCore.App.Acknowledgement
import FswCore.Largedata.Reassembly

/-!
Contract: the large data transfer of the demonstration, under the main loop.

Owns:
- no tick but its own touches the session, and none but its own sends a part;
- the parts in the live telemetry of a run, taken out from between everything else the
  loop sends, are those of the transfer: one for each of its ticks until all are sent,
  in order, and what they carry together is the front of the unit.

Does not own: transfers started by another caller, and buffers a part does not fit.
-/

namespace FswCore

open Library Library.BigEndian

variable {cfg : Config} {build : AppBuild}

/-! ### Parts -/

/-- The service octet of a packet is that of large data. -/
def isPart (packet : List UInt8) : Bool := packet.getD 7 0 == pusServiceLargeData

def LoopTick.isLargedata : LoopTick → Bool
  | .largedata _ => true
  | _ => false

/-- The transfer of the demonstration. -/
def demoTransfer : LargedataTransfer where
  transactionId := 1
  unit := largedataDemoUnit

/-- The parts of it a build downlinks: none without the demonstration, or if the unit is
larger than the build takes. -/
def demoParts (cfg : Config) (build : AppBuild) : Nat :=
  if build.largedataDemo = true ∧ demoTransfer.unit.length ≤ cfg.largedataUnitMax then
    demoTransfer.partCount cfg
  else 0

theorem isPart_reads {packet : List UInt8} {tm : TmPacket} (reads : ReadsAs packet tm) :
    isPart packet = (tm.secondary.serviceType == pusServiceLargeData) := by
  rw [isPart, reads.labels.1]

theorem WritesReports.partless {service : UInt8} {sent : List UInt8}
    (writes : WritesReports service sent) (other : service ≠ pusServiceLargeData) :
    (burstPackets sent.length sent).filter isPart = [] := by
  refine List.filter_eq_nil_iff.mpr fun packet member => ?_
  obtain ⟨tm, reads, own⟩ := writes packet member
  rw [isPart_reads reads, own, beq_eq_false_iff_ne.mpr other]
  exact Bool.false_ne_true

theorem TmKind.service_ne_largeData (kind : TmKind) : kind.service ≠ pusServiceLargeData := by
  cases kind <;> decide

theorem LoopTick.service_ne_largeData {tick : LoopTick} (other : tick.isLargedata = false) :
    tick.service ≠ pusServiceLargeData := by
  cases tick with
  | largedata => contradiction
  | hk | dynamicHk | rxOverflow | fdir | release | retrieval | receive =>
      simp only [LoopTick.service]
      decide

/-! ### The other ticks -/

theorem tmCall_largedata (senders : TmSenders cfg) {call : TmCall cfg} (builds : call.Builds)
    (other : call.service ≠ pusServiceLargeData) :
    (tmCall senders call).1.largedata = senders.largedata := by
  cases call with
  | dispatch | largedataStart | otherWork => exact builds.elim
  | hkReport request sid params =>
      simp only [tmCall, TmSenders.sendPeriodic]
      split <;> rfl
  | dynamicHkReport request dp held =>
      simp only [tmCall, TmSenders.sendPeriodic]
      split <;> rfl
  | eventReport | fdirDrain => rfl
  | largedataPart => exact absurd rfl other

/-- No other tick touches the session. -/
theorem loopTick_largedata (state : MainState cfg) {tick : LoopTick}
    (other : tick.isLargedata = false) : (loopTick state tick).1.largedata = state.largedata := by
  cases tick with
  | largedata => contradiction
  | hk nowSeconds drops =>
      simp only [loopTick, hkTick]
      split
      · exact @tmCall_largedata cfg _ (.hkReport _ _ _) trivial
          (by decide : pusServiceHousekeeping ≠ pusServiceLargeData)
      · rfl
  | dynamicHk nowSeconds =>
      simp only [loopTick, dynamicHkTick]
      split
      · split
        · rfl
        · exact @tmCall_largedata cfg _ (.dynamicHkReport _ _ _) trivial
            (by decide : pusServiceHousekeeping ≠ pusServiceLargeData)
      · rfl
  | rxOverflow nowSeconds drops =>
      simp only [loopTick, rxOverflowTick]
      split <;> rfl
  | fdir nowSeconds => rfl
  | release nowSeconds => rfl
  | retrieval =>
      simp only [loopTick, retrievalTick]
      split <;> rfl
  | receive nowSeconds drops received =>
      simp only [loopTick, receiveTick]
      split
      · rfl
      · split <;> rfl

section Ticks

variable (limits : cfg.ReportLimits) (partSize : cfg.pus13PartSize + 18 < 65536)

include limits partSize

/-- No other tick sends a part. -/
theorem loopTick_partless {state : MainState cfg} (ready : state.senders.Ready) {tick : LoopTick}
    (other : tick.isLargedata = false) : (loopTick state tick).2.live.filter isPart = [] := by
  rw [LoopOutput.live]
  cases loopTick_sends ready tick with
  | nothing _ sent _ =>
      rw [sent]
      rfl
  | @report _ before call _ _ builds admitted service sent _ =>
      rw [sent]
      refine (tmCall_writes limits partSize before builds admitted).partless ?_
      rw [service]
      exact LoopTick.service_ne_largeData other
  | @telecommand dispatch _ prepared _ sent _ =>
      rw [sent]
      refine List.filter_eq_nil_iff.mpr fun packet member => ?_
      obtain ⟨tm, reads, kind, own⟩ :=
        dispatch_writes limits prepared dispatch.nowSeconds dispatch.tc packet member
      rw [isPart_reads reads, own, beq_eq_false_iff_ne.mpr kind.service_ne_largeData]
      exact Bool.false_ne_true

end Ticks

/-! ### The invariant -/

/-- A transfer of `count` parts that was asked `asked` times for the next one. -/
structure TransferHolds (cfg : Config) (count asked : Nat) (session : LargedataSession)
    (log : TransferLog) : Prop where
  inOrder : log.InOrder cfg
  emitted : log.parts.length = min asked count
  phase : (session.state = .idle ∧ count ≤ asked) ∨
    (session.state = .active ∧ count = log.transfer.partCount cfg ∧ Transferring cfg session log)

/-- What a tick adds to a transfer: the parts among its live packets. -/
def TransferStep (cfg : Config) (count asked : Nat) (session : LargedataSession)
    (log : TransferLog) (live : List (List UInt8)) : Prop :=
  ∃ emitted : List PartEmission,
    TransferHolds cfg count asked session { log with parts := log.parts ++ emitted } ∧
      live.filter isPart = emitted.map PartEmission.packet

theorem TransferHolds.append_nothing {count asked : Nat} {session : LargedataSession}
    {log : TransferLog} (holds : TransferHolds cfg count asked session log) :
    TransferHolds cfg count asked session { log with parts := log.parts ++ [] } := by
  rw [List.append_nil]
  exact holds

theorem Config.LargedataLimits.small (limits : cfg.LargedataLimits) :
    cfg.pus13PartSize + 18 < 65536 := by
  have packet := limits.partPacket
  rw [pus13PartPacketMax] at packet
  omega

/-- The part of its number, built for some request. -/
def DownlinkedPart (cfg : Config) (transfer : LargedataTransfer) (number : Nat)
    (packet : List UInt8) : Prop :=
  ∃ request tmSeqCount, PartReads cfg transfer number
    { request := request, tmSeqCount := tmSeqCount, packet := packet }

theorem PartReads.burst {transfer : LargedataTransfer} {number : Nat} {emission : PartEmission}
    (reads : PartReads cfg transfer number emission) :
    burstPackets emission.packet.length emission.packet = [emission.packet] ∧
      isPart emission.packet = true := by
  obtain ⟨partNumber, totalParts, msgCounter, _, _, packet⟩ := reads
  exact ⟨burstPackets_one packet, isPart_reads packet⟩

/-- A part packet fits the telemetry buffer of the loop. -/
theorem nextPartSize_le (limits : cfg.LargedataLimits) {session : LargedataSession}
    {log : TransferLog} (transferring : Transferring cfg session log) :
    nextPartSize cfg log ≤ tcRouterMaxTm := by
  have cut := (transferring.slice_length_pos limits).2
  have packet := limits.partPacket
  rw [pus13PartPacketMax] at packet
  simp only [nextPartSize, tcRouterMaxTm]
  omega

/-- Its own tick: the next part while there is one, and nothing behind the last. -/
theorem largedataTick_transfers (limits : cfg.LargedataLimits) {state : MainState cfg}
    (ready : state.senders.Ready) {count asked : Nat} {log : TransferLog}
    (holds : TransferHolds cfg count asked state.largedata log) (nowSeconds : UInt32) :
    TransferStep cfg count (asked + 1) (largedataTick state nowSeconds).1.largedata log
      (largedataTick state nowSeconds).2.live := by
  obtain ⟨inOrder, emitted, ⟨idle, ended⟩ | ⟨active, total, transferring⟩⟩ := holds
  · have resting : state.largedata.state ≠ .active := by
      rw [idle]
      decide
    have silent : largedataNextPart cfg state.largedata state.loop.ctx.counters.tmSeqCount
        (state.request nowSeconds) = .mk (.ok none) state.largedata
          state.loop.ctx.counters.tmSeqCount := by
      rw [largedataNextPart, if_pos resting]
    have session : (largedataTick state nowSeconds).1.largedata = state.largedata :=
      congrArg NextPartReply.session silent
    have sent : (largedataTick state nowSeconds).2.sent = [] :=
      congrArg (fun reply => reply.result.toOption.join.getD []) silent
    refine ⟨[], ?_, by rw [LoopOutput.live, sent]; rfl⟩
    rw [session]
    refine TransferHolds.append_nothing ⟨inOrder, ?_, .inl ⟨idle, Nat.le_succ_of_le ended⟩⟩
    omega
  · rcases transferring.nextPart_cases limits active ready.seqCount
      (show (state.request nowSeconds).apid ≤ 0x7FF from ready.apid) with
      ⟨short, _⟩ | ⟨_, packet, counters, built, reads⟩
    · exact absurd (nextPartSize_le limits transferring) (Nat.not_le.mpr short)
    have session := congrArg NextPartReply.session built
    have sent : (largedataTick state nowSeconds).2.sent = packet :=
      congrArg (fun reply => reply.result.toOption.join.getD []) built
    have below := transferring.unfinished
    obtain ⟨one, part⟩ := reads.burst
    refine ⟨[.mk (state.request nowSeconds) state.loop.ctx.counters.tmSeqCount packet], ?_, ?_⟩
    · rw [show (largedataTick state nowSeconds).1.largedata = _ from session]
      refine ⟨transferring.inOrder.emit reads, ?_, ?_⟩
      · rw [List.length_append, List.length_singleton]
        omega
      · rcases transferring.emit limits active reads counters with
          ⟨idle, reassembled⟩ | ⟨active, further⟩
        · have whole := reassembled.count
          rw [List.length_append, List.length_singleton] at whole
          refine .inl ⟨idle, ?_⟩
          change log.parts.length + 1 = log.transfer.partCount cfg at whole
          omega
        · exact .inr ⟨active, total, further⟩
    · rw [LoopOutput.live, sent, one, List.filter_cons_of_pos part]
      rfl

/-- One tick. -/
theorem loopTick_transfers (admitted : cfg.ReportLimits) (limits : cfg.LargedataLimits)
    {state : MainState cfg} (ready : state.senders.Ready) {count asked : Nat} {log : TransferLog}
    (holds : TransferHolds cfg count asked state.largedata log) (tick : LoopTick) :
    TransferStep cfg count (asked + if tick.isLargedata then 1 else 0)
      (loopTick state tick).1.largedata log (loopTick state tick).2.live := by
  cases own : tick.isLargedata with
  | false =>
      refine ⟨[], ?_, loopTick_partless admitted limits.small ready own⟩
      rw [loopTick_largedata state own]
      exact holds.append_nothing
  | true =>
      cases tick with
      | hk | dynamicHk | rxOverflow | fdir | release | retrieval | receive => contradiction
      | largedata nowSeconds => exact largedataTick_transfers limits ready holds nowSeconds

/-- Any number of ticks. -/
theorem tickRun_transfers (admitted : cfg.ReportLimits) (limits : cfg.LargedataLimits)
    {state : MainState cfg} (ready : state.senders.Ready) {count asked : Nat} {log : TransferLog}
    (holds : TransferHolds cfg count asked state.largedata log) (ticks : List LoopTick) :
    TransferStep cfg count (asked + ticks.countP LoopTick.isLargedata)
      (tickRun state ticks).largedata log (tickLive state ticks) := by
  induction ticks generalizing state asked log with
  | nil => exact ⟨[], holds.append_nothing, rfl⟩
  | cons tick rest inductionHypothesis =>
      have next := (loopTick_labelled admitted ready limits.small tick).ready
      obtain ⟨first, held, sent⟩ := loopTick_transfers admitted limits ready holds tick
      obtain ⟨later, reached, sentLater⟩ := inductionHypothesis next held
      refine ⟨first ++ later, ?_, ?_⟩
      · rw [← List.append_assoc, List.countP_cons, Nat.add_comm (rest.countP _), ← Nat.add_assoc]
        exact reached
      · have live : tickLive state (tick :: rest) =
            (loopTick state tick).2.live ++ tickLive (loopTick state tick).1 rest := rfl
        rw [live, List.filter_append, sent, sentLater, List.map_append]

/-! ### From start-up -/

/-- The demonstration is started, if the build has it. -/
theorem appLargedata_holds (limits : cfg.LargedataLimits) :
    TransferHolds cfg (demoParts cfg build) 0 (appLargedata cfg build)
      { transfer := demoTransfer, parts := [] } := by
  have inOrder : TransferLog.InOrder cfg { transfer := demoTransfer, parts := [] } := by
    intro number emission read
    simp only [List.getElem?_nil, reduceCtorEq] at read
  have nonempty : largedataDemoUnit.length ≠ 0 := by
    rw [largedataDemoUnit, List.length_map, List.length_range]
    decide
  refine ⟨inOrder, (Nat.zero_min _).symm, ?_⟩
  have idle : ¬largedataInit.state ≠ .idle := by decide
  simp only [appLargedata, largedataBoot, demoParts]
  cases demo : build.largedataDemo with
  | false =>
      rw [if_neg (not_and.mpr fun started => absurd started Bool.false_ne_true)]
      exact .inl ⟨rfl, Nat.le_refl 0⟩
  | true =>
      rw [if_pos rfl, largedataStart, if_neg nonempty, if_neg idle]
      by_cases large : largedataDemoUnit.length > cfg.largedataUnitMax
      · have refused : ¬demoTransfer.unit.length ≤ cfg.largedataUnitMax := Nat.not_le.mpr large
        rw [if_pos large, if_neg (not_and.mpr fun _ => refused)]
        exact .inl ⟨rfl, Nat.le_refl 0⟩
      · have small : demoTransfer.unit.length ≤ cfg.largedataUnitMax := Nat.le_of_not_lt large
        rw [if_neg large, if_pos ⟨rfl, small⟩]
        exact .inr ⟨rfl, rfl, transferring_started limits nonempty small⟩

/-- In every run from start-up the parts among the live telemetry are those of the
transfer, one for each of its ticks until all are sent, in order and with the front of
the unit between them, whatever the loop sends in between. -/
theorem appMain_transfers (admitted : cfg.KconfigAdmitted) (limits : cfg.LargedataLimits)
    (power : PowerUp cfg) (loaded : NvstoreStatus × Nvstore) (ticks : List LoopTick) :
    let boot := appMain cfg build power (appRestore cfg build.tables loaded)
    let parts := (boot.2.live ++ tickLive boot.1 ticks).filter isPart
    parts.length = min (ticks.countP LoopTick.isLargedata) (demoParts cfg build) ∧
      (parts.map partPayload).flatten =
        demoTransfer.unit.take (parts.length * cfg.pus13PartSize) ∧
      ∀ number packet, parts[number]? = some packet →
        DownlinkedPart cfg demoTransfer number packet := by
  intro boot parts
  have params : build.tables.params.length ≤ 3 := Nat.le_refl _
  have within := Subsystems.Within.appRestore cfg params loaded
  have ready : boot.1.senders.Ready :=
    appMain_ready admitted.reportLimits limits.small build power within
  have event : boot.2.live.filter isPart = [] := by
    rw [LoopOutput.live, (appMain_sends build power (appRestore cfg build.tables loaded)).1]
    have builds : (bootEvent build power (appRestore cfg build.tables loaded)).Builds := trivial
    exact (tmCall_writes admitted.reportLimits limits.small _ builds trivial).partless
      (by decide : pusServiceEventReporting ≠ pusServiceLargeData)
  have session : boot.1.largedata = appLargedata cfg build := by
    simp only [boot, appMain]
    split <;> rfl
  have start : TransferHolds cfg (demoParts cfg build) 0 (appLargedata cfg build) _ :=
    appLargedata_holds limits
  rw [← session] at start
  obtain ⟨emitted, reached, sent⟩ :=
    tickRun_transfers admitted.reportLimits limits ready start ticks
  have sentParts : parts = emitted.map PartEmission.packet := by
    rw [← sent, show parts = _ from List.filter_append .., event, List.nil_append]
  have length : parts.length = emitted.length := by rw [sentParts, List.length_map]
  refine ⟨?_, ?_, ?_⟩
  · rw [length, ← Nat.zero_add (ticks.countP _)]
    exact reached.emitted
  · have payloads := reached.inOrder.payloads
    change emitted.map _ = (List.range emitted.length).map _ at payloads
    rw [length, sentParts, List.map_map]
    exact (congrArg List.flatten payloads).trans (flatten_slices _ _ _)
  · intro number packet stored
    rw [sentParts, List.getElem?_map] at stored
    obtain ⟨emission, found, rfl⟩ := Option.map_eq_some_iff.mp stored
    exact ⟨_, _, reached.inOrder number emission found⟩

/-- A build with the demonstration. -/
def transferBuild : AppBuild := { watchfulBuild with largedataDemo := true }

/-- Three parts of four, with an event and the reports of a connection test in between. -/
theorem appMain_transfers_three :
    let boot := appMain defaultConfig transferBuild (zeroedPowerUp defaultConfig 0)
      (appRestore defaultConfig transferBuild.tables (.errNoValidImage, nvstoreZero))
    let ticks := [.largedata 1, .fdir 1, .largedata 2] ++ testUplink ++ [.largedata 9]
    let parts := (boot.2.live ++ tickLive boot.1 ticks).filter isPart
    (boot.2.live ++ tickLive boot.1 ticks).length = 8 ∧
      parts.length = min (ticks.countP LoopTick.isLargedata)
        (demoParts defaultConfig transferBuild) ∧
      demoParts defaultConfig transferBuild = 4 := by
  intro boot ticks parts
  exact ⟨by decide +kernel, (appMain_transfers Config.default_kconfigAdmitted
    Config.default_largedataLimits (zeroedPowerUp defaultConfig 0)
    (.errNoValidImage, nvstoreZero) ticks).1, by decide +kernel⟩

end FswCore
