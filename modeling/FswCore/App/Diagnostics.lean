import FswCore.App.Downlink
import FswCore.App.Safing

/-!
Contract: the diagnostic report of the framework against what the application did.

Owns:
- in every run the message counters of a router context are the numbers of reports sent
  live, by kind and by severity, the loop's own events among them;
- a diagnostic report carries these numbers, the numbers of telecommands accepted and
  rejected, and the number of packets sent before it.

Does not own: the message counter of the housekeeping reports themselves.
-/

namespace FswCore

open Library Library.BigEndian

variable {cfg : Config} {build : AppBuild}

/-! ### Counted reports -/

/-- The service and subtype octets of a packet are those of an event of this severity. -/
def packetOfEvent (severity : Fin 4) (packet : List UInt8) : Bool :=
  packet.getD 7 0 == pusServiceEventReporting &&
    packet.getD 8 0 == UInt8.ofNat severity.val + 1

/-- The packets move every message counter of the router by their number, but for that of
the housekeeping reports. -/
structure CountsReports (before after : PusCounters) (packets : List (List UInt8)) : Prop where
  routed : ∀ kind : TmKind, kind ≠ .hkParamReport → after.msgCounter kind =
    before.msgCounter kind + UInt8.ofNat (packets.countP (packetOfKind kind))
  events : ∀ severity : Fin 4, after.pus5[severity] =
    before.pus5[severity] + UInt8.ofNat (packets.countP (packetOfEvent severity))

namespace CountsReports

theorem append {before middle after : PusCounters} {first second : List (List UInt8)}
    (front : CountsReports before middle first) (back : CountsReports middle after second) :
    CountsReports before after (first ++ second) where
  routed kind counted := by
    rw [back.routed kind counted, front.routed kind counted, List.countP_append, UInt8.ofNat_add,
      UInt8.add_assoc]
  events severity := by
    rw [back.events severity, front.events severity, List.countP_append, UInt8.ofNat_add,
      UInt8.add_assoc]

/-- Packets of no counted kind leave the counters alone. -/
theorem uncounted {before after : PusCounters} {packets : List (List UInt8)}
    (counters : ∀ kind : TmKind, kind ≠ .hkParamReport →
      after.msgCounter kind = before.msgCounter kind)
    (pus5 : after.pus5 = before.pus5)
    (routed : ∀ packet ∈ packets, ∀ kind : TmKind, kind ≠ .hkParamReport →
      packetOfKind kind packet = false)
    (events : ∀ packet ∈ packets, ∀ severity, packetOfEvent severity packet = false) :
    CountsReports before after packets where
  routed kind counted := by
    have none : packets.countP (packetOfKind kind) = 0 := List.countP_eq_zero.mpr
      fun packet member => by rw [routed packet member kind counted]; exact Bool.false_ne_true
    rw [counters kind counted, none]
    exact (UInt8.add_zero _).symm
  events severity := by
    have none : packets.countP (packetOfEvent severity) = 0 := List.countP_eq_zero.mpr
      fun packet member => by rw [events packet member severity]; exact Bool.false_ne_true
    rw [pus5, none]
    exact (UInt8.add_zero _).symm

theorem silent {before after : PusCounters} (same : after = before) :
    CountsReports before after [] := by
  subst same
  exact uncounted (fun _ _ => rfl) rfl (fun _ none => absurd none List.not_mem_nil)
    fun _ none => absurd none List.not_mem_nil

end CountsReports

/-- A packet of another service is no report of a kind. -/
theorem packetOfKind_other {packet : List UInt8} {tm : TmPacket} (reads : ReadsAs packet tm)
    {kind : TmKind} (service : tm.secondary.serviceType ≠ kind.service) :
    packetOfKind kind packet = false := by
  rw [packetOfKind, reads.labels.1, beq_eq_false_iff_ne.mpr service, Bool.false_and]

theorem packetOfEvent_other {packet : List UInt8} {tm : TmPacket} (reads : ReadsAs packet tm)
    (service : tm.secondary.serviceType ≠ pusServiceEventReporting) (severity : Fin 4) :
    packetOfEvent severity packet = false := by
  rw [packetOfEvent, reads.labels.1, beq_eq_false_iff_ne.mpr service, Bool.false_and]

/-! ### Senders -/

/-- What a call sends, and what that counts. -/
def CallCounts (senders : TmSenders cfg) (call : TmCall cfg) : Prop :=
  CountsReports senders.ctx.counters (tmCall senders call).1.ctx.counters
    (burstPackets (tmCall senders call).2.length (tmCall senders call).2)

/-- The two services the loop reports with counters of its own. -/
theorem TmKind.service_ne_own {kind : TmKind} (counted : kind ≠ .hkParamReport) :
    pusServiceHousekeeping ≠ kind.service ∧ pusServiceLargeData ≠ kind.service := by
  cases kind <;> first | contradiction | decide

theorem uncounted_call (limits : cfg.ReportLimits) (partSize : cfg.pus13PartSize + 18 < 65536)
    (senders : TmSenders cfg) {call : TmCall cfg} (builds : call.Builds) (admitted : call.Admitted)
    (own : call.service = pusServiceHousekeeping ∨ call.service = pusServiceLargeData)
    (same : ∃ seqCount, (tmCall senders call).1.ctx.counters =
      { senders.ctx.counters with tmSeqCount := seqCount }) :
    CallCounts senders call := by
  obtain ⟨seqCount, counters⟩ := same
  refine .uncounted (fun kind _ => ?_) (by rw [counters]) ?_ ?_
  · rw [counters]
    cases kind <;> rfl
  · intro packet member kind counted
    obtain ⟨tm, reads, service⟩ :=
      tmCall_writes limits partSize senders builds admitted packet member
    have others := TmKind.service_ne_own counted
    refine packetOfKind_other reads ?_
    rw [service]
    rcases own with hk | parts
    · exact hk ▸ others.1
    · exact parts ▸ others.2
  · intro packet member
    obtain ⟨tm, reads, service⟩ :=
      tmCall_writes limits partSize senders builds admitted packet member
    refine packetOfEvent_other reads ?_
    rw [service]
    rcases own with hk | parts
    · rw [hk]
      decide
    · rw [parts]
      decide

theorem sendPeriodic_counters (senders : TmSenders cfg) (result : Except Pus3Status TmOut) :
    ∃ seqCount, (senders.sendPeriodic result).1.ctx.counters =
      { senders.ctx.counters with tmSeqCount := seqCount } := by
  cases result with
  | error status => exact ⟨senders.ctx.counters.tmSeqCount, rfl⟩
  | ok out => exact ⟨out.counters.tmSeqCount, rfl⟩

/-- The commit of an event moves the counter of its severity. -/
theorem pus5Commit_event (counters : PusCounters) (severity : UInt8) (graded : Fin 4) :
    (pus5Commit counters severity).pus5[graded] =
      counters.pus5[graded] + if severity = UInt8.ofNat graded.val then 1 else 0 := by
  have index : severity = UInt8.ofNat graded.val ↔ severity.toNat = graded.val := by
    rw [← UInt8.toNat_inj, UInt8.toNat_ofNat', Nat.mod_eq_of_lt (by omega)]
  simp only [pus5Commit, Fin.getElem_fin, Vector.getElem_setIfInBounds, index]
  split
  · rename_i same
    simp [same]
  · exact (UInt8.add_zero _).symm

/-- An event of a severity counts as one of it. -/
theorem eventReport_counts (request : TmRequest) (counters : PusCounters) (severity : UInt8)
    (eventId : UInt16) (aux : List UInt8) :
    let reported := pus5BuildEventReport request counters severity eventId aux
    let sent := reported.1.toOption.getD []
    CountsReports counters reported.2 (burstPackets sent.length sent) := by
  intro reported sent
  rcases pus5BuildEventReport_cases request counters severity eventId aux with
    ⟨status, failed⟩ | ⟨packet, built, reads⟩
  · rw [show sent = [] by simp only [sent, reported, failed]; rfl]
    exact .silent (by simp only [reported, failed])
  · have after : reported.2 = pus5Commit counters severity := by simp only [reported, built]
    rw [show sent = packet by simp only [sent, reported, built]; rfl, burstPackets_one reads, after]
    constructor
    · intro kind _
      rw [List.countP_singleton, packetOfKind_other reads (TmKind.service_ne_event kind).symm,
        if_neg Bool.false_ne_true]
      cases kind <;> exact (UInt8.add_zero _).symm
    · intro graded
      have label : packetOfEvent graded packet = decide (severity = UInt8.ofNat graded.val) := by
        rw [packetOfEvent, reads.labels.1, reads.labels.2.1]
        simp only [pus5Packet, pus5Secondary, beq_self_eq_true, Bool.true_and]
        rw [Bool.eq_iff_iff, beq_iff_eq, decide_eq_true_eq, UInt8.add_left_inj]
      rw [pus5Commit_event, List.countP_singleton, label]
      simp only [decide_eq_true_eq]
      split <;> rfl

theorem dispatch_counts (limits : cfg.ReportLimits) {senders : TmSenders cfg}
    (ready : senders.Ready) (nowSeconds : UInt32) (tc : List UInt8) :
    let reply := tcRouterDispatch senders.ctx nowSeconds tc tcRouterMaxTm
    CountsReports senders.ctx.counters reply.ctx.counters
      (burstPackets reply.out.length reply.out) := by
  intro reply
  have writes := dispatch_writes limits ready nowSeconds tc
  obtain ⟨emissions, _, _, _, emits⟩ :=
    tcRouterDispatch_written (ready.router limits) nowSeconds tc (Nat.le_refl _)
  have emits : Emits senders.ctx.apid nowSeconds senders.ctx.counters emissions reply.out
      reply.ctx.counters := emits
  constructor
  · intro kind _
    obtain ⟨packets, octets, complete, _, moved, _⟩ := Emits.countsFrom emits kind
    rw [moved, octets, burstPackets_flatten complete (Nat.le_refl _), List.countP_eq_length_filter]
  · intro severity
    have none : (burstPackets reply.out.length reply.out).countP (packetOfEvent severity) = 0 := by
      refine List.countP_eq_zero.mpr fun packet member => ?_
      obtain ⟨tm, whole, kind, service⟩ := writes packet member
      rw [packetOfEvent_other whole (by rw [service]; exact kind.service_ne_event)]
      exact Bool.false_ne_true
    rw [emits.pus5, none]
    exact (UInt8.add_zero _).symm

/-- A builder. -/
theorem tmCall_counts (limits : cfg.ReportLimits) (partSize : cfg.pus13PartSize + 18 < 65536)
    (senders : TmSenders cfg) {call : TmCall cfg} (builds : call.Builds)
    (admitted : call.Admitted) : CallCounts senders call := by
  cases call with
  | dispatch | largedataStart | otherWork => exact builds.elim
  | hkReport | dynamicHkReport =>
      exact uncounted_call limits partSize senders builds admitted (.inl rfl)
        (sendPeriodic_counters senders _)
  | eventReport request severity eventId aux =>
      exact eventReport_counts request senders.ctx.counters severity eventId aux
  | fdirDrain apid outCap =>
      simp only [CallCounts, tmCall, fdirDrain]
      split
      · exact .silent rfl
      split
      · exact .silent rfl
      · exact eventReport_counts _ _ _ _ _
  | largedataPart request =>
      exact uncounted_call limits partSize senders builds admitted (.inr rfl) ⟨_, rfl⟩

/-! ### Runs -/

section Runs

variable (limits : cfg.ReportLimits) (partSize : cfg.pus13PartSize + 18 < 65536)

include limits partSize

theorem loopTick_counts {state : MainState cfg} (ready : state.senders.Ready) (tick : LoopTick) :
    CountsReports state.loop.ctx.counters (loopTick state tick).1.loop.ctx.counters
      (loopTick state tick).2.live := by
  rw [LoopOutput.live]
  cases loopTick_sends ready tick with
  | nothing _ sent counters =>
      rw [sent]
      exact .silent (congrArg TmCounters.router counters)
  | @report _ before call _ same builds admitted _ sent after =>
      have counts := tmCall_counts limits partSize before builds admitted
      have start : before.ctx.counters = state.loop.ctx.counters := congrArg TmCounters.router same
      have final : (loopTick state tick).1.loop.ctx.counters =
          (tmCall before call).1.ctx.counters := congrArg TmCounters.router after
      rw [sent, final, ← start]
      exact counts
  | @telecommand dispatch _ prepared same sent after =>
      have counts := dispatch_counts limits prepared dispatch.nowSeconds dispatch.tc
      have start : dispatch.ctx.counters = state.loop.ctx.counters :=
        congrArg TmCounters.router same
      have final : (loopTick state tick).1.loop.ctx.counters = dispatch.reply.ctx.counters :=
        congrArg TmCounters.router after
      rw [sent, final, ← start]
      exact counts

theorem tickRun_messages {state : MainState cfg} (ready : state.senders.Ready)
    (ticks : List LoopTick) :
    CountsReports state.loop.ctx.counters (tickRun state ticks).loop.ctx.counters
      (tickLive state ticks) := by
  induction ticks generalizing state with
  | nil => exact .silent rfl
  | cons tick rest inductionHypothesis =>
      have next := (loopTick_labelled limits ready partSize tick).ready
      exact (loopTick_counts limits partSize ready tick).append (inductionHypothesis next)

end Runs

/-- Start-up counts the boot event. -/
theorem appMain_counts (build : AppBuild) (power : PowerUp cfg) (subs : Subsystems) :
    CountsReports pusCountersZero (appMain cfg build power subs).1.loop.ctx.counters
      (appMain cfg build power subs).2.live := by
  obtain ⟨sent, counters⟩ := appMain_sends build power subs
  have router : (appMain cfg build power subs).1.loop.ctx.counters =
      (tmCall (appWired build power subs).senders (bootEvent build power subs)).1.ctx.counters :=
    congrArg TmCounters.router counters
  have counts := eventReport_counts ((appWired build power subs).request power.bootSeconds)
    pusCountersZero pus5SevInfo pus5EvtFswBoot []
  rw [LoopOutput.live, sent, router]
  exact counts

/-! ### The report -/

/-- The diagnostic block that follows from the packets sent live, and from the numbers of
telecommands and of octets dropped. -/
def countedParams (live : List (List UInt8)) (accepted rejected : Nat) (drops : UInt32) :
    Pus3HkParams where
  pus1MsgCounter := #v[UInt8.ofNat (live.countP (packetOfKind .acceptanceSuccess)),
    UInt8.ofNat (live.countP (packetOfKind .acceptanceFailure)),
    UInt8.ofNat (live.countP (packetOfKind .completionSuccess)),
    UInt8.ofNat (live.countP (packetOfKind .completionFailure))]
  pus5MsgCounter := Vector.ofFn fun severity =>
    UInt8.ofNat (live.countP (packetOfEvent severity))
  pus17TmMsgCounter := UInt8.ofNat (live.countP (packetOfKind .areYouAlive))
  tcAcceptedCount := UInt32.ofNat accepted
  tcRejectedCount := UInt32.ofNat rejected
  rxRingOverflowDrops := drops

theorem CountsReports.params {ctx : RouterCtx cfg} {live : List (List UInt8)}
    (counts : CountsReports pusCountersZero ctx.counters live) {accepted rejected : Nat}
    (acceptedCount : ctx.tcAcceptedCount = UInt32.ofNat accepted)
    (rejectedCount : ctx.tcRejectedCount = UInt32.ofNat rejected) :
    fillHkParams ctx = countedParams live accepted rejected ctx.rxRingOverflowDrops := by
  have routed (kind : TmKind) (counted : kind ≠ .hkParamReport) : ctx.counters.msgCounter kind =
      UInt8.ofNat (live.countP (packetOfKind kind)) := by
    have zero : pusCountersZero.msgCounter kind = 0 := by cases kind <;> rfl
    rw [counts.routed kind counted, zero, UInt8.zero_add]
  have events : ctx.counters.pus5 = Vector.ofFn fun severity =>
      UInt8.ofNat (live.countP (packetOfEvent severity)) := by
    refine Vector.ext fun index inRange => ?_
    have event := counts.events ⟨index, inRange⟩
    simp only [Fin.getElem_fin, pusCountersZero, Vector.getElem_replicate, UInt8.zero_add] at event
    rw [event, Vector.getElem_ofFn]
  have verification : ctx.counters.pus1 =
      #v[ctx.counters.msgCounter .acceptanceSuccess, ctx.counters.msgCounter .acceptanceFailure,
        ctx.counters.msgCounter .completionSuccess, ctx.counters.msgCounter .completionFailure] := by
    refine Vector.ext fun index inRange => ?_
    obtain rfl | rfl | rfl | rfl : index = 0 ∨ index = 1 ∨ index = 2 ∨ index = 3 := by omega
    all_goals rfl
  have alive : ctx.counters.pus17 = _ := routed .areYouAlive (by decide)
  rw [fillHkParams, events, verification, alive, acceptedCount, rejectedCount]
  simp only [routed _ (show TmKind.acceptanceSuccess ≠ _ by decide),
    routed _ (show TmKind.acceptanceFailure ≠ _ by decide),
    routed _ (show TmKind.completionSuccess ≠ _ by decide),
    routed _ (show TmKind.completionFailure ≠ _ by decide), countedParams]

/-- A report that is due is built. -/
theorem hkTick_live {state : MainState cfg} (ready : state.senders.Ready)
    {nowSeconds : UInt32} (drops : UInt32) (due : hkDue state nowSeconds = true) :
    ∃ packet, (loopTick state (.hk nowSeconds drops)).2.live = [packet] ∧
      ReadsAs packet (tmPacket ((state.snapshot drops).request nowSeconds)
        (state.snapshot drops).senders.periodicCounters .hkParamReport
        (pus3HkSource pus3SidFrameworkDiag nowSeconds state.loop.ctx.counters.tmSeqCount
          (fillHkParams (state.snapshot drops).loop.ctx))) := by
  let snapshot := state.snapshot drops
  let params := fillHkParams snapshot.loop.ctx
  have room : pus3HkTmPacketSize ≤ tcRouterMaxTm := by decide
  have snapshotReady : snapshot.senders.Ready := ⟨ready.apid, ready.seqCount, ready.hkstore⟩
  have serves := snapshotReady.serves nowSeconds room
  obtain ⟨out, source, built, _⟩ := pus3BuildHkReport_ok params serves
  have reads := pus3BuildHkReport_packet built
  have sent : (loopTick state (.hk nowSeconds drops)).2.sent = out.packet := by
    have called : (tmCall snapshot.senders (.hkReport (snapshot.request nowSeconds)
        pus3SidFrameworkDiag params)).2 = out.packet := by
      simp only [tmCall, built, TmSenders.sendPeriodic]
    simp only [loopTick, hkTick, due, if_true]
    exact called
  refine ⟨out.packet, ?_, reads⟩
  rw [LoopOutput.live, sent]
  exact burstPackets_one reads

/-- A diagnostic report that is due is sent, and says what has been sent and done: the
numbers of verification, event and test reports sent live since start-up, of telecommands
accepted and rejected, the sequence count behind the last packet, and the octets dropped. -/
theorem appMain_diagnostics (admitted : cfg.KconfigAdmitted)
    (partSize : cfg.pus13PartSize + 18 < 65536) (power : PowerUp cfg)
    (loaded : NvstoreStatus × Nvstore) (ticks : List LoopTick) (nowSeconds drops : UInt32) :
    let boot := appMain cfg build power (appRestore cfg build.tables loaded)
    let state := tickRun boot.1 ticks
    let live := boot.2.live ++ tickLive boot.1 ticks
    hkDue state nowSeconds = true →
      ∃ packet, (loopTick state (.hk nowSeconds drops)).2.live = [packet] ∧
        CompletePacket packet ∧
        tmSourceData packet = pus3HkSource pus3SidFrameworkDiag nowSeconds
          (UInt16.ofNat (live.length % 16384))
          (countedParams live (tickAcceptances boot.1 ticks) (tickRejections boot.1 ticks)
            drops) := by
  intro boot state live due
  have params : build.tables.params.length ≤ 3 := Nat.le_refl _
  have within := Subsystems.Within.appRestore cfg params loaded
  have bootReady : boot.1.senders.Ready :=
    appMain_ready admitted.reportLimits partSize build power within
  have event := appMain_live admitted.reportLimits partSize build power within
  obtain ⟨ready, advances⟩ := tickRun_live admitted.reportLimits partSize bootReady ticks
  have counts := (appMain_counts build power (appRestore cfg build.tables loaded)).append
    (tickRun_messages admitted.reportLimits partSize bootReady ticks)
  obtain ⟨accepted, rejected, _⟩ := tickRun_counts boot.1 ticks
  have tally := (appMain_account build power (appRestore cfg build.tables loaded)).2
  have noneAccepted : boot.1.loop.ctx.tcAcceptedCount = 0 :=
    congrArg RouterTally.tcAcceptedCount tally
  have noneRejected : boot.1.loop.ctx.tcRejectedCount = 0 :=
    congrArg RouterTally.tcRejectedCount tally
  rw [noneAccepted, UInt32.zero_add] at accepted
  rw [noneRejected, UInt32.zero_add] at rejected
  have block : fillHkParams (state.snapshot drops).loop.ctx =
      countedParams live (tickAcceptances boot.1 ticks) (tickRejections boot.1 ticks) drops :=
    (show CountsReports pusCountersZero (state.snapshot drops).loop.ctx.counters live from
      counts).params accepted rejected
  have count : state.senders.seqCount = live.length % 16384 := by
    have counted := (event.numbered.append advances).counted
    rwa [show (appWired build power (appRestore cfg build.tables loaded)).senders.seqCount = 0
      from rfl, Nat.zero_add] at counted
  have seqCount : state.loop.ctx.counters.tmSeqCount = UInt16.ofNat (live.length % 16384) := by
    rw [← count]
    exact UInt16.ofNat_toNat.symm
  rw [← block, ← seqCount]
  obtain ⟨packet, sent, reads⟩ := hkTick_live ready drops due
  exact ⟨packet, sent, ⟨_, reads, rfl⟩, reads.sourceData⟩

/-- The second report counts the boot event and the first report. -/
theorem appMain_diagnostics_second :
    let boot := appMain defaultConfig watchfulBuild (zeroedPowerUp defaultConfig 0)
      (appRestore defaultConfig watchfulBuild.tables (.errNoValidImage, nvstoreZero))
    let ticks : List LoopTick := corruptUplink ++ [.hk 10 0]
    let state := tickRun boot.1 ticks
    let live := boot.2.live ++ tickLive boot.1 ticks
    live.length = 3 ∧ ∃ packet, (loopTick state (.hk 20 2)).2.live = [packet] ∧
      CompletePacket packet ∧
      tmSourceData packet = pus3HkSource pus3SidFrameworkDiag 20
        (UInt16.ofNat (live.length % 16384))
        (countedParams live (tickAcceptances boot.1 ticks) (tickRejections boot.1 ticks) 2) := by
  intro boot ticks state live
  exact ⟨by decide +kernel, appMain_diagnostics Config.default_kconfigAdmitted (by decide)
    (zeroedPowerUp defaultConfig 0) (.errNoValidImage, nvstoreZero) ticks 20 2
    (by decide +kernel)⟩

end FswCore
