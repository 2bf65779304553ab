import FswCore.App.Telemetry

/-!
Contract: everything the application puts on its transmit line, as a receiver on the
ground takes it apart.

Owns:
- `tickLine`, the octets of a run as one stream, live telemetry and replays alike;
- the stream is complete packets and nothing else, and the packets' own headers
  delimit them;
- the live ones are numbered from 0 on without a gap, and every other one is a copy of
  a live one sent before.

Does not own: what the packets report, and which of them a retrieval replays.
-/

namespace FswCore

open Library

variable {cfg : Config} {build : AppBuild}

/-! ### The line -/

/-- The octets a tick puts on the line. -/
def LoopOutput.line (output : LoopOutput) : List UInt8 := output.sent ++ output.replayed

def LoopOutput.packets (output : LoopOutput) : List (List UInt8) := output.live ++ output.replays

def tickLine (state : MainState cfg) (ticks : List LoopTick) : List UInt8 :=
  (outputs loopTick state ticks).2.flatMap LoopOutput.line

def tickPackets (state : MainState cfg) (ticks : List LoopTick) : List (List UInt8) :=
  (outputs loopTick state ticks).2.flatMap LoopOutput.packets

/-- A complete telemetry packet. -/
def CompletePacket (packet : List UInt8) : Prop :=
  ∃ tm, ReadsAs packet tm ∧ tm.primary.type = ccsdsPacketTypeTm

theorem LoopOutput.replays_flatten (output : LoopOutput) :
    output.replays.flatten = output.replayed := by
  rw [LoopOutput.replays]
  split
  · rename_i nothing
    exact nothing.symm
  · exact List.flatten_singleton

/-! ### What is sent live -/

/-- The live packets of an output: they are its octets, and they are numbered on. -/
structure LiveStep (before after : TmSenders cfg) (output : LoopOutput) : Prop where
  octets : output.live.flatten = output.sent
  numbered : Advances Counted 16384 before.seqCount output.live after.seqCount

theorem Numbered.complete {start : Nat} {packets : List (List UInt8)}
    (numbered : Numbered Counted 16384 start packets) :
    ∀ packet ∈ packets, CompletePacket packet := by
  intro packet member
  obtain ⟨index, stored⟩ := List.mem_iff_getElem?.mp member
  obtain ⟨tm, reads, type, _⟩ := numbered index packet stored
  exact ⟨tm, reads, type⟩

theorem Sends.live {before after : TmSenders cfg} {output : LoopOutput}
    (sends : Sends before after output.sent) : LiveStep before after output := by
  obtain ⟨⟨packets, octets, advances⟩, _⟩ := sends
  have live : output.live = packets := by
    rw [LoopOutput.live, ← octets]
    apply burstPackets_flatten _ (Nat.le_refl _)
    intro packet member
    obtain ⟨tm, reads, _⟩ := Numbered.complete advances.numbered packet member
    exact ⟨tm, reads⟩
  exact ⟨by rw [live, octets], by rw [live]; exact advances⟩

/-- Only the counters tell two senders apart here. -/
theorem Sends.congr {before after other next : TmSenders cfg} {sent : List UInt8}
    (sends : Sends before after sent) (start : before.counters = other.counters)
    (final : next.counters = after.counters) : Sends other next sent := by
  have startCount : before.seqCount = other.seqCount :=
    congrArg (fun counters => counters.router.tmSeqCount.toNat) start
  have finalCount : next.seqCount = after.seqCount :=
    congrArg (fun counters => counters.router.tmSeqCount.toNat) final
  rw [Sends, ← startCount, finalCount, ← start, final]
  exact sends

section Runs

variable (limits : cfg.ReportLimits) (partSize : cfg.pus13PartSize + 18 < 65536)

include limits partSize

/-- One tick. -/
theorem loopTick_live {state : MainState cfg} (ready : state.senders.Ready) (tick : LoopTick) :
    LiveStep state.senders (loopTick state tick).1.senders (loopTick state tick).2 := by
  apply Sends.live
  cases loopTick_sends ready tick with
  | nothing _ sent counters =>
      rw [sent]
      exact sends_nothing ready counters
  | report _ before counters _ admitted _ sent after =>
      rw [sent]
      exact (tmCall_sends limits partSize before admitted).2.congr counters after
  | @telecommand dispatch _ prepared counters sent after =>
      rw [sent]
      exact (dispatch_sends limits prepared dispatch.nowSeconds dispatch.tc tcRouterMaxTm).congr
        counters after

theorem tickRun_live {state : MainState cfg} (ready : state.senders.Ready)
    (ticks : List LoopTick) :
    (tickRun state ticks).senders.Ready ∧
      Advances Counted 16384 state.senders.seqCount (tickLive state ticks)
        (tickRun state ticks).senders.seqCount := by
  induction ticks generalizing state with
  | nil => exact ⟨ready, .none ready.seqCount_lt⟩
  | cons tick rest inductionHypothesis =>
      have next := (loopTick_labelled limits ready partSize tick).ready
      obtain ⟨final, later⟩ := inductionHypothesis next
      exact ⟨final, (loopTick_live limits partSize ready tick).numbered.append later⟩

omit partSize limits in
/-- What is replayed was recorded when it was sent. -/
theorem loopTick_replays_mem (admitted : cfg.KconfigAdmitted) {live : List (List UInt8)}
    {state : MainState cfg} (records : state.Records live) (tick : LoopTick) :
    ∀ packet ∈ (loopTick state tick).2.replays, packet ∈ live := by
  intro packet replayed
  cases retrieving : state.retrieving with
  | true =>
      obtain ⟨delivers, _⟩ := loopTick_retrieval admitted records retrieving tick
      obtain ⟨store, wired, captured⟩ := records
      have owed : packet ∈ state.packetLog.owedPackets := by
        rw [← delivers]
        exact List.mem_append_left _ replayed
      rw [MainState.packetLog, wired] at owed
      exact captured.held.subset ((owedPackets_sublist store).subset owed)
  | false =>
      exfalso
      cases isRetrieval : tick.isRetrieval with
      | false =>
          rw [loopTick_replays state isRetrieval] at replayed
          exact List.not_mem_nil replayed
      | true =>
          obtain ⟨store, wired, _⟩ := records
          cases tick with
          | hk | dynamicHk | rxOverflow | fdir | release | largedata | receive => contradiction
          | retrieval =>
              have inactive : store.retrievalActive = false := by
                rw [MainState.retrieving, wired] at retrieving
                exact retrieving
              simp only [loopTick, retrievalTick, wired, pktstoreRetrieveNext, inactive,
                LoopOutput.replays] at replayed
              exact List.not_mem_nil replayed

/-- The octets of a run are its packets, each of which is complete. -/
theorem tickRun_line (admitted : cfg.KconfigAdmitted) {state : MainState cfg}
    (ready : state.senders.Ready) {live : List (List UInt8)} (records : state.Records live)
    (complete : ∀ packet ∈ live, CompletePacket packet) (ticks : List LoopTick) :
    (tickPackets state ticks).flatten = tickLine state ticks ∧
      ∀ packet ∈ tickPackets state ticks, CompletePacket packet := by
  induction ticks generalizing state live with
  | nil => exact ⟨rfl, fun _ none => absurd none List.not_mem_nil⟩
  | cons tick rest inductionHypothesis =>
      have step := loopTick_live limits partSize ready tick
      have sent := Numbered.complete step.numbered.numbered
      obtain ⟨laterOctets, laterComplete⟩ := inductionHypothesis
        (loopTick_labelled limits ready partSize tick).ready (records.tick tick)
        (List.forall_mem_append.mpr ⟨complete, sent⟩)
      have packets : tickPackets state (tick :: rest) =
          ((loopTick state tick).2.live ++ (loopTick state tick).2.replays) ++
            tickPackets (loopTick state tick).1 rest := rfl
      have line : tickLine state (tick :: rest) =
          ((loopTick state tick).2.sent ++ (loopTick state tick).2.replayed) ++
            tickLine (loopTick state tick).1 rest := rfl
      constructor
      · rw [packets, line, List.flatten_append, List.flatten_append, laterOctets, step.octets,
          LoopOutput.replays_flatten]
      · rw [packets]
        refine List.forall_mem_append.mpr ⟨List.forall_mem_append.mpr ⟨sent, ?_⟩, laterComplete⟩
        exact fun packet replayed =>
          complete packet (loopTick_replays_mem admitted records tick packet replayed)

/-! ### From start-up -/

/-- The boot event is packet 0. -/
theorem appMain_live (build : AppBuild) (power : PowerUp cfg) {subs : Subsystems}
    (within : subs.Within cfg) :
    LiveStep (appWired build power subs).senders (appMain cfg build power subs).1.senders
      (appMain cfg build power subs).2 := by
  obtain ⟨sent, counters⟩ := appMain_sends build power subs
  have sends := (tmCall_sends limits partSize (appWired_ready build power within)
    (show (bootEvent build power subs).Admitted from trivial)).2
  rw [← sent] at sends
  exact (sends.congr rfl counters).live

end Runs

/-- In every run from start-up: the stream on the line is complete telemetry packets, and
a receiver that follows their length fields finds exactly these; the live ones carry the
sequence counts 0, 1, 2, ..., and each replayed one was sent live before. -/
theorem appMain_downlink (admitted : cfg.KconfigAdmitted)
    (partSize : cfg.pus13PartSize + 18 < 65536) (power : PowerUp cfg)
    (loaded : NvstoreStatus × Nvstore) (ticks : List LoopTick) :
    let boot := appMain cfg build power (appRestore cfg build.tables loaded)
    let line := boot.2.sent ++ tickLine boot.1 ticks
    let packets := boot.2.live ++ tickPackets boot.1 ticks
    packets.flatten = line ∧ burstPackets line.length line = packets ∧
      (∀ packet ∈ packets, CompletePacket packet) ∧
      Numbered Counted 16384 0 (boot.2.live ++ tickLive boot.1 ticks) ∧
      ∀ before tick after, ticks = before ++ tick :: after →
        ∀ packet ∈ (loopTick (tickRun boot.1 before) tick).2.replays,
          packet ∈ boot.2.live ++ tickLive boot.1 before := by
  intro boot line packets
  have params : build.tables.params.length ≤ 3 := Nat.le_refl _
  have within := Subsystems.Within.appRestore cfg params loaded
  have ready : boot.1.senders.Ready :=
    appMain_ready admitted.reportLimits partSize build power within
  have event := appMain_live admitted.reportLimits partSize build power within
  have records : boot.1.Records boot.2.live := appMain_records power _
  have first := Numbered.complete event.numbered.numbered
  obtain ⟨lineOctets, complete⟩ :=
    tickRun_line admitted.reportLimits partSize admitted ready records first ticks
  have whole : packets.flatten = line := by
    rw [List.flatten_append, event.octets, lineOctets]
  have all : ∀ packet ∈ packets, CompletePacket packet :=
    List.forall_mem_append.mpr ⟨first, complete⟩
  refine ⟨whole, ?_, all, ?_, ?_⟩
  · rw [← whole]
    apply burstPackets_flatten _ (Nat.le_refl _)
    intro packet member
    obtain ⟨tm, reads, _⟩ := all packet member
    exact ⟨tm, reads⟩
  · have run := (tickRun_live admitted.reportLimits partSize ready ticks).2
    exact (event.numbered.append run).numbered
  · intro before tick after _
    exact loopTick_replays_mem admitted (records.ticks before) tick

/-- The boot event, an acknowledgement of its replay, and the replay. -/
theorem appMain_downlink_boot :
    let boot := appMain defaultConfig watchfulBuild (zeroedPowerUp defaultConfig 0)
      (appRestore defaultConfig watchfulBuild.tables (.errNoValidImage, nvstoreZero))
    let ticks := downlinkRequest ++ [.retrieval]
    let line := boot.2.sent ++ tickLine boot.1 ticks
    tickReplays boot.1 ticks = boot.2.live ∧
      burstPackets line.length line = boot.2.live ++ tickPackets boot.1 ticks := by
  intro boot ticks line
  exact ⟨by decide +kernel, (appMain_downlink Config.default_kconfigAdmitted (by decide)
    (zeroedPowerUp defaultConfig 0) (.errNoValidImage, nvstoreZero) ticks).2.1⟩

end FswCore
