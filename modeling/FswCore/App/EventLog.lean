import FswCore.App.Downlink
import FswCore.App.Safing
import FswCore.Fdir.EventQueue

/-!
Contract: the events the application reports, against those that were raised.

Owns:
- `eventOf`, an event report as it is read on the ground;
- the main loop's calls of FDIR are in range, so that its event queue is a bounded queue
  that drops the newest;
- the event reports sent live and the events still queued are the events that found room,
  in their order, and the others are counted.

Does not own: which events a call raises.
-/

namespace FswCore

open Library Library.BigEndian

variable {cfg : Config} {build : AppBuild}

/-! ### Reports as events -/

def eventOf (packet : List UInt8) : Option FdirEvent :=
  match pusTmSecondaryUnpack (packet.drop ccsdsPrimaryHeaderSize) with
  | .error _ => none
  | .ok sec =>
      if sec.serviceType = pusServiceEventReporting then some
        { eventId := be16At (tmSourceData packet) 0
          severity := sec.serviceSubtype - 1
          aux := (tmSourceData packet).drop pus5EventIdSize
          tSeconds := sec.timeSeconds }
      else none

theorem eventOf_other {packet : List UInt8} {tm : TmPacket} (reads : ReadsAs packet tm)
    (service : tm.secondary.serviceType ≠ pusServiceEventReporting) : eventOf packet = none := by
  simp only [eventOf, reads.secondary, if_neg service]

/-- A drained event is read as the event it is. -/
theorem EventReported.event {drained : FdirDrained} (reported : EventReported drained) :
    (burstPackets (drained.report.toOption.getD []).length
      (drained.report.toOption.getD [])).filterMap eventOf = [drained.event] := by
  obtain ⟨packet, tm, report, reads, service, subtype, time, source⟩ := reported
  have id : be16At tm.source 0 = drained.event.eventId := by
    have start := be16At_append [] drained.event.aux drained.event.eventId
    rw [source]
    exact start
  have aux : tm.source.drop pus5EventIdSize = drained.event.aux := by
    rw [source]
    exact List.drop_left' (put16_length _)
  have event : eventOf packet = some drained.event := by
    simp only [eventOf, reads.secondary, reads.sourceData, if_pos service, id, aux, subtype, time,
      UInt8.add_sub_cancel]
  rw [report]
  show (burstPackets packet.length packet).filterMap eventOf = _
  rw [burstPackets_one reads, List.filterMap_cons, event, List.filterMap_nil]

/-! ### The calls of a tick -/

/-- A call that takes no event. -/
def FdirOp.Drains : FdirOp → Bool
  | .drain _ _ _ => true
  | _ => false

theorem drainedEvents_none {system : FdirSystem cfg} {ops : List FdirOp}
    (none : ∀ op ∈ ops, op.Drains = false) : drainedEvents (fdirTrace system ops) = [] := by
  induction ops generalizing system with
  | nil => rfl
  | cons op rest inductionHypothesis =>
      have first : (fdirStep system op).drained = Option.none := by
        have other := none op List.mem_cons_self
        cases op with
        | drain => contradiction
        | _ => rfl
      have later : drainedEvents (fdirTrace (fdirStep system op).system rest) = [] :=
        inductionHypothesis fun other member => none other (List.mem_cons_of_mem op member)
      rw [drainedEvents, fdirTrace, List.flatMap_cons, first]
      exact later

theorem queueRunCalls_append (system : FdirSystem cfg) (first second : List FdirOp) :
    queueRunCalls system (first ++ second) =
      queueRunCalls system first ++ queueRunCalls (fdirRun system first) second := by
  induction first generalizing system with
  | nil => rfl
  | cons op rest inductionHypothesis =>
      rw [List.cons_append, queueRunCalls, queueRunCalls, inductionHypothesis, List.append_assoc]
      rfl

theorem TickDispatch.calls_drainless (dispatch : TickDispatch cfg) :
    ∀ op ∈ dispatch.calls.fdir, op.Drains = false := by
  intro op member
  obtain ⟨report, _, rfl⟩ := List.mem_map.mp member
  rfl

/-- Only the FDIR tick takes an event. -/
theorem tickCalls_drainless (state : MainState cfg) {tick : LoopTick}
    (other : ∀ nowSeconds, tick ≠ .fdir nowSeconds) :
    ∀ op ∈ (state.tickCalls tick).fdir, op.Drains = false := by
  intro op member
  rw [MainState.tickCalls, ComponentCalls.andThen, List.mem_append] at member
  rcases member with own | dispatched
  · cases tick with
    | fdir nowSeconds => exact absurd rfl (other nowSeconds)
    | rxOverflow nowSeconds drops =>
        simp only [MainState.ownCalls] at own
        split at own
        · rw [List.mem_singleton.mp own]
          rfl
        · contradiction
    | dynamicHk nowSeconds =>
        simp only [MainState.ownCalls] at own
        split at own <;> contradiction
    | hk | release | retrieval | largedata | receive => exact absurd own List.not_mem_nil
  · cases handed : state.dispatches tick with
    | none =>
        rw [handed] at dispatched
        contradiction
    | some dispatch =>
        rw [handed] at dispatched
        exact dispatch.calls_drainless op dispatched

theorem rejectionReport_graded (nowSeconds : UInt32) (v : TcAcceptResult) :
    (rejectionReport nowSeconds v).event.Graded :=
  ⟨(by decide : pus5SevLow ≤ pus5SevHigh), (by decide : 3 ≤ fdirEventAuxMax)⟩

/-- The calls of a tick are in range. -/
theorem tickCalls_inRange {state : MainState cfg} (ready : state.senders.Ready)
    (wired : state.loop.ctx.sinkWired = true) (tick : LoopTick) :
    ∀ op ∈ (state.tickCalls tick).fdir, op.InRange := by
  intro op member
  rw [MainState.tickCalls, ComponentCalls.andThen, List.mem_append] at member
  rcases member with own | dispatched
  · cases tick with
    | fdir nowSeconds =>
        rw [List.mem_singleton.mp own]
        exact ⟨ready.apid, ready.seqCount⟩
    | rxOverflow nowSeconds drops =>
        simp only [MainState.ownCalls] at own
        split at own
        · rw [List.mem_singleton.mp own]
          trivial
        · contradiction
    | dynamicHk nowSeconds =>
        simp only [MainState.ownCalls] at own
        split at own <;> contradiction
    | hk | release | retrieval | largedata | receive => exact absurd own List.not_mem_nil
  · cases handed : state.dispatches tick with
    | none =>
        rw [handed] at dispatched
        contradiction
    | some dispatch =>
        rw [handed] at dispatched
        obtain ⟨report, raised, rfl⟩ := List.mem_map.mp dispatched
        have sameWired : dispatch.ctx.sinkWired = true :=
          (congrArg RouterTally.sinkWired (dispatches_tally handed)).trans wired
        rw [(tcRouterDispatch_tally dispatch.ctx dispatch.nowSeconds dispatch.tc
          (Nat.le_refl _)).sinkReports sameWired] at raised
        split at raised
        · rw [List.mem_singleton.mp raised]
          exact rejectionReport_graded _ _
        · contradiction

/-! ### Runs -/

section Runs

variable (limits : cfg.ReportLimits) (partSize : cfg.pus13PartSize + 18 < 65536)

include limits partSize

/-- The event reports of a tick are the events its calls drain. -/
theorem loopTick_events {state : MainState cfg} (ready : state.senders.Ready)
    {queue : BoundedQueue FdirEvent} (holds : Represents state.loop.fdir.fdir.fifo queue)
    (tick : LoopTick) :
    (loopTick state tick).2.live.filterMap eventOf =
      drainedEvents (fdirTrace state.loop.fdir (state.tickCalls tick).fdir) := by
  have silent {sent : List UInt8} (other : ∀ packet ∈ burstPackets sent.length sent,
      ∃ tm, ReadsAs packet tm ∧ tm.secondary.serviceType ≠ pusServiceEventReporting) :
      (burstPackets sent.length sent).filterMap eventOf = [] := by
    refine List.filterMap_eq_nil_iff.mpr fun packet member => ?_
    obtain ⟨tm, reads, service⟩ := other packet member
    exact eventOf_other reads service
  by_cases drains : ∃ nowSeconds, tick = .fdir nowSeconds
  · obtain ⟨nowSeconds, rfl⟩ := drains
    let op : FdirOp := .drain state.loop.ctx.apid state.loop.ctx.counters tcRouterMaxTm
    have inRange : op.InRange := ⟨ready.apid, ready.seqCount⟩
    have drained : drainedEvents
        (fdirTrace state.loop.fdir (state.tickCalls (.fdir nowSeconds)).fdir) =
          ((fdirStep state.loop.fdir op).drained.map FdirDrained.event).toList := List.append_nil _
    have sent : (loopTick state (.fdir nowSeconds)).2.sent =
        ((fdirStep state.loop.fdir op).drained.map fun drained =>
          drained.report.toOption.getD []).getD [] := by
      have call := (state.send_counters nowSeconds
        (.fdirDrain state.loop.ctx.apid tcRouterMaxTm)).1
      refine Eq.trans call ?_
      simp only [tmCall, fdirStep, op, MainState.senders]
      rcases (fdirDrain state.loop.fdir.fdir state.loop.ctx.apid state.loop.ctx.counters
        tcRouterMaxTm).1 with status | (_ | drained) <;> rfl
    rw [drained, LoopOutput.live, sent]
    cases taken : (fdirStep state.loop.fdir op).drained with
    | none => rfl
    | some drained => exact (fdirStep_reported holds inRange taken).event
  · have drainless := tickCalls_drainless state fun nowSeconds same => drains ⟨nowSeconds, same⟩
    have quiet : tick.service ≠ pusServiceEventReporting := by
      cases tick with
      | fdir nowSeconds => exact absurd ⟨nowSeconds, rfl⟩ drains
      | hk | dynamicHk | rxOverflow | release | retrieval | largedata | receive =>
          simp only [LoopTick.service]
          decide
    rw [drainedEvents_none drainless, LoopOutput.live]
    cases loopTick_sends ready tick with
    | nothing _ sent _ =>
        rw [sent]
        rfl
    | @report _ before call _ _ builds admitted own sent _ =>
        rw [sent]
        refine silent fun packet member => ?_
        obtain ⟨tm, reads, service⟩ :=
          tmCall_writes limits partSize before builds admitted packet member
        exact ⟨tm, reads, by rw [service, own]; exact quiet⟩
    | @telecommand dispatch _ prepared _ sent _ =>
        rw [sent]
        refine silent fun packet member => ?_
        obtain ⟨tm, reads, kind, service⟩ :=
          dispatch_writes limits prepared dispatch.nowSeconds dispatch.tc packet member
        exact ⟨tm, reads, by rw [service]; exact kind.service_ne_event⟩

/-- A run of the loop is a run of the queue. -/
theorem tickRun_events {state : MainState cfg} (ready : state.senders.Ready)
    (wired : state.loop.ctx.sinkWired = true) {queue : BoundedQueue FdirEvent}
    (holds : Represents state.loop.fdir.fdir.fifo queue) (ticks : List LoopTick) :
    let calls := queueRunCalls state.loop.fdir (tickRunCalls state ticks).fdir
    Represents (tickRun state ticks).loop.fdir.fdir.fifo
        (queue.run cfg.fdirEventFifoCapacity calls) ∧
      (tickLive state ticks).filterMap eventOf =
        queue.runTaken cfg.fdirEventFifoCapacity calls := by
  induction ticks generalizing state queue with
  | nil => exact ⟨holds, rfl⟩
  | cons tick rest inductionHypothesis =>
      have inRange := tickCalls_inRange ready wired tick
      obtain ⟨represents, taken, _⟩ := fdirRun_represents holds inRange
      have fdir : (loopTick state tick).1.loop.fdir =
          fdirRun state.loop.fdir (state.tickCalls tick).fdir :=
        congrArg Components.fdir (loopTick_calls state tick)
      have nextWired : (loopTick state tick).1.loop.ctx.sinkWired = true :=
        (tickRun_counts state [tick]).2.2.2.trans wired
      rw [← fdir] at represents
      have later := inductionHypothesis (loopTick_labelled limits ready partSize tick).ready
        nextWired represents
      have calls : queueRunCalls state.loop.fdir (tickRunCalls state (tick :: rest)).fdir =
          queueRunCalls state.loop.fdir (state.tickCalls tick).fdir ++
            queueRunCalls (loopTick state tick).1.loop.fdir
              (tickRunCalls (loopTick state tick).1 rest).fdir := by
        rw [fdir]
        exact queueRunCalls_append _ _ _
      have live : tickLive state (tick :: rest) =
          (loopTick state tick).2.live ++ tickLive (loopTick state tick).1 rest := rfl
      simp only [calls, BoundedQueue.run_append, BoundedQueue.runTaken_append, live,
        List.filterMap_append, loopTick_events limits partSize ready holds, taken]
      exact ⟨later.1, congrArg _ later.2⟩

end Runs

/-! ### From start-up -/

/-- The way to the nominal mode, unless a mode was restored. -/
def startCalls (power : PowerUp cfg) (subs : Subsystems) : List FdirOp :=
  if subs.mode.current = fswModeBoot then [.modeRequest fswModeNominal power.bootSeconds] else []

theorem appMain_fdir (build : AppBuild) (power : PowerUp cfg) (subs : Subsystems) :
    (appMain cfg build power subs).1.loop.fdir =
      fdirRun (appWired build power subs).loop.fdir (startCalls power subs) := by
  have booted : mainBoot cfg subs
      { fdir := appFdir build power.fdirMemory, mode := subs.mode, modeSinkIsFdir := true }
      (appLargedata cfg build) power.bootSeconds =
        (appWired build power subs).send power.bootSeconds (bootEvent build power subs) := rfl
  have kept : ((appWired build power subs).send power.bootSeconds
      (bootEvent build power subs)).1.loop.fdir = (appWired build power subs).loop.fdir := rfl
  simp only [appMain, booted, kept, startCalls]
  change (if subs.mode.current = fswModeBoot then _ else _ : MainState cfg × LoopOutput).1.loop.fdir
    = _
  split
  · rfl
  · exact kept

theorem appFdir_represents (build : AppBuild) (memory : FdirCtx cfg) :
    Represents (appFdir build memory).fifo .empty := by
  have initially := eventFifoInit_represents memory.fifo
  have fifo : (appFdir build memory).fifo = eventFifoInit memory.fifo := by
    rw [appFdir]
    split
    · rw [fdirArmRecovery]
      split <;> rfl
    · rfl
  rw [fifo]
  exact initially

/-- The boot event is read as itself. -/
theorem appMain_bootEvent (build : AppBuild) (power : PowerUp cfg) (subs : Subsystems) :
    (appMain cfg build power subs).2.live.filterMap eventOf =
      [⟨pus5EvtFswBoot, pus5SevInfo, [], power.bootSeconds⟩] := by
  let request := (appWired build power subs).request power.bootSeconds
  let drained : FdirDrained :=
    { event := ⟨pus5EvtFswBoot, pus5SevInfo, [], power.bootSeconds⟩
      request := request
      counters := pusCountersZero
      report := (pus5BuildEventReport request pusCountersZero pus5SevInfo pus5EvtFswBoot []).1 }
  have address : fswApid ≤ 0x7FF := by decide
  have first : pusCountersZero.tmSeqCount ≤ 0x3FFF := by decide
  have room : pus5TmMaxPacketSize ≤ tcRouterMaxTm := by decide
  have graded : pus5SevInfo ≤ pus5SevHigh := by decide
  have few : ([] : List UInt8).length ≤ pus5AuxMaxLen := Nat.zero_le _
  obtain ⟨packet, built, reads⟩ := pus5BuildEventReport_ok pus5EvtFswBoot graded few
    (show request.apid ≤ 0x7FF from address) first (show _ ≤ request.outCap from room)
  have reported : EventReported drained :=
    ⟨packet, _, congrArg Prod.fst built, reads, rfl, rfl, rfl, rfl⟩
  rw [LoopOutput.live, (appMain_sends build power subs).1]
  exact reported.event

/-- The events that calls of FDIR raise: anomalies, recoveries and mode changes. -/
def raisedEvents (system : FdirSystem cfg) (ops : List FdirOp) : List FdirEvent :=
  (fdirTrace system ops).flatMap fun step => step.effects.attempts.map FdirAttempt.event

theorem startCalls_range (power : PowerUp cfg) (subs : Subsystems) :
    (∀ op ∈ startCalls power subs, op.InRange) ∧
      ∀ op ∈ startCalls power subs, op.Drains = false := by
  rw [startCalls]
  split
  · constructor <;> intro op member <;> rw [List.mem_singleton.mp member]
    · trivial
    · rfl
  · exact ⟨fun _ none => absurd none List.not_mem_nil, fun _ none => absurd none List.not_mem_nil⟩

/-- In every run from start-up: the events sent live, behind the boot event, and those
still queued are the events that were accepted; these were raised in that order, and the
queue counts the raised events that were not accepted. -/
theorem appMain_events (admitted : cfg.KconfigAdmitted)
    (partSize : cfg.pus13PartSize + 18 < 65536) (power : PowerUp cfg)
    (loaded : NvstoreStatus × Nvstore) (ticks : List LoopTick) :
    let subs := appRestore cfg build.tables loaded
    let boot := appMain cfg build power subs
    let fifo := (tickRun boot.1 ticks).loop.fdir.fdir.fifo
    let raised := raisedEvents (appWired build power subs).loop.fdir
      (startCalls power subs ++ (tickRunCalls boot.1 ticks).fdir)
    ∃ accepted : List FdirEvent, accepted.Sublist raised ∧
      (boot.2.live ++ tickLive boot.1 ticks).filterMap eventOf ++ eventFifoQueue fifo =
        ⟨pus5EvtFswBoot, pus5SevInfo, [], power.bootSeconds⟩ :: accepted ∧
      fifo.dropped = UInt32.ofNat (raised.length - accepted.length) := by
  intro subs boot fifo raised
  have params : build.tables.params.length ≤ 3 := Nat.le_refl _
  have within := Subsystems.Within.appRestore cfg params loaded
  have ready : boot.1.senders.Ready :=
    appMain_ready admitted.reportLimits partSize build power within
  have wired : boot.1.loop.ctx.sinkWired = true :=
    congrArg RouterTally.sinkWired (appMain_account build power subs).2
  let system := (appWired build power subs).loop.fdir
  let calls := queueRunCalls system (startCalls power subs ++ (tickRunCalls boot.1 ticks).fdir)
  let queue := BoundedQueue.empty.run cfg.fdirEventFifoCapacity calls
  let accepted := BoundedQueue.empty.runAccepted cfg.fdirEventFifoCapacity calls
  obtain ⟨inRange, drainless⟩ := startCalls_range power subs
  have empty : Represents system.fdir.fifo .empty := appFdir_represents build power.fdirMemory
  obtain ⟨started, startTaken, _⟩ := fdirRun_represents empty inRange
  rw [← appMain_fdir] at started
  obtain ⟨represents, taken⟩ := tickRun_events admitted.reportLimits partSize ready wired started
    ticks
  -- the run of the loop goes on where start-up leaves the queue
  have split : calls = queueRunCalls system (startCalls power subs) ++
      queueRunCalls boot.1.loop.fdir (tickRunCalls boot.1 ticks).fdir := by
    have parts :=
      queueRunCalls_append system (startCalls power subs) (tickRunCalls boot.1 ticks).fdir
    rwa [← appMain_fdir] at parts
  have whole : BoundedQueue.empty.runTaken cfg.fdirEventFifoCapacity calls =
      (tickLive boot.1 ticks).filterMap eventOf := by
    rw [split, BoundedQueue.runTaken_append, ← startTaken, drainedEvents_none drainless, taken]
    rfl
  have final : Represents fifo queue := by
    have behind := represents
    rwa [← BoundedQueue.run_append, ← split] at behind
  have conserved := BoundedQueue.run_conserved cfg.fdirEventFifoCapacity .empty calls
  have counted : queue.dropped + accepted.length = 0 + (BoundedQueue.offered calls).length :=
    BoundedQueue.run_counted cfg.fdirEventFifoCapacity .empty calls
  have offered : BoundedQueue.offered calls = raised := offered_queueRunCalls _ _
  refine ⟨accepted, ?_, ?_, ?_⟩
  · rw [← offered]
    exact BoundedQueue.runAccepted_sublist _ _ _
  · rw [List.filterMap_append, appMain_bootEvent, List.append_assoc, ← whole, final.items]
    exact congrArg (List.cons _) conserved.symm
  · rw [final.dropped]
    rw [offered, Nat.zero_add] at counted
    exact congrArg UInt32.ofNat (Nat.eq_sub_of_add_eq counted)

/-- A corrupt telecommand, and two ticks that send events. -/
def recoveryTicks : List LoopTick := corruptUplink ++ [.fdir 9, .fdir 9]

/-- A mode change, a rejection, the recovery from it and a mode change, half of them sent. -/
theorem appMain_events_recovery :
    let subs := appRestore defaultConfig watchfulBuild.tables (.errNoValidImage, nvstoreZero)
    let power := zeroedPowerUp defaultConfig 0
    let boot := appMain defaultConfig watchfulBuild power subs
    let fifo := (tickRun boot.1 recoveryTicks).loop.fdir.fdir.fifo
    let raised := raisedEvents (appWired watchfulBuild power subs).loop.fdir
      (startCalls power subs ++ (tickRunCalls boot.1 recoveryTicks).fdir)
    raised.length = 4 ∧ fifo.count = 2 ∧
      ∃ accepted : List FdirEvent, accepted.Sublist raised ∧
        (boot.2.live ++ tickLive boot.1 recoveryTicks).filterMap eventOf ++ eventFifoQueue fifo =
          ⟨pus5EvtFswBoot, pus5SevInfo, [], power.bootSeconds⟩ :: accepted ∧
        fifo.dropped = UInt32.ofNat (raised.length - accepted.length) :=
  ⟨by decide +kernel, by decide +kernel, appMain_events Config.default_kconfigAdmitted (by decide)
    (zeroedPowerUp defaultConfig 0) (.errNoValidImage, nvstoreZero) recoveryTicks⟩

end FswCore
