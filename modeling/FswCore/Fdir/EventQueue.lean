import FswCore.Fdir.Causality
import FswCore.Library.BoundedQueue

/-!
Contract: the event queue and its drain, as the bounded queue they implement.

Owns:
- a run of reports and drains is a run of a queue that drops the newest event;
- every event that can be queued is reported when it is drained;
- a drain into a short buffer takes nothing.

Does not own: the order of cause and effect among the queued events.
-/

namespace FswCore

open Library Library.BigEndian

variable {cfg : Config}

/-! ### The ring and the queue -/

/-- An event the report encoder takes: a known severity, and few octets. -/
structure FdirEvent.Graded (event : FdirEvent) : Prop where
  severity : event.severity ≤ pus5SevHigh
  auxFits : event.aux.length ≤ fdirEventAuxMax

/-- The ring holds this queue, of events the encoder takes. -/
structure Represents (fifo : EventFifo cfg) (queue : BoundedQueue FdirEvent) : Prop where
  items : eventFifoQueue fifo = queue.items
  dropped : fifo.dropped = UInt32.ofNat queue.dropped
  graded : ∀ event ∈ queue.items, event.Graded

theorem eventFifoInit_represents (fifo : EventFifo cfg) :
    Represents (eventFifoInit fifo) .empty :=
  ⟨eventFifoInit_queue fifo, rfl, fun _ member => absurd member List.not_mem_nil⟩

theorem eventFifoPush_represents {fifo : EventFifo cfg} {queue : BoundedQueue FdirEvent}
    {event : FdirEvent} (holds : Represents fifo queue) (graded : event.Graded) :
    Represents (eventFifoPush fifo event).2 (queue.offer cfg.fdirEventFifoCapacity event) := by
  have count : fifo.count = queue.items.length := by
    rw [← holds.items, eventFifoQueue_length]
  have pushed := (eventFifoPush_spec fifo event).2
  rw [eventFifoPush, if_neg (Nat.not_lt.mpr graded.auxFits)] at pushed ⊢
  rw [BoundedQueue.offer]
  by_cases free : queue.Free cfg.fdirEventFifoCapacity
  · rw [BoundedQueue.Free, ← count] at free
    rw [if_neg (Nat.not_le.mpr free)] at pushed ⊢
    rw [if_pos (by rwa [BoundedQueue.Free, ← count])]
    constructor
    · rw [pushed, holds.items]
      rfl
    · exact holds.dropped
    · intro other member
      rcases List.mem_append.mp member with earlier | last
      · exact holds.graded other earlier
      · rw [List.mem_singleton.mp last]
        exact graded
  · rw [if_neg free]
    rw [BoundedQueue.Free, ← count, Nat.not_lt] at free
    rw [if_pos free]
    constructor
    · exact holds.items
    · rw [UInt32.ofNat_add, ← holds.dropped]
      rfl
    · exact holds.graded

theorem eventFifoPop_represents {fifo : EventFifo cfg} {queue : BoundedQueue FdirEvent}
    (holds : Represents fifo queue) :
    (eventFifoPop fifo).1 = queue.take.1 ∧ Represents (eventFifoPop fifo).2 queue.take.2 := by
  have popped := eventFifoPop_spec fifo
  have same : (eventFifoPop fifo).2.dropped = fifo.dropped := by
    rw [eventFifoPop]
    split <;> rfl
  have nothing : (eventFifoPop fifo).1 = none → eventFifoQueue (eventFifoPop fifo).2 = [] := by
    rw [eventFifoPop]
    split
    · rename_i empty
      intro _
      exact List.eq_nil_of_length_eq_zero ((eventFifoQueue_length fifo).trans empty)
    · intro impossible
      contradiction
  rw [holds.items] at popped
  have dropped := same.trans holds.dropped
  have graded := holds.graded
  rw [BoundedQueue.take, popped]
  rw [popped] at graded
  cases first : (eventFifoPop fifo).1 with
  | none =>
      rw [nothing first]
      exact ⟨rfl, nothing first, dropped, fun _ member => absurd member List.not_mem_nil⟩
  | some event =>
      rw [first] at graded
      refine ⟨rfl, rfl, dropped, ?_⟩
      intro other member
      exact graded other (List.mem_cons_of_mem _ member)

/-! ### Calls -/

/-- A call offers its events to the queue, and each of them is graded. -/
structure Offers (before after : FdirSystem cfg) (effects : FdirEffects) : Prop where
  graded : ∀ attempt ∈ effects.attempts, attempt.event.Graded
  represents : ∀ queue, Represents before.fdir.fifo queue →
    Represents after.fdir.fifo ((effects.attempts.map FdirAttempt.event).foldl
      (BoundedQueue.offer cfg.fdirEventFifoCapacity) queue)

theorem Offers.trans {first second third : FdirSystem cfg} {left right : FdirEffects}
    (front : Offers first second left) (back : Offers second third right) :
    Offers first third (left.andThen right) := by
  constructor
  · intro attempt member
    rcases List.mem_append.mp member with inLeft | inRight
    · exact front.graded attempt inLeft
    · exact back.graded attempt inRight
  · intro queue holds
    rw [FdirEffects.andThen, List.map_append, List.foldl_append]
    exact back.represents _ (front.represents queue holds)

/-- Nothing is offered and the ring stays as it is. -/
theorem offers_nothing {before after : FdirSystem cfg} {effects : FdirEffects}
    (silent : effects.attempts = []) (same : after.fdir.fifo = before.fdir.fifo) :
    Offers before after effects := by
  constructor
  · rw [silent]
    intro attempt member
    exact absurd member List.not_mem_nil
  · intro queue holds
    rw [silent, same]
    exact holds

theorem fdirOffer_offers (system : FdirSystem cfg) (origin : FdirOrigin) {report : SinkReport}
    (graded : report.event.Graded) :
    Offers system (fdirOffer system origin report).system
      (fdirOffer system origin report).effects := by
  have fits : ¬report.aux.length > fdirEventAuxMax := Nat.not_lt.mpr graded.auxFits
  simp only [fdirOffer, fdirEnqueue, if_neg fits]
  constructor
  · intro attempt member
    rw [List.mem_singleton.mp member]
    exact graded
  · intro queue holds
    exact eventFifoPush_represents holds graded

/-- The events the context makes itself are graded. -/
theorem modeChanged_graded (changed : ModeChanged) : changed.report.event.Graded where
  severity := show pus5SevInfo ≤ pus5SevHigh by decide
  auxFits := show 2 ≤ fdirEventAuxMax by decide

theorem fdirRecoveryReport_graded (ctx : FdirCtx cfg) (anomaly : FdirAnomaly)
    (nowSeconds : UInt32) : (fdirRecoveryReport ctx anomaly nowSeconds).event.Graded where
  severity := show pus5SevHigh ≤ pus5SevHigh by decide
  auxFits := show 4 ≤ fdirEventAuxMax by decide

theorem fdirAnomalyReport_graded (anomaly : FdirAnomaly) (nowSeconds detail : UInt32) :
    (fdirAnomalyReport anomaly nowSeconds detail).event.Graded := by
  cases anomaly with
  | tcRejected =>
      constructor
      · show pus5SevLow ≤ pus5SevHigh
        decide
      · show 3 ≤ fdirEventAuxMax
        decide
  | rxOverflow =>
      constructor
      · show pus5SevMedium ≤ pus5SevHigh
        decide
      · show 4 ≤ fdirEventAuxMax
        decide

theorem fdirAnnounce_offers (system : FdirSystem cfg) (origin : FdirOrigin)
    (changed : ModeChanged) :
    Offers system (fdirAnnounce system origin changed).system
      (fdirAnnounce system origin changed).effects := by
  rw [fdirAnnounce]
  split
  · have offered := fdirOffer_offers system origin (modeChanged_graded changed)
    exact ⟨offered.graded, offered.represents⟩
  · exact offers_nothing rfl rfl

theorem fdirModeRequest_offers (system : FdirSystem cfg) (origin : FdirOrigin)
    (target : UInt8) (nowSeconds : UInt32) :
    Offers system (fdirModeRequest system origin target nowSeconds).2.1
      (fdirModeRequest system origin target nowSeconds).2.2 := by
  simp only [fdirModeRequest]
  split
  · exact offers_nothing rfl rfl
  · rename_i changed _
    have announced := fdirAnnounce_offers
      { system with mode := (modeRequest system.mode target nowSeconds).2.1 } origin changed
    exact ⟨announced.graded, announced.represents⟩

theorem fdirRecover_offers (system : FdirSystem cfg) (anomaly : FdirAnomaly)
    (nowSeconds : UInt32) :
    Offers system (fdirRecover system anomaly nowSeconds).1
      (fdirRecover system anomaly nowSeconds).2 := by
  have cause := fdirOffer_offers system .recovery
    (fdirRecoveryReport_graded system.fdir anomaly nowSeconds)
  have effect := fdirModeRequest_offers
    (fdirOffer system .recovery (fdirRecoveryReport system.fdir anomaly nowSeconds)).system
    .recoveryModeChange system.fdir.safeMode nowSeconds
  exact cause.trans ⟨effect.graded, effect.represents⟩

theorem fdirObserve_offers (system : FdirSystem cfg) (anomaly : FdirAnomaly)
    (nowSeconds : UInt32) :
    Offers system (fdirObserve system anomaly nowSeconds).1
      (fdirObserve system anomaly nowSeconds).2 := by
  have counted := fdirCount_fifo system.fdir anomaly
  simp only [fdirObserve]
  split
  · exact offers_nothing rfl counted
  split
  · exact offers_nothing rfl counted
  · have recovered := fdirRecover_offers
      { system with fdir := fdirLatch (fdirCount system.fdir anomaly) anomaly } anomaly nowSeconds
    constructor
    · exact recovered.graded
    · intro queue holds
      apply recovered.represents queue
      simp only [fdirLatch, counted]
      exact holds

theorem fdirReport_offers (system : FdirSystem cfg) (anomaly : Option FdirAnomaly)
    {report : SinkReport} (graded : report.event.Graded) :
    Offers system (fdirReport system anomaly report).system
      (fdirReport system anomaly report).effects := by
  have offered := fdirOffer_offers system .reported graded
  cases anomaly with
  | none => exact offered
  | some anomaly => exact offered.trans (fdirObserve_offers _ anomaly report.nowSeconds)

/-! ### Steps -/

/-- A call the flight software makes: its producers report graded events, and it
drains with an address and a sequence count in range. -/
def FdirOp.InRange : FdirOp → Prop
  | .sinkReport report => report.event.Graded
  | .drain apid counters _ => apid ≤ 0x7FF ∧ counters.tmSeqCount ≤ 0x3FFF
  | _ => True

/-- The calls of the queue a call of the context makes. -/
def queueCalls (system : FdirSystem cfg) (op : FdirOp) : List (BoundedQueue.Call FdirEvent) :=
  match op with
  | .drain _ _ outCap => if outCap < pus5TmMaxPacketSize then [] else [.take]
  | op => ((fdirStep system op).effects.attempts.map FdirAttempt.event).map .offer

/-- What a step is to the queue: the same calls, and the same items taken. -/
structure StepRefines (system : FdirSystem cfg) (op : FdirOp)
    (queue : BoundedQueue FdirEvent) : Prop where
  represents : Represents (fdirStep system op).system.fdir.fifo
    (queue.run cfg.fdirEventFifoCapacity (queueCalls system op))
  taken : ((fdirStep system op).drained.map FdirDrained.event).toList =
    queue.runTaken cfg.fdirEventFifoCapacity (queueCalls system op)

theorem stepRefines_offers {system : FdirSystem cfg} {op : FdirOp}
    {queue : BoundedQueue FdirEvent} (holds : Represents system.fdir.fifo queue)
    (offers : Offers system (fdirStep system op).system (fdirStep system op).effects)
    (notDrained : (fdirStep system op).drained = none)
    (calls : queueCalls system op =
      ((fdirStep system op).effects.attempts.map FdirAttempt.event).map .offer) :
    StepRefines system op queue := by
  constructor
  · rw [calls, BoundedQueue.run_offers]
    exact offers.represents queue holds
  · rw [calls, BoundedQueue.runTaken_offers, notDrained]
    rfl

theorem eventFifoPop_empty {fifo : EventFifo cfg} (nothing : (eventFifoPop fifo).1 = none) :
    (eventFifoPop fifo).2 = fifo := by
  rw [eventFifoPop] at nothing ⊢
  split
  · rfl
  · rename_i nonempty
    rw [if_neg nonempty] at nothing
    contradiction

/-- With room for any report a drain pops the ring. -/
theorem fdirDrain_fifo {ctx : FdirCtx cfg} {apid : UInt16} {counters : PusCounters}
    {outCap : Nat} (room : ¬outCap < pus5TmMaxPacketSize) :
    (fdirDrain ctx apid counters outCap).2.1.fifo = (eventFifoPop ctx.fifo).2 := by
  rw [fdirDrain, if_neg room]
  split
  · rename_i popped
    exact (eventFifoPop_empty (congrArg Prod.fst popped)).symm
  · rename_i popped
    rw [popped]

theorem fdirDrain_event (ctx : FdirCtx cfg) (apid : UInt16) (counters : PusCounters)
    {outCap : Nat} (room : ¬outCap < pus5TmMaxPacketSize) :
    (fdirDrain ctx apid counters outCap).1.toOption.join.map FdirDrained.event =
      (eventFifoPop ctx.fifo).1 := by
  rw [fdirDrain, if_neg room]
  split
  · rename_i fifo popped
    rw [popped]
    rfl
  · rename_i event fifo popped
    rw [popped]
    rfl

theorem fdirStep_refines {system : FdirSystem cfg} {queue : BoundedQueue FdirEvent}
    (holds : Represents system.fdir.fifo queue) {op : FdirOp} (inRange : op.InRange) :
    StepRefines system op queue := by
  cases op with
  | reportAnomaly code nowSeconds detail =>
      apply stepRefines_offers holds _ rfl rfl
      simp only [fdirStep, fdirReportAnomaly]
      split
      · exact offers_nothing rfl rfl
      · rename_i anomaly _
        exact fdirReport_offers system (some anomaly)
          (fdirAnomalyReport_graded anomaly nowSeconds detail)
  | sinkReport report =>
      apply stepRefines_offers holds _ rfl rfl
      exact fdirReport_offers system (fdirEventAnomaly report.eventId) inRange
  | setEnabled enabled => exact stepRefines_offers holds (offers_nothing rfl rfl) rfl rfl
  | armRecovery modeAttached safeMode confirms =>
      apply stepRefines_offers holds _ rfl rfl
      apply offers_nothing rfl
      simp only [fdirStep, fdirArmRecovery]
      split <;> rfl
  | drain apid counters outCap =>
      by_cases short : outCap < pus5TmMaxPacketSize
      · constructor
        · simp only [queueCalls, if_pos short, fdirStep, fdirDrain]
          exact holds
        · simp only [queueCalls, if_pos short, fdirStep, fdirDrain]
          rfl
      · have popped := eventFifoPop_represents holds
        constructor
        · simp only [queueCalls, if_neg short, fdirStep]
          rw [fdirDrain_fifo short]
          exact popped.2
        · simp only [queueCalls, if_neg short, fdirStep]
          rw [fdirDrain_event _ _ _ short, popped.1]
          exact (List.append_nil _).symm
  | modeRequest target nowSeconds =>
      apply stepRefines_offers holds _ rfl rfl
      exact fdirModeRequest_offers system .otherModeChange target nowSeconds
  | modeRestore image => exact stepRefines_offers holds (offers_nothing rfl rfl) rfl rfl

/-! ### Reports -/

/-- A drained event went out as the packet that carries it. -/
def EventReported (drained : FdirDrained) : Prop :=
  ∃ packet tm, drained.report = .ok packet ∧ ReadsAs packet tm ∧
    tm.secondary.serviceType = pusServiceEventReporting ∧
    tm.secondary.serviceSubtype = drained.event.severity + 1 ∧
    tm.secondary.timeSeconds = drained.event.tSeconds ∧
    tm.source = put16 drained.event.eventId ++ drained.event.aux

/-- A drained event was the oldest one queued, and is reported under its own time. -/
theorem fdirStep_taken {system : FdirSystem cfg} {apid : UInt16} {counters : PusCounters}
    {outCap : Nat} {drained : FdirDrained}
    (taken : (fdirStep system (.drain apid counters outCap)).drained = some drained) :
    (eventFifoPop system.fdir.fifo).1 = some drained.event ∧
      drained.request = ⟨apid, drained.event.tSeconds, 0, outCap⟩ ∧
      drained.counters = counters := by
  simp only [fdirStep, fdirDrain] at taken
  split at taken
  · contradiction
  split at taken
  · contradiction
  · rename_i event fifo popped
    have result := Option.some.inj taken
    rw [popped, ← result]
    exact ⟨rfl, rfl, rfl⟩

theorem fdirStep_reported {system : FdirSystem cfg} {queue : BoundedQueue FdirEvent}
    (holds : Represents system.fdir.fifo queue) {op : FdirOp} (inRange : op.InRange)
    {drained : FdirDrained} (taken : (fdirStep system op).drained = some drained) :
    EventReported drained := by
  cases op with
  | drain apid counters outCap =>
      obtain ⟨popped, request, sameCounters⟩ := fdirStep_taken taken
      have oldest := (eventFifoPop_represents holds).1
      rw [popped] at oldest
      have graded := holds.graded drained.event (List.mem_of_mem_head? oldest.symm)
      have addressable : drained.request.apid ≤ 0x7FF := by
        rw [request]
        exact inRange.1
      have inSequence : drained.counters.tmSeqCount ≤ 0x3FFF := by
        rw [sameCounters]
        exact inRange.2
      obtain ⟨packet, built, reads⟩ := fdirStep_reports taken addressable inSequence
        graded.severity graded.auxFits
      refine ⟨packet, _, built, reads, rfl, rfl, ?_, rfl⟩
      rw [pus5Packet, request]
      rfl
  | _ => contradiction

/-! ### Runs -/

/-- The calls of the queue a run makes. -/
def queueRunCalls (system : FdirSystem cfg) : List FdirOp → List (BoundedQueue.Call FdirEvent)
  | [] => []
  | op :: rest => queueCalls system op ++ queueRunCalls (fdirStep system op).system rest

theorem fdirRun_represents {system : FdirSystem cfg} {queue : BoundedQueue FdirEvent}
    (holds : Represents system.fdir.fifo queue) {ops : List FdirOp}
    (inRange : ∀ op ∈ ops, op.InRange) :
    Represents (fdirRun system ops).fdir.fifo
        (queue.run cfg.fdirEventFifoCapacity (queueRunCalls system ops)) ∧
      drainedEvents (fdirTrace system ops) =
        queue.runTaken cfg.fdirEventFifoCapacity (queueRunCalls system ops) ∧
      ∀ step ∈ fdirTrace system ops, ∀ drained, step.drained = some drained →
        EventReported drained := by
  induction ops generalizing system queue with
  | nil => exact ⟨holds, rfl, fun _ member => absurd member List.not_mem_nil⟩
  | cons op rest inductionHypothesis =>
      have opInRange := inRange op List.mem_cons_self
      have step := fdirStep_refines holds opInRange
      have later := inductionHypothesis step.represents fun other member =>
        inRange other (List.mem_cons_of_mem _ member)
      refine ⟨?_, ?_, ?_⟩
      · rw [queueRunCalls, BoundedQueue.run_append]
        exact later.1
      · rw [queueRunCalls, BoundedQueue.runTaken_append, ← step.taken, ← later.2.1]
        rfl
      · intro taken member drained isDrained
        rcases List.mem_cons.mp member with rfl | inRest
        · exact fdirStep_reported holds opInRange isDrained
        · exact later.2.2 taken inRest drained isDrained

/-- The events the calls of the queue offer are those the run offered. -/
theorem offered_queueRunCalls (system : FdirSystem cfg) (ops : List FdirOp) :
    BoundedQueue.offered (queueRunCalls system ops) =
      (fdirTrace system ops).flatMap fun step =>
        step.effects.attempts.map FdirAttempt.event := by
  induction ops generalizing system with
  | nil => rfl
  | cons op rest inductionHypothesis =>
      have step : BoundedQueue.offered (queueCalls system op) =
          (fdirStep system op).effects.attempts.map FdirAttempt.event := by
        cases op with
        | drain apid counters outCap =>
            rw [queueCalls]
            split <;> rfl
        | _ => exact BoundedQueue.offered_offers _
      rw [queueRunCalls, BoundedQueue.offered_append, step, inductionHypothesis, fdirTrace,
        List.flatMap_cons]

/-- A producer's event is offered before anything its report causes. -/
theorem fdirSinkReport_offers_first (system : FdirSystem cfg) (report : SinkReport) :
    ((fdirSinkReport system report).effects.attempts.map FdirAttempt.event).head? =
      some report.event := by
  rw [fdirSinkReport]
  cases fdirEventAnomaly report.eventId with
  | none => rfl
  | some anomaly => rfl

/-- A run of the context, as a run of the queue: `queue` is what it leaves there and
`accepted` what found room. -/
structure EventQueueRefines (system : FdirSystem cfg) (ops : List FdirOp)
    (queue : BoundedQueue FdirEvent) (accepted : List FdirEvent) : Prop where
  capacity : queue.items.length ≤ cfg.fdirEventFifoCapacity
  queued : eventFifoQueue (fdirRun system ops).fdir.fifo = queue.items
  dropped : (fdirRun system ops).fdir.fifo.dropped = UInt32.ofNat queue.dropped
  counted : queue.dropped + accepted.length =
    ((fdirTrace system ops).flatMap fun step =>
      step.effects.attempts.map FdirAttempt.event).length
  exactlyOnce : accepted = drainedEvents (fdirTrace system ops) ++ queue.items
  reported : ∀ step ∈ fdirTrace system ops, ∀ drained, step.drained = some drained →
    EventReported drained

/-- The calls whatever comes next: a report to a full queue, a drain with room and
one without. -/
structure EventQueueNext (system : FdirSystem cfg) : Prop where
  offered : ∀ report : SinkReport,
    ((fdirSinkReport system report).effects.attempts.map FdirAttempt.event).head? =
      some report.event
  full : ∀ report : SinkReport, report.event.Graded →
    (eventFifoQueue system.fdir.fifo).length = cfg.fdirEventFifoCapacity →
      eventFifoQueue (fdirSinkReport system report).system.fdir.fifo =
          eventFifoQueue system.fdir.fifo ∧
        (fdirSinkReport system report).system.fdir.fifo.dropped =
          system.fdir.fifo.dropped +
            UInt32.ofNat (fdirSinkReport system report).effects.attempts.length
  drains : ∀ apid counters outCap, ¬outCap < pus5TmMaxPacketSize →
    (fdirStep system (.drain apid counters outCap)).drained.map FdirDrained.event =
      (eventFifoQueue system.fdir.fifo).head?
  short : ∀ apid counters outCap, outCap < pus5TmMaxPacketSize →
    fdirDrain system.fdir apid counters outCap = (.error .errBufTooSmall, system.fdir, counters)

theorem eventQueueNext {system : FdirSystem cfg} {queue : BoundedQueue FdirEvent}
    (holds : Represents system.fdir.fifo queue) : EventQueueNext system := by
  constructor
  · exact fdirSinkReport_offers_first system
  · intro report graded full
    have offers := fdirReport_offers system (fdirEventAnomaly report.eventId) graded
    have notFree : ¬queue.Free cfg.fdirEventFifoCapacity := by
      rw [BoundedQueue.Free, ← holds.items, full]
      exact Nat.lt_irrefl _
    have after := offers.represents queue holds
    rw [BoundedQueue.foldl_offer_full notFree] at after
    constructor
    · exact after.items.trans holds.items.symm
    · rw [holds.dropped, ← UInt32.ofNat_add]
      rw [List.length_map] at after
      exact after.dropped
  · intro apid counters outCap room
    have popped := (eventFifoPop_represents holds).1
    rw [holds.items]
    exact (fdirDrain_event system.fdir apid counters room).trans popped
  · intro apid counters outCap short
    rw [fdirDrain, if_pos short]

/-- For any run of calls in range from an initialised context. -/
theorem fdirRun_refinesQueue (system : FdirSystem cfg) {ops : List FdirOp}
    (inRange : ∀ op ∈ ops, op.InRange) :
    let start := { system with fdir := fdirInit system.fdir }
    EventQueueRefines start ops
        (BoundedQueue.empty.run cfg.fdirEventFifoCapacity (queueRunCalls start ops))
        (BoundedQueue.empty.runAccepted cfg.fdirEventFifoCapacity (queueRunCalls start ops)) ∧
      EventQueueNext (fdirRun start ops) := by
  intro start
  have initially : Represents start.fdir.fifo .empty := eventFifoInit_represents system.fdir.fifo
  obtain ⟨represents, taken, reported⟩ := fdirRun_represents initially inRange
  refine ⟨?_, eventQueueNext represents⟩
  constructor
  · exact BoundedQueue.run_bounded (Nat.zero_le _) _
  · exact represents.items
  · exact represents.dropped
  · have counted := BoundedQueue.run_counted cfg.fdirEventFifoCapacity .empty
      (queueRunCalls start ops)
    rw [offered_queueRunCalls] at counted
    rw [counted]
    exact Nat.zero_add _
  · rw [taken]
    exact BoundedQueue.run_conserved cfg.fdirEventFifoCapacity .empty (queueRunCalls start ops)
  · exact reported

/-- Of two events a ring of one slot keeps and drains the first. -/
theorem fdirRun_refinesQueue_single :
    let config : Config := { fdirEventFifoCapacity := 1 }
    let start : FdirSystem config :=
      { fdir := fdirZero config, mode := ⟨[], 0, false, 0⟩, modeSinkIsFdir := false }
    let counters : PusCounters := ⟨7, #v[0, 0, 0, 0], #v[0, 0, 0, 0], 0, 0, 0, 0, 0⟩
    let ops : List FdirOp := [.sinkReport ⟨10, 2, 0x0101, [1, 2, 3]⟩,
      .sinkReport ⟨11, 0, 0x0102, []⟩, .drain 5 counters 51, .drain 5 counters 52]
    EventQueueNext (fdirRun { start with fdir := fdirInit start.fdir } ops) ∧
      drainedEvents (fdirTrace { start with fdir := fdirInit start.fdir } ops) =
        [⟨0x0101, 2, [1, 2, 3], 10⟩] := by
  intro config start counters ops
  have inRange : ∀ op ∈ ops, op.InRange := by
    intro op member
    simp only [ops, List.mem_cons, List.not_mem_nil, or_false] at member
    rcases member with rfl | rfl | rfl | rfl
    · exact ⟨by decide, by decide⟩
    · exact ⟨by decide, by decide⟩
    · exact ⟨by decide, by decide⟩
    · exact ⟨by decide, by decide⟩
  exact ⟨(fdirRun_refinesQueue start inRange).2, by decide +kernel⟩

end FswCore
