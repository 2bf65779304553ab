import FswCore.Fdir.Model
import FswCore.Library.LabelledBlocks

/-!
Contract: the order of the events the FIFO accepts, over any run of calls and
from any fill level.

Owns:
- `CausalOrder`: a mode change a recovery raised stands right behind the event of
  that recovery, and that one behind the anomaly event that confirmed it;
- the events drained are the events accepted, in order;
- the report a drain builds of an event.

A recovery offers its event and the mode change one after the other, with no
drain between them. A ring too full for the first is too full for the second.
-/

namespace FswCore

open Library Library.BigEndian

variable {cfg : Config}

/-! ### Accepted events -/

/-- What the FIFO accepted of a call's events. -/
def FdirEffects.accepted (effects : FdirEffects) : List FdirAttempt :=
  effects.attempts.filter fun attempt => attempt.status = .ok

theorem FdirEffects.accepted_andThen (first second : FdirEffects) :
    (first.andThen second).accepted = first.accepted ++ second.accepted := by
  rw [accepted, accepted, accepted, andThen, List.filter_append]

/-- No slot is free. -/
def EventFifo.Full (fifo : EventFifo cfg) : Prop := cfg.fdirEventFifoCapacity ≤ fifo.count

theorem eventFifoPush_full {fifo : EventFifo cfg} (full : fifo.Full) (event : FdirEvent) :
    (eventFifoPush fifo event).1 ≠ .ok := by
  intro accepted
  have free := ((eventFifoPush_spec fifo event).1.mp accepted).2
  exact absurd full (Nat.not_le_of_lt free)

/-- An event that fits and is refused finds the ring full, and leaves it so. -/
theorem eventFifoPush_refused {fifo : EventFifo cfg} {event : FdirEvent}
    (fits : event.aux.length ≤ fdirEventAuxMax) (refused : (eventFifoPush fifo event).1 ≠ .ok) :
    (eventFifoPush fifo event).2.Full := by
  have full : fifo.count ≥ cfg.fdirEventFifoCapacity := by
    by_contra free
    exact refused ((eventFifoPush_spec fifo event).1.mpr ⟨fits, Nat.lt_of_not_le free⟩)
  rw [eventFifoPush, if_neg (Nat.not_lt_of_le fits), if_pos full]
  exact full

/-- What one offer leaves in the queue, and what it counts as accepted. -/
theorem fdirOffer_spec (system : FdirSystem cfg) (origin : FdirOrigin) (report : SinkReport) :
    (fdirOffer system origin report).effects.accepted =
        (if (fdirOffer system origin report).status = .ok then
          [{ origin := origin, event := report.event, status := .ok }] else []) ∧
      eventFifoQueue (fdirOffer system origin report).system.fdir.fifo =
        eventFifoQueue system.fdir.fifo ++
          (fdirOffer system origin report).effects.accepted.map FdirAttempt.event := by
  have pushed := eventFifoPush_spec system.fdir.fifo report.event
  simp only [fdirOffer, fdirEnqueue, FdirEffects.accepted]
  split
  · simp
  · cases result : (eventFifoPush system.fdir.fifo report.event).1 with
    | ok => simp [pushed.2, result]
    | errFull => simp [pushed.2, result]
    | errBadArg => simp [pushed.2, result]

theorem fdirOffer_refused {system : FdirSystem cfg} {origin : FdirOrigin} {report : SinkReport}
    (fits : report.aux.length ≤ fdirEventAuxMax)
    (refused : (fdirOffer system origin report).status ≠ .ok) :
    (fdirOffer system origin report).system.fdir.fifo.Full := by
  simp only [fdirOffer, fdirEnqueue, if_neg (Nat.not_lt_of_le fits)] at refused ⊢
  exact eventFifoPush_refused fits refused

theorem fdirOffer_full (system : FdirSystem cfg) (full : system.fdir.fifo.Full)
    (origin : FdirOrigin) (report : SinkReport) :
    (fdirOffer system origin report).status ≠ .ok := by
  simp only [fdirOffer, fdirEnqueue]
  split
  · simp
  · exact eventFifoPush_full full report.event

/-! ### The queue -/

/-- The queue is what it was, with the accepted events behind it. -/
def Queues (before after : FdirSystem cfg) (effects : FdirEffects) : Prop :=
  eventFifoQueue after.fdir.fifo =
    eventFifoQueue before.fdir.fifo ++ effects.accepted.map FdirAttempt.event

theorem Queues.trans {first second third : FdirSystem cfg} {left right : FdirEffects}
    (front : Queues first second left) (back : Queues second third right) :
    Queues first third (left.andThen right) := by
  rw [Queues] at front back ⊢
  rw [back, front, FdirEffects.accepted_andThen, List.map_append, List.append_assoc]

theorem fdirAnnounce_queues (system : FdirSystem cfg) (origin : FdirOrigin)
    (changed : ModeChanged) :
    Queues system (fdirAnnounce system origin changed).system
      (fdirAnnounce system origin changed).effects := by
  rw [fdirAnnounce]
  split
  · exact (fdirOffer_spec system origin changed.report).2
  · simp [Queues, FdirEffects.accepted]

theorem fdirModeRequest_queues (system : FdirSystem cfg) (origin : FdirOrigin)
    (target : UInt8) (nowSeconds : UInt32) :
    Queues system (fdirModeRequest system origin target nowSeconds).2.1
      (fdirModeRequest system origin target nowSeconds).2.2 := by
  simp only [fdirModeRequest]
  split
  · simp [Queues, FdirEffects.accepted]
  · exact fdirAnnounce_queues _ origin _

theorem fdirRecover_queues (system : FdirSystem cfg) (anomaly : FdirAnomaly)
    (nowSeconds : UInt32) :
    Queues system (fdirRecover system anomaly nowSeconds).1
      (fdirRecover system anomaly nowSeconds).2 :=
  Queues.trans (fdirOffer_spec system .recovery _).2 (fdirModeRequest_queues _ _ _ _)

theorem fdirObserve_queues (system : FdirSystem cfg) (anomaly : FdirAnomaly)
    (nowSeconds : UInt32) :
    Queues system (fdirObserve system anomaly nowSeconds).1
      (fdirObserve system anomaly nowSeconds).2 := by
  have counted := fdirCount_fifo system.fdir anomaly
  simp only [fdirObserve]
  split
  · simp [Queues, FdirEffects.accepted, counted]
  split
  · simp [Queues, FdirEffects.accepted, fdirLatch, counted]
  · have recovered := fdirRecover_queues
      { system with fdir := fdirLatch (fdirCount system.fdir anomaly) anomaly } anomaly nowSeconds
    simp only [Queues, fdirLatch, counted] at recovered ⊢
    exact recovered

theorem fdirReport_queues (system : FdirSystem cfg) (anomaly : Option FdirAnomaly)
    (report : SinkReport) :
    Queues system (fdirReport system anomaly report).system
      (fdirReport system anomaly report).effects := by
  have offered := (fdirOffer_spec system .reported report).2
  cases anomaly with
  | none => exact offered
  | some anomaly =>
      exact Queues.trans offered (fdirObserve_queues _ anomaly report.nowSeconds)

/-- The events a run drained. -/
def drainedEvents (trace : List (FdirStep cfg)) : List FdirEvent :=
  trace.flatMap fun step => (step.drained.map FdirDrained.event).toList

/-- A call appends what is accepted, or takes what it drains. -/
theorem fdirStep_queue (system : FdirSystem cfg) (op : FdirOp) :
    eventFifoQueue system.fdir.fifo ++
        (fdirStep system op).effects.accepted.map FdirAttempt.event =
      ((fdirStep system op).drained.map FdirDrained.event).toList ++
        eventFifoQueue (fdirStep system op).system.fdir.fifo := by
  cases op with
  | reportAnomaly code nowSeconds detail =>
      simp only [fdirStep, fdirReportAnomaly]
      cases fdirAnomalyOfCode code with
      | none => simp [FdirEffects.accepted]
      | some anomaly =>
          simp only [Option.toList_none, Option.map_none, List.nil_append]
          exact (fdirReport_queues system (some anomaly)
            (fdirAnomalyReport anomaly nowSeconds detail)).symm
  | sinkReport report => exact (fdirReport_queues system _ report).symm
  | setEnabled enabled => simp [fdirStep, FdirEffects.accepted, fdirSetEnabled]
  | armRecovery modeAttached safeMode confirms =>
      simp only [fdirStep, fdirArmRecovery]
      split <;> simp [FdirEffects.accepted]
  | drain apid counters outCap =>
      have popped := eventFifoPop_spec system.fdir.fifo
      simp only [fdirStep, fdirDrain]
      split
      · simp [FdirEffects.accepted, Except.toOption]
      split
      · simp [FdirEffects.accepted, Except.toOption]
      · rename_i event fifo result
        rw [result] at popped
        simp only [FdirEffects.accepted, List.filter_nil, List.map_nil, List.append_nil]
        exact popped
  | modeRequest target nowSeconds =>
      exact (fdirModeRequest_queues system .otherModeChange target nowSeconds).symm
  | modeRestore image => simp [fdirStep, FdirEffects.accepted]

/-! ### The order within a call -/

/-- The announcement of a recovery from this anomaly. -/
structure IsRecovery (anomaly : FdirAnomaly) (attempt : FdirAttempt) : Prop where
  origin : attempt.origin = .recovery
  eventId : attempt.event.eventId = pus5EvtFdirRecovery
  severity : attempt.event.severity = pus5SevHigh
  names : attempt.event.aux.head? = some anomaly.code

/-- The announcement of a mode change of this origin. -/
structure IsModeChange (origin : FdirOrigin) (attempt : FdirAttempt) : Prop where
  origin : attempt.origin = origin
  eventId : attempt.event.eventId = pus5EvtModeChanged
  severity : attempt.event.severity = pus5SevInfo

/-- A recovery as the FIFO accepts it: nothing, its event, or its event and the
mode change right behind. -/
inductive RecoveryBlock (anomaly : FdirAnomaly) : List FdirAttempt → Prop where
  | nothing : RecoveryBlock anomaly []
  | cause {event : FdirAttempt} (recovery : IsRecovery anomaly event) :
      RecoveryBlock anomaly [event]
  | causeAndEffect {event change : FdirAttempt} (recovery : IsRecovery anomaly event)
      (effect : IsModeChange .recoveryModeChange change) : RecoveryBlock anomaly [event, change]

/-- A request has at most its mode change accepted, and nothing by a full ring. -/
theorem fdirModeRequest_accepted (system : FdirSystem cfg) (origin : FdirOrigin)
    (target : UInt8) (nowSeconds : UInt32) :
    (fdirModeRequest system origin target nowSeconds).2.2.accepted = [] ∨
      ¬ system.fdir.fifo.Full ∧
        ∃ attempt, (fdirModeRequest system origin target nowSeconds).2.2.accepted = [attempt] ∧
          IsModeChange origin attempt := by
  simp only [fdirModeRequest]
  split
  · exact .inl rfl
  rename_i changed result
  simp only [fdirAnnounce]
  split
  · have offered := (fdirOffer_spec
      { system with mode := (modeRequest system.mode target nowSeconds).2.1 } origin
      changed.report).1
    have sameAccepted (effects : FdirEffects) (log : List ModeChanged) :
        { effects with announced := log }.accepted = effects.accepted := rfl
    rw [sameAccepted, offered]
    split
    · rename_i accepted
      refine .inr ⟨fun full => ?_, _, rfl, rfl, rfl, rfl⟩
      exact fdirOffer_full
        { system with mode := (modeRequest system.mode target nowSeconds).2.1 } full origin
        changed.report accepted
    · exact .inl rfl
  · exact .inl rfl

theorem fdirRecover_block (system : FdirSystem cfg) (anomaly : FdirAnomaly)
    (nowSeconds : UInt32) :
    RecoveryBlock anomaly (fdirRecover system anomaly nowSeconds).2.accepted := by
  have parts : (fdirRecover system anomaly nowSeconds).2.accepted =
      (fdirOffer system .recovery
        (fdirRecoveryReport system.fdir anomaly nowSeconds)).effects.accepted ++
      (fdirModeRequest (fdirOffer system .recovery
        (fdirRecoveryReport system.fdir anomaly nowSeconds)).system .recoveryModeChange
        system.fdir.safeMode nowSeconds).2.2.accepted :=
    FdirEffects.accepted_andThen _ _
  have offered := (fdirOffer_spec system .recovery
    (fdirRecoveryReport system.fdir anomaly nowSeconds)).1
  have change := fdirModeRequest_accepted
    (fdirOffer system .recovery (fdirRecoveryReport system.fdir anomaly nowSeconds)).system
    .recoveryModeChange system.fdir.safeMode nowSeconds
  rw [parts]
  split at offered
  · rw [offered]
    rcases change with none | ⟨_, attempt, accepted, effect⟩
    · rw [none]
      exact .cause ⟨rfl, rfl, rfl, rfl⟩
    · rw [accepted]
      exact .causeAndEffect ⟨rfl, rfl, rfl, rfl⟩ effect
  · rename_i refused
    -- the ring is full, so the mode change is refused as well
    have full := fdirOffer_refused
      (show (fdirRecoveryReport system.fdir anomaly nowSeconds).aux.length ≤ fdirEventAuxMax by
        simp [fdirRecoveryReport, fdirEventAuxMax]) refused
    rcases change with none | ⟨free, _⟩
    · rw [offered, none]
      exact .nothing
    · exact absurd full free

theorem fdirObserve_block (system : FdirSystem cfg) (anomaly : FdirAnomaly)
    (nowSeconds : UInt32) :
    RecoveryBlock anomaly (fdirObserve system anomaly nowSeconds).2.accepted := by
  simp only [fdirObserve]
  split
  · exact .nothing
  split
  · exact .nothing
  · exact fdirRecover_block _ anomaly nowSeconds

/-- What the FIFO accepts of one call: a producer's event or a requested mode
change, then a recovery from the anomaly that the event stands for. -/
structure CallBlock (accepted front back : List FdirAttempt) (anomaly : Option FdirAnomaly) :
    Prop where
  parts : accepted = front ++ back
  front : ∀ attempt ∈ front,
    attempt.origin = .reported ∧ fdirEventAnomaly attempt.event.eventId = anomaly ∨
      IsModeChange .otherModeChange attempt
  back : back = [] ∨ ∃ confirmed, anomaly = some confirmed ∧ RecoveryBlock confirmed back

theorem fdirReport_block (system : FdirSystem cfg) {anomaly : Option FdirAnomaly}
    {report : SinkReport} (standsFor : fdirEventAnomaly report.eventId = anomaly) :
    ∃ front back,
      CallBlock (fdirReport system anomaly report).effects.accepted front back anomaly := by
  have front : ∀ attempt ∈ (fdirOffer system .reported report).effects.accepted,
      attempt.origin = .reported ∧ fdirEventAnomaly attempt.event.eventId = anomaly ∨
        IsModeChange .otherModeChange attempt := by
    intro attempt member
    rw [(fdirOffer_spec system .reported report).1] at member
    split at member
    · rw [List.mem_singleton] at member
      rw [member]
      exact .inl ⟨rfl, standsFor⟩
    · contradiction
  cases anomaly with
  | none => exact ⟨_, [], (List.append_nil _).symm, front, .inl rfl⟩
  | some confirmed =>
      exact ⟨_, _, FdirEffects.accepted_andThen _ _, front,
        .inr ⟨confirmed, rfl, fdirObserve_block _ confirmed _⟩⟩

theorem fdirStep_block (system : FdirSystem cfg) (op : FdirOp) :
    ∃ front back anomaly, CallBlock (fdirStep system op).effects.accepted front back anomaly := by
  have silent : ∃ front back anomaly, CallBlock (FdirEffects.accepted {}) front back anomaly :=
    ⟨[], [], none, rfl, fun _ member => by simp at member, .inl rfl⟩
  cases op with
  | reportAnomaly code nowSeconds detail =>
      simp only [fdirStep, fdirReportAnomaly]
      cases fdirAnomalyOfCode code with
      | none => exact silent
      | some anomaly =>
          obtain ⟨front, back, block⟩ := fdirReport_block system
            (fdirEventAnomaly_report anomaly nowSeconds detail)
          exact ⟨front, back, _, block⟩
  | sinkReport report =>
      obtain ⟨front, back, block⟩ := fdirReport_block system
        (show fdirEventAnomaly report.eventId = _ from rfl)
      exact ⟨front, back, _, block⟩
  | modeRequest target nowSeconds =>
      refine ⟨_, [], none, (List.append_nil _).symm, fun attempt member => ?_, .inl rfl⟩
      rcases fdirModeRequest_accepted system .otherModeChange target nowSeconds with
        none | ⟨_, only, accepted, change⟩
      · simp only [fdirStep, none] at member
        contradiction
      · simp only [fdirStep, accepted, List.mem_singleton] at member
        rw [member]
        exact .inr change
  | setEnabled _ => exact silent
  | armRecovery _ _ _ => exact silent
  | drain _ _ _ => exact silent
  | modeRestore _ => exact silent

/-- Positions within one call: the effect is right behind its cause, and the cause
behind the event that confirmed the anomaly. -/
structure CausalBlock (accepted : List FdirAttempt) : Prop where
  effect : ∀ (offset : Nat) (change : FdirAttempt), accepted[offset]? = some change →
    change.origin = .recoveryModeChange →
      IsModeChange .recoveryModeChange change ∧
        ∃ before cause anomaly, offset = before + 1 ∧ accepted[before]? = some cause ∧
          IsRecovery anomaly cause
  cause : ∀ (offset : Nat) (recovery : FdirAttempt), accepted[offset]? = some recovery →
    recovery.origin = .recovery →
      ∃ anomaly, IsRecovery anomaly recovery ∧
        ∀ (other : Nat) (confirming : FdirAttempt), accepted[other]? = some confirming →
          confirming.origin = .reported →
            other < offset ∧ fdirEventAnomaly confirming.event.eventId = some anomaly

namespace CallBlock

variable {accepted front back : List FdirAttempt} {anomaly : Option FdirAnomaly}
  (block : CallBlock accepted front back anomaly)

include block

/-- A position is one of the front, or one of the back behind it. -/
theorem split {offset : Nat} {attempt : FdirAttempt} (held : accepted[offset]? = some attempt) :
    attempt ∈ front ∧ offset < front.length ∨
      front.length ≤ offset ∧ back[offset - front.length]? = some attempt := by
  rw [block.parts, List.getElem?_append] at held
  split at held
  · rename_i below
    exact .inl ⟨List.mem_of_getElem? held, below⟩
  · rename_i beyond
    exact .inr ⟨Nat.le_of_not_lt beyond, held⟩

theorem place (offset : Nat) : accepted[front.length + offset]? = back[offset]? := by
  rw [block.parts, List.getElem?_append_right (Nat.le_add_right _ _), Nat.add_sub_cancel_left]

/-- The front holds nothing of a recovery. -/
theorem front_origin {attempt : FdirAttempt} (member : attempt ∈ front) :
    attempt.origin ≠ .recovery ∧ attempt.origin ≠ .recoveryModeChange := by
  rcases block.front attempt member with ⟨reported, _⟩ | change
  · rw [reported]
    decide
  · rw [change.origin]
    decide

/-- The back holds nothing but the recovery. -/
theorem back_named {attempt : FdirAttempt} (member : attempt ∈ back) :
    ∃ confirmed, anomaly = some confirmed ∧
      (IsRecovery confirmed attempt ∨ IsModeChange .recoveryModeChange attempt) := by
  rcases block.back with none | ⟨confirmed, standsFor, recovered⟩
  · simp [none] at member
  refine ⟨confirmed, standsFor, ?_⟩
  cases recovered with
  | nothing => simp at member
  | cause recovery =>
      rw [List.mem_singleton.mp member]
      exact .inl recovery
  | causeAndEffect recovery effect =>
      rcases List.mem_cons.mp member with rfl | second
      · exact .inl recovery
      · rw [List.mem_singleton.mp second]
        exact .inr effect

/-- What was reported stands in the front, for the anomaly of the call. -/
theorem reported {offset : Nat} {attempt : FdirAttempt} (held : accepted[offset]? = some attempt)
    (origin : attempt.origin = .reported) :
    offset < front.length ∧ fdirEventAnomaly attempt.event.eventId = anomaly := by
  rcases block.split held with ⟨member, below⟩ | ⟨_, behind⟩
  · rcases block.front attempt member with ⟨_, event⟩ | request
    · exact ⟨below, event⟩
    · rw [request.origin] at origin
      contradiction
  · obtain ⟨_, _, recovery | change⟩ := block.back_named (List.mem_of_getElem? behind)
    · rw [recovery.origin] at origin
      contradiction
    · rw [change.origin] at origin
      contradiction

/-- The mode change of a recovery is the second attempt of the back. -/
theorem effect {offset : Nat} {change : FdirAttempt} (held : accepted[offset]? = some change)
    (origin : change.origin = .recoveryModeChange) :
    IsModeChange .recoveryModeChange change ∧
      ∃ before cause confirmed, offset = before + 1 ∧ accepted[before]? = some cause ∧
        IsRecovery confirmed cause := by
  rcases block.split held with ⟨member, _⟩ | ⟨beyond, stored⟩
  · exact absurd origin (block.front_origin member).2
  rcases block.back with none | ⟨confirmed, _, recovered⟩
  · simp [none] at stored
  cases recovered with
  | nothing => simp at stored
  | cause recovery =>
      have only := List.mem_singleton.mp (List.mem_of_getElem? stored)
      rw [only, recovery.origin] at origin
      contradiction
  | @causeAndEffect event effect recovery isEffect =>
      match position : offset - front.length with
      | 0 =>
          rw [position] at stored
          obtain rfl := Option.some.inj stored
          rw [recovery.origin] at origin
          contradiction
      | 1 =>
          rw [position] at stored
          obtain rfl := Option.some.inj stored
          exact ⟨isEffect, front.length, event, confirmed, by omega, block.place 0, recovery⟩
      | _ + 2 => simp [position] at stored

theorem causal : CausalBlock accepted := by
  constructor
  · intro offset change held origin
    exact block.effect held origin
  · intro offset recovery held origin
    rcases block.split held with ⟨member, _⟩ | ⟨beyond, stored⟩
    · exact absurd origin (block.front_origin member).1
    obtain ⟨confirmed, standsFor, isRecovery | change⟩ :=
      block.back_named (List.mem_of_getElem? stored)
    · refine ⟨confirmed, isRecovery, fun other confirming reportedAt reported => ?_⟩
      obtain ⟨below, event⟩ := block.reported reportedAt reported
      exact ⟨Nat.lt_of_lt_of_le below beyond, event.trans standsFor⟩
    · rw [change.origin] at origin
      contradiction

end CallBlock

/-! ### The order over a run -/

/-- The accepted events of a run, each with the number of its call. -/
def fdirEntries (trace : List (FdirStep cfg)) : List (Nat × FdirAttempt) :=
  labelFrom 0 (trace.map fun step => step.effects.accepted)

/-- A mode change that a recovery raised stands right behind the event of that
recovery, and this one behind the anomaly event that confirmed it, if that was
accepted. -/
structure CausalOrder (entries : List (Nat × FdirAttempt)) : Prop where
  effect : ∀ (index call : Nat) (change : FdirAttempt), entries[index]? = some (call, change) →
    change.origin = .recoveryModeChange →
      IsModeChange .recoveryModeChange change ∧
        ∃ before cause anomaly, index = before + 1 ∧ entries[before]? = some (call, cause) ∧
          IsRecovery anomaly cause
  cause : ∀ (index call : Nat) (recovery : FdirAttempt),
    entries[index]? = some (call, recovery) → recovery.origin = .recovery →
      ∃ anomaly, IsRecovery anomaly recovery ∧
        ∀ (other : Nat) (confirming : FdirAttempt), entries[other]? = some (call, confirming) →
          confirming.origin = .reported →
            other < index ∧ fdirEventAnomaly confirming.event.eventId = some anomaly

theorem causalOrder_of_blocks {blocks : List (List FdirAttempt)}
    (causal : ∀ block ∈ blocks, CausalBlock block) : CausalOrder (labelFrom 0 blocks) := by
  constructor
  · intro index call change stored origin
    obtain ⟨block, member, start, placed⟩ := blockAt_of_getElem? stored
    obtain ⟨offset, rfl, held⟩ := placed.only index change stored
    obtain ⟨isChange, before, cause, anomaly, rfl, causeHeld, recovery⟩ :=
      (causal block member).effect offset change held origin
    exact ⟨isChange, start + before, cause, anomaly, rfl, placed.inside before cause causeHeld,
      recovery⟩
  · intro index call recovery stored origin
    obtain ⟨block, member, start, placed⟩ := blockAt_of_getElem? stored
    obtain ⟨offset, rfl, held⟩ := placed.only index recovery stored
    obtain ⟨anomaly, isRecovery, earlier⟩ :=
      (causal block member).cause offset recovery held origin
    refine ⟨anomaly, isRecovery, fun other confirming reportedAt reported => ?_⟩
    obtain ⟨place, rfl, confirmingHeld⟩ := placed.only other confirming reportedAt
    obtain ⟨below, standsFor⟩ := earlier place confirming confirmingHeld reported
    exact ⟨Nat.add_lt_add_left below start, standsFor⟩

theorem fdirTrace_causal (system : FdirSystem cfg) (ops : List FdirOp) :
    ∀ step ∈ fdirTrace system ops, CausalBlock step.effects.accepted := by
  induction ops generalizing system with
  | nil => simp [fdirTrace]
  | cons op rest inductionHypothesis =>
      intro step member
      rw [fdirTrace, List.mem_cons] at member
      rcases member with rfl | later
      · obtain ⟨front, back, anomaly, block⟩ := fdirStep_block system op
        exact block.causal
      · exact inductionHypothesis _ step later

/-- What was queued and what a run accepts is what it drains and what it leaves
queued, in order. -/
theorem fdirRun_queue (system : FdirSystem cfg) (ops : List FdirOp) :
    eventFifoQueue system.fdir.fifo ++
        (fdirEntries (fdirTrace system ops)).map (fun entry => entry.2.event) =
      drainedEvents (fdirTrace system ops) ++
        eventFifoQueue (fdirRun system ops).fdir.fifo := by
  have events (trace : List (FdirStep cfg)) :
      (fdirEntries trace).map (fun entry => entry.2.event) =
        trace.flatMap fun step => step.effects.accepted.map FdirAttempt.event := by
    have unlabelled := congrArg (List.map FdirAttempt.event)
      (labelFrom_map_snd 0 (trace.map fun step => step.effects.accepted))
    rw [List.map_map] at unlabelled
    rw [fdirEntries]
    apply unlabelled.trans
    rw [List.map_flatten, List.map_map]
    rfl
  rw [events]
  induction ops generalizing system with
  | nil => simp [fdirTrace, fdirRun, drainedEvents]
  | cons op rest inductionHypothesis =>
      have step := fdirStep_queue system op
      have later := inductionHypothesis (fdirStep system op).system
      rw [fdirTrace, List.flatMap_cons, ← List.append_assoc, step, List.append_assoc, later,
        drainedEvents, drainedEvents, List.flatMap_cons, List.append_assoc]
      rfl

/-- The report of a drained event is the one the encoder builds of it, in a buffer
large enough for any. -/
theorem fdirStep_drained {system : FdirSystem cfg} {op : FdirOp} {drained : FdirDrained}
    (taken : (fdirStep system op).drained = some drained) :
    pus5TmMaxPacketSize ≤ drained.request.outCap ∧
      drained.report = (pus5BuildEventReport drained.request drained.counters
        drained.event.severity drained.event.eventId drained.event.aux).1 := by
  cases op with
  | drain apid counters outCap =>
      simp only [fdirStep, fdirDrain] at taken
      split at taken
      · simp [Except.toOption] at taken
      rename_i room
      split at taken
      · simp [Except.toOption] at taken
      · have result := Option.some.inj taken
        rw [← result]
        exact ⟨Nat.le_of_not_lt room, rfl⟩
  | _ => simp [fdirStep] at taken

/-- An event of a known severity, drained by an addressable process, is reported
as it was queued. -/
theorem fdirStep_reports {system : FdirSystem cfg} {op : FdirOp} {drained : FdirDrained}
    (taken : (fdirStep system op).drained = some drained)
    (apid : drained.request.apid ≤ 0x7FF) (seqCount : drained.counters.tmSeqCount ≤ 0x3FFF)
    (severity : drained.event.severity ≤ pus5SevHigh)
    (auxFits : drained.event.aux.length ≤ fdirEventAuxMax) :
    ∃ packet, drained.report = .ok packet ∧
      ReadsAs packet (pus5Packet drained.request drained.counters drained.event.severity
        drained.event.eventId drained.event.aux) := by
  obtain ⟨room, report⟩ := fdirStep_drained taken
  obtain ⟨packet, built, reads⟩ := pus5BuildEventReport_ok drained.event.eventId severity
    (Nat.le_trans auxFits (by decide)) apid seqCount room
  exact ⟨packet, by rw [report, built], reads⟩

/-- In every run of reports, requests and drains, from any fill level: the events
the FIFO accepts are in causal order; the events drained are the first of them,
behind those queued before; and a drained event of a known severity goes out as
the report of that event. -/
theorem fdirRun_causal (system : FdirSystem cfg) (ops : List FdirOp) :
    CausalOrder (fdirEntries (fdirTrace system ops)) ∧
      eventFifoQueue system.fdir.fifo ++
          (fdirEntries (fdirTrace system ops)).map (fun entry => entry.2.event) =
        drainedEvents (fdirTrace system ops) ++
          eventFifoQueue (fdirRun system ops).fdir.fifo ∧
      ∀ step ∈ fdirTrace system ops, ∀ drained, step.drained = some drained →
        drained.request.apid ≤ 0x7FF → drained.counters.tmSeqCount ≤ 0x3FFF →
          drained.event.severity ≤ pus5SevHigh → drained.event.aux.length ≤ fdirEventAuxMax →
            ∃ packet, drained.report = .ok packet ∧
              ReadsAs packet (pus5Packet drained.request drained.counters
                drained.event.severity drained.event.eventId drained.event.aux) := by
  refine ⟨?_, fdirRun_queue system ops, ?_⟩
  · apply causalOrder_of_blocks
    intro block member
    obtain ⟨step, stepMember, rfl⟩ := List.mem_map.mp member
    exact fdirTrace_causal system ops step stepMember
  · induction ops generalizing system with
    | nil => simp [fdirTrace]
    | cons op rest inductionHypothesis =>
        intro step member drained taken apid seqCount severity auxFits
        rw [fdirTrace, List.mem_cons] at member
        rcases member with rfl | later
        · exact fdirStep_reports taken apid seqCount severity auxFits
        · exact inductionHypothesis _ step later drained taken apid seqCount severity auxFits

end FswCore
