import FswCore.Fdir.EventFifo
import FswCore.Mode.Model
import FswCore.Pus.EventReport
import Mathlib.Logic.Function.Basic

/-!
Contract: `lib/fdir/src/fdir.c`, function by function.

The arrays indexed by the anomaly are functions of it. The mode manager that the
context points to, or would point to, is kept next to the context; of the
pointer itself the context keeps whether it is set. The manager announces its
changes to the sink it was initialised with, which is this context's own sink or
another one.

A call returns next to the state what it did: the events it offered to the FIFO
and what became of them, the mode requests of its recoveries and the
announcements the manager made. The NULL checks have no counterpart.
-/

namespace FswCore

open Library Library.BigEndian

/-- `migris_fdir_anomaly_t`. -/
inductive FdirAnomaly where
  | tcRejected
  | rxOverflow
deriving DecidableEq, Repr

/-- The enumerator of an anomaly. -/
def FdirAnomaly.code : FdirAnomaly → UInt8
  | .tcRejected => 0
  | .rxOverflow => 1

/-- The range check and the cast of an enumerator. -/
def fdirAnomalyOfCode (code : UInt32) : Option FdirAnomaly :=
  match code with
  | 0 => some .tcRejected
  | 1 => some .rxOverflow
  | _ => none

structure FdirConfirmDef where
  anomaly : UInt32
  threshold : UInt16
deriving DecidableEq, Repr

structure FdirCtx (cfg : Config) where
  fifo : EventFifo cfg
  occurrences : FdirAnomaly → UInt16
  thresholds : FdirAnomaly → UInt16
  confirmed : FdirAnomaly → Bool
  modeAttached : Bool
  safeMode : UInt8
  recoveryEnabled : Bool

/-- A context, the mode manager, and whether the manager's sink is the context's
own. -/
structure FdirSystem (cfg : Config) where
  fdir : FdirCtx cfg
  mode : ModeManager
  modeSinkIsFdir : Bool

variable {cfg : Config}

/-- A context as zero-initialised memory holds it. -/
def fdirZero (cfg : Config) : FdirCtx cfg where
  fifo :=
    { slots := Vector.replicate cfg.fdirEventFifoCapacity
        { eventId := 0, severity := 0, aux := [], tSeconds := 0 }
      head := ⟨0, cfg.fdirEventFifoCapacity_pos⟩
      count := 0
      dropped := 0 }
  occurrences := fun _ => 0
  thresholds := fun _ => 0
  confirmed := fun _ => false
  modeAttached := false
  safeMode := 0
  recoveryEnabled := false

/-! ### What a call does -/

/-- Why an event is offered: a producer reports it, a recovery is announced, or a
mode change is, which a recovery or another request caused. -/
inductive FdirOrigin where
  | reported
  | recovery
  | recoveryModeChange
  | otherModeChange
deriving DecidableEq, Repr

structure FdirAttempt where
  origin : FdirOrigin
  event : FdirEvent
  status : EventFifoStatus
deriving DecidableEq, Repr

structure FdirEffects where
  attempts : List FdirAttempt := []
  requests : List UInt8 := []
  announced : List ModeChanged := []
deriving DecidableEq

/-- One thing after the other. -/
def FdirEffects.andThen (first second : FdirEffects) : FdirEffects where
  attempts := first.attempts ++ second.attempts
  requests := first.requests ++ second.requests
  announced := first.announced ++ second.announced

structure FdirReply (cfg : Config) where
  status : EventFifoStatus
  system : FdirSystem cfg
  effects : FdirEffects

/-! ### Events -/

/-- The record an event is queued as. -/
def SinkReport.event (report : SinkReport) : FdirEvent :=
  { eventId := report.eventId
    severity := report.severity
    aux := report.aux
    tSeconds := report.nowSeconds }

def fdirEnqueue (ctx : FdirCtx cfg) (report : SinkReport) : EventFifoStatus × FdirCtx cfg :=
  if report.aux.length > fdirEventAuxMax then (.errBadArg, ctx)
  else
    let (status, fifo) := eventFifoPush ctx.fifo report.event
    (status, { ctx with fifo := fifo })

/-- An enqueue, with its trace. -/
def fdirOffer (system : FdirSystem cfg) (origin : FdirOrigin) (report : SinkReport) :
    FdirReply cfg :=
  let (status, ctx) := fdirEnqueue system.fdir report
  { status := status
    system := { system with fdir := ctx }
    effects := { attempts := [{ origin := origin, event := report.event, status := status }] } }

/-- The anomaly an event stands for, if it is one that confirms. -/
def fdirEventAnomaly (eventId : UInt16) : Option FdirAnomaly :=
  if eventId = pus5EvtTcRejected then some .tcRejected
  else if eventId = pus5EvtRxOverflow then some .rxOverflow
  else none

/-- The manager's call of its sink. A mode change is no anomaly, so the context's
own sink queues it and goes no further (`fdirAnnounce_sinkReport`). -/
def fdirAnnounce (system : FdirSystem cfg) (origin : FdirOrigin) (changed : ModeChanged) :
    FdirReply cfg :=
  if system.modeSinkIsFdir then
    let offered := fdirOffer system origin changed.report
    { offered with effects := { offered.effects with announced := [changed] } }
  else { status := .ok, system := system, effects := { announced := [changed] } }

/-- A request to the manager, and the announcement if it made a change. -/
def fdirModeRequest (system : FdirSystem cfg) (origin : FdirOrigin) (target : UInt8)
    (nowSeconds : UInt32) : ModeStatus × FdirSystem cfg × FdirEffects :=
  let (status, mode, changed) := modeRequest system.mode target nowSeconds
  match changed with
  | none => (status, { system with mode := mode }, {})
  | some changed =>
      let announced := fdirAnnounce { system with mode := mode } origin changed
      (status, announced.system, announced.effects)

/-! ### Confirmation and recovery -/

/-- The event that announces a recovery: the anomaly, the safe mode, the count. -/
def fdirRecoveryReport (ctx : FdirCtx cfg) (anomaly : FdirAnomaly) (nowSeconds : UInt32) :
    SinkReport :=
  { nowSeconds := nowSeconds
    severity := pus5SevHigh
    eventId := pus5EvtFdirRecovery
    aux := [anomaly.code, ctx.safeMode] ++ put16 (ctx.occurrences anomaly) }

/-- The event first, so that the cause precedes the mode change. -/
def fdirRecover (system : FdirSystem cfg) (anomaly : FdirAnomaly) (nowSeconds : UInt32) :
    FdirSystem cfg × FdirEffects :=
  let offered := fdirOffer system .recovery (fdirRecoveryReport system.fdir anomaly nowSeconds)
  let (_, after, effects) := fdirModeRequest offered.system .recoveryModeChange
    system.fdir.safeMode nowSeconds
  (after, offered.effects.andThen { effects with requests := [system.fdir.safeMode] })

/-- The occurrence count one on, unless it is at its maximum. -/
def fdirCount (ctx : FdirCtx cfg) (anomaly : FdirAnomaly) : FdirCtx cfg :=
  if ctx.occurrences anomaly < 0xFFFF then
    { ctx with
      occurrences := Function.update ctx.occurrences anomaly (ctx.occurrences anomaly + 1) }
  else ctx

theorem fdirCount_fifo (ctx : FdirCtx cfg) (anomaly : FdirAnomaly) :
    (fdirCount ctx anomaly).fifo = ctx.fifo := by
  rw [fdirCount]
  split <;> rfl

/-- The latch: recovery is due once for each anomaly. -/
def fdirLatch (ctx : FdirCtx cfg) (anomaly : FdirAnomaly) : FdirCtx cfg :=
  { ctx with confirmed := Function.update ctx.confirmed anomaly true }

def fdirObserve (system : FdirSystem cfg) (anomaly : FdirAnomaly) (nowSeconds : UInt32) :
    FdirSystem cfg × FdirEffects :=
  let ctx := fdirCount system.fdir anomaly
  let below := ctx.thresholds anomaly = 0 ∨ ctx.occurrences anomaly < ctx.thresholds anomaly
  if below ∨ ctx.confirmed anomaly = true then ({ system with fdir := ctx }, {})
  else
    let ctx := fdirLatch ctx anomaly
    if ctx.recoveryEnabled = false ∨ ctx.modeAttached = false then
      ({ system with fdir := ctx }, {})
    else fdirRecover { system with fdir := ctx } anomaly nowSeconds

/-- A producer's event, and its account if it is an anomaly. -/
def fdirReport (system : FdirSystem cfg) (anomaly : Option FdirAnomaly) (report : SinkReport) :
    FdirReply cfg :=
  let offered := fdirOffer system .reported report
  match anomaly with
  | none => offered
  | some anomaly =>
      let (system, effects) := fdirObserve offered.system anomaly report.nowSeconds
      { status := offered.status
        system := system
        effects := offered.effects.andThen effects }

def fdirSinkReport (system : FdirSystem cfg) (report : SinkReport) : FdirReply cfg :=
  fdirReport system (fdirEventAnomaly report.eventId) report

/-- The registry: how an anomaly and its detail word classify as an event. -/
def fdirAnomalyReport (anomaly : FdirAnomaly) (nowSeconds detail : UInt32) : SinkReport :=
  match anomaly with
  | .tcRejected =>
      { nowSeconds := nowSeconds
        severity := pus5SevLow
        eventId := pus5EvtTcRejected
        aux := (put32 detail).drop 1 }
  | .rxOverflow =>
      { nowSeconds := nowSeconds
        severity := pus5SevMedium
        eventId := pus5EvtRxOverflow
        aux := put32 detail }

def fdirReportAnomaly (system : FdirSystem cfg) (code nowSeconds detail : UInt32) :
    FdirReply cfg :=
  match fdirAnomalyOfCode code with
  | none => { status := .errBadArg, system := system, effects := {} }
  | some anomaly =>
      fdirReport system (some anomaly) (fdirAnomalyReport anomaly nowSeconds detail)

/-! ### Configuration -/

def fdirInit (ctx : FdirCtx cfg) : FdirCtx cfg where
  fifo := eventFifoInit ctx.fifo
  occurrences := fun _ => 0
  thresholds := fun _ => 0
  confirmed := fun _ => false
  modeAttached := false
  safeMode := 0
  recoveryEnabled := false

/-- The thresholds a list of confirmation policies leaves; a later policy for the
same anomaly wins. -/
def fdirThresholds (confirms : List FdirConfirmDef) : FdirAnomaly → UInt16 :=
  confirms.foldl (fun thresholds confirm =>
    match fdirAnomalyOfCode confirm.anomaly with
    | none => thresholds
    | some anomaly => Function.update thresholds anomaly confirm.threshold) fun _ => 0

def fdirArmRecovery (ctx : FdirCtx cfg) (modeAttached : Bool) (safeMode : UInt8)
    (confirms : List FdirConfirmDef) : EventFifoStatus × FdirCtx cfg :=
  if confirms.any fun confirm => (fdirAnomalyOfCode confirm.anomaly).isNone then
    (.errBadArg, ctx)
  else (.ok,
    { fifo := ctx.fifo
      occurrences := fun _ => 0
      thresholds := fdirThresholds confirms
      confirmed := fun _ => false
      modeAttached := modeAttached
      safeMode := safeMode
      recoveryEnabled := true })

def fdirSetEnabled (ctx : FdirCtx cfg) (enabled : Bool) : FdirCtx cfg :=
  { ctx with recoveryEnabled := enabled }

def fdirIsEnabled (ctx : FdirCtx cfg) : Bool := ctx.recoveryEnabled

/-! ### Drain -/

/-- The event a drain took, what it handed on to be reported with it, and the
report. -/
structure FdirDrained where
  event : FdirEvent
  request : TmRequest
  counters : PusCounters
  report : Except Pus5Status (List UInt8)

/-- `.ok none` is the return value 0; the event of a report that cannot be built
is gone. -/
def fdirDrain (ctx : FdirCtx cfg) (apid : UInt16) (counters : PusCounters) (outCap : Nat) :
    Except Pus5Status (Option FdirDrained) × FdirCtx cfg × PusCounters :=
  if outCap < pus5TmMaxPacketSize then (.error .errBufTooSmall, ctx, counters)
  else
    match eventFifoPop ctx.fifo with
    | (none, _) => (.ok none, ctx, counters)
    | (some event, fifo) =>
        let request : TmRequest :=
          { apid := apid, nowSeconds := event.tSeconds, destinationId := 0, outCap := outCap }
        let (report, after) := pus5BuildEventReport request counters event.severity
          event.eventId event.aux
        (.ok (some
            { event := event
              request := request
              counters := counters
              report := report }), { ctx with fifo := fifo }, after)

/-! ### Calls -/

/-- The calls of an FDIR context and of the mode manager next to it. -/
inductive FdirOp where
  | reportAnomaly (code nowSeconds detail : UInt32)
  | sinkReport (report : SinkReport)
  | setEnabled (enabled : Bool)
  | armRecovery (modeAttached : Bool) (safeMode : UInt8) (confirms : List FdirConfirmDef)
  | drain (apid : UInt16) (counters : PusCounters) (outCap : Nat)
  | modeRequest (target : UInt8) (nowSeconds : UInt32)
  | modeRestore (image : List UInt8)

/-- The system a call leaves behind, what it did, and the event it drained. -/
structure FdirStep (cfg : Config) where
  system : FdirSystem cfg
  effects : FdirEffects := {}
  drained : Option FdirDrained := none

def fdirStep (system : FdirSystem cfg) : FdirOp → FdirStep cfg
  | .reportAnomaly code nowSeconds detail =>
      let reply := fdirReportAnomaly system code nowSeconds detail
      { system := reply.system, effects := reply.effects }
  | .sinkReport report =>
      let reply := fdirSinkReport system report
      { system := reply.system, effects := reply.effects }
  | .setEnabled enabled =>
      { system := { system with fdir := fdirSetEnabled system.fdir enabled } }
  | .armRecovery modeAttached safeMode confirms =>
      let (_, ctx) := fdirArmRecovery system.fdir modeAttached safeMode confirms
      { system := { system with fdir := ctx } }
  | .drain apid counters outCap =>
      let (result, ctx, _) := fdirDrain system.fdir apid counters outCap
      { system := { system with fdir := ctx }
        drained := result.toOption.join }
  | .modeRequest target nowSeconds =>
      let (_, system, effects) := fdirModeRequest system .otherModeChange target nowSeconds
      { system := system, effects := effects }
  | .modeRestore image =>
      { system := { system with mode := (modeDeserializeCurrent system.mode image).2 } }

/-- The steps of a run, in order. -/
def fdirTrace (system : FdirSystem cfg) : List FdirOp → List (FdirStep cfg)
  | [] => []
  | op :: rest => fdirStep system op :: fdirTrace (fdirStep system op).system rest

/-- The system after a run. -/
def fdirRun (system : FdirSystem cfg) (ops : List FdirOp) : FdirSystem cfg :=
  ops.foldl (fun system op => (fdirStep system op).system) system

/-! ### The recursion through the sink -/

/-- A mode change announced to the context's own sink is a report like any other:
the sink finds no anomaly in it and returns. -/
theorem fdirAnnounce_sinkReport (system : FdirSystem cfg) (origin : FdirOrigin)
    (changed : ModeChanged) (wired : system.modeSinkIsFdir = true) :
    (fdirAnnounce system origin changed).system =
        (fdirSinkReport system changed.report).system ∧
      (fdirAnnounce system origin changed).status =
        (fdirSinkReport system changed.report).status := by
  have noAnomaly : fdirEventAnomaly changed.report.eventId = none := rfl
  rw [fdirSinkReport, noAnomaly, fdirReport, fdirAnnounce, if_pos wired]
  exact ⟨rfl, rfl⟩

/-- Every report the registry makes of an anomaly is one the sink reads back as
that anomaly. -/
theorem fdirEventAnomaly_report (anomaly : FdirAnomaly) (nowSeconds detail : UInt32) :
    fdirEventAnomaly (fdirAnomalyReport anomaly nowSeconds detail).eventId = some anomaly := by
  cases anomaly <;> rfl

end FswCore
