import FswCore.Fdir.Recovery
import FswCore.Mode.Safety

/-!
Contract: what the calls of an FDIR context do to the mode manager next to it.

Owns:
- `fdirModeEvents`, the requests and restores a call makes of the manager, those
  of its recoveries among them;
- the manager of a run is the one these calls lead to, and its sink hears what
  they announce;
- the mode manager's safety over runs with recoveries.
-/

namespace FswCore

variable {cfg : Config}

/-- The calls of the manager that a call of the context makes. -/
def fdirModeEvents (system : FdirSystem cfg) (op : FdirOp) : List ModeEvent :=
  match op with
  | .modeRequest target nowSeconds => [.request target nowSeconds]
  | .modeRestore image => [.restore image]
  | op => (fdirStep system op).effects.requests.map fun target => .request target op.nowSeconds

/-- The manager went through these events, and its sink heard what they announce. -/
structure Commands (before after : FdirSystem cfg) (effects : FdirEffects)
    (events : List ModeEvent) : Prop where
  mode : after.mode = modeFinal before.mode events
  announced : effects.announced = (modeTrace before.mode events).filterMap ModeStep.announced

/-- A call that leaves the manager alone. -/
theorem commands_none {before after : FdirSystem cfg} {effects : FdirEffects}
    (mode : after.mode = before.mode) (silent : effects.announced = []) :
    Commands before after effects [] :=
  ⟨mode, silent⟩

theorem fdirModeRequest_commands (system : FdirSystem cfg) (origin : FdirOrigin)
    (target : UInt8) (nowSeconds : UInt32) :
    Commands system (fdirModeRequest system origin target nowSeconds).2.1
      (fdirModeRequest system origin target nowSeconds).2.2 [.request target nowSeconds] := by
  have trace : (modeTrace system.mode [.request target nowSeconds]).filterMap
      ModeStep.announced = (modeRequest system.mode target nowSeconds).2.2.toList := by
    simp only [modeTrace, modeStep, List.filterMap_cons, List.filterMap_nil]
    cases (modeRequest system.mode target nowSeconds).2.2 <;> rfl
  refine ⟨?_, ?_⟩
  · simp only [fdirModeRequest]
    split
    · rfl
    · rw [fdirAnnounce]
      split <;> rfl
  · rw [trace]
    simp only [fdirModeRequest]
    split
    · rename_i silent
      rw [silent]
      rfl
    · rename_i changed announced
      rw [announced, fdirAnnounce]
      split <;> rfl

theorem fdirRecover_commands (system : FdirSystem cfg) (anomaly : FdirAnomaly)
    (nowSeconds : UInt32) :
    Commands system (fdirRecover system anomaly nowSeconds).1
      (fdirRecover system anomaly nowSeconds).2
      ((fdirRecover system anomaly nowSeconds).2.requests.map fun target =>
        .request target nowSeconds) := by
  have requested := fdirModeRequest_commands
    (fdirOffer system .recovery (fdirRecoveryReport system.fdir anomaly nowSeconds)).system
    .recoveryModeChange system.fdir.safeMode nowSeconds
  exact ⟨requested.mode, requested.announced⟩

theorem fdirObserve_commands (system : FdirSystem cfg) (anomaly : FdirAnomaly)
    (nowSeconds : UInt32) :
    Commands system (fdirObserve system anomaly nowSeconds).1
      (fdirObserve system anomaly nowSeconds).2
      ((fdirObserve system anomaly nowSeconds).2.requests.map fun target =>
        .request target nowSeconds) := by
  simp only [fdirObserve]
  split
  · exact commands_none rfl rfl
  split
  · exact commands_none rfl rfl
  · have recovered := fdirRecover_commands
      { system with fdir := fdirLatch (fdirCount system.fdir anomaly) anomaly } anomaly nowSeconds
    exact ⟨recovered.mode, recovered.announced⟩

theorem fdirReport_commands (system : FdirSystem cfg) (anomaly : Option FdirAnomaly)
    (report : SinkReport) :
    Commands system (fdirReport system anomaly report).system
      (fdirReport system anomaly report).effects
      ((fdirReport system anomaly report).effects.requests.map fun target =>
        .request target report.nowSeconds) := by
  cases anomaly with
  | none => exact commands_none rfl rfl
  | some anomaly =>
      have observed := fdirObserve_commands (fdirOffer system .reported report).system anomaly
        report.nowSeconds
      have requests : (fdirOffer system .reported report).effects.requests = [] := rfl
      have announced : (fdirOffer system .reported report).effects.announced = [] := rfl
      simp only [fdirReport, FdirEffects.andThen]
      rw [requests, List.nil_append]
      constructor
      · exact observed.mode
      · rw [announced]
        exact observed.announced

theorem fdirStep_commands (system : FdirSystem cfg) (op : FdirOp) :
    Commands system (fdirStep system op).system (fdirStep system op).effects
      (fdirModeEvents system op) := by
  cases op with
  | reportAnomaly code nowSeconds detail =>
      simp only [fdirModeEvents, fdirStep, fdirReportAnomaly]
      cases fdirAnomalyOfCode code with
      | none => exact commands_none rfl rfl
      | some anomaly =>
          have reported := fdirReport_commands system (some anomaly)
            (fdirAnomalyReport anomaly nowSeconds detail)
          have sameTime : (fdirAnomalyReport anomaly nowSeconds detail).nowSeconds =
              nowSeconds := by cases anomaly <;> rfl
          rw [sameTime] at reported
          exact reported
  | sinkReport report => exact fdirReport_commands system _ report
  | setEnabled enabled => exact commands_none rfl rfl
  | armRecovery modeAttached safeMode confirms => exact commands_none rfl rfl
  | drain apid counters outCap => exact commands_none rfl rfl
  | modeRequest target nowSeconds =>
      exact fdirModeRequest_commands system .otherModeChange target nowSeconds
  | modeRestore image => exact ⟨rfl, rfl⟩

/-! ### Runs -/

/-- The calls of the manager over a run, in order. -/
def fdirRunModeEvents (system : FdirSystem cfg) : List FdirOp → List ModeEvent
  | [] => []
  | op :: rest =>
      fdirModeEvents system op ++ fdirRunModeEvents (fdirStep system op).system rest

/-- The announcements of a run, in order. -/
def announcements (trace : List (FdirStep cfg)) : List ModeChanged :=
  trace.flatMap fun step => step.effects.announced

theorem fdirRun_commands (system : FdirSystem cfg) (ops : List FdirOp) :
    (fdirRun system ops).mode = modeFinal system.mode (fdirRunModeEvents system ops) ∧
      announcements (fdirTrace system ops) =
        (modeTrace system.mode (fdirRunModeEvents system ops)).filterMap
          ModeStep.announced := by
  induction ops generalizing system with
  | nil => exact ⟨rfl, rfl⟩
  | cons op rest inductionHypothesis =>
      have step := fdirStep_commands system op
      obtain ⟨mode, announced⟩ := inductionHypothesis (fdirStep system op).system
      refine ⟨?_, ?_⟩
      · rw [fdirRunModeEvents, modeFinal, List.foldl_append]
        rw [step.mode] at mode
        exact mode
      · rw [announcements, fdirTrace, List.flatMap_cons, fdirRunModeEvents, modeTrace_append,
          List.filterMap_append, ← step.announced, ← step.mode, ← announced]
        rfl

/-- Every step of a run starts from the table the manager was given. -/
theorem modeTrace_table {mgr : ModeManager} (valid : mgr.Valid) (events : List ModeEvent) :
    ∀ step ∈ modeTrace mgr events,
      step.before.defs = mgr.defs ∧ step.before.sinkWired = mgr.sinkWired := by
  induction events generalizing mgr with
  | nil => simp [modeTrace]
  | cons event rest inductionHypothesis =>
      obtain ⟨safe, stays⟩ := modeStep_safe valid event
      have start : (modeStep mgr event).before = mgr := by cases event <;> rfl
      intro step member
      rw [modeTrace, List.mem_cons] at member
      rcases member with rfl | later
      · rw [start]
        exact ⟨rfl, rfl⟩
      · obtain ⟨defs, sink⟩ := inductionHypothesis stays step later
        rw [safe.table.1, start] at defs
        rw [safe.table.2, start] at sink
        exact ⟨defs, sink⟩

theorem modeFinal_defs {mgr : ModeManager} (valid : mgr.Valid) (events : List ModeEvent) :
    (modeFinal mgr events).defs = mgr.defs := by
  induction events generalizing mgr with
  | nil => rfl
  | cons event rest inductionHypothesis =>
      obtain ⟨safe, stays⟩ := modeStep_safe valid event
      have start : (modeStep mgr event).before = mgr := by cases event <;> rfl
      have later := inductionHypothesis stays
      rw [safe.table.1, start] at later
      exact later

/-- From an accepted table, over every run of requests, restores and reports that
may recover: the current mode is a declared one; each request and each restore is
safe; and the sink hears the successful requests, in order. -/
theorem fdirRun_modeSafe (cfg : Config) (defs : List ModeDef) (initial : UInt8)
    (sinkWired : Bool) (accepted : (modeInit cfg defs initial sinkWired).1 = .ok)
    (fdir : FdirCtx cfg) (modeSinkIsFdir : Bool) (ops : List FdirOp) :
    let system : FdirSystem cfg :=
      { fdir := fdir
        mode := (modeInit cfg defs initial sinkWired).2
        modeSinkIsFdir := modeSinkIsFdir }
    let trace := modeTrace system.mode (fdirRunModeEvents system ops)
    (fdirRun system ops).mode = modeFinal system.mode (fdirRunModeEvents system ops) ∧
      ModeDeclared defs (fdirRun system ops).mode.current ∧
      (∀ step ∈ trace, StepSafe step ∧ step.before.defs = defs ∧
        step.before.sinkWired = sinkWired) ∧
      announcements (fdirTrace system ops) = trace.filterMap ModeStep.change := by
  intro system trace
  obtain ⟨manager, valid⟩ := modeInit_valid accepted
  obtain ⟨mode, announced⟩ := fdirRun_commands system ops
  obtain ⟨safe, final⟩ := modeTrace_safe valid (fdirRunModeEvents system ops)
  have initialDefs : system.mode.defs = defs := congrArg ModeManager.defs manager
  have initialSink : system.mode.sinkWired = sinkWired := congrArg ModeManager.sinkWired manager
  refine ⟨mode, ?_, fun step member => ⟨safe step member, ?_⟩, ?_⟩
  · have kept := modeFinal_defs valid (fdirRunModeEvents system ops)
    rw [mode, ← initialDefs, ← kept]
    exact final.current
  · obtain ⟨sameDefs, sameSink⟩ :=
      modeTrace_table valid (fdirRunModeEvents system ops) step member
    exact ⟨sameDefs.trans initialDefs, sameSink.trans initialSink⟩
  · rw [announced]
    exact modeTrace_announced valid _

/-- A vehicle's table and its way from boot to nominal and, on a recovery, to safe. -/
theorem fdirRun_modeSafe_recovery :
    let system : FdirSystem defaultConfig :=
      { fdir := (fdirArmRecovery (fdirZero defaultConfig) true 2 [⟨0, 1⟩]).2
        mode := (modeInit defaultConfig [⟨0, 6⟩, ⟨1, 4⟩, ⟨2, 2⟩] 0 true).2
        modeSinkIsFdir := true }
    let ops := [FdirOp.modeRequest 1 3, .reportAnomaly 0 7 0x040901, .modeRequest 0 8]
    ModeDeclared [⟨0, 6⟩, ⟨1, 4⟩, ⟨2, 2⟩] (fdirRun system ops).mode.current ∧
      announcements (fdirTrace system ops) = [⟨3, 0, 1⟩, ⟨7, 1, 2⟩] := by
  have safe := fdirRun_modeSafe defaultConfig [⟨0, 6⟩, ⟨1, 4⟩, ⟨2, 2⟩] 0 true (by decide)
    (fdirArmRecovery (fdirZero defaultConfig) true 2 [⟨0, 1⟩]).2 true
    [.modeRequest 1 3, .reportAnomaly 0 7 0x040901, .modeRequest 0 8]
  exact ⟨safe.2.1, by decide⟩

end FswCore
