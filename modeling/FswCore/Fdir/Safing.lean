import FswCore.Fdir.Commanding

/-!
Contract: an armed context next to a mode manager that nobody else commands.

Owns:
- `FdirOp.Observes`, the calls of producers and of the drain;
- `Tripped`, an anomaly's reports have reached its threshold;
- over every run of such calls the manager is in the safe mode exactly if an anomaly
  has tripped, and as it was otherwise.
-/

namespace FswCore

variable {cfg : Config}

/-- A call that configures nothing and asks for no mode. -/
def FdirOp.Observes : FdirOp → Prop
  | .reportAnomaly _ _ _ | .sinkReport _ | .drain _ _ _ => True
  | _ => False

theorem FdirOp.Observes.keeps {op : FdirOp} (observes : op.Observes) : op.arms = false := by
  cases op with
  | armRecovery => exact observes.elim
  | _ => rfl

/-- Some anomaly has been reported as often as its threshold, which is not zero, asks. -/
def Tripped (policy : RecoveryPolicy) (reports : FdirAnomaly → Nat) : Prop :=
  ∃ anomaly, policy.thresholds anomaly ≠ 0 ∧
    (policy.thresholds anomaly).toNat ≤ reports anomaly

/-- From the mode it is in, or from the safe mode, a request leads to the safe mode. -/
def LeadsTo (mgr : ModeManager) (safeMode : UInt8) : Prop :=
  ∀ other : ModeManager, other.defs = mgr.defs →
    other.current = mgr.current ∨ other.current = safeMode →
      ∀ nowSeconds, (modeRequest other safeMode nowSeconds).2.1.current = safeMode

/-- The account, recovery that can command the safe mode where it is due, and the
manager as the start left it or in the safe mode. -/
structure SafingHolds (start : ModeManager) (policy : RecoveryPolicy)
    (reports : FdirAnomaly → Nat) (system : FdirSystem cfg) : Prop where
  accounted : Accounted system.fdir policy reports
  ready : ∀ anomaly, policy.thresholds anomaly ≠ 0 →
    system.fdir.recoveryEnabled = true ∧ policy.modeAttached = true ∧
      LeadsTo start policy.safeMode
  defs : system.mode.defs = start.defs
  safe : Tripped policy reports → system.mode.current = policy.safeMode
  before : ¬ Tripped policy reports → system.mode.current = start.current

/-! ### Steps -/

theorem fdirReport_enabled (system : FdirSystem cfg) (anomaly : Option FdirAnomaly)
    (report : SinkReport) :
    (fdirReport system anomaly report).system.fdir.recoveryEnabled =
      system.fdir.recoveryEnabled := by
  have offered := (fdirOffer_account system .reported report).recoveryEnabled
  cases anomaly with
  | none => exact offered
  | some anomaly =>
      have counted := (fdirCount_others (fdirOffer system .reported report).system.fdir
        anomaly).2.2.2.2
      simp only [fdirReport, fdirObserve]
      split
      · exact counted.trans offered
      split
      · exact counted.trans offered
      · exact (fdirRecover_account _ anomaly report.nowSeconds).recoveryEnabled.trans
          (counted.trans offered)

theorem FdirOp.Observes.enabled {op : FdirOp} (observes : op.Observes) (system : FdirSystem cfg) :
    (fdirStep system op).system.fdir.recoveryEnabled = system.fdir.recoveryEnabled := by
  cases op with
  | reportAnomaly code nowSeconds detail =>
      simp only [fdirStep, fdirReportAnomaly]
      split
      · rfl
      · exact fdirReport_enabled system _ _
  | sinkReport report => exact fdirReport_enabled system _ report
  | drain apid counters outCap =>
      exact (fdirDrain_account system.fdir apid counters outCap).recoveryEnabled
  | setEnabled | armRecovery | modeRequest | modeRestore => exact observes.elim

/-- The calls of the manager are the recoveries' requests. -/
theorem FdirOp.Observes.modeEvents {op : FdirOp} (observes : op.Observes)
    (system : FdirSystem cfg) :
    fdirModeEvents system op =
      (fdirStep system op).effects.requests.map fun target => .request target op.nowSeconds := by
  cases op with
  | setEnabled | armRecovery | modeRequest | modeRestore => exact observes.elim
  | reportAnomaly | sinkReport | drain => rfl

/-- The reports after a call that does not make any anomaly reach its threshold. -/
theorem tripped_after {policy : RecoveryPolicy} {reports : FdirAnomaly → Nat} {op : FdirOp}
    (notReached : ∀ anomaly, op.anomaly = some anomaly → policy.thresholds anomaly ≠ 0 →
      reports anomaly + 1 ≠ (policy.thresholds anomaly).toNat) :
    Tripped policy (op.reportsAfter reports) ↔ Tripped policy reports := by
  refine exists_congr fun anomaly => and_congr_right fun nonzero => ?_
  rw [FdirOp.reportsAfter]
  by_cases reported : op.anomaly = some anomaly
  · have apart := notReached anomaly reported nonzero
    rw [if_pos reported]
    omega
  · rw [if_neg reported, Nat.add_zero]

/-- One call: the manager is asked for the safe mode when an anomaly trips. -/
theorem SafingHolds.step {start : ModeManager} {policy : RecoveryPolicy}
    {reports : FdirAnomaly → Nat} {system : FdirSystem cfg}
    (holds : SafingHolds start policy reports system) {op : FdirOp} (observes : op.Observes) :
    SafingHolds start policy (op.reportsAfter reports) (fdirStep system op).system := by
  have recovers := fdirStep_recovers holds.accounted observes.keeps
  have commands := (fdirStep_commands system op).mode
  rw [observes.modeEvents system] at commands
  have enabled := observes.enabled system
  have ready (anomaly : FdirAnomaly) (nonzero : policy.thresholds anomaly ≠ 0) :
      (fdirStep system op).system.fdir.recoveryEnabled = true ∧ policy.modeAttached = true ∧
        LeadsTo start policy.safeMode :=
    ⟨enabled.trans (holds.ready anomaly nonzero).1, (holds.ready anomaly nonzero).2⟩
  by_cases due : ∃ anomaly, op.anomaly = some anomaly ∧
      RecoveryDue system.fdir policy reports anomaly
  · obtain ⟨anomaly, reported, isDue⟩ := due
    have tripped : Tripped policy (op.reportsAfter reports) := by
      refine ⟨anomaly, isDue.threshold, ?_⟩
      rw [FdirOp.reportsAfter, if_pos reported]
      exact Nat.le_of_eq isDue.reached.symm
    have isStart : system.mode.current = start.current ∨
        system.mode.current = policy.safeMode := by
      by_cases earlier : Tripped policy reports
      · exact .inr (holds.safe earlier)
      · exact .inl (holds.before earlier)
    rw [(recovers.recovers anomaly reported isDue).2] at commands
    have current := (holds.ready anomaly isDue.threshold).2.2 system.mode holds.defs isStart
      op.nowSeconds
    have defs := modeEvent_defs system.mode (.request policy.safeMode op.nowSeconds)
    refine ⟨recovers.accounted, ready, ?_, fun _ => ?_, fun not => absurd tripped not⟩
    · rw [commands]
      exact defs.trans holds.defs
    · rw [commands]
      exact current
  · have quiet := recovers.quiet fun anomaly reported isDue => due ⟨anomaly, reported, isDue⟩
    rw [quiet.2] at commands
    have same : (fdirStep system op).system.mode = system.mode := commands
    have reached : Tripped policy (op.reportsAfter reports) ↔ Tripped policy reports :=
      tripped_after fun anomaly reported nonzero count =>
        due ⟨anomaly, reported, nonzero, count, (holds.ready anomaly nonzero).1,
          (holds.ready anomaly nonzero).2.1⟩
    refine ⟨recovers.accounted, ready, by rw [same]; exact holds.defs, fun tripped => ?_,
      fun not => ?_⟩
    · rw [same]
      exact holds.safe (reached.mp tripped)
    · rw [same]
      exact holds.before fun tripped => not (reached.mpr tripped)

/-! ### Runs -/

theorem SafingHolds.run {start : ModeManager} {policy : RecoveryPolicy}
    {reports : FdirAnomaly → Nat} {system : FdirSystem cfg}
    (holds : SafingHolds start policy reports system) {ops : List FdirOp}
    (observe : ∀ op ∈ ops, op.Observes) :
    SafingHolds start policy (fun anomaly => reports anomaly + reportCount anomaly ops)
      (fdirRun system ops) := by
  induction ops generalizing system reports with
  | nil => exact holds
  | cons op rest inductionHypothesis =>
      have stepped := holds.step (observe op List.mem_cons_self)
      have run := inductionHypothesis stepped fun other member =>
        observe other (List.mem_cons_of_mem op member)
      have counts : (fun anomaly => op.reportsAfter reports anomaly + reportCount anomaly rest) =
          fun anomaly => reports anomaly + reportCount anomaly (op :: rest) := by
        funext anomaly
        simp only [FdirOp.reportsAfter, reportCount, List.countP_cons, decide_eq_true_eq]
        omega
      rw [counts] at run
      exact run

end FswCore
