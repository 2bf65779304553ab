import FswCore.Fdir.Model
import FswCore.Mode.Invariant

/-!
Contract: what the confirmation account of an armed context says about the
reports made since.

Owns:
- `Accounted`, the counters and latches in terms of the number of reports of each
  anomaly, kept by every call but the next arm;
- `RecoveryDue`, when a call recovers, and that it recovers then and only then;
- one recovery at most for each anomaly, over whole runs.
-/

namespace FswCore

open Library Library.BigEndian

variable {cfg : Config}

/-! ### What leaves the account alone -/

/-- Two contexts that differ in their event FIFO at most. -/
structure SameAccount (left right : FdirCtx cfg) : Prop where
  occurrences : left.occurrences = right.occurrences
  thresholds : left.thresholds = right.thresholds
  confirmed : left.confirmed = right.confirmed
  modeAttached : left.modeAttached = right.modeAttached
  safeMode : left.safeMode = right.safeMode
  recoveryEnabled : left.recoveryEnabled = right.recoveryEnabled

namespace SameAccount

theorem refl (ctx : FdirCtx cfg) : SameAccount ctx ctx := ⟨rfl, rfl, rfl, rfl, rfl, rfl⟩

theorem trans {first second third : FdirCtx cfg} (left : SameAccount first second)
    (right : SameAccount second third) : SameAccount first third where
  occurrences := left.occurrences.trans right.occurrences
  thresholds := left.thresholds.trans right.thresholds
  confirmed := left.confirmed.trans right.confirmed
  modeAttached := left.modeAttached.trans right.modeAttached
  safeMode := left.safeMode.trans right.safeMode
  recoveryEnabled := left.recoveryEnabled.trans right.recoveryEnabled

end SameAccount

theorem fdirEnqueue_account (ctx : FdirCtx cfg) (report : SinkReport) :
    SameAccount (fdirEnqueue ctx report).2 ctx := by
  rw [fdirEnqueue]
  split
  · exact .refl ctx
  · exact ⟨rfl, rfl, rfl, rfl, rfl, rfl⟩

theorem fdirOffer_account (system : FdirSystem cfg) (origin : FdirOrigin)
    (report : SinkReport) :
    SameAccount (fdirOffer system origin report).system.fdir system.fdir :=
  fdirEnqueue_account system.fdir report

theorem fdirAnnounce_account (system : FdirSystem cfg) (origin : FdirOrigin)
    (changed : ModeChanged) :
    SameAccount (fdirAnnounce system origin changed).system.fdir system.fdir := by
  rw [fdirAnnounce]
  split
  · exact fdirOffer_account system origin changed.report
  · exact .refl _

theorem fdirModeRequest_account (system : FdirSystem cfg) (origin : FdirOrigin)
    (target : UInt8) (nowSeconds : UInt32) :
    SameAccount (fdirModeRequest system origin target nowSeconds).2.1.fdir system.fdir := by
  simp only [fdirModeRequest]
  split
  · exact .refl _
  · exact fdirAnnounce_account _ origin _

theorem fdirRecover_account (system : FdirSystem cfg) (anomaly : FdirAnomaly)
    (nowSeconds : UInt32) :
    SameAccount (fdirRecover system anomaly nowSeconds).1.fdir system.fdir :=
  (fdirModeRequest_account _ _ _ _).trans (fdirOffer_account _ _ _)

theorem fdirDrain_account (ctx : FdirCtx cfg) (apid : UInt16) (counters : PusCounters)
    (outCap : Nat) : SameAccount (fdirDrain ctx apid counters outCap).2.1 ctx := by
  rw [fdirDrain]
  split
  · exact .refl ctx
  split
  · exact .refl ctx
  · exact ⟨rfl, rfl, rfl, rfl, rfl, rfl⟩

/-! ### Recoveries -/

/-- The recovery events a call offered. -/
def FdirEffects.recoveries (effects : FdirEffects) : List FdirEvent :=
  (effects.attempts.filter fun attempt => attempt.origin = .recovery).map FdirAttempt.event

theorem FdirEffects.recoveries_andThen (first second : FdirEffects) :
    (first.andThen second).recoveries = first.recoveries ++ second.recoveries := by
  rw [recoveries, recoveries, recoveries, andThen, List.filter_append, List.map_append]

/-- The event of a recovery. -/
def fdirRecoveryEvent (anomaly : FdirAnomaly) (safeMode : UInt8) (count : UInt16)
    (nowSeconds : UInt32) : FdirEvent :=
  { eventId := pus5EvtFdirRecovery
    severity := pus5SevHigh
    aux := [anomaly.code, safeMode] ++ put16 count
    tSeconds := nowSeconds }

/-- A call that does nothing about recovery: no event, no request. -/
def FdirEffects.Quiet (effects : FdirEffects) : Prop :=
  effects.recoveries = [] ∧ effects.requests = []

theorem FdirEffects.Quiet.andThen {first second : FdirEffects} (left : first.Quiet)
    (right : second.Quiet) : (first.andThen second).Quiet := by
  refine ⟨?_, ?_⟩
  · rw [recoveries_andThen, left.1, right.1, List.append_nil]
  · rw [FdirEffects.andThen, left.2, right.2, List.append_nil]

theorem fdirOffer_quiet (system : FdirSystem cfg) {origin : FdirOrigin} (report : SinkReport)
    (other : origin ≠ .recovery) : (fdirOffer system origin report).effects.Quiet := by
  refine ⟨?_, rfl⟩
  rw [FdirEffects.recoveries, fdirOffer]
  simp [other]

theorem fdirAnnounce_quiet (system : FdirSystem cfg) {origin : FdirOrigin}
    (changed : ModeChanged) (other : origin ≠ .recovery) :
    (fdirAnnounce system origin changed).effects.Quiet := by
  rw [fdirAnnounce]
  split
  · exact fdirOffer_quiet system changed.report other
  · exact ⟨rfl, rfl⟩

theorem fdirModeRequest_quiet (system : FdirSystem cfg) {origin : FdirOrigin} (target : UInt8)
    (nowSeconds : UInt32) (other : origin ≠ .recovery) :
    (fdirModeRequest system origin target nowSeconds).2.2.Quiet := by
  simp only [fdirModeRequest]
  split
  · exact ⟨rfl, rfl⟩
  · exact fdirAnnounce_quiet _ _ other

/-- A recovery offers its event and asks for the safe mode, once each. -/
theorem fdirRecover_effects (system : FdirSystem cfg) (anomaly : FdirAnomaly)
    (nowSeconds : UInt32) :
    (fdirRecover system anomaly nowSeconds).2.recoveries =
        [fdirRecoveryEvent anomaly system.fdir.safeMode (system.fdir.occurrences anomaly)
          nowSeconds] ∧
      (fdirRecover system anomaly nowSeconds).2.requests = [system.fdir.safeMode] := by
  have quiet := fdirModeRequest_quiet
    (fdirOffer system .recovery (fdirRecoveryReport system.fdir anomaly nowSeconds)).system
    system.fdir.safeMode nowSeconds (show FdirOrigin.recoveryModeChange ≠ .recovery by decide)
  refine ⟨?_, rfl⟩
  have silent := quiet.1
  simp only [FdirEffects.recoveries] at silent
  rw [fdirRecover, FdirEffects.recoveries_andThen]
  simp only [FdirEffects.recoveries, silent]
  simp [fdirOffer, fdirRecoveryReport, fdirRecoveryEvent, SinkReport.event]

/-! ### The account -/

/-- What an arm decides. -/
structure RecoveryPolicy where
  thresholds : FdirAnomaly → UInt16
  modeAttached : Bool
  safeMode : UInt8

/-- The context holds this policy and these reports: a count stops at the largest
16-bit value, and an anomaly is confirmed as soon as its count has reached a
threshold that is not zero. -/
structure Accounted (ctx : FdirCtx cfg) (policy : RecoveryPolicy)
    (reports : FdirAnomaly → Nat) : Prop where
  occurrences : ∀ anomaly, (ctx.occurrences anomaly).toNat = min (reports anomaly) 65535
  thresholds : ctx.thresholds = policy.thresholds
  confirmed : ∀ anomaly, ctx.confirmed anomaly = true ↔
    policy.thresholds anomaly ≠ 0 ∧ policy.thresholds anomaly ≤ ctx.occurrences anomaly
  modeAttached : ctx.modeAttached = policy.modeAttached
  safeMode : ctx.safeMode = policy.safeMode

/-- The reports after one more of this anomaly. -/
def reportsAfter (reports : FdirAnomaly → Nat) (anomaly : FdirAnomaly) : FdirAnomaly → Nat :=
  Function.update reports anomaly (reports anomaly + 1)

namespace Accounted

variable {policy : RecoveryPolicy} {reports : FdirAnomaly → Nat}

theorem congr {left right : FdirCtx cfg} (accounted : Accounted right policy reports)
    (same : SameAccount left right) : Accounted left policy reports where
  occurrences := by rw [same.occurrences]; exact accounted.occurrences
  thresholds := same.thresholds.trans accounted.thresholds
  confirmed := by rw [same.confirmed, same.occurrences]; exact accounted.confirmed
  modeAttached := same.modeAttached.trans accounted.modeAttached
  safeMode := same.safeMode.trans accounted.safeMode

/-- The counter follows the number of reports, also past its maximum. -/
theorem count_occurrences {ctx : FdirCtx cfg} (accounted : Accounted ctx policy reports)
    (anomaly other : FdirAnomaly) :
    ((fdirCount ctx anomaly).occurrences other).toNat =
      min (reportsAfter reports anomaly other) 65535 := by
  have before := accounted.occurrences
  rw [fdirCount, reportsAfter]
  split
  · rename_i below
    simp only [UInt16.lt_iff_toNat_lt, UInt16.reduceToNat] at below
    by_cases same : other = anomaly
    · subst same
      have stored := before other
      simp only [Function.update_self, UInt16.toNat_add, UInt16.toNat_one]
      omega
    · simp only [Function.update_of_ne same]
      exact before other
  · rename_i full
    simp only [UInt16.lt_iff_toNat_lt, UInt16.reduceToNat] at full
    by_cases same : other = anomaly
    · subst same
      have stored := before other
      rw [Function.update_self]
      omega
    · rw [Function.update_of_ne same]
      exact before other

end Accounted

/-- A report of this anomaly recovers: it brings the count to a threshold that is
not zero, with recovery enabled and a manager to command. -/
structure RecoveryDue (ctx : FdirCtx cfg) (policy : RecoveryPolicy)
    (reports : FdirAnomaly → Nat) (anomaly : FdirAnomaly) : Prop where
  threshold : policy.thresholds anomaly ≠ 0
  reached : reports anomaly + 1 = (policy.thresholds anomaly).toNat
  enabled : ctx.recoveryEnabled = true
  attached : policy.modeAttached = true

/-- The call recovers from this anomaly: its event and one request for the safe
mode. -/
def FdirEffects.RecoversFrom (effects : FdirEffects) (policy : RecoveryPolicy)
    (anomaly : FdirAnomaly) (nowSeconds : UInt32) : Prop :=
  effects.recoveries = [fdirRecoveryEvent anomaly policy.safeMode (policy.thresholds anomaly)
      nowSeconds] ∧
    effects.requests = [policy.safeMode]

theorem fdirCount_others (ctx : FdirCtx cfg) (anomaly : FdirAnomaly) :
    (fdirCount ctx anomaly).thresholds = ctx.thresholds ∧
      (fdirCount ctx anomaly).confirmed = ctx.confirmed ∧
      (fdirCount ctx anomaly).modeAttached = ctx.modeAttached ∧
      (fdirCount ctx anomaly).safeMode = ctx.safeMode ∧
      (fdirCount ctx anomaly).recoveryEnabled = ctx.recoveryEnabled := by
  rw [fdirCount]
  split <;> exact ⟨rfl, rfl, rfl, rfl, rfl⟩

/-- An occurrence counted, with the latch of its anomaly as the count demands. -/
theorem Accounted.after {ctx after : FdirCtx cfg} {policy : RecoveryPolicy}
    {reports : FdirAnomaly → Nat} (accounted : Accounted ctx policy reports)
    {anomaly : FdirAnomaly}
    (occurrences : after.occurrences = (fdirCount ctx anomaly).occurrences)
    (thresholds : after.thresholds = ctx.thresholds)
    (latch : after.confirmed anomaly = true ↔
      policy.thresholds anomaly ≠ 0 ∧
        policy.thresholds anomaly ≤ (fdirCount ctx anomaly).occurrences anomaly)
    (others : ∀ other, other ≠ anomaly → after.confirmed other = ctx.confirmed other)
    (modeAttached : after.modeAttached = ctx.modeAttached)
    (safeMode : after.safeMode = ctx.safeMode) :
    Accounted after policy (reportsAfter reports anomaly) where
  occurrences := fun other => by
    rw [occurrences]
    exact accounted.count_occurrences anomaly other
  thresholds := thresholds.trans accounted.thresholds
  confirmed := fun other => by
    by_cases same : other = anomaly
    · subst same
      rw [occurrences]
      exact latch
    · have untouched : (fdirCount ctx anomaly).occurrences other = ctx.occurrences other := by
        rw [fdirCount]
        split
        · exact Function.update_of_ne same _ _
        · rfl
      rw [others other same, occurrences, untouched]
      exact accounted.confirmed other
  modeAttached := modeAttached.trans accounted.modeAttached
  safeMode := safeMode.trans accounted.safeMode

section Count

variable {ctx : FdirCtx cfg} {policy : RecoveryPolicy} {reports : FdirAnomaly → Nat}
  (accounted : Accounted ctx policy reports) {anomaly : FdirAnomaly}

include accounted

theorem Accounted.count_threshold (anomaly : FdirAnomaly) :
    (fdirCount ctx anomaly).thresholds anomaly = policy.thresholds anomaly := by
  rw [(fdirCount_others ctx anomaly).1, accounted.thresholds]

theorem Accounted.count_reports (anomaly : FdirAnomaly) :
    ((fdirCount ctx anomaly).occurrences anomaly).toNat = min (reports anomaly + 1) 65535 := by
  have counted := accounted.count_occurrences anomaly anomaly
  rw [reportsAfter, Function.update_self] at counted
  exact counted

/-- The threshold is out of reach, or not reached yet. -/
theorem Accounted.below
    (below : (fdirCount ctx anomaly).thresholds anomaly = 0 ∨
      (fdirCount ctx anomaly).occurrences anomaly < (fdirCount ctx anomaly).thresholds anomaly) :
    Accounted (fdirCount ctx anomaly) policy (reportsAfter reports anomaly) ∧
      ¬ RecoveryDue ctx policy reports anomaly := by
  obtain ⟨thresholds, confirmed, attached, safeMode, _⟩ := fdirCount_others ctx anomaly
  have before := accounted.occurrences anomaly
  have counted := accounted.count_reports anomaly
  have thresholdLe := (policy.thresholds anomaly).toNat_lt
  have notReached : ¬ (policy.thresholds anomaly ≠ 0 ∧ policy.thresholds anomaly ≤
      (fdirCount ctx anomaly).occurrences anomaly) := by
    rintro ⟨nonzero, reached⟩
    rw [accounted.count_threshold] at below
    rcases below with zero | less
    · exact nonzero zero
    · exact absurd reached (UInt16.not_le.mpr less)
  constructor
  · apply accounted.after rfl thresholds _ (fun _ _ => by rw [confirmed]) attached safeMode
    rw [confirmed, accounted.confirmed anomaly]
    refine iff_of_false (fun reached => notReached ⟨reached.1, ?_⟩) notReached
    have reached := reached.2
    rw [UInt16.le_iff_toNat_le] at reached ⊢
    omega
  · intro due
    apply notReached
    have reached := due.reached
    rw [UInt16.le_iff_toNat_le]
    exact ⟨due.threshold, by omega⟩

section Reached

variable
  (above : ¬ ((fdirCount ctx anomaly).thresholds anomaly = 0 ∨
    (fdirCount ctx anomaly).occurrences anomaly < (fdirCount ctx anomaly).thresholds anomaly))

include above

theorem Accounted.threshold_le :
    policy.thresholds anomaly ≠ 0 ∧
      policy.thresholds anomaly ≤ (fdirCount ctx anomaly).occurrences anomaly := by
  rw [accounted.count_threshold, not_or, UInt16.not_lt] at above
  exact above

/-- An earlier report has confirmed it. -/
theorem Accounted.latched (latched : (fdirCount ctx anomaly).confirmed anomaly = true) :
    Accounted (fdirCount ctx anomaly) policy (reportsAfter reports anomaly) ∧
      ¬ RecoveryDue ctx policy reports anomaly := by
  obtain ⟨thresholds, confirmed, attached, safeMode, _⟩ := fdirCount_others ctx anomaly
  constructor
  · exact accounted.after rfl thresholds (iff_of_true latched (accounted.threshold_le above))
      (fun _ _ => by rw [confirmed]) attached safeMode
  · intro due
    rw [confirmed] at latched
    have before := accounted.occurrences anomaly
    have earlier := ((accounted.confirmed anomaly).mp latched).2
    have now := due.reached
    rw [UInt16.le_iff_toNat_le] at earlier
    omega

/-- This report confirms it: the count is the threshold. -/
theorem Accounted.confirms (unlatched : ¬ (fdirCount ctx anomaly).confirmed anomaly = true) :
    Accounted (fdirLatch (fdirCount ctx anomaly) anomaly) policy (reportsAfter reports anomaly) ∧
      reports anomaly + 1 = (policy.thresholds anomaly).toNat ∧
      (fdirCount ctx anomaly).occurrences anomaly = policy.thresholds anomaly := by
  obtain ⟨thresholds, confirmed, attached, safeMode, _⟩ := fdirCount_others ctx anomaly
  have before := accounted.occurrences anomaly
  have counted := accounted.count_reports anomaly
  have thresholdLe := (policy.thresholds anomaly).toNat_lt
  have reached := accounted.threshold_le above
  have notEarlier : ¬ policy.thresholds anomaly ≤ ctx.occurrences anomaly := fun earlier =>
    unlatched (by rw [confirmed]; exact (accounted.confirmed anomaly).mpr ⟨reached.1, earlier⟩)
  have exact : reports anomaly + 1 = (policy.thresholds anomaly).toNat := by
    have now := reached.2
    rw [UInt16.le_iff_toNat_le] at now notEarlier
    omega
  refine ⟨?_, exact, ?_⟩
  · refine accounted.after rfl thresholds ?_ ?_ attached safeMode
    · exact iff_of_true (Function.update_self ..) reached
    · intro other different
      have untouched : (fdirLatch (fdirCount ctx anomaly) anomaly).confirmed other =
          (fdirCount ctx anomaly).confirmed other := Function.update_of_ne different _ _
      rw [untouched, confirmed]
  · rw [← UInt16.toNat_inj]
    exact counted.trans (by omega)

end Reached

end Count

/-- An occurrence is counted, and recovers exactly when recovery is due. -/
theorem fdirObserve_spec {system : FdirSystem cfg} {policy : RecoveryPolicy}
    {reports : FdirAnomaly → Nat} (accounted : Accounted system.fdir policy reports)
    (anomaly : FdirAnomaly) (nowSeconds : UInt32) :
    Accounted (fdirObserve system anomaly nowSeconds).1.fdir policy
        (reportsAfter reports anomaly) ∧
      (RecoveryDue system.fdir policy reports anomaly →
        (fdirObserve system anomaly nowSeconds).2.RecoversFrom policy anomaly nowSeconds) ∧
      (¬ RecoveryDue system.fdir policy reports anomaly →
        (fdirObserve system anomaly nowSeconds).2.Quiet) := by
  simp only [fdirObserve]
  by_cases below : (fdirCount system.fdir anomaly).thresholds anomaly = 0 ∨
      (fdirCount system.fdir anomaly).occurrences anomaly <
        (fdirCount system.fdir anomaly).thresholds anomaly
  · obtain ⟨counts, notDue⟩ := accounted.below below
    rw [if_pos (.inl below)]
    exact ⟨counts, fun due => absurd due notDue, fun _ => ⟨rfl, rfl⟩⟩
  by_cases latched : (fdirCount system.fdir anomaly).confirmed anomaly = true
  · obtain ⟨counts, notDue⟩ := accounted.latched below latched
    rw [if_pos (.inr latched)]
    exact ⟨counts, fun due => absurd due notDue, fun _ => ⟨rfl, rfl⟩⟩
  obtain ⟨_, _, attached, _, enabled⟩ := fdirCount_others system.fdir anomaly
  obtain ⟨confirms, exact, count⟩ := accounted.confirms below latched
  have wired : (fdirLatch (fdirCount system.fdir anomaly) anomaly).modeAttached =
      policy.modeAttached := attached.trans accounted.modeAttached
  have armed : (fdirLatch (fdirCount system.fdir anomaly) anomaly).recoveryEnabled =
      system.fdir.recoveryEnabled := enabled
  rw [if_neg (not_or.mpr ⟨below, latched⟩), armed, wired]
  split
  · rename_i suppressed
    refine ⟨confirms, fun due => ?_, fun _ => ⟨rfl, rfl⟩⟩
    rw [due.enabled, due.attached] at suppressed
    simp at suppressed
  · rename_i live
    rw [not_or, Bool.not_eq_false, Bool.not_eq_false] at live
    have due : RecoveryDue system.fdir policy reports anomaly :=
      ⟨(accounted.threshold_le below).1, exact, live.1, live.2⟩
    refine ⟨confirms.congr (fdirRecover_account _ _ _), fun _ => ?_,
      fun notDue => absurd due notDue⟩
    have effects := fdirRecover_effects
      { system with fdir := fdirLatch (fdirCount system.fdir anomaly) anomaly }
      anomaly nowSeconds
    have latchedCount : (fdirLatch (fdirCount system.fdir anomaly) anomaly).occurrences anomaly =
        policy.thresholds anomaly := count
    rw [latchedCount, confirms.safeMode] at effects
    exact effects

/-! ### Calls -/

/-- The anomaly a call reports, through either producer. -/
def FdirOp.anomaly : FdirOp → Option FdirAnomaly
  | .reportAnomaly code _ _ => fdirAnomalyOfCode code
  | .sinkReport report => fdirEventAnomaly report.eventId
  | _ => none

/-- The time a call is made at. -/
def FdirOp.nowSeconds : FdirOp → UInt32
  | .reportAnomaly _ nowSeconds _ => nowSeconds
  | .sinkReport report => report.nowSeconds
  | .modeRequest _ nowSeconds => nowSeconds
  | _ => 0

def FdirOp.arms : FdirOp → Bool
  | .armRecovery _ _ _ => true
  | _ => false

/-- The reports once this call has been made. -/
def FdirOp.reportsAfter (op : FdirOp) (reports : FdirAnomaly → Nat) : FdirAnomaly → Nat :=
  fun anomaly => reports anomaly + if op.anomaly = some anomaly then 1 else 0

/-- What a call does to the account, and when it recovers. -/
structure StepRecovers (system : FdirSystem cfg) (policy : RecoveryPolicy)
    (reports : FdirAnomaly → Nat) (op : FdirOp) (after : FdirCtx cfg)
    (effects : FdirEffects) : Prop where
  accounted : Accounted after policy (op.reportsAfter reports)
  recovers : ∀ anomaly, op.anomaly = some anomaly →
    RecoveryDue system.fdir policy reports anomaly →
      effects.RecoversFrom policy anomaly op.nowSeconds
  quiet : (∀ anomaly, op.anomaly = some anomaly →
    ¬ RecoveryDue system.fdir policy reports anomaly) → effects.Quiet

/-- A call that reports no anomaly. -/
theorem stepRecovers_silent {system : FdirSystem cfg} {policy : RecoveryPolicy}
    {reports : FdirAnomaly → Nat} {op : FdirOp} {after : FdirCtx cfg} {effects : FdirEffects}
    (silent : op.anomaly = none) (accounted : Accounted after policy reports)
    (quiet : effects.Quiet) : StepRecovers system policy reports op after effects where
  accounted := by
    have same : op.reportsAfter reports = reports := by
      funext anomaly
      simp [FdirOp.reportsAfter, silent]
    rw [same]
    exact accounted
  recovers := fun anomaly reported => by simp [silent] at reported
  quiet := fun _ => quiet

theorem fdirReport_recovers {system : FdirSystem cfg} {policy : RecoveryPolicy}
    {reports : FdirAnomaly → Nat} (accounted : Accounted system.fdir policy reports)
    (op : FdirOp) (report : SinkReport) (sameTime : op.nowSeconds = report.nowSeconds) :
    StepRecovers system policy reports op (fdirReport system op.anomaly report).system.fdir
      (fdirReport system op.anomaly report).effects := by
  have same := fdirOffer_account system .reported report
  have offered := accounted.congr same
  have quiet := fdirOffer_quiet system report (show FdirOrigin.reported ≠ .recovery by decide)
  cases found : op.anomaly with
  | none => exact stepRecovers_silent found offered quiet
  | some anomaly =>
      obtain ⟨counted, due, notDue⟩ := fdirObserve_spec offered anomaly report.nowSeconds
      have transfer : RecoveryDue system.fdir policy reports anomaly ↔
          RecoveryDue (fdirOffer system .reported report).system.fdir policy reports anomaly :=
        ⟨fun held => ⟨held.threshold, held.reached, same.recoveryEnabled.trans held.enabled,
            held.attached⟩,
          fun held => ⟨held.threshold, held.reached,
            same.recoveryEnabled.symm.trans held.enabled, held.attached⟩⟩
      simp only [fdirReport]
      refine ⟨?_, fun other reported isDue => ?_, fun notDueHere => ?_⟩
      · have after : op.reportsAfter reports = reportsAfter reports anomaly := by
          funext other
          rw [FdirOp.reportsAfter, reportsAfter, found]
          by_cases same : other = anomaly
          · subst same
            rw [if_pos rfl, Function.update_self]
          · rw [if_neg fun equal => same (Option.some.inj equal).symm, Function.update_of_ne same,
              Nat.add_zero]
        rw [after]
        exact counted
      · rw [found] at reported
        obtain rfl := Option.some.inj reported
        obtain ⟨recoveries, requests⟩ := due (transfer.mp isDue)
        refine ⟨?_, ?_⟩
        · rw [FdirEffects.recoveries_andThen, quiet.1, List.nil_append, sameTime]
          exact recoveries
        · rw [FdirEffects.andThen, quiet.2, List.nil_append]
          exact requests
      · exact quiet.andThen (notDue fun isDue => notDueHere anomaly found (transfer.mpr isDue))

theorem fdirStep_recovers {system : FdirSystem cfg} {policy : RecoveryPolicy}
    {reports : FdirAnomaly → Nat} (accounted : Accounted system.fdir policy reports)
    {op : FdirOp} (keeps : op.arms = false) :
    StepRecovers system policy reports op (fdirStep system op).system.fdir
      (fdirStep system op).effects := by
  cases op with
  | reportAnomaly code nowSeconds detail =>
      cases found : fdirAnomalyOfCode code with
      | none =>
          simp only [fdirStep, fdirReportAnomaly, found]
          exact stepRecovers_silent found accounted ⟨rfl, rfl⟩
      | some anomaly =>
          have reported := fdirReport_recovers accounted
            (.reportAnomaly code nowSeconds detail) (fdirAnomalyReport anomaly nowSeconds detail)
            (by cases anomaly <;> rfl)
          simp only [FdirOp.anomaly, found] at reported
          simp only [fdirStep, fdirReportAnomaly, found]
          exact reported
  | sinkReport report =>
      exact fdirReport_recovers accounted (.sinkReport report) report rfl
  | setEnabled enabled =>
      exact stepRecovers_silent rfl
        ⟨accounted.occurrences, accounted.thresholds, accounted.confirmed,
          accounted.modeAttached, accounted.safeMode⟩ ⟨rfl, rfl⟩
  | armRecovery modeAttached safeMode confirms => contradiction
  | drain apid counters outCap =>
      exact stepRecovers_silent rfl
        (accounted.congr (fdirDrain_account system.fdir apid counters outCap)) ⟨rfl, rfl⟩
  | modeRequest target nowSeconds =>
      exact stepRecovers_silent rfl
        (accounted.congr (fdirModeRequest_account system .otherModeChange target nowSeconds))
        (fdirModeRequest_quiet system target nowSeconds (by decide))
  | modeRestore image => exact stepRecovers_silent rfl accounted ⟨rfl, rfl⟩

/-! ### Runs -/

/-- The number of reports of an anomaly in a run. -/
def reportCount (anomaly : FdirAnomaly) (ops : List FdirOp) : Nat :=
  ops.countP fun op => op.anomaly = some anomaly

/-- The recovery events of this anomaly that a run offered. -/
def recoveryCount (anomaly : FdirAnomaly) (trace : List (FdirStep cfg)) : Nat :=
  (trace.flatMap fun step => step.effects.recoveries).countP fun event =>
    event.aux.head? = some anomaly.code

/-- No call of the run arms anew. -/
def UntilNextArm (ops : List FdirOp) : Prop := ∀ op ∈ ops, op.arms = false

instance (ops : List FdirOp) : Decidable (UntilNextArm ops) :=
  inferInstanceAs (Decidable (∀ op ∈ ops, op.arms = false))

theorem fdirRun_accounted {system : FdirSystem cfg} {policy : RecoveryPolicy}
    {reports : FdirAnomaly → Nat} (accounted : Accounted system.fdir policy reports)
    {ops : List FdirOp} (keeps : UntilNextArm ops) :
    Accounted (fdirRun system ops).fdir policy fun anomaly =>
      reports anomaly + reportCount anomaly ops := by
  induction ops generalizing system reports with
  | nil => exact accounted
  | cons op rest inductionHypothesis =>
      have stepped := (fdirStep_recovers accounted (keeps op List.mem_cons_self)).accounted
      have run := inductionHypothesis stepped fun other member =>
        keeps other (List.mem_cons_of_mem op member)
      have counts : (fun anomaly => op.reportsAfter reports anomaly + reportCount anomaly rest) =
          fun anomaly => reports anomaly + reportCount anomaly (op :: rest) := by
        funext anomaly
        simp only [FdirOp.reportsAfter, reportCount, List.countP_cons, decide_eq_true_eq]
        omega
      rw [counts] at run
      exact run

theorem FdirAnomaly.code_injective {left right : FdirAnomaly} (same : left.code = right.code) :
    left = right := by
  cases left <;> cases right <;> first | rfl | contradiction

/-- A call recovers from an anomaly at most once, and only while the anomaly is
not confirmed yet; then it is. -/
theorem StepRecovers.count_le {system : FdirSystem cfg} {policy : RecoveryPolicy}
    {reports : FdirAnomaly → Nat} {op : FdirOp} {after : FdirCtx cfg} {effects : FdirEffects}
    (recovers : StepRecovers system policy reports op after effects) (anomaly : FdirAnomaly) :
    (effects.recoveries.countP fun event => event.aux.head? = some anomaly.code) ≤
      if op.anomaly = some anomaly ∧ reports anomaly + 1 = (policy.thresholds anomaly).toNat
        then 1 else 0 := by
  by_cases due : ∃ confirmed, op.anomaly = some confirmed ∧
      RecoveryDue system.fdir policy reports confirmed
  · obtain ⟨confirmed, reported, isDue⟩ := due
    rw [(recovers.recovers confirmed reported isDue).1]
    by_cases same : confirmed = anomaly
    · subst same
      rw [if_pos ⟨reported, isDue.reached⟩]
      exact List.countP_le_length
    · have different : confirmed.code ≠ anomaly.code := fun equal =>
        same (FdirAnomaly.code_injective equal)
      simp [fdirRecoveryEvent, different]
  · have quiet := recovers.quiet fun confirmed reported isDue =>
      due ⟨confirmed, reported, isDue⟩
    rw [quiet.1]
    exact Nat.zero_le _

/-- Once the reports are past the threshold there is no recovery left. -/
theorem fdirTrace_recoveryCount_le {system : FdirSystem cfg} {policy : RecoveryPolicy}
    {reports : FdirAnomaly → Nat} (accounted : Accounted system.fdir policy reports)
    {ops : List FdirOp} (keeps : UntilNextArm ops) (anomaly : FdirAnomaly) :
    recoveryCount anomaly (fdirTrace system ops) ≤
      if (policy.thresholds anomaly).toNat ≤ reports anomaly then 0 else 1 := by
  induction ops generalizing system reports with
  | nil => exact Nat.zero_le _
  | cons op rest inductionHypothesis =>
      have step := fdirStep_recovers accounted (keeps op List.mem_cons_self)
      have later := inductionHypothesis step.accounted fun other member =>
        keeps other (List.mem_cons_of_mem op member)
      have now := step.count_le anomaly
      rw [recoveryCount, fdirTrace, List.flatMap_cons, List.countP_append]
      rw [recoveryCount] at later
      simp only [FdirOp.reportsAfter] at later
      by_cases reported : op.anomaly = some anomaly
      · simp only [reported, true_and, if_true] at now later
        split at now <;> split at later <;> split <;> omega
      · simp only [reported, false_and, if_false, Nat.add_zero] at now later
        split at later <;> split <;> omega

/-- An accepted arm starts counting at zero, with the thresholds of the definitions. -/
theorem fdirArmRecovery_accounted {ctx : FdirCtx cfg} {modeAttached : Bool} {safeMode : UInt8}
    {confirms : List FdirConfirmDef}
    (accepted : (fdirArmRecovery ctx modeAttached safeMode confirms).1 = .ok) :
    Accounted (fdirArmRecovery ctx modeAttached safeMode confirms).2
      { thresholds := fdirThresholds confirms
        modeAttached := modeAttached
        safeMode := safeMode } fun _ => 0 := by
  have result : (fdirArmRecovery ctx modeAttached safeMode confirms).2 =
      { fifo := ctx.fifo
        occurrences := fun _ => 0
        thresholds := fdirThresholds confirms
        confirmed := fun _ => false
        modeAttached := modeAttached
        safeMode := safeMode
        recoveryEnabled := true } := by
    rw [fdirArmRecovery] at accepted ⊢
    split at accepted
    · contradiction
    · rename_i known
      rw [if_neg known]
  rw [result]
  constructor
  · intro anomaly
    simp
  · rfl
  · intro anomaly
    simp only [Bool.false_eq_true, false_iff, not_and]
    intro nonzero atMost
    exact nonzero (UInt16.le_zero_iff.mp atMost)
  · rfl
  · rfl

/-- Counts, latches and recoveries in every run from an accepted arm to the next:
the count is the number of reports, up to its maximum; an anomaly is confirmed
once it has reached a threshold that is not zero; a call recovers exactly when it
makes the count the threshold with recovery enabled and a manager attached, and
no anomaly is recovered from twice. -/
theorem fdirRun_confirmation (system : FdirSystem cfg) (modeAttached : Bool)
    (safeMode : UInt8) (confirms : List FdirConfirmDef)
    (accepted : (fdirArmRecovery system.fdir modeAttached safeMode confirms).1 = .ok)
    (ops : List FdirOp) (untilNextArm : UntilNextArm ops) :
    let policy : RecoveryPolicy :=
      { thresholds := fdirThresholds confirms
        modeAttached := modeAttached
        safeMode := safeMode }
    let armed : FdirSystem cfg :=
      { system with fdir := (fdirArmRecovery system.fdir modeAttached safeMode confirms).2 }
    let reached := fdirRun armed ops
    (∀ anomaly,
      (reached.fdir.occurrences anomaly).toNat = min (reportCount anomaly ops) 65535 ∧
      (reached.fdir.confirmed anomaly = true ↔ policy.thresholds anomaly ≠ 0 ∧
        policy.thresholds anomaly ≤ reached.fdir.occurrences anomaly) ∧
      recoveryCount anomaly (fdirTrace armed ops) ≤ 1) ∧
    ∀ op, op.arms = false →
      let due := fun anomaly => op.anomaly = some anomaly ∧ policy.thresholds anomaly ≠ 0 ∧
        reportCount anomaly (ops ++ [op]) = (policy.thresholds anomaly).toNat ∧
        reached.fdir.recoveryEnabled = true ∧ modeAttached = true
      (∀ anomaly, due anomaly →
        (fdirStep reached op).effects.RecoversFrom policy anomaly op.nowSeconds) ∧
      ((∀ anomaly, ¬ due anomaly) → (fdirStep reached op).effects.Quiet) := by
  intro policy armed reached
  have start : Accounted armed.fdir policy fun _ => 0 := fdirArmRecovery_accounted accepted
  have accounted := fdirRun_accounted start untilNextArm
  simp only [Nat.zero_add] at accounted
  refine ⟨fun anomaly => ⟨accounted.occurrences anomaly, accounted.confirmed anomaly, ?_⟩, ?_⟩
  · have once := fdirTrace_recoveryCount_le start untilNextArm anomaly
    split at once <;> omega
  · intro op keeps due
    have step := fdirStep_recovers accounted keeps
    have isDue (anomaly : FdirAnomaly) : due anomaly ↔ op.anomaly = some anomaly ∧
        RecoveryDue reached.fdir policy (fun anomaly => reportCount anomaly ops) anomaly := by
      have total (reported : op.anomaly = some anomaly) :
          reportCount anomaly (ops ++ [op]) = reportCount anomaly ops + 1 := by
        simp [reportCount, List.countP_append, reported]
      constructor
      · rintro ⟨reported, nonzero, count, enabled, attached⟩
        rw [total reported] at count
        exact ⟨reported, nonzero, count, enabled, attached⟩
      · rintro ⟨reported, nonzero, count, enabled, attached⟩
        exact ⟨reported, nonzero, by rw [total reported]; exact count, enabled, attached⟩
    refine ⟨fun anomaly held => ?_, fun none => step.quiet fun anomaly reported held => ?_⟩
    · obtain ⟨reported, held⟩ := (isDue anomaly).mp held
      exact step.recovers anomaly reported held
    · exact none anomaly ((isDue anomaly).mpr ⟨reported, held⟩)

/-- A context before its arm, next to the manager of a vehicle in nominal mode. -/
def unarmedSystem : FdirSystem defaultConfig where
  fdir := fdirZero defaultConfig
  mode :=
    { defs := [⟨0, 6⟩, ⟨1, 4⟩, ⟨2, 2⟩], current := 1, sinkWired := true, generation := 1 }
  modeSinkIsFdir := true

/-- The third rejection confirms the fault and commands the safe mode. -/
theorem fdirRun_confirmation_third :
    let rejection := FdirOp.reportAnomaly 0 7 0x040901
    let armed : FdirSystem defaultConfig :=
      { unarmedSystem with
        fdir := (fdirArmRecovery unarmedSystem.fdir true 2 [⟨0, 3⟩]).2 }
    (fdirStep (fdirRun armed [rejection, rejection]) rejection).effects.recoveries =
        [fdirRecoveryEvent .tcRejected 2 3 7] ∧
      (fdirStep (fdirRun armed [rejection, rejection]) rejection).effects.requests = [2] :=
  ((fdirRun_confirmation unarmedSystem true 2 [⟨0, 3⟩] rfl
    [.reportAnomaly 0 7 0x040901, .reportAnomaly 0 7 0x040901] (by decide)).2
    (.reportAnomaly 0 7 0x040901) rfl).1 .tcRejected ⟨rfl, by decide, by decide, rfl, rfl⟩

end FswCore
