import FswCore.App.PowerCycle
import FswCore.App.TickRun
import FswCore.Fdir.Safing

/-!
Contract: when the application is in its safe mode.

Owns:
- the calls a run makes of the FDIR context, and the rejections among them;
- from every start-up, over every run: the mode is the safe one exactly if it was
  restored, or if the rejections have reached the threshold of the build;
- once the safe mode is saved, every later state of a mission is in it.
-/

namespace FswCore

open Library

variable {geometry : NvGeometry} {cfg : Config} {build : AppBuild}

/-! ### The calls of a run -/

theorem tickCalls_observe (state : MainState cfg) (tick : LoopTick) :
    ∀ op ∈ (state.tickCalls tick).fdir, op.Observes := by
  intro op member
  rw [MainState.tickCalls, ComponentCalls.andThen, List.mem_append] at member
  rcases member with own | dispatched
  · cases tick with
    | rxOverflow nowSeconds drops =>
        simp only [MainState.ownCalls] at own
        split at own
        · rw [List.mem_singleton.mp own]
          trivial
        · contradiction
    | dynamicHk nowSeconds =>
        simp only [MainState.ownCalls] at own
        split at own <;> contradiction
    | fdir nowSeconds =>
        rw [List.mem_singleton.mp own]
        trivial
    | hk | release | retrieval | largedata | receive => exact absurd own List.not_mem_nil
  · split at dispatched
    · contradiction
    · obtain ⟨report, _, rfl⟩ := List.mem_map.mp dispatched
      trivial

theorem tickRunCalls_observe (state : MainState cfg) (ticks : List LoopTick) :
    ∀ op ∈ (tickRunCalls state ticks).fdir, op.Observes := by
  induction ticks generalizing state with
  | nil => exact fun op member => absurd member List.not_mem_nil
  | cons tick rest inductionHypothesis =>
      intro op member
      rcases List.mem_append.mp member with first | later
      · exact tickCalls_observe state tick op first
      · exact inductionHypothesis _ op later

theorem reportCount_append (anomaly : FdirAnomaly) (first second : List FdirOp) :
    reportCount anomaly (first ++ second) =
      reportCount anomaly first + reportCount anomaly second :=
  List.countP_append

/-- A tick reports a rejection for the telecommand the router rejects. -/
theorem tickCalls_rejections (state : MainState cfg) (wired : state.loop.ctx.sinkWired = true)
    (tick : LoopTick) :
    reportCount .tcRejected (state.tickCalls tick).fdir =
      (state.dispatches tick).toList.countP fun dispatch => dispatch.verdict.Rejected := by
  have own : reportCount .tcRejected (state.ownCalls tick).fdir = 0 := by
    cases tick with
    | rxOverflow nowSeconds drops =>
        simp only [MainState.ownCalls]
        split <;> rfl
    | dynamicHk nowSeconds =>
        simp only [MainState.ownCalls]
        split <;> rfl
    | hk | fdir | release | retrieval | largedata | receive => rfl
  rw [MainState.tickCalls, ComponentCalls.andThen, reportCount_append, own, Nat.zero_add]
  cases handed : state.dispatches tick with
  | none => rfl
  | some dispatch =>
      have sameWired : dispatch.ctx.sinkWired = true :=
        (congrArg RouterTally.sinkWired (dispatches_tally handed)).trans wired
      have reports := (tcRouterDispatch_tally dispatch.ctx dispatch.nowSeconds dispatch.tc
        (Nat.le_refl _)).sinkReports sameWired
      simp only [TickDispatch.calls, telecommandCalls, Option.toList_some, List.countP_singleton,
        decide_eq_true_eq]
      rw [reports]
      change reportCount .tcRejected ((if dispatch.verdict.Rejected then _ else []).map _) = _
      split <;> rfl

theorem tickRunCalls_rejections (state : MainState cfg) (wired : state.loop.ctx.sinkWired = true)
    (ticks : List LoopTick) :
    reportCount .tcRejected (tickRunCalls state ticks).fdir = tickRejections state ticks := by
  induction ticks generalizing state with
  | nil => rfl
  | cons tick rest inductionHypothesis =>
      have next : (loopTick state tick).1.loop.ctx.sinkWired = true :=
        (tickRun_counts state [tick]).2.2.2.trans wired
      rw [tickRunCalls, ComponentCalls.andThen, reportCount_append,
        tickCalls_rejections state wired, inductionHypothesis _ next]
      simp only [tickRejections, tickDispatches, List.countP_append]

/-! ### Start-up -/

/-- What the build's recovery watches for: rejections, and nothing without recovery. -/
def AppBuild.policy (build : AppBuild) : RecoveryPolicy where
  thresholds := fun anomaly =>
    if build.recoveryDemo = true ∧ anomaly = .tcRejected then build.tcRejectedThreshold else 0
  modeAttached := build.recoveryDemo
  safeMode := if build.recoveryDemo then fswModeSafe else 0

theorem appFdir_accounted (build : AppBuild) (memory : FdirCtx cfg) :
    Accounted (appFdir build memory) build.policy (fun _ => 0) ∧
      (appFdir build memory).recoveryEnabled = build.recoveryDemo := by
  rw [appFdir, AppBuild.policy]
  cases build.recoveryDemo with
  | true =>
      simp only [if_true, true_and]
      have armed := fdirArmRecovery_accounted
        (show (fdirArmRecovery (fdirInit memory) true fswModeSafe
          [{ anomaly := 0, threshold := build.tcRejectedThreshold }]).1 = .ok from rfl)
      have thresholds : fdirThresholds
          [{ anomaly := 0, threshold := build.tcRejectedThreshold }] =
          fun anomaly => if anomaly = .tcRejected then build.tcRejectedThreshold else 0 := by
        funext anomaly
        cases anomaly <;> rfl
      rw [thresholds] at armed
      exact ⟨armed, rfl⟩
  | false =>
      simp only [Bool.false_eq_true, if_false, false_and]
      refine ⟨⟨fun anomaly => rfl, rfl, fun anomaly => ?_, rfl, rfl⟩, rfl⟩
      simp [fdirInit]

/-- From the nominal or the safe mode of the build's table a request for the safe mode
leads there. -/
theorem leadsTo_safe {subs : Subsystems} (set : subs.FromTables cfg build.tables)
    (fits : 3 ≤ cfg.modeCapacity)
    (current : subs.mode.current = fswModeNominal ∨ subs.mode.current = fswModeSafe) :
    LeadsTo subs.mode fswModeSafe := by
  intro other sameDefs isCurrent nowSeconds
  have defs := sameDefs.trans (fromTables_modes set fits)
  have known : (modeIndexOf other.defs fswModeSafe).isNone = false := by
    rw [defs]
    decide
  have inTable : ¬ (fswModeSafe ≥ modeIdMax ∨
      (modeIndexOf other.defs fswModeSafe).isNone = true) := by
    rw [known]
    decide
  have oneOfTwo : other.current = fswModeNominal ∨ other.current = fswModeSafe := by
    rcases isCurrent with same | safe
    · rw [same]
      exact current
    · exact .inr safe
  rw [modeRequest, if_neg inTable]
  rcases oneOfTwo with nominal | safe
  · have allowed : modeIsAllowed other fswModeSafe = true := by
      simp only [modeIsAllowed, defs, nominal]
      decide
    rw [if_neg (by rw [allowed]; decide)]
  · have refused : modeIsAllowed other fswModeSafe = false := by
      simp only [modeIsAllowed, defs, safe]
      decide
    rw [if_pos refused]
    exact safe

/-- What a start-up leaves of the context's account, and the router's counts. -/
theorem appMain_account (build : AppBuild) (power : PowerUp cfg) (subs : Subsystems) :
    SameAccount (appMain cfg build power subs).1.loop.fdir.fdir
        (appFdir build power.fdirMemory) ∧
      (appMain cfg build power subs).1.loop.ctx.tally =
        { apid := fswApid, tcAcceptedCount := 0, tcRejectedCount := 0, sinkWired := true } := by
  have tally := (mainWired cfg subs
    { fdir := appFdir build power.fdirMemory, mode := subs.mode, modeSinkIsFdir := true }
    (appLargedata cfg build) power.bootSeconds).send_tally power.bootSeconds
      (.eventReport ((mainWired cfg subs
        { fdir := appFdir build power.fdirMemory, mode := subs.mode, modeSinkIsFdir := true }
        (appLargedata cfg build) power.bootSeconds).request power.bootSeconds)
        pus5SevInfo pus5EvtFswBoot []) trivial
  have account : (mainBoot cfg subs
      { fdir := appFdir build power.fdirMemory, mode := subs.mode, modeSinkIsFdir := true }
      (appLargedata cfg build) power.bootSeconds).1.loop.fdir.fdir =
        appFdir build power.fdirMemory := rfl
  change (mainBoot cfg subs
      { fdir := appFdir build power.fdirMemory, mode := subs.mode, modeSinkIsFdir := true }
      (appLargedata cfg build) power.bootSeconds).1.loop.ctx.tally = _ at tally
  simp only [appMain]
  generalize mainBoot cfg subs
    { fdir := appFdir build power.fdirMemory, mode := subs.mode, modeSinkIsFdir := true }
    (appLargedata cfg build) power.bootSeconds = reply at tally account ⊢
  obtain ⟨state, output⟩ := reply
  rw [← account]
  split
  · exact ⟨fdirModeRequest_account state.loop.fdir .otherModeChange fswModeNominal
      power.bootSeconds, tally⟩
  · exact ⟨.refl _, tally⟩

theorem appMain_mode (build : AppBuild) (power : PowerUp cfg) (subs : Subsystems) :
    (appMain cfg build power subs).1.loop.fdir.mode =
      (startedSubsystems cfg power subs).mode :=
  (Components.subsystems_fdir (appMain_subsystems power subs)
    (appMain cfg build power subs).1.loop.fdir).1

/-- The mode the loop starts in. -/
theorem startedSubsystems_current {subs : Subsystems} (set : subs.FromTables cfg build.tables)
    (fits : 3 ≤ cfg.modeCapacity) (power : PowerUp cfg) :
    (startedSubsystems cfg power subs).mode.current =
      if subs.mode.current = fswModeSafe then fswModeSafe else fswModeNominal := by
  have defs := fromTables_modes set fits
  have mode := congrFun (startedSubsystems_state set power) .mode
  change (startedSubsystems cfg power subs).mode.current =
    (if subs.mode.current = fswModeBoot ∧ 3 ≤ cfg.modeCapacity then fswModeNominal
      else subs.mode.current) at mode
  rw [mode]
  have oneOfThree : subs.mode.current = fswModeBoot ∨ subs.mode.current = fswModeNominal ∨
      subs.mode.current = fswModeSafe := by
    cases set.consistent with
    | empty noDefs _ =>
        rw [defs] at noDefs
        contradiction
    | declared _ isDeclared =>
        obtain ⟨mode, member, isCurrent⟩ := modeIndexOf_mem isDeclared
        rw [defs] at member
        simp only [appTables, List.mem_cons, List.not_mem_nil, or_false] at member
        rw [← isCurrent]
        rcases member with rfl | rfl | rfl
        · exact .inl rfl
        · exact .inr (.inl rfl)
        · exact .inr (.inr rfl)
  rcases oneOfThree with boot | nominal | safe
  · rw [if_pos ⟨boot, fits⟩, boot, if_neg (by decide)]
  · rw [if_neg (by rw [nominal]; exact fun both => absurd both.1 (by decide)), nominal,
      if_neg (by decide)]
  · rw [if_neg (by rw [safe]; exact fun both => absurd both.1 (by decide)), safe, if_pos rfl]

theorem appRestore_fromTables (cfg : Config) (tables : AppTables)
    (loaded : NvstoreStatus × Nvstore) : (appRestore cfg tables loaded).FromTables cfg tables := by
  rw [appRestore]
  split
  · apply List.foldlRecOn nvRecordTypes _ (Subsystems.FromTables.init cfg tables)
    intro subs set recordType _
    split
    · exact set.restore recordType _
    · exact set
  · exact .init cfg tables

theorem mode_startedFromTables {subs : Subsystems} (set : subs.FromTables cfg build.tables)
    (power : PowerUp cfg) : (startedSubsystems cfg power subs).FromTables cfg build.tables := by
  rw [startedSubsystems]
  split
  · exact set.mutate _
  · exact set

/-- The loop starts with recovery armed as the build has it. -/
theorem appMain_safing {subs : Subsystems} (set : subs.FromTables cfg build.tables)
    (fits : 3 ≤ cfg.modeCapacity) (power : PowerUp cfg) :
    SafingHolds (startedSubsystems cfg power subs).mode build.policy (fun _ => 0)
      (appMain cfg build power subs).1.loop.fdir := by
  obtain ⟨account, _⟩ := appMain_account build power subs
  obtain ⟨accounted, enabled⟩ := appFdir_accounted build power.fdirMemory
  have current := startedSubsystems_current set fits power
  have mode := appMain_mode build power subs
  refine ⟨accounted.congr account, fun anomaly nonzero => ?_, congrArg ModeManager.defs mode,
    fun tripped => ?_, fun _ => congrArg ModeManager.current mode⟩
  · have armed : build.recoveryDemo = true := by
      by_contra unarmed
      exact nonzero (if_neg fun both => unarmed both.1)
    refine ⟨account.recoveryEnabled.trans (enabled.trans armed), armed, ?_⟩
    rw [AppBuild.policy, armed]
    apply leadsTo_safe (mode_startedFromTables set power) fits
    rw [current]
    split
    · exact .inr rfl
    · exact .inl rfl
  · obtain ⟨anomaly, nonzero, reached⟩ := tripped
    exact absurd (UInt16.toNat_inj.mp (Nat.le_zero.mp reached)) nonzero

theorem tripped_policy (build : AppBuild) (reports : FdirAnomaly → Nat) :
    Tripped build.policy reports ↔
      build.recoveryDemo = true ∧ build.tcRejectedThreshold ≠ 0 ∧
        build.tcRejectedThreshold.toNat ≤ reports .tcRejected := by
  have threshold (armed : build.recoveryDemo = true) :
      build.policy.thresholds .tcRejected = build.tcRejectedThreshold := if_pos ⟨armed, rfl⟩
  constructor
  · rintro ⟨anomaly, nonzero, reached⟩
    by_cases watched : build.recoveryDemo = true ∧ anomaly = .tcRejected
    · obtain ⟨armed, rfl⟩ := watched
      rw [threshold armed] at nonzero reached
      exact ⟨armed, nonzero, reached⟩
    · exact absurd (if_neg watched) nonzero
  · rintro ⟨armed, nonzero, reached⟩
    refine ⟨.tcRejected, ?_⟩
    rw [threshold armed]
    exact ⟨nonzero, reached⟩

/-! ### The safe mode -/

/-- From every start-up, over every run of the loop's ticks: the application is in the
safe mode exactly if it started in it, or if recovery is armed and the telecommands
rejected since have reached the threshold; and the rejection counter of its telemetry
is their number. -/
theorem tickRun_safeMode_iff (fits : 3 ≤ cfg.modeCapacity) (power : PowerUp cfg)
    (flash : Flash geometry) (ticks : List LoopTick) :
    let start := (powerUp cfg build power flash).main
    let reached := tickRun start ticks
    (reached.loop.fdir.mode.current = fswModeSafe ↔
      start.loop.fdir.mode.current = fswModeSafe ∨
        build.recoveryDemo = true ∧ build.tcRejectedThreshold ≠ 0 ∧
          build.tcRejectedThreshold.toNat ≤ tickRejections start ticks) ∧
      (reached.loop.fdir.mode.current = fswModeNominal ∨
        reached.loop.fdir.mode.current = fswModeSafe) ∧
      reached.loop.ctx.tcRejectedCount = UInt32.ofNat (tickRejections start ticks) := by
  intro start reached
  have set := appRestore_fromTables cfg build.tables (nvReboot power.memory flash)
  have holds := appMain_safing set fits power
  have mode := appMain_mode build power
    (appRestore cfg build.tables (nvReboot power.memory flash))
  have current := startedSubsystems_current set fits power
  obtain ⟨_, tally⟩ := appMain_account build power
    (appRestore cfg build.tables (nvReboot power.memory flash))
  have wired : start.loop.ctx.sinkWired = true := congrArg RouterTally.sinkWired tally
  have zero : start.loop.ctx.tcRejectedCount = 0 := congrArg RouterTally.tcRejectedCount tally
  have ran := holds.run (tickRunCalls_observe start ticks)
  have components := congrArg Components.fdir (tickRun_components start ticks)
  change reached.loop.fdir = fdirRun start.loop.fdir (tickRunCalls start ticks).fdir at components
  change SafingHolds _ _ _ (fdirRun start.loop.fdir _) at ran
  rw [← components] at ran
  have rejections := tickRunCalls_rejections start wired ticks
  have trips := tripped_policy build fun anomaly =>
    0 + reportCount anomaly (tickRunCalls start ticks).fdir
  rw [Nat.zero_add, rejections] at trips
  have startMode : start.loop.fdir.mode.current = fswModeNominal ∨
      start.loop.fdir.mode.current = fswModeSafe := by
    change (appMain cfg build power _).1.loop.fdir.mode.current = _ ∨
      (appMain cfg build power _).1.loop.fdir.mode.current = _
    rw [mode, current]
    split
    · exact .inr rfl
    · exact .inl rfl
  have counts := (tickRun_counts start ticks).2.1
  rw [zero, UInt32.zero_add] at counts
  have safeMode (tripped : Tripped build.policy fun anomaly =>
      0 + reportCount anomaly (tickRunCalls start ticks).fdir) :
      reached.loop.fdir.mode.current = fswModeSafe := by
    rw [ran.safe tripped, AppBuild.policy, (trips.mp tripped).1]
    rfl
  have before (not : ¬ Tripped build.policy fun anomaly =>
      0 + reportCount anomaly (tickRunCalls start ticks).fdir) :
      reached.loop.fdir.mode.current = start.loop.fdir.mode.current := by
    rw [ran.before not]
    exact (congrArg ModeManager.current mode).symm
  refine ⟨⟨fun safe => ?_, fun either => ?_⟩, ?_, counts⟩
  · by_cases tripped : Tripped build.policy fun anomaly =>
        0 + reportCount anomaly (tickRunCalls start ticks).fdir
    · exact .inr (trips.mp tripped)
    · exact .inl ((before tripped).symm.trans safe)
  · by_cases tripped : Tripped build.policy fun anomaly =>
        0 + reportCount anomaly (tickRunCalls start ticks).fdir
    · exact safeMode tripped
    · rcases either with started | reachedThreshold
      · exact (before tripped).trans started
      · exact absurd (trips.mpr reachedThreshold) tripped
  · by_cases tripped : Tripped build.policy fun anomaly =>
        0 + reportCount anomaly (tickRunCalls start ticks).fdir
    · exact .inr (safeMode tripped)
    · rw [before tripped]
      exact startMode

/-- The octets of a telecommand with the wrong checksum, one iteration after the other. -/
def corruptUplink : List LoopTick :=
  [0x19, 0, 0xC0, 0, 0, 6, 0x29, 17, 1, 0, 0, 0, 0].map fun byte => .receive 9 0 (some byte)

theorem tickRun_safeMode_iff_rejected :
    (tickRun (powerUp defaultConfig watchfulBuild (zeroedPowerUp defaultConfig 0)
      (erasedFlash { sectorSize := 2048, sectorCount := 2, writeBlock := 32 })).main
        corruptUplink).loop.fdir.mode.current = fswModeSafe := by
  have safe := (@tickRun_safeMode_iff _ defaultConfig watchfulBuild (by decide)
    (zeroedPowerUp defaultConfig 0)
    (erasedFlash { sectorSize := 2048, sectorCount := 2, writeBlock := 32 }) corruptUplink).1
  exact safe.mpr (.inr ⟨rfl, by decide, by decide +kernel⟩)

/-! ### Missions -/

/-- No tick of the run counts a generation past its width. -/
def TicksFit (state : MainState cfg) : List LoopTick → Prop
  | [] => True
  | tick :: rest => state.CountsFit tick ∧ TicksFit (loopTick state tick).1 rest

instance decidableTicksFit (state : MainState cfg) :
    (ticks : List LoopTick) → Decidable (TicksFit state ticks)
  | [] => inferInstanceAs (Decidable True)
  | tick :: rest =>
      have := decidableTicksFit (loopTick state tick).1 rest
      inferInstanceAs (Decidable (_ ∧ _))

theorem MissionRun.ticks {mission : Mission geometry cfg} {saved : OperatorState}
    {ticks : List LoopTick} (run : MissionRun cfg build mission saved)
    (fits : TicksFit mission.main ticks) :
    MissionRun cfg build { mission with main := tickRun mission.main ticks } saved := by
  induction ticks generalizing mission with
  | nil => exact run
  | cons tick rest inductionHypothesis => exact inductionHypothesis (run.tick tick fits.1) fits.2

theorem Mission.subsystems_mode {mission : Mission geometry cfg} {subs : Subsystems}
    (held : mission.subsystems = some subs) :
    mission.main.loop.fdir.mode.current = subs.operatorState.mode :=
  congrArg ModeManager.current (Components.subsystems_fdir held mission.main.loop.fdir).1

/-- What a mission's loop has been through since it started, and the mode. -/
structure MissionSafing (build : AppBuild) (mission : Mission geometry cfg)
    (saved : OperatorState) : Prop where
  safing : ∃ start reports, SafingHolds start build.policy reports mission.main.loop.fdir
  kept : saved.mode = fswModeSafe → mission.main.loop.fdir.mode.current = fswModeSafe

/-- A tick does not leave the safe mode. -/
theorem SafingHolds.absorbing {start : ModeManager} {reports : FdirAnomaly → Nat}
    {system : FdirSystem cfg} (holds : SafingHolds start build.policy reports system)
    {ops : List FdirOp} (observe : ∀ op ∈ ops, op.Observes)
    (safe : system.mode.current = fswModeSafe) :
    (fdirRun system ops).mode.current = fswModeSafe := by
  have ran := holds.run observe
  by_cases tripped : Tripped build.policy fun anomaly => reports anomaly + reportCount anomaly ops
  · rw [ran.safe tripped, AppBuild.policy, ((tripped_policy build _).mp tripped).1]
    rfl
  · have earlier : ¬ Tripped build.policy reports := by
      rintro ⟨anomaly, nonzero, reached⟩
      exact tripped ⟨anomaly, nonzero, Nat.le_trans reached (Nat.le_add_right _ _)⟩
    rw [ran.before tripped, ← holds.before earlier]
    exact safe

/-- A start-up comes back with the mode last saved. -/
theorem powerUp_safing (accepted : backendOk geometry = true) (fits : 3 ≤ cfg.modeCapacity)
    {power : PowerUp cfg} {flash : Flash geometry} {saved : OperatorState} {after : Subsystems}
    {records : List Record}
    (holds : MissionHolds cfg build (powerUp cfg build power flash) saved after records) :
    MissionSafing build (powerUp cfg build power flash) saved := by
  obtain ⟨subs, started, state⟩ := powerUp_holds accepted holds.images holds.budget holds.flash
    holds.restores power
  have set := appRestore_fromTables cfg build.tables (nvReboot power.memory flash)
  refine ⟨⟨_, _, appMain_safing set fits power⟩, fun savedSafe => ?_⟩
  have mode := congrFun state .mode
  have sameMode := (Components.subsystems_fdir started.held
    (powerUp cfg build power flash).main.loop.fdir).1
  change (powerUp cfg build power flash).main.loop.fdir.mode = subs.mode at sameMode
  rw [sameMode]
  change subs.mode.current =
    (if saved.mode = fswModeBoot ∧ 3 ≤ cfg.modeCapacity then fswModeNominal else saved.mode) at mode
  rw [mode, savedSafe, if_neg fun both => absurd both.1 (by decide)]

/-- Once the safe mode is saved, the application is in it: in every state of a mission
whose last save had the safe mode, over any ticks, power cycles and cuts. -/
theorem missionRun_safeMode_kept (accepted : backendOk geometry = true)
    (two : geometry.sectorCount = 2) (admitted : cfg.KconfigAdmitted)
    (suffice : BuffersSuffice cfg) (fits : 3 ≤ cfg.modeCapacity)
    {mission : Mission geometry cfg} {saved : OperatorState}
    (run : MissionRun cfg build mission saved)
    (savedSafe : saved.mode = fswModeSafe) :
    mission.main.loop.fdir.mode.current = fswModeSafe := by
  suffices MissionSafing build mission saved from this.kept savedSafe
  clear savedSafe
  have started {power : PowerUp cfg} {flash : Flash geometry} {saved : OperatorState}
      (run : MissionRun cfg build (powerUp cfg build power flash) saved) :
      MissionSafing build (powerUp cfg build power flash) saved := by
    obtain ⟨subs, records, holds⟩ := missionRun_holds accepted two admitted suffice run
    exact powerUp_safing accepted fits holds
  induction run with
  | powerUp power flash blank => exact started (.powerUp power flash blank)
  | tick tick fitsWidth run inductionHypothesis =>
      rename_i mission saved
      obtain ⟨⟨start, reports, holds⟩, kept⟩ := inductionHypothesis
      have calls := congrArg Components.fdir (loopTick_calls mission.main tick)
      change (loopTick mission.main tick).1.loop.fdir =
        fdirRun mission.main.loop.fdir (mission.main.tickCalls tick).fdir at calls
      have observe := tickCalls_observe mission.main tick
      refine ⟨⟨start, _, calls ▸ holds.run observe⟩, fun savedSafe => ?_⟩
      · change (loopTick mission.main tick).1.loop.fdir.mode.current = fswModeSafe
        rw [calls]
        exact holds.absorbing observe (kept savedSafe)
  | save held seqFits run inductionHypothesis =>
      rename_i mission saved subs
      obtain ⟨safing, _⟩ := inductionHypothesis
      have main : (mission.save (.none : FlashFault geometry)).main = mission.main := by
        simp only [Mission.save, held]
      rw [missionEvent]
      refine ⟨main ▸ safing, fun savedSafe => ?_⟩
      rw [main]
      exact (Mission.subsystems_mode held).trans savedSafe
  | powerCycle power run inductionHypothesis => exact started (.powerCycle power run)
  | cutLost held power leaves lost run inductionHypothesis =>
      exact started (.cutLost held power leaves lost run)
  | cutComplete held power seqFits leaves complete run inductionHypothesis =>
      exact started (.cutComplete held power seqFits leaves complete run)

/-- Saved safe, powered down and up again, and on through a run of the loop. -/
theorem missionRun_safeMode_kept_reboot :
    let geometry : NvGeometry := { sectorSize := 2048, sectorCount := 2, writeBlock := 32 }
    let started := powerUp defaultConfig watchfulBuild (zeroedPowerUp defaultConfig 0)
      (erasedFlash geometry)
    let rejected : Mission geometry defaultConfig :=
      { started with main := tickRun started.main corruptUplink }
    let rebooted := missionEvent watchfulBuild (missionEvent watchfulBuild rejected (.save .none))
      (.powerCycle (zeroedPowerUp defaultConfig 3))
    rebooted.main.loop.fdir.mode.current = fswModeSafe := by
  intro geometry started rejected rebooted
  have accepted : backendOk geometry = true := by decide
  have run : MissionRun defaultConfig watchfulBuild rejected _ :=
    (MissionRun.powerUp (zeroedPowerUp defaultConfig 0) _ (imageSlots_erased geometry)).ticks
      (show TicksFit started.main corruptUplink by decide +kernel)
  have present : rejected.subsystems.isSome = true := by decide +kernel
  have seqFits : SeqFits rejected.autosave.store := by decide +kernel
  obtain ⟨subs, held⟩ := Option.isSome_iff_exists.mp present
  have safe : rejected.main.loop.fdir.mode.current = fswModeSafe := by decide +kernel
  have savedSafe : subs.operatorState.mode = fswModeSafe :=
    (Mission.subsystems_mode held).symm.trans safe
  exact missionRun_safeMode_kept accepted rfl Config.default_kconfigAdmitted (by decide)
    (by decide) ((run.save held seqFits).powerCycle (zeroedPowerUp defaultConfig 3)) savedSafe

end FswCore
