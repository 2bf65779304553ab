import FswCore.App.ComponentCalls
import FswCore.App.OperatorState
import FswCore.App.StoreLimit
import FswCore.Fdir.Commanding

/-!
Contract: the whole application over its life: power cycles, iterations of the main
loop and save ticks, in any order.

Owns:
- `appMain`, `main` up to its loop, on what the flash restores;
- `Mission`, the main loop next to the flash and the record store;
- what a tick does to the persisted subsystems is a sequence of mutations, so that
  the mission refines the runs of `appRun`.

The build has the mode manager. The ticks come in any order here, those of an
iteration among them. Does not own: what the flash holds after a save.
-/

namespace FswCore

open Library

variable {geometry : NvGeometry} {cfg : Config}

/-! ### Start-up -/

def fswModeBoot : UInt8 := 0
def fswModeNominal : UInt8 := 1
def fswModeSafe : UInt8 := 2

/-- What the build sets: the seeds of the parameters, and the demonstrations. -/
structure AppBuild where
  hkPeriodSec : UInt32
  fwVersion : UInt16
  fwBuildId : UInt32
  largedataDemo : Bool
  recoveryDemo : Bool
  tcRejectedThreshold : UInt16

def AppBuild.tables (build : AppBuild) : AppTables :=
  appTables build.hkPeriodSec build.fwVersion build.fwBuildId

/-- A build that recovers from the first rejection. -/
def watchfulBuild : AppBuild where
  hkPeriodSec := 10
  fwVersion := 1
  fwBuildId := 7
  largedataDemo := false
  recoveryDemo := true
  tcRejectedThreshold := 1

/-- What the code finds in memory when the power comes on, and the clock. -/
structure PowerUp (cfg : Config) where
  memory : Nvstore
  buffer : memory.payload.length = nvstorePayloadMax
  fdirMemory : FdirCtx cfg
  bootSeconds : UInt32

/-- Memory as it comes up zeroed. -/
def zeroedPowerUp (cfg : Config) (bootSeconds : UInt32) : PowerUp cfg where
  memory := nvstoreZero
  buffer := List.length_replicate
  fdirMemory := fdirZero cfg
  bootSeconds := bootSeconds

/-- The session of the demonstration, if the build has it. -/
def appLargedata (cfg : Config) (build : AppBuild) : LargedataSession :=
  largedataBoot cfg build.largedataDemo

/-- The context with recovery armed, if the build has it. -/
def appFdir (build : AppBuild) (memory : FdirCtx cfg) : FdirCtx cfg :=
  if build.recoveryDemo then
    (fdirArmRecovery (fdirInit memory) true fswModeSafe
      [{ anomaly := 0, threshold := build.tcRejectedThreshold }]).2
  else fdirInit memory

/-- `main` up to the loop, on the restored subsystems: the boot event, then the way
to the nominal mode unless a mode was restored. -/
def appMain (cfg : Config) (build : AppBuild) (power : PowerUp cfg) (subs : Subsystems) :
    MainState cfg × LoopOutput :=
  let fdir : FdirSystem cfg :=
    { fdir := appFdir build power.fdirMemory, mode := subs.mode, modeSinkIsFdir := true }
  let (booted, output) := mainBoot cfg subs fdir (appLargedata cfg build) power.bootSeconds
  if booted.loop.fdir.mode.current = fswModeBoot then
    let (_, fdir, _) :=
      fdirModeRequest booted.loop.fdir .otherModeChange fswModeNominal power.bootSeconds
    ({ booted with loop := { booted.loop with fdir := fdir } }, output)
  else (booted, output)

/-! ### The mission -/

/-- The subsystems the save tick visits. -/
def Components.subsystems (components : Components cfg) : Option Subsystems :=
  match components.stores.datapool, components.stores.schedule, components.stores.hkstore with
  | some datapool, some schedule, some hkstore => some
      { datapool := datapool
        schedule := schedule
        hkstore := hkstore
        mode := components.fdir.mode }
  | _, _, _ => none

structure Mission (geometry : NvGeometry) (cfg : Config) where
  main : MainState cfg
  autosave : AutosaveState
  flash : Flash geometry

def Mission.subsystems (mission : Mission geometry cfg) : Option Subsystems :=
  mission.main.components.subsystems

/-- Initialise, load, restore and start. -/
def powerUp (cfg : Config) (build : AppBuild) (power : PowerUp cfg) (flash : Flash geometry) :
    Mission geometry cfg :=
  let loaded := nvReboot power.memory flash
  { main := (appMain cfg build power (appRestore cfg build.tables loaded)).1
    autosave := { lastSavedGen := fun _ => 0, store := loaded.2 }
    flash := flash }

inductive MissionEvent (geometry : NvGeometry) (cfg : Config) where
  | tick (tick : LoopTick)
  | save (fault : FlashFault geometry)
  | powerCycle (power : PowerUp cfg)

/-- The save tick: the pointers it reads are set before the loop. -/
def Mission.save (mission : Mission geometry cfg) (fault : FlashFault geometry) :
    Mission geometry cfg :=
  match mission.subsystems with
  | none => mission
  | some subs =>
      let (autosave, flash) := autosaveTick (flashBackend geometry fault) subs mission.flash
        mission.autosave
      { mission with autosave := autosave, flash := flash }

def missionEvent (build : AppBuild) (mission : Mission geometry cfg) :
    MissionEvent geometry cfg → Mission geometry cfg
  | .tick tick => { mission with main := (loopTick mission.main tick).1 }
  | .save fault => mission.save fault
  | .powerCycle power => powerUp cfg build power mission.flash

/-! ### Ticks as mutations -/

/-- A call of the mode manager, as a mutation of it. -/
def ModeEvent.mutation : ModeEvent → Option SubsystemMutation
  | .request target nowSeconds => some (.modeRequest target nowSeconds)
  | .restore _ => none

/-- The mutations that calls make of the persisted subsystems. -/
def ComponentCalls.mutations (calls : ComponentCalls) (system : FdirSystem cfg) :
    List SubsystemMutation :=
  calls.stores.datapool.map (fun set => .datapoolSet set.1 set.2) ++
    (calls.stores.schedule.map .schedule ++ (calls.stores.hkstore.map .hkstore ++
      (fdirRunModeEvents system calls.fdir).filterMap ModeEvent.mutation))

theorem subsystemsRun_append (subs : Subsystems) (first second : List SubsystemMutation) :
    subsystemsRun cfg subs (first ++ second) =
      subsystemsRun cfg (subsystemsRun cfg subs first) second :=
  List.foldl_append

theorem subsystemsRun_datapool (subs : Subsystems) (sets : List (UInt16 × DpValue)) :
    subsystemsRun cfg subs (sets.map fun set => .datapoolSet set.1 set.2) =
      { subs with datapool := pus20Apply subs.datapool sets } := by
  induction sets generalizing subs with
  | nil => rfl
  | cons set rest inductionHypothesis => exact inductionHypothesis _

theorem subsystemsRun_schedule (subs : Subsystems) (ops : List ScheduleOp) :
    subsystemsRun cfg subs (ops.map .schedule) =
      { subs with schedule := scheduleCalls cfg subs.schedule ops } := by
  induction ops generalizing subs with
  | nil => rfl
  | cons op rest inductionHypothesis => exact inductionHypothesis _

theorem subsystemsRun_hkstore (subs : Subsystems) (ops : List HkstoreOp) :
    subsystemsRun cfg subs (ops.map .hkstore) =
      { subs with hkstore := hkstoreOpsRun cfg subs.hkstore ops } := by
  induction ops generalizing subs with
  | nil => rfl
  | cons op rest inductionHypothesis => exact inductionHypothesis _

/-- Requests only: the manager goes through them. -/
theorem subsystemsRun_mode (subs : Subsystems) {events : List ModeEvent}
    (requests : ∀ image, ModeEvent.restore image ∉ events) :
    subsystemsRun cfg subs (events.filterMap ModeEvent.mutation) =
      { subs with mode := modeFinal subs.mode events } := by
  induction events generalizing subs with
  | nil => rfl
  | cons event rest inductionHypothesis =>
      cases event with
      | restore image => exact absurd List.mem_cons_self (requests image)
      | request target nowSeconds =>
          exact inductionHypothesis (subs.mutate cfg (.modeRequest target nowSeconds))
            fun image member => requests image (List.mem_cons_of_mem _ member)

/-- No call restores the mode manager; only the start-up does. -/
def ComponentCalls.RestoresNothing (calls : ComponentCalls) : Prop :=
  ∀ image, FdirOp.modeRestore image ∉ calls.fdir

theorem fdirRunModeEvents_requests (system : FdirSystem cfg) {ops : List FdirOp}
    (nothing : ∀ image, FdirOp.modeRestore image ∉ ops) (image : List UInt8) :
    ModeEvent.restore image ∉ fdirRunModeEvents system ops := by
  induction ops generalizing system with
  | nil => exact List.not_mem_nil
  | cons op rest inductionHypothesis =>
      rw [fdirRunModeEvents, List.mem_append, not_or]
      refine ⟨?_, inductionHypothesis _ fun other member =>
        nothing other (List.mem_cons_of_mem op member)⟩
      cases op with
      | modeRestore other => exact absurd List.mem_cons_self (nothing other)
      | modeRequest target nowSeconds => simp [fdirModeEvents]
      | reportAnomaly | sinkReport | setEnabled | armRecovery | drain => simp [fdirModeEvents]

/-- The subsystems behind calls have gone through their mutations. -/
theorem Components.after_subsystems (components : Components cfg) {calls : ComponentCalls}
    (nothing : calls.RestoresNothing) :
    (components.after calls).subsystems =
      components.subsystems.map fun subs =>
        subsystemsRun cfg subs (calls.mutations components.fdir) := by
  have mode := (fdirRun_commands components.fdir calls.fdir).1
  have requests := fdirRunModeEvents_requests components.fdir nothing
  simp only [ComponentCalls.mutations, subsystemsRun_append, subsystemsRun_datapool,
    subsystemsRun_schedule, subsystemsRun_hkstore, subsystemsRun_mode _ requests,
    Components.subsystems, Components.after, RouterStores.after]
  cases components.stores.datapool with
  | none => rfl
  | some datapool =>
      cases components.stores.schedule with
      | none => rfl
      | some schedule =>
          cases components.stores.hkstore with
          | none => rfl
          | some hkstore => simp only [Option.map_some, mode]

end FswCore
