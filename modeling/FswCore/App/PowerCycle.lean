import FswCore.App.Capacity
import FswCore.App.Mission

/-!
Contract: what a power cycle does to the state an operator sets up on board.

Owns:
- `MissionRun`, missions of ticks, save ticks, power cycles and save ticks that a power
  cut ends, each with the state last saved;
- `MissionHolds`, the invariant that ties subsystems, snapshots, payload and flash;
- in every such mission a power cycle brings back the state last saved.

A save that fails without a power cut is outside: its mutations are not saved by the
next tick either.
-/

namespace FswCore

open Library

variable {geometry : NvGeometry} {cfg : Config} {build : AppBuild}

/-! ### Missions -/

/-- The tick counts no generation past its width. -/
def MainState.CountsFit (state : MainState cfg) (tick : LoopTick) : Prop :=
  ∀ subs, state.components.subsystems = some subs → ∀ recordType,
    (subs.generation recordType).toNat + generationBumps cfg recordType subs
      ((state.tickCalls tick).mutations state.components.fdir) < 4294967296

/-- It is enough to look at the four of them. -/
instance (state : MainState cfg) (tick : LoopTick) : Decidable (state.CountsFit tick) :=
  decidable_of_iff
    (∀ subs ∈ state.components.subsystems, ∀ recordType ∈ nvRecordTypes,
      (subs.generation recordType).toNat + generationBumps cfg recordType subs
        ((state.tickCalls tick).mutations state.components.fdir) < 4294967296)
    ⟨fun fits subs held recordType => fits subs held recordType (mem_nvRecordTypes recordType),
      fun fits subs held recordType _ => fits subs held recordType⟩

/-- The store once the save tick has put the changed records, before it saves. -/
def Mission.putsState (mission : Mission geometry cfg) (subs : Subsystems) : NvState geometry :=
  { flash := mission.flash, store := (autosavePuts subs mission.autosave).2.store }

/-- The missions from a first power-up, each with the state last saved: before the
first save it is the one the tables set up. -/
inductive MissionRun (cfg : Config) (build : AppBuild) :
    Mission geometry cfg → OperatorState → Prop where
  | powerUp (power : PowerUp cfg) (flash : Flash geometry)
      (blank : ∀ slot, imageSlots flash slot = none) :
      MissionRun cfg build (powerUp cfg build power flash)
        (subsystemsInit cfg build.tables).operatorState
  | tick {mission saved} (tick : LoopTick) (fits : mission.main.CountsFit tick)
      (run : MissionRun cfg build mission saved) :
      MissionRun cfg build (missionEvent build mission (.tick tick)) saved
  | save {mission saved subs} (held : mission.subsystems = some subs)
      (seqFits : SeqFits mission.autosave.store) (run : MissionRun cfg build mission saved) :
      MissionRun cfg build (missionEvent build mission (.save .none)) subs.operatorState
  | powerCycle {mission saved} (power : PowerUp cfg) (run : MissionRun cfg build mission saved) :
      MissionRun cfg build (missionEvent build mission (.powerCycle power)) saved
  | cutLost {mission saved subs fault residue} (held : mission.subsystems = some subs)
      (power : PowerUp cfg) (leaves : FaultLeaves fault residue)
      (lost : ResidueLost (mission.putsState subs) residue)
      (run : MissionRun cfg build mission saved) :
      MissionRun cfg build
        (missionEvent build (missionEvent build mission (.save fault)) (.powerCycle power)) saved
  | cutComplete {mission saved subs fault residue} (held : mission.subsystems = some subs)
      (power : PowerUp cfg) (seqFits : SeqFits mission.autosave.store)
      (leaves : FaultLeaves fault residue)
      (complete : ResidueComplete (mission.putsState subs) residue)
      (run : MissionRun cfg build mission saved) :
      MissionRun cfg build
        (missionEvent build (missionEvent build mission (.save fault)) (.powerCycle power))
        subs.operatorState

/-! ### Start-up -/

/-- On its way to the loop the application leaves the boot mode, if the table fits. -/
def startedFrom (cfg : Config) (saved : OperatorState) : OperatorState
  | .mode =>
      if saved.mode = fswModeBoot ∧ 3 ≤ cfg.modeCapacity then fswModeNominal else saved.mode
  | recordType => saved recordType

/-- The subsystems the loop starts with. -/
def startedSubsystems (cfg : Config) (power : PowerUp cfg) (subs : Subsystems) : Subsystems :=
  if subs.mode.current = fswModeBoot then
    subs.mutate cfg (.modeRequest fswModeNominal power.bootSeconds)
  else subs

theorem mainBoot_subsystems (subs : Subsystems) (fdir : FdirSystem cfg)
    (largedata : LargedataSession) (bootSeconds : UInt32) (sameMode : fdir.mode = subs.mode) :
    (mainBoot cfg subs fdir largedata bootSeconds).1.components.subsystems = some subs := by
  have sends := (mainWired cfg subs fdir largedata bootSeconds).send_components bootSeconds
    (.eventReport ((mainWired cfg subs fdir largedata bootSeconds).request bootSeconds)
      pus5SevInfo pus5EvtFswBoot []) trivial rfl
  change (mainBoot cfg subs fdir largedata bootSeconds).1.components = _ at sends
  rw [sends]
  simp only [Components.subsystems, Components.after, RouterStores.after, recordCalls,
    List.foldl_nil, fdirRun]
  simp only [mainWired, LoopState.components, mainRouterCtx, RouterCtx.stores, sameMode]
  rfl

/-- A change of the manager is seen in the mode alone. -/
theorem Components.subsystems_fdir {components : Components cfg} {subs : Subsystems}
    (held : components.subsystems = some subs) (fdir : FdirSystem cfg) :
    components.fdir.mode = subs.mode ∧
      Components.subsystems { components with fdir := fdir } =
        some { subs with mode := fdir.mode } := by
  obtain ⟨⟨datapool, schedule, store, hkstore⟩, system⟩ := components
  cases datapool with
  | none => contradiction
  | some datapool =>
      cases schedule with
      | none => contradiction
      | some schedule =>
          cases hkstore with
          | none => contradiction
          | some hkstore =>
              obtain rfl := Option.some.inj held
              exact ⟨rfl, rfl⟩

theorem appMain_subsystems (power : PowerUp cfg) (subs : Subsystems) :
    (appMain cfg build power subs).1.components.subsystems =
      some (startedSubsystems cfg power subs) := by
  have booted := mainBoot_subsystems subs
    { fdir := appFdir build power.fdirMemory, mode := subs.mode, modeSinkIsFdir := true }
    (appLargedata cfg build) power.bootSeconds rfl
  simp only [appMain, startedSubsystems]
  generalize mainBoot cfg subs
    { fdir := appFdir build power.fdirMemory, mode := subs.mode, modeSinkIsFdir := true }
    (appLargedata cfg build) power.bootSeconds = reply at booted ⊢
  obtain ⟨state, output⟩ := reply
  have sameMode : state.loop.fdir.mode = subs.mode :=
    (Components.subsystems_fdir booted state.loop.fdir).1
  have requested := fdirModeRequest_commands state.loop.fdir .otherModeChange fswModeNominal
    power.bootSeconds
  simp only [sameMode]
  split
  · have changed := (Components.subsystems_fdir booted
      (fdirModeRequest state.loop.fdir .otherModeChange fswModeNominal power.bootSeconds).2.1).2
    rw [requested.mode, sameMode] at changed
    exact changed
  · exact booted

theorem appModes_init (cfg : Config) :
    (modeInit cfg (appTables 0 0 0).modes 0 true).2.defs =
      if 3 ≤ cfg.modeCapacity then (appTables 0 0 0).modes else [] := by
  have three : (appTables 0 0 0).modes.length = 3 := rfl
  have valid : modeValidate (appTables 0 0 0).modes = .ok := by decide
  have initial : (modeIndexOf (appTables 0 0 0).modes 0).isNone = false := by decide
  simp only [modeInit, three, valid, initial]
  by_cases fits : 3 ≤ cfg.modeCapacity
  · rw [if_neg (by omega), if_neg (by decide), if_pos fits]
  · rw [if_pos (by omega), if_neg fits]

/-- The modes do not depend on the build. -/
theorem fromTables_modes {subs : Subsystems} (set : subs.FromTables cfg build.tables)
    (fits : 3 ≤ cfg.modeCapacity) : subs.mode.defs = (appTables 0 0 0).modes := by
  rw [set.defs]
  exact (appModes_init cfg).trans (if_pos fits)

/-- The way to the nominal mode, in a table that fits. -/
theorem modeRequest_nominal {subs : Subsystems} (set : subs.FromTables cfg build.tables)
    (boot : subs.mode.current = fswModeBoot) (nowSeconds : UInt32) :
    (modeRequest subs.mode fswModeNominal nowSeconds).2.1.current =
      if 3 ≤ cfg.modeCapacity then fswModeNominal else fswModeBoot := by
  by_cases fits : 3 ≤ cfg.modeCapacity
  · have defs := fromTables_modes set fits
    have known : (modeIndexOf subs.mode.defs fswModeNominal).isNone = false := by
      rw [defs]
      decide
    have allowed : modeIsAllowed subs.mode fswModeNominal = true := by
      simp only [modeIsAllowed, defs, boot]
      decide
    have inTable : ¬ (fswModeNominal ≥ modeIdMax ∨
        (modeIndexOf subs.mode.defs fswModeNominal).isNone = true) := by
      rw [known]
      decide
    rw [modeRequest, if_neg inTable, if_neg (by rw [allowed]; decide), if_pos fits]
  · have noDefs : subs.mode.defs = [] := by
      rw [set.defs]
      exact (appModes_init cfg).trans (if_neg fits)
    have unknown : (modeIndexOf subs.mode.defs fswModeNominal).isNone = true := by
      rw [noDefs]
      rfl
    rw [modeRequest, if_pos (.inr unknown), if_neg fits]
    exact boot

/-- What the loop starts with shows what was saved. -/
theorem startedSubsystems_state {subs : Subsystems} (set : subs.FromTables cfg build.tables)
    (power : PowerUp cfg) :
    (startedSubsystems cfg power subs).operatorState = startedFrom cfg subs.operatorState := by
  have mode : (startedSubsystems cfg power subs).mode.current =
      if subs.mode.current = fswModeBoot ∧ 3 ≤ cfg.modeCapacity then fswModeNominal
      else subs.mode.current := by
    rw [startedSubsystems]
    by_cases boot : subs.mode.current = fswModeBoot
    · rw [if_pos boot, boot]
      simp only [true_and]
      exact modeRequest_nominal set boot power.bootSeconds
    · rw [if_neg boot, if_neg fun both => boot both.1]
  have others : ∀ recordType, recordType ≠ .mode →
      (startedSubsystems cfg power subs).operatorState recordType =
        subs.operatorState recordType := by
    intro recordType other
    rw [startedSubsystems]
    split
    · cases recordType with
      | mode => exact absurd rfl other
      | _ => rfl
    · rfl
  funext recordType
  cases recordType with
  | mode => exact mode
  | datapool => exact others .datapool (by decide)
  | schedule => exact others .schedule (by decide)
  | hkstore => exact others .hkstore (by decide)

/-! ### The invariant -/

/-- The subsystems, the snapshots of the save tick, the records in memory and on flash,
and the state a start-up restores from them. -/
structure MissionHolds (cfg : Config) (build : AppBuild) (mission : Mission geometry cfg)
    (saved : OperatorState) (subs : Subsystems) (records : List Record) : Prop where
  held : mission.subsystems = some subs
  within : subs.Within cfg
  set : subs.FromTables cfg build.tables
  images : FlashWithin mission.flash
  stored : HoldsRecords mission.autosave.store records
  budget : WithinBudget nvTags tagLimit records
  flash : FlashHolds mission.flash records
  anchored : Anchored mission.autosave.store (newest (imageSlots mission.flash))
  restores : (restoredFrom cfg build.tables records).operatorState = saved
  sound : CheckpointSound (fun recordType => (subs.generation recordType).toNat)
    (fun recordType => (mission.autosave.lastSavedGen recordType).toNat) subs.operatorState saved

/-- A load holds the records on flash. -/
theorem nvReboot_holds (accepted : backendOk geometry = true) {flash : Flash geometry}
    {records : List Record} (holds : FlashHolds flash records) {memory : Nvstore}
    (buffer : memory.payload.length = nvstorePayloadMax) :
    HoldsRecords (nvReboot memory flash).2 records := by
  have loads := nvReboot_loads accepted flash buffer
  rw [FlashHolds, newestPayload] at holds
  cases found : newest (imageSlots flash) with
  | none =>
      rw [found] at loads holds
      rcases holds with isSome | ⟨_, rfl⟩
      · contradiction
      · exact ⟨loads.2.1, loads.2.2.2.2⟩
  | some held =>
      rw [found] at loads holds
      rcases holds with isSome | ⟨isNone, _⟩
      · exact ⟨loads.2.1, loads.2.2.2.2.2.trans (Option.some.inj isSome)⟩
      · contradiction

theorem startedSubsystems_run (power : PowerUp cfg) (subs : Subsystems) :
    ∃ mutations : List SubsystemMutation, mutations.length ≤ 1 ∧
      startedSubsystems cfg power subs = subsystemsRun cfg subs mutations := by
  rw [startedSubsystems]
  split
  · exact ⟨[.modeRequest fswModeNominal power.bootSeconds], Nat.le_refl _, rfl⟩
  · exact ⟨[], Nat.zero_le _, rfl⟩

/-- Every start-up on flash that holds these records. -/
theorem powerUp_holds (accepted : backendOk geometry = true) {flash : Flash geometry}
    {records : List Record} {saved : OperatorState} (images : FlashWithin flash)
    (budget : WithinBudget nvTags tagLimit records) (holds : FlashHolds flash records)
    (restores : (restoredFrom cfg build.tables records).operatorState = saved)
    (power : PowerUp cfg) :
    ∃ subs, MissionHolds cfg build (powerUp cfg build power flash) saved subs records ∧
      subs.operatorState = startedFrom cfg saved := by
  have restored := appRestore_records accepted cfg build.tables holds power.buffer
  have zero := appRestore_generation cfg build.tables (nvReboot power.memory flash)
  have params : build.tables.params.length ≤ 3 := Nat.le_refl 3
  have within := Subsystems.Within.appRestore cfg params (nvReboot power.memory flash)
  have set := restoredFrom_fromTables cfg build.tables records
  rw [restored] at zero within
  obtain ⟨mutations, one, started⟩ :=
    startedSubsystems_run power (restoredFrom cfg build.tables records)
  have fits (recordType : NvRecordType) :
      ((restoredFrom cfg build.tables records).generation recordType).toNat +
        generationBumps cfg recordType (restoredFrom cfg build.tables records) mutations <
          4294967296 := by
    have few := advances_le_length (Subsystems.mutate cfg)
      (fun subs => (subs.generation recordType).toNat) (restoredFrom cfg build.tables records)
      mutations
    rw [zero, generationBumps, UInt32.toNat_zero]
    omega
  have grown (recordType : NvRecordType) := subsystemsRun_part (fits recordType)
  refine ⟨startedSubsystems cfg power (restoredFrom cfg build.tables records), ?_, ?_⟩
  · refine ⟨?_, ?_, ?_, images, nvReboot_holds accepted holds power.buffer, budget, holds,
      (nvReboot_tracks accepted flash power.buffer).anchored, restores, ?_⟩
    · rw [Mission.subsystems, powerUp, restored]
      exact appMain_subsystems power _
    · rw [started]
      exact within.mutates mutations
    · rw [started]
      exact set.mutates mutations
    · rw [started, ← restores]
      have start := CheckpointSound.refl
        (fun recordType =>
          ((restoredFrom cfg build.tables records).generation recordType).toNat)
        (restoredFrom cfg build.tables records).operatorState
      have changed := start.change (fun recordType => (grown recordType).1)
        (fun recordType => (grown recordType).2)
      simp only [zero] at changed
      exact changed
  · rw [startedSubsystems_state set power, restores]

/-! ### Steps -/

theorem tickCalls_restoresNothing (state : MainState cfg) (tick : LoopTick) :
    (state.tickCalls tick).RestoresNothing := by
  intro image member
  rw [MainState.tickCalls, ComponentCalls.andThen, List.mem_append] at member
  rcases member with own | dispatched
  · cases tick with
    | rxOverflow nowSeconds drops =>
        simp only [MainState.ownCalls] at own
        split at own <;> simp at own
    | dynamicHk nowSeconds =>
        simp only [MainState.ownCalls] at own
        split at own <;> simp at own
    | hk | fdir | release | retrieval | largedata | receive => simp [MainState.ownCalls] at own
  · split at dispatched
    · contradiction
    · simp [TickDispatch.calls, telecommandCalls] at dispatched

/-- A save tick with nothing to put. -/
theorem Mission.save_idle {mission : Mission geometry cfg} {subs : Subsystems}
    (held : mission.subsystems = some subs) {autosave : AutosaveState}
    (puts : autosavePuts subs mission.autosave = (false, autosave)) (fault : FlashFault geometry) :
    mission.save fault = { mission with autosave := autosave } := by
  simp only [Mission.save, held, autosaveTick, puts]

theorem Mission.save_puts {mission : Mission geometry cfg} {subs : Subsystems}
    (held : mission.subsystems = some subs) {autosave : AutosaveState}
    (puts : autosavePuts subs mission.autosave = (true, autosave)) (fault : FlashFault geometry) :
    mission.save fault =
      { mission with
        autosave :=
          { autosave with store := (nvSave fault ⟨mission.flash, autosave.store⟩).store }
        flash := (nvSave fault ⟨mission.flash, autosave.store⟩).flash } := by
  simp only [Mission.save, held, autosaveTick, puts]
  rfl

theorem autosavePuts_anchor (subs : Subsystems) (before : AutosaveState) :
    SameAnchor before.store (autosavePuts subs before).2.store := by
  apply List.foldlRecOn (motive := fun result : Bool × AutosaveState =>
    SameAnchor before.store result.2.store) nvRecordTypes (autosavePut subs) ⟨rfl, rfl, rfl⟩
  intro result anchor recordType _
  cases nvAutosaveTick_cases result.2.store recordType.code
      (subs.serialize (nvBufCap recordType) recordType) (subs.generation recordType)
      (result.2.lastSavedGen recordType) with
  | skipped isResult =>
      simp only [autosavePut, isResult]
      exact anchor
  | full bytes _ _ isResult =>
      simp only [autosavePut, isResult]
      exact anchor.trans (nvstorePut_anchor _ recordType.code bytes)
  | put bytes _ _ _ isResult =>
      simp only [autosavePut, isResult]
      exact anchor.trans (nvstorePut_anchor _ recordType.code bytes)

namespace MissionHolds

variable {mission : Mission geometry cfg} {saved : OperatorState} {subs : Subsystems}
variable {records : List Record}

/-- A tick of the loop touches neither the store nor the flash. -/
theorem tick (holds : MissionHolds cfg build mission saved subs records) (tick : LoopTick)
    (fits : mission.main.CountsFit tick) :
    ∃ after, MissionHolds cfg build (missionEvent build mission (.tick tick)) saved after
      records := by
  have calls := loopTick_calls mission.main tick
  have mutated := mission.main.components.after_subsystems
    (tickCalls_restoresNothing mission.main tick)
  have held : mission.main.components.subsystems = some subs := holds.held
  rw [← calls, held, Option.map_some] at mutated
  have grown (recordType : NvRecordType) := subsystemsRun_part (fits subs held recordType)
  exact ⟨_, mutated, holds.within.mutates _, holds.set.mutates _, holds.images, holds.stored,
    holds.budget, holds.flash, holds.anchored, holds.restores,
    holds.sound.change (fun recordType => (grown recordType).1)
      fun recordType => (grown recordType).2⟩

/-- What the puts of a save tick leave to be saved. -/
theorem puts (holds : MissionHolds cfg build mission saved subs records)
    (admitted : cfg.KconfigAdmitted) (suffice : BuffersSuffice cfg) :
    ∃ now, PutsRecords subs mission.autosave records nvRecordTypes
        (autosavePuts subs mission.autosave) now ∧
      (restoredFrom cfg build.tables now).operatorState = subs.operatorState ∧
      (autosavePuts subs mission.autosave).2.lastSavedGen = subs.generation ∧
      Anchored (autosavePuts subs mission.autosave).2.store (newest (imageSlots mission.flash)) := by
  obtain ⟨now, puts⟩ := autosavePuts_records holds.within suffice holds.stored holds.budget
  have sound := holds.sound
  rw [← holds.restores] at sound
  have writes := autosavePuts_writes holds.within suffice
    (show StoreWithin mission.autosave.store from ⟨records, holds.stored, holds.budget⟩)
  exact ⟨now, puts, puts.restores admitted holds.within holds.set sound,
    funext fun recordType => writes.saved recordType (mem_nvRecordTypes recordType),
    holds.anchored.congr (autosavePuts_anchor subs mission.autosave)⟩

/-- Nothing to save: what is saved is what the subsystems hold. -/
theorem saved_of_idle (holds : MissionHolds cfg build mission saved subs records)
    (admitted : cfg.KconfigAdmitted) (suffice : BuffersSuffice cfg) {autosave : AutosaveState}
    (idle : autosavePuts subs mission.autosave = (false, autosave)) :
    saved = subs.operatorState := by
  obtain ⟨now, puts, restores, _⟩ := holds.puts admitted suffice
  rw [← restores, puts.idle (by rw [idle]), holds.restores]

theorem save (holds : MissionHolds cfg build mission saved subs records)
    (accepted : backendOk geometry = true) (two : geometry.sectorCount = 2)
    (admitted : cfg.KconfigAdmitted) (suffice : BuffersSuffice cfg)
    (seqFits : SeqFits mission.autosave.store) :
    ∃ now, MissionHolds cfg build (missionEvent build mission (.save .none)) subs.operatorState
      subs now := by
  obtain ⟨now, puts, restores, written, anchored⟩ := holds.puts admitted suffice
  have anchor := autosavePuts_anchor subs mission.autosave
  rw [missionEvent]
  refine ⟨now, ?_⟩
  cases done : autosavePuts subs mission.autosave with
  | mk dirty autosave =>
      rw [done] at puts written anchored anchor
      have snapshots : CheckpointSound (fun recordType => (subs.generation recordType).toNat)
          (fun recordType => (autosave.lastSavedGen recordType).toNat) subs.operatorState
          subs.operatorState := by
        simp only at written
        rw [written]
        exact .refl _ _
      cases dirty with
      | false =>
          rw [Mission.save_idle holds.held done]
          refine ⟨holds.held, holds.within, holds.set, holds.images, puts.holds, puts.budget, ?_,
            anchored, restores, snapshots⟩
          rw [puts.idle rfl]
          exact holds.flash
      | true =>
          have tracks : Tracks ⟨mission.flash, autosave.store⟩ (newestPayload mission.flash) :=
            ⟨puts.holds.sized, anchored, rfl⟩
          have after := tracks.save accepted two
            (show SeqFits autosave.store by rw [SeqFits, anchor.loadedSeq]; exact seqFits)
          have images := (ImagesOf.save accepted ⟨mission.flash, autosave.store⟩ holds.images
            ⟨now, puts.holds, puts.budget⟩ (.inl rfl)).1
          have stored : HoldsRecords (nvSave .none ⟨mission.flash, autosave.store⟩).store now := by
            obtain ⟨sector, _, result⟩ :=
              (nvstoreSave_spec accepted .none mission.flash puts.holds.sized).done rfl
            rw [nvSave, result]
            exact ⟨⟨puts.holds.sized.buffer, puts.holds.sized.len_le⟩, puts.holds.payload⟩
          rw [Mission.save_puts holds.held done]
          refine ⟨holds.held, holds.within, holds.set, images, stored, puts.budget, .inl ?_,
            after.anchored, restores, snapshots⟩
          rw [after.committed, puts.holds.payload]

/-- A cut that loses the save, and the start-up after it. -/
theorem cutLost (holds : MissionHolds cfg build mission saved subs records)
    (accepted : backendOk geometry = true) (two : geometry.sectorCount = 2)
    (admitted : cfg.KconfigAdmitted) (suffice : BuffersSuffice cfg) (power : PowerUp cfg)
    {fault : FlashFault geometry} {residue : Sector geometry.sectorSize.toNat}
    (leaves : FaultLeaves fault residue) (lost : ResidueLost (mission.putsState subs) residue) :
    ∃ after, MissionHolds cfg build (powerUp cfg build power (mission.save fault).flash) saved
      after records := by
  obtain ⟨now, puts, _, _, anchored⟩ := holds.puts admitted suffice
  rw [Mission.putsState] at lost
  cases done : autosavePuts subs mission.autosave with
  | mk dirty autosave =>
      rw [done] at puts anchored lost
      cases dirty with
      | false =>
          rw [Mission.save_idle holds.held done]
          obtain ⟨after, started, _⟩ := powerUp_holds accepted holds.images holds.budget
            holds.flash holds.restores power
          exact ⟨after, started⟩
      | true =>
          have tracks : Tracks ⟨mission.flash, autosave.store⟩ (newestPayload mission.flash) :=
            ⟨puts.holds.sized, anchored, rfl⟩
          have same := (tracks.saveFails accepted two leaves lost).committed
          have images := (ImagesOf.save accepted ⟨mission.flash, autosave.store⟩ holds.images
            ⟨now, puts.holds, puts.budget⟩ (.inr ⟨residue, leaves, .inl lost⟩)).1
          have flash := holds.flash
          rw [Mission.save_puts holds.held done]
          rw [FlashHolds, ← same] at flash
          obtain ⟨after, started, _⟩ := powerUp_holds accepted images holds.budget flash
            holds.restores power
          exact ⟨after, started⟩

/-- A cut that completes the image, and the start-up after it. -/
theorem cutComplete (holds : MissionHolds cfg build mission saved subs records)
    (accepted : backendOk geometry = true) (two : geometry.sectorCount = 2)
    (admitted : cfg.KconfigAdmitted) (suffice : BuffersSuffice cfg) (power : PowerUp cfg)
    (seqFits : SeqFits mission.autosave.store) {fault : FlashFault geometry}
    {residue : Sector geometry.sectorSize.toNat} (leaves : FaultLeaves fault residue)
    (complete : ResidueComplete (mission.putsState subs) residue) :
    ∃ after now, MissionHolds cfg build (powerUp cfg build power (mission.save fault).flash)
      subs.operatorState after now := by
  obtain ⟨now, puts, restores, _, anchored⟩ := holds.puts admitted suffice
  have anchor := autosavePuts_anchor subs mission.autosave
  rw [Mission.putsState] at complete
  cases done : autosavePuts subs mission.autosave with
  | mk dirty autosave =>
      cases dirty with
      | false =>
          rw [Mission.save_idle holds.held done, ← holds.saved_of_idle admitted suffice done]
          obtain ⟨after, started, _⟩ := powerUp_holds accepted holds.images holds.budget
            holds.flash holds.restores power
          exact ⟨after, records, started⟩
      | true =>
          rw [done] at puts anchored complete anchor
          have tracks : Tracks ⟨mission.flash, autosave.store⟩ (newestPayload mission.flash) :=
            ⟨puts.holds.sized, anchored, rfl⟩
          have newest := tracks.cutComplete_newest accepted two leaves
            (show SeqFits autosave.store by rw [SeqFits, anchor.loadedSeq]; exact seqFits) complete
          have images := (ImagesOf.save accepted ⟨mission.flash, autosave.store⟩ holds.images
            ⟨now, puts.holds, puts.budget⟩ (.inr ⟨residue, leaves, .inr complete⟩)).1
          rw [Mission.save_puts holds.held done]
          obtain ⟨after, started, _⟩ := powerUp_holds accepted images puts.budget
            (.inl (newest.trans (congrArg some puts.holds.payload))) restores power
          exact ⟨after, now, started⟩

end MissionHolds

/-! ### Power cycles -/

theorem missionRun_holds (accepted : backendOk geometry = true) (two : geometry.sectorCount = 2)
    (admitted : cfg.KconfigAdmitted) (suffice : BuffersSuffice cfg)
    {mission : Mission geometry cfg} {saved : OperatorState}
    (run : MissionRun cfg build mission saved) :
    ∃ subs records, MissionHolds cfg build mission saved subs records := by
  induction run with
  | powerUp power flash blank =>
      have images : FlashWithin flash := imagesOf_blank blank
      have none : newestPayload flash = none := by
        rw [newestPayload, (newest_eq_none_iff _).mpr blank]
        rfl
      obtain ⟨subs, holds, _⟩ := powerUp_holds accepted images withinBudget_nil
        (.inr ⟨none, rfl⟩) rfl power
      exact ⟨subs, [], holds⟩
  | tick tick fits run inductionHypothesis =>
      obtain ⟨subs, records, holds⟩ := inductionHypothesis
      obtain ⟨after, holds⟩ := holds.tick tick fits
      exact ⟨after, records, holds⟩
  | save held seqFits run inductionHypothesis =>
      obtain ⟨subs, records, holds⟩ := inductionHypothesis
      obtain rfl := Option.some.inj (held.symm.trans holds.held)
      obtain ⟨now, holds⟩ := holds.save accepted two admitted suffice seqFits
      exact ⟨_, now, holds⟩
  | powerCycle power run inductionHypothesis =>
      obtain ⟨subs, records, holds⟩ := inductionHypothesis
      obtain ⟨after, holds, _⟩ := powerUp_holds accepted holds.images holds.budget holds.flash
        holds.restores power
      exact ⟨after, records, holds⟩
  | cutLost held power leaves lost run inductionHypothesis =>
      obtain ⟨subs, records, holds⟩ := inductionHypothesis
      obtain rfl := Option.some.inj (held.symm.trans holds.held)
      obtain ⟨after, holds⟩ := holds.cutLost accepted two admitted suffice power leaves lost
      exact ⟨after, records, holds⟩
  | cutComplete held power seqFits leaves complete run inductionHypothesis =>
      obtain ⟨subs, records, holds⟩ := inductionHypothesis
      obtain rfl := Option.some.inj (held.symm.trans holds.held)
      obtain ⟨after, now, holds⟩ := holds.cutComplete accepted two admitted suffice power seqFits
        leaves complete
      exact ⟨after, now, holds⟩

/-- Reboot transparency. Wherever the power goes, the application comes back with the
state last saved, but for the boot mode, which it leaves again. -/
theorem missionRun_powerCycle (accepted : backendOk geometry = true)
    (two : geometry.sectorCount = 2) (admitted : cfg.KconfigAdmitted)
    (suffice : BuffersSuffice cfg) {mission : Mission geometry cfg} {saved : OperatorState}
    (run : MissionRun cfg build mission saved) (power : PowerUp cfg) :
    (missionEvent build mission (.powerCycle power)).subsystems.map Subsystems.operatorState =
      some (startedFrom cfg saved) := by
  obtain ⟨subs, records, holds⟩ := missionRun_holds accepted two admitted suffice run
  obtain ⟨after, started, state⟩ := powerUp_holds accepted holds.images holds.budget holds.flash
    holds.restores power
  rw [missionEvent, started.held, Option.map_some, state]

/-- The first power-up saves the nominal mode; the second one comes back in it. -/
theorem missionRun_powerCycle_first :
    let geometry : NvGeometry := { sectorSize := 2048, sectorCount := 2, writeBlock := 32 }
    let build : AppBuild :=
      { hkPeriodSec := 10, fwVersion := 1, fwBuildId := 7, largedataDemo := false
        recoveryDemo := true, tcRejectedThreshold := 3 }
    let mission := powerUp defaultConfig build (zeroedPowerUp defaultConfig 0)
      (erasedFlash geometry)
    ∃ saved : OperatorState, saved.mode = fswModeNominal ∧
      (missionEvent build (missionEvent build mission (.save .none))
        (.powerCycle (zeroedPowerUp defaultConfig 5))).subsystems.map Subsystems.operatorState =
          some (startedFrom defaultConfig saved) := by
  intro geometry build mission
  have accepted : backendOk geometry = true := by decide
  have held : mission.subsystems = some (startedSubsystems defaultConfig
      (zeroedPowerUp defaultConfig 0) (appRestore defaultConfig build.tables
        (nvReboot nvstoreZero (erasedFlash geometry)))) :=
    appMain_subsystems (zeroedPowerUp defaultConfig 0) _
  have restored := appFirstBoot_subs accepted defaultConfig build.tables
  have seqFits : SeqFits (nvReboot nvstoreZero (erasedFlash geometry)).2 := by decide +kernel
  have started : MissionRun defaultConfig build mission _ :=
    .powerUp (zeroedPowerUp defaultConfig 0) _ (imageSlots_erased geometry)
  refine ⟨_, ?_, missionRun_powerCycle accepted rfl Config.default_kconfigAdmitted
    (by decide) (.save held seqFits started) (zeroedPowerUp defaultConfig 5)⟩
  change (startedSubsystems defaultConfig (zeroedPowerUp defaultConfig 0)
    (appRestore defaultConfig build.tables
      (nvReboot nvstoreZero (erasedFlash geometry)))).mode.current = fswModeNominal
  change appRestore defaultConfig build.tables (nvReboot nvstoreZero (erasedFlash geometry)) = _
    at restored
  rw [restored]
  rfl

end FswCore
