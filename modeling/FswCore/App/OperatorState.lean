import FswCore.App.Buffers
import FswCore.App.Generation
import FswCore.Library.Checkpoint

/-!
Contract: the state an operator sets up on board, part by part, as records of the store
and back.

Owns:
- `OperatorState`, what the four subsystems keep over a reboot;
- a subsystem whose generation stands still keeps its part;
- `restoredFrom`, the restore as a function of the records, and what it makes of a
  subsystem's own image, for every capacity the menu admits;
- the records behind the puts of a save tick, one by one.
-/

namespace FswCore

open Library

variable {geometry : NvGeometry} {cfg : Config} {tables : AppTables} {subs : Subsystems}

/-! ### Parts -/

/-- What is kept of each subsystem; counters and emission times are not. -/
def OperatorPart : NvRecordType → Type
  | .datapool => List DpParam
  | .schedule => List ScheduleActivity × Bool
  | .hkstore => UInt16 → Option (List UInt16 × UInt32 × Bool)
  | .mode => UInt8

abbrev OperatorState := ∀ recordType, OperatorPart recordType

def OperatorState.mode (state : OperatorState) : UInt8 := state .mode

def Subsystems.operatorState (subs : Subsystems) : OperatorState
  | .datapool => subs.datapool.params
  | .schedule => (subs.schedule.activities, subs.schedule.enabled)
  | .hkstore => hkMapping subs.hkstore
  | .mode => subs.mode.current

theorem hkMapping_due (store : Hkstore) (nowSeconds : UInt32) :
    hkMapping (hkstoreDue store nowSeconds).2 = hkMapping store := by
  rcases hkstoreDue_cases store nowSeconds with same | ⟨left, held, right, before, result⟩
  · rw [same]
  · funext sid
    rw [result]
    simp only [hkMapping, hkstoreFind_eq, Hkstore.held, before, occupied_append,
      occupied_cons_some, List.find?_append, List.find?_cons]
    split
    · cases (occupied left).find? fun held => held.sid == sid <;> rfl
    · rfl

theorem hkstoreApply_mapping (cfg : Config) (store : Hkstore) (op : HkstoreOp) :
    ((hkstoreApply cfg store op).generation = store.generation ∧
        hkMapping (hkstoreApply cfg store op) = hkMapping store) ∨
      (hkstoreApply cfg store op).generation = store.generation + 1 := by
  rcases hkstoreApply_generation cfg store op with ⟨same, _⟩ | counted
  · cases op with
    | due nowSeconds => exact .inl ⟨same, hkMapping_due store nowSeconds⟩
    | create sid paramIds intervalSec =>
        rcases hkstoreCreate_cases cfg store sid paramIds intervalSec with ⟨_, kept⟩ | ⟨_, done⟩
        · exact .inl ⟨same, congrArg hkMapping kept⟩
        · exact .inr done.generation
    | delete sid =>
        rcases hkstoreDelete_cases store sid with ⟨_, kept, _⟩ | ⟨_, done⟩
        · exact .inl ⟨same, congrArg hkMapping kept⟩
        · exact .inr done.generation
    | setEnabled sid enabled =>
        rcases hkstoreSetEnabled_cases store sid enabled with ⟨_, kept, _⟩ | ⟨_, kept | done⟩
        · exact .inl ⟨same, congrArg hkMapping kept⟩
        · exact .inl ⟨same, congrArg hkMapping kept⟩
        · exact .inr done.generation
  · exact .inr counted

/-- A mutation leaves a part alone or counts it. -/
theorem Subsystems.mutate_part (cfg : Config) (subs : Subsystems) (mutation : SubsystemMutation)
    (recordType : NvRecordType) :
    ((subs.mutate cfg mutation).generation recordType = subs.generation recordType ∧
        (subs.mutate cfg mutation).operatorState recordType = subs.operatorState recordType) ∨
      (subs.mutate cfg mutation).generation recordType = subs.generation recordType + 1 := by
  cases mutation with
  | datapoolSet id value =>
      cases recordType with
      | datapool =>
          rcases datapoolSet_cases subs.datapool id value with ⟨_, same⟩ | ⟨_, done⟩
          · exact .inl ⟨congrArg Datapool.generation same, congrArg Datapool.params same⟩
          · exact .inr done.generation
      | _ => exact .inl ⟨rfl, rfl⟩
  | schedule op =>
      cases recordType with
      | schedule =>
          rcases scheduleApply_generation cfg subs.schedule op with same | counted
          · refine .inl ⟨congrArg Schedule.generation same, ?_⟩
            exact congrArg (fun sched : Schedule => (sched.activities, sched.enabled)) same
          · exact .inr counted
      | _ => exact .inl ⟨rfl, rfl⟩
  | hkstore op =>
      cases recordType with
      | hkstore => exact hkstoreApply_mapping cfg subs.hkstore op
      | _ => exact .inl ⟨rfl, rfl⟩
  | modeRequest target nowSeconds =>
      cases recordType with
      | mode =>
          rcases modeRequest_cases subs.mode target nowSeconds with
            ⟨_, same, _⟩ | ⟨_, _, _, _, result⟩
          · exact .inl ⟨congrArg ModeManager.generation same, congrArg ModeManager.current same⟩
          · exact .inr (by simp only [mutate, generation, result])
      | _ => exact .inl ⟨rfl, rfl⟩

theorem mutate_countsParts (cfg : Config) (recordType : NvRecordType) :
    CountsChanges (Subsystems.mutate cfg) 4294967296
      (fun subs => (subs.generation recordType).toNat)
      (fun subs => subs.operatorState recordType) where
  wide := by decide
  bounded subs := UInt32.toNat_lt _
  stepped subs mutation := by
    rcases subs.mutate_part cfg mutation recordType with ⟨same, kept⟩ | counted
    · exact .inl ⟨congrArg UInt32.toNat same, kept⟩
    · exact .inr (by rw [counted, UInt32.toNat_add, UInt32.toNat_one])

/-- Mutations that count no generation past its width: the generation grows, and if it
stands still so does the part. -/
theorem subsystemsRun_part {mutations : List SubsystemMutation} {recordType : NvRecordType}
    (fits : (subs.generation recordType).toNat +
      generationBumps cfg recordType subs mutations < 4294967296) :
    (subs.generation recordType).toNat ≤
        ((subsystemsRun cfg subs mutations).generation recordType).toNat ∧
      (((subsystemsRun cfg subs mutations).generation recordType).toNat =
          (subs.generation recordType).toNat →
        (subsystemsRun cfg subs mutations).operatorState recordType =
          subs.operatorState recordType) := by
  obtain ⟨counted, unchanged⟩ := (mutate_countsParts cfg recordType).run subs mutations
  change ((subsystemsRun cfg subs mutations).generation recordType).toNat =
    ((subs.generation recordType).toNat + generationBumps cfg recordType subs mutations) %
      4294967296 at counted
  rw [Nat.mod_eq_of_lt fits] at counted
  rw [counted]
  refine ⟨Nat.le_add_right _ _, fun still => unchanged ?_⟩
  exact Nat.add_left_cancel still

/-! ### Tables -/

/-- The subsystems are those the tables set up. -/
structure Subsystems.FromTables (cfg : Config) (tables : AppTables) (subs : Subsystems) :
    Prop where
  shapes : shapesOf subs.datapool.params =
    shapesOf (subsystemsInit cfg tables).datapool.params
  defs : subs.mode.defs = (subsystemsInit cfg tables).mode.defs
  consistent : subs.mode.Consistent

namespace Subsystems.FromTables

theorem init (cfg : Config) (tables : AppTables) :
    (subsystemsInit cfg tables).FromTables cfg tables where
  shapes := rfl
  defs := rfl
  consistent := modeInit_consistent cfg tables.modes tables.initialMode tables.sinkWired

theorem mutate (set : subs.FromTables cfg tables) (mutation : SubsystemMutation) :
    (subs.mutate cfg mutation).FromTables cfg tables := by
  cases mutation with
  | datapoolSet id value =>
      exact ⟨(datapoolSet_shapes subs.datapool id value).trans set.shapes, set.defs,
        set.consistent⟩
  | schedule op => exact ⟨set.shapes, set.defs, set.consistent⟩
  | hkstore op => exact ⟨set.shapes, set.defs, set.consistent⟩
  | modeRequest target nowSeconds =>
      exact ⟨set.shapes, (modeEvent_defs subs.mode (.request target nowSeconds)).trans set.defs,
        modeEvent_consistent set.consistent (.request target nowSeconds)⟩

theorem restore (set : subs.FromTables cfg tables) (recordType : NvRecordType)
    (bytes : List UInt8) : (subs.restore cfg recordType bytes).FromTables cfg tables := by
  cases recordType with
  | datapool =>
      exact ⟨(datapoolDeserialize_shapes subs.datapool bytes).trans set.shapes, set.defs,
        set.consistent⟩
  | schedule => exact ⟨set.shapes, set.defs, set.consistent⟩
  | hkstore => exact ⟨set.shapes, set.defs, set.consistent⟩
  | mode =>
      exact ⟨set.shapes, (modeEvent_defs subs.mode (.restore bytes)).trans set.defs,
        modeEvent_consistent set.consistent (.restore bytes)⟩

theorem mutates (set : subs.FromTables cfg tables) (mutations : List SubsystemMutation) :
    (subsystemsRun cfg subs mutations).FromTables cfg tables :=
  List.foldlRecOn mutations _ set fun _ set mutation _ => set.mutate mutation

end Subsystems.FromTables

theorem Subsystems.Within.mutates (within : subs.Within cfg)
    (mutations : List SubsystemMutation) : (subsystemsRun cfg subs mutations).Within cfg :=
  List.foldlRecOn mutations _ within fun _ within mutation _ => within.mutate mutation

/-! ### Restoring from records -/

/-- Each subsystem that has a record, restored from its body. -/
def restoredFrom (cfg : Config) (tables : AppTables) (records : List Record) : Subsystems :=
  nvRecordTypes.foldl (fun subs recordType =>
    match lookupTag recordType.code records with
    | some bytes => subs.restore cfg recordType bytes
    | none => subs) (subsystemsInit cfg tables)

theorem restoredFrom_fromTables (cfg : Config) (tables : AppTables) (records : List Record) :
    (restoredFrom cfg tables records).FromTables cfg tables := by
  apply List.foldlRecOn nvRecordTypes _ (Subsystems.FromTables.init cfg tables)
  intro subs set recordType _
  split
  · exact set.restore recordType _
  · exact set

/-- The flash has these records in its newest image, or no image and there are none. -/
def FlashHolds (flash : Flash geometry) (records : List Record) : Prop :=
  newestPayload flash = some (encodeRecords records) ∨
    newestPayload flash = none ∧ records = []

/-- Whatever memory held, the application restores from the records on flash. -/
theorem appRestore_records (accepted : backendOk geometry = true) (cfg : Config)
    (tables : AppTables) {flash : Flash geometry} {records : List Record}
    (holds : FlashHolds flash records) {memory : Nvstore}
    (buffer : memory.payload.length = nvstorePayloadMax) :
    appRestore cfg tables (nvReboot memory flash) = restoredFrom cfg tables records := by
  have recovers := recoversTo_newest accepted flash memory buffer
  have sized := (nvReboot_tracks accepted flash buffer).sized
  rcases holds with found | ⟨found, rfl⟩
  · rw [found] at recovers
    obtain ⟨isOk, payload⟩ : _ ∧ _ := recovers
    rw [appRestore, if_pos isOk, restoredFrom]
    congr 1
    funext subs recordType
    rw [nvstoreGet_eq ⟨sized, payload⟩]
    cases lookupTag recordType.code records <;> rfl
  · rw [found] at recovers
    have nothing : (nvReboot memory flash).1 ≠ .ok := by
      rw [show (nvReboot memory flash).1 = .errNoValidImage from recovers]
      decide
    rw [appRestore, if_neg nothing]
    rfl

/-- A part is restored from its own record. -/
theorem restoredFrom_part (cfg : Config) (tables : AppTables) (records : List Record)
    (recordType : NvRecordType) :
    (restoredFrom cfg tables records).operatorState recordType =
      (match lookupTag recordType.code records with
      | some bytes => (subsystemsInit cfg tables).restore cfg recordType bytes
      | none => subsystemsInit cfg tables).operatorState recordType := by
  simp only [restoredFrom, nvRecordTypes, List.foldl_cons, List.foldl_nil]
  -- the four restores touch four fields
  cases recordType <;>
    cases lookupTag NvRecordType.datapool.code records <;>
    cases lookupTag NvRecordType.schedule.code records <;>
    cases lookupTag NvRecordType.hkstore.code records <;>
    cases lookupTag NvRecordType.mode.code records <;> rfl

/-- A subsystem's own image restores its part into subsystems of the same tables. -/
theorem Subsystems.restore_image (admitted : cfg.KconfigAdmitted) (within : subs.Within cfg)
    (set : subs.FromTables cfg tables) (recordType : NvRecordType) :
    ((subsystemsInit cfg tables).restore cfg recordType
        (subs.image recordType)).operatorState recordType = subs.operatorState recordType := by
  cases recordType with
  | datapool =>
      have fresh := datapoolInit_wellFormed cfg tables.params
      have restores := datapoolDeserialize_restores (fresh.of_shapes set.shapes)
        (Nat.lt_of_le_of_lt within.datapool (by decide)) set.shapes.symm []
      rw [List.append_nil] at restores
      simp only [restore, image, operatorState, restores]
      rfl
  | schedule =>
      have slots := admitted.scheduleCapacity.2
      have octets := admitted.scheduleTcMax.2
      simp only [restore, image, operatorState,
        scheduleDeserialize_restores within.schedule (by omega) (by omega)]
      rfl
  | hkstore =>
      have slots := admitted.hkstoreCapacity.2
      have params := admitted.hkstoreMaxParams.2
      obtain ⟨restored, restores, held⟩ := hkstoreDeserialize_restores within.hkstore
        (by omega) (by omega) []
      rw [List.append_nil] at restores
      simp only [restore, image, operatorState, restores]
      funext sid
      rw [hkMapping, hkMapping, hkstoreFind_rearmed held, Option.map_map]
      rfl
  | mode =>
      exact (modeDeserializeCurrent_restores set.consistent
        (modeInit_consistent cfg tables.modes tables.initialMode tables.sinkWired)
        set.defs.symm).2

/-! ### The records behind a save tick -/

/-- The record of each changed subsystem is its image; the others are as they were. -/
structure PutsRecords (subs : Subsystems) (before : AutosaveState) (records : List Record)
    (visited : List NvRecordType) (result : Bool × AutosaveState) (now : List Record) :
    Prop where
  holds : HoldsRecords result.2.store now
  budget : WithinBudget nvTags tagLimit now
  changed : ∀ recordType ∈ visited,
    subs.generation recordType ≠ before.lastSavedGen recordType →
      lookupTag recordType.code now = some (subs.image recordType)
  kept : ∀ recordType, recordType ∉ visited ∨
    subs.generation recordType = before.lastSavedGen recordType →
      lookupTag recordType.code now = lookupTag recordType.code records
  pending : ∀ recordType, recordType ∉ visited →
    result.2.lastSavedGen recordType = before.lastSavedGen recordType
  idle : result.1 = false → now = records
  dirty : result.1 = true ↔ ∃ recordType ∈ visited,
    subs.generation recordType ≠ before.lastSavedGen recordType

theorem PutsRecords.put (within : subs.Within cfg) (suffice : BuffersSuffice cfg)
    {before : AutosaveState} {records now : List Record} {visited : List NvRecordType}
    {result : Bool × AutosaveState} {recordType : NvRecordType}
    (puts : PutsRecords subs before records visited result now)
    (fresh : recordType ∉ visited) :
    ∃ next, PutsRecords subs before records (visited ++ [recordType])
      (autosavePut subs result recordType) next := by
  have unsaved := puts.pending recordType fresh
  by_cases same : subs.generation recordType = result.2.lastSavedGen recordType
  · rw [autosavePut_same same]
    refine ⟨now, puts.holds, puts.budget, ?_, ?_, ?_, puts.idle, ?_⟩
    · intro other member moved
      rcases List.mem_append.mp member with earlier | here
      · exact puts.changed other earlier moved
      · rw [List.mem_singleton.mp here] at moved
        exact absurd (same.trans unsaved) moved
    · intro other still
      apply puts.kept other
      rcases still with notVisited | still
      · exact .inl fun member => notVisited (List.mem_append_left _ member)
      · exact .inr still
    · intro other notVisited
      exact puts.pending other fun member => notVisited (List.mem_append_left _ member)
    · rw [puts.dirty]
      simp only [List.mem_append, List.mem_singleton, or_and_right, exists_or, exists_eq_left]
      exact (or_iff_left fun moved => moved (same.trans unsaved)).symm
  · obtain ⟨serialized, short, nonempty⟩ := within.serializes suffice recordType
    have budget := puts.budget.replaceTag (code_mem_nvTags recordType)
      (tagLimit_code recordType ▸ short)
    have putHolds := nvstorePut_holds puts.holds recordType.code (subs.image recordType)
    rw [if_pos (withinLimits_fits budget)] at putHolds
    have moved : subs.generation recordType ≠ before.lastSavedGen recordType :=
      unsaved ▸ same
    have otherCode {other : NvRecordType} (different : other ≠ recordType) :
        other.code ≠ recordType.code := fun equal => different (NvRecordType.code_injective equal)
    rw [autosavePut_changed same serialized nonempty putHolds.1]
    refine ⟨_, putHolds.2, budget, ?_, ?_, ?_, fun idle => Bool.noConfusion idle, ?_⟩
    · intro other member otherMoved
      by_cases here : other = recordType
      · rw [here]
        exact (tagOnce_of_nodup puts.budget.distinct _).lookupTag_replaceTag _
      · rw [lookupTag_replaceTag_other (otherCode here)]
        rcases List.mem_append.mp member with earlier | last
        · exact puts.changed other earlier otherMoved
        · exact absurd (List.mem_singleton.mp last) here
    · intro other still
      have apart : other ≠ recordType := by
        rintro rfl
        rcases still with notVisited | still
        · exact notVisited (List.mem_append_right _ (List.mem_singleton.mpr rfl))
        · exact moved still
      rw [lookupTag_replaceTag_other (otherCode apart)]
      apply puts.kept other
      rcases still with notVisited | still
      · exact .inl fun member => notVisited (List.mem_append_left _ member)
      · exact .inr still
    · intro other notVisited
      have apart : other ≠ recordType := fun equal =>
        notVisited (List.mem_append_right _ (List.mem_singleton.mpr equal))
      simp only [Function.update_of_ne apart]
      exact puts.pending other fun member => notVisited (List.mem_append_left _ member)
    · exact ⟨fun _ => ⟨recordType, List.mem_append_right _ (List.mem_singleton.mpr rfl), moved⟩,
        fun _ => rfl⟩

theorem autosavePuts_records (within : subs.Within cfg) (suffice : BuffersSuffice cfg)
    {before : AutosaveState} {records : List Record} (holds : HoldsRecords before.store records)
    (budget : WithinBudget nvTags tagLimit records) :
    ∃ now, PutsRecords subs before records nvRecordTypes (autosavePuts subs before) now := by
  have start : PutsRecords subs before records [] (false, before) records :=
    ⟨holds, budget, by simp, fun _ _ => rfl, fun _ _ => rfl, fun _ => rfl, by simp⟩
  obtain ⟨_, datapool⟩ := start.put within suffice (show NvRecordType.datapool ∉ _ by decide)
  obtain ⟨_, schedule⟩ := datapool.put within suffice (show NvRecordType.schedule ∉ _ by decide)
  obtain ⟨_, hkstore⟩ := schedule.put within suffice (show NvRecordType.hkstore ∉ _ by decide)
  exact hkstore.put within suffice (show NvRecordType.mode ∉ _ by decide)

/-- The records behind the puts of a tick restore the state the tick found, if those
before them restored its checkpoint. -/
theorem PutsRecords.restores (admitted : cfg.KconfigAdmitted) (within : subs.Within cfg)
    (set : subs.FromTables cfg tables) {before : AutosaveState} {records now : List Record}
    {result : Bool × AutosaveState}
    (puts : PutsRecords subs before records nvRecordTypes result now)
    (sound : CheckpointSound (fun recordType => (subs.generation recordType).toNat)
      (fun recordType => (before.lastSavedGen recordType).toNat) subs.operatorState
      (restoredFrom cfg tables records).operatorState) :
    (restoredFrom cfg tables now).operatorState = subs.operatorState := by
  apply sound.checkpoint
  · intro recordType moved
    have changed : subs.generation recordType ≠ before.lastSavedGen recordType :=
      fun same => moved (congrArg UInt32.toNat same)
    rw [restoredFrom_part, puts.changed recordType (mem_nvRecordTypes recordType) changed]
    exact subs.restore_image admitted within set recordType
  · intro recordType same
    rw [restoredFrom_part, restoredFrom_part,
      puts.kept recordType (.inr (UInt32.toNat_inj.mp same))]

end FswCore
