import FswCore.App.Autosave
import FswCore.App.Reboot
import FswCore.Nvstore.RecordKinds

/-!
Contract: the autosave's scratch buffers and the payload against what the
subsystems can hold.

Owns:
- `AppReached`, the states of the application from its first power-up, over
  mutations, save ticks and reboots;
- `TickWrites`: every changed subsystem gets into the image;
- `AppWithin`, the invariant of these states: the subsystems are within the
  build's limits, and so are the records in memory and on flash;
- buffers that hold the worst case are enough in every reached state.
-/

namespace FswCore

open Library

variable {geometry : NvGeometry}

/-! ### The application -/

/-- The tables of the application; its build sets the values. -/
def appTables (hkPeriodSec : UInt32) (fwVersion : UInt16) (fwBuildId : UInt32) : AppTables where
  params := [
    { id := 1, access := .readWrite, value := .u32 hkPeriodSec },
    { id := 2, access := .readOnly, value := .u16 fwVersion },
    { id := 3, access := .readOnly, value := .u32 fwBuildId }]
  modes := [
    { id := 0, allowedTargets := ((1 : UInt32) <<< 1) ||| ((1 : UInt32) <<< 2) },
    { id := 1, allowedTargets := (1 : UInt32) <<< 2 },
    { id := 2, allowedTargets := (1 : UInt32) <<< 1 }]
  initialMode := 0
  sinkWired := true

/-- What a tick's flash calls run into: nothing, or a cut that leaves the target
sector as it was, invalid, or complete. -/
def TickFault (state : AppState geometry) (fault : FlashFault geometry) : Prop :=
  fault = .none ∨ ∃ residue, FaultLeaves fault residue ∧
    let puts := (autosavePuts state.subs state.autosave).2
    (ResidueLost ⟨state.flash, puts.store⟩ residue ∨
      ResidueComplete ⟨state.flash, puts.store⟩ residue)

/-- The states of the application; the first power-up finds no image. -/
inductive AppReached (cfg : Config) (tables : AppTables) : AppState geometry → Prop where
  | powerUp (memory : Nvstore) (buffer : memory.payload.length = nvstorePayloadMax)
      (flash : Flash geometry) (blank : ∀ slot, imageSlots flash slot = none) :
      AppReached cfg tables (appBoot cfg tables memory flash)
  | mutate {state : AppState geometry} (reached : AppReached cfg tables state)
      (mutation : SubsystemMutation) :
      AppReached cfg tables (appEvent cfg state (.mutate mutation))
  | tick {state : AppState geometry} (reached : AppReached cfg tables state)
      (fault : FlashFault geometry) (stops : TickFault state fault) :
      AppReached cfg tables (appEvent cfg state (.tick fault))
  | reboot {state : AppState geometry} (reached : AppReached cfg tables state)
      (memory : Nvstore) (buffer : memory.payload.length = nvstorePayloadMax) :
      AppReached cfg tables (appBoot cfg tables memory state.flash)

/-- The tick serialises and puts every subsystem that has changed. -/
def TickWrites (state : AppState geometry) : Prop :=
  ∀ recordType,
    state.subs.generation recordType ≠ state.autosave.lastSavedGen recordType →
      ∃ bytes, state.subs.serialize (nvBufCap recordType) recordType = some bytes ∧
        (autosavePuts state.subs state.autosave).2.lastSavedGen recordType =
          state.subs.generation recordType ∧
        nvstoreGet (autosavePuts state.subs state.autosave).2.store recordType.code = .ok bytes

/-- The buffers hold the worst case of the two stores the build sizes. -/
def BuffersSuffice (cfg : Config) : Prop :=
  3 + cfg.scheduleCapacity * (6 + cfg.scheduleTcMax) ≤ nvBufCap .schedule ∧
    2 + cfg.hkstoreCapacity * (8 + 2 * cfg.hkstoreMaxParams) ≤ nvBufCap .hkstore

instance (cfg : Config) : Decidable (BuffersSuffice cfg) := inferInstanceAs (Decidable (_ ∧ _))

/-! ### The subsystems are within the limits -/

structure Subsystems.Within (cfg : Config) (subs : Subsystems) : Prop where
  datapool : subs.datapool.params.length ≤ 3
  schedule : subs.schedule.Bounded cfg
  hkstore : subs.hkstore.WellFormed cfg

namespace Subsystems.Within

variable {cfg : Config} {subs : Subsystems}

theorem init (cfg : Config) {tables : AppTables} (params : tables.params.length ≤ 3) :
    (subsystemsInit cfg tables).Within cfg where
  datapool := by
    rw [subsystemsInit]
    unfold datapoolInit
    split
    · exact Nat.zero_le _
    · split
      · exact params
      · exact Nat.zero_le _
  schedule := scheduleBounded_nil rfl
  hkstore := hkstoreInit_wellFormed cfg

theorem mutate (within : subs.Within cfg) (mutation : SubsystemMutation) :
    (subs.mutate cfg mutation).Within cfg := by
  cases mutation with
  | datapoolSet id value =>
      have shapes := datapoolSet_shapes subs.datapool id value
      refine ⟨?_, within.schedule, within.hkstore⟩
      rw [Subsystems.mutate, length_eq_of_shapes shapes]
      exact within.datapool
  | schedule op =>
      exact ⟨within.datapool, scheduleEvent_bounded within.schedule (.call op), within.hkstore⟩
  | hkstore op =>
      exact ⟨within.datapool, within.schedule, hkstoreApply_wellFormed within.hkstore op⟩
  | modeRequest target nowSeconds => exact ⟨within.datapool, within.schedule, within.hkstore⟩

theorem restore (within : subs.Within cfg) (recordType : NvRecordType) (bytes : List UInt8) :
    (subs.restore cfg recordType bytes).Within cfg := by
  cases recordType with
  | datapool =>
      have shapes := datapoolDeserialize_shapes subs.datapool bytes
      refine ⟨?_, within.schedule, within.hkstore⟩
      rw [Subsystems.restore, length_eq_of_shapes shapes]
      exact within.datapool
  | schedule =>
      exact ⟨within.datapool, scheduleDeserialize_bounded cfg subs.schedule bytes, within.hkstore⟩
  | hkstore => exact ⟨within.datapool, within.schedule, hkstoreDeserialize_wellFormed cfg bytes⟩
  | mode => exact ⟨within.datapool, within.schedule, within.hkstore⟩

theorem appRestore (cfg : Config) {tables : AppTables} (params : tables.params.length ≤ 3)
    (loaded : NvstoreStatus × Nvstore) : (appRestore cfg tables loaded).Within cfg := by
  have start := init cfg params
  rw [FswCore.appRestore]
  split
  · apply List.foldlRecOn nvRecordTypes _ start
    intro subs within recordType _
    split
    · exact within.restore recordType _
    · exact within
  · exact start

end Subsystems.Within

/-! ### The records fit -/

/-- The longest record of each type: the worst case, or the buffer it goes through. -/
def recordLimit : NvRecordType → Nat
  | .datapool => 23
  | .schedule => 1200
  | .hkstore => 256
  | .mode => 1

def tagLimit (tag : UInt8) : Nat :=
  ((nvRecordTypes.find? fun recordType => recordType.code == tag).map recordLimit).getD 0

theorem tagLimit_code (recordType : NvRecordType) :
    tagLimit recordType.code = recordLimit recordType :=
  find_code recordLimit recordType

theorem withinLimits_fits {records : List Record} (within : WithinBudget nvTags tagLimit records) :
    (encodeRecords records).length ≤ nvstorePayloadMax :=
  Nat.le_trans within.length_le (by decide)

theorem Subsystems.Within.image_length_le {cfg : Config} {subs : Subsystems}
    (within : subs.Within cfg) (suffice : BuffersSuffice cfg) (recordType : NvRecordType) :
    (subs.image recordType).length ≤ recordLimit recordType ∧
      recordLimit recordType ≤ nvBufCap recordType := by
  cases recordType with
  | datapool =>
      have count := within.datapool
      have size := datapoolImage_length_le subs.datapool.params
      simp only [image, recordLimit, nvBufCap]
      omega
  | schedule =>
      have count := within.schedule.count_le
      have size := scheduleImage_length_le within.schedule
        (if subs.schedule.enabled then 1 else 0)
      have worst := Nat.mul_le_mul_right (6 + cfg.scheduleTcMax) count
      have buffer := suffice.1
      rw [scheduleCount, Nat.mul_comm] at worst
      simp only [image, recordLimit, nvBufCap] at buffer ⊢
      omega
  | hkstore =>
      have count := within.hkstore.held_length_le
      have size := hkstoreImage_length_le within.hkstore.bounded
      have worst := Nat.mul_le_mul_right (8 + 2 * cfg.hkstoreMaxParams) count
      have buffer := suffice.2
      rw [Nat.mul_comm] at worst
      simp only [image, recordLimit, nvBufCap] at buffer ⊢
      omega
  | mode => exact ⟨Nat.le_refl _, by decide⟩

/-- Each serialiser succeeds, with something to put. -/
theorem Subsystems.Within.serializes {cfg : Config} {subs : Subsystems} (within : subs.Within cfg)
    (suffice : BuffersSuffice cfg) (recordType : NvRecordType) :
    subs.serialize (nvBufCap recordType) recordType = some (subs.image recordType) ∧
      (subs.image recordType).length ≤ recordLimit recordType ∧
      (subs.image recordType).length ≠ 0 := by
  obtain ⟨short, limit⟩ := within.image_length_le suffice recordType
  rw [serialize_image within.hkstore, if_pos (Nat.le_trans short limit)]
  refine ⟨rfl, short, ?_⟩
  cases recordType <;> simp [image, datapoolImage, scheduleImage, hkstoreImage]

/-! ### The puts of a tick -/

/-- The store holds records within the limits. -/
def StoreWithin (store : Nvstore) : Prop :=
  ∃ records, HoldsRecords store records ∧ WithinBudget nvTags tagLimit records

/-- What the puts have done for the subsystems visited so far. -/
structure PutsWrite (subs : Subsystems) (before : AutosaveState) (visited : List NvRecordType)
    (result : Bool × AutosaveState) : Prop where
  stored : ∃ records, HoldsRecords result.2.store records ∧
    WithinBudget nvTags tagLimit records ∧
    ∀ recordType ∈ visited, subs.generation recordType ≠ before.lastSavedGen recordType →
      lookupTag recordType.code records = some (subs.image recordType)
  saved : ∀ recordType ∈ visited,
    result.2.lastSavedGen recordType = subs.generation recordType
  pending : ∀ recordType, recordType ∉ visited →
    result.2.lastSavedGen recordType = before.lastSavedGen recordType

section PutsWrite

variable {cfg : Config} {subs : Subsystems} {before : AutosaveState} {visited : List NvRecordType}
variable {result : Bool × AutosaveState} {recordType : NvRecordType}

theorem autosavePut_same
    (same : subs.generation recordType = result.2.lastSavedGen recordType) :
    autosavePut subs result recordType = result := by
  simp only [autosavePut, nvAutosaveTick, if_pos same, Bool.or_false, Function.update_eq_self]

theorem autosavePut_changed
    (changed : ¬subs.generation recordType = result.2.lastSavedGen recordType)
    (serialized : subs.serialize (nvBufCap recordType) recordType = some (subs.image recordType))
    (nonempty : (subs.image recordType).length ≠ 0)
    (isOk : (nvstorePut result.2.store recordType.code (subs.image recordType)).1 = .ok) :
    autosavePut subs result recordType = (true,
      { lastSavedGen := Function.update result.2.lastSavedGen recordType
          (subs.generation recordType)
        store := (nvstorePut result.2.store recordType.code (subs.image recordType)).2 }) := by
  cases done : nvstorePut result.2.store recordType.code (subs.image recordType) with
  | mk status after =>
      rw [done] at isOk
      obtain rfl : status = .ok := isOk
      simp only [autosavePut, nvAutosaveTick, if_neg changed, serialized, if_neg nonempty, done,
        Bool.or_true]

/-- A subsystem that has not changed needs no put. -/
theorem PutsWrite.skip (writes : PutsWrite subs before visited result)
    (fresh : recordType ∉ visited)
    (same : subs.generation recordType = result.2.lastSavedGen recordType) :
    PutsWrite subs before (visited ++ [recordType]) result := by
  obtain ⟨records, holds, budget, stored⟩ := writes.stored
  have unsaved := writes.pending recordType fresh
  refine ⟨⟨records, holds, budget, fun other member changed => ?_⟩, fun other member => ?_,
    fun other notVisited => writes.pending other fun member =>
      notVisited (List.mem_append_left _ member)⟩
  · rcases List.mem_append.mp member with earlier | here
    · exact stored other earlier changed
    · rw [List.mem_singleton.mp here] at changed
      exact absurd (same.trans unsaved) changed
  · rcases List.mem_append.mp member with earlier | here
    · exact writes.saved other earlier
    · rw [List.mem_singleton.mp here]
      exact same.symm

theorem PutsWrite.put (within : subs.Within cfg) (suffice : BuffersSuffice cfg)
    (writes : PutsWrite subs before visited result) (fresh : recordType ∉ visited) :
    PutsWrite subs before (visited ++ [recordType]) (autosavePut subs result recordType) := by
  by_cases same : subs.generation recordType = result.2.lastSavedGen recordType
  · rw [autosavePut_same same]
    exact writes.skip fresh same
  obtain ⟨records, holds, budget, stored⟩ := writes.stored
  obtain ⟨serialized, short, nonempty⟩ := within.serializes suffice recordType
  have next := budget.replaceTag (code_mem_nvTags recordType) (tagLimit_code recordType ▸ short)
  have putHolds := nvstorePut_holds holds recordType.code (subs.image recordType)
  rw [if_pos (withinLimits_fits next)] at putHolds
  have visitedBefore {other : NvRecordType} (member : other ∈ visited ++ [recordType])
      (different : other ≠ recordType) : other ∈ visited := by
    rcases List.mem_append.mp member with earlier | here
    · exact earlier
    · exact absurd (List.mem_singleton.mp here) different
  rw [autosavePut_changed same serialized nonempty putHolds.1]
  refine ⟨⟨_, putHolds.2, next, fun other member changed => ?_⟩, fun other member => ?_,
    fun other notVisited => ?_⟩
  · by_cases here : other = recordType
    · rw [here]
      exact (tagOnce_of_nodup budget.distinct _).lookupTag_replaceTag _
    · have different : other.code ≠ recordType.code := fun equal =>
        here (NvRecordType.code_injective equal)
      rw [lookupTag_replaceTag_other different]
      exact stored other (visitedBefore member here) changed
  · by_cases here : other = recordType
    · rw [here]
      exact Function.update_self ..
    · simp only [Function.update_of_ne here]
      exact writes.saved other (visitedBefore member here)
  · have apart : other ≠ recordType := fun equal =>
      notVisited (List.mem_append_right _ (List.mem_singleton.mpr equal))
    simp only [Function.update_of_ne apart]
    exact writes.pending other fun member => notVisited (List.mem_append_left _ member)

end PutsWrite

theorem autosavePuts_writes {cfg : Config} {subs : Subsystems} (within : subs.Within cfg)
    (suffice : BuffersSuffice cfg) {before : AutosaveState} (holds : StoreWithin before.store) :
    PutsWrite subs before nvRecordTypes (autosavePuts subs before) := by
  obtain ⟨records, holds, budget⟩ := holds
  have start : PutsWrite subs before [] (false, before) :=
    ⟨⟨records, holds, budget, by simp⟩, by simp, fun _ _ => rfl⟩
  have datapool := start.put within suffice (show NvRecordType.datapool ∉ _ by decide)
  have schedule := datapool.put within suffice (show NvRecordType.schedule ∉ _ by decide)
  have hkstore := schedule.put within suffice (show NvRecordType.hkstore ∉ _ by decide)
  exact hkstore.put within suffice (show NvRecordType.mode ∉ _ by decide)

/-- A tick from a store within the limits writes every changed subsystem. -/
theorem tickWrites_of_within {cfg : Config} (suffice : BuffersSuffice cfg)
    {state : AppState geometry} (within : state.subs.Within cfg)
    (holds : StoreWithin state.autosave.store) : TickWrites state := by
  intro recordType changed
  have writes := autosavePuts_writes within suffice holds
  obtain ⟨records, after, _, stored⟩ := writes.stored
  have lookup := stored recordType (mem_nvRecordTypes recordType) changed
  refine ⟨state.subs.image recordType, (within.serializes suffice recordType).1,
    writes.saved recordType (mem_nvRecordTypes recordType), ?_⟩
  rw [nvstoreGet_eq after, lookup]

/-! ### The invariant -/

/-- Every image load examines holds records within the limits. -/
def FlashWithin (flash : Flash geometry) : Prop :=
  ∀ slot copy, imageSlots flash slot = some copy →
    ∃ records, copy.value = encodeRecords records ∧ WithinBudget nvTags tagLimit records

structure AppWithin (cfg : Config) (state : AppState geometry) : Prop where
  subs : state.subs.Within cfg
  store : StoreWithin state.autosave.store
  flash : FlashWithin state.flash

theorem appBoot_within (accepted : backendOk geometry = true) (cfg : Config) {tables : AppTables}
    (params : tables.params.length ≤ 3) {memory : Nvstore}
    (buffer : memory.payload.length = nvstorePayloadMax) {flash : Flash geometry}
    (within : FlashWithin flash) : AppWithin cfg (appBoot cfg tables memory flash) := by
  have stored : StoreWithin (nvReboot memory flash).2 :=
    ImagesOf.reboot accepted within withinBudget_nil buffer
  exact ⟨Subsystems.Within.appRestore cfg params _, stored, within⟩

theorem appTick_within (accepted : backendOk geometry = true) {cfg : Config}
    (suffice : BuffersSuffice cfg) {state : AppState geometry} (within : AppWithin cfg state)
    {fault : FlashFault geometry} (stops : TickFault state fault) :
    AppWithin cfg (appTick fault state) := by
  obtain ⟨records, holds, budget, _⟩ :=
    (autosavePuts_writes within.subs suffice within.store).stored
  cases puts : autosavePuts state.subs state.autosave with
  | mk dirty autosave =>
      rw [TickFault, puts] at stops
      rw [puts] at holds
      cases dirty with
      | false =>
          rw [appTick_idle fault puts]
          exact ⟨within.subs, ⟨records, holds, budget⟩, within.flash⟩
      | true =>
          rw [appTick_saves fault puts]
          have saved := ImagesOf.save accepted ⟨state.flash, autosave.store⟩ within.flash
            ⟨records, holds, budget⟩ stops
          exact ⟨within.subs, saved.2, saved.1⟩

theorem appReached_within (accepted : backendOk geometry = true) {cfg : Config}
    (suffice : BuffersSuffice cfg) {tables : AppTables} (params : tables.params.length ≤ 3)
    {state : AppState geometry} (reached : AppReached cfg tables state) : AppWithin cfg state := by
  induction reached with
  | powerUp memory buffer flash blank =>
      exact appBoot_within accepted cfg params buffer (imagesOf_blank blank)
  | mutate reached mutation within =>
      exact ⟨within.subs.mutate mutation, within.store, within.flash⟩
  | tick reached fault stops within => exact appTick_within accepted suffice within stops
  | reboot reached memory buffer within =>
      exact appBoot_within accepted cfg params buffer within.flash

end FswCore
