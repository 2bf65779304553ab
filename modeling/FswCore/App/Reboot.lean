import FswCore.App.Model
import FswCore.Datapool.Codec
import FswCore.Hkstore.Codec
import FswCore.Mode.Invariant
import FswCore.Nvstore.Supersede
import FswCore.Schedule.Uniqueness

/-!
Contract: what the four subsystems save is what a reboot restores.

Owns:
- `SubsystemsReached`, the states of runs of the four subsystems at the library's
  limits, with the space their images may take;
- the four records fit the payload, whatever earlier records it holds;
- the reboot restores every such state exactly when the save supersedes the
  image on flash.
-/

namespace FswCore

open Library

/-! ### Reached states and their images -/

structure SubsystemsReached (tables : AppTables) (subs : Subsystems) : Prop where
  datapool : ∃ events, subs.datapool = datapoolRun defaultConfig tables.params events
  schedule : ∃ events, subs.schedule = scheduleRun defaultConfig events
  hkstore : ∃ events, subs.hkstore = hkstoreRun defaultConfig events
  mode : ∃ events, subs.mode =
    modeRun defaultConfig tables.modes tables.initialMode tables.sinkWired events

def Subsystems.image (subs : Subsystems) : NvRecordType → List UInt8
  | .datapool => datapoolImage subs.datapool.params
  | .schedule => scheduleImage (if subs.schedule.enabled then 1 else 0) subs.schedule.activities
  | .hkstore => hkstoreImage subs.hkstore.held
  | .mode => [subs.mode.current]

/-- The longest image of each subsystem. -/
def recordBudget : NvRecordType → Nat
  | .datapool => 114
  | .schedule => 1123
  | .hkstore => 194
  | .mode => 1

section Reached

variable {tables : AppTables} {subs : Subsystems}

theorem SubsystemsReached.datapool_wellFormed (reached : SubsystemsReached tables subs) :
    subs.datapool.WellFormed defaultConfig := by
  obtain ⟨events, isRun⟩ := reached.datapool
  rw [isRun]
  exact datapoolRun_wellFormed defaultConfig tables.params events

theorem SubsystemsReached.schedule_bounded (reached : SubsystemsReached tables subs) :
    subs.schedule.Bounded defaultConfig := by
  obtain ⟨events, isRun⟩ := reached.schedule
  rw [isRun]
  exact scheduleRun_bounded defaultConfig events

theorem SubsystemsReached.hkstore_wellFormed (reached : SubsystemsReached tables subs) :
    subs.hkstore.WellFormed defaultConfig := by
  obtain ⟨events, isRun⟩ := reached.hkstore
  rw [isRun]
  exact hkstoreRun_wellFormed defaultConfig events

theorem SubsystemsReached.mode_consistent (reached : SubsystemsReached tables subs) :
    subs.mode.Consistent := by
  obtain ⟨events, isRun⟩ := reached.mode
  rw [isRun]
  exact modeRun_consistent defaultConfig tables.modes tables.initialMode tables.sinkWired events

theorem Subsystems.image_length_le (reached : SubsystemsReached tables subs)
    (recordType : NvRecordType) : (subs.image recordType).length ≤ recordBudget recordType := by
  cases recordType with
  | datapool =>
      have count := reached.datapool_wellFormed.count_le
      have size := datapoolImage_length_le subs.datapool.params
      simp only [image, recordBudget] at count size ⊢
      omega
  | schedule =>
      have count := reached.schedule_bounded.count_le
      have size := scheduleImage_length_le reached.schedule_bounded
        (if subs.schedule.enabled then 1 else 0)
      simp only [image, recordBudget, scheduleCount] at count size ⊢
      omega
  | hkstore =>
      have count := reached.hkstore_wellFormed.held_length_le
      have size := hkstoreImage_length_le reached.hkstore_wellFormed.bounded
      simp only [image, recordBudget] at count size ⊢
      omega
  | mode => exact Nat.le_refl _

theorem toOption_fits {ε : Type} (image : List UInt8) (bufCap : Nat) (short : ε) :
    (if image.length ≤ bufCap then Except.ok image else .error short).toOption =
      if image.length ≤ bufCap then some image else none := by
  split <;> rfl

/-- A serialiser that succeeds writes the image. -/
theorem Subsystems.serialize_image {cfg : Config} (wellFormed : subs.hkstore.WellFormed cfg)
    (bufCap : Nat) (recordType : NvRecordType) :
    subs.serialize bufCap recordType =
      if (subs.image recordType).length ≤ bufCap then some (subs.image recordType) else none := by
  cases recordType with
  | datapool => rw [serialize, image, datapoolSerialize_eq, toOption_fits]
  | schedule => rw [serialize, image, scheduleSerialize_eq, toOption_fits]
  | hkstore => rw [serialize, image, hkstoreSerialize_eq wellFormed, toOption_fits]
  | mode =>
      rw [serialize, image, modeSerialize, List.length_singleton]
      by_cases short : bufCap < 1
      · rw [if_pos short, if_neg (by omega)]
        rfl
      · rw [if_neg short, if_pos (by omega)]
        rfl

theorem Subsystems.serialize_eq (reached : SubsystemsReached tables subs) (bufCap : Nat)
    (recordType : NvRecordType) :
    subs.serialize bufCap recordType =
      if (subs.image recordType).length ≤ bufCap then some (subs.image recordType) else none :=
  serialize_image reached.hkstore_wellFormed bufCap recordType

end Reached

/-! ### Putting the four records -/

/-- The tags the application writes. -/
def nvTags : List UInt8 := nvRecordTypes.map NvRecordType.code

def tagBudget (tag : UInt8) : Nat :=
  ((nvRecordTypes.find? fun recordType => recordType.code == tag).map recordBudget).getD 0

/-- A size that goes with a record type is found by its tag. -/
theorem find_code (size : NvRecordType → Nat) (recordType : NvRecordType) :
    ((nvRecordTypes.find? fun other => other.code == recordType.code).map size).getD 0 =
      size recordType := by
  cases recordType <;> rfl

theorem tagBudget_code (recordType : NvRecordType) :
    tagBudget recordType.code = recordBudget recordType :=
  find_code recordBudget recordType

theorem code_mem_nvTags (recordType : NvRecordType) : recordType.code ∈ nvTags :=
  List.mem_map_of_mem (mem_nvRecordTypes recordType)

/-- All four records together fit the payload. -/
theorem withinBudget_fits {records : List Record} (within : WithinBudget nvTags tagBudget records) :
    (encodeRecords records).length ≤ nvstorePayloadMax :=
  Nat.le_trans within.length_le (by decide)

/-- The payload holds records of the four types, each written from a state that
such subsystems reached. -/
structure HoldsEarlier (store : Nvstore) (records : List Record) : Prop where
  holds : HoldsRecords store records
  distinct : (tagsOf records).Nodup
  earlier : ∀ record ∈ records, ∃ tables subs recordType bufCap, SubsystemsReached tables subs ∧
    record.1 = recordType.code ∧ subs.serialize bufCap recordType = some record.2

theorem HoldsEarlier.withinBudget {store : Nvstore} {records : List Record}
    (earlier : HoldsEarlier store records) : WithinBudget nvTags tagBudget records := by
  refine ⟨earlier.distinct, fun record member => ?_, fun record member => ?_⟩
  · obtain ⟨_, _, recordType, _, _, isType, _⟩ := earlier.earlier record member
    rw [isType]
    exact code_mem_nvTags recordType
  · obtain ⟨_, subs, recordType, bufCap, reached, isType, written⟩ :=
      earlier.earlier record member
    rw [Subsystems.serialize_eq reached] at written
    split at written
    · rw [isType, tagBudget_code, ← Option.some.inj written]
      exact Subsystems.image_length_le reached recordType
    · contradiction

/-- An empty payload holds no earlier record. -/
theorem holdsEarlier_empty {store : Nvstore} (sized : store.Sized) (empty : store.payloadLen = 0) :
    HoldsEarlier store [] where
  holds := ⟨sized, by simp [nvPayload, empty]⟩
  distinct := by simp [tagsOf]
  earlier := by simp

/-- Writing one more record from a reached state keeps it so: every payload the
application builds holds earlier records. -/
theorem HoldsEarlier.put {store : Nvstore} {records : List Record}
    (earlier : HoldsEarlier store records) {tables : AppTables} {subs : Subsystems}
    (reached : SubsystemsReached tables subs) {recordType : NvRecordType} {bufCap : Nat}
    {bytes : List UInt8} (written : subs.serialize bufCap recordType = some bytes) :
    HoldsEarlier (nvstorePut store recordType.code bytes).2
      (replaceTag recordType.code bytes records) := by
  have length : bytes.length ≤ tagBudget recordType.code := by
    have image := written
    rw [Subsystems.serialize_eq reached] at image
    split at image
    · rw [tagBudget_code, ← Option.some.inj image]
      exact Subsystems.image_length_le reached recordType
    · contradiction
  have fits := withinBudget_fits
    (earlier.withinBudget.replaceTag (code_mem_nvTags recordType) length)
  have putHolds := nvstorePut_holds earlier.holds recordType.code bytes
  rw [if_pos fits] at putHolds
  refine ⟨putHolds.2, nodup_tagsOf_replaceTag earlier.distinct bytes, fun record member => ?_⟩
  rcases List.mem_append.mp member with old | new
  · exact earlier.earlier record ((eraseTag_sublist _ _).subset old)
  · rw [List.mem_singleton.mp new]
    exact ⟨tables, subs, recordType, bufCap, reached, rfl, written⟩

/-- The four puts in the application's order: their statuses, and the store. -/
def persistPuts (store : Nvstore) (bytes : NvRecordType → List UInt8) :
    List NvstoreStatus × Nvstore :=
  nvRecordTypes.foldl (fun result recordType =>
    let (status, store) := nvstorePut result.2 recordType.code (bytes recordType)
    (result.1 ++ [status], store)) ([], store)

/-- What a sequence of puts within budget leaves. -/
structure PutsDone (store : Nvstore) (bytes : NvRecordType → List UInt8)
    (written : List NvRecordType) (result : List NvstoreStatus × Nvstore) : Prop where
  statuses : ∀ status ∈ result.1, status = .ok
  anchor : SameAnchor store result.2
  stored : ∃ records, HoldsRecords result.2 records ∧ WithinBudget nvTags tagBudget records ∧
    ∀ recordType ∈ written, lookupTag recordType.code records = some (bytes recordType)

theorem PutsDone.put {store : Nvstore} {bytes : NvRecordType → List UInt8}
    {written : List NvRecordType} {result : List NvstoreStatus × Nvstore}
    (done : PutsDone store bytes written result) (recordType : NvRecordType)
    (fits : (bytes recordType).length ≤ recordBudget recordType) :
    PutsDone store bytes (written ++ [recordType])
      (result.1 ++ [(nvstorePut result.2 recordType.code (bytes recordType)).1],
        (nvstorePut result.2 recordType.code (bytes recordType)).2) := by
  obtain ⟨records, holds, within, stored⟩ := done.stored
  have next := within.replaceTag (code_mem_nvTags recordType)
    (tagBudget_code recordType ▸ fits)
  have putHolds := nvstorePut_holds holds recordType.code (bytes recordType)
  rw [if_pos (withinBudget_fits next)] at putHolds
  refine ⟨?_, done.anchor.trans (nvstorePut_anchor _ recordType.code _),
    _, putHolds.2, next, ?_⟩
  · intro status member
    rcases List.mem_append.mp member with old | new
    · exact done.statuses status old
    · rw [List.mem_singleton.mp new]
      exact putHolds.1
  · intro other member
    by_cases same : other = recordType
    · rw [same]
      exact (tagOnce_of_nodup within.distinct _).lookupTag_replaceTag _
    · have different : other.code ≠ recordType.code := fun equal =>
        same (NvRecordType.code_injective equal)
      rw [lookupTag_replaceTag_other different]
      rcases List.mem_append.mp member with old | new
      · exact stored other old
      · exact absurd (List.mem_singleton.mp new) same

theorem persistPuts_done {store : Nvstore} {records : List Record}
    (holds : HoldsRecords store records) (within : WithinBudget nvTags tagBudget records)
    {bytes : NvRecordType → List UInt8}
    (fits : ∀ recordType, (bytes recordType).length ≤ recordBudget recordType) :
    PutsDone store bytes nvRecordTypes (persistPuts store bytes) := by
  have start : PutsDone store bytes [] ([], store) :=
    ⟨by simp, ⟨rfl, rfl, rfl⟩, records, holds, within, by simp⟩
  exact (((start.put .datapool (fits _)).put .schedule (fits _)).put .hkstore (fits _)).put .mode
    (fits _)

/-! ### Restoring -/

/-- The parameters, interval and enable flag a SID stands for. -/
def hkMapping (store : Hkstore) (sid : UInt16) : Option (List UInt16 × UInt32 × Bool) :=
  (hkstoreFind store sid).map fun held => (held.paramIds, held.intervalSec, held.enabled)

/-- The operator's state is the same; counters and emission times may differ. -/
structure RestoresExactly (restored subs : Subsystems) : Prop where
  datapool : restored.datapool.params = subs.datapool.params
  activities : restored.schedule.activities = subs.schedule.activities
  enabled : restored.schedule.enabled = subs.schedule.enabled
  hkstore : ∀ sid, hkMapping restored.hkstore sid = hkMapping subs.hkstore sid
  mode : restored.mode.current = subs.mode.current

theorem subsystemsInit_mode_consistent (tables : AppTables) :
    (subsystemsInit defaultConfig tables).mode.Consistent :=
  modeInit_consistent defaultConfig tables.modes tables.initialMode tables.sinkWired

/-- A loaded payload with the four images restores the state they were taken
from. -/
theorem appRestore_exact {tables : AppTables} {subs : Subsystems}
    (reached : SubsystemsReached tables subs) {loaded : NvstoreStatus × Nvstore}
    (isOk : loaded.1 = .ok)
    (stored : ∀ recordType : NvRecordType,
      nvstoreGet loaded.2 recordType.code = .ok (subs.image recordType)) :
    RestoresExactly (appRestore defaultConfig tables loaded) subs := by
  have shapes : shapesOf (subsystemsInit defaultConfig tables).datapool.params =
      shapesOf subs.datapool.params := by
    obtain ⟨events, isRun⟩ := reached.datapool
    rw [isRun, datapoolRun_shapes]
    rfl
  have tableSame : (subsystemsInit defaultConfig tables).mode.defs = subs.mode.defs := by
    obtain ⟨events, isRun⟩ := reached.mode
    rw [isRun, modeRun_defs]
    rfl
  have datapool := datapoolDeserialize_restores reached.datapool_wellFormed
    (Nat.lt_of_le_of_lt reached.datapool_wellFormed.count_le (by decide)) shapes []
  have schedule := scheduleDeserialize_restores reached.schedule_bounded (by decide) (by decide)
    (subsystemsInit defaultConfig tables).schedule
  obtain ⟨restoredHk, hkstore, held⟩ := hkstoreDeserialize_restores reached.hkstore_wellFormed
    (by decide) (by decide) []
  have mode := modeDeserializeCurrent_restores reached.mode_consistent
    (subsystemsInit_mode_consistent tables) tableSame
  rw [List.append_nil] at datapool hkstore
  rw [appRestore, if_pos isOk]
  simp only [nvRecordTypes, List.foldl_cons, List.foldl_nil, stored, Subsystems.restore,
    Subsystems.image]
  constructor
  · rw [datapool]
  · rw [schedule]
  · rw [schedule]
  · intro sid
    rw [hkstore, hkMapping, hkMapping, hkstoreFind_rearmed held, Option.map_map]
    rfl
  · exact mode.2

/-- What is restored depends on what the load yields only. -/
theorem appRestore_congr (tables : AppTables) {left right : NvstoreStatus × Nvstore}
    {found : Option (List UInt8)} (leftYields : LoadYields left found)
    (rightYields : LoadYields right found) (leftSized : left.2.Sized)
    (rightSized : right.2.Sized) :
    appRestore defaultConfig tables left = appRestore defaultConfig tables right := by
  cases found with
  | none =>
      simp only [LoadYields] at leftYields rightYields
      rw [appRestore, appRestore, leftYields, rightYields]
      rfl
  | some payload =>
      rw [appRestore, appRestore, leftYields.1, rightYields.1]
      simp only [nvstoreGet_congr leftSized rightSized
        (leftYields.2.trans rightYields.2.symm)]

/-! ### The round trip -/

/-- Buffers no smaller than the largest image. -/
structure SerializeBuffers where
  cap : NvRecordType → Nat
  sufficient : ∀ recordType, recordBudget recordType ≤ cap recordType

variable {geometry : NvGeometry}

/-- Serialise all four, put them in order, save, reboot and restore: no put
finds the payload full, and the state comes back. -/
def RebootRoundTrip (tables : AppTables) (buffers : SerializeBuffers)
    (state : NvState geometry) (subs : Subsystems) : Prop :=
  ∃ bytes : NvRecordType → List UInt8,
    (∀ recordType, subs.serialize (buffers.cap recordType) recordType = some (bytes recordType)) ∧
    (∀ status ∈ (persistPuts state.store bytes).1, status ≠ .errFull) ∧
    ∀ memory : Nvstore, memory.payload.length = nvstorePayloadMax →
      RestoresExactly (appRestore defaultConfig tables (nvReboot memory
        (nvSave .none ⟨state.flash, (persistPuts state.store bytes).2⟩).flash)) subs

theorem serialize_buffers {tables : AppTables} {subs : Subsystems}
    (reached : SubsystemsReached tables subs) (buffers : SerializeBuffers)
    (recordType : NvRecordType) :
    subs.serialize (buffers.cap recordType) recordType = some (subs.image recordType) := by
  rw [Subsystems.serialize_eq reached, if_pos]
  exact Nat.le_trans (Subsystems.image_length_le reached recordType)
    (buffers.sufficient recordType)

theorem rebootRoundTrip_of_supersedes (accepted : backendOk geometry = true)
    (tables : AppTables) (buffers : SerializeBuffers) {state : NvState geometry}
    {records : List Record} (earlier : HoldsEarlier state.store records)
    (supersedes : SaveSupersedes state) {subs : Subsystems}
    (reached : SubsystemsReached tables subs) :
    RebootRoundTrip tables buffers state subs := by
  have done := persistPuts_done earlier.holds earlier.withinBudget
    (Subsystems.image_length_le reached)
  refine ⟨subs.image, serialize_buffers reached buffers, ?_⟩
  generalize persistPuts state.store subs.image = puts at done ⊢
  constructor
  · intro status member
    rw [done.statuses status member]
    simp
  · intro memory buffer
    obtain ⟨stored, holds, _, lookups⟩ := done.stored
    have newest := nvSave_newest accepted holds.sized (supersedes.congr done.anchor)
    generalize (nvSave .none ⟨state.flash, puts.2⟩).flash = flash at newest ⊢
    have recovers := recoversTo_newest accepted flash memory buffer
    rw [newest] at recovers
    obtain ⟨isOk, payload⟩ : _ ∧ _ := recovers
    have sized := (nvReboot_tracks accepted flash buffer).sized
    apply appRestore_exact reached isOk
    intro recordType
    rw [nvstoreGet_eq ⟨sized, payload.trans holds.payload⟩,
      lookups recordType (mem_nvRecordTypes recordType)]

/-- Without it two different schedules are restored alike, so not both of them
right. -/
theorem not_rebootRoundTrip_of_hidden (accepted : backendOk geometry = true)
    (tables : AppTables) (buffers : SerializeBuffers) {state : NvState geometry}
    {records : List Record} (earlier : HoldsEarlier state.store records)
    (hidden : ¬ SaveSupersedes state) :
    ¬ ∀ subs, SubsystemsReached tables subs → RebootRoundTrip tables buffers state subs := by
  intro always
  obtain ⟨found, sameFound⟩ := nvSave_hidden accepted hidden
  let fresh := subsystemsInit defaultConfig tables
  let enabled := { fresh with schedule := scheduleSetEnabled scheduleInit true }
  have freshReached : SubsystemsReached tables fresh :=
    ⟨⟨[], rfl⟩, ⟨[], rfl⟩, ⟨[], rfl⟩, ⟨[], rfl⟩⟩
  have enabledReached : SubsystemsReached tables enabled :=
    ⟨⟨[], rfl⟩, ⟨[.call (.setEnabled true)], rfl⟩, ⟨[], rfl⟩, ⟨[], rfl⟩⟩
  have restoredFlag (subs : Subsystems) (reached : SubsystemsReached tables subs) :
      ∃ loaded : NvstoreStatus × Nvstore, loaded.2.Sized ∧ LoadYields loaded found ∧
        (appRestore defaultConfig tables loaded).schedule.enabled = subs.schedule.enabled := by
    obtain ⟨bytes, written, _, restores⟩ := always subs reached
    have isImage : bytes = subs.image := funext fun recordType =>
      Option.some.inj ((written recordType).symm.trans (serialize_buffers reached buffers _))
    subst isImage
    have done := persistPuts_done earlier.holds earlier.withinBudget
      (Subsystems.image_length_le reached)
    obtain ⟨_, holds, _, _⟩ := done.stored
    have recovers := recoversTo_newest accepted (nvSave .none
      ⟨state.flash, (persistPuts state.store subs.image).2⟩).flash nvstoreZero
      List.length_replicate
    rw [sameFound _ done.anchor holds.sized] at recovers
    exact ⟨_, (nvReboot_tracks accepted _ List.length_replicate).sized, recovers,
      (restores nvstoreZero List.length_replicate).enabled⟩
  obtain ⟨left, leftSized, leftYields, leftFlag⟩ := restoredFlag fresh freshReached
  obtain ⟨right, rightSized, rightYields, rightFlag⟩ := restoredFlag enabled enabledReached
  have alike := appRestore_congr tables leftYields rightYields leftSized rightSized
  rw [← alike, leftFlag] at rightFlag
  exact absurd rightFlag
    (by simp [fresh, enabled, subsystemsInit, scheduleInit, scheduleSetEnabled])

/-- Every reached state survives the reboot exactly when the save supersedes
what is on flash. -/
theorem rebootRoundTrip_iff (accepted : backendOk geometry = true) (tables : AppTables)
    (buffers : SerializeBuffers) {state : NvState geometry} {records : List Record}
    (earlier : HoldsEarlier state.store records) :
    (∀ subs, SubsystemsReached tables subs → RebootRoundTrip tables buffers state subs) ↔
      SaveSupersedes state := by
  constructor
  · intro always
    by_contra hidden
    exact not_rebootRoundTrip_of_hidden accepted tables buffers earlier hidden always
  · intro supersedes subs reached
    exact rebootRoundTrip_of_supersedes accepted tables buffers earlier supersedes reached

/-- Tables with one parameter and one mode. -/
def smallTables : AppTables where
  params := [{ id := 1, access := .readWrite, value := .u32 10 }]
  modes := [{ id := 0, allowedTargets := 0 }]
  initialMode := 0
  sinkWired := true

def tightBuffers : SerializeBuffers := ⟨recordBudget, fun _ => Nat.le_refl _⟩

/-- On erased flash of two sectors every state survives the first save. -/
theorem rebootRoundTrip_iff_erased :
    let geometry : NvGeometry := { sectorSize := 2048, sectorCount := 2, writeBlock := 32 }
    ∀ subs, SubsystemsReached smallTables subs →
      RebootRoundTrip smallTables tightBuffers ⟨erasedFlash geometry, nvstoreZero⟩ subs := by
  intro geometry
  have empty : HoldsEarlier nvstoreZero [] :=
    holdsEarlier_empty ⟨List.length_replicate, Nat.zero_le _⟩ rfl
  have accepted : backendOk geometry = true := by decide
  refine (rebootRoundTrip_iff accepted smallTables tightBuffers empty).mpr
    ⟨⟨0, Nat.two_pos⟩, rfl, fun rival present => ?_⟩
  have noImage : readImage (erasedSector geometry.sectorSize.toNat).bytes = none := by
    decide +kernel
  simp only [imageSlots, erasedFlash, noImage] at present
  contradiction

/-- With three sectors the third save goes where no load looks. -/
theorem rebootRoundTrip_third_sector :
    let geometry : NvGeometry := { sectorSize := 2048, sectorCount := 3, writeBlock := 32 }
    let started : NvState geometry :=
      ⟨erasedFlash geometry, (nvReboot nvstoreZero (erasedFlash geometry)).2⟩
    let saved := nvSave .none (nvSave .none started)
    backendOk geometry = true ∧ HoldsEarlier saved.store [] ∧
      ¬ ∀ subs, SubsystemsReached smallTables subs →
        RebootRoundTrip smallTables tightBuffers saved subs := by
  intro geometry started saved
  have accepted : backendOk geometry = true := by decide
  have target : nvstoreTarget geometry saved.store = 2 := by decide +kernel
  have sized : saved.store.Sized := ⟨by decide +kernel, by decide +kernel⟩
  have empty : HoldsEarlier saved.store [] := holdsEarlier_empty sized (by decide +kernel)
  have hidden : ¬ SaveSupersedes saved := by
    rintro ⟨slot, isTarget, _⟩
    have notExamined : ∀ slot, sectorOf slot ≠ 2 := by decide
    exact notExamined slot (isTarget.symm.trans target)
  have fails := not_rebootRoundTrip_of_hidden accepted smallTables tightBuffers empty hidden
  exact ⟨accepted, empty, fails⟩

end FswCore
