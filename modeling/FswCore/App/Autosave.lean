import FswCore.App.Model
import FswCore.Hkstore.Codec
import FswCore.Mode.Invariant
import FswCore.Datapool.Invariant
import FswCore.Nvstore.Supersede
import FswCore.Schedule.Uniqueness

/-!
Contract: the main loop's dirty tracking against the flash.

Owns:
- `appRun`, runs of subsystem mutations and save ticks from a boot, each tick
  with its own flash fault;
- `Persisted`: a subsystem whose snapshot is its generation is on flash;
- every run persists whose saves run into no fault.

The snapshot is advanced when a record is put, before the save whose status the
loop ignores, so a tick whose save fails loses the mutation.
-/

namespace FswCore

open Library

variable {geometry : NvGeometry}

/-! ### Mutations -/

inductive SubsystemMutation where
  | datapoolSet (id : UInt16) (value : DpValue)
  | schedule (op : ScheduleOp)
  | hkstore (op : HkstoreOp)
  | modeRequest (target : UInt8) (nowSeconds : UInt32)

def Subsystems.mutate (cfg : Config) (subs : Subsystems) : SubsystemMutation → Subsystems
  | .datapoolSet id value => { subs with datapool := (datapoolSet subs.datapool id value).2 }
  | .schedule op => { subs with schedule := (scheduleApply cfg subs.schedule op).2 }
  | .hkstore op => { subs with hkstore := hkstoreApply cfg subs.hkstore op }
  | .modeRequest target nowSeconds =>
      { subs with mode := (modeRequest subs.mode target nowSeconds).2.1 }

theorem scheduleApply_generation (cfg : Config) (sched : Schedule) (op : ScheduleOp) :
    (scheduleApply cfg sched op).2 = sched ∨
      (scheduleApply cfg sched op).2.generation = sched.generation + 1 := by
  cases op with
  | insert releaseTime tc =>
      rcases scheduleInsert_cases cfg sched releaseTime tc with ⟨_, same⟩ | inserted
      · exact .inl same
      · exact .inr (by rw [scheduleApply, inserted.result])
  | delete requestId =>
      rcases scheduleDelete_cases sched requestId with ⟨_, same, _⟩ | ⟨_, _, _, _, removed⟩
      · exact .inl same
      · exact .inr (by rw [scheduleApply, removed])
  | reset => exact .inr rfl
  | setEnabled enabled =>
      rw [scheduleApply, scheduleSetEnabled]
      split
      · exact .inl rfl
      · exact .inr rfl
  | popDue nowSeconds outCap =>
      cases schedulePopDue_cases sched nowSeconds outCap with
      | disabled _ result => exact .inl (by rw [scheduleApply, result])
      | noneDue _ _ result => exact .inl (by rw [scheduleApply, result])
      | tooSmall _ _ _ _ _ result => exact .inl (by rw [scheduleApply, result])
      | released _ _ _ _ _ result => exact .inr (by rw [scheduleApply, result])

theorem hkstoreApply_generation (cfg : Config) (store : Hkstore) (op : HkstoreOp) :
    ((hkstoreApply cfg store op).generation = store.generation ∧
        ∀ outCap, hkstoreSerialize (hkstoreApply cfg store op) outCap =
          hkstoreSerialize store outCap) ∨
      (hkstoreApply cfg store op).generation = store.generation + 1 := by
  cases op with
  | create sid paramIds intervalSec =>
      rcases hkstoreCreate_cases cfg store sid paramIds intervalSec with ⟨_, same⟩ | ⟨_, done⟩
      · rw [hkstoreApply, same]
        exact .inl ⟨rfl, fun _ => rfl⟩
      · exact .inr done.generation
  | delete sid =>
      rcases hkstoreDelete_cases store sid with ⟨_, same, _⟩ | ⟨_, done⟩
      · rw [hkstoreApply, same]
        exact .inl ⟨rfl, fun _ => rfl⟩
      · exact .inr done.generation
  | setEnabled sid enabled =>
      rcases hkstoreSetEnabled_cases store sid enabled with ⟨_, same, _⟩ | ⟨_, same | done⟩
      · rw [hkstoreApply, same]
        exact .inl ⟨rfl, fun _ => rfl⟩
      · rw [hkstoreApply, same]
        exact .inl ⟨rfl, fun _ => rfl⟩
      · exact .inr done.generation
  | due nowSeconds =>
      refine .inl ⟨?_, hkstoreSerialize_due store nowSeconds⟩
      rcases hkstoreDue_cases store nowSeconds with same | ⟨_, _, _, _, result⟩
      · rw [hkstoreApply, same]
      · rw [hkstoreApply, result]

/-- A mutation leaves a subsystem's serialised state alone or counts it. -/
theorem Subsystems.mutate_effect (cfg : Config) (subs : Subsystems)
    (mutation : SubsystemMutation) (recordType : NvRecordType) :
    ((subs.mutate cfg mutation).generation recordType = subs.generation recordType ∧
        ∀ bufCap, (subs.mutate cfg mutation).serialize bufCap recordType =
          subs.serialize bufCap recordType) ∨
      (subs.mutate cfg mutation).generation recordType = subs.generation recordType + 1 := by
  cases mutation with
  | datapoolSet id value =>
      cases recordType with
      | datapool =>
          rcases datapoolSet_cases subs.datapool id value with ⟨_, same⟩ | ⟨_, done⟩
          · refine .inl ⟨congrArg Datapool.generation same, fun bufCap => ?_⟩
            simp only [mutate, serialize, same]
          · exact .inr done.generation
      | _ => exact .inl ⟨rfl, fun _ => rfl⟩
  | schedule op =>
      cases recordType with
      | schedule =>
          rcases scheduleApply_generation cfg subs.schedule op with same | counted
          · refine .inl ⟨congrArg Schedule.generation same, fun bufCap => ?_⟩
            simp only [mutate, serialize, same]
          · exact .inr counted
      | _ => exact .inl ⟨rfl, fun _ => rfl⟩
  | hkstore op =>
      cases recordType with
      | hkstore =>
          rcases hkstoreApply_generation cfg subs.hkstore op with ⟨same, serialized⟩ | counted
          · exact .inl ⟨same, fun bufCap => by simp only [mutate, serialize, serialized]⟩
          · exact .inr counted
      | _ => exact .inl ⟨rfl, fun _ => rfl⟩
  | modeRequest target nowSeconds =>
      cases recordType with
      | mode =>
          rcases modeRequest_cases subs.mode target nowSeconds with
            ⟨_, same, _⟩ | ⟨_, _, _, _, result⟩
          · refine .inl ⟨congrArg ModeManager.generation same, fun bufCap => ?_⟩
            simp only [mutate, serialize, same]
          · exact .inr (by simp only [mutate, generation, result])
      | _ => exact .inl ⟨rfl, fun _ => rfl⟩

/-! ### Runs -/

structure AppState (geometry : NvGeometry) where
  subs : Subsystems
  autosave : AutosaveState
  flash : Flash geometry

/-- The state the main loop starts from. -/
def appBoot (cfg : Config) (tables : AppTables) (memory : Nvstore) (flash : Flash geometry) :
    AppState geometry where
  subs := appRestore cfg tables (nvReboot memory flash)
  autosave := { lastSavedGen := fun _ => 0, store := (nvReboot memory flash).2 }
  flash := flash

/-- A mutation of a subsystem, or a save tick with what its flash calls run into. -/
inductive AppEvent (geometry : NvGeometry) where
  | mutate (mutation : SubsystemMutation)
  | tick (fault : FlashFault geometry)

def appTick (fault : FlashFault geometry) (state : AppState geometry) : AppState geometry :=
  let (autosave, flash) := autosaveTick (flashBackend geometry fault) state.subs state.flash
    state.autosave
  { state with autosave := autosave, flash := flash }

def appEvent (cfg : Config) (state : AppState geometry) : AppEvent geometry → AppState geometry
  | .mutate mutation => { state with subs := state.subs.mutate cfg mutation }
  | .tick fault => appTick fault state

def appRun (cfg : Config) (start : AppState geometry) (events : List (AppEvent geometry)) :
    AppState geometry :=
  events.foldl (appEvent cfg) start

def mutationCount : List (AppEvent geometry) → Nat
  | [] => 0
  | .mutate _ :: rest => mutationCount rest + 1
  | .tick _ :: rest => mutationCount rest

/-- The tick puts the record of a changed subsystem, and so saves. -/
def TickSaves (state : AppState geometry) : Prop :=
  (autosavePuts state.subs state.autosave).1 = true

/-- A tick that saves runs into no flash fault, and its save supersedes the image on
flash. -/
def EventClean (state : AppState geometry) : AppEvent geometry → Prop
  | .mutate _ => True
  | .tick fault => TickSaves state →
      fault = .none ∧ SaveSupersedes ⟨state.flash, state.autosave.store⟩

def RunClean (cfg : Config) : AppState geometry → List (AppEvent geometry) → Prop
  | _, [] => True
  | state, event :: rest => EventClean state event ∧ RunClean cfg (appEvent cfg state event) rest

/-- No subsystem has two records. -/
def SavedOnce (records : List Record) : Prop :=
  ∀ recordType : NvRecordType, TagOnce recordType.code records

/-- The newest image, if there is one, is a stream of records, one at most for each
subsystem, as the store writes them. -/
def FlashWellFormed (flash : Flash geometry) : Prop :=
  ∀ payload, newestPayload flash = some payload →
    ∃ records, payload = encodeRecords records ∧ SavedOnce records

/-- A subsystem counted as saved: the snapshot is its generation, and not zero. -/
def CountedSaved (subs : Subsystems) (lastSavedGen : NvRecordType → UInt32)
    (recordType : NvRecordType) : Prop :=
  lastSavedGen recordType = subs.generation recordType ∧ subs.generation recordType ≠ 0

/-- Every subsystem counted as saved is on flash: a start-up loads an image
whose record of it is its serialised state. -/
def Persisted (state : AppState geometry) : Prop :=
  ∀ recordType, CountedSaved state.subs state.autosave.lastSavedGen recordType →
    ∃ bytes, state.subs.serialize (nvBufCap recordType) recordType = some bytes ∧
      ∀ memory : Nvstore, memory.payload.length = nvstorePayloadMax →
        (nvReboot memory state.flash).1 = .ok ∧
          nvstoreGet (nvReboot memory state.flash).2 recordType.code = .ok bytes

/-! ### The invariant -/

/-- The records have the serialised state of every subsystem counted as saved. -/
def Covers (subs : Subsystems) (lastSavedGen : NvRecordType → UInt32) (records : List Record) :
    Prop :=
  ∀ recordType, CountedSaved subs lastSavedGen recordType →
    ∃ bytes, subs.serialize (nvBufCap recordType) recordType = some bytes ∧
      lookupTag recordType.code records = some bytes

/-- The payload in memory is a record stream that covers the snapshots. -/
def StoreCovers (subs : Subsystems) (autosave : AutosaveState) : Prop :=
  ∃ records, HoldsRecords autosave.store records ∧ SavedOnce records ∧
    Covers subs autosave.lastSavedGen records

structure AutosaveInvariant (mutations : Nat) (state : AppState geometry) : Prop where
  counted : ∀ recordType, (state.subs.generation recordType).toNat ≤ mutations
  behind : ∀ recordType, (state.autosave.lastSavedGen recordType).toNat ≤
    (state.subs.generation recordType).toNat
  store : StoreCovers state.subs state.autosave
  flash : (∃ recordType, CountedSaved state.subs state.autosave.lastSavedGen recordType) →
    ∃ records, newestPayload state.flash = some (encodeRecords records) ∧
      Covers state.subs state.autosave.lastSavedGen records

/-! ### The puts of a tick -/

/-- What the puts of a tick have done so far. -/
structure PutsProgress (subs : Subsystems) (before : AutosaveState)
    (result : Bool × AutosaveState) : Prop where
  covers : StoreCovers subs result.2
  anchor : SameAnchor before.store result.2.store
  snapshots : ∀ recordType, result.2.lastSavedGen recordType = before.lastSavedGen recordType ∨
    result.2.lastSavedGen recordType = subs.generation recordType
  nothing : result.1 = false → result.2.lastSavedGen = before.lastSavedGen

/-- What one call does. -/
inductive AutosaveTickCase (store : Nvstore) (recordType : UInt8)
    (serialized : Option (List UInt8)) (curGen lastSavedGen : UInt32) : Prop where
  | skipped (result : nvAutosaveTick store recordType serialized curGen lastSavedGen =
      (false, store, lastSavedGen))
  | full (bytes : List UInt8) (changed : curGen ≠ lastSavedGen)
      (isFull : (nvstorePut store recordType bytes).1 ≠ .ok)
      (result : nvAutosaveTick store recordType serialized curGen lastSavedGen =
        (false, (nvstorePut store recordType bytes).2, lastSavedGen))
  | put (bytes : List UInt8) (written : serialized = some bytes) (changed : curGen ≠ lastSavedGen)
      (isOk : (nvstorePut store recordType bytes).1 = .ok)
      (result : nvAutosaveTick store recordType serialized curGen lastSavedGen =
        (true, (nvstorePut store recordType bytes).2, curGen))

theorem nvAutosaveTick_cases (store : Nvstore) (recordType : UInt8)
    (serialized : Option (List UInt8)) (curGen lastSavedGen : UInt32) :
    AutosaveTickCase store recordType serialized curGen lastSavedGen := by
  by_cases same : curGen = lastSavedGen
  · exact .skipped (by simp only [nvAutosaveTick, if_pos same])
  cases serialized with
  | none => exact .skipped (by simp only [nvAutosaveTick, if_neg same])
  | some bytes =>
      by_cases empty : bytes.length = 0
      · exact .skipped (by simp only [nvAutosaveTick, if_neg same, if_pos empty])
      cases done : nvstorePut store recordType bytes with
      | mk status after =>
          by_cases isOk : status = .ok
          · subst isOk
            refine .put bytes rfl same (by rw [done]) ?_
            simp only [nvAutosaveTick, if_neg same, if_neg empty, done]
          · refine .full bytes same (by rw [done]; exact isOk) ?_
            simp only [nvAutosaveTick, if_neg same, if_neg empty, done]

/-- Snapshots that moved at one type only, for records that kept all others. -/
theorem Covers.change {subs : Subsystems} {lastSavedGen changed : NvRecordType → UInt32}
    {records after : List Record} (covers : Covers subs lastSavedGen records)
    (moved : NvRecordType) (snapshots : ∀ other, other ≠ moved →
      changed other = lastSavedGen other)
    (lookups : ∀ other, other ≠ moved →
      lookupTag other.code after = lookupTag other.code records)
    (target : CountedSaved subs changed moved → ∃ bytes,
      subs.serialize (nvBufCap moved) moved = some bytes ∧
        lookupTag moved.code after = some bytes) : Covers subs changed after := by
  intro recordType saved
  by_cases same : recordType = moved
  · subst same
    exact target saved
  · rw [CountedSaved, snapshots recordType same] at saved
    rw [lookups recordType same]
    exact covers recordType saved

/-- One call keeps the payload covering the snapshots. -/
theorem PutsProgress.put {subs : Subsystems} {before : AutosaveState}
    {result : Bool × AutosaveState} (progress : PutsProgress subs before result)
    (recordType : NvRecordType) :
    PutsProgress subs before (autosavePut subs result recordType) := by
  obtain ⟨records, holds, once, covers⟩ := progress.covers
  have otherCode {other : NvRecordType} (different : other ≠ recordType) :
      other.code ≠ recordType.code := fun equal => different (NvRecordType.code_injective equal)
  have keeps {value : UInt32} (same : value = result.2.lastSavedGen recordType) :
      Function.update result.2.lastSavedGen recordType value = result.2.lastSavedGen := by
    rw [same, Function.update_eq_self]
  cases nvAutosaveTick_cases result.2.store recordType.code
      (subs.serialize (nvBufCap recordType) recordType) (subs.generation recordType)
      (result.2.lastSavedGen recordType) with
  | skipped isResult =>
      simp only [autosavePut, isResult, Bool.or_false, keeps]
      exact progress
  | full bytes changed isFull isResult =>
      -- the old record is gone, but its subsystem has changed since it was put
      have putHolds := nvstorePut_holds holds recordType.code bytes
      split at putHolds
      · exact absurd putHolds.1 isFull
      simp only [autosavePut, isResult, Bool.or_false, keeps]
      refine ⟨⟨_, putHolds.2, ?_, ?_⟩, ?_, progress.snapshots, progress.nothing⟩
      · exact fun other => (once other).eraseTag recordType.code
      · exact covers.change recordType (fun _ _ => rfl)
          (fun other different => lookupTag_eraseTag_other (otherCode different) records)
          fun saved => absurd saved.1.symm changed
      · exact progress.anchor.trans (nvstorePut_anchor _ recordType.code bytes)
  | put bytes written changed isOk isResult =>
      have putHolds := nvstorePut_holds holds recordType.code bytes
      split at putHolds
      · simp only [autosavePut, isResult, Bool.or_true]
        refine ⟨⟨_, putHolds.2, fun other => (once other).replaceTag (once recordType) bytes, ?_⟩,
          progress.anchor.trans (nvstorePut_anchor _ recordType.code bytes), ?_, by simp⟩
        · exact covers.change recordType
            (fun other different => Function.update_of_ne different _ _)
            (fun other different => lookupTag_replaceTag_other (otherCode different) bytes records)
            fun _ => ⟨bytes, written, (once recordType).lookupTag_replaceTag bytes⟩
        · intro other
          by_cases same : other = recordType
          · subst same
            exact .inr (Function.update_self ..)
          · simp only [Function.update_of_ne same]
            exact progress.snapshots other
      · rw [putHolds.1] at isOk
        contradiction

theorem autosavePuts_progress {subs : Subsystems} {before : AutosaveState}
    (covers : StoreCovers subs before) :
    PutsProgress subs before (autosavePuts subs before) := by
  refine List.foldlRecOn nvRecordTypes (autosavePut subs) ?_ ?_
  · exact ⟨covers, ⟨rfl, rfl, rfl⟩, fun _ => .inl rfl, fun _ => rfl⟩
  · intro result progress recordType _
    exact progress.put recordType

/-! ### Steps -/

/-- A tick that saves: the flash has the payload, and memory keeps it. -/
theorem nvSave_covers (accepted : backendOk geometry = true) {subs : Subsystems}
    {autosave : AutosaveState} {flash : Flash geometry} (covers : StoreCovers subs autosave)
    (supersedes : SaveSupersedes ⟨flash, autosave.store⟩) :
    StoreCovers subs { autosave with store := (nvSave .none ⟨flash, autosave.store⟩).store } ∧
      ∃ records, newestPayload (nvSave .none ⟨flash, autosave.store⟩).flash =
          some (encodeRecords records) ∧ Covers subs autosave.lastSavedGen records := by
  obtain ⟨records, holds, once, lookups⟩ := covers
  obtain ⟨sector, _, result⟩ :=
    (nvstoreSave_spec accepted .none flash holds.sized).done rfl
  have newest := nvSave_newest accepted holds.sized supersedes
  rw [holds.payload] at newest
  refine ⟨⟨records, ?_, once, lookups⟩, records, newest, lookups⟩
  rw [nvSave, result]
  exact ⟨⟨holds.sized.buffer, holds.sized.len_le⟩, holds.payload⟩

theorem appTick_idle {state : AppState geometry} (fault : FlashFault geometry)
    {autosave : AutosaveState}
    (puts : autosavePuts state.subs state.autosave = (false, autosave)) :
    appTick fault state = { state with autosave := autosave } := by
  simp only [appTick, autosaveTick, puts]

theorem appTick_saves {state : AppState geometry} (fault : FlashFault geometry)
    {autosave : AutosaveState}
    (puts : autosavePuts state.subs state.autosave = (true, autosave)) :
    appTick fault state =
      { state with
        autosave := { autosave with store := (nvSave fault ⟨state.flash, autosave.store⟩).store }
        flash := (nvSave fault ⟨state.flash, autosave.store⟩).flash } := by
  simp only [appTick, autosaveTick, puts]
  rfl

namespace AutosaveInvariant

variable {mutations : Nat} {state : AppState geometry}

theorem tick (invariant : AutosaveInvariant mutations state) (accepted : backendOk geometry = true)
    (fault : FlashFault geometry) (clean : EventClean state (.tick fault)) :
    AutosaveInvariant mutations (appTick fault state) := by
  have progress := autosavePuts_progress invariant.store
  have behind {autosave : AutosaveState} (snapshots : ∀ recordType,
      autosave.lastSavedGen recordType = state.autosave.lastSavedGen recordType ∨
        autosave.lastSavedGen recordType = state.subs.generation recordType)
      (recordType : NvRecordType) : (autosave.lastSavedGen recordType).toNat ≤
        (state.subs.generation recordType).toNat := by
    rcases snapshots recordType with unmoved | moved
    · rw [unmoved]
      exact invariant.behind recordType
    · rw [moved]
  cases puts : autosavePuts state.subs state.autosave with
  | mk dirty autosave =>
      rw [puts] at progress
      cases dirty with
      | false =>
          have unmoved : autosave.lastSavedGen = state.autosave.lastSavedGen :=
            progress.nothing rfl
          rw [appTick_idle fault puts]
          refine ⟨invariant.counted, behind progress.snapshots, progress.covers, ?_⟩
          simp only [unmoved]
          exact invariant.flash
      | true =>
          obtain ⟨rfl, supersedes⟩ := clean (congrArg Prod.fst puts)
          have saved := nvSave_covers accepted progress.covers
            (supersedes.congr progress.anchor)
          rw [appTick_saves .none puts]
          exact ⟨invariant.counted, behind progress.snapshots, saved.1, fun _ => saved.2⟩

theorem mutate (invariant : AutosaveInvariant mutations state) (cfg : Config)
    (mutation : SubsystemMutation) (few : mutations + 1 < 4294967296) :
    AutosaveInvariant (mutations + 1)
      { state with subs := state.subs.mutate cfg mutation } := by
  have counts (recordType : NvRecordType)
      (counted : (state.subs.mutate cfg mutation).generation recordType =
        state.subs.generation recordType + 1) :
      ((state.subs.mutate cfg mutation).generation recordType).toNat =
        (state.subs.generation recordType).toNat + 1 := by
    have bound := invariant.counted recordType
    rw [counted, UInt32.toNat_add, UInt32.toNat_one, Nat.mod_eq_of_lt (by omega)]
  -- a subsystem still counted as saved has not changed
  have stays (recordType : NvRecordType)
      (saved : CountedSaved (state.subs.mutate cfg mutation) state.autosave.lastSavedGen
        recordType) :
      CountedSaved state.subs state.autosave.lastSavedGen recordType ∧
        (state.subs.mutate cfg mutation).serialize (nvBufCap recordType) recordType =
          state.subs.serialize (nvBufCap recordType) recordType := by
    rcases state.subs.mutate_effect cfg mutation recordType with ⟨same, serialized⟩ | counted
    · rw [CountedSaved, same] at saved
      exact ⟨saved, serialized _⟩
    · have next := counts recordType counted
      have behind := invariant.behind recordType
      rw [saved.1] at behind
      omega
  have covers {records : List Record}
      (before : Covers state.subs state.autosave.lastSavedGen records) :
      Covers (state.subs.mutate cfg mutation) state.autosave.lastSavedGen records := by
    intro recordType saved
    obtain ⟨wasSaved, serialized⟩ := stays recordType saved
    rw [serialized]
    exact before recordType wasSaved
  refine ⟨fun recordType => ?_, fun recordType => ?_, ?_, ?_⟩
  · have bound := invariant.counted recordType
    rcases state.subs.mutate_effect cfg mutation recordType with ⟨same, _⟩ | counted
    · simp only [same]
      omega
    · simp only [counts recordType counted]
      omega
  · have behind := invariant.behind recordType
    rcases state.subs.mutate_effect cfg mutation recordType with ⟨same, _⟩ | counted
    · simp only [same]
      exact behind
    · simp only [counts recordType counted]
      omega
  · obtain ⟨records, holds, once, before⟩ := invariant.store
    exact ⟨records, holds, once, covers before⟩
  · rintro ⟨recordType, saved⟩
    obtain ⟨records, newest, before⟩ := invariant.flash ⟨recordType, (stays recordType saved).1⟩
    exact ⟨records, newest, covers before⟩

/-- What a start-up reads back of a covering image. -/
theorem persisted (invariant : AutosaveInvariant mutations state)
    (accepted : backendOk geometry = true) : Persisted state := by
  intro recordType saved
  obtain ⟨records, newest, covers⟩ := invariant.flash ⟨recordType, saved⟩
  obtain ⟨bytes, written, lookup⟩ := covers recordType saved
  refine ⟨bytes, written, fun memory buffer => ?_⟩
  have recovers := recoversTo_newest accepted state.flash memory buffer
  rw [newest] at recovers
  obtain ⟨isOk, payload⟩ : _ ∧ _ := recovers
  have sized := (nvReboot_tracks accepted state.flash buffer).sized
  refine ⟨isOk, ?_⟩
  rw [nvstoreGet_eq ⟨sized, payload⟩, lookup]

end AutosaveInvariant

/-! ### Whole runs -/

theorem subsystemsInit_generation (cfg : Config) (tables : AppTables)
    (recordType : NvRecordType) : (subsystemsInit cfg tables).generation recordType = 0 := by
  cases recordType with
  | datapool => exact datapoolInit_generation cfg tables.params
  | schedule => rfl
  | hkstore => rfl
  | mode => exact modeInit_generation cfg tables.modes tables.initialMode tables.sinkWired

theorem Subsystems.restore_generation_other (cfg : Config) (subs : Subsystems)
    {restored other : NvRecordType} (different : other ≠ restored) (bytes : List UInt8) :
    (subs.restore cfg restored bytes).generation other = subs.generation other := by
  cases restored <;> cases other <;> first | rfl | contradiction

theorem Subsystems.restore_generation (cfg : Config) {subs : Subsystems}
    (restored : NvRecordType) (bytes : List UInt8)
    (zero : ∀ recordType, subs.generation recordType = 0) (recordType : NvRecordType) :
    (subs.restore cfg restored bytes).generation recordType = 0 := by
  by_cases same : recordType = restored
  · subst same
    cases recordType with
    | datapool => exact (datapoolDeserialize_generation subs.datapool bytes).trans (zero .datapool)
    | schedule =>
        exact (scheduleDeserialize_generation cfg subs.schedule bytes).trans (zero .schedule)
    | hkstore => exact hkstoreDeserialize_generation cfg bytes
    | mode => exact (modeDeserializeCurrent_generation subs.mode bytes).trans (zero .mode)
  · rw [restore_generation_other cfg subs same]
    exact zero recordType

/-- A boot leaves every generation at zero. -/
theorem appRestore_generation (cfg : Config) (tables : AppTables)
    (loaded : NvstoreStatus × Nvstore) (recordType : NvRecordType) :
    (appRestore cfg tables loaded).generation recordType = 0 := by
  rw [appRestore]
  split
  · refine List.foldlRecOn (motive := fun subs : Subsystems =>
      ∀ recordType, subs.generation recordType = 0) nvRecordTypes _
      (subsystemsInit_generation cfg tables) ?_ recordType
    intro subs zero restored _
    split
    · exact Subsystems.restore_generation cfg restored _ zero
    · exact zero
  · exact subsystemsInit_generation cfg tables recordType

theorem appBoot_invariant (accepted : backendOk geometry = true) (cfg : Config)
    (tables : AppTables) {memory : Nvstore} (buffer : memory.payload.length = nvstorePayloadMax)
    {flash : Flash geometry} (wellFormed : FlashWellFormed flash) :
    AutosaveInvariant 0 (appBoot cfg tables memory flash) := by
  have zero := appRestore_generation cfg tables (nvReboot memory flash)
  have notSaved (recordType : NvRecordType) :
      ¬ CountedSaved (appBoot cfg tables memory flash).subs (fun _ => 0) recordType :=
    fun saved => saved.2 (zero recordType)
  have loads := nvReboot_loads accepted flash buffer
  have holds : ∃ records, HoldsRecords (nvReboot memory flash).2 records ∧
      SavedOnce records := by
    cases found : newest (imageSlots flash) with
    | none =>
        rw [found] at loads
        exact ⟨[], ⟨loads.2.1, loads.2.2.2.2⟩, fun _ => Nat.zero_le _⟩
    | some held =>
        rw [found] at loads
        obtain ⟨records, isStream, once⟩ := wellFormed held.2.value
          (by rw [newestPayload, found]; rfl)
        exact ⟨records, ⟨loads.2.1, loads.2.2.2.2.2.trans isStream⟩, once⟩
  obtain ⟨records, holds, once⟩ := holds
  refine ⟨fun recordType => ?_, fun recordType => Nat.zero_le _, ?_, ?_⟩
  · exact Nat.le_of_eq (congrArg UInt32.toNat (zero recordType))
  · exact ⟨records, holds, once, fun recordType saved => absurd saved (notSaved recordType)⟩
  · rintro ⟨recordType, saved⟩
    exact absurd saved (notSaved recordType)

theorem appRun_invariant (accepted : backendOk geometry = true) (cfg : Config)
    (events : List (AppEvent geometry)) {mutations : Nat} {state : AppState geometry}
    (invariant : AutosaveInvariant mutations state)
    (few : mutations + mutationCount events < 4294967296) (clean : RunClean cfg state events) :
    AutosaveInvariant (mutations + mutationCount events) (appRun cfg state events) := by
  induction events generalizing mutations state with
  | nil => exact invariant
  | cons event rest inductionHypothesis =>
      cases event with
      | mutate mutation =>
          rw [mutationCount, Nat.add_comm (mutationCount rest), ← Nat.add_assoc] at few ⊢
          exact inductionHypothesis (invariant.mutate cfg mutation (by omega)) few clean.2
      | tick fault =>
          exact inductionHypothesis (invariant.tick accepted fault clean.1) few clean.2

/-- Nothing counted as saved is lost in a run whose saves run into no fault, with fewer
mutations than the generation counter holds. -/
theorem appRun_persisted (accepted : backendOk geometry = true) (cfg : Config)
    (tables : AppTables) {memory : Nvstore} (buffer : memory.payload.length = nvstorePayloadMax)
    {flash : Flash geometry} (wellFormed : FlashWellFormed flash)
    {events : List (AppEvent geometry)} (few : mutationCount events < 4294967296)
    (clean : RunClean cfg (appBoot cfg tables memory flash) events) :
    Persisted (appRun cfg (appBoot cfg tables memory flash) events) := by
  have invariant := appRun_invariant accepted cfg events
    (appBoot_invariant accepted cfg tables buffer wellFormed) (by omega) clean
  exact invariant.persisted accepted

/-- A run on erased flash: the schedule is enabled and saved. -/
theorem appRun_persisted_enabled :
    let geometry : NvGeometry := { sectorSize := 2048, sectorCount := 2, writeBlock := 32 }
    let tables : AppTables := { params := [], modes := [], initialMode := 0, sinkWired := false }
    let events : List (AppEvent geometry) :=
      [.mutate (.schedule (.setEnabled true)), .tick .none]
    Persisted (appRun defaultConfig
      (appBoot defaultConfig tables nvstoreZero (erasedFlash geometry)) events) := by
  intro geometry tables events
  have accepted : backendOk geometry = true := by decide
  have noImage : readImage (erasedSector geometry.sectorSize.toNat).bytes = none := by
    decide +kernel
  have noSlot : ∀ slot, imageSlots (erasedFlash geometry) slot = none := fun slot => by
    simp only [imageSlots, erasedFlash, noImage, Option.map_none]
  have wellFormed : FlashWellFormed (erasedFlash geometry) := by
    intro payload found
    rw [newestPayload, (newest_eq_none_iff _).mpr noSlot] at found
    contradiction
  refine appRun_persisted accepted defaultConfig tables List.length_replicate wellFormed
    (by decide) ⟨trivial, fun _ => ⟨rfl, ⟨0, Nat.two_pos⟩, ?_, ?_⟩, trivial⟩
  · decide +kernel
  · intro rival present
    exact absurd ((noSlot _).symm.trans present) (by simp)

/-- The erase of the save fails; the schedule counts as saved all the same. -/
theorem appRun_lost_mutation :
    let geometry : NvGeometry := { sectorSize := 2048, sectorCount := 2, writeBlock := 32 }
    let tables : AppTables := { params := [], modes := [], initialMode := 0, sinkWired := false }
    let events : List (AppEvent geometry) :=
      [.mutate (.schedule (.setEnabled true)), .tick (.duringErase (erasedSector _))]
    ¬ Persisted (appRun defaultConfig
      (appBoot defaultConfig tables nvstoreZero (erasedFlash geometry)) events) := by
  intro geometry tables events persisted
  obtain ⟨_, _, loads⟩ := persisted .schedule ⟨by decide +kernel, by decide +kernel⟩
  have loadFails : (nvReboot nvstoreZero (appRun defaultConfig
      (appBoot defaultConfig tables nvstoreZero (erasedFlash geometry)) events).flash).1 ≠ .ok := by
    decide +kernel
  exact loadFails (loads nvstoreZero List.length_replicate).1

end FswCore
