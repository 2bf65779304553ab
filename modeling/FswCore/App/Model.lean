import FswCore.Datapool.Model
import FswCore.Hkstore.Model
import FswCore.Mode.Model
import FswCore.Nvstore.Flash
import FswCore.Schedule.Model

/-!
Contract: the persistence code of `samples/tc_uart/src/main.c`: the restore at
boot, and the save tick of the main loop.

The four calls of `nv_autosave_tick`, and the four restores, differ in the
subsystem only and are indexed by its record type. The build is the one with the
mode manager.
-/

namespace FswCore

/-- `migris_nvstore_record_type_t`. -/
inductive NvRecordType where
  | datapool
  | schedule
  | hkstore
  | mode
deriving DecidableEq, Repr

def NvRecordType.code : NvRecordType → UInt8
  | .datapool => 1
  | .schedule => 2
  | .hkstore => 3
  | .mode => 4

theorem NvRecordType.code_injective {left right : NvRecordType} (same : left.code = right.code) :
    left = right := by
  cases left <;> cases right <;> first | rfl | contradiction

/-- The order in which the main loop visits the subsystems. -/
def nvRecordTypes : List NvRecordType := [.datapool, .schedule, .hkstore, .mode]

theorem mem_nvRecordTypes (recordType : NvRecordType) : recordType ∈ nvRecordTypes := by
  cases recordType <;> decide

structure Subsystems where
  datapool : Datapool
  schedule : Schedule
  hkstore : Hkstore
  mode : ModeManager

/-- The tables the application initialises the subsystems with. -/
structure AppTables where
  params : List DpParam
  modes : List ModeDef
  initialMode : UInt8
  sinkWired : Bool

def subsystemsInit (cfg : Config) (tables : AppTables) : Subsystems where
  datapool := (datapoolInit cfg tables.params).2
  schedule := scheduleInit
  hkstore := hkstoreInit cfg
  mode := (modeInit cfg tables.modes tables.initialMode tables.sinkWired).2

def Subsystems.generation (subs : Subsystems) : NvRecordType → UInt32
  | .datapool => subs.datapool.generation
  | .schedule => subs.schedule.generation
  | .hkstore => subs.hkstore.generation
  | .mode => subs.mode.generation

/-- The serialiser of a subsystem, into a buffer of this size; `none` is a
negative return value. -/
def Subsystems.serialize (subs : Subsystems) (bufCap : Nat) : NvRecordType → Option (List UInt8)
  | .datapool => (datapoolSerialize subs.datapool bufCap).toOption
  | .schedule => (scheduleSerialize subs.schedule bufCap).toOption
  | .hkstore => (hkstoreSerialize subs.hkstore bufCap).toOption
  | .mode => (modeSerialize subs.mode bufCap).toOption

/-! ### Boot -/

/-- Deserialise the body of one record. -/
def Subsystems.restore (cfg : Config) (subs : Subsystems) (recordType : NvRecordType)
    (bytes : List UInt8) : Subsystems :=
  match recordType with
  | .datapool => { subs with datapool := (datapoolDeserialize subs.datapool bytes).2 }
  | .schedule => { subs with schedule := (scheduleDeserialize cfg subs.schedule bytes).2 }
  | .hkstore => { subs with hkstore := (hkstoreDeserialize cfg bytes).2 }
  | .mode => { subs with mode := (modeDeserializeCurrent subs.mode bytes).2 }

/-- Initialise every subsystem; if the load succeeded, restore those that have a
record. -/
def appRestore (cfg : Config) (tables : AppTables) (loaded : NvstoreStatus × Nvstore) :
    Subsystems :=
  if loaded.1 = .ok then
    nvRecordTypes.foldl (fun subs recordType =>
      match nvstoreGet loaded.2 recordType.code with
      | .ok bytes => subs.restore cfg recordType bytes
      | .error _ => subs) (subsystemsInit cfg tables)
  else subsystemsInit cfg tables

/-! ### The save tick -/

/-- `nv_buf_dp`, `nv_buf_sched`, `nv_buf_hk` and `nv_buf_mode`. -/
def nvBufCap : NvRecordType → Nat
  | .datapool => 64
  | .schedule => 1200
  | .hkstore => 256
  | .mode => 8

/-- Whether a record was put, the store, and the snapshot of the generation. -/
def nvAutosaveTick (store : Nvstore) (recordType : UInt8) (serialized : Option (List UInt8))
    (curGen lastSavedGen : UInt32) : Bool × Nvstore × UInt32 :=
  if curGen = lastSavedGen then (false, store, lastSavedGen)
  else
    match serialized with
    | none => (false, store, lastSavedGen)
    | some bytes =>
        if bytes.length = 0 then (false, store, lastSavedGen)
        else
          match nvstorePut store recordType bytes with
          | (.ok, store) => (true, store, curGen)
          | (_, store) => (false, store, lastSavedGen)

/-- The snapshots of the generations already put, and the store. -/
structure AutosaveState where
  lastSavedGen : NvRecordType → UInt32
  store : Nvstore

/-- The call for one subsystem. -/
def autosavePut (subs : Subsystems) (dirty : Bool × AutosaveState) (recordType : NvRecordType) :
    Bool × AutosaveState :=
  let (put, store, lastSavedGen) := nvAutosaveTick dirty.2.store recordType.code
    (subs.serialize (nvBufCap recordType) recordType) (subs.generation recordType)
    (dirty.2.lastSavedGen recordType)
  (dirty.1 || put,
    { lastSavedGen := Function.update dirty.2.lastSavedGen recordType lastSavedGen
      store := store })

def autosavePuts (subs : Subsystems) (state : AutosaveState) : Bool × AutosaveState :=
  nvRecordTypes.foldl (autosavePut subs) (false, state)

/-- The save tick: at most one save, whose status is ignored. -/
def autosaveTick {σ : Type} (backend : NvBackend σ) (subs : Subsystems) (device : σ)
    (state : AutosaveState) : AutosaveState × σ :=
  match autosavePuts subs state with
  | (false, state) => (state, device)
  | (true, state) =>
      let (_, store, device) := nvstoreSave backend device state.store
      ({ state with store := store }, device)

end FswCore
