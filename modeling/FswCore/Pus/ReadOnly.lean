import FswCore.Library.DistinctKeys
import FswCore.Restore.Datapool
import FswCore.Pus.Parameter

/-!
Contract: the values of the parameters a table declares read-only.

Owns:
- no set, by the datapool's own call or by a telecommand, changes such a value;
- over every run they keep their table values exactly when no image restored in
  it says otherwise: a restore does not look at the access policy.
-/

namespace FswCore

open Library Library.BigEndian

/-! ### Sets -/

/-- A lookup that hits a read-only parameter is the same after any set. -/
theorem datapoolSet_find_readOnly {dp : Datapool} {param : DpParam} {wanted : UInt16}
    (found : datapoolFind dp wanted = some param) (access : param.access = .readOnly)
    (id : UInt16) (value : DpValue) :
    datapoolFind (datapoolSet dp id value).2 wanted = some param := by
  rcases datapoolSet_cases dp id value with ⟨_, same⟩ | ⟨_, done⟩
  · rw [same]
    exact found
  · obtain ⟨target, targetFound, writable, lookup⟩ := done.find
    rw [lookup]
    by_cases here : id = wanted
    · rw [here, found] at targetFound
      rw [← Option.some.inj targetFound, access] at writable
      contradiction
    · rw [if_neg here]
      exact found

theorem pus20Apply_find_readOnly {dp : Datapool} {param : DpParam} {wanted : UInt16}
    (found : datapoolFind dp wanted = some param) (access : param.access = .readOnly)
    (sets : List (UInt16 × DpValue)) : datapoolFind (pus20Apply dp sets) wanted = some param := by
  induction sets generalizing dp with
  | nil => exact found
  | cons set rest inductionHypothesis =>
      exact inductionHypothesis (datapoolSet_find_readOnly found access set.1 set.2)

/-- No bytes of a set request reach a read-only value. -/
theorem pus20Set_find_readOnly {dp : Datapool} {param : DpParam} {wanted : UInt16}
    (found : datapoolFind dp wanted = some param) (access : param.access = .readOnly)
    (cfg : Config) (app : List UInt8) :
    datapoolFind (pus20Set cfg dp app).2 wanted = some param := by
  rw [pus20Set]
  split
  · exact found
  · exact pus20Apply_find_readOnly found access _

/-! ### Runs -/

/-- What can write a value while the application runs, and at start-up. -/
inductive PoolEvent where
  | set (id : UInt16) (value : DpValue)
  | setRequest (app : List UInt8)
  | restore (image : List UInt8)

def poolEvent (cfg : Config) (dp : Datapool) : PoolEvent → Datapool
  | .set id value => (datapoolSet dp id value).2
  | .setRequest app => (pus20Set cfg dp app).2
  | .restore image => (datapoolDeserialize dp image).2

/-- The pool after a run on a table. -/
def poolRun (cfg : Config) (table : List DpParam) (events : List PoolEvent) : Datapool :=
  events.foldl (poolEvent cfg) (datapoolInit cfg table).2

/-- Every parameter the table declares read-only has its table value. -/
def ReadOnlyKept (table : List DpParam) (dp : Datapool) : Prop :=
  ∀ param ∈ table, param.access = .readOnly → datapoolGet dp param.id = .ok param.value

/-- The last record an image holds for a read-only parameter, if there is one,
carries the table value. -/
def ImageAgrees (table : List DpParam) (image : List UInt8) : Prop :=
  ∀ param ∈ table, param.access = .readOnly →
    ∀ record, lastRecordFor param (imageRecords image) = some record → record.2 = param.value

theorem pus20Set_shapes (cfg : Config) (dp : Datapool) (app : List UInt8) :
    shapesOf (pus20Set cfg dp app).2.params = shapesOf dp.params := by
  rw [pus20Set]
  split
  · rfl
  · exact pus20Apply_shapes dp _

theorem poolEvent_shapes (cfg : Config) (dp : Datapool) (event : PoolEvent) :
    shapesOf (poolEvent cfg dp event).params = shapesOf dp.params := by
  cases event with
  | set id value => exact datapoolSet_shapes dp id value
  | setRequest app => exact pus20Set_shapes cfg dp app
  | restore image => exact datapoolDeserialize_shapes dp image

section Table

variable {cfg : Config} {table : List DpParam}

/-- A pool of the table's shape whose read-only values are those of the table. -/
structure Kept (table : List DpParam) (dp : Datapool) : Prop where
  shapes : shapesOf dp.params = shapesOf table
  found : ∀ param ∈ table, param.access = .readOnly → datapoolFind dp param.id = some param

/-- In a pool of the table's shape, a read-only value is kept when the lookup
still finds the table's own entry. -/
theorem kept_iff (distinct : (table.map (·.id)).Nodup) {dp : Datapool}
    (shapes : shapesOf dp.params = shapesOf table) : Kept table dp ↔ ReadOnlyKept table dp := by
  constructor
  · intro kept param member access
    rw [datapoolGet, kept.found param member access]
  · intro values
    refine ⟨shapes, fun param member access => ?_⟩
    have value := values param member access
    have inTable : datapoolFind ⟨table, 0⟩ param.id = some param := find?_key_of_mem distinct member
    have sameShapes : shapesOf dp.params = shapesOf (Datapool.mk table 0).params := shapes
    have shape := datapoolFind_shape sameShapes param.id
    rw [inTable] at shape
    rw [datapoolGet] at value
    cases held : datapoolFind dp param.id with
    | none =>
        rw [held] at shape
        contradiction
    | some other =>
        rw [held] at shape value
        have sameShape := Option.some.inj shape
        have sameValue := Except.ok.inj value
        have sameId := congrArg DpShape.id sameShape
        have sameAccess := congrArg DpShape.access sameShape
        cases other
        cases param
        simp only [DpParam.shape] at sameId sameAccess sameValue
        rw [sameId, sameAccess, sameValue]

/-- One event keeps the values exactly when it is no restore, or one of an image
that agrees with the table. -/
theorem poolEvent_kept (distinct : (table.map (·.id)).Nodup) {dp : Datapool}
    (kept : Kept table dp) (event : PoolEvent) :
    Kept table (poolEvent cfg dp event) ↔
      ∀ image, event = .restore image → ImageAgrees table image := by
  have shapes := (poolEvent_shapes cfg dp event).trans kept.shapes
  cases event with
  | set id value =>
      refine ⟨fun _ image equal => by contradiction, fun _ => ⟨shapes, ?_⟩⟩
      intro param member access
      exact datapoolSet_find_readOnly (kept.found param member access) access id value
  | setRequest app =>
      refine ⟨fun _ image equal => by contradiction, fun _ => ⟨shapes, ?_⟩⟩
      intro param member access
      exact pus20Set_find_readOnly (kept.found param member access) access cfg app
  | restore image =>
      have poolDistinct : (dp.params.map (·.id)).Nodup := map_id_eq_of_shapes kept.shapes ▸ distinct
      constructor
      · intro after other equal param member access record last
        obtain rfl := PoolEvent.restore.inj equal
        have restored := datapoolDeserialize_find poolDistinct
          (kept.found param member access) image
        have stillFound := after.found param member access
        rw [poolEvent, restored, foldl_restoredParam, last] at stillFound
        exact congrArg DpParam.value (Option.some.inj stillFound)
      · intro agrees
        refine ⟨shapes, fun param member access => ?_⟩
        rw [poolEvent, datapoolDeserialize_find poolDistinct (kept.found param member access),
          foldl_restoredParam]
        cases last : lastRecordFor param (imageRecords image) with
        | none => rfl
        | some record =>
            have sameValue := agrees image rfl param member access record last
            simp only [sameValue]

/-- An accepted table is the pool, with distinct identifiers. -/
theorem datapoolInit_kept (accepted : (datapoolInit cfg table).1 = .ok) :
    (table.map (·.id)).Nodup ∧ Kept table (datapoolInit cfg table).2 := by
  have isTable : (datapoolInit cfg table).2 = { params := table, generation := 0 } := by
    unfold datapoolInit at accepted ⊢
    split at accepted
    · contradiction
    rename_i fits
    rw [if_neg fits]
    split at accepted
    · rfl
    · rename_i invalid
      exact absurd accepted invalid
  have distinct : (table.map (·.id)).Nodup := by
    have wellFormed := (datapoolInit_wellFormed cfg table).distinct
    rwa [isTable] at wellFormed
  rw [isTable]
  refine ⟨distinct, rfl, fun param member _ => find?_key_of_mem distinct member⟩

/-- The values stay through a run exactly when every image restored agrees. -/
theorem poolEvents_kept {dp : Datapool} (distinct : (table.map (·.id)).Nodup)
    (kept : Kept table dp) (events : List PoolEvent) :
    (∀ count, Kept table ((events.take count).foldl (poolEvent cfg) dp)) ↔
      ∀ image, .restore image ∈ events → ImageAgrees table image := by
  induction events generalizing dp with
  | nil => simp [kept]
  | cons event rest inductionHypothesis =>
      have step : Kept table (poolEvent cfg dp event) ↔ _ := poolEvent_kept distinct kept event
      constructor
      · intro throughout image member
        have next : Kept table (poolEvent cfg dp event) := throughout 1
        rcases List.mem_cons.mp member with isFirst | inRest
        · exact step.mp next image isFirst.symm
        · exact (inductionHypothesis next).mp (fun count => throughout (count + 1)) image inRest
      · intro agrees count
        have next := step.mpr fun image equal => agrees image (equal ▸ List.mem_cons_self)
        cases count with
        | zero => exact kept
        | succ count =>
            exact (inductionHypothesis next).mpr
              (fun image member => agrees image (List.mem_cons_of_mem _ member)) count

/-- On an accepted table, in every state of a run: the read-only parameters have
their table values exactly when every image restored in it agrees with the table. -/
theorem poolRun_readOnly_iff (accepted : (datapoolInit cfg table).1 = .ok)
    (events : List PoolEvent) :
    (∀ count, ReadOnlyKept table (poolRun cfg table (events.take count))) ↔
      ∀ image, .restore image ∈ events → ImageAgrees table image := by
  obtain ⟨distinct, kept⟩ := datapoolInit_kept accepted
  rw [← poolEvents_kept distinct kept events]
  apply forall_congr'
  intro count
  have shapes : shapesOf (poolRun cfg table (events.take count)).params = shapesOf table := by
    refine List.foldlRecOn (motive := fun dp : Datapool => shapesOf dp.params = shapesOf table)
      (events.take count) (poolEvent cfg) kept.shapes ?_
    intro dp same event _
    rw [poolEvent_shapes, same]
  exact (kept_iff distinct shapes).symm

end Table

/-- The table of the flight application: a tunable period, and the version and
build identifier of the software. -/
def firmwareTable : List DpParam :=
  [⟨1, .readWrite, .u32 30⟩, ⟨2, .readOnly, .u16 0x0001⟩, ⟨3, .readOnly, .u32 0x20260522⟩]

/-- Sets of every parameter, and an image with the table's own version. -/
theorem poolRun_readOnly_iff_sets :
    let events : List PoolEvent := [.set 2 (.u16 9), .setRequest [1, 0, 1, 0, 0, 0, 5],
      .restore [0, 1, 0, 2, 1, 0, 1]]
    (∀ count, ReadOnlyKept firmwareTable
        (poolRun defaultConfig firmwareTable (events.take count))) ↔
      ∀ image, .restore image ∈ events → ImageAgrees firmwareTable image :=
  poolRun_readOnly_iff (by decide) _

/-- The image an older version has saved brings its version number back. -/
theorem poolRun_restores_old_version :
    ¬ ∀ (cfg : Config) (table : List DpParam), (datapoolInit cfg table).1 = .ok →
      ∀ events : List PoolEvent, ReadOnlyKept table (poolRun cfg table events) := by
  intro constant
  have kept := constant defaultConfig firmwareTable (by decide) [.restore [0, 1, 0, 2, 1, 0, 0]]
    ⟨2, .readOnly, .u16 1⟩ (by decide) rfl
  revert kept
  decide

end FswCore
