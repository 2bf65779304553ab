import FswCore.Datapool.Model
import Mathlib.Data.List.Nodup

/-!
Contract: what every datapool operation does, and what no operation changes.

Owns:
- one inversion lemma for a set, and its shape: a set or a restore changes values
  only, never an identifier, an access policy or a type;
- runs of sets and restores from a table the pool was initialised with.
-/

namespace FswCore

/-- Everything about a parameter but its value. -/
structure DpShape where
  id : UInt16
  access : DpAccess
  type : DpType
deriving DecidableEq

def DpParam.shape (param : DpParam) : DpShape :=
  { id := param.id, access := param.access, type := param.value.type }

def shapesOf (params : List DpParam) : List DpShape := params.map DpParam.shape

/-- The identifiers of a pool are distinct and the pool is within its capacity. -/
structure Datapool.WellFormed (cfg : Config) (dp : Datapool) : Prop where
  count_le : dp.params.length ≤ cfg.datapoolCapacity
  distinct : (dp.params.map (·.id)).Nodup

theorem map_id_eq_of_shapes {left right : List DpParam} (same : shapesOf left = shapesOf right) :
    left.map (·.id) = right.map (·.id) := by
  have mapped := congrArg (List.map DpShape.id) same
  simpa [shapesOf, Function.comp_def, DpParam.shape] using mapped

theorem length_eq_of_shapes {left right : List DpParam} (same : shapesOf left = shapesOf right) :
    left.length = right.length := by
  have lengths := congrArg List.length same
  simpa [shapesOf] using lengths

theorem Datapool.WellFormed.of_shapes {cfg : Config} {dp other : Datapool}
    (wellFormed : dp.WellFormed cfg) (same : shapesOf other.params = shapesOf dp.params) :
    other.WellFormed cfg where
  count_le := length_eq_of_shapes same ▸ wellFormed.count_le
  distinct := map_id_eq_of_shapes same ▸ wellFormed.distinct

/-! ### Initialisation -/

theorem dpValidateLoop_ok {seen params : List DpParam} (valid : dpValidateLoop seen params = .ok)
    (distinct : (seen.map (·.id)).Nodup) : ((seen ++ params).map (·.id)).Nodup := by
  induction params generalizing seen with
  | nil => simpa using distinct
  | cons param rest inductionHypothesis =>
      rw [dpValidateLoop] at valid
      split at valid
      · contradiction
      rename_i fresh
      have notSeen : param.id ∉ seen.map (·.id) := by
        simpa [dpIdSeen] using fresh
      have next := inductionHypothesis valid (by
        rw [List.map_append]
        exact List.Nodup.append distinct (List.nodup_singleton _)
          (List.disjoint_singleton.mpr notSeen))
      simpa using next

theorem datapoolInit_wellFormed (cfg : Config) (params : List DpParam) :
    (datapoolInit cfg params).2.WellFormed cfg := by
  have empty : Datapool.WellFormed cfg { params := [], generation := 0 } :=
    ⟨Nat.zero_le _, by simp⟩
  unfold datapoolInit
  split
  · exact empty
  rename_i fits
  split
  · rename_i valid
    exact ⟨Nat.le_of_not_lt fits, by simpa using dpValidateLoop_ok valid (by simp)⟩
  · exact empty

theorem datapoolInit_generation (cfg : Config) (params : List DpParam) :
    (datapoolInit cfg params).2.generation = 0 := by
  unfold datapoolInit
  split
  · rfl
  · split <;> rfl

/-! ### Set -/

/-- What a successful set does: one parameter gets a value of its own type. -/
structure SetOk (dp : Datapool) (id : UInt16) (value : DpValue) (after : Datapool) : Prop where
  change : ∃ before param rest, dp.params = before ++ param :: rest ∧ param.id = id ∧
    param.value.type = value.type ∧ param.access = .readWrite ∧
    (∀ other ∈ before, other.id ≠ id) ∧
    after.params = before ++ { param with value := value } :: rest
  generation : after.generation = dp.generation + 1

theorem datapoolSetLoop_ok {id : UInt16} {value : DpValue} {params changed : List DpParam}
    (done : datapoolSetLoop id value params = .ok changed) :
    ∃ before param rest, params = before ++ param :: rest ∧ param.id = id ∧
      param.value.type = value.type ∧ param.access = .readWrite ∧
      (∀ other ∈ before, other.id ≠ id) ∧
      changed = before ++ { param with value := value } :: rest := by
  induction params generalizing changed with
  | nil => simp [datapoolSetLoop] at done
  | cons param rest inductionHypothesis =>
      rw [datapoolSetLoop] at done
      split at done
      · rename_i other
        split at done
        · contradiction
        rename_i deeper found
        obtain ⟨before, target, tail, rfl, isId, sameType, access, earlier, rfl⟩ :=
          inductionHypothesis found
        obtain rfl := Except.ok.inj done
        refine ⟨param :: before, target, tail, rfl, isId, sameType, access, ?_, rfl⟩
        intro candidate member
        rcases List.mem_cons.mp member with rfl | inBefore
        · exact other
        · exact earlier candidate inBefore
      · rename_i here
        split at done
        · contradiction
        rename_i sameType
        split at done
        · contradiction
        rename_i access
        obtain rfl := Except.ok.inj done
        exact ⟨[], param, rest, rfl, not_not.mp here, (not_not.mp sameType).symm,
          not_not.mp access, by simp, rfl⟩

theorem datapoolSetLoop_ne_ok {id : UInt16} {value : DpValue} (params : List DpParam) :
    datapoolSetLoop id value params ≠ .error .ok := by
  induction params with
  | nil => simp [datapoolSetLoop]
  | cons param rest inductionHypothesis =>
      rw [datapoolSetLoop]
      split
      · cases found : datapoolSetLoop id value rest with
        | error status =>
            intro equal
            exact inductionHypothesis (found.trans equal)
        | ok changed => simp
      · split
        · simp
        split <;> simp

theorem datapoolSet_cases (dp : Datapool) (id : UInt16) (value : DpValue) :
    ((datapoolSet dp id value).1 ≠ .ok ∧ (datapoolSet dp id value).2 = dp) ∨
      ((datapoolSet dp id value).1 = .ok ∧ SetOk dp id value (datapoolSet dp id value).2) := by
  rw [datapoolSet]
  cases done : datapoolSetLoop id value dp.params with
  | error status =>
      left
      refine ⟨?_, rfl⟩
      rintro rfl
      exact datapoolSetLoop_ne_ok dp.params done
  | ok changed => exact .inr ⟨rfl, datapoolSetLoop_ok done, rfl⟩

theorem SetOk.shapes {dp after : Datapool} {id : UInt16} {value : DpValue}
    (done : SetOk dp id value after) : shapesOf after.params = shapesOf dp.params := by
  obtain ⟨before, param, rest, split, _, sameType, _, _, result⟩ := done.change
  rw [result, split]
  simp [shapesOf, DpParam.shape, sameType]

/-- A successful set changes what a lookup of its own identifier finds, and no other. -/
theorem SetOk.find {dp after : Datapool} {id : UInt16} {value : DpValue}
    (done : SetOk dp id value after) :
    ∃ target, datapoolFind dp id = some target ∧ target.access = .readWrite ∧
      ∀ wanted, datapoolFind after wanted =
        if id = wanted then some { target with value := value } else datapoolFind dp wanted := by
  obtain ⟨before, target, rest, split, isId, _, writable, earlier, result⟩ := done.change
  have nothingBefore : before.find? (fun param => param.id == id) = none := by
    rw [List.find?_eq_none]
    intro other member
    simpa using earlier other member
  refine ⟨target, ?_, writable, fun wanted => ?_⟩
  · rw [datapoolFind, split, List.find?_append, nothingBefore, List.find?_cons, isId]
    simp
  · rw [datapoolFind, datapoolFind, split, result, List.find?_append, List.find?_append,
      List.find?_cons, List.find?_cons]
    simp only [isId]
    by_cases here : id = wanted
    · subst here
      simp [nothingBefore]
    · have skipped : (id == wanted) = false := beq_eq_false_iff_ne.mpr here
      rw [if_neg here, skipped]

theorem datapoolSet_shapes (dp : Datapool) (id : UInt16) (value : DpValue) :
    shapesOf (datapoolSet dp id value).2.params = shapesOf dp.params := by
  rcases datapoolSet_cases dp id value with ⟨_, same⟩ | ⟨_, done⟩
  · rw [same]
  · exact done.shapes

/-- The type and the access policy of the first parameter with an identifier
decide whether a set succeeds. -/
theorem datapoolSet_ok {dp : Datapool} {id : UInt16} {param : DpParam} {value : DpValue}
    (found : datapoolFind dp id = some param) (sameType : value.type = param.value.type)
    (access : param.access = .readWrite) : (datapoolSet dp id value).1 = .ok := by
  have loop (params : List DpParam)
      (first : params.find? (fun param => param.id == id) = some param) :
      ∃ changed, datapoolSetLoop id value params = .ok changed := by
    induction params with
    | nil => simp at first
    | cons head rest inductionHypothesis =>
        rw [List.find?_cons] at first
        rw [datapoolSetLoop]
        split at first
        · rename_i here
          obtain rfl := Option.some.inj first
          rw [if_neg (not_not.mpr (beq_iff_eq.mp here)), if_neg (not_not.mpr sameType),
            if_neg (not_not.mpr access)]
          exact ⟨_, rfl⟩
        · rename_i notHere
          obtain ⟨changed, done⟩ := inductionHypothesis first
          rw [if_pos (by simpa using notHere), done]
          exact ⟨_, rfl⟩
  obtain ⟨changed, done⟩ := loop dp.params found
  rw [datapoolSet, done]

/-- What a lookup says of a parameter's shape depends on the shapes alone. -/
theorem datapoolFind_shape {dp other : Datapool}
    (same : shapesOf other.params = shapesOf dp.params) (id : UInt16) :
    (datapoolFind other id).map DpParam.shape = (datapoolFind dp id).map DpParam.shape := by
  have lookup (params : List DpParam) :
      (params.find? fun param => param.id == id).map DpParam.shape =
        (shapesOf params).find? fun shape => shape.id == id := by
    induction params with
    | nil => rfl
    | cons head rest inductionHypothesis =>
        rw [shapesOf, List.map_cons, List.find?_cons, List.find?_cons]
        simp only [DpParam.shape]
        split
        · rfl
        · exact inductionHypothesis
  rw [datapoolFind, datapoolFind, lookup, lookup, same]

/-! ### Restore -/

theorem dpRestore_shapes (id : UInt16) (value : DpValue) (params : List DpParam) :
    shapesOf (dpRestore id value params) = shapesOf params := by
  induction params with
  | nil => rfl
  | cons param rest inductionHypothesis =>
      rw [dpRestore]
      split
      · rename_i here
        simp [shapesOf, DpParam.shape, here.2]
      · simp only [shapesOf, List.map_cons] at inductionHypothesis ⊢
        rw [inductionHypothesis]

theorem datapoolDeserializeLoop_shapes (input : List UInt8) (remaining off : Nat)
    (params : List DpParam) :
    shapesOf (datapoolDeserializeLoop input remaining off params).2 = shapesOf params := by
  induction remaining generalizing off params with
  | zero => rfl
  | succ remaining inductionHypothesis =>
      rw [datapoolDeserializeLoop]
      split
      · rfl
      simp only
      split
      · rfl
      split
      · rfl
      split
      · rfl
      rw [inductionHypothesis, dpRestore_shapes]

theorem datapoolDeserialize_shapes (dp : Datapool) (input : List UInt8) :
    shapesOf (datapoolDeserialize dp input).2.params = shapesOf dp.params := by
  unfold datapoolDeserialize
  split
  · rfl
  · exact datapoolDeserializeLoop_shapes input _ _ _

theorem datapoolDeserialize_generation (dp : Datapool) (input : List UInt8) :
    (datapoolDeserialize dp input).2.generation = dp.generation := by
  unfold datapoolDeserialize
  split <;> rfl

/-! ### Runs -/

inductive DatapoolEvent where
  | set (id : UInt16) (value : DpValue)
  | restore (image : List UInt8)

def datapoolEvent (dp : Datapool) : DatapoolEvent → Datapool
  | .set id value => (datapoolSet dp id value).2
  | .restore image => (datapoolDeserialize dp image).2

/-- The pool after a run of sets and restores on a table. -/
def datapoolRun (cfg : Config) (table : List DpParam) (events : List DatapoolEvent) : Datapool :=
  events.foldl datapoolEvent (datapoolInit cfg table).2

theorem datapoolEvent_shapes (dp : Datapool) (event : DatapoolEvent) :
    shapesOf (datapoolEvent dp event).params = shapesOf dp.params := by
  cases event with
  | set id value => exact datapoolSet_shapes dp id value
  | restore image => exact datapoolDeserialize_shapes dp image

/-- A run changes values only. -/
theorem datapoolRun_shapes (cfg : Config) (table : List DpParam) (events : List DatapoolEvent) :
    shapesOf (datapoolRun cfg table events).params =
      shapesOf (datapoolInit cfg table).2.params := by
  refine List.foldlRecOn (motive := fun dp : Datapool => shapesOf dp.params =
    shapesOf (datapoolInit cfg table).2.params) events datapoolEvent rfl ?_
  intro dp same event _
  rw [datapoolEvent_shapes, same]

theorem datapoolRun_wellFormed (cfg : Config) (table : List DpParam)
    (events : List DatapoolEvent) : (datapoolRun cfg table events).WellFormed cfg :=
  (datapoolInit_wellFormed cfg table).of_shapes (datapoolRun_shapes cfg table events)

end FswCore
