import FswCore.Pus.AppLayout
import Mathlib.Data.List.Induction

/-!
Contract: the set request of service 20, exactly.

Owns:
- `SetRequest`, the octets a request consists of and what the pool must hold;
- a request is accepted exactly when it is one; the last value named for a
  parameter is the one it has then, and the pool is left alone otherwise;
- no write of the second pass fails.
-/

namespace FswCore

open Library Library.BigEndian

variable {cfg : Config}

/-- The octets name these values, each for a parameter that may be written and as
wide as its type. -/
structure SetRequest (cfg : Config) (dp : Datapool) (app : List UInt8)
    (sets : List (UInt16 × DpValue)) : Prop where
  layout : app = UInt8.ofNat sets.length :: sets.flatMap pus20SetItem
  counted : sets.length < 256
  withinLimit : sets.length ≤ cfg.pus20MaxParamsPerTc
  admitted : ∀ set ∈ sets, SetAdmitted dp set

/-! ### The octets -/

/-- The items standing at `before.length` are decoded. -/
theorem pus20DecodeSetsLoop_complete {dp : Datapool} (added : List (UInt16 × DpValue))
    (before behind : List UInt8) (sets : List (UInt16 × DpValue))
    (admitted : ∀ set ∈ added, SetAdmitted dp set) :
    pus20DecodeSetsLoop dp (before ++ added.flatMap pus20SetItem ++ behind) added.length
        before.length sets =
      .ok (sets ++ added, (before ++ added.flatMap pus20SetItem).length) := by
  induction added generalizing before sets with
  | nil => simp [pus20DecodeSetsLoop]
  | cons set rest inductionHypothesis =>
      obtain ⟨param, found, sameType, access⟩ := admitted set List.mem_cons_self
      have layout : before ++ (set :: rest).flatMap pus20SetItem ++ behind =
          (before ++ put16 set.1) ++ (dpValueImage set.2 ++
            (rest.flatMap pus20SetItem ++ behind)) := by
        simp [pus20SetItem]
      have id : pus20ReadId (before ++ (set :: rest).flatMap pus20SetItem ++ behind)
          before.length = set.1 := by
        rw [layout]
        exact be16At_append _ _ _
      have value : dpValueDecode param.value.type
          ((before ++ (set :: rest).flatMap pus20SetItem ++ behind).drop (before.length + 2)) =
            .ok (set.2, dpTypeWidth set.2.type) := by
        have start : (before ++ put16 set.1).length = before.length + 2 := by
          rw [List.length_append, put16_length]
        rw [layout, ← start, List.drop_left, ← sameType]
        exact dpValueDecode_dpValueImage _ _
      have short : ¬before.length + 2 >
          (before ++ (set :: rest).flatMap pus20SetItem ++ behind).length := by
        rw [layout]
        simp only [List.length_append, put16_length]
        omega
      have next := inductionHypothesis (before ++ pus20SetItem set) (sets ++ [set])
        fun other member => admitted other (List.mem_cons_of_mem _ member)
      have itemLength : (pus20SetItem set).length = 2 + dpTypeWidth set.2.type := by
        rw [pus20SetItem, List.length_append, put16_length, dpValueImage_length]
      rw [List.length_cons, pus20DecodeSetsLoop, if_neg short]
      simp only [id, found, value]
      rw [if_neg (not_not.mpr access)]
      rw [List.length_append, itemLength, ← Nat.add_assoc, List.append_assoc before,
        ← List.flatMap_cons] at next
      rw [next, List.append_assoc]
      rfl

theorem pus20DecodeSets_iff {dp : Datapool} {app : List UInt8}
    {sets : List (UInt16 × DpValue)} :
    pus20DecodeSets cfg dp app = .ok sets ↔ SetRequest cfg dp app sets := by
  constructor
  · intro decoded
    obtain ⟨layout, counted, withinLimit⟩ := pus20DecodeSets_sound decoded
    exact ⟨layout, counted, withinLimit, pus20DecodeSets_admitted decoded⟩
  · intro request
    have count : (app.getD 0 0).toNat = sets.length := by
      rw [request.layout, List.getD_cons_zero, UInt8.toNat_ofNat']
      exact Nat.mod_eq_of_lt request.counted
    have loop := pus20DecodeSetsLoop_complete sets [UInt8.ofNat sets.length] [] []
      request.admitted
    rw [List.append_nil, List.singleton_append, ← request.layout, List.length_singleton,
      List.nil_append] at loop
    have nonempty : ¬app.length < 1 := by
      rw [request.layout, List.length_cons]
      omega
    rw [pus20DecodeSets, if_neg nonempty]
    simp only [count, loop]
    rw [if_neg (Nat.not_lt.mpr request.withinLimit), if_neg (not_not.mpr rfl)]

/-! ### The values -/

/-- The last value a request names for a parameter. -/
def lastSetFor (id : UInt16) (sets : List (UInt16 × DpValue)) : Option DpValue :=
  (sets.reverse.find? fun set => set.1 == id).map Prod.snd

/-- A successful set changes what is got under its own identifier only. -/
theorem SetOk.get {dp after : Datapool} {id : UInt16} {value : DpValue}
    (done : SetOk dp id value after) (wanted : UInt16) :
    datapoolGet after wanted = if id = wanted then .ok value else datapoolGet dp wanted := by
  obtain ⟨target, _, _, lookup⟩ := done.find
  rw [datapoolGet, datapoolGet, lookup]
  by_cases here : id = wanted
  · simp only [if_pos here]
  · simp only [if_neg here]

/-- A successful set leaves every parameter with another identifier alone. -/
theorem SetOk.kept {dp after : Datapool} {id : UInt16} {value : DpValue}
    (done : SetOk dp id value after) {index : Nat} {param : DpParam}
    (atIndex : dp.params[index]? = some param) (other : id ≠ param.id) :
    after.params[index]? = some param := by
  obtain ⟨before, target, rest, split, isId, _, _, _, result⟩ := done.change
  rw [split] at atIndex
  rw [result]
  rcases Nat.lt_trichotomy index before.length with front | rfl | back
  · rw [List.getElem?_append_left front] at atIndex ⊢
    exact atIndex
  · rw [List.getElem?_append_right (Nat.le_refl _), Nat.sub_self, List.getElem?_cons_zero,
      Option.some.injEq] at atIndex
    rw [← atIndex, isId] at other
    exact absurd rfl other
  · obtain ⟨more, isMore⟩ := Nat.exists_eq_add_of_lt back
    have position : index - before.length = more + 1 := by omega
    rw [List.getElem?_append_right (by omega), position, List.getElem?_cons_succ] at atIndex ⊢
    exact atIndex

theorem lastSetFor_concat (id : UInt16) (earlier : List (UInt16 × DpValue))
    (last : UInt16 × DpValue) :
    lastSetFor id (earlier ++ [last]) =
      if last.1 = id then some last.2 else lastSetFor id earlier := by
  rw [lastSetFor, List.reverse_append, List.reverse_singleton, List.singleton_append,
    List.find?_cons]
  by_cases here : last.1 = id
  · rw [if_pos here, beq_iff_eq.mpr here]
    rfl
  · rw [if_neg here, beq_eq_false_iff_ne.mpr here]
    rfl

/-- The pool after the second pass: what it holds is named last, or was there. -/
structure SetsApplied (dp : Datapool) (sets : List (UInt16 × DpValue)) (after : Datapool) :
    Prop where
  values : ∀ id, datapoolGet after id =
    match lastSetFor id sets with
    | some value => .ok value
    | none => datapoolGet dp id
  others : ∀ (index : Nat) (param : DpParam), dp.params[index]? = some param →
    (∀ set ∈ sets, set.1 ≠ param.id) → after.params[index]? = some param
  shapes : shapesOf after.params = shapesOf dp.params
  generation : after.generation = dp.generation + UInt32.ofNat sets.length

/-- A write of an admitted set in the middle of a request succeeds. -/
theorem datapoolSet_admitted {dp : Datapool} {before : List (UInt16 × DpValue)}
    {set : UInt16 × DpValue} (admitted : SetAdmitted dp set) :
    (datapoolSet (pus20Apply dp before) set.1 set.2).1 = .ok := by
  obtain ⟨param, found, sameType, access⟩ := admitted.after (pus20Apply_shapes dp before)
  exact datapoolSet_ok found sameType access

theorem pus20Apply_applied {dp : Datapool} (sets : List (UInt16 × DpValue))
    (admitted : ∀ set ∈ sets, SetAdmitted dp set) : SetsApplied dp sets (pus20Apply dp sets) := by
  induction sets using List.reverseRecOn with
  | nil => exact ⟨fun _ => rfl, fun _ _ atIndex _ => atIndex, rfl, by simp [pus20Apply]⟩
  | append_singleton earlier last inductionHypothesis =>
      have before := inductionHypothesis fun set member =>
        admitted set (List.mem_append_left _ member)
      have written : (datapoolSet (pus20Apply dp earlier) last.1 last.2).1 = .ok :=
        datapoolSet_admitted (admitted last (by simp))
      rcases datapoolSet_cases (pus20Apply dp earlier) last.1 last.2 with ⟨failed, _⟩ | ⟨_, done⟩
      · exact absurd written failed
      have applied : pus20Apply dp (earlier ++ [last]) =
          (datapoolSet (pus20Apply dp earlier) last.1 last.2).2 := by
        rw [pus20Apply, List.foldl_append]
        rfl
      rw [applied]
      constructor
      · intro id
        rw [done.get, lastSetFor_concat, before.values id]
        by_cases here : last.1 = id
        · rw [if_pos here, if_pos here]
        · rw [if_neg here, if_neg here]
      · intro index param atIndex elsewhere
        apply done.kept (before.others index param atIndex _)
        · exact elsewhere last (by simp)
        · intro set member
          exact elsewhere set (List.mem_append_left _ member)
      · rw [datapoolSet_shapes, before.shapes]
      · rw [done.generation, before.generation, List.length_append, List.length_singleton,
          UInt32.ofNat_add, UInt32.add_assoc]
        rfl

/-- What the request with subtype 3 does, for any octets. -/
structure SetExact (cfg : Config) (dp : Datapool) (app : List UInt8)
    (result : Except Pus20Status (Option TmOut) × Datapool) : Prop where
  accepted_iff : (∃ report, result.1 = .ok report) ↔ ∃ sets, SetRequest cfg dp app sets
  applied : ∀ sets, SetRequest cfg dp app sets → SetsApplied dp sets result.2
  refused : (¬∃ sets, SetRequest cfg dp app sets) → result.2 = dp
  noneFails : ∀ before set after, SetRequest cfg dp app (before ++ set :: after) →
    (datapoolSet (pus20Apply dp before) set.1 set.2).1 = .ok

/-- For any octets and any pool. -/
theorem pus20Execute_set_exact (cfg : Config) (request : TmRequest) (counters : PusCounters)
    (dp : Datapool) (app : List UInt8) :
    SetExact cfg dp app (pus20Execute cfg request counters dp pus20SubtypeSetRequest app) := by
  have executed : pus20Execute cfg request counters dp pus20SubtypeSetRequest app =
      ((pus20Set cfg dp app).1.map fun _ => none, (pus20Set cfg dp app).2) := rfl
  rw [executed, pus20Set]
  cases decoded : pus20DecodeSets cfg dp app with
  | error status =>
      have noRequest : ¬∃ sets, SetRequest cfg dp app sets :=
        decode_error_names (fun _ => pus20DecodeSets_iff) decoded
      refine ⟨⟨?_, fun named => absurd named noRequest⟩,
        fun sets named => absurd ⟨sets, named⟩ noRequest, fun _ => rfl,
        fun before set after named => absurd ⟨_, named⟩ noRequest⟩
      rintro ⟨_, accepted⟩
      contradiction
  | ok sets =>
      have named := pus20DecodeSets_iff.mp decoded
      have only (other : List (UInt16 × DpValue)) (also : SetRequest cfg dp app other) :
          other = sets :=
        decode_ok_names (fun _ => pus20DecodeSets_iff) decoded also
      refine ⟨⟨fun _ => ⟨sets, named⟩, fun _ => ⟨none, rfl⟩⟩, ?_,
        fun noRequest => absurd ⟨sets, named⟩ noRequest, ?_⟩
      · intro other also
        rw [only other also]
        exact pus20Apply_applied sets named.admitted
      · intro before set after also
        exact datapoolSet_admitted (also.admitted set (by simp))

end FswCore
