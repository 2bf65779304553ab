import FswCore.Datapool.Codec
import Mathlib.Data.List.Induction

/-!
Contract: what a restore does to the values of a pool.

Owns:
- `imageRecords`, the records a restore applies before its first error;
- with distinct identifiers, every parameter takes the value of the last record
  for it, and nothing else changes;
- what is carried from one pool into another with its own table;
- when a restore that reports an error has changed no value.
-/

namespace FswCore

open Library Library.BigEndian

/-! ### Restores -/

/-- The records decoded up to the first error. -/
def imageRecordsLoop (input : List UInt8) : Nat → Nat → List (UInt16 × DpValue)
  | 0, _ => []
  | remaining + 1, off =>
      if off + 3 > input.length then []
      else
        match dpTypeOfCode (input.getD (off + 2) 0) with
        | none => []
        | some type =>
            if off + 3 + dpTypeWidth type > input.length then []
            else
              match dpValueDecode type (input.drop (off + 3)) with
              | .error _ => []
              | .ok (value, consumed) =>
                  (be16At input off, value) :: imageRecordsLoop input remaining (off + 3 + consumed)

/-- The records of an image that a restore gets to. -/
def imageRecords (input : List UInt8) : List (UInt16 × DpValue) :=
  if input.length < 2 then [] else imageRecordsLoop input (be16At input 0).toNat 2

/-- The loop restores the decoded records one after the other. -/
theorem datapoolDeserializeLoop_params (input : List UInt8) (remaining off : Nat)
    (params : List DpParam) :
    (datapoolDeserializeLoop input remaining off params).2 =
      (imageRecordsLoop input remaining off).foldl
        dpRestoreRecord params := by
  induction remaining generalizing off params with
  | zero => rfl
  | succ remaining inductionHypothesis =>
      rw [datapoolDeserializeLoop, imageRecordsLoop]
      split
      · rfl
      cases dpTypeOfCode (input.getD (off + 2) 0) with
      | none => rfl
      | some type =>
          simp only
          split
          · rfl
          cases dpValueDecode type (input.drop (off + 3)) with
          | error status => rfl
          | ok decoded => exact inductionHypothesis _ _

theorem datapoolDeserialize_params (dp : Datapool) (input : List UInt8) :
    (datapoolDeserialize dp input).2.params =
      (imageRecords input).foldl
        dpRestoreRecord dp.params := by
  rw [datapoolDeserialize, imageRecords]
  split
  · rfl
  · exact datapoolDeserializeLoop_params input _ _ _

/-- The record is one for this parameter: identifier and type match. -/
def recordFor (param : DpParam) (record : UInt16 × DpValue) : Bool :=
  record.1 == param.id && record.2.type == param.value.type

/-- The value a parameter has after one record. -/
def restoredParam (param : DpParam) (record : UInt16 × DpValue) : DpParam :=
  if recordFor param record then { param with value := record.2 } else param

theorem restoredParam_shape (param : DpParam) (record : UInt16 × DpValue) :
    (restoredParam param record).shape = param.shape := by
  rw [restoredParam]
  split
  · rename_i matched
    have sameType : record.2.type = param.value.type := by
      simpa using (Bool.and_eq_true_iff.mp matched).2
    simp [DpParam.shape, sameType]
  · rfl

/-- With distinct identifiers a record changes the parameter it is for and no
other. -/
theorem dpRestore_eq_map {params : List DpParam} (distinct : (params.map (·.id)).Nodup)
    (record : UInt16 × DpValue) :
    dpRestoreRecord params record = params.map fun param => restoredParam param record := by
  induction params with
  | nil => rfl
  | cons head rest inductionHypothesis =>
      rw [List.map_cons, List.nodup_cons] at distinct
      rw [dpRestoreRecord, dpRestore, List.map_cons, restoredParam]
      by_cases matched : head.id = record.1 ∧ head.value.type = record.2.type
      · have records : recordFor head record = true := by
          simp [recordFor, matched.1, matched.2]
        have behind : rest.map (fun param => restoredParam param record) = rest := by
          conv_rhs => rw [← List.map_id rest]
          apply List.map_congr_left
          intro param member
          have other : ¬ recordFor param record = true := by
            intro both
            have sameId := beq_iff_eq.mp (Bool.and_eq_true_iff.mp both).1
            apply distinct.1
            rw [matched.1, sameId]
            exact List.mem_map_of_mem member
          exact if_neg other
        rw [if_pos matched, if_pos records, behind]
      · have passes : ¬ recordFor head record = true := by
          intro records
          obtain ⟨sameId, sameType⟩ := Bool.and_eq_true_iff.mp records
          exact matched ⟨(beq_iff_eq.mp sameId).symm, (beq_iff_eq.mp sameType).symm⟩
        rw [if_neg matched, if_neg passes, ← dpRestoreRecord, inductionHypothesis distinct.2]

theorem foldl_dpRestore_eq_map {params : List DpParam} (distinct : (params.map (·.id)).Nodup)
    (records : List (UInt16 × DpValue)) :
    records.foldl dpRestoreRecord params =
      params.map fun param => records.foldl restoredParam param := by
  induction records generalizing params with
  | nil => exact (List.map_id params).symm
  | cons record rest inductionHypothesis =>
      have ids := map_id_eq_of_shapes (dpRestore_shapes record.1 record.2 params)
      rw [List.foldl_cons, inductionHypothesis (ids ▸ distinct), dpRestore_eq_map distinct,
        List.map_map]
      rfl

/-- The last record for a parameter. -/
def lastRecordFor (param : DpParam) (records : List (UInt16 × DpValue)) :
    Option (UInt16 × DpValue) :=
  records.reverse.find? (recordFor param)

theorem recordFor_congr {param other : DpParam} (same : other.shape = param.shape) :
    recordFor other = recordFor param := by
  funext record
  have sameId := congrArg DpShape.id same
  have sameType := congrArg DpShape.type same
  simp only [DpParam.shape] at sameId sameType
  rw [recordFor, recordFor, sameId, sameType]

theorem restoredParams_shape (param : DpParam) (records : List (UInt16 × DpValue)) :
    (records.foldl restoredParam param).shape = param.shape := by
  refine List.foldlRecOn (motive := fun held : DpParam => held.shape = param.shape) records
    restoredParam rfl ?_
  intro held same record _
  rw [restoredParam_shape, same]

/-- The last record for a parameter is the one whose value it keeps. -/
theorem foldl_restoredParam (param : DpParam) (records : List (UInt16 × DpValue)) :
    records.foldl restoredParam param =
      match lastRecordFor param records with
      | none => param
      | some record => { param with value := record.2 } := by
  induction records using List.reverseRecOn with
  | nil => rfl
  | append_singleton earlier last inductionHypothesis =>
      have shape := restoredParams_shape param earlier
      rw [List.foldl_append, List.foldl_cons, List.foldl_nil, restoredParam,
        recordFor_congr shape, lastRecordFor, List.reverse_append, List.reverse_singleton,
        List.singleton_append, List.find?_cons]
      by_cases matched : recordFor param last = true
      · simp only [matched, if_true]
        rw [inductionHypothesis]
        split <;> rfl
      · simp only [matched, if_false, Bool.false_eq_true]
        exact inductionHypothesis

/-- Every parameter after a restore, in table order. -/
theorem datapoolDeserialize_eq_map {dp : Datapool} (distinct : (dp.params.map (·.id)).Nodup)
    (image : List UInt8) :
    (datapoolDeserialize dp image).2.params =
      dp.params.map fun param => (imageRecords image).foldl restoredParam param := by
  rw [datapoolDeserialize_params, foldl_dpRestore_eq_map distinct]

/-- What a lookup finds after a restore. -/
theorem datapoolDeserialize_find {dp : Datapool} {param : DpParam} {wanted : UInt16}
    (distinct : (dp.params.map (·.id)).Nodup) (found : datapoolFind dp wanted = some param)
    (image : List UInt8) :
    datapoolFind (datapoolDeserialize dp image).2 wanted =
      some ((imageRecords image).foldl restoredParam param) := by
  have sameTest : (fun param : DpParam => param.id == wanted) ∘
      (fun param => (imageRecords image).foldl restoredParam param) =
        fun param => param.id == wanted := by
    funext other
    have sameId : ((imageRecords image).foldl restoredParam other).id = other.id :=
      congrArg DpShape.id (restoredParams_shape other (imageRecords image))
    rw [Function.comp_apply, sameId]
  rw [datapoolFind] at found ⊢
  rw [datapoolDeserialize_eq_map distinct, List.find?_map, sameTest, found]
  rfl

/-! ### From one table into another -/

/-- Among records with distinct identifiers, one for a parameter is the last one. -/
theorem lastRecordFor_of_mem {param : DpParam} {records : List (UInt16 × DpValue)}
    (distinct : (records.map Prod.fst).Nodup) {record : UInt16 × DpValue}
    (member : record ∈ records) (matched : recordFor param record = true) :
    lastRecordFor param records = some record := by
  rw [lastRecordFor]
  cases last : records.reverse.find? (recordFor param) with
  | none =>
      have passes := List.find?_eq_none.mp last record (List.mem_reverse.mpr member)
      exact absurd matched passes
  | some other =>
      have otherMatched := List.find?_some last
      have otherMember := List.mem_reverse.mp (List.mem_of_find?_eq_some last)
      have sameId : other.1 = record.1 := by
        rw [recordFor, Bool.and_eq_true_iff, beq_iff_eq] at matched otherMatched
        exact otherMatched.1.trans matched.1.symm
      rw [List.inj_on_of_nodup_map distinct otherMember member sameId]

theorem lastRecordFor_none {param : DpParam} {records : List (UInt16 × DpValue)}
    (passes : ∀ record ∈ records, recordFor param record = false) :
    lastRecordFor param records = none := by
  rw [lastRecordFor, List.find?_eq_none]
  intro record member
  rw [passes record (List.mem_reverse.mp member)]
  exact Bool.false_ne_true

/-- What the second pool is after the serialised form of the first one is
restored into it. -/
structure DatapoolCarriedOver (saved fresh restored : Datapool) : Prop where
  shapes : shapesOf restored.params = shapesOf fresh.params
  generation : restored.generation = fresh.generation
  carried : ∀ (index : Nat) (param : DpParam), fresh.params[index]? = some param →
    ∀ source ∈ saved.params, source.id = param.id → source.value.type = param.value.type →
      restored.params[index]? = some { param with value := source.value }
  kept : ∀ (index : Nat) (param : DpParam), fresh.params[index]? = some param →
    (∀ source ∈ saved.params, source.id = param.id → source.value.type ≠ param.value.type) →
      restored.params[index]? = some param

theorem recordFor_record_iff (param source : DpParam) :
    recordFor param source.record = true ↔
      source.id = param.id ∧ source.value.type = param.value.type := by
  rw [recordFor, Bool.and_eq_true_iff, beq_iff_eq, beq_iff_eq]
  rfl

theorem datapoolDeserialize_carriedOver {saved fresh : Datapool}
    (distinct : (saved.params.map (·.id)).Nodup) (freshDistinct : (fresh.params.map (·.id)).Nodup)
    (encodable : saved.params.length < 65536) :
    (datapoolDeserialize fresh (datapoolImage saved.params)).1 = .ok ∧
      DatapoolCarriedOver saved fresh
        (datapoolDeserialize fresh (datapoolImage saved.params)).2 := by
  have restored := datapoolDeserialize_image fresh saved.params encodable []
  rw [List.append_nil, foldl_dpRestoreParam, foldl_dpRestore_eq_map freshDistinct] at restored
  have recordsDistinct : ((saved.params.map DpParam.record).map Prod.fst).Nodup := by
    rw [List.map_map]
    exact distinct
  refine ⟨by rw [restored], datapoolDeserialize_shapes .., datapoolDeserialize_generation ..,
    ?_, ?_⟩
  · intro index param atIndex source member sameId sameType
    have matched : recordFor param source.record = true :=
      (recordFor_record_iff _ _).mpr ⟨sameId, sameType⟩
    have last := lastRecordFor_of_mem recordsDistinct (List.mem_map_of_mem member) matched
    rw [restored, List.getElem?_map, atIndex, Option.map_some, foldl_restoredParam, last]
    rfl
  · intro index param atIndex elsewhere
    have last : lastRecordFor param (saved.params.map DpParam.record) = none := by
      apply lastRecordFor_none
      intro record member
      obtain ⟨source, inSaved, rfl⟩ := List.mem_map.mp member
      rw [Bool.eq_false_iff, ne_eq, recordFor_record_iff, not_and]
      exact elsewhere source inSaved
    rw [restored, List.getElem?_map, atIndex, Option.map_some, foldl_restoredParam, last]

theorem datapoolImage_length (params : List DpParam) :
    (datapoolImage params).length =
      2 + (params.map fun param => 3 + dpTypeWidth param.value.type).sum := by
  have body : (params.flatMap dpParamImage).length =
      (params.map fun param => 3 + dpTypeWidth param.value.type).sum := by
    rw [List.length_flatMap]
    congr 1
    apply List.map_congr_left
    intro param _
    exact dpParamImage_length param
  rw [datapoolImage, List.length_append, put16_length, body]

/-- The serialised form of one pool, and what it does to another. -/
structure DatapoolCodecExact (saved fresh : Datapool) : Prop where
  space : ∀ outCap, (∃ image, datapoolSerialize saved outCap = .ok image) ↔
    2 + (saved.params.map fun param => 3 + dpTypeWidth param.value.type).sum ≤ outCap
  restores : ∀ outCap image, datapoolSerialize saved outCap = .ok image →
    (datapoolDeserialize fresh image).1 = .ok ∧
      DatapoolCarriedOver saved fresh (datapoolDeserialize fresh image).2

/-- Any two pools in use, each with its own table and its own run; the count
holds two octets. -/
theorem datapoolRun_codecExact {cfg freshCfg : Config} (slots : cfg.datapoolCapacity < 65536)
    (table freshTable : List DpParam) (events freshEvents : List DatapoolEvent) :
    DatapoolCodecExact (datapoolRun cfg table events)
      (datapoolRun freshCfg freshTable freshEvents) := by
  have wellFormed := datapoolRun_wellFormed cfg table events
  have freshWellFormed := datapoolRun_wellFormed freshCfg freshTable freshEvents
  have encodable := Nat.lt_of_le_of_lt wellFormed.count_le slots
  constructor
  · intro outCap
    rw [datapoolSerialize_eq, ← datapoolImage_length]
    exact handedOut_iff
  · intro outCap image written
    rw [datapoolSerialize_eq] at written
    split at written
    · rw [← Except.ok.inj written]
      exact datapoolDeserialize_carriedOver wellFormed.distinct freshWellFormed.distinct encodable
    · contradiction

/-- Two tables in another order, with a type that changed and a parameter each
that the other lacks. -/
theorem datapoolRun_codecExact_evolved :
    DatapoolCodecExact
      (datapoolRun defaultConfig [⟨1, .readWrite, .u32 30⟩, ⟨2, .readOnly, .i16 (-2)⟩,
        ⟨3, .readWrite, .f32 0x7FC00001⟩, ⟨4, .readWrite, .u8 9⟩] [.set 1 (.u32 5)])
      (datapoolRun defaultConfig [⟨3, .readOnly, .f32 0⟩, ⟨2, .readWrite, .u16 7⟩,
        ⟨5, .readWrite, .i8 (-1)⟩, ⟨1, .readWrite, .u32 30⟩] []) :=
  datapoolRun_codecExact (by decide) _ _ _ _

/-! ### A restore that fails -/

/-- No record can be read off the front: its header is cut, its type is unknown
or its value is cut. -/
def NoRecord (rest : List UInt8) : Prop :=
  rest.length < 3 ∨ ∀ type, dpTypeOfCode (rest.getD 2 0) = some type →
    rest.length < 3 + dpTypeWidth type

/-- The image goes wrong behind `records`, before it has the records it counts. -/
inductive CutImage (image : List UInt8) : List (UInt16 × DpValue) → Prop where
  | count (short : image.length < 2) : CutImage image []
  | record (count : UInt16) (records : List (UInt16 × DpValue)) (rest : List UInt8)
      (layout : image = put16 count ++ records.flatMap dpRecordImage ++ rest)
      (missing : records.length < count.toNat) (bad : NoRecord rest) : CutImage image records

/-- At an offset of the input, as the loop tests it. -/
theorem noRecord_drop_iff {input : List UInt8} {off : Nat} :
    NoRecord (input.drop off) ↔ off + 3 > input.length ∨
      ∀ type, dpTypeOfCode (input.getD (off + 2) 0) = some type →
        off + 3 + dpTypeWidth type > input.length := by
  rw [NoRecord, List.length_drop, getD_drop]
  constructor
  · rintro (short | cut)
    · exact .inl (by omega)
    · refine .inr fun type known => ?_
      have width := cut type known
      omega
  · rintro (short | cut)
    · exact .inl (by omega)
    · refine .inr fun type known => ?_
      have width := cut type known
      omega

theorem datapoolDeserializeLoop_noRecord {input : List UInt8} {off : Nat}
    (bad : NoRecord (input.drop off)) (remaining : Nat) (params : List DpParam) :
    (datapoolDeserializeLoop input (remaining + 1) off params).1 ≠ .ok ∧
      (datapoolDeserializeLoop input (remaining + 1) off params).2 = params := by
  rw [datapoolDeserializeLoop]
  rcases noRecord_drop_iff.mp bad with short | cut
  · rw [if_pos short]
    exact ⟨by simp, rfl⟩
  · split
    · exact ⟨by simp, rfl⟩
    simp only
    split
    · exact ⟨by simp, rfl⟩
    rename_i type known
    rw [if_pos (cut type known)]
    exact ⟨by simp, rfl⟩

/-- A loop that fails has gone over whole records up to something that is none. -/
theorem datapoolDeserializeLoop_failed {input : List UInt8} {remaining off : Nat}
    {params : List DpParam}
    (failed : (datapoolDeserializeLoop input remaining off params).1 ≠ .ok) :
    ∃ (records : List (UInt16 × DpValue)) (rest : List UInt8),
      input.drop off = records.flatMap dpRecordImage ++ rest ∧ records.length < remaining ∧
        NoRecord rest := by
  induction remaining generalizing off params with
  | zero => exact absurd rfl failed
  | succ remaining inductionHypothesis =>
      rw [datapoolDeserializeLoop] at failed
      split at failed
      · rename_i short
        exact ⟨[], input.drop off, rfl, Nat.succ_pos _, noRecord_drop_iff.mpr (.inl short)⟩
      simp only at failed
      split at failed
      · rename_i unknown
        refine ⟨[], input.drop off, rfl, Nat.succ_pos _, noRecord_drop_iff.mpr (.inr ?_)⟩
        intro type known
        rw [unknown] at known
        contradiction
      rename_i type known
      split at failed
      · rename_i cut
        refine ⟨[], input.drop off, rfl, Nat.succ_pos _, noRecord_drop_iff.mpr (.inr ?_)⟩
        intro other otherKnown
        rw [known] at otherKnown
        obtain rfl := Option.some.inj otherKnown
        exact cut
      rename_i room
      split at failed
      · rename_i status undecoded
        rw [dpValueDecode] at undecoded
        rw [if_neg (by rw [List.length_drop]; omega)] at undecoded
        contradiction
      rename_i value consumed decoded
      obtain ⟨sameType, -, octets⟩ := dpValueDecode_sound decoded
      obtain ⟨records, rest, layout, missing, bad⟩ := inductionHypothesis failed
      refine ⟨(be16At input off, value) :: records, rest, ?_, Nat.succ_lt_succ missing, bad⟩
      have typeCode : input.getD (off + 2) 0 = value.type.code := by
        rw [sameType]
        exact dpTypeOfCode_eq known
      have typeThenValue : input.drop (off + 2) =
          [value.type.code] ++ (dpValueImage value ++ input.drop (off + 3 + consumed)) := by
        rw [List.drop_drop] at octets
        rw [← octets, ← typeCode, List.drop_eq_getElem_cons (by omega),
          List.getD_eq_getElem?_getD, List.getElem?_eq_getElem (by omega), Option.getD_some]
        rfl
      rw [drop_eq_put16 input off (by omega), typeThenValue, layout, List.flatMap_cons]
      simp only [dpRecordImage, List.append_assoc]

theorem datapoolDeserialize_cut {image : List UInt8} {records : List (UInt16 × DpValue)}
    (cut : CutImage image records) (dp : Datapool) :
    (datapoolDeserialize dp image).1 ≠ .ok ∧
      (datapoolDeserialize dp image).2.params = records.foldl dpRestoreRecord dp.params := by
  cases cut with
  | count short =>
      rw [datapoolDeserialize, if_pos short]
      exact ⟨by simp, rfl⟩
  | record count _ rest layout missing bad =>
      have counted : be16At image 0 = count := by
        have read := be16At_append [] (records.flatMap dpRecordImage ++ rest) count
        rw [layout, List.append_assoc]
        exact read
      obtain ⟨more, isMore⟩ := Nat.exists_eq_add_of_lt missing
      have loop := datapoolDeserializeLoop_records records (put16 count) rest (more + 1) dp.params
      have behind : image.drop (put16 count ++ records.flatMap dpRecordImage).length = rest := by
        rw [layout]
        exact List.drop_left
      have stops := datapoolDeserializeLoop_noRecord (behind.symm ▸ bad) more
        (records.foldl dpRestoreRecord dp.params)
      rw [put16_length, ← layout, ← Nat.add_assoc, ← isMore] at loop
      have room : ¬ image.length < 2 := by
        rw [layout, List.length_append, List.length_append, put16_length]
        omega
      rw [datapoolDeserialize, if_neg room, counted, loop]
      exact stops

/-- A restore reports an error exactly on an image that goes wrong somewhere. -/
theorem datapoolDeserialize_failed_iff (dp : Datapool) (image : List UInt8) :
    (datapoolDeserialize dp image).1 ≠ .ok ↔ ∃ records, CutImage image records := by
  constructor
  · intro failed
    by_cases short : image.length < 2
    · exact ⟨[], .count short⟩
    · rw [datapoolDeserialize, if_neg short] at failed
      obtain ⟨records, rest, layout, missing, bad⟩ := datapoolDeserializeLoop_failed failed
      refine ⟨records, .record (be16At image 0) records rest ?_ missing bad⟩
      have start := drop_eq_put16 image 0 (by omega)
      rw [List.drop_zero, Nat.zero_add, layout] at start
      rw [List.append_assoc]
      exact start
  · rintro ⟨records, cut⟩
    exact (datapoolDeserialize_cut cut dp).1

def valuesOf (dp : Datapool) : List DpValue := dp.params.map (·.value)

/-- Where there is a record for a parameter, the last one carries the value the
parameter has anyway. -/
def RecordsRepeatValues (dp : Datapool) (records : List (UInt16 × DpValue)) : Prop :=
  ∀ param ∈ dp.params, ∀ record,
    lastRecordFor param records = some record → record.2 = param.value

theorem restoredParams_value_iff (param : DpParam) (records : List (UInt16 × DpValue)) :
    (records.foldl restoredParam param).value = param.value ↔
      ∀ record, lastRecordFor param records = some record → record.2 = param.value := by
  rw [foldl_restoredParam]
  cases last : lastRecordFor param records with
  | none => simp
  | some record => simp

theorem datapoolDeserialize_cut_values_iff {dp : Datapool}
    (distinct : (dp.params.map (·.id)).Nodup) {image : List UInt8}
    {records : List (UInt16 × DpValue)} (cut : CutImage image records) :
    valuesOf (datapoolDeserialize dp image).2 = valuesOf dp ↔ RecordsRepeatValues dp records := by
  rw [valuesOf, valuesOf, (datapoolDeserialize_cut cut dp).2, foldl_dpRestore_eq_map distinct,
    List.map_map, List.map_inj_left]
  apply forall₂_congr
  intro param _
  exact restoredParams_value_iff param records

/-- On any pool in use: a restore fails exactly on a cut image, and it leaves
every value as it was exactly when the records in front of the cut repeat the
values the pool has. -/
theorem datapoolRun_failedRestore_iff (cfg : Config) (table : List DpParam)
    (events : List DatapoolEvent) (image : List UInt8) :
    ((datapoolDeserialize (datapoolRun cfg table events) image).1 ≠ .ok ↔
        ∃ records, CutImage image records) ∧
      ∀ records, CutImage image records →
        (valuesOf (datapoolDeserialize (datapoolRun cfg table events) image).2 =
            valuesOf (datapoolRun cfg table events) ↔
          RecordsRepeatValues (datapoolRun cfg table events) records) := by
  refine ⟨datapoolDeserialize_failed_iff _ image, fun records cut => ?_⟩
  exact datapoolDeserialize_cut_values_iff (datapoolRun_wellFormed cfg table events).distinct cut

/-- The image ends within its second record; the first one has been applied. -/
theorem datapoolRun_failedRestore_changes :
    ¬ ∀ (cfg : Config) (table : List DpParam) (events : List DatapoolEvent) (image : List UInt8),
      (datapoolDeserialize (datapoolRun cfg table events) image).1 ≠ .ok →
        valuesOf (datapoolDeserialize (datapoolRun cfg table events) image).2 =
          valuesOf (datapoolRun cfg table events) := by
  intro unchanged
  have values := unchanged defaultConfig [⟨1, .readWrite, .u32 30⟩, ⟨2, .readOnly, .u16 1⟩] []
    [0, 2, 0, 1, 2, 0, 0, 0, 5, 0, 2] (by decide)
  revert values
  decide

end FswCore
