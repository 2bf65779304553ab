import FswCore.Datapool.Invariant

/-!
Contract: the value codec and the persisted image of a datapool.

Owns:
- a value's octets decode to the value, whatever stands behind them, and only
  they do;
- serialisation writes count and parameters, or reports a short buffer;
- restoring an image into a pool of the same shape restores every value.
-/

namespace FswCore

open Library Library.BigEndian

/-! ### Values -/

/-- The octets a value is coded as. -/
def dpValueImage (value : DpValue) : List UInt8 :=
  (List.range (dpTypeWidth value.type)).map fun index =>
    ((dpValueBits value >>> UInt32.ofNat (8 * (dpTypeWidth value.type - 1 - index))) &&&
      0xFF).toUInt8

@[simp] theorem dpValueImage_length (value : DpValue) :
    (dpValueImage value).length = dpTypeWidth value.type := by
  simp [dpValueImage]

theorem dpValueEncode_eq (value : DpValue) (outCap : Nat) :
    dpValueEncode value outCap =
      if outCap < dpTypeWidth value.type then .error .errBufTooSmall
      else .ok (dpValueImage value) := rfl

theorem dpTypeWidth_le (type : DpType) : dpTypeWidth type ≤ 4 := by
  cases type <;> decide

/-- A value's bits fill its width at most. -/
theorem dpValueBits_lt (value : DpValue) :
    (dpValueBits value).toNat < 256 ^ dpTypeWidth value.type := by
  cases value with
  | u8 value => simpa [dpValueBits, DpValue.type, dpTypeWidth] using value.toNat_lt
  | u16 value => simpa [dpValueBits, DpValue.type, dpTypeWidth] using value.toNat_lt
  | u32 value => simpa [dpValueBits, DpValue.type, dpTypeWidth] using value.toNat_lt
  | i8 value => simpa [dpValueBits, DpValue.type, dpTypeWidth] using value.toUInt8.toNat_lt
  | i16 value => simpa [dpValueBits, DpValue.type, dpTypeWidth] using value.toUInt16.toNat_lt
  | i32 value => simpa [dpValueBits, DpValue.type, dpTypeWidth] using value.toUInt32.toNat_lt
  | f32 bits => simpa [dpValueBits, DpValue.type, dpTypeWidth] using bits.toNat_lt

theorem dpValueFromBits_dpValueBits (value : DpValue) :
    dpValueFromBits value.type (dpValueBits value) = value := by
  cases value <;> simp [dpValueFromBits, dpValueBits, DpValue.type]

/-- The decoder's accumulator over the octets of a word of `width` octets. -/
theorem foldl_octets (bits : UInt32) {width : Nat} (inside : width ≤ 4)
    (fits : bits.toNat < 256 ^ width) (input : List UInt8)
    (octets : ∀ index, index < width → input.getD index 0 =
      ((bits >>> UInt32.ofNat (8 * (width - 1 - index))) &&& 0xFF).toUInt8) :
    (List.range width).foldl
      (fun (acc : UInt32) index => (acc <<< 8) ||| (input.getD index 0).toUInt32) 0 = bits := by
  -- after `count` octets the accumulator is the word without its low octets
  have partialWord (count : Nat) (below : count ≤ width) :
      ((List.range count).foldl (fun (acc : UInt32) index =>
        (acc <<< 8) ||| (input.getD index 0).toUInt32) 0).toNat =
          bits.toNat / 256 ^ (width - count) := by
    induction count with
    | zero =>
        rw [Nat.sub_zero, Nat.div_eq_of_lt fits]
        rfl
    | succ count inductionHypothesis =>
        have before := inductionHypothesis (by omega)
        have room : bits.toNat / 256 ^ (width - count) < 16777216 := by
          have positive : 0 < 256 ^ (width - count) := Nat.pow_pos (by decide)
          have split : 256 ^ width = 256 ^ count * 256 ^ (width - count) := by
            rw [← Nat.pow_add]
            congr 1
            omega
          have small : 256 ^ count ≤ 256 ^ 3 := Nat.pow_le_pow_right (by decide) (by omega)
          rw [split] at fits
          exact Nat.lt_of_lt_of_le (Nat.div_lt_of_lt_mul (by rwa [Nat.mul_comm] at fits)) small
        rw [List.range_succ, List.foldl_append, List.foldl_cons, List.foldl_nil,
          pushOctet_toNat _ (by rw [before]; exact room), before, octets count (by omega),
          octetAt_toNat bits (by omega)]
        have level : width - count = (width - 1 - count) + 1 := by omega
        rw [level, Nat.pow_succ, ← Nat.div_div_eq_div_mul, Nat.div_add_mod',
          show width - (count + 1) = width - 1 - count by omega]
  apply UInt32.toNat_inj.mp
  rw [partialWord width (Nat.le_refl _), Nat.sub_self, Nat.pow_zero, Nat.div_one]

/-- A coded value decodes to itself. -/
theorem dpValueDecode_dpValueImage (value : DpValue) (behind : List UInt8) :
    dpValueDecode value.type (dpValueImage value ++ behind) =
      .ok (value, dpTypeWidth value.type) := by
  have octets : ∀ index, index < dpTypeWidth value.type →
      (dpValueImage value ++ behind).getD index 0 =
        ((dpValueBits value >>> UInt32.ofNat (8 * (dpTypeWidth value.type - 1 - index))) &&&
          0xFF).toUInt8 := by
    intro index below
    rw [List.getD_eq_getElem?_getD, List.getElem?_append_left (by simpa using below)]
    simp [dpValueImage, below]
  have word := foldl_octets (dpValueBits value) (dpTypeWidth_le _) (dpValueBits_lt value)
    (dpValueImage value ++ behind) octets
  rw [dpValueDecode]
  simp only [word, dpValueFromBits_dpValueBits]
  rw [if_neg (by simp)]

/-- The decoder's accumulator after `count` octets. -/
def dpWord (input : List UInt8) (count : Nat) : UInt32 :=
  (List.range count).foldl
    (fun (acc : UInt32) index => (acc <<< 8) ||| (input.getD index 0).toUInt32) 0

theorem dpWord_lt (input : List UInt8) (count : Nat) (inside : count ≤ 4) :
    (dpWord input count).toNat < 256 ^ count ∧ (count < 4 →
      (dpWord input (count + 1)).toNat =
        (dpWord input count).toNat * 256 + (input.getD count 0).toNat) := by
  induction count with
  | zero =>
      refine ⟨by simp [dpWord], fun _ => ?_⟩
      rw [dpWord, List.range_succ, List.foldl_append, List.foldl_cons, List.foldl_nil,
        pushOctet_toNat _ (by simp), dpWord]
  | succ count inductionHypothesis =>
      obtain ⟨below, step⟩ := inductionHypothesis (by omega)
      have pushed := step (by omega)
      have octet := (input.getD count 0).toNat_lt
      have bound : (dpWord input (count + 1)).toNat < 256 ^ (count + 1) := by
        rw [pushed, Nat.pow_succ]
        omega
      refine ⟨bound, fun more => ?_⟩
      have small : 256 ^ (count + 1) ≤ 256 ^ 3 := Nat.pow_le_pow_right (by decide) (by omega)
      rw [dpWord, List.range_succ, List.foldl_append, List.foldl_cons, List.foldl_nil, ← dpWord,
        pushOctet_toNat _ (Nat.lt_of_lt_of_le bound small)]

/-- Without its low octets the word is the accumulator before them. -/
theorem dpWord_div (input : List UInt8) {count width : Nat} (before : count ≤ width)
    (inside : width ≤ 4) :
    (dpWord input width).toNat / 256 ^ (width - count) = (dpWord input count).toNat := by
  induction width with
  | zero =>
      obtain rfl : count = 0 := Nat.le_zero.mp before
      rw [Nat.sub_self, Nat.pow_zero, Nat.div_one]
  | succ width inductionHypothesis =>
      rcases Nat.lt_succ_iff_lt_or_eq.mp (Nat.lt_succ_of_le before) with earlier | rfl
      · have pushed := (dpWord_lt input width (by omega)).2 (by omega)
        have octet := (input.getD width 0).toNat_lt
        have level : width + 1 - count = (width - count) + 1 := by omega
        have whole : ((dpWord input width).toNat * 256 + (input.getD width 0).toNat) / 256 =
            (dpWord input width).toNat := by omega
        rw [pushed, level, Nat.pow_succ', ← Nat.div_div_eq_div_mul, whole]
        exact inductionHypothesis (by omega) (by omega)
      · rw [Nat.sub_self, Nat.pow_zero, Nat.div_one]

theorem dpWord_octet (input : List UInt8) {index width : Nat} (below : index < width)
    (inside : width ≤ 4) :
    ((dpWord input width >>> UInt32.ofNat (8 * (width - 1 - index))) &&& 0xFF).toUInt8 =
      input.getD index 0 := by
  apply UInt8.toNat_inj.mp
  have pushed := (dpWord_lt input index (by omega)).2 (by omega)
  have octet := (input.getD index 0).toNat_lt
  rw [octetAt_toNat _ (by omega), show width - 1 - index = width - (index + 1) by omega,
    dpWord_div input below inside, pushed]
  omega

theorem dpValueBits_dpValueFromBits {type : DpType} {bits : UInt32}
    (fits : bits.toNat < 256 ^ dpTypeWidth type) :
    dpValueBits (dpValueFromBits type bits) = bits := by
  apply UInt32.toNat_inj.mp
  cases type <;>
    simp [dpValueFromBits, dpValueBits, dpTypeWidth] at fits ⊢ <;> omega

/-- A decoded value is coded as the octets it was decoded from. -/
theorem dpValueDecode_sound {type : DpType} {input : List UInt8} {value : DpValue} {read : Nat}
    (decoded : dpValueDecode type input = .ok (value, read)) :
    value.type = type ∧ read = dpTypeWidth type ∧
      input = dpValueImage value ++ input.drop read := by
  rw [dpValueDecode] at decoded
  split at decoded
  · contradiction
  rename_i long
  obtain ⟨isValue, isRead⟩ := Prod.mk.inj (Except.ok.inj decoded)
  rw [← dpWord] at isValue
  have sameType : value.type = type := by
    rw [← isValue]
    cases type <;> rfl
  have bits : dpValueBits value = dpWord input (dpTypeWidth type) := by
    rw [← isValue]
    exact dpValueBits_dpValueFromBits (dpWord_lt input _ (dpTypeWidth_le type)).1
  have octets : dpValueImage value = input.take (dpTypeWidth type) := by
    rw [dpValueImage, sameType, bits]
    apply List.ext_getElem
    · rw [List.length_map, List.length_range, List.length_take]
      omega
    · intro index below _
      rw [List.length_map, List.length_range] at below
      rw [List.getElem_map, List.getElem_range, dpWord_octet input below (dpTypeWidth_le type),
        List.getElem_take, List.getD_eq_getElem?_getD, List.getElem?_eq_getElem (by omega),
        Option.getD_some]
  refine ⟨sameType, isRead.symm, ?_⟩
  rw [octets, ← isRead, List.take_append_drop]

/-! ### Serialisation -/

def dpParamImage (param : DpParam) : List UInt8 :=
  put16 param.id ++ [param.value.type.code] ++ dpValueImage param.value

/-- The layout of a serialised pool. -/
def datapoolImage (params : List DpParam) : List UInt8 :=
  put16 (UInt16.ofNat params.length) ++ params.flatMap dpParamImage

@[simp] theorem dpParamImage_length (param : DpParam) :
    (dpParamImage param).length = 3 + dpTypeWidth param.value.type := by
  simp [dpParamImage]
  omega

theorem datapoolSerializeLoop_eq (outCap : Nat) (params : List DpParam) (out : List UInt8)
    (within : out.length ≤ outCap) :
    datapoolSerializeLoop outCap params out =
      if (out ++ params.flatMap dpParamImage).length ≤ outCap then
        .ok (out ++ params.flatMap dpParamImage)
      else .error .errBufTooSmall := by
  induction params generalizing out with
  | nil => simp [datapoolSerializeLoop, within]
  | cons param rest inductionHypothesis =>
      rw [datapoolSerializeLoop, dpValueEncode_eq, List.flatMap_cons]
      by_cases short : outCap - out.length < 3
      · rw [if_pos short, if_neg (by
          simp only [List.length_append, dpParamImage_length]
          omega)]
      rw [if_neg short]
      by_cases valueShort : outCap - (out.length + 3) < dpTypeWidth param.value.type
      · rw [if_pos valueShort, if_neg (by
          simp only [List.length_append, dpParamImage_length]
          omega)]
      · rw [if_neg valueShort]
        simp only
        rw [inductionHypothesis _ (by simp; omega)]
        simp only [dpParamImage, List.append_assoc]

theorem datapoolSerialize_eq (dp : Datapool) (outCap : Nat) :
    datapoolSerialize dp outCap =
      if (datapoolImage dp.params).length ≤ outCap then .ok (datapoolImage dp.params)
      else .error .errBufTooSmall := by
  unfold datapoolSerialize
  by_cases short : outCap < 2
  · rw [if_pos short, if_neg (by simp [datapoolImage]; omega)]
  · rw [if_neg short, datapoolSerializeLoop_eq _ _ _ (by simp; omega)]
    rfl

theorem datapoolImage_length_le (params : List DpParam) :
    (datapoolImage params).length ≤ 2 + 7 * params.length := by
  have body : (params.flatMap dpParamImage).length ≤ 7 * params.length := by
    apply length_flatMap_le
    intro param _
    have width := dpTypeWidth_le param.value.type
    rw [dpParamImage_length]
    omega
  rw [datapoolImage, List.length_append, put16_length]
  omega

/-! ### Restore -/

theorem dpTypeOfCode_code (type : DpType) : dpTypeOfCode type.code = some type := by
  cases type <;> rfl

theorem dpTypeOfCode_eq {code : UInt8} {type : DpType} (known : dpTypeOfCode code = some type) :
    code = type.code := by
  unfold dpTypeOfCode at known
  split at known <;> first | contradiction | (obtain rfl := Option.some.inj known; rfl)

/-- A parameter as the record it is saved as. -/
def DpParam.record (param : DpParam) : UInt16 × DpValue := (param.id, param.value)

/-- One restored record. -/
def dpRestoreRecord (params : List DpParam) (record : UInt16 × DpValue) : List DpParam :=
  dpRestore record.1 record.2 params

/-- One restored parameter. -/
def dpRestoreParam (params : List DpParam) (param : DpParam) : List DpParam :=
  dpRestore param.id param.value params

/-- The layout of one record. -/
def dpRecordImage (record : UInt16 × DpValue) : List UInt8 :=
  put16 record.1 ++ [record.2.type.code] ++ dpValueImage record.2

@[simp] theorem dpRecordImage_length (record : UInt16 × DpValue) :
    (dpRecordImage record).length = 3 + dpTypeWidth record.2.type :=
  dpParamImage_length ⟨record.1, .readOnly, record.2⟩

/-- The record standing at `before.length` is restored. -/
theorem datapoolDeserializeLoop_record (record : UInt16 × DpValue) (before behind : List UInt8)
    (remaining : Nat) (params : List DpParam) :
    datapoolDeserializeLoop (before ++ dpRecordImage record ++ behind) (remaining + 1)
        before.length params =
      datapoolDeserializeLoop (before ++ dpRecordImage record ++ behind) remaining
        (before ++ dpRecordImage record).length (dpRestoreRecord params record) := by
  have layout : before ++ dpRecordImage record ++ behind =
      before ++ put16 record.1 ++ ([record.2.type.code] ++ (dpValueImage record.2 ++ behind)) := by
    simp [dpRecordImage]
  have id : be16At (before ++ dpRecordImage record ++ behind) before.length = record.1 := by
    rw [layout]
    exact be16At_append _ _ _
  have code : (before ++ dpRecordImage record ++ behind).getD (before.length + 2) 0 =
      record.2.type.code := by
    rw [layout, List.append_assoc, getD_append_add]
    rfl
  have value : (before ++ dpRecordImage record ++ behind).drop (before.length + 3) =
      dpValueImage record.2 ++ behind := by
    rw [layout, ← List.append_assoc (before ++ put16 record.1),
      show before.length + 3 = (before ++ put16 record.1 ++ [record.2.type.code]).length by simp]
    exact List.drop_left
  have room : before.length + 3 + dpTypeWidth record.2.type ≤
      (before ++ dpRecordImage record ++ behind).length := by
    simp
    omega
  rw [datapoolDeserializeLoop, if_neg (by omega)]
  simp only [id, code, dpTypeOfCode_code, value, dpValueDecode_dpValueImage]
  rw [if_neg (by omega), List.length_append, dpRecordImage_length, ← Nat.add_assoc]
  rfl

/-- The records standing at `before.length` are restored one by one, and the loop
goes on behind them. -/
theorem datapoolDeserializeLoop_records (records : List (UInt16 × DpValue))
    (before behind : List UInt8) (remaining : Nat) (params : List DpParam) :
    datapoolDeserializeLoop (before ++ records.flatMap dpRecordImage ++ behind)
        (records.length + remaining) before.length params =
      datapoolDeserializeLoop (before ++ records.flatMap dpRecordImage ++ behind) remaining
        (before ++ records.flatMap dpRecordImage).length
        (records.foldl dpRestoreRecord params) := by
  induction records generalizing before params with
  | nil => simp
  | cons record rest inductionHypothesis =>
      have first := datapoolDeserializeLoop_record record before
        (rest.flatMap dpRecordImage ++ behind) (rest.length + remaining) params
      have next := inductionHypothesis (before ++ dpRecordImage record)
        (dpRestoreRecord params record)
      rw [← List.append_assoc] at first
      rw [List.length_cons, Nat.add_right_comm, List.flatMap_cons, ← List.append_assoc before,
        first, next]
      rfl

theorem foldl_dpRestoreParam (saved params : List DpParam) :
    saved.foldl dpRestoreParam params =
      (saved.map DpParam.record).foldl dpRestoreRecord params := by
  rw [List.foldl_map]
  rfl

/-- The parameters standing at `before.length` are restored one by one. -/
theorem datapoolDeserializeLoop_image (saved : List DpParam) (before behind : List UInt8)
    (params : List DpParam) :
    datapoolDeserializeLoop (before ++ saved.flatMap dpParamImage ++ behind) saved.length
      before.length params = (.ok, saved.foldl dpRestoreParam params) := by
  have records := datapoolDeserializeLoop_records (saved.map DpParam.record) before behind 0 params
  rw [List.length_map, Nat.add_zero, List.flatMap_map] at records
  rw [foldl_dpRestoreParam]
  exact records

theorem datapoolDeserialize_image (dp : Datapool) (saved : List DpParam)
    (encodable : saved.length < 65536) (behind : List UInt8) :
    datapoolDeserialize dp (datapoolImage saved ++ behind) =
      (.ok, { dp with params := saved.foldl dpRestoreParam dp.params }) := by
  have count : (be16At (datapoolImage saved ++ behind) 0).toNat = saved.length := by
    have read := be16At_append [] (saved.flatMap dpParamImage ++ behind)
      (UInt16.ofNat saved.length)
    rw [datapoolImage, List.append_assoc]
    apply (congrArg UInt16.toNat read).trans
    rw [UInt16.toNat_ofNat']
    exact Nat.mod_eq_of_lt encodable
  have restored := datapoolDeserializeLoop_image saved (put16 (UInt16.ofNat saved.length)) behind
    dp.params
  have header : ¬(datapoolImage saved ++ behind).length < 2 := by
    simp only [datapoolImage, List.length_append, put16_length]
    omega
  rw [datapoolDeserialize, if_neg header, count]
  rw [put16_length] at restored
  rw [datapoolImage, restored]

/-- Restoring a whole table into one of the same shape with distinct
identifiers yields the table. -/
theorem foldl_dpRestore_same {saved fresh : List DpParam}
    (same : shapesOf fresh = shapesOf saved) (distinct : (saved.map (·.id)).Nodup) :
    saved.foldl dpRestoreParam fresh = saved := by
  -- the parameters already restored stand in front and are never the target
  have fromHere (done rest target : List DpParam) (shape : shapesOf target = shapesOf rest)
      (apart : ((done ++ rest).map (·.id)).Nodup) :
      rest.foldl dpRestoreParam (done ++ target) = done ++ rest := by
    induction rest generalizing done target with
    | nil =>
        have noneLeft := length_eq_of_shapes shape
        rw [List.eq_nil_of_length_eq_zero noneLeft]
        rfl
    | cons param rest inductionHypothesis =>
        cases target with
        | nil => simp [shapesOf] at shape
        | cons old remaining =>
            simp only [shapesOf, List.map_cons, List.cons.injEq] at shape
            have oldShape : old.shape = param.shape := shape.1
            simp only [DpParam.shape, DpShape.mk.injEq] at oldShape
            have passed (front : List DpParam) (notHere : param.id ∉ front.map (·.id)) :
                dpRestoreParam (front ++ old :: remaining) param = front ++ param :: remaining := by
              induction front with
              | nil =>
                  rw [List.nil_append, dpRestoreParam, dpRestore,
                    if_pos ⟨oldShape.1, oldShape.2.2⟩, oldShape.1, oldShape.2.1]
                  rfl
              | cons head tail tailHypothesis =>
                  rw [List.map_cons, List.mem_cons, not_or] at notHere
                  rw [List.cons_append, dpRestoreParam, dpRestore,
                    if_neg fun both => notHere.1 both.1.symm]
                  exact congrArg (head :: ·) (tailHypothesis notHere.2)
            have notDone : param.id ∉ done.map (·.id) := by
              rw [List.map_append, List.map_cons, List.nodup_append] at apart
              intro member
              exact apart.2.2 _ member _ (List.mem_cons_self ..) rfl
            rw [List.foldl_cons, passed done notDone]
            have next := inductionHypothesis (done ++ [param]) remaining shape.2
              (by simpa using apart)
            simpa using next
  exact fromHere [] saved fresh same distinct

/-- A pool's own image restores it into a pool freshly set up from a table of
the same shape. -/
theorem datapoolDeserialize_restores {cfg : Config} {dp fresh : Datapool}
    (wellFormed : dp.WellFormed cfg) (encodable : dp.params.length < 65536)
    (same : shapesOf fresh.params = shapesOf dp.params) (behind : List UInt8) :
    datapoolDeserialize fresh (datapoolImage dp.params ++ behind) =
      (.ok, { fresh with params := dp.params }) := by
  rw [datapoolDeserialize_image fresh dp.params encodable,
    foldl_dpRestore_same same wellFormed.distinct]

end FswCore
