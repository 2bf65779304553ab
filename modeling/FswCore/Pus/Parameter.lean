import FswCore.Datapool.Codec
import FswCore.Pus.Packet

/-!
Contract: `lib/pus/src/pus20.c`, function by function.

Owns:
- the parameter value report and the set request, decoded before it is applied;
- a refused request changes nothing, and no write of an accepted one can fail;
- the report is built and reads back whenever its octets fit.

Does not own: the datapool itself.
-/

namespace FswCore

open Library Library.BigEndian

/-- The TC subtype enumerators. -/
def pus20SubtypeReportRequest : UInt8 := 1
def pus20SubtypeSetRequest : UInt8 := 3

inductive Pus20Status where
  | errBufTooSmall
  | errMalformed
  | errTooMany
  | errUnknownId
  | errReadOnly
  | errBadSubtype
deriving DecidableEq, Repr

def pus20ReadId (app : List UInt8) (off : Nat) : UInt16 := be16At app off

/-! ### Report -/

/-- The parameters found and the size of their source data. -/
def pus20CollectLoop (dp : Datapool) (app : List UInt8) :
    Nat → Nat → List DpParam → Nat → Except Pus20Status (List DpParam × Nat)
  | 0, _, found, source => .ok (found, source)
  | remaining + 1, off, found, source =>
      match datapoolFind dp (pus20ReadId app off) with
      | none => .error .errUnknownId
      | some param =>
          pus20CollectLoop dp app remaining (off + 2) (found ++ [param])
            (source + (2 + dpTypeWidth param.value.type))

def pus20Collect (cfg : Config) (dp : Datapool) (app : List UInt8) :
    Except Pus20Status (List DpParam × Nat) :=
  if app.length < 1 then .error .errMalformed
  else
    let count := (app.getD 0 0).toNat
    if count > cfg.pus20MaxParamsPerTc then .error .errTooMany
    else if app.length ≠ 1 + 2 * count then .error .errMalformed
    else pus20CollectLoop dp app count 1 [] 1

/-- The identifier and value loop, behind the source data written so far. -/
def pus20EncodeLoop (outCap : Nat) : List DpParam → List UInt8 → Option (List UInt8)
  | [], source => some source
  | param :: rest, source =>
      let named := source ++ put16 param.id
      let off := ccsdsPrimaryHeaderSize + pusTmSecondaryHeaderSize + named.length
      match dpValueEncode param.value (outCap - off) with
      | .error _ => none
      | .ok bytes => pus20EncodeLoop outCap rest (named ++ bytes)

def pus20Report (cfg : Config) (request : TmRequest) (counters : PusCounters) (dp : Datapool)
    (app : List UInt8) : Except Pus20Status TmOut :=
  match pus20Collect cfg dp app with
  | .error status => .error status
  | .ok (found, sourceData) =>
      match buildTm request counters .valueReport sourceData
          (pus20EncodeLoop request.outCap found [UInt8.ofNat found.length]) with
      | none => .error .errBufTooSmall
      | some out => .ok out

/-! ### Set -/

/-- The identifiers and values of a set request, and the offset behind them. -/
def pus20DecodeSetsLoop (dp : Datapool) (app : List UInt8) :
    Nat → Nat → List (UInt16 × DpValue) → Except Pus20Status (List (UInt16 × DpValue) × Nat)
  | 0, off, sets => .ok (sets, off)
  | remaining + 1, off, sets =>
      if off + 2 > app.length then .error .errMalformed
      else
        let id := pus20ReadId app off
        match datapoolFind dp id with
        | none => .error .errUnknownId
        | some param =>
            if param.access ≠ .readWrite then .error .errReadOnly
            else
              match dpValueDecode param.value.type (app.drop (off + 2)) with
              | .error _ => .error .errMalformed
              | .ok (value, read) =>
                  pus20DecodeSetsLoop dp app remaining (off + 2 + read) (sets ++ [(id, value)])

def pus20DecodeSets (cfg : Config) (dp : Datapool) (app : List UInt8) :
    Except Pus20Status (List (UInt16 × DpValue)) :=
  if app.length < 1 then .error .errMalformed
  else
    let count := (app.getD 0 0).toNat
    if count > cfg.pus20MaxParamsPerTc then .error .errTooMany
    else
      match pus20DecodeSetsLoop dp app count 1 [] with
      | .error status => .error status
      | .ok (sets, off) => if off ≠ app.length then .error .errMalformed else .ok sets

/-- Pass two: the statuses are not looked at. -/
def pus20Apply (dp : Datapool) (sets : List (UInt16 × DpValue)) : Datapool :=
  sets.foldl (fun dp set => (datapoolSet dp set.1 set.2).2) dp

def pus20Set (cfg : Config) (dp : Datapool) (app : List UInt8) :
    Except Pus20Status Unit × Datapool :=
  match pus20DecodeSets cfg dp app with
  | .error status => (.error status, dp)
  | .ok sets => (.ok (), pus20Apply dp sets)

/-- `.ok none` is the return value zero. -/
def pus20Execute (cfg : Config) (request : TmRequest) (counters : PusCounters) (dp : Datapool)
    (serviceSubtype : UInt8) (app : List UInt8) :
    Except Pus20Status (Option TmOut) × Datapool :=
  if serviceSubtype = pus20SubtypeReportRequest then
    ((pus20Report cfg request counters dp app).map some, dp)
  else if serviceSubtype = pus20SubtypeSetRequest then
    let (result, after) := pus20Set cfg dp app
    (result.map fun _ => none, after)
  else (.error .errBadSubtype, dp)

/-! ### Refused and applied requests -/

theorem pus20Set_refused {cfg : Config} {dp : Datapool} {app : List UInt8}
    {status : Pus20Status} (refused : (pus20Set cfg dp app).1 = .error status) :
    (pus20Set cfg dp app).2 = dp := by
  rw [pus20Set] at refused ⊢
  split at refused
  · rfl
  · contradiction

/-- A refused request leaves the pool as it was. -/
theorem pus20Execute_refused {cfg : Config} {request : TmRequest} {counters : PusCounters}
    {dp : Datapool} {serviceSubtype : UInt8} {app : List UInt8} {status : Pus20Status}
    (refused : (pus20Execute cfg request counters dp serviceSubtype app).1 = .error status) :
    (pus20Execute cfg request counters dp serviceSubtype app).2 = dp := by
  simp only [pus20Execute] at refused ⊢
  split_ifs at refused ⊢
  · rfl
  · cases result : (pus20Set cfg dp app).1 with
    | error code => exact pus20Set_refused result
    | ok _ => simp [result, Except.map] at refused
  · rfl

/-- What pass one has checked of one write. -/
def SetAdmitted (dp : Datapool) (set : UInt16 × DpValue) : Prop :=
  ∃ param, datapoolFind dp set.1 = some param ∧ set.2.type = param.value.type ∧
    param.access = .readWrite

theorem pus20DecodeSetsLoop_admitted {dp : Datapool} {app : List UInt8} {remaining off last : Nat}
    {sets result : List (UInt16 × DpValue)}
    (decoded : pus20DecodeSetsLoop dp app remaining off sets = .ok (result, last))
    (admitted : ∀ set ∈ sets, SetAdmitted dp set) : ∀ set ∈ result, SetAdmitted dp set := by
  induction remaining generalizing off sets with
  | zero =>
      obtain ⟨rfl, _⟩ := Prod.mk.inj (Except.ok.inj decoded)
      exact admitted
  | succ remaining inductionHypothesis =>
      simp only [pus20DecodeSetsLoop] at decoded
      split at decoded
      · contradiction
      split at decoded
      · contradiction
      rename_i param found
      split at decoded
      · contradiction
      rename_i access
      split at decoded
      · contradiction
      rename_i value read valueDecoded
      apply inductionHypothesis decoded
      intro set member
      rcases List.mem_append.mp member with earlier | last
      · exact admitted set earlier
      · obtain rfl := List.mem_singleton.mp last
        exact ⟨param, found, (dpValueDecode_sound valueDecoded).1, not_not.mp access⟩

theorem pus20DecodeSets_admitted {cfg : Config} {dp : Datapool} {app : List UInt8}
    {sets : List (UInt16 × DpValue)} (decoded : pus20DecodeSets cfg dp app = .ok sets) :
    ∀ set ∈ sets, SetAdmitted dp set := by
  simp only [pus20DecodeSets] at decoded
  split at decoded
  · contradiction
  split at decoded
  · contradiction
  split at decoded
  · contradiction
  rename_i last loop
  split at decoded
  · contradiction
  obtain rfl := Except.ok.inj decoded
  exact pus20DecodeSetsLoop_admitted loop (by simp)

/-- A write keeps every other write admitted: only values change. -/
theorem SetAdmitted.after {dp other : Datapool} {set : UInt16 × DpValue}
    (admitted : SetAdmitted dp set) (same : shapesOf other.params = shapesOf dp.params) :
    SetAdmitted other set := by
  obtain ⟨param, found, sameType, access⟩ := admitted
  have shape := datapoolFind_shape same set.1
  rw [found, Option.map_some] at shape
  obtain ⟨held, heldFound, heldShape⟩ := Option.map_eq_some_iff.mp shape
  exact ⟨held, heldFound, sameType.trans (congrArg DpShape.type heldShape).symm,
    (congrArg DpShape.access heldShape).trans access⟩

theorem pus20Apply_shapes (dp : Datapool) (sets : List (UInt16 × DpValue)) :
    shapesOf (pus20Apply dp sets).params = shapesOf dp.params := by
  induction sets generalizing dp with
  | nil => rfl
  | cons set rest inductionHypothesis =>
      exact (inductionHypothesis _).trans (datapoolSet_shapes dp set.1 set.2)

/-! ### The report as it reads -/

theorem pus20Collect_ne_bufTooSmall {cfg : Config} {dp : Datapool} {app : List UInt8} :
    pus20Collect cfg dp app ≠ .error .errBufTooSmall := by
  have loop (remaining off : Nat) (found : List DpParam) (source : Nat) :
      pus20CollectLoop dp app remaining off found source ≠ .error .errBufTooSmall := by
    induction remaining generalizing off found source with
    | zero => simp [pus20CollectLoop]
    | succ remaining inductionHypothesis =>
        rw [pus20CollectLoop]
        split
        · simp
        · exact inductionHypothesis _ _ _
  simp only [pus20Collect]
  split_ifs
  · simp
  · simp
  · simp
  · exact loop _ _ _ _

theorem pus20DecodeSets_ne_bufTooSmall {cfg : Config} {dp : Datapool} {app : List UInt8} :
    pus20DecodeSets cfg dp app ≠ .error .errBufTooSmall := by
  have loop (remaining off : Nat) (sets : List (UInt16 × DpValue)) :
      pus20DecodeSetsLoop dp app remaining off sets ≠ .error .errBufTooSmall := by
    induction remaining generalizing off sets with
    | zero => simp [pus20DecodeSetsLoop]
    | succ remaining inductionHypothesis =>
        simp only [pus20DecodeSetsLoop]
        split
        · simp
        split
        · simp
        split
        · simp
        split
        · simp
        · exact inductionHypothesis _ _
  simp only [pus20DecodeSets]
  split
  · simp
  split
  · simp
  split
  · rename_i failed
    rintro equal
    obtain rfl := Except.error.inj equal
    exact loop _ _ _ failed
  · split <;> simp

/-- The source data of the parameters found. -/
def pus20ParamSource (param : DpParam) : List UInt8 :=
  put16 param.id ++ dpValueImage param.value

theorem pus20CollectLoop_size {dp : Datapool} {app : List UInt8} {remaining off source : Nat}
    {found result : List DpParam} {sourceData : Nat}
    (collected : pus20CollectLoop dp app remaining off found source = .ok (result, sourceData))
    (sized : source = 1 + (found.flatMap pus20ParamSource).length) :
    result.length = found.length + remaining ∧
      sourceData = 1 + (result.flatMap pus20ParamSource).length := by
  induction remaining generalizing off found source with
  | zero =>
      obtain ⟨rfl, rfl⟩ := Prod.mk.inj (Except.ok.inj collected)
      exact ⟨rfl, sized⟩
  | succ remaining inductionHypothesis =>
      rw [pus20CollectLoop] at collected
      split at collected
      · contradiction
      rename_i param _
      have width : (pus20ParamSource param).length = 2 + dpTypeWidth param.value.type := by
        rw [pus20ParamSource, List.length_append, put16_length, dpValueImage_length]
      obtain ⟨count, size⟩ := inductionHypothesis collected (by
        rw [List.flatMap_append, List.length_append, List.flatMap_singleton, width, sized]
        omega)
      rw [List.length_append, List.length_singleton] at count
      exact ⟨by omega, size⟩

theorem pus20Collect_size {cfg : Config} {dp : Datapool} {app : List UInt8}
    {found : List DpParam} {sourceData : Nat}
    (collected : pus20Collect cfg dp app = .ok (found, sourceData)) :
    found.length ≤ cfg.pus20MaxParamsPerTc ∧
      sourceData = 1 + (found.flatMap pus20ParamSource).length := by
  simp only [pus20Collect] at collected
  split at collected
  · contradiction
  split at collected
  · contradiction
  rename_i within
  split at collected
  · contradiction
  obtain ⟨count, size⟩ := pus20CollectLoop_size collected rfl
  rw [List.length_nil] at count
  exact ⟨by omega, size⟩

/-- A parameter takes six octets at most. -/
theorem pus20ParamSource_length_le (params : List DpParam) :
    (params.flatMap pus20ParamSource).length ≤ 6 * params.length := by
  apply length_flatMap_le
  intro param _
  have width := dpTypeWidth_le param.value.type
  rw [pus20ParamSource, List.length_append, put16_length, dpValueImage_length]
  omega

/-- With room for every parameter the loop writes them one after the other. -/
theorem pus20EncodeLoop_some {outCap : Nat} {params : List DpParam} {source : List UInt8}
    (room : 16 + source.length + (params.flatMap pus20ParamSource).length ≤ outCap) :
    pus20EncodeLoop outCap params source = some (source ++ params.flatMap pus20ParamSource) := by
  induction params generalizing source with
  | nil => simp [pus20EncodeLoop]
  | cons param rest inductionHypothesis =>
      simp only [List.flatMap_cons, List.length_append, pus20ParamSource, put16_length,
        dpValueImage_length] at room
      have fits : ¬outCap - (ccsdsPrimaryHeaderSize + pusTmSecondaryHeaderSize +
          (source ++ put16 param.id).length) < dpTypeWidth param.value.type := by
        simp only [ccsdsPrimaryHeaderSize, pusTmSecondaryHeaderSize, List.length_append,
          put16_length]
        omega
      simp only [pus20EncodeLoop, dpValueEncode_eq, if_neg fits]
      rw [inductionHypothesis]
      · simp [pus20ParamSource]
      · simp only [List.length_append, put16_length, dpValueImage_length]
        omega

theorem pus20Report_within {cfg : Config} {request : TmRequest} {counters : PusCounters}
    (dp : Datapool) (app : List UInt8) {size : Nat} (serves : request.Serves counters size)
    (fits : 19 + 6 * cfg.pus20MaxParamsPerTc ≤ size) (small : size < 65536) :
    ReturnsWithin ((pus20Report cfg request counters dp app).map some) .errBufTooSmall request
      counters .valueReport size := by
  rw [pus20Report]
  cases collected : pus20Collect cfg dp app with
  | error status =>
      simp only [Except.map, ReturnsWithin]
      rintro rfl
      exact pus20Collect_ne_bufTooSmall collected
  | ok result =>
      obtain ⟨found, sourceData⟩ := result
      obtain ⟨count, rfl⟩ := pus20Collect_size collected
      have widths := pus20ParamSource_length_le found
      have room := serves.room
      have encoded : pus20EncodeLoop request.outCap found [UInt8.ofNat found.length] =
          some ([UInt8.ofNat found.length] ++ found.flatMap pus20ParamSource) :=
        pus20EncodeLoop_some (by rw [List.length_singleton]; omega)
      have sized : ([UInt8.ofNat found.length] ++ found.flatMap pus20ParamSource).length =
          1 + (found.flatMap pus20ParamSource).length := by
        rw [List.length_append, List.length_singleton]
      obtain ⟨out, built, reports⟩ :=
        buildTm_reports .valueReport serves sized (by omega) small
      simp only [encoded, built]
      exact ⟨_, reports⟩

theorem pus20Execute_within {cfg : Config} {request : TmRequest} {counters : PusCounters}
    (dp : Datapool) (serviceSubtype : UInt8) (app : List UInt8) {size : Nat}
    (serves : request.Serves counters size) (fits : 19 + 6 * cfg.pus20MaxParamsPerTc ≤ size)
    (small : size < 65536) :
    ReturnsWithin (pus20Execute cfg request counters dp serviceSubtype app).1 .errBufTooSmall
      request counters .valueReport size := by
  simp only [pus20Execute]
  split_ifs
  · exact pus20Report_within dp app serves fits small
  · simp only [pus20Set]
    cases decoded : pus20DecodeSets cfg dp app with
    | error status =>
        simp only [Except.map, ReturnsWithin]
        rintro rfl
        exact pus20DecodeSets_ne_bufTooSmall decoded
    | ok sets => trivial
  · simp [ReturnsWithin]

end FswCore
