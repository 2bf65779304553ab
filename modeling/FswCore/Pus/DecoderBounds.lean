import FswCore.Datapool.RestoreBounds
import FswCore.Pus.AppLayout

/-!
Contract: the decoders of uplinked application data in `pus11.c`, `pus20.c` and
`pus3.c` over arrays of fixed length.

Owns:
- each decoder with every read of the application data, every write of an item array
  and every subtraction checked;
- no check ever fails, and the items are those of the decoder over lists.

Does not own: what a service does with the items.
-/

namespace FswCore

open Library Library.BigEndian

variable {cfg : Config}

/-! ### Request identifiers -/

/-- `ids` holds addresses into the application data; their number is `n_out`. -/
def pus11DecodeRequestIdsChecked (app : List UInt8) (ids : Vector Nat cfg.pus11MaxPerTc) :
    Except AccessFault (Except Pus11Status (Vector Nat cfg.pus11MaxPerTc × Nat)) :=
  if app.length < 1 then pure (.error .errMalformed)
  else do
    let octet ← readAt app 0
    let count := octet.toNat
    if count > cfg.pus11MaxPerTc then pure (.error .errTooMany)
    else if app.length ≠ 1 + scheduleRequestIdSize * count then pure (.error .errMalformed)
    else do
      let after ← fillChecked (fun index => addressOf app (1 + scheduleRequestIdSize * index))
        count 0 ids
      pure (.ok (after, count))

/-- The identifiers that stand at the addresses. -/
def requestIdsAt (app : List UInt8) (ids : Vector Nat cfg.pus11MaxPerTc × Nat) :
    List (List UInt8) :=
  (ids.1.toList.take ids.2).map fun address => window app address scheduleRequestIdSize

/-- All their octets are in the application data. -/
def RequestIdsInside (app : List UInt8) (ids : Vector Nat cfg.pus11MaxPerTc × Nat) : Prop :=
  ∀ address ∈ ids.1.toList.take ids.2, address + scheduleRequestIdSize ≤ app.length

theorem pus11DecodeRequestIdsChecked_ends (app : List UInt8)
    (ids : Vector Nat cfg.pus11MaxPerTc) :
    EndsAs (pus11DecodeRequestIdsChecked app ids) (requestIdsAt app) (RequestIdsInside app)
      (pus11DecodeRequestIds cfg app) := by
  have four : scheduleRequestIdSize = 4 := rfl
  unfold pus11DecodeRequestIdsChecked pus11DecodeRequestIds
  apply endsAs_guard
  intro short
  rw [readAt_ok (by omega) 0, checked_bind]
  simp only
  generalize (app.getD 0 0).toNat = count
  apply endsAs_guard
  intro many
  apply endsAs_guard
  intro uneven
  have total := not_not.mp uneven
  have inside (index : Nat) (below : index < count) :
      1 + scheduleRequestIdSize * index + scheduleRequestIdSize ≤ app.length := by
    rw [total, four]
    omega
  obtain ⟨after, run, filled⟩ := fillChecked_ok (fun index => 1 + scheduleRequestIdSize * index)
    ids (Nat.le_of_not_lt many) fun index below =>
      addressOf_ok (Nat.le_trans (Nat.le_add_right _ _) (inside index below))
  rw [Filled, List.length_map, List.length_range] at filled
  rw [run, checked_bind]
  apply endsAs_ok
  · rw [requestIdsAt, filled, List.map_map]
    rfl
  · intro address member
    rw [filled] at member
    obtain ⟨index, listed, rfl⟩ := List.mem_map.mp member
    exact inside index (List.mem_range.mp listed)

/-! ### A structure -/

/-- `ids` is not initialised. -/
def pus3ExecCreateChecked (store : Hkstore) (app : List UInt8)
    (ids : Vector UInt16 cfg.hkstoreMaxParams) : Except AccessFault (Pus3Status × Hkstore) :=
  if app.length < 7 then pure (.errBadArg, store)
  else do
    let octet ← readAt app 2
    let count := octet.toNat
    if app.length ≠ 7 + 2 * count then pure (.errBadArg, store)
    else if count > cfg.hkstoreMaxParams then pure (.errExecFailed, store)
    else do
      let sid ← read16 app 0
      let after ← fillChecked (fun index => read16 app (3 + 2 * index)) count 0 ids
      let interval ← read32 app (3 + 2 * count)
      pure (pus3Return (hkstoreCreate cfg store sid (after.toList.take count) interval))

theorem pus3ExecCreateChecked_ok (store : Hkstore) (app : List UInt8)
    (ids : Vector UInt16 cfg.hkstoreMaxParams) :
    pus3ExecCreateChecked store app ids = .ok (pus3ExecCreate cfg store app) := by
  unfold pus3ExecCreateChecked pus3ExecCreate
  by_cases short : app.length < 7
  · rw [if_pos short, if_pos short]
    rfl
  rw [if_neg short, if_neg short, readAt_ok (by omega) 0, checked_bind]
  simp only
  generalize (app.getD 2 0).toNat = count
  by_cases uneven : app.length ≠ 7 + 2 * count
  · rw [if_pos uneven, if_pos uneven]
    rfl
  rw [if_neg uneven, if_neg uneven]
  by_cases many : count > cfg.hkstoreMaxParams
  · rw [if_pos many, if_pos many]
    rfl
  rw [if_neg many, if_neg many]
  obtain ⟨after, run, filled⟩ := fillChecked_ok (fun index => be16At app (3 + 2 * index)) ids
    (Nat.le_of_not_lt many) fun index below => read16_ok (by omega)
  rw [Filled, List.length_map, List.length_range] at filled
  rw [read16_ok (by omega), checked_bind, run, checked_bind, read32_ok (by omega), checked_bind,
    filled]
  rfl

/-! ### Parameters -/

/-- `found` holds the parameters the identifiers name. -/
def pus20CollectLoopChecked {size : Nat} (dp : Datapool) (app : List UInt8) :
    Nat → Nat → Vector (Option DpParam) size → Nat →
      Except AccessFault (Except Pus20Status (Vector (Option DpParam) size × Nat))
  | 0, _, found, source => pure (.ok (found, source))
  | remaining + 1, index, found, source => do
      let id ← read16 app (1 + 2 * index)
      match datapoolFind dp id with
      | none => pure (.error .errUnknownId)
      | some param => do
          let after ← writeAt found index (some param)
          pus20CollectLoopChecked dp app remaining (index + 1) after
            (source + (2 + dpTypeWidth param.value.type))

/-- The parameters, their number and the size of their source data. -/
def pus20CollectChecked (dp : Datapool) (app : List UInt8)
    (found : Vector (Option DpParam) cfg.pus20MaxParamsPerTc) :
    Except AccessFault
      (Except Pus20Status (Vector (Option DpParam) cfg.pus20MaxParamsPerTc × Nat × Nat)) :=
  if app.length < 1 then pure (.error .errMalformed)
  else do
    let octet ← readAt app 0
    let count := octet.toNat
    if count > cfg.pus20MaxParamsPerTc then pure (.error .errTooMany)
    else if app.length ≠ 1 + 2 * count then pure (.error .errMalformed)
    else do
      let walked ← pus20CollectLoopChecked dp app count 0 found 1
      pure (walked.map fun result => (result.1, count, result.2))

/-- The first slots, as parameters. -/
def paramsAt {size : Nat} (found : Vector (Option DpParam) size) (count : Nat) : List DpParam :=
  (found.toList.take count).reduceOption

theorem paramsAt_filled {size : Nat} {found : Vector (Option DpParam) size}
    {params : List DpParam} (filled : Filled found (params.map some)) {count : Nat}
    (length : params.length = count) : paramsAt found count = params := by
  rw [Filled, List.length_map, length] at filled
  rw [paramsAt, filled]
  change List.filterMap id (params.map some) = params
  rw [List.filterMap_map]
  exact List.filterMap_some

theorem pus20CollectLoopChecked_ends {size : Nat} (dp : Datapool) {app : List UInt8}
    {remaining : Nat} {found : Vector (Option DpParam) size} {params : List DpParam}
    (filled : Filled found (params.map some)) (room : params.length + remaining ≤ size)
    (inside : 1 + 2 * (params.length + remaining) ≤ app.length) (source : Nat) :
    EndsAs (pus20CollectLoopChecked dp app remaining params.length found source)
      (fun result => (paramsAt result.1 (params.length + remaining), result.2)) (fun _ => True)
      (pus20CollectLoop dp app remaining (1 + 2 * params.length) params source) := by
  induction remaining generalizing found params source with
  | zero => exact endsAs_ok (Prod.ext (paramsAt_filled filled rfl) rfl) trivial
  | succ remaining inductionHypothesis =>
      rw [pus20CollectLoopChecked, pus20CollectLoop, read16_ok (by omega), checked_bind,
        pus20ReadId]
      cases datapoolFind dp (be16At app (1 + 2 * params.length)) with
      | none => exact endsAs_error _
      | some param =>
          have length : (params ++ [param]).length = params.length + 1 := List.length_append
          have slots : params.length = (params.map some).length := (List.length_map some).symm
          obtain ⟨after, written, next⟩ := writeAt_filled filled (by omega) (some param)
          rw [← slots] at written
          rw [← List.map_singleton, ← List.map_append] at next
          have later := inductionHypothesis next (by omega) (by omega)
            (source + (2 + dpTypeWidth param.value.type))
          rw [length, Nat.add_assoc, Nat.add_comm 1 remaining] at later
          simp only [written, checked_bind]
          exact later

theorem pus20CollectChecked_ends (dp : Datapool) (app : List UInt8)
    (found : Vector (Option DpParam) cfg.pus20MaxParamsPerTc) :
    EndsAs (pus20CollectChecked dp app found)
      (fun result => (paramsAt result.1 result.2.1, result.2.2)) (fun _ => True)
      (pus20Collect cfg dp app) := by
  unfold pus20CollectChecked pus20Collect
  apply endsAs_guard
  intro short
  rw [readAt_ok (by omega) 0, checked_bind]
  simp only
  generalize (app.getD 0 0).toNat = count
  apply endsAs_guard
  intro many
  apply endsAs_guard
  intro uneven
  have none : ([] : List DpParam).length = 0 := rfl
  have filled : Filled found (([] : List DpParam).map some) := filled_nil found
  have loop := pus20CollectLoopChecked_ends dp filled
    (show ([] : List DpParam).length + count ≤ _ by omega)
    (show 1 + 2 * (([] : List DpParam).length + count) ≤ app.length by omega) 1
  rw [none, Nat.zero_add, Nat.mul_zero] at loop
  obtain ⟨result, run, seen, _⟩ := loop
  rw [run, checked_bind]
  refine ⟨_, rfl, ?_, fun _ _ => trivial⟩
  rw [← seen]
  cases result <;> rfl

/-! ### Sets -/

/-- The items of a set request. -/
structure SetArrays (size : Nat) where
  ids : Vector UInt16 size
  vals : Vector DpValue size

def pus20DecodeSetsLoopChecked {size : Nat} (dp : Datapool) (app : List UInt8) :
    Nat → Nat → Nat → SetArrays size →
      Except AccessFault (Except Pus20Status (SetArrays size × Nat))
  | 0, _, off, arrays => pure (.ok (arrays, off))
  | remaining + 1, index, off, arrays =>
      if off + 2 > app.length then pure (.error .errMalformed)
      else do
        let id ← read16 app off
        match datapoolFind dp id with
        | none => pure (.error .errUnknownId)
        | some param =>
            if param.access ≠ .readWrite then pure (.error .errReadOnly)
            else do
              let address ← addressOf app (off + 2)
              let len ← subtract app.length (off + 2)
              let decoded ← dpValueDecodeChecked app param.value.type address len
              match decoded with
              | .error _ => pure (.error .errMalformed)
              | .ok value => do
                  let vals ← writeAt arrays.vals index value.1
                  let ids ← writeAt arrays.ids index id
                  pus20DecodeSetsLoopChecked dp app remaining (index + 1) (off + 2 + value.2)
                    { ids := ids, vals := vals }

/-- The decoded pairs, and their number. -/
def pus20DecodeSetsChecked (dp : Datapool) (app : List UInt8)
    (arrays : SetArrays cfg.pus20MaxParamsPerTc) :
    Except AccessFault (Except Pus20Status (SetArrays cfg.pus20MaxParamsPerTc × Nat)) :=
  if app.length < 1 then pure (.error .errMalformed)
  else do
    let octet ← readAt app 0
    let count := octet.toNat
    if count > cfg.pus20MaxParamsPerTc then pure (.error .errTooMany)
    else do
      let walked ← pus20DecodeSetsLoopChecked dp app count 0 1 arrays
      match walked with
      | .error status => pure (.error status)
      | .ok result =>
          if result.2 ≠ app.length then pure (.error .errMalformed)
          else pure (.ok (result.1, count))

/-- The pairs in the first slots. -/
def SetArrays.sets {size : Nat} (arrays : SetArrays size) (count : Nat) :
    List (UInt16 × DpValue) :=
  (arrays.ids.toList.take count).zip (arrays.vals.toList.take count)

/-- The arrays hold these pairs. -/
structure SetArrays.Hold {size : Nat} (arrays : SetArrays size) (sets : List (UInt16 × DpValue)) :
    Prop where
  ids : Filled arrays.ids (sets.map Prod.fst)
  vals : Filled arrays.vals (sets.map Prod.snd)

theorem SetArrays.Hold.sets {size : Nat} {arrays : SetArrays size}
    {sets : List (UInt16 × DpValue)} (hold : arrays.Hold sets) :
    arrays.sets sets.length = sets := by
  have ids := hold.ids
  have vals := hold.vals
  rw [Filled, List.length_map] at ids vals
  rw [SetArrays.sets, ids, vals]
  exact (List.zip_of_prod rfl rfl).symm

/-- One pair behind them. -/
theorem SetArrays.Hold.place {size : Nat} {arrays : SetArrays size}
    {sets : List (UInt16 × DpValue)} (hold : arrays.Hold sets) (room : sets.length < size)
    (id : UInt16) (value : DpValue) :
    ∃ ids vals, writeAt arrays.ids sets.length id = .ok ids ∧
      writeAt arrays.vals sets.length value = .ok vals ∧
      SetArrays.Hold ⟨ids, vals⟩ (sets ++ [(id, value)]) := by
  obtain ⟨ids, idsWritten, idsFilled⟩ := writeAt_filled hold.ids (by rwa [List.length_map]) id
  obtain ⟨vals, valsWritten, valsFilled⟩ :=
    writeAt_filled hold.vals (by rwa [List.length_map]) value
  rw [List.length_map] at idsWritten valsWritten
  refine ⟨ids, vals, idsWritten, valsWritten, ?_⟩
  constructor
  · rw [List.map_append]
    exact idsFilled
  · rw [List.map_append]
    exact valsFilled

theorem pus20DecodeSetsLoopChecked_ends {size : Nat} (dp : Datapool) (app : List UInt8)
    {remaining : Nat} {arrays : SetArrays size} {sets : List (UInt16 × DpValue)}
    (hold : arrays.Hold sets) (room : sets.length + remaining ≤ size) (off : Nat) :
    EndsAs (pus20DecodeSetsLoopChecked dp app remaining sets.length off arrays)
      (fun result => (result.1.sets (sets.length + remaining), result.2)) (fun _ => True)
      (pus20DecodeSetsLoop dp app remaining off sets) := by
  induction remaining generalizing arrays sets off with
  | zero => exact endsAs_ok (Prod.ext hold.sets rfl) trivial
  | succ remaining inductionHypothesis =>
      rw [pus20DecodeSetsLoopChecked, pus20DecodeSetsLoop]
      apply endsAs_guard
      intro short
      rw [read16_ok (by omega), checked_bind, pus20ReadId]
      simp only
      cases datapoolFind dp (be16At app off) with
      | none => exact endsAs_error _
      | some param =>
          simp only
          apply endsAs_guard
          intro _
          rw [addressOf_ok (by omega), checked_bind, subtract_ok (by omega), checked_bind,
            dpValueDecodeChecked_ok, checked_bind]
          cases dpValueDecode param.value.type (app.drop (off + 2)) with
          | error status => exact endsAs_error _
          | ok value =>
              obtain ⟨ids, vals, idsWritten, valsWritten, next⟩ :=
                hold.place (by omega) (be16At app off) value.1
              have length : (sets ++ [(be16At app off, value.1)]).length = sets.length + 1 :=
                List.length_append
              have all : sets.length + 1 + remaining = sets.length + (remaining + 1) := by omega
              have later := inductionHypothesis next (by omega) (off + 2 + value.2)
              rw [length, all] at later
              simp only [valsWritten, checked_bind, idsWritten]
              exact later

theorem pus20DecodeSetsChecked_ends (dp : Datapool) (app : List UInt8)
    (arrays : SetArrays cfg.pus20MaxParamsPerTc) :
    EndsAs (pus20DecodeSetsChecked dp app arrays) (fun result => result.1.sets result.2)
      (fun _ => True) (pus20DecodeSets cfg dp app) := by
  unfold pus20DecodeSetsChecked pus20DecodeSets
  apply endsAs_guard
  intro short
  rw [readAt_ok (by omega) 0, checked_bind]
  simp only
  generalize (app.getD 0 0).toNat = count
  apply endsAs_guard
  intro many
  have none : ([] : List (UInt16 × DpValue)).length = 0 := rfl
  have hold : arrays.Hold [] := ⟨filled_nil _, filled_nil _⟩
  have loop := pus20DecodeSetsLoopChecked_ends dp app hold
    (show ([] : List (UInt16 × DpValue)).length + count ≤ _ by omega) 1
  rw [none, Nat.zero_add] at loop
  obtain ⟨result, run, seen, _⟩ := loop
  rw [run, checked_bind, ← seen]
  cases result with
  | error status => exact endsAs_error _
  | ok walked =>
      apply endsAs_guard
      intro _
      exact endsAs_ok rfl trivial

/-! ### Inserts -/

/-- `pus11_request_id_eq` of two addresses. -/
def pus11RequestIdEqChecked (app : List UInt8) (left right : Nat) : Except AccessFault Bool :=
  allChecked (fun index => do
    let first ← readAt app (left + index)
    let second ← readAt app (right + index)
    pure (first == second)) (List.range scheduleRequestIdSize)

def pus11IdSeenChecked {size : Nat} (app : List UInt8) (tcPtrs : Vector Nat size)
    (upto candidate : Nat) : Except AccessFault Bool :=
  anyChecked (fun index => do
    let address ← readAt tcPtrs.toList index
    pus11RequestIdEqChecked app address candidate) (List.range upto)

/-- Whether `migris_schedule_find` finds the identifier at an address; an activity
has the octets of its own. -/
def scheduleFindChecked (sched : Schedule) (app : List UInt8) (requestId : Nat) :
    Except AccessFault Bool :=
  anyChecked (fun activity : ScheduleActivity =>
    allChecked (fun index => do
      let octet ← readAt app (requestId + index)
      pure (activity.tc.getD index 0 == octet)) (List.range scheduleRequestIdSize))
    sched.activities

def pus11EmbeddedTcTotalChecked (app : List UInt8) (off : Nat) : Except AccessFault Nat :=
  if off + ccsdsPrimaryHeaderSize > app.length then pure 0
  else do
    let dataLength ← read16 app (off + 4)
    let total := ccsdsPacketTotalSize dataLength
    if off + total > app.length then pure 0 else pure total

theorem pus11EmbeddedTcTotalChecked_ok (app : List UInt8) (off : Nat) :
    pus11EmbeddedTcTotalChecked app off = .ok (pus11EmbeddedTcTotal app off) := by
  have six : ccsdsPrimaryHeaderSize = 6 := rfl
  unfold pus11EmbeddedTcTotalChecked pus11EmbeddedTcTotal
  split
  · rfl
  · rw [read16_ok (by omega), checked_bind]
    simp only
    split <;> rfl

/-- The identifiers of two telecommands in the application data. -/
theorem pus11RequestIdEqChecked_ok {app : List UInt8} {left leftLen right rightLen : Nat}
    (leftLong : scheduleRequestIdSize ≤ leftLen) (leftInside : left + leftLen ≤ app.length)
    (rightLong : scheduleRequestIdSize ≤ rightLen) (rightInside : right + rightLen ≤ app.length) :
    pus11RequestIdEqChecked app left right =
      .ok (pus11RequestIdEq (window app left leftLen) (window app right rightLen)) := by
  rw [pus11RequestIdEqChecked, pus11RequestIdEq]
  apply allChecked_ok
  intro index listed
  have below := List.mem_range.mp listed
  rw [readAt_ok (by omega) 0, checked_bind, readAt_ok (by omega) 0, checked_bind,
    getD_window (by omega) 0, getD_window (by omega) 0]
  rfl

theorem scheduleFindChecked_ok (sched : Schedule) {app : List UInt8} {address len : Nat}
    (long : scheduleRequestIdSize ≤ len) (inside : address + len ≤ app.length) :
    scheduleFindChecked sched app address =
      .ok (scheduleFind sched (window app address len)).isSome := by
  rw [scheduleFind_isSome, schedIndexOf, List.findIdx?_isSome, scheduleFindChecked]
  apply anyChecked_ok
  intro activity _
  rw [schedRequestIdEq]
  apply allChecked_ok
  intro index listed
  have below := List.mem_range.mp listed
  rw [readAt_ok (by omega) 0, checked_bind, getD_window (by omega) 0]
  rfl

/-- The items of an insert request: `release_times`, `tc_ptrs` and `tc_lens`. -/
structure InsertArrays (size : Nat) where
  releaseTimes : Vector UInt32 size
  tcPtrs : Vector Nat size
  tcLens : Vector Nat size

/-- One release time, and where its telecommand stands. -/
structure InsertEntry where
  releaseTime : UInt32
  address : Nat
  len : Nat

def InsertEntry.activity (app : List UInt8) (entry : InsertEntry) : ScheduleActivity :=
  { releaseTime := entry.releaseTime, tc := window app entry.address entry.len }

/-- The entries in the first slots. -/
def InsertArrays.entries {size : Nat} (arrays : InsertArrays size) (count : Nat) :
    List InsertEntry :=
  (List.range count).map fun index =>
    { releaseTime := arrays.releaseTimes.toList.getD index 0
      address := arrays.tcPtrs.toList.getD index 0
      len := arrays.tcLens.toList.getD index 0 }

/-- The telecommand stands in the application data, and has an identifier. -/
structure InsertEntry.Inside (app : List UInt8) (entry : InsertEntry) : Prop where
  long : scheduleRequestIdSize ≤ entry.len
  inside : entry.address + entry.len ≤ app.length

/-- The arrays hold these entries. -/
structure InsertArrays.Hold {size : Nat} (arrays : InsertArrays size) (app : List UInt8)
    (entries : List InsertEntry) : Prop where
  releaseTimes : Filled arrays.releaseTimes (entries.map InsertEntry.releaseTime)
  tcPtrs : Filled arrays.tcPtrs (entries.map InsertEntry.address)
  tcLens : Filled arrays.tcLens (entries.map InsertEntry.len)
  inside : ∀ entry ∈ entries, entry.Inside app

theorem InsertArrays.Hold.entries {size : Nat} {arrays : InsertArrays size} {app : List UInt8}
    {entries : List InsertEntry} (hold : arrays.Hold app entries) :
    arrays.entries entries.length = entries := by
  apply List.ext_getElem
  · rw [InsertArrays.entries, List.length_map, List.length_range]
  · intro index _ below
    simp only [InsertArrays.entries, List.getElem_map, List.getElem_range,
      hold.releaseTimes.getD_map below, hold.tcPtrs.getD_map below, hold.tcLens.getD_map below]
    rfl

/-- One entry behind them; its release time is written before the rest is known. -/
theorem InsertArrays.Hold.place {size : Nat} {arrays : InsertArrays size} {app : List UInt8}
    {entries : List InsertEntry} (hold : arrays.Hold app entries) (room : entries.length < size)
    {entry : InsertEntry} (inside : entry.Inside app) {releaseTimes : Vector UInt32 size}
    (filled : Filled releaseTimes (entries.map InsertEntry.releaseTime ++ [entry.releaseTime])) :
    ∃ tcPtrs tcLens, writeAt arrays.tcPtrs entries.length entry.address = .ok tcPtrs ∧
      writeAt arrays.tcLens entries.length entry.len = .ok tcLens ∧
      InsertArrays.Hold ⟨releaseTimes, tcPtrs, tcLens⟩ app (entries ++ [entry]) := by
  obtain ⟨tcPtrs, ptrWritten, ptrsFilled⟩ :=
    writeAt_filled hold.tcPtrs (by rwa [List.length_map]) entry.address
  obtain ⟨tcLens, lenWritten, lensFilled⟩ :=
    writeAt_filled hold.tcLens (by rwa [List.length_map]) entry.len
  rw [List.length_map] at ptrWritten lenWritten
  refine ⟨tcPtrs, tcLens, ptrWritten, lenWritten, ?_⟩
  constructor
  · rw [List.map_append]
    exact filled
  · rw [List.map_append]
    exact ptrsFilled
  · rw [List.map_append]
    exact lensFilled
  · exact List.forall_mem_append.mpr ⟨hold.inside, List.forall_mem_singleton.mpr inside⟩

/-- The scan over the earlier telecommands of the request. -/
theorem pus11IdSeenChecked_ok {size : Nat} {app : List UInt8} {tcPtrs : Vector Nat size}
    {entries : List InsertEntry} {entry : InsertEntry}
    (filled : Filled tcPtrs ((entries ++ [entry]).map InsertEntry.address))
    (inside : ∀ other ∈ entries, other.Inside app) (candidate : entry.Inside app) :
    pus11IdSeenChecked app tcPtrs entries.length entry.address =
      .ok (pus11IdSeen (entries.map (InsertEntry.activity app))
        (window app entry.address entry.len)) := by
  rw [pus11IdSeen, List.any_map]
  apply anyChecked_range
  intro index below
  have length : (entries ++ [entry]).length = entries.length + 1 := List.length_append
  have other := inside (entries.get ⟨index, below⟩) (List.get_mem entries ⟨index, below⟩)
  have earlier : (entries ++ [entry]).get ⟨index, by omega⟩ = entries.get ⟨index, below⟩ :=
    List.getElem_append_left below
  rw [filled.readAt_map (by omega), checked_bind, earlier]
  exact pus11RequestIdEqChecked_ok other.long other.inside candidate.long candidate.inside

/-- The walk reads its own array for the candidate, as the source does. -/
def pus11DecodeInsertsLoopChecked {size : Nat} (cfg : Config) (sched : Schedule)
    (app : List UInt8) : Nat → Nat → Nat → InsertArrays size →
      Except AccessFault (Except Pus11Status (InsertArrays size × Nat))
  | 0, _, off, arrays => pure (.ok (arrays, off))
  | remaining + 1, index, off, arrays =>
      if off + 4 > app.length then pure (.error .errMalformed)
      else do
        let releaseTime ← read32 app off
        let releaseTimes ← writeAt arrays.releaseTimes index releaseTime
        let total ← pus11EmbeddedTcTotalChecked app (off + 4)
        if total = 0 then pure (.error .errMalformed)
        else if total > cfg.scheduleTcMax then pure (.error .errTcTooLarge)
        else do
          let address ← addressOf app (off + 4)
          let tcPtrs ← writeAt arrays.tcPtrs index address
          let tcLens ← writeAt arrays.tcLens index total
          let candidate ← readAt tcPtrs.toList index
          let duplicate ← eitherChecked (pus11IdSeenChecked app tcPtrs index candidate)
            (scheduleFindChecked sched app candidate)
          if duplicate then pure (.error .errDuplicate)
          else
            pus11DecodeInsertsLoopChecked cfg sched app remaining (index + 1) (off + 4 + total)
              { releaseTimes := releaseTimes, tcPtrs := tcPtrs, tcLens := tcLens }

/-- The decoded activities, and their number. -/
def pus11DecodeInsertsChecked (sched : Schedule) (app : List UInt8)
    (arrays : InsertArrays cfg.pus11MaxPerTc) :
    Except AccessFault (Except Pus11Status (InsertArrays cfg.pus11MaxPerTc × Nat)) :=
  if app.length < 1 then pure (.error .errMalformed)
  else do
    let octet ← readAt app 0
    let count := octet.toNat
    if count > cfg.pus11MaxPerTc then pure (.error .errTooMany)
    else if scheduleCount sched + count > cfg.scheduleCapacity then pure (.error .errFull)
    else do
      let walked ← pus11DecodeInsertsLoopChecked cfg sched app count 0 1 arrays
      match walked with
      | .error status => pure (.error status)
      | .ok result =>
          if result.2 ≠ app.length then pure (.error .errMalformed)
          else pure (.ok (result.1, count))

/-- The telecommands in the first slots stand in the application data. -/
def InsertsInside {size : Nat} (app : List UInt8) (arrays : InsertArrays size) (count : Nat) :
    Prop :=
  ∀ entry ∈ arrays.entries count, entry.Inside app

/-- The activities in the first slots. -/
def InsertArrays.activities {size : Nat} (arrays : InsertArrays size) (app : List UInt8)
    (count : Nat) : List ScheduleActivity :=
  (arrays.entries count).map (InsertEntry.activity app)

theorem pus11DecodeInsertsLoopChecked_ends {size : Nat} (cfg : Config) (sched : Schedule)
    {app : List UInt8}
    {remaining : Nat} {arrays : InsertArrays size} {entries : List InsertEntry}
    (hold : arrays.Hold app entries) (room : entries.length + remaining ≤ size) (off : Nat) :
    EndsAs (pus11DecodeInsertsLoopChecked cfg sched app remaining entries.length off arrays)
      (fun result => (result.1.activities app (entries.length + remaining), result.2))
      (fun result => InsertsInside app result.1 (entries.length + remaining))
      (pus11DecodeInsertsLoop cfg sched app remaining off
        (entries.map (InsertEntry.activity app))) := by
  induction remaining generalizing arrays entries off with
  | zero =>
      apply endsAs_ok
      · rw [InsertArrays.activities, Nat.add_zero, hold.entries]
      · rw [InsertsInside, Nat.add_zero, hold.entries]
        exact hold.inside
  | succ remaining inductionHypothesis =>
      rw [pus11DecodeInsertsLoopChecked, pus11DecodeInsertsLoop]
      apply endsAs_guard
      intro short
      obtain ⟨releaseTimes, timeWritten, timesFilled⟩ :=
        writeAt_filled hold.releaseTimes (by rw [List.length_map]; omega) (be32At app off)
      rw [List.length_map] at timeWritten
      rw [read32_ok (by omega), checked_bind, timeWritten, checked_bind,
        pus11EmbeddedTcTotalChecked_ok, checked_bind]
      apply endsAs_guard
      intro present
      obtain ⟨least, within⟩ := pus11EmbeddedTcTotal_pos present
      generalize pus11EmbeddedTcTotal app (off + 4) = total at least within
      apply endsAs_guard
      intro _
      let entry : InsertEntry := ⟨be32At app off, off + 4, total⟩
      have length : (entries ++ [entry]).length = entries.length + 1 := List.length_append
      have inside : entry.Inside app := by
        constructor
        · exact Nat.le_trans (show 4 ≤ 7 by decide) least
        · exact within
      obtain ⟨tcPtrs, tcLens, ptrWritten, lenWritten, next⟩ :=
        hold.place (by omega) inside timesFilled
      have candidate : readAt tcPtrs.toList entries.length = .ok entry.address := by
        rw [next.tcPtrs.readAt_map (by omega)]
        exact congrArg (fun last : InsertEntry => Except.ok last.address)
          (List.getElem_concat_length rfl _)
      rw [addressOf_ok (by omega), checked_bind, ptrWritten, checked_bind, lenWritten,
        checked_bind, candidate, checked_bind,
        pus11IdSeenChecked_ok next.tcPtrs hold.inside inside,
        scheduleFindChecked_ok sched inside.long inside.inside, eitherChecked_ok, checked_bind]
      simp only [Bool.or_eq_true]
      apply endsAs_guard
      intro _
      have later := inductionHypothesis next (by omega) (off + 4 + total)
      have all : entries.length + 1 + remaining = entries.length + (remaining + 1) := by omega
      rw [length, all, List.map_append] at later
      exact later

theorem pus11DecodeInsertsChecked_ends (sched : Schedule) (app : List UInt8)
    (arrays : InsertArrays cfg.pus11MaxPerTc) :
    EndsAs (pus11DecodeInsertsChecked sched app arrays)
      (fun result => result.1.activities app result.2)
      (fun result => InsertsInside app result.1 result.2) (pus11DecodeInserts cfg sched app) := by
  unfold pus11DecodeInsertsChecked pus11DecodeInserts
  apply endsAs_guard
  intro short
  rw [readAt_ok (by omega) 0, checked_bind]
  simp only
  generalize (app.getD 0 0).toNat = count
  apply endsAs_guard
  intro many
  apply endsAs_guard
  intro _
  have none : ([] : List InsertEntry).length = 0 := rfl
  have hold : arrays.Hold app [] :=
    ⟨filled_nil _, filled_nil _, filled_nil _, fun _ member => absurd member List.not_mem_nil⟩
  have loop := pus11DecodeInsertsLoopChecked_ends cfg sched hold
    (show ([] : List InsertEntry).length + count ≤ _ by omega) 1
  rw [none, Nat.zero_add, List.map_nil] at loop
  obtain ⟨result, run, seen, inside⟩ := loop
  rw [run, checked_bind, ← seen]
  cases result with
  | error status => exact endsAs_error _
  | ok walked =>
      apply endsAs_guard
      intro _
      exact endsAs_ok rfl (inside walked rfl)

/-! ### All decoders -/

/-- No access of a decoder leaves its array, whatever the item arrays hold before. What
is behind the addresses it returns is in the application data as well. -/
structure DecodersInBounds (cfg : Config) (app : List UInt8) : Prop where
  inserts : ∀ (sched : Schedule) (arrays : InsertArrays cfg.pus11MaxPerTc),
    EndsAs (pus11DecodeInsertsChecked sched app arrays)
      (fun result => result.1.activities app result.2)
      (fun result => InsertsInside app result.1 result.2) (pus11DecodeInserts cfg sched app)
  requestIds : ∀ ids : Vector Nat cfg.pus11MaxPerTc,
    EndsAs (pus11DecodeRequestIdsChecked app ids) (requestIdsAt app) (RequestIdsInside app)
      (pus11DecodeRequestIds cfg app)
  collect : ∀ (dp : Datapool) (found : Vector (Option DpParam) cfg.pus20MaxParamsPerTc),
    EndsAs (pus20CollectChecked dp app found)
      (fun result => (paramsAt result.1 result.2.1, result.2.2)) (fun _ => True)
      (pus20Collect cfg dp app)
  sets : ∀ (dp : Datapool) (arrays : SetArrays cfg.pus20MaxParamsPerTc),
    EndsAs (pus20DecodeSetsChecked dp app arrays) (fun result => result.1.sets result.2)
      (fun _ => True) (pus20DecodeSets cfg dp app)
  create : ∀ (store : Hkstore) (ids : Vector UInt16 cfg.hkstoreMaxParams),
    pus3ExecCreateChecked store app ids = .ok (pus3ExecCreate cfg store app)

theorem uplinkDecoders_inBounds (cfg : Config) (app : List UInt8) : DecodersInBounds cfg app where
  inserts sched arrays := pus11DecodeInsertsChecked_ends sched app arrays
  requestIds ids := pus11DecodeRequestIdsChecked_ends app ids
  collect dp found := pus20CollectChecked_ends dp app found
  sets dp arrays := pus20DecodeSetsChecked_ends dp app arrays
  create store ids := pus3ExecCreateChecked_ok store app ids

end FswCore
