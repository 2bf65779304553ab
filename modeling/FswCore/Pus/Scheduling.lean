import FswCore.Pus.Packet
import FswCore.Schedule.Invariant

/-!
Contract: `lib/pus/src/pus11.c`, function by function.

Owns:
- the insert, delete and summary requests, decoded before they are applied;
- a refused request changes nothing, and no insert of an accepted one can fail;
- the summary report is built and reads back whenever its octets fit.

A pointer into the application data with its length is the string of its octets.
Does not own: the schedule itself, and what an embedded telecommand means.
-/

namespace FswCore

open Library Library.BigEndian

/-- The TC subtype enumerators. -/
def pus11SubtypeEnable : UInt8 := 1
def pus11SubtypeDisable : UInt8 := 2
def pus11SubtypeReset : UInt8 := 3
def pus11SubtypeInsert : UInt8 := 4
def pus11SubtypeDelete : UInt8 := 5
def pus11SubtypeSummaryReportRequest : UInt8 := 11

inductive Pus11Status where
  | errBufTooSmall
  | errMalformed
  | errTooMany
  | errFull
  | errTcTooLarge
  | errDuplicate
  | errNotFound
  | errBadSubtype
deriving DecidableEq, Repr

/-! ### Decoding -/

/-- The schedule's own comparison, written out again. -/
def pus11RequestIdEq (left right : List UInt8) : Bool :=
  (List.range scheduleRequestIdSize).all fun index => left.getD index 0 == right.getD index 0

def pus11IdSeen (batch : List ScheduleActivity) (candidate : List UInt8) : Bool :=
  batch.any fun activity => pus11RequestIdEq activity.tc candidate

/-- Total length of the embedded telecommand at `off`, or 0 if it does not fit. -/
def pus11EmbeddedTcTotal (app : List UInt8) (off : Nat) : Nat :=
  if off + ccsdsPrimaryHeaderSize > app.length then 0
  else
    let total := ccsdsPacketTotalSize (be16At app (off + 4))
    if off + total > app.length then 0 else total

/-- The decoded pairs and the offset behind them. -/
def pus11DecodeInsertsLoop (cfg : Config) (sched : Schedule) (app : List UInt8) :
    Nat → Nat → List ScheduleActivity → Except Pus11Status (List ScheduleActivity × Nat)
  | 0, off, batch => .ok (batch, off)
  | remaining + 1, off, batch =>
      if off + 4 > app.length then .error .errMalformed
      else
        let total := pus11EmbeddedTcTotal app (off + 4)
        if total = 0 then .error .errMalformed
        else if total > cfg.scheduleTcMax then .error .errTcTooLarge
        else
          let tc := window app (off + 4) total
          if pus11IdSeen batch tc = true ∨ (scheduleFind sched tc).isSome = true then
            .error .errDuplicate
          else pus11DecodeInsertsLoop cfg sched app remaining (off + 4 + total)
            (batch ++ [{ releaseTime := be32At app off, tc := tc }])

def pus11DecodeInserts (cfg : Config) (sched : Schedule) (app : List UInt8) :
    Except Pus11Status (List ScheduleActivity) :=
  if app.length < 1 then .error .errMalformed
  else
    let count := (app.getD 0 0).toNat
    if count > cfg.pus11MaxPerTc then .error .errTooMany
    else if scheduleCount sched + count > cfg.scheduleCapacity then .error .errFull
    else
      match pus11DecodeInsertsLoop cfg sched app count 1 [] with
      | .error status => .error status
      | .ok (batch, off) => if off ≠ app.length then .error .errMalformed else .ok batch

def pus11DecodeRequestIds (cfg : Config) (app : List UInt8) :
    Except Pus11Status (List (List UInt8)) :=
  if app.length < 1 then .error .errMalformed
  else
    let count := (app.getD 0 0).toNat
    if count > cfg.pus11MaxPerTc then .error .errTooMany
    else if app.length ≠ 1 + scheduleRequestIdSize * count then .error .errMalformed
    else .ok ((List.range count).map fun index =>
      window app (1 + scheduleRequestIdSize * index) scheduleRequestIdSize)

/-! ### Execution -/

/-- Pass two: the statuses are not looked at. -/
def pus11InsertAll (cfg : Config) (sched : Schedule) (batch : List ScheduleActivity) : Schedule :=
  batch.foldl (fun sched activity =>
    (scheduleInsert cfg sched activity.releaseTime activity.tc).2) sched

def pus11Insert (cfg : Config) (sched : Schedule) (app : List UInt8) :
    Except Pus11Status Unit × Schedule :=
  match pus11DecodeInserts cfg sched app with
  | .error status => (.error status, sched)
  | .ok batch => (.ok (), pus11InsertAll cfg sched batch)

/-- A repeated identifier deletes once and then does nothing. -/
def pus11DeleteAll (sched : Schedule) (ids : List (List UInt8)) : Schedule :=
  ids.foldl (fun sched id => (scheduleDelete sched id).2) sched

def pus11Delete (cfg : Config) (sched : Schedule) (app : List UInt8) :
    Except Pus11Status Unit × Schedule :=
  match pus11DecodeRequestIds cfg app with
  | .error status => (.error status, sched)
  | .ok ids =>
      if ids.any fun id => (scheduleFind sched id).isNone then (.error .errNotFound, sched)
      else (.ok (), pus11DeleteAll sched ids)

/-- Release time and request identifier of one activity. -/
def pus11SummaryEntry (activity : ScheduleActivity) : List UInt8 :=
  put32 activity.releaseTime ++ requestIdOf activity.tc

def pus11BuildSummaryReport (request : TmRequest) (counters : PusCounters)
    (found : List ScheduleActivity) : Except Pus11Status TmOut :=
  match buildTm request counters .summaryReport (1 + found.length * 8)
      (some ([UInt8.ofNat found.length] ++ found.flatMap pus11SummaryEntry)) with
  | none => .error .errBufTooSmall
  | some out => .ok out

/-- A requested identifier that is not scheduled is left out. -/
def pus11Report (cfg : Config) (request : TmRequest) (counters : PusCounters) (sched : Schedule)
    (app : List UInt8) : Except Pus11Status TmOut :=
  match pus11DecodeRequestIds cfg app with
  | .error status => .error status
  | .ok ids => pus11BuildSummaryReport request counters (ids.filterMap (scheduleFind sched))

/-- `.ok none` is the return value zero. -/
def pus11Execute (cfg : Config) (request : TmRequest) (counters : PusCounters)
    (sched : Schedule) (serviceSubtype : UInt8) (app : List UInt8) :
    Except Pus11Status (Option TmOut) × Schedule :=
  if serviceSubtype = pus11SubtypeEnable then
    if app.length ≠ 0 then (.error .errMalformed, sched)
    else (.ok none, scheduleSetEnabled sched true)
  else if serviceSubtype = pus11SubtypeDisable then
    if app.length ≠ 0 then (.error .errMalformed, sched)
    else (.ok none, scheduleSetEnabled sched false)
  else if serviceSubtype = pus11SubtypeReset then
    if app.length ≠ 0 then (.error .errMalformed, sched)
    else (.ok none, scheduleReset sched)
  else if serviceSubtype = pus11SubtypeInsert then
    let (result, after) := pus11Insert cfg sched app
    (result.map fun _ => none, after)
  else if serviceSubtype = pus11SubtypeDelete then
    let (result, after) := pus11Delete cfg sched app
    (result.map fun _ => none, after)
  else if serviceSubtype = pus11SubtypeSummaryReportRequest then
    ((pus11Report cfg request counters sched app).map some, sched)
  else (.error .errBadSubtype, sched)

/-! ### Refused requests -/

theorem pus11Insert_refused {cfg : Config} {sched : Schedule} {app : List UInt8}
    {status : Pus11Status} (refused : (pus11Insert cfg sched app).1 = .error status) :
    (pus11Insert cfg sched app).2 = sched := by
  rw [pus11Insert] at refused ⊢
  split at refused
  · rfl
  · contradiction

theorem pus11Delete_refused {cfg : Config} {sched : Schedule} {app : List UInt8}
    {status : Pus11Status} (refused : (pus11Delete cfg sched app).1 = .error status) :
    (pus11Delete cfg sched app).2 = sched := by
  rw [pus11Delete] at refused ⊢
  split at refused
  · rfl
  split at refused
  · rename_i missing
    simp only [if_pos missing]
  · contradiction

/-- A refused request leaves the schedule as it was. -/
theorem pus11Execute_refused {cfg : Config} {request : TmRequest} {counters : PusCounters}
    {sched : Schedule} {serviceSubtype : UInt8} {app : List UInt8} {status : Pus11Status}
    (refused : (pus11Execute cfg request counters sched serviceSubtype app).1 = .error status) :
    (pus11Execute cfg request counters sched serviceSubtype app).2 = sched := by
  simp only [pus11Execute] at refused ⊢
  split_ifs at refused ⊢
  · rfl
  · rfl
  · rfl
  · cases result : (pus11Insert cfg sched app).1 with
    | error code => exact pus11Insert_refused result
    | ok _ => simp [result, Except.map] at refused
  · cases result : (pus11Delete cfg sched app).1 with
    | error code => exact pus11Delete_refused result
    | ok _ => simp [result, Except.map] at refused
  · rfl
  · rfl

/-! ### Applied requests -/

/-- What pass one has checked of a batch. -/
structure BatchAdmitted (cfg : Config) (sched : Schedule) (batch : List ScheduleActivity) :
    Prop where
  bounds : ∀ activity ∈ batch,
    scheduleRequestIdSize ≤ activity.tc.length ∧ activity.tc.length ≤ cfg.scheduleTcMax
  fresh : ∀ activity ∈ batch, ∀ stored ∈ sched.activities,
    requestIdOf stored.tc ≠ requestIdOf activity.tc
  distinct : RequestIdsDistinct batch

theorem pus11EmbeddedTcTotal_pos {app : List UInt8} {off : Nat}
    (fits : pus11EmbeddedTcTotal app off ≠ 0) :
    7 ≤ pus11EmbeddedTcTotal app off ∧ off + pus11EmbeddedTcTotal app off ≤ app.length := by
  simp only [pus11EmbeddedTcTotal] at fits ⊢
  split_ifs at fits ⊢ with header body
  · exact absurd rfl fits
  · exact absurd rfl fits
  · simp only [ccsdsPacketTotalSize, ccsdsPrimaryHeaderSize] at body ⊢
    omega

theorem pus11IdSeen_iff (batch : List ScheduleActivity) (candidate : List UInt8) :
    pus11IdSeen batch candidate = true ↔
      requestIdOf candidate ∈ batch.map fun activity => requestIdOf activity.tc := by
  have same (left right : List UInt8) :
      pus11RequestIdEq left right = true ↔ requestIdOf left = requestIdOf right :=
    schedRequestIdEq_iff left right
  simp only [pus11IdSeen, List.any_eq_true, same, List.mem_map]

theorem pus11DecodeInsertsLoop_admitted {cfg : Config} {sched : Schedule} {app : List UInt8}
    {remaining off last : Nat} {batch result : List ScheduleActivity}
    (decoded : pus11DecodeInsertsLoop cfg sched app remaining off batch = .ok (result, last))
    (admitted : BatchAdmitted cfg sched batch) :
    result.length = batch.length + remaining ∧ BatchAdmitted cfg sched result := by
  induction remaining generalizing off batch with
  | zero =>
      obtain ⟨rfl, _⟩ := Prod.mk.inj (Except.ok.inj decoded)
      exact ⟨rfl, admitted⟩
  | succ remaining inductionHypothesis =>
      simp only [pus11DecodeInsertsLoop] at decoded
      split_ifs at decoded with short absent large duplicate
      obtain ⟨least, inside⟩ := pus11EmbeddedTcTotal_pos absent
      obtain ⟨notSeen, notStored⟩ := not_or.mp duplicate
      rw [pus11IdSeen_iff] at notSeen
      rw [scheduleFind_isSome, schedIndexOf_isSome_iff] at notStored
      have length := window_length app inside
      obtain ⟨count, rest⟩ := inductionHypothesis decoded
        { bounds := by
            intro activity member
            rcases List.mem_append.mp member with earlier | new
            · exact admitted.bounds activity earlier
            · obtain rfl := List.mem_singleton.mp new
              simp only [length, scheduleRequestIdSize]
              omega
          fresh := by
            intro activity member stored held
            rcases List.mem_append.mp member with earlier | new
            · exact admitted.fresh activity earlier stored held
            · obtain rfl := List.mem_singleton.mp new
              intro same
              exact notStored ⟨stored, held, same⟩
          distinct := by
            rw [RequestIdsDistinct, List.map_append, List.map_singleton, List.nodup_append]
            refine ⟨admitted.distinct, List.nodup_singleton _, ?_⟩
            rintro left seen right new rfl
            obtain rfl := List.mem_singleton.mp new
            exact notSeen seen }
      rw [List.length_append, List.length_singleton] at count
      exact ⟨by omega, rest⟩

theorem pus11DecodeInserts_admitted {cfg : Config} {sched : Schedule} {app : List UInt8}
    {batch : List ScheduleActivity} (decoded : pus11DecodeInserts cfg sched app = .ok batch) :
    scheduleCount sched + batch.length ≤ cfg.scheduleCapacity ∧
      BatchAdmitted cfg sched batch := by
  simp only [pus11DecodeInserts] at decoded
  split at decoded
  · contradiction
  split at decoded
  · contradiction
  split at decoded
  · contradiction
  rename_i room
  split at decoded
  · contradiction
  rename_i loop
  split at decoded
  · contradiction
  obtain rfl := Except.ok.inj decoded
  obtain ⟨count, admitted⟩ := pus11DecodeInsertsLoop_admitted loop
    { bounds := by simp, fresh := by simp, distinct := List.nodup_nil }
  rw [List.length_nil] at count
  exact ⟨by omega, admitted⟩

/-- With the first of a batch inserted, the others are still admitted. -/
theorem BatchAdmitted.rest {cfg : Config} {sched after : Schedule} {activity : ScheduleActivity}
    {rest : List ScheduleActivity} (admitted : BatchAdmitted cfg sched (activity :: rest))
    (inserted : after.activities = sched.activities ++ [activity]) :
    BatchAdmitted cfg after rest := by
  have distinct := admitted.distinct
  rw [RequestIdsDistinct, List.map_cons, List.nodup_cons] at distinct
  constructor
  · intro other member
    exact admitted.bounds other (List.mem_cons_of_mem _ member)
  · intro other member stored held
    rw [inserted] at held
    rcases List.mem_append.mp held with old | new
    · exact admitted.fresh other (List.mem_cons_of_mem _ member) stored old
    · obtain rfl := List.mem_singleton.mp new
      intro same
      exact distinct.1 (same ▸ List.mem_map_of_mem member)
  · exact distinct.2

/-- No insert of pass two fails: the batch is appended as it was decoded. -/
theorem pus11InsertAll_eq {cfg : Config} {sched : Schedule} {batch : List ScheduleActivity}
    (room : scheduleCount sched + batch.length ≤ cfg.scheduleCapacity)
    (admitted : BatchAdmitted cfg sched batch) :
    pus11InsertAll cfg sched batch =
      { sched with
        activities := sched.activities ++ batch
        generation := sched.generation + UInt32.ofNat batch.length } := by
  induction batch generalizing sched with
  | nil => simp [pus11InsertAll]
  | cons activity rest inductionHypothesis =>
      have bounds := admitted.bounds activity List.mem_cons_self
      rw [List.length_cons] at room
      have inserted : scheduleInsert cfg sched activity.releaseTime activity.tc =
          (.ok, { sched with
            activities := sched.activities ++ [activity]
            generation := sched.generation + 1 }) :=
        scheduleInsert_ok bounds.1 bounds.2 (admitted.fresh activity List.mem_cons_self)
          (by omega)
      rw [pus11InsertAll, List.foldl_cons, inserted, ← pus11InsertAll,
        inductionHypothesis _ (admitted.rest rfl)]
      · simp [UInt32.add_assoc, UInt32.add_comm]
      · simp only [scheduleCount, List.length_append, List.length_singleton] at room ⊢
        omega

/-! ### The report as it reads -/

theorem pus11DecodeRequestIds_ne_bufTooSmall {cfg : Config} {app : List UInt8} :
    pus11DecodeRequestIds cfg app ≠ .error .errBufTooSmall := by
  simp only [pus11DecodeRequestIds]
  split_ifs <;> simp

theorem pus11DecodeInserts_ne_bufTooSmall {cfg : Config} {sched : Schedule} {app : List UInt8} :
    pus11DecodeInserts cfg sched app ≠ .error .errBufTooSmall := by
  have loop (remaining off : Nat) (batch : List ScheduleActivity) :
      pus11DecodeInsertsLoop cfg sched app remaining off batch ≠ .error .errBufTooSmall := by
    induction remaining generalizing off batch with
    | zero => simp [pus11DecodeInsertsLoop]
    | succ remaining inductionHypothesis =>
        simp only [pus11DecodeInsertsLoop]
        split_ifs
        · simp
        · simp
        · simp
        · simp
        · exact inductionHypothesis _ _
  simp only [pus11DecodeInserts]
  split
  · simp
  split
  · simp
  split
  · simp
  split
  · rename_i failed
    intro equal
    obtain rfl := Except.error.inj equal
    exact loop _ _ _ failed
  · split <;> simp

theorem pus11Insert_ne_bufTooSmall {cfg : Config} {sched : Schedule} {app : List UInt8} :
    (pus11Insert cfg sched app).1 ≠ .error .errBufTooSmall := by
  rw [pus11Insert]
  split
  · rename_i failed
    intro equal
    obtain rfl := Except.error.inj equal
    exact pus11DecodeInserts_ne_bufTooSmall failed
  · simp

theorem pus11Delete_ne_bufTooSmall {cfg : Config} {sched : Schedule} {app : List UInt8} :
    (pus11Delete cfg sched app).1 ≠ .error .errBufTooSmall := by
  rw [pus11Delete]
  split
  · rename_i failed
    intro equal
    obtain rfl := Except.error.inj equal
    exact pus11DecodeRequestIds_ne_bufTooSmall failed
  · split <;> simp

theorem flatMap_pus11SummaryEntry_length (found : List ScheduleActivity) :
    (found.flatMap pus11SummaryEntry).length = found.length * 8 := by
  rw [Nat.mul_comm]
  apply length_flatMap_eq
  intro activity _
  simp only [pus11SummaryEntry, List.length_append, put32_length, requestIdOf, List.length_map,
    List.length_range, scheduleRequestIdSize]

theorem pus11DecodeRequestIds_length {cfg : Config} {app : List UInt8} {ids : List (List UInt8)}
    (decoded : pus11DecodeRequestIds cfg app = .ok ids) : ids.length ≤ cfg.pus11MaxPerTc := by
  simp only [pus11DecodeRequestIds] at decoded
  split_ifs at decoded with _ within
  obtain rfl := Except.ok.inj decoded
  rw [List.length_map, List.length_range]
  omega

theorem pus11Report_within {cfg : Config} {request : TmRequest} {counters : PusCounters}
    (sched : Schedule) (app : List UInt8) {size : Nat} (serves : request.Serves counters size)
    (fits : 19 + 8 * cfg.pus11MaxPerTc ≤ size) (small : size < 65536) :
    ReturnsWithin ((pus11Report cfg request counters sched app).map some) .errBufTooSmall
      request counters .summaryReport size := by
  rw [pus11Report]
  cases decoded : pus11DecodeRequestIds cfg app with
  | error status =>
      simp only [Except.map, ReturnsWithin]
      rintro rfl
      exact pus11DecodeRequestIds_ne_bufTooSmall decoded
  | ok ids =>
      have within := pus11DecodeRequestIds_length decoded
      have count := List.length_filterMap_le (scheduleFind sched) ids
      have sized : ([UInt8.ofNat (ids.filterMap (scheduleFind sched)).length] ++
          (ids.filterMap (scheduleFind sched)).flatMap pus11SummaryEntry).length =
            1 + (ids.filterMap (scheduleFind sched)).length * 8 := by
        rw [List.length_append, flatMap_pus11SummaryEntry_length, List.length_singleton]
      obtain ⟨out, built, reports⟩ :=
        buildTm_reports .summaryReport serves sized (by omega) small
      simp only [pus11BuildSummaryReport, built]
      exact ⟨_, reports⟩

theorem pus11Execute_within {cfg : Config} {request : TmRequest} {counters : PusCounters}
    (sched : Schedule) (serviceSubtype : UInt8) (app : List UInt8) {size : Nat}
    (serves : request.Serves counters size) (fits : 19 + 8 * cfg.pus11MaxPerTc ≤ size)
    (small : size < 65536) :
    ReturnsWithin (pus11Execute cfg request counters sched serviceSubtype app).1 .errBufTooSmall
      request counters .summaryReport size := by
  simp only [pus11Execute]
  split_ifs
  · simp [ReturnsWithin]
  · trivial
  · simp [ReturnsWithin]
  · trivial
  · simp [ReturnsWithin]
  · trivial
  · cases result : (pus11Insert cfg sched app).1 with
    | error status =>
        simp only [Except.map, ReturnsWithin]
        rintro rfl
        exact pus11Insert_ne_bufTooSmall result
    | ok _ => trivial
  · cases result : (pus11Delete cfg sched app).1 with
    | error status =>
        simp only [Except.map, ReturnsWithin]
        rintro rfl
        exact pus11Delete_ne_bufTooSmall result
    | ok _ => trivial
  · exact pus11Report_within sched app serves fits small
  · simp [ReturnsWithin]

end FswCore
