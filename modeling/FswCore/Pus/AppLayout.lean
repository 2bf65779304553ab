import FswCore.Library.Slices
import FswCore.Pus.Router

/-!
Contract: the application data of a request against `docs/wire`.

Owns:
- the requests the router can route and the layout pinned for each;
- a service that ends a request well has gone over the whole of its layout;
- what a decoder that accepts exactly some values says about them.

Does not own: the connection test, which takes no application data.
-/

namespace FswCore

open Library Library.BigEndian

variable {cfg : Config}

/-! ### Exact decoders -/

section Exact

variable {ε α : Type} {result : Except ε α} {accepts : α → Prop}

/-- What an exact decoder rejects names nothing. -/
theorem decode_error_names (exact : ∀ value, result = .ok value ↔ accepts value) {status : ε}
    (rejected : result = .error status) : ¬∃ value, accepts value := by
  rintro ⟨value, named⟩
  rw [(exact value).mpr named] at rejected
  contradiction

/-- What it decodes names that only. -/
theorem decode_ok_names (exact : ∀ value, result = .ok value ↔ accepts value) {value other : α}
    (decoded : result = .ok value) (named : accepts other) : other = value := by
  have same := ((exact other).mpr named).symm.trans decoded
  exact Except.ok.inj same

end Exact

/-! ### Layouts -/

/-- A count octet and that many items, nothing behind them. -/
def CountedItems (limit : Nat) (Item : List UInt8 → Prop) (octets : List UInt8) : Prop :=
  ∃ items : List (List UInt8), octets = UInt8.ofNat items.length :: items.flatten ∧
    items.length < 256 ∧ items.length ≤ limit ∧ ∀ item ∈ items, Item item

/-- A structure identifier, the counted parameter identifiers and the interval. -/
def StructureLayout (cfg : Config) (app : List UInt8) : Prop :=
  ∃ sid ids interval, app = put16 sid ++ ids ++ put32 interval ∧ hkstoreSidMin ≤ sid ∧
    CountedItems cfg.hkstoreMaxParams (fun id => id.length = 2) ids ∧ 1 < ids.length

/-- A release time and a telecommand that delimits itself. -/
def InsertLayout (cfg : Config) (item : List UInt8) : Prop :=
  ∃ releaseTime tc, item = put32 releaseTime ++ tc ∧
    tc.length = ccsdsPacketTotalSize (be16At tc 4) ∧ tc.length ≤ cfg.scheduleTcMax

/-- A defined parameter and a value as wide as its type. -/
def SetLayout (datapool : Option Datapool) (item : List UInt8) : Prop :=
  ∃ dp param id value, datapool = some dp ∧ datapoolFind dp id = some param ∧
    item = put16 id ++ value ∧ value.length = dpTypeWidth param.value.type

inductive TcRequest where
  | createStructure
  | deleteStructure
  | enableStructure
  | disableStructure
  | oneShotPoll
  | enableSchedule
  | disableSchedule
  | resetSchedule
  | insertActivities
  | deleteActivities
  | summaryReport
  | enableStorage
  | disableStorage
  | downlinkRange
  | deleteRange
  | storeReport
  | areYouAlive
  | valueReport
  | setValues
deriving DecidableEq, Repr

namespace TcRequest

def service : TcRequest → UInt8
  | createStructure | deleteStructure | enableStructure | disableStructure | oneShotPoll =>
      pusServiceHousekeeping
  | enableSchedule | disableSchedule | resetSchedule | insertActivities | deleteActivities
  | summaryReport => pusServiceScheduling
  | enableStorage | disableStorage | downlinkRange | deleteRange | storeReport =>
      pusServiceStorage
  | areYouAlive => pusServiceTest
  | valueReport | setValues => pusServiceOnboardParameter

def subtype : TcRequest → UInt8
  | createStructure => pus3SubtypeCreateStructure
  | deleteStructure => pus3SubtypeDeleteStructure
  | enableStructure => pus3SubtypeEnableStructure
  | disableStructure => pus3SubtypeDisableStructure
  | oneShotPoll => pus3SubtypeOneShotPoll
  | enableSchedule => pus11SubtypeEnable
  | disableSchedule => pus11SubtypeDisable
  | resetSchedule => pus11SubtypeReset
  | insertActivities => pus11SubtypeInsert
  | deleteActivities => pus11SubtypeDelete
  | summaryReport => pus11SubtypeSummaryReportRequest
  | enableStorage => pus15SubtypeEnableStorage
  | disableStorage => pus15SubtypeDisableStorage
  | downlinkRange => pus15SubtypeDownlinkRange
  | deleteRange => pus15SubtypeDeleteRange
  | storeReport => pus15SubtypeReportRequest
  | areYouAlive => pus17SubtypeAreYouAliveTc
  | valueReport => pus20SubtypeReportRequest
  | setValues => pus20SubtypeSetRequest

/-- The application data `docs/wire` pins for a request. -/
def Layout (cfg : Config) (datapool : Option Datapool) : TcRequest → List UInt8 → Prop
  | createStructure, app => StructureLayout cfg app
  | deleteStructure, app | enableStructure, app | disableStructure, app | oneShotPoll, app =>
      ∃ sid, app = put16 sid
  | enableSchedule, app | disableSchedule, app | resetSchedule, app => app = []
  | insertActivities, app => CountedItems cfg.pus11MaxPerTc (InsertLayout cfg) app
  | deleteActivities, app | summaryReport, app =>
      CountedItems cfg.pus11MaxPerTc (fun id => id.length = scheduleRequestIdSize) app
  | enableStorage, app | disableStorage, app | storeReport, app => app = []
  | downlinkRange, app => ∃ fromTime toTime, app = put32 fromTime ++ put32 toTime
  | deleteRange, app => ∃ upTo, app = put32 upTo
  | areYouAlive, app => app = []
  | valueReport, app => CountedItems cfg.pus20MaxParamsPerTc (fun id => id.length = 2) app
  | setValues, app => CountedItems cfg.pus20MaxParamsPerTc (SetLayout datapool) app

end TcRequest

/-- The layout pinned for a service and subtype, if the router routes them. -/
def PinnedLayout (cfg : Config) (datapool : Option Datapool) (service subtype : UInt8)
    (app : List UInt8) : Prop :=
  ∃ request : TcRequest, request.service = service ∧ request.subtype = subtype ∧
    request.Layout cfg datapool app

/-! ### Fixed layouts -/

theorem eq_put16 {app : List UInt8} (sized : app.length = 2) : app = put16 (be16At app 0) := by
  have word := drop_eq_put16 app 0 (by omega)
  rwa [List.drop_zero, List.drop_of_length_le (by omega), List.append_nil] at word

theorem eq_put32 {app : List UInt8} (sized : app.length = 4) : app = put32 (be32At app 0) := by
  have word := drop_eq_put32 app 0 (by omega)
  rwa [List.drop_zero, List.drop_of_length_le (by omega), List.append_nil] at word

/-- A count octet and items of one size, when the length says so. -/
theorem counted_of_length {app : List UInt8} {size limit : Nat} (nonempty : ¬app.length < 1)
    (within : ¬(app.getD 0 0).toNat > limit)
    (sized : app.length = 1 + size * (app.getD 0 0).toNat) :
    CountedItems limit (fun item => item.length = size) app := by
  cases app with
  | nil => exact absurd Nat.zero_lt_one nonempty
  | cons count rest =>
      rw [List.getD_cons_zero] at within sized
      rw [List.length_cons, Nat.mul_comm] at sized
      have restLength : rest.length = count.toNat * size := by omega
      refine ⟨(List.range count.toNat).map (slice size rest), ?_, ?_, ?_, ?_⟩
      · rw [flatten_slices, List.take_of_length_le (Nat.le_of_eq restLength), List.length_map,
          List.length_range, UInt8.ofNat_toNat]
      · rw [List.length_map, List.length_range]
        exact count.toNat_lt
      · rw [List.length_map, List.length_range]
        exact Nat.not_lt.mp within
      · intro item member
        obtain ⟨number, listed, rfl⟩ := List.mem_map.mp member
        have below : number + 1 ≤ count.toNat := List.mem_range.mp listed
        have room := Nat.mul_le_mul_right size below
        rw [Nat.add_mul, Nat.one_mul] at room
        rw [slice_length, restLength]
        omega

/-! ### Service 3 -/

theorem pus3ExecCreate_layout {store : Hkstore} {app : List UInt8}
    (succeeded : (pus3ExecCreate cfg store app).1 = .ok) : StructureLayout cfg app := by
  simp only [pus3ExecCreate] at succeeded
  split at succeeded
  · contradiction
  rename_i least
  split at succeeded
  · contradiction
  rename_i sized
  split at succeeded
  · contradiction
  rename_i within
  rw [not_not] at sized
  rcases hkstoreCreate_cases cfg store (be16At app 0)
    ((List.range (app.getD 2 0).toNat).map fun index => be16At app (3 + 2 * index))
    (be32At app (3 + 2 * (app.getD 2 0).toNat)) with ⟨failed, _⟩ | ⟨_, created⟩
  · rw [pus3Return, if_neg failed] at succeeded
    contradiction
  generalize counts : (app.getD 2 0).toNat = count at sized within created
  have first := drop_eq_put16 app 0 (by omega)
  have last := drop_eq_put32 app (3 + 2 * count) (by omega)
  have ending : app.drop (3 + 2 * count + 4) = [] := List.drop_of_length_le (by omega)
  have idsLength : (window app 2 (1 + 2 * count)).length = 1 + 2 * count :=
    window_length app (by omega)
  have head : (window app 2 (1 + 2 * count)).getD 0 0 = app.getD 2 0 := getD_window (by omega) 0
  refine ⟨be16At app 0, window app 2 (1 + 2 * count), be32At app (3 + 2 * count), ?_,
    created.sidFloor, ?_, ?_⟩
  · rw [ending, List.append_nil] at last
    rw [← last, List.append_assoc, window, show 3 + 2 * count = 2 + (1 + 2 * count) by omega,
      ← List.drop_drop, List.take_append_drop, ← first, List.drop_zero]
  · apply counted_of_length
    · omega
    · rw [head, counts]
      exact within
    · rw [head, counts, idsLength]
  · have nonempty := created.nonempty
    rw [idsLength]
    rcases count with _ | count
    · exact absurd rfl nonempty
    · omega

theorem pus3ExecSidOnly_layout {store : Hkstore} {app : List UInt8} {subtype : UInt8}
    (succeeded : (pus3ExecSidOnly store app subtype).1 = .ok) : ∃ sid, app = put16 sid := by
  rw [pus3ExecSidOnly] at succeeded
  split at succeeded
  · contradiction
  · rename_i sized
    exact ⟨_, eq_put16 (not_not.mp sized)⟩

theorem pus3Execute_layout {store : Hkstore} {subtype : UInt8} {app : List UInt8}
    (datapool : Option Datapool) (succeeded : (pus3Execute cfg store subtype app).1 = .ok) :
    PinnedLayout cfg datapool pusServiceHousekeeping subtype app := by
  rw [pus3Execute] at succeeded
  split at succeeded
  · rename_i create
    exact ⟨.createStructure, rfl, create.symm, pus3ExecCreate_layout succeeded⟩
  split at succeeded
  · rename_i sidOnly
    have layout := pus3ExecSidOnly_layout succeeded
    rcases sidOnly with delete | enable | disable
    · exact ⟨.deleteStructure, rfl, delete.symm, layout⟩
    · exact ⟨.enableStructure, rfl, enable.symm, layout⟩
    · exact ⟨.disableStructure, rfl, disable.symm, layout⟩
  · contradiction

/-! ### Service 11 -/

/-- Behind a count octet the items stand to the end. -/
theorem counted_of_flatMap {ι : Type*} {app : List UInt8} {limit : Nat} {items : List ι}
    {image : ι → List UInt8} (nonempty : ¬app.length < 1)
    (within : ¬(app.getD 0 0).toNat > limit) (count : items.length = (app.getD 0 0).toNat)
    (octets : app.drop 1 = items.flatMap image) :
    app = UInt8.ofNat items.length :: items.flatMap image ∧ items.length < 256 ∧
      items.length ≤ limit := by
  cases app with
  | nil => exact absurd Nat.zero_lt_one nonempty
  | cons first rest =>
      rw [List.getD_cons_zero] at within count
      refine ⟨?_, count ▸ first.toNat_lt, count ▸ Nat.not_lt.mp within⟩
      rw [count, UInt8.ofNat_toNat, ← octets]
      rfl

theorem pus11EmbeddedTcTotal_eq {app : List UInt8} {off : Nat}
    (fits : pus11EmbeddedTcTotal app off ≠ 0) :
    pus11EmbeddedTcTotal app off = ccsdsPacketTotalSize (be16At app (off + 4)) := by
  simp only [pus11EmbeddedTcTotal] at fits ⊢
  split_ifs at fits ⊢
  · exact absurd rfl fits
  · exact absurd rfl fits
  · rfl

/-- The telecommand of an item gives its own length in its packet header. -/
def SelfDelimiting (activity : ScheduleActivity) : Prop :=
  activity.tc.length = ccsdsPacketTotalSize (be16At activity.tc 4)

/-- One item of an insert request. -/
def pus11InsertItem (activity : ScheduleActivity) : List UInt8 :=
  put32 activity.releaseTime ++ activity.tc

/-- The loop goes over release times and telecommands, one after the other. -/
theorem pus11DecodeInsertsLoop_sound {sched : Schedule} {app : List UInt8}
    {remaining off last : Nat} {batch result : List ScheduleActivity}
    (decoded : pus11DecodeInsertsLoop cfg sched app remaining off batch = .ok (result, last)) :
    ∃ added : List ScheduleActivity, result = batch ++ added ∧ added.length = remaining ∧
      app.drop off = added.flatMap pus11InsertItem ++ app.drop last ∧
      ∀ activity ∈ added, SelfDelimiting activity ∧ activity.tc.length ≤ cfg.scheduleTcMax := by
  induction remaining generalizing off batch with
  | zero =>
      obtain ⟨rfl, rfl⟩ := Prod.mk.inj (Except.ok.inj decoded)
      exact ⟨[], (List.append_nil _).symm, rfl, rfl, by simp⟩
  | succ remaining inductionHypothesis =>
      simp only [pus11DecodeInsertsLoop] at decoded
      split_ifs at decoded with short absent large duplicate
      obtain ⟨least, inside⟩ := pus11EmbeddedTcTotal_pos absent
      obtain ⟨added, isResult, count, octets, each⟩ := inductionHypothesis decoded
      have declared := pus11EmbeddedTcTotal_eq absent
      generalize pus11EmbeddedTcTotal app (off + 4) = total at *
      have length := window_length app inside
      have selfDelimiting : (window app (off + 4) total).length =
          ccsdsPacketTotalSize (be16At (window app (off + 4) total) 4) := by
        rw [length, be16At_window (by omega), declared]
      refine ⟨⟨be32At app off, window app (off + 4) total⟩ :: added, ?_,
        congrArg Nat.succ count, ?_, ?_⟩
      · rw [isResult, List.append_assoc]
        rfl
      · rw [List.flatMap_cons, List.append_assoc, ← octets, pus11InsertItem, List.append_assoc,
          drop_eq_put32 app off (by omega), window_append_drop]
      · intro activity member
        rcases List.mem_cons.mp member with rfl | later
        · exact ⟨selfDelimiting, by rw [length]; exact Nat.not_lt.mp large⟩
        · exact each activity later

/-- A request that decodes is a count octet and the items decoded. -/
theorem pus11DecodeInserts_sound {sched : Schedule} {app : List UInt8}
    {batch : List ScheduleActivity} (decoded : pus11DecodeInserts cfg sched app = .ok batch) :
    app = UInt8.ofNat batch.length :: batch.flatMap pus11InsertItem ∧ batch.length < 256 ∧
      batch.length ≤ cfg.pus11MaxPerTc ∧
      ∀ activity ∈ batch, SelfDelimiting activity ∧ activity.tc.length ≤ cfg.scheduleTcMax := by
  simp only [pus11DecodeInserts] at decoded
  split at decoded
  · contradiction
  rename_i nonempty
  split at decoded
  · contradiction
  rename_i within
  split at decoded
  · contradiction
  split at decoded
  · contradiction
  rename_i loop
  split at decoded
  · contradiction
  rename_i ended
  obtain rfl := Except.ok.inj decoded
  obtain ⟨added, isBatch, count, octets, each⟩ := pus11DecodeInsertsLoop_sound loop
  rw [List.nil_append] at isBatch
  rw [← isBatch] at count octets each
  rw [not_not.mp ended, List.drop_length, List.append_nil] at octets
  obtain ⟨layout, counted, withinLimit⟩ := counted_of_flatMap nonempty within count octets
  exact ⟨layout, counted, withinLimit, each⟩

theorem pus11DecodeInserts_layout {sched : Schedule} {app : List UInt8}
    {batch : List ScheduleActivity} (decoded : pus11DecodeInserts cfg sched app = .ok batch) :
    CountedItems cfg.pus11MaxPerTc (InsertLayout cfg) app := by
  obtain ⟨layout, counted, within, each⟩ := pus11DecodeInserts_sound decoded
  refine ⟨batch.map pus11InsertItem, ?_, ?_, ?_, ?_⟩
  · rw [List.length_map, ← List.flatMap_def]
    exact layout
  · rwa [List.length_map]
  · rwa [List.length_map]
  · intro item member
    obtain ⟨activity, inBatch, rfl⟩ := List.mem_map.mp member
    obtain ⟨selfDelimiting, fits⟩ := each activity inBatch
    exact ⟨activity.releaseTime, activity.tc, rfl, selfDelimiting, fits⟩

/-- The checks a list of request identifiers has passed. -/
structure RequestIdsPass (cfg : Config) (app : List UInt8) (ids : List (List UInt8)) : Prop where
  nonempty : ¬app.length < 1
  within : ¬(app.getD 0 0).toNat > cfg.pus11MaxPerTc
  sized : app.length = 1 + scheduleRequestIdSize * (app.getD 0 0).toNat
  windows : (List.range (app.getD 0 0).toNat).map (fun index =>
    window app (1 + scheduleRequestIdSize * index) scheduleRequestIdSize) = ids

theorem pus11DecodeRequestIds_pass {app : List UInt8} {ids : List (List UInt8)}
    (decoded : pus11DecodeRequestIds cfg app = .ok ids) : RequestIdsPass cfg app ids := by
  simp only [pus11DecodeRequestIds] at decoded
  split at decoded
  · contradiction
  rename_i nonempty
  split at decoded
  · contradiction
  rename_i within
  split at decoded
  · contradiction
  rename_i sized
  exact ⟨nonempty, within, not_not.mp sized, Except.ok.inj decoded⟩

theorem pus11DecodeRequestIds_layout {app : List UInt8} {ids : List (List UInt8)}
    (decoded : pus11DecodeRequestIds cfg app = .ok ids) :
    CountedItems cfg.pus11MaxPerTc (fun id => id.length = scheduleRequestIdSize) app := by
  have pass := pus11DecodeRequestIds_pass decoded
  exact counted_of_length pass.nonempty pass.within pass.sized

theorem pus11Execute_layout {request : TmRequest} {counters : PusCounters} {sched : Schedule}
    {subtype : UInt8} {app : List UInt8} {report : Option TmOut} (datapool : Option Datapool)
    (succeeded : (pus11Execute cfg request counters sched subtype app).1 = .ok report) :
    PinnedLayout cfg datapool pusServiceScheduling subtype app := by
  simp only [pus11Execute] at succeeded
  have empty (carries : ¬app.length ≠ 0) : app = [] :=
    List.length_eq_zero_iff.mp (not_not.mp carries)
  split_ifs at succeeded with enable carries disable carries reset carries insert delete summary
  · exact ⟨.enableSchedule, rfl, enable.symm, empty carries⟩
  · exact ⟨.disableSchedule, rfl, disable.symm, empty carries⟩
  · exact ⟨.resetSchedule, rfl, reset.symm, empty carries⟩
  · cases decoded : pus11DecodeInserts cfg sched app with
    | error code => simp [pus11Insert, decoded, Except.map] at succeeded
    | ok batch => exact ⟨.insertActivities, rfl, insert.symm, pus11DecodeInserts_layout decoded⟩
  · cases decoded : pus11DecodeRequestIds cfg app with
    | error code => simp [pus11Delete, decoded, Except.map] at succeeded
    | ok ids =>
        exact ⟨.deleteActivities, rfl, delete.symm, pus11DecodeRequestIds_layout decoded⟩
  · cases decoded : pus11DecodeRequestIds cfg app with
    | error code => simp [pus11Report, decoded, Except.map] at succeeded
    | ok ids => exact ⟨.summaryReport, rfl, summary.symm, pus11DecodeRequestIds_layout decoded⟩

/-! ### Service 15 -/

theorem pus15Downlink_layout {store : Pktstore cfg} {app : List UInt8}
    (succeeded : (pus15Downlink store app).1 = .ok ()) :
    ∃ fromTime toTime, app = put32 fromTime ++ put32 toTime := by
  rw [pus15Downlink] at succeeded
  split at succeeded
  · contradiction
  rename_i sized
  rw [not_not] at sized
  have first := drop_eq_put32 app 0 (by omega)
  have second := drop_eq_put32 app (0 + 4) (by omega)
  rw [List.drop_zero] at first
  rw [List.drop_of_length_le (i := 0 + 4 + 4) (by omega), List.append_nil] at second
  exact ⟨_, _, first.trans (congrArg _ second)⟩

theorem pus15Delete_layout {store : Pktstore cfg} {app : List UInt8}
    (succeeded : (pus15Delete store app).1 = .ok ()) : ∃ upTo, app = put32 upTo := by
  rw [pus15Delete] at succeeded
  split at succeeded
  · contradiction
  · rename_i sized
    exact ⟨_, eq_put32 (not_not.mp sized)⟩

theorem pus15Execute_layout {request : TmRequest} {counters : PusCounters}
    {store : Pktstore cfg} {subtype : UInt8} {app : List UInt8} {report : Option TmOut}
    (datapool : Option Datapool)
    (succeeded : (pus15Execute request counters store subtype app).1 = .ok report) :
    PinnedLayout cfg datapool pusServiceStorage subtype app := by
  simp only [pus15Execute] at succeeded
  have empty (carries : ¬app.length ≠ 0) : app = [] :=
    List.length_eq_zero_iff.mp (not_not.mp carries)
  split_ifs at succeeded with enable carries disable carries downlink delete report carries
  · exact ⟨.enableStorage, rfl, enable.symm, empty carries⟩
  · exact ⟨.disableStorage, rfl, disable.symm, empty carries⟩
  · cases result : (pus15Downlink store app).1 with
    | error code => simp [result, Except.map] at succeeded
    | ok _ => exact ⟨.downlinkRange, rfl, downlink.symm, pus15Downlink_layout result⟩
  · cases result : (pus15Delete store app).1 with
    | error code => simp [result, Except.map] at succeeded
    | ok _ => exact ⟨.deleteRange, rfl, delete.symm, pus15Delete_layout result⟩
  · exact ⟨.storeReport, rfl, report.symm, empty carries⟩

/-! ### Service 20 -/

theorem pus20Collect_layout {dp : Datapool} {app : List UInt8} {found : List DpParam × Nat}
    (collected : pus20Collect cfg dp app = .ok found) :
    CountedItems cfg.pus20MaxParamsPerTc (fun id => id.length = 2) app := by
  simp only [pus20Collect] at collected
  split at collected
  · contradiction
  rename_i nonempty
  split at collected
  · contradiction
  rename_i within
  split at collected
  · contradiction
  rename_i sized
  exact counted_of_length nonempty within (not_not.mp sized)

/-- One item of a set request. -/
def pus20SetItem (set : UInt16 × DpValue) : List UInt8 := put16 set.1 ++ dpValueImage set.2

/-- The loop goes over identifiers and values, each as wide as its parameter. -/
theorem pus20DecodeSetsLoop_sound {dp : Datapool} {app : List UInt8} {remaining off last : Nat}
    {sets result : List (UInt16 × DpValue)}
    (decoded : pus20DecodeSetsLoop dp app remaining off sets = .ok (result, last)) :
    ∃ added : List (UInt16 × DpValue), result = sets ++ added ∧ added.length = remaining ∧
      app.drop off = added.flatMap pus20SetItem ++ app.drop last := by
  induction remaining generalizing off sets with
  | zero =>
      obtain ⟨rfl, rfl⟩ := Prod.mk.inj (Except.ok.inj decoded)
      exact ⟨[], (List.append_nil _).symm, rfl, rfl⟩
  | succ remaining inductionHypothesis =>
      simp only [pus20DecodeSetsLoop] at decoded
      split at decoded
      · contradiction
      rename_i short
      split at decoded
      · contradiction
      rename_i param found
      split at decoded
      · contradiction
      split at decoded
      · contradiction
      rename_i value read valueDecoded
      obtain ⟨added, isResult, count, octets⟩ := inductionHypothesis decoded
      obtain ⟨_, _, image⟩ := dpValueDecode_sound valueDecoded
      rw [List.drop_drop] at image
      refine ⟨(pus20ReadId app off, value) :: added, ?_, congrArg Nat.succ count, ?_⟩
      · rw [isResult, List.append_assoc]
        rfl
      · rw [List.flatMap_cons, List.append_assoc, ← octets, pus20SetItem, List.append_assoc,
          drop_eq_put16 app off (by omega), ← image]
        rfl

/-- A request that decodes is a count octet and the items decoded. -/
theorem pus20DecodeSets_sound {dp : Datapool} {app : List UInt8}
    {sets : List (UInt16 × DpValue)} (decoded : pus20DecodeSets cfg dp app = .ok sets) :
    app = UInt8.ofNat sets.length :: sets.flatMap pus20SetItem ∧ sets.length < 256 ∧
      sets.length ≤ cfg.pus20MaxParamsPerTc := by
  simp only [pus20DecodeSets] at decoded
  split at decoded
  · contradiction
  rename_i nonempty
  split at decoded
  · contradiction
  rename_i within
  split at decoded
  · contradiction
  rename_i loop
  split at decoded
  · contradiction
  rename_i ended
  obtain rfl := Except.ok.inj decoded
  obtain ⟨added, isSets, count, octets⟩ := pus20DecodeSetsLoop_sound loop
  rw [List.nil_append] at isSets
  rw [← isSets] at count octets
  rw [not_not.mp ended, List.drop_length, List.append_nil] at octets
  exact counted_of_flatMap nonempty within count octets

theorem pus20DecodeSets_layout {dp : Datapool} {app : List UInt8}
    {sets : List (UInt16 × DpValue)} (decoded : pus20DecodeSets cfg dp app = .ok sets) :
    CountedItems cfg.pus20MaxParamsPerTc (SetLayout (some dp)) app := by
  obtain ⟨layout, counted, within⟩ := pus20DecodeSets_sound decoded
  refine ⟨sets.map pus20SetItem, ?_, ?_, ?_, ?_⟩
  · rw [List.length_map, ← List.flatMap_def]
    exact layout
  · rwa [List.length_map]
  · rwa [List.length_map]
  · intro item member
    obtain ⟨set, inSets, rfl⟩ := List.mem_map.mp member
    obtain ⟨param, found, sameType, _⟩ := pus20DecodeSets_admitted decoded set inSets
    refine ⟨dp, param, set.1, dpValueImage set.2, rfl, found, rfl, ?_⟩
    rw [dpValueImage_length, sameType]

theorem pus20Execute_layout {request : TmRequest} {counters : PusCounters} {dp : Datapool}
    {subtype : UInt8} {app : List UInt8} {report : Option TmOut}
    (succeeded : (pus20Execute cfg request counters dp subtype app).1 = .ok report) :
    PinnedLayout cfg (some dp) pusServiceOnboardParameter subtype app := by
  simp only [pus20Execute] at succeeded
  split_ifs at succeeded with values sets
  · cases collected : pus20Collect cfg dp app with
    | error code => simp [pus20Report, collected, Except.map] at succeeded
    | ok found => exact ⟨.valueReport, rfl, values.symm, pus20Collect_layout collected⟩
  · cases decoded : pus20DecodeSets cfg dp app with
    | error code => simp [pus20Set, decoded, Except.map] at succeeded
    | ok _ => exact ⟨.setValues, rfl, sets.symm, pus20DecodeSets_layout decoded⟩

end FswCore
