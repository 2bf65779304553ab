import FswCore.Pus.AppLayout

/-!
Contract: the insert and the delete request of service 11, exactly.

Owns:
- `InsertRequest` and `DeleteRequest`, the octets a request consists of and what
  the schedule must hold or have room for;
- a request is accepted exactly when it is one; what it leaves then, and that it
  leaves the schedule alone otherwise;
- no insert and no delete of the second pass is needed to report anything.
-/

namespace FswCore

open Library Library.BigEndian

variable {cfg : Config}

/-! ### Insert -/

/-- The octets name exactly these activities, and the schedule takes them all. -/
structure InsertRequest (cfg : Config) (sched : Schedule) (app : List UInt8)
    (batch : List ScheduleActivity) : Prop where
  layout : app = UInt8.ofNat batch.length :: batch.flatMap pus11InsertItem
  counted : batch.length < 256
  withinLimit : batch.length ≤ cfg.pus11MaxPerTc
  selfDelimiting : ∀ activity ∈ batch, SelfDelimiting activity
  fits : ∀ activity ∈ batch, activity.tc.length ≤ cfg.scheduleTcMax
  room : scheduleCount sched + batch.length ≤ cfg.scheduleCapacity
  fresh : ∀ activity ∈ batch, ∀ stored ∈ sched.activities,
    requestIdOf stored.tc ≠ requestIdOf activity.tc
  distinct : RequestIdsDistinct batch

theorem SelfDelimiting.least {activity : ScheduleActivity} (delimits : SelfDelimiting activity) :
    7 ≤ activity.tc.length := by
  rw [delimits, ccsdsPacketTotalSize, ccsdsPrimaryHeaderSize]
  omega

theorem InsertRequest.admitted {sched : Schedule} {app : List UInt8}
    {batch : List ScheduleActivity} (request : InsertRequest cfg sched app batch) :
    BatchAdmitted cfg sched batch where
  bounds activity member := by
    have least := (request.selfDelimiting activity member).least
    refine ⟨?_, request.fits activity member⟩
    rw [scheduleRequestIdSize]
    omega
  fresh := request.fresh
  distinct := request.distinct

/-- The length of a telecommand that delimits itself is found where it stands. -/
theorem pus11EmbeddedTcTotal_item {activity : ScheduleActivity}
    (delimits : SelfDelimiting activity) (before behind : List UInt8) :
    pus11EmbeddedTcTotal (before ++ activity.tc ++ behind) before.length = activity.tc.length := by
  have least := delimits.least
  have room : before.length + activity.tc.length ≤
      (before ++ activity.tc ++ behind).length := by
    simp only [List.length_append]
    omega
  have field : be16At (before ++ activity.tc ++ behind) (before.length + 4) =
      be16At activity.tc 4 := by
    have inside : 4 + 2 ≤ activity.tc.length := by omega
    rw [← be16At_window inside, window_append]
  have declared : ccsdsPacketTotalSize (be16At activity.tc 4) = activity.tc.length := delimits.symm
  rw [pus11EmbeddedTcTotal]
  simp only [field, declared]
  rw [if_neg (by rw [ccsdsPrimaryHeaderSize]; omega), if_neg (by omega)]

/-- The items standing at `before.length` are decoded. -/
theorem pus11DecodeInsertsLoop_complete {sched : Schedule} (added : List ScheduleActivity)
    (before behind : List UInt8) (batch : List ScheduleActivity)
    (each : ∀ activity ∈ added, SelfDelimiting activity ∧
      activity.tc.length ≤ cfg.scheduleTcMax)
    (admitted : BatchAdmitted cfg sched (batch ++ added)) :
    pus11DecodeInsertsLoop cfg sched (before ++ added.flatMap pus11InsertItem ++ behind)
        added.length before.length batch =
      .ok (batch ++ added, (before ++ added.flatMap pus11InsertItem).length) := by
  induction added generalizing before batch with
  | nil => simp [pus11DecodeInsertsLoop]
  | cons activity rest inductionHypothesis =>
      obtain ⟨delimits, fits⟩ := each activity List.mem_cons_self
      have least := delimits.least
      have layout : before ++ (activity :: rest).flatMap pus11InsertItem ++ behind =
          (before ++ put32 activity.releaseTime) ++ activity.tc ++
            (rest.flatMap pus11InsertItem ++ behind) := by
        simp [pus11InsertItem]
      have released : be32At (before ++ (activity :: rest).flatMap pus11InsertItem ++ behind)
          before.length = activity.releaseTime := by
        rw [layout, List.append_assoc]
        exact be32At_append _ _ _
      have total := pus11EmbeddedTcTotal_item delimits (before ++ put32 activity.releaseTime)
        (rest.flatMap pus11InsertItem ++ behind)
      have tc := window_append (before ++ put32 activity.releaseTime) activity.tc
        (rest.flatMap pus11InsertItem ++ behind)
      rw [← layout, List.length_append, put32_length] at total tc
      have unseen : ¬(pus11IdSeen batch activity.tc = true ∨
          (scheduleFind sched activity.tc).isSome = true) := by
        rw [pus11IdSeen_iff, scheduleFind_isSome, schedIndexOf_isSome_iff]
        rintro (seen | ⟨stored, held, same⟩)
        · have distinct := admitted.distinct
          rw [RequestIdsDistinct, List.map_append, List.nodup_append] at distinct
          exact distinct.2.2 _ seen _ (List.mem_map_of_mem List.mem_cons_self) rfl
        · exact admitted.fresh activity (by simp) stored held same
      have next := inductionHypothesis (before ++ pus11InsertItem activity) (batch ++ [activity])
        (fun other member => each other (List.mem_cons_of_mem _ member))
        (by rwa [List.append_assoc])
      have short : ¬before.length + 4 >
          (before ++ (activity :: rest).flatMap pus11InsertItem ++ behind).length := by
        rw [layout]
        simp only [List.length_append, put32_length]
        omega
      have itemLength : (pus11InsertItem activity).length = 4 + activity.tc.length := by
        rw [pus11InsertItem, List.length_append, put32_length]
      rw [List.length_cons, pus11DecodeInsertsLoop, if_neg short]
      simp only [total, tc, released]
      rw [if_neg (by omega), if_neg (Nat.not_lt.mpr fits), if_neg unseen]
      rw [List.length_append, itemLength, ← Nat.add_assoc, List.append_assoc before,
        ← List.flatMap_cons] at next
      rw [next, List.append_assoc]
      rfl

theorem pus11DecodeInserts_iff {sched : Schedule} {app : List UInt8}
    {batch : List ScheduleActivity} :
    pus11DecodeInserts cfg sched app = .ok batch ↔ InsertRequest cfg sched app batch := by
  constructor
  · intro decoded
    obtain ⟨layout, counted, withinLimit, each⟩ := pus11DecodeInserts_sound decoded
    obtain ⟨room, admitted⟩ := pus11DecodeInserts_admitted decoded
    exact ⟨layout, counted, withinLimit, fun activity member => (each activity member).1,
      fun activity member => (each activity member).2, room, admitted.fresh, admitted.distinct⟩
  · intro request
    have count : (app.getD 0 0).toNat = batch.length := by
      rw [request.layout, List.getD_cons_zero, UInt8.toNat_ofNat']
      exact Nat.mod_eq_of_lt request.counted
    have loop := pus11DecodeInsertsLoop_complete batch [UInt8.ofNat batch.length] [] []
      (fun activity member => ⟨request.selfDelimiting activity member,
        request.fits activity member⟩) request.admitted
    rw [List.append_nil, List.singleton_append, ← request.layout, List.length_singleton,
      List.nil_append] at loop
    have nonempty : ¬app.length < 1 := by
      rw [request.layout, List.length_cons]
      omega
    rw [pus11DecodeInserts, if_neg nonempty]
    simp only [count, loop]
    rw [if_neg (Nat.not_lt.mpr request.withinLimit), if_neg (Nat.not_lt.mpr request.room),
      if_neg (not_not.mpr rfl)]

/-- What the request with subtype 4 does, for any octets. -/
structure InsertExact (cfg : Config) (sched : Schedule) (app : List UInt8)
    (result : Except Pus11Status (Option TmOut) × Schedule) : Prop where
  accepted_iff : (∃ report, result.1 = .ok report) ↔ ∃ batch, InsertRequest cfg sched app batch
  applied : ∀ batch, InsertRequest cfg sched app batch →
    result.2 = { sched with
      activities := sched.activities ++ batch
      generation := sched.generation + UInt32.ofNat batch.length }
  refused : (¬∃ batch, InsertRequest cfg sched app batch) → result.2 = sched
  noneFails : ∀ before activity after,
    InsertRequest cfg sched app (before ++ activity :: after) →
      (scheduleInsert cfg (pus11InsertAll cfg sched before) activity.releaseTime activity.tc).1 =
        .ok

/-- An insert in the second pass finds room and a new identifier. -/
theorem scheduleInsert_within_batch {sched : Schedule} {before after : List ScheduleActivity}
    {activity : ScheduleActivity}
    (room : scheduleCount sched + (before ++ activity :: after).length ≤ cfg.scheduleCapacity)
    (admitted : BatchAdmitted cfg sched (before ++ activity :: after)) :
    (scheduleInsert cfg (pus11InsertAll cfg sched before) activity.releaseTime activity.tc).1 =
      .ok := by
  rw [List.length_append, List.length_cons] at room
  have distinct := admitted.distinct
  rw [RequestIdsDistinct, List.map_append, List.nodup_append] at distinct
  have front : BatchAdmitted cfg sched before :=
    ⟨fun other member => admitted.bounds other (List.mem_append_left _ member),
      fun other member => admitted.fresh other (List.mem_append_left _ member), distinct.1⟩
  have inBatch : activity ∈ before ++ activity :: after := by simp
  obtain ⟨idPresent, fits⟩ := admitted.bounds activity inBatch
  rw [pus11InsertAll_eq (by omega) front, scheduleInsert_ok idPresent fits]
  · intro stored member
    rcases List.mem_append.mp member with old | earlier
    · exact admitted.fresh activity inBatch stored old
    · exact distinct.2.2 _ (List.mem_map_of_mem earlier) _
        (List.mem_map_of_mem List.mem_cons_self)
  · rw [scheduleCount, List.length_append]
    rw [scheduleCount] at room
    omega

/-- For any octets and any schedule. -/
theorem pus11Execute_insert_exact (cfg : Config) (request : TmRequest) (counters : PusCounters)
    (sched : Schedule) (app : List UInt8) :
    InsertExact cfg sched app
      (pus11Execute cfg request counters sched pus11SubtypeInsert app) := by
  have executed : pus11Execute cfg request counters sched pus11SubtypeInsert app =
      ((pus11Insert cfg sched app).1.map fun _ => none, (pus11Insert cfg sched app).2) := rfl
  rw [executed, pus11Insert]
  cases decoded : pus11DecodeInserts cfg sched app with
  | error status =>
      have noRequest : ¬∃ batch, InsertRequest cfg sched app batch :=
        decode_error_names (fun _ => pus11DecodeInserts_iff) decoded
      refine ⟨⟨?_, fun named => absurd named noRequest⟩,
        fun batch named => absurd ⟨batch, named⟩ noRequest, fun _ => rfl,
        fun before activity after named => absurd ⟨_, named⟩ noRequest⟩
      rintro ⟨_, accepted⟩
      contradiction
  | ok batch =>
      have named := pus11DecodeInserts_iff.mp decoded
      have only (other : List ScheduleActivity) (also : InsertRequest cfg sched app other) :
          other = batch :=
        decode_ok_names (fun _ => pus11DecodeInserts_iff) decoded also
      refine ⟨⟨fun _ => ⟨batch, named⟩, fun _ => ⟨none, rfl⟩⟩, ?_,
        fun noRequest => absurd ⟨batch, named⟩ noRequest, ?_⟩
      · intro other also
        rw [only other also]
        exact pus11InsertAll_eq named.room named.admitted
      · intro before activity after also
        exact scheduleInsert_within_batch also.room also.admitted

/-! ### Delete -/

/-- The octets name exactly these identifiers, and all of them are scheduled. -/
structure DeleteRequest (cfg : Config) (sched : Schedule) (app : List UInt8)
    (ids : List (List UInt8)) : Prop where
  layout : app = UInt8.ofNat ids.length :: ids.flatten
  counted : ids.length < 256
  withinLimit : ids.length ≤ cfg.pus11MaxPerTc
  sized : ∀ id ∈ ids, id.length = scheduleRequestIdSize
  scheduled : ∀ id ∈ ids, ∃ activity ∈ sched.activities, requestIdOf activity.tc = id

/-- A string of the size is its own identifier. -/
theorem requestIdOf_of_length {id : List UInt8} (sized : id.length = scheduleRequestIdSize) :
    requestIdOf id = id := by
  rw [requestIdOf, ← sized]
  apply List.ext_getElem
  · rw [List.length_map, List.length_range]
  · intro index _ below
    rw [List.getElem_map, List.getElem_range, List.getD_eq_getElem?_getD,
      List.getElem?_eq_getElem below, Option.getD_some]

/-- The windows of the loop are the slices behind the count octet. -/
theorem requestIdWindows (first : UInt8) (rest : List UInt8) (count : Nat) :
    (List.range count).map (fun index => window (first :: rest)
        (1 + scheduleRequestIdSize * index) scheduleRequestIdSize) =
      (List.range count).map (slice scheduleRequestIdSize rest) := by
  apply List.map_congr_left
  intro index _
  rw [slice, window, window, Nat.add_comm 1, List.drop_succ_cons, Nat.mul_comm]

theorem pus11DecodeRequestIds_sound {app : List UInt8} {ids : List (List UInt8)}
    (decoded : pus11DecodeRequestIds cfg app = .ok ids) :
    app = UInt8.ofNat ids.length :: ids.flatten ∧ ids.length < 256 ∧
      ids.length ≤ cfg.pus11MaxPerTc ∧ ∀ id ∈ ids, id.length = scheduleRequestIdSize := by
  obtain ⟨nonempty, within, sized, rfl⟩ := pus11DecodeRequestIds_pass decoded
  cases app with
  | nil => exact absurd Nat.zero_lt_one nonempty
  | cons first rest =>
      rw [List.getD_cons_zero, List.length_cons] at sized
      rw [List.getD_cons_zero] at within ⊢
      have total : scheduleRequestIdSize * first.toNat = rest.length := by omega
      rw [requestIdWindows, List.length_map, List.length_range]
      refine ⟨?_, first.toNat_lt, Nat.not_lt.mp within, slices_sized (Nat.le_of_eq total)⟩
      rw [flatten_slices, UInt8.ofNat_toNat, Nat.mul_comm, total, List.take_length]

theorem pus11DecodeRequestIds_iff {app : List UInt8} {ids : List (List UInt8)} :
    pus11DecodeRequestIds cfg app = .ok ids ↔
      app = UInt8.ofNat ids.length :: ids.flatten ∧ ids.length < 256 ∧
        ids.length ≤ cfg.pus11MaxPerTc ∧ ∀ id ∈ ids, id.length = scheduleRequestIdSize := by
  constructor
  · exact pus11DecodeRequestIds_sound
  · rintro ⟨layout, counted, withinLimit, sized⟩
    have count : (app.getD 0 0).toNat = ids.length := by
      rw [layout, List.getD_cons_zero, UInt8.toNat_ofNat']
      exact Nat.mod_eq_of_lt counted
    have octets : ids.flatten.length = scheduleRequestIdSize * ids.length := by
      rw [← List.flatMap_id]
      exact length_flatMap_eq sized
    have total : app.length = 1 + scheduleRequestIdSize * ids.length := by
      rw [layout, List.length_cons, octets, Nat.add_comm]
    have nonempty : ¬app.length < 1 := by omega
    rw [pus11DecodeRequestIds, if_neg nonempty]
    simp only [count]
    rw [if_neg (Nat.not_lt.mpr withinLimit), if_neg (not_not.mpr total), layout,
      requestIdWindows, slices_flatten sized]

/-- A deletion removes the activity with the identifier, if there is one, and
moves at most one other. -/
theorem scheduleDelete_perm {sched : Schedule} (distinct : RequestIdsDistinct sched.activities)
    (id : List UInt8) :
    (scheduleDelete sched id).2.activities.Perm
      (sched.activities.filter fun activity => requestIdOf activity.tc ≠ requestIdOf id) := by
  rcases scheduleDelete_cases sched id with
    ⟨_, same, absent⟩ | ⟨index, activity, stored, isId, removed⟩
  · rw [same, List.filter_eq_self.mpr]
    intro activity member
    simpa using absent activity member
  · have moved := perm_cons_swapRemove stored
    have others := distinct.perm moved
    rw [RequestIdsDistinct, List.map_cons, List.nodup_cons] at others
    have kept : (swapRemove sched.activities index).filter
        (fun activity => requestIdOf activity.tc ≠ requestIdOf id) =
          swapRemove sched.activities index := by
      rw [List.filter_eq_self]
      intro other member
      rw [decide_eq_true_eq, ← isId]
      intro same
      exact others.1 (same ▸ List.mem_map_of_mem member)
    have filtered := moved.filter fun activity =>
      decide (requestIdOf activity.tc ≠ requestIdOf id)
    rw [List.filter_cons_of_neg (by simpa using isId), kept] at filtered
    rw [removed]
    exact filtered.symm

/-- The second pass removes the named activities and keeps every other one; an
identifier met again finds nothing. -/
theorem pus11DeleteAll_perm {sched : Schedule} (distinct : RequestIdsDistinct sched.activities)
    (ids : List (List UInt8)) :
    (pus11DeleteAll sched ids).activities.Perm
      (sched.activities.filter fun activity =>
        requestIdOf activity.tc ∉ ids.map requestIdOf) := by
  induction ids generalizing sched with
  | nil => simp [pus11DeleteAll]
  | cons id rest inductionHypothesis =>
      have first := scheduleDelete_perm distinct id
      have fewer : RequestIdsDistinct (sched.activities.filter fun activity =>
          requestIdOf activity.tc ≠ requestIdOf id) :=
        List.Nodup.sublist (List.filter_sublist.map _) distinct
      have behind := inductionHypothesis (fewer.perm first.symm)
      have both := behind.trans (first.filter _)
      rw [List.filter_filter] at both
      refine both.trans (List.Perm.of_eq ?_)
      apply List.filter_congr
      intro activity _
      simp only [List.map_cons, List.mem_cons, not_or, ← Bool.decide_and, and_comm]

theorem pus11DeleteAll_enabled (sched : Schedule) (ids : List (List UInt8)) :
    (pus11DeleteAll sched ids).enabled = sched.enabled := by
  refine List.foldlRecOn (motive := fun after : Schedule => after.enabled = sched.enabled) ids
    (fun sched id => (scheduleDelete sched id).2) rfl ?_
  intro after same id _
  rcases scheduleDelete_cases after id with ⟨_, unchanged, _⟩ | ⟨index, activity, _, _, removed⟩
  · rw [unchanged, same]
  · rw [removed, same]

/-- What the request with subtype 5 does, for any octets. -/
structure DeleteExact (cfg : Config) (sched : Schedule) (app : List UInt8)
    (result : Except Pus11Status (Option TmOut) × Schedule) : Prop where
  accepted_iff : (∃ report, result.1 = .ok report) ↔ ∃ ids, DeleteRequest cfg sched app ids
  applied : ∀ ids, DeleteRequest cfg sched app ids →
    result.2.activities.Perm
        (sched.activities.filter fun activity => requestIdOf activity.tc ∉ ids) ∧
      result.2.enabled = sched.enabled
  refused : (¬∃ ids, DeleteRequest cfg sched app ids) → result.2 = sched

/-- All identifiers of a list are found, or one is not. -/
theorem scheduleFind_all_iff {sched : Schedule} {ids : List (List UInt8)}
    (sized : ∀ id ∈ ids, id.length = scheduleRequestIdSize) :
    (ids.any fun id => (scheduleFind sched id).isNone) = false ↔
      ∀ id ∈ ids, ∃ activity ∈ sched.activities, requestIdOf activity.tc = id := by
  rw [List.any_eq_false]
  apply forall₂_congr
  intro id member
  have found := schedIndexOf_isSome_iff sched id
  rw [requestIdOf_of_length (sized id member), ← scheduleFind_isSome] at found
  rw [← found]
  cases scheduleFind sched id <;> simp

theorem pus11Delete_exact {sched : Schedule} (distinct : RequestIdsDistinct sched.activities)
    (app : List UInt8) :
    DeleteExact cfg sched app
      ((pus11Delete cfg sched app).1.map fun _ => none, (pus11Delete cfg sched app).2) := by
  rw [pus11Delete]
  cases decoded : pus11DecodeRequestIds cfg app with
  | error status =>
      have noRequest : ¬∃ ids, DeleteRequest cfg sched app ids := by
        rintro ⟨ids, named⟩
        apply decode_error_names (fun _ => pus11DecodeRequestIds_iff) decoded
        exact ⟨ids, named.layout, named.counted, named.withinLimit, named.sized⟩
      refine ⟨⟨?_, fun named => absurd named noRequest⟩,
        fun ids named => absurd ⟨ids, named⟩ noRequest, fun _ => rfl⟩
      rintro ⟨_, accepted⟩
      contradiction
  | ok ids =>
      obtain ⟨layout, counted, withinLimit, sized⟩ := pus11DecodeRequestIds_iff.mp decoded
      have only (other : List (List UInt8)) (also : DeleteRequest cfg sched app other) :
          other = ids := by
        apply decode_ok_names (fun _ => pus11DecodeRequestIds_iff) decoded
        exact ⟨also.layout, also.counted, also.withinLimit, also.sized⟩
      simp only
      cases missing : ids.any fun id => (scheduleFind sched id).isNone with
      | true =>
          have noRequest : ¬∃ ids, DeleteRequest cfg sched app ids := by
            rintro ⟨other, named⟩
            obtain rfl := only other named
            rw [(scheduleFind_all_iff sized).mpr named.scheduled] at missing
            contradiction
          refine ⟨⟨?_, fun named => absurd named noRequest⟩,
            fun ids named => absurd ⟨ids, named⟩ noRequest, fun _ => rfl⟩
          rintro ⟨_, accepted⟩
          contradiction
      | false =>
          have named : DeleteRequest cfg sched app ids :=
            ⟨layout, counted, withinLimit, sized, (scheduleFind_all_iff sized).mp missing⟩
          refine ⟨⟨fun _ => ⟨ids, named⟩, fun _ => ⟨none, rfl⟩⟩, ?_,
            fun noRequest => absurd ⟨ids, named⟩ noRequest⟩
          intro other also
          obtain rfl := only other also
          have asNamed : other.map requestIdOf = other := by
            conv_rhs => rw [← List.map_id other]
            apply List.map_congr_left
            intro id member
            exact requestIdOf_of_length (sized id member)
          have deleted := pus11DeleteAll_perm distinct other
          rw [asNamed] at deleted
          exact ⟨deleted, pus11DeleteAll_enabled sched other⟩

/-- For any octets and any schedule whose request identifiers are distinct. -/
theorem pus11Execute_delete_exact (cfg : Config) (request : TmRequest) (counters : PusCounters)
    {sched : Schedule} (distinct : RequestIdsDistinct sched.activities) (app : List UInt8) :
    DeleteExact cfg sched app (pus11Execute cfg request counters sched pus11SubtypeDelete app) :=
  pus11Delete_exact distinct app

/-- The first of three activities named twice, so that the last one moves to the
front. -/
theorem pus11Execute_delete_exact_repeated :
    let sched : Schedule :=
      { activities := [⟨10, [0x19, 0x00, 0xC0, 0x01, 7]⟩, ⟨20, [0x19, 0x00, 0xC0, 0x02]⟩,
          ⟨30, [0x19, 0x00, 0xC0, 0x03, 8, 9]⟩]
        enabled := true
        generation := 3 }
    let app : List UInt8 := [2, 0x19, 0x00, 0xC0, 0x01, 0x19, 0x00, 0xC0, 0x01]
    let request : TmRequest := ⟨100, 0, 1, 128⟩
    let counters : PusCounters := ⟨0, #v[0, 0, 0, 0], #v[0, 0, 0, 0], 0, 0, 0, 0, 0⟩
    DeleteExact defaultConfig sched app
      (pus11Execute defaultConfig request counters sched pus11SubtypeDelete app) :=
  pus11Execute_delete_exact defaultConfig _ _ (by decide) _

end FswCore
