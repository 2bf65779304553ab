import FswCore.Pus.SetRequests

/-!
Contract: the parameter value report of service 20, fed back as a set request.

Owns:
- the source data a report carries, for the identifiers its request names;
- those octets are a set request of every pool that may write these parameters,
  and after it the pool holds the reported values.

Does not own: what a set request does in general.
-/

namespace FswCore

open Library Library.BigEndian

variable {cfg : Config}

/-! ### What is reported -/

/-- The identifiers a report request names, in order. -/
def pus20NamedIds (app : List UInt8) : List UInt16 :=
  (List.range (app.getD 0 0).toNat).map fun index => pus20ReadId app (1 + 2 * index)

theorem datapoolFind_id {dp : Datapool} {id : UInt16} {param : DpParam}
    (found : datapoolFind dp id = some param) : param.id = id := by
  have here := List.find?_some found
  exact beq_iff_eq.mp here

/-- The parameters collected are those the pool holds under the identifiers read. -/
theorem pus20CollectLoop_found {dp : Datapool} {app : List UInt8} {remaining off source : Nat}
    {found result : List DpParam} {sourceData : Nat}
    (collected : pus20CollectLoop dp app remaining off found source = .ok (result, sourceData))
    (held : ∀ param ∈ found, datapoolFind dp param.id = some param) :
    result.map DpParam.id = found.map DpParam.id ++
        (List.range remaining).map (fun index => pus20ReadId app (off + 2 * index)) ∧
      ∀ param ∈ result, datapoolFind dp param.id = some param := by
  induction remaining generalizing off found source with
  | zero =>
      obtain ⟨rfl, _⟩ := Prod.mk.inj (Except.ok.inj collected)
      rw [List.range_zero, List.map_nil, List.append_nil]
      exact ⟨rfl, held⟩
  | succ remaining inductionHypothesis =>
      rw [pus20CollectLoop] at collected
      split at collected
      · contradiction
      rename_i param lookup
      have isId := datapoolFind_id lookup
      have heldToo : ∀ other ∈ found ++ [param], datapoolFind dp other.id = some other := by
        intro other member
        rcases List.mem_append.mp member with earlier | last
        · exact held other earlier
        · rw [List.mem_singleton.mp last, isId]
          exact lookup
      have rest := inductionHypothesis collected heldToo
      refine ⟨?_, rest.2⟩
      have shifted (index : Nat) : off + 2 + 2 * index = off + 2 * (index + 1) := by omega
      rw [rest.1, List.map_append, List.append_assoc, List.range_succ_eq_map, List.map_cons,
        List.map_cons, List.map_nil, List.map_map, isId]
      simp only [shifted, Nat.mul_zero, Nat.add_zero]
      rfl

theorem pus20Collect_found {dp : Datapool} {app : List UInt8} {found : List DpParam}
    {sourceData : Nat} (collected : pus20Collect cfg dp app = .ok (found, sourceData)) :
    found.map DpParam.id = pus20NamedIds app ∧
      ∀ param ∈ found, datapoolFind dp param.id = some param := by
  simp only [pus20Collect] at collected
  split at collected
  · contradiction
  split at collected
  · contradiction
  split at collected
  · contradiction
  apply pus20CollectLoop_found collected
  intro param member
  exact absurd member List.not_mem_nil

/-- The values that are written are the values found, behind their identifiers. -/
theorem pus20EncodeLoop_eq {outCap : Nat} {params : List DpParam} {source octets : List UInt8}
    (encoded : pus20EncodeLoop outCap params source = some octets) :
    octets = source ++ params.flatMap pus20ParamSource := by
  induction params generalizing source with
  | nil =>
      rw [List.flatMap_nil, List.append_nil]
      exact (Option.some.inj encoded).symm
  | cons param rest inductionHypothesis =>
      simp only [pus20EncodeLoop, dpValueEncode_eq] at encoded
      split at encoded
      · contradiction
      · rename_i bytes image
        split at image
        · contradiction
        cases image
        rw [inductionHypothesis encoded, List.flatMap_cons, pus20ParamSource]
        simp only [List.append_assoc]

/-- The source data of a set request with the values of these parameters. -/
def pus20Records (params : List DpParam) : List UInt8 :=
  UInt8.ofNat (params.map DpParam.record).length ::
    (params.map DpParam.record).flatMap pus20SetItem

/-- A report that is built carries the parameters found, counted. -/
theorem pus20Report_source {request : TmRequest} {counters : PusCounters} {dp : Datapool}
    {app : List UInt8} {out : TmOut}
    (reported : pus20Report cfg request counters dp app = .ok out) :
    ∃ found sourceData, pus20Collect cfg dp app = .ok (found, sourceData) ∧
      found.length < 256 ∧ tmSourceData out.packet = pus20Records found := by
  rw [pus20Report] at reported
  split at reported
  · contradiction
  rename_i found sourceData collected
  split at reported
  · contradiction
  rename_i built
  obtain rfl := Except.ok.inj reported
  have named := congrArg List.length (pus20Collect_found collected).1
  rw [List.length_map, pus20NamedIds, List.length_map, List.length_range] at named
  have counted : found.length < 256 := by
    rw [named]
    exact UInt8.toNat_lt _
  obtain ⟨_, sized⟩ := pus20Collect_size collected
  have widths := pus20ParamSource_length_le found
  obtain ⟨octets, encoded, packed, _⟩ := buildTm_packs built
  have isSource := pus20EncodeLoop_eq encoded
  have length : octets.length = sourceData := by
    rw [isSource, sized, List.length_append, List.length_singleton]
  have field : (tmPrimaryOf request counters.tmSeqCount sourceData).dataLength.toNat =
      octets.length + 11 := by
    rw [length]
    exact dataField_pred_toNat (by omega)
  refine ⟨found, sourceData, collected, counted, ?_⟩
  rw [(packTm_reads packed field).sourceData, isSource, pus20Records, List.length_map,
    List.flatMap_map]
  rfl

/-! ### What it sets -/

/-- Both pools hold the parameter, with one type, and the second may write it. -/
def HeldWritable (reporting target : Datapool) (id : UInt16) : Prop :=
  ∃ param held, datapoolFind reporting id = some param ∧ datapoolFind target id = some held ∧
    held.value.type = param.value.type ∧ held.access = .readWrite

theorem lastSetFor_const {id : UInt16} {value : DpValue} {sets : List (UInt16 × DpValue)}
    (named : ∃ set ∈ sets, set.1 = id) (same : ∀ set ∈ sets, set.1 = id → set.2 = value) :
    lastSetFor id sets = some value := by
  induction sets using List.reverseRecOn with
  | nil => simp at named
  | append_singleton earlier last inductionHypothesis =>
      rw [lastSetFor_concat]
      by_cases here : last.1 = id
      · rw [if_pos here, same last (by simp) here]
      · rw [if_neg here]
        apply inductionHypothesis
        · obtain ⟨set, member, isId⟩ := named
          rcases List.mem_append.mp member with inEarlier | isLast
          · exact ⟨set, inEarlier, isId⟩
          · rw [List.mem_singleton.mp isLast] at isId
            exact absurd isId here
        · intro set member
          exact same set (List.mem_append_left _ member)

theorem lastSetFor_none {id : UInt16} {sets : List (UInt16 × DpValue)}
    (elsewhere : ∀ set ∈ sets, set.1 ≠ id) : lastSetFor id sets = none := by
  have nothing : sets.reverse.find? (fun set => set.1 == id) = none := by
    rw [List.find?_eq_none]
    intro set member
    rw [beq_iff_eq]
    exact elsewhere set (List.mem_reverse.mp member)
  rw [lastSetFor, nothing, Option.map_none]

/-- Writing a parameter with its own value changes no parameter. -/
theorem datapoolSet_own {dp : Datapool} {param : DpParam}
    (found : datapoolFind dp param.id = some param) (access : param.access = .readWrite) :
    (datapoolSet dp param.id param.value).2.params = dp.params := by
  have loop (params : List DpParam)
      (first : params.find? (fun other => other.id == param.id) = some param) :
      datapoolSetLoop param.id param.value params = .ok params := by
    induction params with
    | nil => simp at first
    | cons head rest inductionHypothesis =>
        rw [List.find?_cons] at first
        rw [datapoolSetLoop]
        split at first
        · obtain rfl := Option.some.inj first
          rw [if_neg (not_not.mpr rfl), if_neg (not_not.mpr rfl), if_neg (not_not.mpr access)]
        · rename_i notHere
          rw [if_pos (by simpa using notHere), inductionHypothesis first]
  rw [datapoolSet, loop dp.params found]

theorem pus20Apply_own {dp : Datapool} {params : List DpParam}
    (found : ∀ param ∈ params, datapoolFind dp param.id = some param)
    (writable : ∀ param ∈ params, param.access = .readWrite) :
    (pus20Apply dp (params.map DpParam.record)).params = dp.params := by
  induction params generalizing dp with
  | nil => rfl
  | cons param rest inductionHypothesis =>
      have own := datapoolSet_own (found param List.mem_cons_self)
        (writable param List.mem_cons_self)
      have lookup (id : UInt16) :
          datapoolFind (datapoolSet dp param.id param.value).2 id = datapoolFind dp id := by
        rw [datapoolFind, own, datapoolFind]
      rw [List.map_cons, pus20Apply, List.foldl_cons, ← pus20Apply, DpParam.record,
        inductionHypothesis, own]
      · intro other member
        rw [lookup]
        exact found other (List.mem_cons_of_mem _ member)
      · intro other member
        exact writable other (List.mem_cons_of_mem _ member)

/-- The records of parameters found in one pool are a set request of another that
holds them and may write them. -/
theorem setRequest_records {reporting target : Datapool} {params : List DpParam}
    (found : ∀ param ∈ params, datapoolFind reporting param.id = some param)
    (held : ∀ param ∈ params, HeldWritable reporting target param.id)
    (counted : params.length < 256) (within : params.length ≤ cfg.pus20MaxParamsPerTc) :
    SetRequest cfg target (pus20Records params) (params.map DpParam.record) := by
  constructor
  · rfl
  · rw [List.length_map]
    exact counted
  · rw [List.length_map]
    exact within
  · intro set member
    obtain ⟨param, inParams, rfl⟩ := List.mem_map.mp member
    obtain ⟨reported, here, lookup, heldThere, sameType, access⟩ := held param inParams
    rw [found param inParams, Option.some.injEq] at lookup
    subst lookup
    exact ⟨here, heldThere, sameType.symm, access⟩

/-- The named parameters have the reporting pool's values, and nothing else has
changed. -/
structure ValuesTaken (reporting target : Datapool) (ids : List UInt16)
    (result : Except Pus20Status (Option TmOut) × Datapool) : Prop where
  accepted : result.1 = .ok none
  held : ∀ id ∈ ids, ∃ value, datapoolGet reporting id = .ok value
  values : ∀ id ∈ ids, datapoolGet result.2 id = datapoolGet reporting id
  others : ∀ id, id ∉ ids → datapoolGet result.2 id = datapoolGet target id
  shapes : shapesOf result.2.params = shapesOf target.params

/-- A set request is carried out. -/
theorem pus20Execute_sets {request : TmRequest} {counters : PusCounters} {dp : Datapool}
    {app : List UInt8} {sets : List (UInt16 × DpValue)} (named : SetRequest cfg dp app sets) :
    pus20Execute cfg request counters dp pus20SubtypeSetRequest app =
      (.ok none, pus20Apply dp sets) := by
  have executed : pus20Execute cfg request counters dp pus20SubtypeSetRequest app =
      ((pus20Set cfg dp app).1.map fun _ => none, (pus20Set cfg dp app).2) := rfl
  rw [executed, pus20Set, pus20DecodeSets_iff.mpr named]
  rfl

theorem valuesTaken_of_records {reporting target : Datapool} {params : List DpParam}
    {request : TmRequest} {counters : PusCounters}
    (found : ∀ param ∈ params, datapoolFind reporting param.id = some param)
    (named : SetRequest cfg target (pus20Records params) (params.map DpParam.record)) :
    ValuesTaken reporting target (params.map DpParam.id)
      (pus20Execute cfg request counters target pus20SubtypeSetRequest (pus20Records params)) := by
  have applied := pus20Apply_applied (params.map DpParam.record) named.admitted
  have value (param : DpParam) (member : param ∈ params) :
      datapoolGet reporting param.id = .ok param.value := by
    rw [datapoolGet, found param member]
  rw [pus20Execute_sets named]
  constructor
  · rfl
  · intro id member
    obtain ⟨param, inParams, rfl⟩ := List.mem_map.mp member
    exact ⟨param.value, value param inParams⟩
  · intro id member
    obtain ⟨param, inParams, rfl⟩ := List.mem_map.mp member
    have last : lastSetFor param.id (params.map DpParam.record) = some param.value := by
      apply lastSetFor_const
      · exact ⟨param.record, List.mem_map_of_mem inParams, rfl⟩
      · intro set setMember isId
        obtain ⟨other, otherMember, rfl⟩ := List.mem_map.mp setMember
        -- a parameter named twice is found twice, and is the same parameter
        have same := found other otherMember
        rw [show other.id = param.id from isId, found param inParams, Option.some.injEq] at same
        rw [same]
        rfl
    rw [applied.values, last, value param inParams]
  · intro id elsewhere
    rw [applied.values, lastSetFor_none]
    intro set member isId
    obtain ⟨param, inParams, rfl⟩ := List.mem_map.mp member
    exact elsewhere (isId ▸ List.mem_map_of_mem inParams)
  · exact applied.shapes

/-- For any request that names writable parameters and is answered. -/
theorem pus20Execute_report_inverse {request setRequest : TmRequest}
    {counters setCounters : PusCounters} {dp : Datapool} {app : List UInt8} {out : TmOut}
    (writable : ∀ id ∈ pus20NamedIds app, ∀ param, datapoolFind dp id = some param →
      param.access = .readWrite)
    (reported : (pus20Execute cfg request counters dp pus20SubtypeReportRequest app).1 =
      .ok (some out)) :
    (∀ target, (∀ id ∈ pus20NamedIds app, HeldWritable dp target id) →
      ValuesTaken dp target (pus20NamedIds app)
        (pus20Execute cfg setRequest setCounters target pus20SubtypeSetRequest
          (tmSourceData out.packet))) ∧
    (pus20Execute cfg setRequest setCounters dp pus20SubtypeSetRequest
      (tmSourceData out.packet)).1 = .ok none ∧
    (pus20Execute cfg setRequest setCounters dp pus20SubtypeSetRequest
      (tmSourceData out.packet)).2.params = dp.params := by
  have built : pus20Report cfg request counters dp app = .ok out := by
    have executed : (pus20Execute cfg request counters dp pus20SubtypeReportRequest app).1 =
        (pus20Report cfg request counters dp app).map some := rfl
    rw [executed] at reported
    cases result : pus20Report cfg request counters dp app with
    | error status =>
        rw [result] at reported
        contradiction
    | ok packet =>
        rw [result] at reported
        rw [Option.some.inj (Except.ok.inj reported)]
  obtain ⟨params, sourceData, collected, counted, source⟩ := pus20Report_source built
  obtain ⟨ids, found⟩ := pus20Collect_found collected
  have within := (pus20Collect_size collected).1
  have names (param : DpParam) (member : param ∈ params) : param.id ∈ pus20NamedIds app :=
    ids ▸ List.mem_map_of_mem member
  rw [source]
  constructor
  · intro target held
    rw [← ids]
    apply valuesTaken_of_records found
    apply setRequest_records found _ counted within
    intro param member
    exact held param.id (names param member)
  · have access (param : DpParam) (member : param ∈ params) : param.access = .readWrite :=
      writable param.id (names param member) param (found param member)
    have named : SetRequest cfg dp (pus20Records params) (params.map DpParam.record) := by
      apply setRequest_records found _ counted within
      intro param member
      exact ⟨param, param, found param member, found param member, rfl, access param member⟩
    rw [pus20Execute_sets named]
    exact ⟨rfl, pus20Apply_own found access⟩

/-- A float that is no number and a negative integer, the first of them twice. -/
theorem pus20Execute_report_inverse_mixed :
    let counters : PusCounters := ⟨7, #v[0, 0, 0, 0], #v[0, 0, 0, 0], 0, 0, 0, 0, 0⟩
    let reporting : Datapool := ⟨[⟨1, .readWrite, .f32 0x7FC00001⟩, ⟨2, .readWrite, .i16 (-2)⟩], 0⟩
    let target : Datapool := ⟨[⟨2, .readWrite, .i16 5⟩, ⟨3, .readOnly, .u8 9⟩,
      ⟨1, .readWrite, .f32 0⟩], 4⟩
    let report : List UInt8 := [8, 5, 192, 7, 0, 28, 32, 20, 2, 0, 0, 0, 0, 0, 0, 100,
      3, 0, 1, 127, 192, 0, 1, 0, 2, 255, 254, 0, 1, 127, 192, 0, 1, 250, 245]
    let after := pus20Execute defaultConfig ⟨5, 101, 0, 64⟩ counters target
      pus20SubtypeSetRequest (tmSourceData report)
    ValuesTaken reporting target [1, 2, 1] after ∧
      datapoolGet after.2 1 = .ok (.f32 0x7FC00001) := by
  intro counters reporting target report after
  have reported : (pus20Execute defaultConfig ⟨5, 100, 0, 64⟩ counters reporting
      pus20SubtypeReportRequest [3, 0, 1, 0, 2, 0, 1]).1 =
        .ok (some ⟨report, counters.commit .valueReport⟩) := by
    decide +kernel
  have named : pus20NamedIds [3, 0, 1, 0, 2, 0, 1] = [1, 2, 1] := by decide
  have either : ∀ id ∈ pus20NamedIds [3, 0, 1, 0, 2, 0, 1], id = 1 ∨ id = 2 := by
    rw [named]
    simp
  have writable : ∀ id ∈ pus20NamedIds [3, 0, 1, 0, 2, 0, 1], ∀ param,
      datapoolFind reporting id = some param → param.access = .readWrite := by
    intro id member param found
    rcases either id member with rfl | rfl
    · rw [← Option.some.inj found]
    · rw [← Option.some.inj found]
  have held : ∀ id ∈ pus20NamedIds [3, 0, 1, 0, 2, 0, 1], HeldWritable reporting target id := by
    intro id member
    rcases either id member with rfl | rfl
    · exact ⟨_, _, rfl, rfl, rfl, rfl⟩
    · exact ⟨_, _, rfl, rfl, rfl, rfl⟩
  have taken : ValuesTaken reporting target [1, 2, 1] after :=
    (pus20Execute_report_inverse writable reported).1 target held
  exact ⟨taken, taken.values 1 (by decide)⟩

end FswCore
