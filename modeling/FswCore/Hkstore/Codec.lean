import FswCore.Hkstore.Invariant

/-!
Contract: the persisted image of the housekeeping store.

Owns:
- serialisation writes the count and the structures held, or reports a short
  buffer;
- the image of a well-formed store restores its structures, re-armed;
- over every run, the count written is the number of structures behind it, and
  what is written is read back as the same definitions and written again as the
  same bytes.
-/

namespace FswCore

open Library Library.BigEndian

/-- The layout of a serialised store. -/
def hkstoreImage (held : List HkStructure) : List UInt8 :=
  put16 (UInt16.ofNat held.length) ++ held.flatMap hkStructureImage

/-- What an image keeps of a structure: restored, it is due from now. -/
def HkStructure.rearmed (held : HkStructure) : HkStructure := { held with lastEmitSec := 0 }

@[simp] theorem hkStructureImage_length (held : HkStructure) :
    (hkStructureImage held).length = 8 + 2 * held.paramIds.length := by
  have params : (held.paramIds.flatMap put16).length = 2 * held.paramIds.length :=
    length_flatMap_eq fun id _ => put16_length id
  simp [hkStructureImage, params]
  omega

/-! ### Serialisation -/

theorem hkstoreSerializeLoop_eq (outCap : Nat) (slots : List (Option HkStructure))
    (out : List UInt8) (within : out.length ≤ outCap) :
    hkstoreSerializeLoop outCap slots out =
      if (out ++ (occupied slots).flatMap hkStructureImage).length ≤ outCap then
        .ok (out ++ (occupied slots).flatMap hkStructureImage)
      else .error .errBufTooSmall := by
  induction slots generalizing out with
  | nil => simp [hkstoreSerializeLoop, within]
  | cons slot rest inductionHypothesis =>
      cases slot with
      | none => exact inductionHypothesis out within
      | some held =>
          rw [hkstoreSerializeLoop, hkstoreWriteStruct, occupied_cons_some, List.flatMap_cons]
          by_cases short : outCap - out.length < 2 + 4 + 1 + 1 + 2 * held.paramIds.length
          · rw [if_pos short, if_neg (by
              simp only [List.length_append, hkStructureImage_length]
              omega)]
          · rw [if_neg short]
            simp only
            rw [inductionHypothesis _ (by simp; omega), List.append_assoc]

/-- Serialisation reads the count and the structures' images only. -/
theorem hkstoreSerialize_congr {store after : Hkstore} (count : after.count = store.count)
    (images : after.held.flatMap hkStructureImage = store.held.flatMap hkStructureImage)
    (outCap : Nat) : hkstoreSerialize after outCap = hkstoreSerialize store outCap := by
  rw [hkstoreSerialize, hkstoreSerialize, count]
  split
  · rfl
  · rename_i room
    have within : (put16 (UInt16.ofNat store.count)).length ≤ outCap := Nat.le_of_not_lt room
    rw [hkstoreSerializeLoop_eq outCap after.structures _ within,
      hkstoreSerializeLoop_eq outCap store.structures _ within]
    rw [Hkstore.held, Hkstore.held] at images
    rw [images]

theorem hkstoreSerialize_eq {cfg : Config} {store : Hkstore} (wellFormed : store.WellFormed cfg)
    (outCap : Nat) :
    hkstoreSerialize store outCap =
      if (hkstoreImage store.held).length ≤ outCap then .ok (hkstoreImage store.held)
      else .error .errBufTooSmall := by
  rw [hkstoreSerialize, wellFormed.count_eq]
  by_cases short : outCap < 2
  · rw [if_pos short, if_neg (by simp [hkstoreImage]; omega)]
  · rw [if_neg short, hkstoreSerializeLoop_eq _ _ _ (by simp; omega)]
    rfl

/-- An emission is not persisted: what is serialised stays the same. -/
theorem hkstoreSerialize_due (store : Hkstore) (nowSeconds : UInt32) (outCap : Nat) :
    hkstoreSerialize (hkstoreDue store nowSeconds).2 outCap = hkstoreSerialize store outCap := by
  rcases hkstoreDue_cases store nowSeconds with same | ⟨left, held, right, split, result⟩
  · rw [same]
  · rw [result]
    refine hkstoreSerialize_congr ?_ ?_ outCap
    · rfl
    simp only [Hkstore.held, split, occupied_append, occupied_cons_some, List.flatMap_append,
      List.flatMap_cons]
    rfl

theorem Hkstore.WellFormed.held_length_le {cfg : Config} {store : Hkstore}
    (wellFormed : store.WellFormed cfg) : store.held.length ≤ cfg.hkstoreCapacity :=
  wellFormed.slots ▸ occupied_length_le _

theorem hkstoreImage_length_le {cfg : Config} {held : List HkStructure}
    (bounded : ∀ one ∈ held, StructureBounded cfg one) :
    (hkstoreImage held).length ≤ 2 + (8 + 2 * cfg.hkstoreMaxParams) * held.length := by
  have body : (held.flatMap hkStructureImage).length ≤
      (8 + 2 * cfg.hkstoreMaxParams) * held.length := by
    apply length_flatMap_le
    intro one member
    have fits := (bounded one member).params_le
    rw [hkStructureImage_length]
    omega
  rw [hkstoreImage, List.length_append, put16_length]
  omega

/-! ### Restore -/

/-- A structure with a one-octet parameter count reads back, re-armed. -/
theorem hkstoreReadStruct_image {cfg : Config} {held : HkStructure}
    (bounded : StructureBounded cfg held) (encodable : held.paramIds.length < 256)
    (behind : List UInt8) :
    hkstoreReadStruct cfg (hkStructureImage held ++ behind) =
      .ok (held.rearmed, 8 + 2 * held.paramIds.length) := by
  have sid : be16At (hkStructureImage held ++ behind) 0 = held.sid := by
    have read := be16At_append [] (put32 held.intervalSec ++ [if held.enabled then 1 else 0] ++
      [UInt8.ofNat held.paramIds.length] ++ held.paramIds.flatMap put16 ++ behind) held.sid
    simpa [hkStructureImage] using read
  have interval : be32At (hkStructureImage held ++ behind) 2 = held.intervalSec := by
    have read := be32At_append (put16 held.sid) ([if held.enabled then 1 else 0] ++
      [UInt8.ofNat held.paramIds.length] ++ held.paramIds.flatMap put16 ++ behind)
      held.intervalSec
    simpa [hkStructureImage] using read
  have enabled : (hkStructureImage held ++ behind).getD 6 0 = if held.enabled then 1 else 0 := rfl
  have count : ((hkStructureImage held ++ behind).getD 7 0).toNat = held.paramIds.length := by
    have octet : (hkStructureImage held ++ behind).getD 7 0 =
      UInt8.ofNat held.paramIds.length := rfl
    rw [octet, UInt8.toNat_ofNat']
    exact Nat.mod_eq_of_lt encodable
  have params : (List.range held.paramIds.length).map (fun index =>
      be16At (hkStructureImage held ++ behind) (8 + 2 * index)) = held.paramIds := by
    have read := map_be16At_flatMap (put16 held.sid ++ put32 held.intervalSec ++
      [if held.enabled then 1 else 0] ++ [UInt8.ofNat held.paramIds.length]) behind held.paramIds
    exact read
  have flag : ((if held.enabled then (1 : UInt8) else 0) != 0) = held.enabled := by
    cases held.enabled <;> rfl
  rw [hkstoreReadStruct, if_neg (by simp; omega)]
  simp only [sid, interval, enabled, count, params, flag]
  rw [if_neg (UInt16.not_lt.mpr bounded.sidFloor),
    if_neg (Nat.not_lt.mpr bounded.params_le), if_neg (by simp)]
  rfl

theorem hkstoreDeserializeLoop_image {cfg : Config} (saved : List HkStructure)
    (bounded : ∀ held ∈ saved, StructureBounded cfg held)
    (encodable : ∀ held ∈ saved, held.paramIds.length < 256) (before behind : List UInt8)
    (restored : List HkStructure)
    (distinct : ((restored ++ saved).map (·.sid)).Nodup) :
    hkstoreDeserializeLoop cfg (before ++ saved.flatMap hkStructureImage ++ behind) saved.length
      before.length restored = .ok (restored ++ saved.map HkStructure.rearmed) := by
  induction saved generalizing before restored with
  | nil => simp [hkstoreDeserializeLoop]
  | cons held rest inductionHypothesis =>
      have head : (before ++ (held :: rest).flatMap hkStructureImage ++ behind).drop
          before.length = hkStructureImage held ++ (rest.flatMap hkStructureImage ++ behind) := by
        rw [List.append_assoc, List.drop_left, List.flatMap_cons, List.append_assoc]
      have fresh : (restored.any fun other => other.sid == held.rearmed.sid) = false := by
        rw [List.any_eq_false]
        intro other member same
        rw [List.map_append, List.map_cons, List.nodup_append] at distinct
        exact distinct.2.2 _ (List.mem_map_of_mem member) _ (List.mem_cons_self ..)
          (by simpa [HkStructure.rearmed] using same)
      have next := inductionHypothesis
        (fun other member => bounded other (List.mem_cons_of_mem _ member))
        (fun other member => encodable other (List.mem_cons_of_mem _ member))
        (before ++ hkStructureImage held) (restored ++ [held.rearmed])
        (by simpa [HkStructure.rearmed] using distinct)
      rw [List.length_cons, hkstoreDeserializeLoop, head,
        hkstoreReadStruct_image (bounded held (List.mem_cons_self ..))
          (encodable held (List.mem_cons_self ..))]
      simp only [fresh, Bool.false_eq_true, if_false]
      rw [List.length_append, hkStructureImage_length] at next
      rw [List.flatMap_cons, ← List.append_assoc before, next, List.append_assoc]
      rfl

theorem be16At_hkstoreImage {held : List HkStructure} (behind : List UInt8)
    (encodable : held.length < 65536) :
    (be16At (hkstoreImage held ++ behind) 0).toNat = held.length := by
  have read := be16At_append [] (held.flatMap hkStructureImage ++ behind)
    (UInt16.ofNat held.length)
  rw [hkstoreImage, List.append_assoc]
  apply (congrArg UInt16.toNat read).trans
  rw [UInt16.toNat_ofNat']
  exact Nat.mod_eq_of_lt encodable

/-- The image of a well-formed store restores its structures, packed in order. -/
theorem hkstoreDeserialize_image {cfg : Config} {store : Hkstore}
    (wellFormed : store.WellFormed cfg) (slots : cfg.hkstoreCapacity < 65536)
    (params : cfg.hkstoreMaxParams < 256) (behind : List UInt8) :
    hkstoreDeserialize cfg (hkstoreImage store.held ++ behind) = (.ok,
      { structures := (store.held.map HkStructure.rearmed).map some ++
          List.replicate (cfg.hkstoreCapacity - store.held.length) none
        count := store.held.length
        generation := 0 }) := by
  have inCapacity := wellFormed.held_length_le
  have count := be16At_hkstoreImage behind (Nat.lt_of_le_of_lt inCapacity slots)
  have decoded := hkstoreDeserializeLoop_image store.held wellFormed.bounded
    (fun held member => Nat.lt_of_le_of_lt (wellFormed.bounded held member).params_le params)
    (put16 (UInt16.ofNat store.held.length)) behind [] wellFormed.distinct
  rw [put16_length, ← hkstoreImage, List.nil_append] at decoded
  have header : ¬(hkstoreImage store.held ++ behind).length < 2 := by
    simp only [hkstoreImage, List.length_append, put16_length]
    omega
  rw [hkstoreDeserialize, if_neg header]
  simp only [count, decoded]
  rw [if_neg (Nat.not_lt.mpr inCapacity), List.length_map]

theorem hkstoreDeserialize_restores {cfg : Config} {store : Hkstore}
    (wellFormed : store.WellFormed cfg) (slots : cfg.hkstoreCapacity < 65536)
    (params : cfg.hkstoreMaxParams < 256) (behind : List UInt8) :
    ∃ restored, hkstoreDeserialize cfg (hkstoreImage store.held ++ behind) = (.ok, restored) ∧
      restored.held = store.held.map HkStructure.rearmed := by
  refine ⟨_, hkstoreDeserialize_image wellFormed slots params behind, ?_⟩
  rw [Hkstore.held, occupied_append, occupied_map_some, occupied_replicate_none, List.append_nil]

/-- The restored store answers every lookup as the saved one did, re-armed. -/
theorem hkstoreFind_rearmed {store restored : Hkstore}
    (held : restored.held = store.held.map HkStructure.rearmed) (sid : UInt16) :
    hkstoreFind restored sid = (hkstoreFind store sid).map HkStructure.rearmed := by
  rw [hkstoreFind_eq, hkstoreFind_eq, held, List.find?_map]
  rfl

/-! ### Every run -/

/-- What holds of a store between calls, and of whatever is serialised from it. -/
structure HkstoreInvariant (cfg : Config) (store : Hkstore) : Prop where
  distinct : (store.held.map (·.sid)).Nodup
  sidFloor : ∀ held ∈ store.held, hkstoreSidMin ≤ held.sid
  params_le : ∀ held ∈ store.held, held.paramIds.length ≤ cfg.hkstoreMaxParams
  count_eq : hkstoreCount store = store.held.length
  written : ∀ outCap bytes, hkstoreSerialize store outCap = .ok bytes →
    (be16At bytes 0).toNat = store.held.length ∧
      bytes.drop 2 = store.held.flatMap hkStructureImage

theorem Hkstore.WellFormed.invariant {cfg : Config} {store : Hkstore}
    (wellFormed : store.WellFormed cfg) (slots : cfg.hkstoreCapacity < 65536) :
    HkstoreInvariant cfg store where
  distinct := wellFormed.distinct
  sidFloor := fun held member => (wellFormed.bounded held member).sidFloor
  params_le := fun held member => (wellFormed.bounded held member).params_le
  count_eq := wellFormed.count_eq
  written := by
    intro outCap bytes serialised
    have encodable := Nat.lt_of_le_of_lt wellFormed.held_length_le slots
    have count := be16At_hkstoreImage [] encodable
    rw [List.append_nil] at count
    rw [hkstoreSerialize_eq wellFormed] at serialised
    split at serialised
    · rw [← Except.ok.inj serialised]
      exact ⟨count, rfl⟩
    · contradiction

/-- Any run of calls and restores, of any bytes; the count field holds two octets. -/
theorem hkstoreRun_invariant {cfg : Config} (slots : cfg.hkstoreCapacity < 65536)
    (events : List HkstoreEvent) : HkstoreInvariant cfg (hkstoreRun cfg events) :=
  (hkstoreRun_wellFormed cfg events).invariant slots

/-- A hole between two structures, then an image with the same identifier twice. -/
theorem hkstoreRun_invariant_hole :
    HkstoreInvariant defaultConfig (hkstoreRun defaultConfig
      [.call (.create 256 [1] 10), .call (.create 257 [2, 3] 20), .call (.delete 256),
        .restore [0, 2, 1, 0, 0, 0, 0, 5, 1, 0, 1, 0, 0, 0, 0, 5, 1, 0],
        .call (.create 258 [4] 5), .call (.setEnabled 258 true), .call (.due 9)]) :=
  hkstoreRun_invariant (by decide) _

/-! ### What a reached store restores -/

/-- The definition a store holds under one SID; when it was last emitted is not
part of it. -/
def hkstoreDefinition (store : Hkstore) (sid : UInt16) : Option (List UInt16 × UInt32 × Bool) :=
  (hkstoreFind store sid).map fun held => (held.paramIds, held.intervalSec, held.enabled)

/-- A decode that reports an error leaves the store as initialised. -/
theorem hkstoreDeserialize_failed {cfg : Config} {input : List UInt8}
    (rejected : (hkstoreDeserialize cfg input).1 ≠ .ok) :
    (hkstoreDeserialize cfg input).2 = hkstoreInit cfg := by
  rw [hkstoreDeserialize] at rejected ⊢
  split
  · rfl
  rename_i header
  rw [if_neg header] at rejected
  simp only at rejected ⊢
  split
  · rfl
  rename_i inCapacity
  rw [if_neg inCapacity] at rejected
  split
  · rfl
  · rename_i restored decoded
    rw [decoded] at rejected
    contradiction

/-- A store written out is read back with the same definitions, packed in slot
order, and written out again as the same bytes. -/
structure HkstoreReadsBack (cfg : Config) (store : Hkstore) (outCap : Nat) (image : List UInt8)
    (restored : Hkstore) : Prop where
  accepted : hkstoreDeserialize cfg image = (.ok, restored)
  definitions : ∀ sid, hkstoreDefinition restored sid = hkstoreDefinition store sid
  packed : restored.structures = (store.held.map HkStructure.rearmed).map some ++
    List.replicate (cfg.hkstoreCapacity - store.held.length) none
  writtenAgain : hkstoreSerialize restored outCap = .ok image

structure HkstoreCodecExact (cfg : Config) (store : Hkstore) : Prop where
  space : ∀ outCap, (∃ image, hkstoreSerialize store outCap = .ok image) ↔
    2 + (store.held.map fun held => 8 + 2 * held.paramIds.length).sum ≤ outCap
  restores : ∀ outCap image, hkstoreSerialize store outCap = .ok image →
    ∃ restored, HkstoreReadsBack cfg store outCap image restored
  rejects : ∀ input, (hkstoreDeserialize cfg input).1 ≠ .ok →
    (hkstoreDeserialize cfg input).2.held = [] ∧
      hkstoreCount (hkstoreDeserialize cfg input).2 = 0

theorem hkstoreImage_length (held : List HkStructure) :
    (hkstoreImage held).length =
      2 + (held.map fun one => 8 + 2 * one.paramIds.length).sum := by
  have body : (held.flatMap hkStructureImage).length =
      (held.map fun one => 8 + 2 * one.paramIds.length).sum := by
    rw [List.length_flatMap]
    congr 1
    apply List.map_congr_left
    intro one _
    exact hkStructureImage_length one
  rw [hkstoreImage, List.length_append, put16_length, body]

/-- Re-arming changes nothing an image shows. -/
theorem flatMap_hkStructureImage_rearmed (held : List HkStructure) :
    (held.map HkStructure.rearmed).flatMap hkStructureImage = held.flatMap hkStructureImage := by
  rw [List.flatMap_map]
  rfl

theorem Hkstore.WellFormed.readsBack {cfg : Config} {store : Hkstore}
    (wellFormed : store.WellFormed cfg) (slots : cfg.hkstoreCapacity < 65536)
    (params : cfg.hkstoreMaxParams < 256) {outCap : Nat} {image : List UInt8}
    (written : hkstoreSerialize store outCap = .ok image) :
    ∃ restored, HkstoreReadsBack cfg store outCap image restored := by
  have isImage : image = hkstoreImage store.held := by
    rw [hkstoreSerialize_eq wellFormed] at written
    split at written
    · exact (Except.ok.inj written).symm
    · contradiction
  obtain ⟨restored, accepted, held⟩ := hkstoreDeserialize_restores wellFormed slots params []
  have packed := accepted.symm.trans (hkstoreDeserialize_image wellFormed slots params [])
  rw [List.append_nil, ← isImage] at accepted
  have isRestored := congrArg Prod.snd packed
  refine ⟨restored, accepted, ?_, congrArg Hkstore.structures isRestored, ?_⟩
  · intro sid
    rw [hkstoreDefinition, hkstoreDefinition, hkstoreFind_rearmed held sid, Option.map_map]
    rfl
  · rw [← written]
    apply hkstoreSerialize_congr
    · exact (congrArg Hkstore.count isRestored).trans wellFormed.count_eq.symm
    · rw [held, flatMap_hkStructureImage_rearmed]

theorem Hkstore.WellFormed.codecExact {cfg : Config} {store : Hkstore}
    (wellFormed : store.WellFormed cfg) (slots : cfg.hkstoreCapacity < 65536)
    (params : cfg.hkstoreMaxParams < 256) : HkstoreCodecExact cfg store where
  space outCap := by
    rw [hkstoreSerialize_eq wellFormed, ← hkstoreImage_length]
    exact handedOut_iff
  restores outCap image written := wellFormed.readsBack slots params written
  rejects input rejected := by
    rw [hkstoreDeserialize_failed rejected]
    exact ⟨occupied_replicate_none _, rfl⟩

/-- Any run of calls and restores; the count holds two octets, a parameter count
one. -/
theorem hkstoreRun_codecExact {cfg : Config} (slots : cfg.hkstoreCapacity < 65536)
    (params : cfg.hkstoreMaxParams < 256) (events : List HkstoreEvent) :
    HkstoreCodecExact cfg (hkstoreRun cfg events) :=
  (hkstoreRun_wellFormed cfg events).codecExact slots params

/-- Holes before, between and behind the structures held. -/
theorem hkstoreRun_codecExact_holes :
    HkstoreCodecExact defaultConfig (hkstoreRun defaultConfig
      [.call (.create 256 [1] 10), .call (.create 257 [2, 3] 20), .call (.create 258 [4] 5),
        .call (.create 259 [5, 6, 7] 0), .call (.delete 256), .call (.delete 258),
        .call (.setEnabled 259 true), .call (.due 40)]) :=
  hkstoreRun_codecExact (by decide) (by decide) _

end FswCore
