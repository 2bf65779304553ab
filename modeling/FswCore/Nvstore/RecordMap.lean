import FswCore.Nvstore.Records

/-!
Contract: the payload as a map from record types to bodies, over runs of puts.

Owns:
- every run of puts leaves a packed record stream with one record for a type;
- a put that succeeds sets its own type and no other;
- when a put that finds no room leaves the payload as it was.

Does not own: the walk over the octets, which is in `Records`.
-/

namespace FswCore

open Library

/-- A packed record stream in which no type occurs twice. -/
structure HoldsMap (store : Nvstore) (records : List Record) : Prop where
  holds : HoldsRecords store records
  distinct : (tagsOf records).Nodup

theorem nodup_tagsOf_eraseTag {records : List Record} (distinct : (tagsOf records).Nodup)
    (tag : UInt8) : (tagsOf (eraseTag tag records)).Nodup :=
  distinct.sublist ((eraseTag_sublist tag records).map _)

namespace HoldsMap

variable {store : Nvstore} {records : List Record}

/-- A put that succeeds has replaced the record of its type. -/
theorem put_ok (map : HoldsMap store records) {recordType : UInt8} {bytes : List UInt8}
    (isOk : (nvstorePut store recordType bytes).1 = .ok) :
    HoldsMap (nvstorePut store recordType bytes).2 (replaceTag recordType bytes records) := by
  have done := nvstorePut_holds map.holds recordType bytes
  split at done
  · exact ⟨done.2, nodup_tagsOf_replaceTag map.distinct bytes⟩
  · rw [done.1] at isOk
    contradiction

/-- Whatever a put returns, the payload is such a stream again. -/
theorem put (map : HoldsMap store records) (recordType : UInt8) (bytes : List UInt8) :
    ∃ now, HoldsMap (nvstorePut store recordType bytes).2 now := by
  have done := nvstorePut_holds map.holds recordType bytes
  split at done
  · exact ⟨_, done.2, nodup_tagsOf_replaceTag map.distinct bytes⟩
  · exact ⟨_, done.2, nodup_tagsOf_eraseTag map.distinct recordType⟩

theorem puts (map : HoldsMap store records) (written : List (UInt8 × List UInt8)) :
    ∃ now, HoldsMap (nvstorePuts store written) now := by
  induction written generalizing store records with
  | nil => exact ⟨records, map⟩
  | cons record rest inductionHypothesis =>
      obtain ⟨now, next⟩ := map.put record.1 record.2
      exact inductionHypothesis next

/-- The map law of one put. -/
theorem get_put (map : HoldsMap store records) {recordType : UInt8} {bytes : List UInt8}
    (isOk : (nvstorePut store recordType bytes).1 = .ok) :
    nvstoreGet (nvstorePut store recordType bytes).2 recordType = .ok bytes ∧
      ∀ other, other ≠ recordType →
        nvstoreGet (nvstorePut store recordType bytes).2 other = nvstoreGet store other := by
  have next := map.put_ok isOk
  constructor
  · rw [nvstoreGet_eq next.holds, (tagOnce_of_nodup map.distinct recordType).lookupTag_replaceTag]
  · intro other different
    rw [nvstoreGet_eq next.holds, nvstoreGet_eq map.holds, lookupTag_replaceTag_other different]

end HoldsMap

/-- From any packed stream with distinct types, over every run of puts: the payload
stays one, within its maximum, and a put that succeeds is a map update. -/
theorem nvstorePuts_recordMap {store : Nvstore} {records : List Record}
    (map : HoldsMap store records) (written : List (UInt8 × List UInt8)) :
    (∃ now, HoldsMap (nvstorePuts store written) now ∧
        (encodeRecords now).length ≤ nvstorePayloadMax) ∧
      ∀ recordType bytes,
        (nvstorePut (nvstorePuts store written) recordType bytes).1 = .ok →
          nvstoreGet (nvstorePut (nvstorePuts store written) recordType bytes).2 recordType =
              .ok bytes ∧
            ∀ other, other ≠ recordType →
              nvstoreGet (nvstorePut (nvstorePuts store written) recordType bytes).2 other =
                nvstoreGet (nvstorePuts store written) other := by
  obtain ⟨now, reached⟩ := map.puts written
  refine ⟨⟨now, reached, ?_⟩, fun recordType bytes => reached.get_put⟩
  rw [← reached.holds.payloadLen]
  exact reached.holds.sized.len_le

theorem nvstoreZero_holds : HoldsRecords nvstoreZero [] where
  sized := ⟨List.length_replicate, Nat.zero_le _⟩
  payload := by simp [nvPayload, nvstoreZero]

/-- A record replaced by an empty one, in front of another. -/
theorem nvstorePuts_recordMap_empty :
    let written : List (UInt8 × List UInt8) := [(1, [7, 8]), (2, [9])]
    nvstoreGet (nvstorePut (nvstorePuts nvstoreZero written) 1 []).2 1 = .ok [] ∧
      ∀ other, other ≠ 1 →
        nvstoreGet (nvstorePut (nvstorePuts nvstoreZero written) 1 []).2 other =
          nvstoreGet (nvstorePuts nvstoreZero written) other := by
  intro written
  have start : HoldsMap nvstoreZero [] := ⟨nvstoreZero_holds, List.nodup_nil⟩
  exact (nvstorePuts_recordMap start written).2 1 [] (by decide +kernel)

/-! ### Puts that find no room -/

/-- What a put that finds no room has to leave. -/
structure PutKeepsPayload (store : Nvstore) (recordType : UInt8) (bytes : List UInt8) : Prop where
  payloadLen : (nvstorePut store recordType bytes).2.payloadLen = store.payloadLen
  payload : nvPayload (nvstorePut store recordType bytes).2 = nvPayload store
  get : nvstoreGet (nvstorePut store recordType bytes).2 recordType = nvstoreGet store recordType

/-- Erasing a record shortens the stream. -/
theorem length_eraseTag_lt {tag : UInt8} {records : List Record} (stored : tag ∈ tagsOf records) :
    (encodeRecords (eraseTag tag records)).length < (encodeRecords records).length := by
  cases tagSplit tag records with
  | absent noTag _ _ => exact absurd stored noTag
  | present before body after split _ _ erased =>
      rw [erased, split, encodeRecords_append, encodeRecords_append, encodeRecords_cons]
      simp only [List.length_append, encodeRecord_length]
      omega

theorem eraseTag_of_notMem {tag : UInt8} {records : List Record}
    (notStored : tag ∉ tagsOf records) :
    eraseTag tag records = records := by
  cases tagSplit tag records with
  | absent _ _ erased => exact erased
  | present before body after split _ _ _ =>
      rw [split] at notStored
      simp [tagsOf] at notStored

/-- A put that finds no room leaves the payload alone exactly when no record of its
type was stored. -/
theorem nvstorePut_full_iff {store : Nvstore} {records : List Record}
    (holds : HoldsRecords store records) {recordType : UInt8} {bytes : List UInt8}
    (full : (nvstorePut store recordType bytes).1 = .errFull) :
    PutKeepsPayload store recordType bytes ↔ recordType ∉ tagsOf records := by
  have dropped : HoldsRecords (nvstorePut store recordType bytes).2
      (eraseTag recordType records) := by
    have done := nvstorePut_holds holds recordType bytes
    split at done
    · rw [done.1] at full
      contradiction
    · exact done.2
  constructor
  · intro kept stored
    have sameLength := kept.payloadLen
    rw [dropped.payloadLen, holds.payloadLen] at sameLength
    exact Nat.ne_of_lt (length_eraseTag_lt stored) sameLength
  · intro notStored
    rw [eraseTag_of_notMem notStored] at dropped
    constructor
    · rw [dropped.payloadLen, holds.payloadLen]
    · rw [dropped.payload, holds.payload]
    · rw [nvstoreGet_eq dropped, nvstoreGet_eq holds]

/-- A record of another type is stored, and none of this type. -/
theorem nvstorePut_full_iff_absent :
    PutKeepsPayload (nvstorePut nvstoreZero 2 [9]).2 1 (List.replicate 1534 0) ↔
      (1 : UInt8) ∉ tagsOf [(2, [9])] := by
  have stored := nvstorePut_holds nvstoreZero_holds 2 [9]
  rw [if_pos (by decide)] at stored
  exact nvstorePut_full_iff stored.2 (by decide +kernel)

/-- A record outgrows the payload: the put reports that it does not fit, and the
stored record is gone. -/
theorem nvstorePut_full_drops :
    let store := (nvstorePut nvstoreZero 1 [7]).2
    (nvstorePut store 1 (List.replicate 1534 0)).1 = .errFull ∧
      nvstoreGet store 1 = .ok [7] ∧
      nvstoreGet (nvstorePut store 1 (List.replicate 1534 0)).2 1 = .error .errNotFound ∧
      ¬ PutKeepsPayload store 1 (List.replicate 1534 0) := by
  intro store
  have before : nvstoreGet store 1 = .ok [7] := by decide +kernel
  have after : nvstoreGet (nvstorePut store 1 (List.replicate 1534 0)).2 1 =
      .error .errNotFound := by decide +kernel
  have full : (nvstorePut store 1 (List.replicate 1534 0)).1 = .errFull := by decide +kernel
  refine ⟨full, before, after, ?_⟩
  intro kept
  have sameGet := kept.get
  rw [before, after] at sameGet
  cases sameGet

end FswCore
