import FswCore.Library.StrayTail
import FswCore.Nvstore.LoadSave

/-!
Contract: the payload as a map from record types to bodies.

Owns:
- that a put, on any payload, stays in the buffer and leaves the anchor of the
  loaded image alone;
- `HoldsRecords`, a payload that is a packed record stream, and `HoldsUpTo`, one
  with stray octets behind it, as every payload is;
- get reads the valid part of the buffer only, and is the lookup in it; put
  replaces the record, or reports that the result would not fit and drops the
  old one all the same.
-/

namespace FswCore

open Library Library.BigEndian

/-! ### Puts leave the anchor alone -/

theorem nvstoreLocateLoop_found {store : Nvstore} {recordType : UInt8} {fuel start off total : Nat}
    (found : nvstoreLocateLoop store recordType fuel start = .found off total) :
    off + total ≤ store.payloadLen := by
  induction fuel generalizing start with
  | zero => simp [nvstoreLocateLoop] at found
  | succ fuel inductionHypothesis =>
      rw [nvstoreLocateLoop] at found
      split at found
      · simp only at found
        split at found
        · contradiction
        rename_i inside
        split at found
        · obtain ⟨rfl, rfl⟩ := NvLocated.found.inj found
          exact Nat.le_of_not_lt inside
        · exact inductionHypothesis found
      · contradiction

theorem nvstoreLocateLoop_total {store : Nvstore} {recordType : UInt8} {fuel start off total : Nat}
    (found : nvstoreLocateLoop store recordType fuel start = .found off total) :
    nvstoreRecordOverhead ≤ total := by
  induction fuel generalizing start with
  | zero => simp [nvstoreLocateLoop] at found
  | succ fuel inductionHypothesis =>
      rw [nvstoreLocateLoop] at found
      split at found
      · simp only at found
        split at found
        · contradiction
        split at found
        · obtain ⟨rfl, rfl⟩ := NvLocated.found.inj found
          exact Nat.le_add_right _ _
        · exact inductionHypothesis found
      · contradiction

/-- The fields a put does not touch. -/
structure SameAnchor (store after : Nvstore) : Prop where
  loaded : after.loaded = store.loaded
  loadedSeq : after.loadedSeq = store.loadedSeq
  loadedSector : after.loadedSector = store.loadedSector

theorem SameAnchor.trans {first second third : Nvstore} (left : SameAnchor first second)
    (right : SameAnchor second third) : SameAnchor first third where
  loaded := right.loaded.trans left.loaded
  loadedSeq := right.loadedSeq.trans left.loadedSeq
  loadedSector := right.loadedSector.trans left.loadedSector

theorem nvstoreDrop_anchor (store : Nvstore) (recordType : UInt8) :
    SameAnchor store (nvstoreDrop store recordType) := by
  unfold nvstoreDrop
  split
  · exact ⟨rfl, rfl, rfl⟩
  · exact ⟨rfl, rfl, rfl⟩

theorem nvstorePut_anchor (store : Nvstore) (recordType : UInt8) (bytes : List UInt8) :
    SameAnchor store (nvstorePut store recordType bytes).2 := by
  have anchor := nvstoreDrop_anchor store recordType
  by_cases full : (nvstoreDrop store recordType).payloadLen + nvstoreRecordOverhead +
      bytes.length > nvstorePayloadMax
  · simp only [nvstorePut, if_pos full]
    exact anchor
  · simp only [nvstorePut, if_neg full]
    exact ⟨anchor.loaded, anchor.loadedSeq, anchor.loadedSector⟩

theorem nvstoreDrop_sized {store : Nvstore} (sized : store.Sized) (recordType : UInt8) :
    (nvstoreDrop store recordType).Sized := by
  unfold nvstoreDrop
  split
  · refine ⟨?_, ?_⟩
    · rw [copyDown_length, sized.buffer]
    · exact Nat.le_trans (Nat.sub_le _ _) sized.len_le
  · exact sized

theorem nvstorePut_sized {store : Nvstore} (sized : store.Sized) (recordType : UInt8)
    (bytes : List UInt8) : (nvstorePut store recordType bytes).2.Sized := by
  have dropped := nvstoreDrop_sized sized recordType
  by_cases full : (nvstoreDrop store recordType).payloadLen + nvstoreRecordOverhead +
      bytes.length > nvstorePayloadMax
  · simp only [nvstorePut, if_pos full]
    exact dropped
  · simp only [nvstorePut, if_neg full]
    refine ⟨?_, Nat.le_of_not_lt full⟩
    simp only [nvstoreRecordOverhead] at full
    have buffer := dropped.buffer
    rw [patch_length _ (by simp; omega), buffer]

def nvstorePuts (store : Nvstore) (records : List (UInt8 × List UInt8)) : Nvstore :=
  records.foldl (fun store record => (nvstorePut store record.1 record.2).2) store

theorem nvstorePuts_anchor {store : Nvstore} (sized : store.Sized)
    (records : List (UInt8 × List UInt8)) :
    (nvstorePuts store records).Sized ∧ SameAnchor store (nvstorePuts store records) := by
  induction records generalizing store with
  | nil => exact ⟨sized, rfl, rfl, rfl⟩
  | cons record rest inductionHypothesis =>
      obtain ⟨restSized, restAnchor⟩ :=
        inductionHypothesis (nvstorePut_sized sized record.1 record.2)
      exact ⟨restSized, (nvstorePut_anchor store record.1 record.2).trans restAnchor⟩

/-! ### The payload as records -/

/-- The payload is the packed form of `records`. -/
structure HoldsRecords (store : Nvstore) (records : List Record) : Prop where
  sized : store.Sized
  payload : nvPayload store = encodeRecords records

theorem HoldsRecords.payloadLen {store : Nvstore} {records : List Record}
    (holds : HoldsRecords store records) :
    store.payloadLen = (encodeRecords records).length := by
  rw [← holds.payload, nvPayload_length holds.sized]

/-- The payload begins with `records`, and what stands behind them begins none. -/
structure HoldsUpTo (store : Nvstore) (records : List Record) (tail : List UInt8) : Prop where
  sized : store.Sized
  payload : nvPayload store = encodeRecords records ++ tail
  stray : frontRecord tail = none

theorem HoldsRecords.upTo {store : Nvstore} {records : List Record}
    (holds : HoldsRecords store records) : HoldsUpTo store records [] where
  sized := holds.sized
  payload := holds.payload.trans (List.append_nil _).symm
  stray := frontRecord_nil

/-- Every payload is of this form. -/
theorem holdsUpTo_whole {store : Nvstore} (sized : store.Sized) :
    HoldsUpTo store (wholeRecords (nvPayload store)) (strayTail (nvPayload store)) where
  sized := sized
  payload := (encodeRecords_wholeRecords _).symm
  stray := frontRecord_strayTail _

theorem HoldsUpTo.payloadLen {store : Nvstore} {records : List Record} {tail : List UInt8}
    (holds : HoldsUpTo store records tail) :
    store.payloadLen = (encodeRecords records).length + tail.length := by
  rw [← List.length_append, ← holds.payload, nvPayload_length holds.sized]

/-- No stored body is longer than its length field can say. -/
theorem HoldsUpTo.body_lt {store : Nvstore} {before after : List Record} {tag : UInt8}
    {body tail : List UInt8} (holds : HoldsUpTo store (before ++ (tag, body) :: after) tail) :
    body.length < 65536 := by
  have total := holds.payloadLen
  have limit := holds.sized.len_le
  simp only [encodeRecords_append, encodeRecords_cons, List.length_append, encodeRecord_length]
    at total
  simp only [nvstorePayloadMax] at limit
  omega

/-! ### The record walk -/

theorem getD_nvPayload {store : Nvstore} {index : Nat} (below : index < store.payloadLen) :
    (nvPayload store).getD index 0 = store.payload.getD index 0 := getD_take below

theorem be16At_nvPayload {store : Nvstore} {off : Nat} (inside : off + 2 ≤ store.payloadLen) :
    be16At (nvPayload store) off = be16At store.payload off := be16At_take inside

/-- A window that ends inside the valid part. -/
theorem window_nvPayload {store : Nvstore} {off count : Nat}
    (inside : off + count ≤ store.payloadLen) :
    window store.payload off count = window (nvPayload store) off count := by
  rw [window, window, nvPayload, List.drop_take, List.take_take, Nat.min_eq_left]
  omega

/-- The record at the walk's position, as its octets give it. -/
theorem record_at {store : Nvstore} {before after : List Record} {tag : UInt8}
    {body tail : List UInt8} (holds : HoldsUpTo store (before ++ (tag, body) :: after) tail) :
    (encodeRecords before).length + 3 + body.length ≤ store.payloadLen ∧
      store.payload.getD (encodeRecords before).length 0 = tag ∧
      (be16At store.payload ((encodeRecords before).length + 1)).toNat = body.length ∧
      window store.payload ((encodeRecords before).length + 3) body.length = body := by
  have total := holds.payloadLen
  have bodyLt := holds.body_lt
  have payload := holds.payload
  simp only [encodeRecords_append, encodeRecords_cons, List.length_append, encodeRecord_length]
    at total payload
  refine ⟨by omega, ?_, ?_, ?_⟩
  · rw [← getD_nvPayload (by omega), payload]
    simp [encodeRecord]
  · have read := be16At_append (encodeRecords before ++ [tag])
      (body ++ (encodeRecords after ++ tail)) (UInt16.ofNat body.length)
    rw [← be16At_nvPayload (by omega), payload,
      show encodeRecords before ++ (encodeRecord (tag, body) ++ encodeRecords after) ++ tail =
        encodeRecords before ++ [tag] ++ put16 (UInt16.ofNat body.length) ++
          (body ++ (encodeRecords after ++ tail)) by simp [encodeRecord]]
    rw [List.length_append, List.length_singleton] at read
    rw [read, UInt16.toNat_ofNat', Nat.mod_eq_of_lt bodyLt]
  · rw [window_nvPayload (by omega), payload]
    have read := window_append (encodeRecords before ++ tag :: put16 (UInt16.ofNat body.length))
      body (encodeRecords after ++ tail)
    simpa [encodeRecord, Nat.add_assoc] using read

/-- The walk from a record boundary passes over records of other types. -/
theorem nvstoreLocateLoop_skip {store : Nvstore} {recordType : UInt8} {tail : List UInt8}
    (skipped : List Record) :
    ∀ (before after : List Record) (fuel : Nat),
      HoldsUpTo store (before ++ skipped ++ after) tail → recordType ∉ tagsOf skipped →
      nvstoreLocateLoop store recordType (fuel + skipped.length) (encodeRecords before).length =
        nvstoreLocateLoop store recordType fuel (encodeRecords (before ++ skipped)).length := by
  induction skipped with
  | nil => intro before after fuel _ _; simp
  | cons record rest inductionHypothesis =>
      intro before after fuel holds noTag
      obtain ⟨tag, body⟩ := record
      simp only [tagsOf, List.map_cons, List.mem_cons, not_or] at noTag
      have reassociated : before ++ (tag, body) :: rest ++ after =
          before ++ [(tag, body)] ++ rest ++ after := by simp
      have holdsHere : HoldsUpTo store (before ++ (tag, body) :: (rest ++ after)) tail := by
        simpa using holds
      obtain ⟨inside, tagRead, lenRead, _⟩ := record_at holdsHere
      have next := inductionHypothesis (before ++ [(tag, body)]) after fuel
        (reassociated ▸ holds) noTag.2
      have start : (encodeRecords (before ++ [(tag, body)])).length =
          (encodeRecords before).length + (3 + body.length) := by simp
      rw [List.length_cons, ← Nat.add_assoc, nvstoreLocateLoop]
      simp only [nvstoreRecordOverhead, tagRead, lenRead]
      rw [if_pos (by omega), if_neg (by omega), if_neg fun same => noTag.1 same.symm, ← start,
        next]
      simp

/-- Behind the records the walk stops: the tail is too short for a header, or its
length field points past it. -/
theorem nvstoreLocateLoop_tail {store : Nvstore} {records : List Record} {tail : List UInt8}
    (holds : HoldsUpTo store records tail) (recordType : UInt8) (fuel off total : Nat) :
    nvstoreLocateLoop store recordType fuel (encodeRecords records).length ≠
      .found off total := by
  intro found
  have len := holds.payloadLen
  cases fuel with
  | zero =>
      rw [nvstoreLocateLoop] at found
      contradiction
  | succ fuel =>
      rw [nvstoreLocateLoop] at found
      by_cases room : (encodeRecords records).length + nvstoreRecordOverhead ≤ store.payloadLen
      · rw [if_pos room] at found
        rw [nvstoreRecordOverhead] at room
        have lenRead : be16At store.payload ((encodeRecords records).length + 1) =
            be16At tail 1 := by
          rw [← be16At_nvPayload (by omega), holds.payload, be16At, be16At, Nat.add_assoc,
            getD_append_add, getD_append_add]
        have outside := length_lt_of_stray holds.stray (by omega)
        simp only [nvstoreRecordOverhead, lenRead] at found
        rw [if_pos (by omega)] at found
        contradiction
      · rw [if_neg room] at found
        contradiction

theorem nvstoreLocate_absent {store : Nvstore} {records : List Record} {tail : List UInt8}
    {recordType : UInt8} (holds : HoldsUpTo store records tail)
    (noTag : recordType ∉ tagsOf records) (off total : Nat) :
    nvstoreLocate store recordType ≠ .found off total := by
  have len := holds.payloadLen
  have enough := length_le_encodeRecords records
  have skip := nvstoreLocateLoop_skip records [] [] (store.payloadLen - records.length)
    (by simpa using holds) noTag
  rw [Nat.sub_add_cancel (by omega), encodeRecords_nil, List.length_nil, List.nil_append] at skip
  rw [nvstoreLocate, skip]
  exact nvstoreLocateLoop_tail holds recordType _ off total

theorem nvstoreLocate_present {store : Nvstore} {before after : List Record}
    {recordType : UInt8} {body tail : List UInt8}
    (holds : HoldsUpTo store (before ++ (recordType, body) :: after) tail)
    (noTag : recordType ∉ tagsOf before) :
    nvstoreLocate store recordType = .found (encodeRecords before).length (3 + body.length) := by
  obtain ⟨inside, tagRead, lenRead, _⟩ := record_at holds
  have enough := length_le_encodeRecords before
  have skip := nvstoreLocateLoop_skip before [] ((recordType, body) :: after)
    (store.payloadLen - before.length - 1 + 1) holds noTag
  rw [show store.payloadLen - before.length - 1 + 1 + before.length = store.payloadLen by omega,
    encodeRecords_nil, List.length_nil, List.nil_append] at skip
  rw [nvstoreLocate, skip, nvstoreLocateLoop]
  simp only [nvstoreRecordOverhead, tagRead, lenRead]
  rw [if_pos (by omega), if_neg (by omega), if_pos trivial]

/-! ### Get, drop and put -/

/-- The walk reads the valid part of the buffer only. -/
theorem nvstoreLocate_congr {left right : Nvstore} (leftSized : left.Sized)
    (rightSized : right.Sized) (same : nvPayload left = nvPayload right) (recordType : UInt8) :
    nvstoreLocate left recordType = nvstoreLocate right recordType := by
  have lengths : left.payloadLen = right.payloadLen := by
    rw [← nvPayload_length leftSized, ← nvPayload_length rightSized, same]
  have octet {index : Nat} (below : index < right.payloadLen) :
      left.payload.getD index 0 = right.payload.getD index 0 := by
    rw [← getD_nvPayload (by omega), same, getD_nvPayload below]
  have walk (fuel off : Nat) :
      nvstoreLocateLoop left recordType fuel off = nvstoreLocateLoop right recordType fuel off := by
    induction fuel generalizing off with
    | zero => rfl
    | succ fuel inductionHypothesis =>
        rw [nvstoreLocateLoop, nvstoreLocateLoop, lengths]
        split
        · rename_i inside
          rw [nvstoreRecordOverhead] at inside
          have length : be16At left.payload (off + 1) = be16At right.payload (off + 1) := by
            rw [← be16At_nvPayload (by omega), same, be16At_nvPayload (by omega)]
          simp only [octet (show off < right.payloadLen by omega), length, inductionHypothesis]
        · rfl
  rw [nvstoreLocate, nvstoreLocate, lengths, walk]

/-- A get reads the valid part of the buffer only. -/
theorem nvstoreGet_congr {left right : Nvstore} (leftSized : left.Sized) (rightSized : right.Sized)
    (same : nvPayload left = nvPayload right) (recordType : UInt8) :
    nvstoreGet left recordType = nvstoreGet right recordType := by
  have lengths : left.payloadLen = right.payloadLen := by
    rw [← nvPayload_length leftSized, ← nvPayload_length rightSized, same]
  rw [nvstoreGet, nvstoreGet, nvstoreLocate_congr leftSized rightSized same]
  split
  · rename_i off total found
    have inside := nvstoreLocateLoop_found found
    have atLeast := nvstoreLocateLoop_total found
    have end_le : off + nvstoreRecordOverhead + (total - nvstoreRecordOverhead) ≤
        right.payloadLen := by omega
    rw [window_nvPayload (lengths ▸ end_le), window_nvPayload end_le, same]
  · rfl

/-- Get is the lookup in the records. -/
theorem nvstoreGet_upTo {store : Nvstore} {records : List Record} {tail : List UInt8}
    (holds : HoldsUpTo store records tail) (recordType : UInt8) :
    nvstoreGet store recordType =
      match lookupTag recordType records with
      | some body => .ok body
      | none => .error .errNotFound := by
  cases tagSplit recordType records with
  | absent noTag lookup _ =>
      rw [nvstoreGet, lookup]
      split
      · rename_i off total found
        exact absurd found (nvstoreLocate_absent holds noTag off total)
      · rfl
  | present before body after split noTag lookup _ =>
      subst split
      obtain ⟨_, _, _, bodyRead⟩ := record_at holds
      rw [nvstoreGet, nvstoreLocate_present holds noTag, lookup]
      simp only [nvstoreRecordOverhead, Nat.add_sub_cancel_left]
      rw [bodyRead]

theorem nvstoreGet_eq {store : Nvstore} {records : List Record}
    (holds : HoldsRecords store records) (recordType : UInt8) :
    nvstoreGet store recordType =
      match lookupTag recordType records with
      | some body => .ok body
      | none => .error .errNotFound := nvstoreGet_upTo holds.upTo recordType

/-- A drop cuts the record's octets out of the valid part. -/
theorem nvPayload_drop {store : Nvstore} (sized : store.Sized) {recordType : UInt8}
    {off total : Nat} (located : nvstoreLocate store recordType = .found off total) :
    nvPayload (nvstoreDrop store recordType) =
      (nvPayload store).take off ++ (nvPayload store).drop (off + total) := by
  have inside := nvstoreLocateLoop_found located
  have buffer := sized.buffer
  have limit := sized.len_le
  have newLen : store.payloadLen - total = off + (store.payloadLen - off - total) := by omega
  have back : window store.payload (off + total) (store.payloadLen - off - total) =
      (nvPayload store).drop (off + total) := by
    rw [window, nvPayload, List.drop_take, Nat.sub_sub]
  simp only [nvstoreDrop, located]
  rw [nvPayload, newLen, take_copyDown (by omega) (by omega), back, nvPayload, List.take_take,
    Nat.min_eq_left (by omega)]

/-- A put appends its record behind what a drop left, if there is room. -/
theorem nvPayload_put {store : Nvstore} (sized : store.Sized) (recordType : UInt8)
    (bytes : List UInt8) :
    nvPayload (nvstorePut store recordType bytes).2 =
      if (nvPayload (nvstoreDrop store recordType)).length + nvstoreRecordOverhead +
          bytes.length > nvstorePayloadMax then
        nvPayload (nvstoreDrop store recordType)
      else nvPayload (nvstoreDrop store recordType) ++ encodeRecord (recordType, bytes) := by
  have dropped := nvstoreDrop_sized sized recordType
  have buffer := dropped.buffer
  rw [nvPayload_length dropped]
  by_cases full : (nvstoreDrop store recordType).payloadLen + nvstoreRecordOverhead +
      bytes.length > nvstorePayloadMax
  · simp only [nvstorePut, if_pos full]
  · simp only [nvstorePut, if_neg full]
    have inside : (nvstoreDrop store recordType).payloadLen ≤
        (nvstoreDrop store recordType).payload.length := by
      rw [buffer]
      exact dropped.len_le
    have patched := take_patch _ (encodeRecord (recordType, bytes)) inside
    rw [encodeRecord_length, ← Nat.add_assoc] at patched
    exact patched

/-- A drop takes the first record of the type out, whatever stands behind the
records. -/
theorem nvstoreDrop_upTo {store : Nvstore} {records : List Record} {tail : List UInt8}
    (holds : HoldsUpTo store records tail) (recordType : UInt8) :
    HoldsUpTo (nvstoreDrop store recordType) (eraseTag recordType records) tail := by
  refine ⟨nvstoreDrop_sized holds.sized recordType, ?_, holds.stray⟩
  cases tagSplit recordType records with
  | absent noTag _ erased =>
      rw [nvstoreDrop, erased]
      split
      · rename_i off total found
        exact absurd found (nvstoreLocate_absent holds noTag off total)
      · exact holds.payload
  | present before body after split noTag _ erased =>
      subst split
      have payload := holds.payload
      rw [encodeRecords_append, encodeRecords_cons] at payload
      have front : (encodeRecords before ++ encodeRecord (recordType, body)).length =
          (encodeRecords before).length + (3 + body.length) := by
        rw [List.length_append, encodeRecord_length]
      rw [nvPayload_drop holds.sized (nvstoreLocate_present holds noTag), erased, payload,
        encodeRecords_append, List.append_assoc, List.take_left, ← front, List.append_assoc,
        ← List.append_assoc, List.drop_left, List.append_assoc]

theorem nvstoreDrop_holds {store : Nvstore} {records : List Record}
    (holds : HoldsRecords store records) (recordType : UInt8) :
    HoldsRecords (nvstoreDrop store recordType) (eraseTag recordType records) := by
  have dropped := nvstoreDrop_upTo holds.upTo recordType
  exact ⟨dropped.sized, dropped.payload.trans (List.append_nil _)⟩

/-- Put replaces the record, or finds no room and has dropped the old one. -/
theorem nvstorePut_holds {store : Nvstore} {records : List Record}
    (holds : HoldsRecords store records) (recordType : UInt8) (bytes : List UInt8) :
    if (encodeRecords (replaceTag recordType bytes records)).length ≤ nvstorePayloadMax then
      (nvstorePut store recordType bytes).1 = .ok ∧
        HoldsRecords (nvstorePut store recordType bytes).2 (replaceTag recordType bytes records)
    else
      (nvstorePut store recordType bytes).1 = .errFull ∧
        HoldsRecords (nvstorePut store recordType bytes).2 (eraseTag recordType records) := by
  have dropped := nvstoreDrop_holds holds recordType
  have size : (encodeRecords (replaceTag recordType bytes records)).length =
      (nvstoreDrop store recordType).payloadLen + nvstoreRecordOverhead + bytes.length := by
    rw [dropped.payloadLen, replaceTag, encodeRecords_append, List.length_append,
      encodeRecords_cons, encodeRecords_nil, List.append_nil, encodeRecord_length,
      nvstoreRecordOverhead, Nat.add_assoc]
  rw [size]
  have appended := nvPayload_put holds.sized recordType bytes
  rw [nvPayload_length dropped.sized] at appended
  by_cases fits : (nvstoreDrop store recordType).payloadLen + nvstoreRecordOverhead +
      bytes.length ≤ nvstorePayloadMax
  · have notFull := Nat.not_lt.mpr fits
    rw [if_pos fits]
    refine ⟨?_, nvstorePut_sized holds.sized recordType bytes, ?_⟩
    · simp only [nvstorePut, if_neg notFull]
    · rw [appended, if_neg notFull, dropped.payload, replaceTag, encodeRecords_append,
        encodeRecords_cons, encodeRecords_nil, List.append_nil]
  · rw [if_neg fits]
    simp only [nvstorePut, if_pos (Nat.lt_of_not_le fits), true_and]
    exact dropped

end FswCore
