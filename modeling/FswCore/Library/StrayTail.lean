import FswCore.Library.RecordStream

/-!
Contract: any octet string as a record stream with stray octets behind it.

Owns:
- `frontRecord`, the record an octet string begins with, and that it is the one
  whose encoding the string begins with;
- `wholeRecords` and `strayTail`, the records read off the front one after the
  other, and the octets left when no record begins there;
- a record written behind a stray tail is read exactly when the octets repeat
  the tail, so that it begins where the tail began.
-/

namespace Library

open BigEndian

/-! ### The record in front -/

/-- The record at the front, if its length field stays inside the string. -/
def frontRecord : List UInt8 → Option Record
  | tag :: high :: low :: rest =>
      if (get16 high low).toNat ≤ rest.length then
        some (tag, rest.take (get16 high low).toNat)
      else none
  | _ => none

theorem frontRecord_encode {record : Record} (fits : record.2.length < 65536)
    (behind : List UInt8) : frontRecord (encodeRecord record ++ behind) = some record := by
  obtain ⟨tag, body⟩ := record
  have len : (UInt16.ofNat body.length).toNat = body.length := by
    rw [UInt16.toNat_ofNat', Nat.mod_eq_of_lt fits]
  rw [encodeRecord, put16]
  simp only [List.cons_append, List.nil_append, frontRecord]
  rw [get16_put16, len, if_pos (by simp), List.take_left]

/-- The front record is the one whose encoding the string begins with. -/
theorem frontRecord_eq_some_iff {bytes : List UInt8} {record : Record} :
    frontRecord bytes = some record ↔
      record.2.length < 65536 ∧ encodeRecord record <+: bytes := by
  constructor
  · intro found
    match bytes with
    | [] | [_] | [_, _] => simp [frontRecord] at found
    | tag :: high :: low :: rest =>
        rw [frontRecord] at found
        split at found
        · rename_i inside
          obtain rfl := Option.some.inj found
          have bodyLength : (rest.take (get16 high low).toNat).length =
              (get16 high low).toNat := by rw [List.length_take, Nat.min_eq_left inside]
          refine ⟨?_, rest.drop (get16 high low).toNat, ?_⟩
          · rw [bodyLength]
            exact UInt16.toNat_lt _
          · rw [encodeRecord, bodyLength, UInt16.ofNat_toNat, put16_get16]
            simp
        · contradiction
  · rintro ⟨fits, behind, rfl⟩
    exact frontRecord_encode fits behind

theorem frontRecord_length {bytes : List UInt8} {record : Record}
    (found : frontRecord bytes = some record) : 3 + record.2.length ≤ bytes.length := by
  have isFront := (frontRecord_eq_some_iff.mp found).2.length_le
  rwa [encodeRecord_length] at isFront

@[simp] theorem frontRecord_nil : frontRecord [] = none := rfl

/-- Octets that begin no record, with room for a length field: it points past them. -/
theorem length_lt_of_stray {tail : List UInt8} (stray : frontRecord tail = none)
    (room : 3 ≤ tail.length) : tail.length < 3 + (be16At tail 1).toNat := by
  match tail with
  | [] | [_] | [_, _] => simp at room
  | tag :: high :: low :: rest =>
      rw [frontRecord] at stray
      split at stray
      · contradiction
      · rename_i outside
        have read : be16At (tag :: high :: low :: rest) 1 = get16 high low := rfl
        rw [read, List.length_cons, List.length_cons, List.length_cons]
        omega

/-! ### Whole records and what is left -/

/-- Records are read off the front until none begins there. -/
def splitRecords (bytes : List UInt8) : List Record × List UInt8 :=
  match found : frontRecord bytes with
  | none => ([], bytes)
  | some record =>
      let behind := splitRecords (bytes.drop (3 + record.2.length))
      (record :: behind.1, behind.2)
termination_by bytes.length
decreasing_by
  have inside := frontRecord_length found
  rw [List.length_drop]
  omega

def wholeRecords (bytes : List UInt8) : List Record := (splitRecords bytes).1

def strayTail (bytes : List UInt8) : List UInt8 := (splitRecords bytes).2

theorem splitRecords_none {bytes : List UInt8} (stray : frontRecord bytes = none) :
    splitRecords bytes = ([], bytes) := by
  rw [splitRecords]
  split
  · rfl
  · rename_i found
    rw [stray] at found
    contradiction

theorem splitRecords_some {bytes : List UInt8} {record : Record}
    (front : frontRecord bytes = some record) :
    splitRecords bytes =
      (record :: (splitRecords (bytes.drop (3 + record.2.length))).1,
        (splitRecords (bytes.drop (3 + record.2.length))).2) := by
  rw [splitRecords]
  split
  · rename_i found
    rw [front] at found
    contradiction
  · rename_i other found
    rw [front] at found
    obtain rfl := Option.some.inj found
    rfl

/-- The whole records and the tail are the string. -/
theorem encodeRecords_wholeRecords (bytes : List UInt8) :
    encodeRecords (wholeRecords bytes) ++ strayTail bytes = bytes := by
  induction bytes using splitRecords.induct with
  | case1 bytes stray => simp [wholeRecords, strayTail, splitRecords_none stray]
  | case2 bytes record front inductionHypothesis =>
      obtain ⟨fits, behind, rfl⟩ := frontRecord_eq_some_iff.mp front
      rw [wholeRecords, strayTail] at inductionHypothesis
      rw [wholeRecords, strayTail, splitRecords_some front, encodeRecords_cons,
        List.append_assoc, inductionHypothesis, ← encodeRecord_length, List.drop_left]

theorem frontRecord_strayTail (bytes : List UInt8) : frontRecord (strayTail bytes) = none := by
  induction bytes using splitRecords.induct with
  | case1 bytes stray => rwa [strayTail, splitRecords_none stray]
  | case2 bytes record front inductionHypothesis =>
      rwa [strayTail, splitRecords_some front]

theorem wholeRecords_of_stray {bytes : List UInt8} (stray : frontRecord bytes = none) :
    wholeRecords bytes = [] := by rw [wholeRecords, splitRecords_none stray]

/-- What is read behind a packed stream does not depend on the stream. -/
theorem wholeRecords_append {records : List Record} (rest : List UInt8)
    (fits : ∀ record ∈ records, record.2.length < 65536) :
    wholeRecords (encodeRecords records ++ rest) = records ++ wholeRecords rest := by
  induction records with
  | nil => rfl
  | cons record others inductionHypothesis =>
      have next := inductionHypothesis fun other member =>
        fits other (List.mem_cons_of_mem record member)
      have front := frontRecord_encode (fits record List.mem_cons_self)
        (encodeRecords others ++ rest)
      rw [wholeRecords] at next
      rw [encodeRecords_cons, List.append_assoc, wholeRecords, splitRecords_some front,
        ← encodeRecord_length, List.drop_left, next, List.cons_append]

/-! ### A record behind a stray tail -/

/-- A string too short for a record does not hold one with its body. -/
theorem lookupTag_behind_short {tag : UInt8} {body bytes : List UInt8}
    (short : bytes.length < 3 + body.length) :
    lookupTag tag (wholeRecords bytes) ≠ some body := by
  intro found
  cases tagSplit tag (wholeRecords bytes) with
  | absent _ lookup _ =>
      rw [lookup] at found
      contradiction
  | present before stored after split _ lookup _ =>
      rw [lookup] at found
      obtain rfl := Option.some.inj found
      have total := congrArg List.length (encodeRecords_wholeRecords bytes)
      rw [split, encodeRecords_append, encodeRecords_cons] at total
      simp only [List.length_append, encodeRecord_length] at total
      omega

/-- A record appended to a tail that begins none is found exactly when the whole
begins with it: a record in front of it ends behind the tail, and leaves too few
octets for its body. -/
theorem lookupTag_append_stray {tail : List UInt8} (stray : frontRecord tail = none)
    {tag : UInt8} {body : List UInt8} (fits : body.length < 65536) :
    lookupTag tag (wholeRecords (tail ++ encodeRecord (tag, body))) = some body ↔
      encodeRecord (tag, body) <+: tail ++ encodeRecord (tag, body) := by
  constructor
  · intro found
    cases front : frontRecord (tail ++ encodeRecord (tag, body)) with
    | none =>
        rw [wholeRecords_of_stray front] at found
        contradiction
    | some record =>
        by_cases same : record = (tag, body)
        · rw [same] at front
          exact (frontRecord_eq_some_iff.mp front).2
        exfalso
        -- the front record reaches past the tail
        have recordFits := frontRecord_eq_some_iff.mp front
        have past : tail.length < 3 + record.2.length := by
          by_contra inside
          have within : encodeRecord record <+: tail := by
            apply List.prefix_of_prefix_length_le recordFits.2 (List.prefix_append _ _)
            rw [encodeRecord_length]
            exact Nat.le_of_not_lt inside
          rw [frontRecord_eq_some_iff.mpr ⟨recordFits.1, within⟩] at stray
          contradiction
        rw [wholeRecords, splitRecords_some front, lookupTag] at found
        by_cases isTag : record.1 = tag
        · rw [if_pos isTag] at found
          exact same (Prod.ext isTag (Option.some.inj found))
        · rw [if_neg isTag] at found
          refine lookupTag_behind_short ?_ found
          have inside := frontRecord_length front
          simp only [List.length_append, List.length_drop, encodeRecord_length] at inside ⊢
          omega
  · intro isFront
    have front := frontRecord_eq_some_iff.mpr ⟨fits, isFront⟩
    rw [wholeRecords, splitRecords_some front, lookupTag, if_pos rfl]

end Library
