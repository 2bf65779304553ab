import FswCore.Library.BigEndian
import Mathlib.Data.List.Nodup
import Mathlib.Data.List.Perm.Subperm

/-!
Contract: tagged records packed into one octet string.

Owns:
- `encodeRecords`, each record as its tag, its body's length in 16 bits, its body;
- `lookupTag` and `replaceTag`, the map from tags to bodies such a stream stands
  for: a replaced record is removed where it was and appended at the end;
- the laws of that map when no tag occurs twice;
- a size budget for each tag, and the space a stream within budget takes.

Does not own: the walk over the octets, which is the program's.
-/

namespace Library

open BigEndian

abbrev Record := UInt8 × List UInt8

def encodeRecord (record : Record) : List UInt8 :=
  record.1 :: put16 (UInt16.ofNat record.2.length) ++ record.2

def encodeRecords (records : List Record) : List UInt8 := records.flatMap encodeRecord

@[simp] theorem encodeRecord_length (record : Record) :
    (encodeRecord record).length = 3 + record.2.length := by
  simp [encodeRecord]
  omega

@[simp] theorem encodeRecords_append (left right : List Record) :
    encodeRecords (left ++ right) = encodeRecords left ++ encodeRecords right :=
  List.flatMap_append

@[simp] theorem encodeRecords_cons (record : Record) (rest : List Record) :
    encodeRecords (record :: rest) = encodeRecord record ++ encodeRecords rest := rfl

@[simp] theorem encodeRecords_nil : encodeRecords [] = [] := rfl

theorem length_le_encodeRecords (records : List Record) :
    records.length ≤ (encodeRecords records).length := by
  induction records with
  | nil => exact Nat.le_refl _
  | cons record rest inductionHypothesis =>
      rw [encodeRecords_cons, List.length_append, encodeRecord_length, List.length_cons]
      omega

def tagsOf (records : List Record) : List UInt8 := records.map (·.1)

/-- Body of the first record with this tag. -/
def lookupTag (tag : UInt8) : List Record → Option (List UInt8)
  | [] => none
  | record :: rest => if record.1 = tag then some record.2 else lookupTag tag rest

/-- The records without the first one of this tag. -/
def eraseTag (tag : UInt8) : List Record → List Record
  | [] => []
  | record :: rest => if record.1 = tag then rest else record :: eraseTag tag rest

def replaceTag (tag : UInt8) (body : List UInt8) (records : List Record) : List Record :=
  eraseTag tag records ++ [(tag, body)]

/-- A stream with this tag splits at its first occurrence. -/
inductive TagSplit (tag : UInt8) (records : List Record) : Prop where
  | absent (noTag : tag ∉ tagsOf records) (lookup : lookupTag tag records = none)
      (erased : eraseTag tag records = records)
  | present (before : List Record) (body : List UInt8) (after : List Record)
      (split : records = before ++ (tag, body) :: after) (noTag : tag ∉ tagsOf before)
      (lookup : lookupTag tag records = some body)
      (erased : eraseTag tag records = before ++ after)

theorem tagSplit (tag : UInt8) (records : List Record) : TagSplit tag records := by
  induction records with
  | nil => exact .absent (by simp [tagsOf]) rfl rfl
  | cons record rest inductionHypothesis =>
      by_cases here : record.1 = tag
      · subst here
        exact .present [] record.2 rest rfl (by simp [tagsOf]) (by simp [lookupTag])
          (by simp [eraseTag])
      · have notHere : tag ≠ record.1 := fun same => here same.symm
        cases inductionHypothesis with
        | absent noTag lookup erased =>
            refine .absent ?_ (by simp [lookupTag, here, lookup]) (by simp [eraseTag, here, erased])
            simpa [tagsOf, notHere] using noTag
        | present before body after split noTag lookup erased =>
            refine .present (record :: before) body after (by rw [split]; rfl) ?_
              (by simp [lookupTag, here, lookup]) (by simp [eraseTag, here, erased])
            simpa [tagsOf, notHere] using noTag

theorem lookupTag_append (tag : UInt8) (left right : List Record) :
    lookupTag tag (left ++ right) = (lookupTag tag left).or (lookupTag tag right) := by
  induction left with
  | nil => rfl
  | cons record rest inductionHypothesis =>
      rw [List.cons_append, lookupTag, lookupTag, inductionHypothesis]
      split <;> rfl

theorem lookupTag_eq_none {tag : UInt8} {records : List Record} (noTag : tag ∉ tagsOf records) :
    lookupTag tag records = none := by
  cases tagSplit tag records with
  | absent _ lookup _ => exact lookup
  | present before body after split _ _ _ =>
      rw [split] at noTag
      simp [tagsOf] at noTag

theorem lookupTag_eraseTag_other {tag other : UInt8} (different : other ≠ tag)
    (records : List Record) : lookupTag other (eraseTag tag records) = lookupTag other records := by
  induction records with
  | nil => rfl
  | cons record rest inductionHypothesis =>
      rw [eraseTag]
      split
      · rename_i here
        rw [lookupTag, if_neg fun same => different (same.symm.trans here)]
      · rw [lookupTag, lookupTag, inductionHypothesis]

theorem eraseTag_sublist (tag : UInt8) (records : List Record) :
    (eraseTag tag records).Sublist records := by
  induction records with
  | nil => exact List.Sublist.refl _
  | cons record rest inductionHypothesis =>
      rw [eraseTag]
      split
      · exact List.sublist_cons_self _ _
      · exact inductionHypothesis.cons_cons record

/-- The tag does not occur twice. -/
def TagOnce (tag : UInt8) (records : List Record) : Prop := (tagsOf records).count tag ≤ 1

theorem tagOnce_of_nodup {records : List Record} (distinct : (tagsOf records).Nodup)
    (tag : UInt8) : TagOnce tag records := List.nodup_iff_count_le_one.mp distinct tag

theorem TagOnce.notMem_eraseTag {tag : UInt8} {records : List Record}
    (once : TagOnce tag records) : tag ∉ tagsOf (eraseTag tag records) := by
  cases tagSplit tag records with
  | absent noTag _ erased => rwa [erased]
  | present before body after split noTag _ erased =>
      rw [TagOnce, split, tagsOf, List.map_append, List.map_cons, List.count_append,
        List.count_cons_self] at once
      rw [erased, tagsOf, List.map_append, List.mem_append, not_or]
      exact ⟨noTag, List.count_eq_zero.mp (by omega)⟩

/-- The replaced body is the one found. -/
theorem TagOnce.lookupTag_replaceTag {tag : UInt8} {records : List Record}
    (once : TagOnce tag records) (body : List UInt8) :
    lookupTag tag (replaceTag tag body records) = some body := by
  rw [replaceTag, lookupTag_append, lookupTag_eq_none once.notMem_eraseTag]
  simp [lookupTag]

theorem TagOnce.eraseTag {tag : UInt8} {records : List Record} (once : TagOnce tag records)
    (erased : UInt8) : TagOnce tag (eraseTag erased records) :=
  Nat.le_trans (((eraseTag_sublist erased records).map _).count_le tag) once

theorem TagOnce.replaceTag {tag replaced : UInt8} {records : List Record}
    (once : TagOnce tag records) (onceReplaced : TagOnce replaced records) (body : List UInt8) :
    TagOnce tag (replaceTag replaced body records) := by
  rw [TagOnce, Library.replaceTag, tagsOf, List.map_append, List.count_append]
  by_cases same : tag = replaced
  · subst same
    rw [← tagsOf, List.count_eq_zero.mpr onceReplaced.notMem_eraseTag]
    simp
  · have absent : List.count tag [replaced] = 0 := by simp [Ne.symm same]
    rw [List.map_singleton, absent]
    exact once.eraseTag replaced

theorem lookupTag_replaceTag_other {tag other : UInt8} (different : other ≠ tag)
    (body : List UInt8) (records : List Record) :
    lookupTag other (replaceTag tag body records) = lookupTag other records := by
  rw [replaceTag, lookupTag_append, lookupTag_eraseTag_other different]
  simp [lookupTag, Ne.symm different]

theorem nodup_tagsOf_replaceTag {tag : UInt8} {records : List Record}
    (distinct : (tagsOf records).Nodup) (body : List UInt8) :
    (tagsOf (replaceTag tag body records)).Nodup := by
  rw [replaceTag, tagsOf, List.map_append]
  refine List.Nodup.append (distinct.sublist ((eraseTag_sublist tag records).map _))
    (List.nodup_singleton _) ?_
  exact List.disjoint_singleton.mpr (tagOnce_of_nodup distinct tag).notMem_eraseTag

/-! ### Size budgets -/

/-- No tag occurs twice, each is in the list, and its body is within budget. -/
structure WithinBudget (tags : List UInt8) (budget : UInt8 → Nat) (records : List Record) :
    Prop where
  distinct : (tagsOf records).Nodup
  known : ∀ record ∈ records, record.1 ∈ tags
  body_le : ∀ record ∈ records, record.2.length ≤ budget record.1

variable {tags : List UInt8} {budget : UInt8 → Nat} {records : List Record}

theorem withinBudget_nil : WithinBudget tags budget [] := ⟨by simp [tagsOf], by simp, by simp⟩

theorem WithinBudget.replaceTag (within : WithinBudget tags budget records) {tag : UInt8}
    (known : tag ∈ tags) {body : List UInt8} (fits : body.length ≤ budget tag) :
    WithinBudget tags budget (replaceTag tag body records) := by
  have split (record : Record) (member : record ∈ Library.replaceTag tag body records) :
      record ∈ records ∨ record = (tag, body) := by
    rcases List.mem_append.mp member with old | new
    · exact .inl ((eraseTag_sublist tag records).subset old)
    · exact .inr (List.mem_singleton.mp new)
  refine ⟨nodup_tagsOf_replaceTag within.distinct body, ?_, ?_⟩
  · intro record member
    rcases split record member with old | rfl
    · exact within.known record old
    · exact known
  · intro record member
    rcases split record member with old | rfl
    · exact within.body_le record old
    · exact fits

theorem sublist_sum_le {left right : List Nat} (sublist : left.Sublist right) :
    left.sum ≤ right.sum := by
  induction sublist with
  | slnil => exact Nat.le_refl _
  | cons value _ inductionHypothesis =>
      rw [List.sum_cons]
      omega
  | cons_cons value _ inductionHypothesis =>
      rw [List.sum_cons, List.sum_cons]
      omega

/-- A stream within budget takes at most what all its tags may take. -/
theorem WithinBudget.length_le (within : WithinBudget tags budget records) :
    (encodeRecords records).length ≤ (tags.map fun tag => 3 + budget tag).sum := by
  have bodies : (encodeRecords records).length ≤
      ((tagsOf records).map fun tag => 3 + budget tag).sum := by
    have body_le := within.body_le
    clear within
    induction records with
    | nil => simp
    | cons record rest inductionHypothesis =>
        have head := body_le record (List.mem_cons_self ..)
        have others := inductionHypothesis fun other member =>
          body_le other (List.mem_cons_of_mem _ member)
        simp only [encodeRecords_cons, List.length_append, encodeRecord_length, tagsOf,
          List.map_cons, List.sum_cons] at others ⊢
        omega
  have subset : tagsOf records ⊆ tags := by
    intro tag member
    obtain ⟨record, isRecord, rfl⟩ := List.mem_map.mp member
    exact within.known record isRecord
  obtain ⟨arranged, perm, sublist⟩ := List.subperm_of_subset within.distinct subset
  have rearranged := (perm.map fun tag => 3 + budget tag).sum_nat
  have fewer := sublist_sum_le (sublist.map fun tag => 3 + budget tag)
  omega

end Library
