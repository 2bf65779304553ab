import FswCore.Library.BigEndian
import FswCore.Library.Bytes

/-!
Contract: array code in which every access is checked.

Owns:
- reads, writes, addresses and subtractions that fail where they leave their array
  or their range;
- the loops over such accesses, and when they do not fail.

Does not own: what the code makes of the items.
-/

namespace Library

open BigEndian

inductive AccessFault where
  | read
  | write
  | address
  | underflow
deriving DecidableEq, Repr

universe u

variable {α β : Type u} {ι : Type*} {size : Nat}

@[simp] theorem checked_bind (value : α) (next : α → Except AccessFault β) :
    ((Except.ok value : Except AccessFault α) >>= next) = next value := rfl

/-! ### Accesses -/

def readAt (items : List α) (index : Nat) : Except AccessFault α :=
  match items[index]? with
  | none => .error .read
  | some item => .ok item

def writeAt (slots : Vector α size) (index : Nat) (item : α) : Except AccessFault (Vector α size) :=
  if inside : index < size then .ok (slots.set index item) else .error .write

/-- An address into a string; that of its end is one, and must not be read. -/
def addressOf (items : List α) (index : Nat) : Except AccessFault Nat :=
  if index ≤ items.length then .ok index else .error .address

def subtract (left right : Nat) : Except AccessFault Nat :=
  if left < right then .error .underflow else .ok (left - right)

/-- A 16-bit word, octet by octet. -/
def read16 (octets : List UInt8) (off : Nat) : Except AccessFault UInt16 := do
  let high ← readAt octets off
  let low ← readAt octets (off + 1)
  pure (get16 high low)

def read32 (octets : List UInt8) (off : Nat) : Except AccessFault UInt32 := do
  let first ← readAt octets off
  let second ← readAt octets (off + 1)
  let third ← readAt octets (off + 2)
  let fourth ← readAt octets (off + 3)
  pure (get32 first second third fourth)

theorem readAt_ok {items : List α} {index : Nat} (inside : index < items.length) (other : α) :
    readAt items index = .ok (items.getD index other) := by
  rw [readAt, List.getElem?_eq_getElem inside, List.getD_eq_getElem?_getD,
    List.getElem?_eq_getElem inside]
  rfl

theorem readAt_get {items : List α} {index : Nat} (inside : index < items.length) :
    readAt items index = .ok (items.get ⟨index, inside⟩) := by
  rw [readAt, List.getElem?_eq_getElem inside]
  rfl

theorem read16_ok {octets : List UInt8} {off : Nat} (inside : off + 2 ≤ octets.length) :
    read16 octets off = .ok (be16At octets off) := by
  rw [read16, readAt_ok (by omega) 0, readAt_ok (by omega) 0]
  rfl

theorem read32_ok {octets : List UInt8} {off : Nat} (inside : off + 4 ≤ octets.length) :
    read32 octets off = .ok (be32At octets off) := by
  rw [read32, readAt_ok (by omega) 0, readAt_ok (by omega) 0, readAt_ok (by omega) 0,
    readAt_ok (by omega) 0]
  rfl

theorem addressOf_ok {items : List α} {index : Nat} (inside : index ≤ items.length) :
    addressOf items index = .ok index := if_pos inside

theorem writeAt_ok {slots : Vector α size} {index : Nat} (inside : index < size) (item : α) :
    writeAt slots index item = .ok (slots.set index item) := dif_pos inside

theorem readAt_set_self {slots : Vector α size} {index : Nat} (inside : index < size) (item : α) :
    readAt (slots.set index item).toList index = .ok item := by
  have listed : index < slots.toList.length := by
    rw [Vector.length_toList]
    exact inside
  rw [readAt, Vector.toList_set, List.getElem?_set_self listed]

theorem readAt_set_ne {slots : Vector α size} {index other : Nat} (inside : index < size)
    (item : α) (differs : index ≠ other) :
    readAt (slots.set index item).toList other = readAt slots.toList other := by
  rw [readAt, readAt, Vector.toList_set, List.getElem?_set_ne differs]

theorem readAt_take {items : List α} {index count : Nat} (below : index < count) :
    readAt (items.take count) index = readAt items index := by
  rw [readAt, readAt, List.getElem?_take_of_lt below]

theorem subtract_ok {left right : Nat} (le : right ≤ left) :
    subtract left right = .ok (left - right) := if_neg (Nat.not_lt.mpr le)

/-! ### Arrays filled in order -/

/-- The first slots hold these items. -/
def Filled (slots : Vector α size) (items : List α) : Prop :=
  slots.toList.take items.length = items

theorem filled_nil (slots : Vector α size) : Filled slots [] := rfl

theorem Filled.length_le {slots : Vector α size} {items : List α} (filled : Filled slots items) :
    items.length ≤ size := by
  have held := congrArg List.length filled
  rw [List.length_take, Vector.length_toList] at held
  omega

theorem Filled.getElem? {slots : Vector α size} {items : List α} (filled : Filled slots items)
    {index : Nat} (below : index < items.length) : slots.toList[index]? = items[index]? := by
  have first := List.getElem?_take_of_lt (l := slots.toList) below
  rw [← first]
  exact congrArg (fun front : List α => front[index]?) filled

/-- A field of the entries an array was filled from. -/
theorem Filled.getD_map {slots : Vector α size} {entries : List ι} {field : ι → α}
    (filled : Filled slots (entries.map field)) {index : Nat} (below : index < entries.length)
    (other : α) : slots.toList.getD index other = field (entries.get ⟨index, below⟩) := by
  rw [List.getD_eq_getElem?_getD, filled.getElem? (by rw [List.length_map]; exact below),
    List.getElem?_map, List.getElem?_eq_getElem below]
  rfl

theorem Filled.readAt_map {slots : Vector α size} {entries : List ι} {field : ι → α}
    (filled : Filled slots (entries.map field)) {index : Nat} (below : index < entries.length) :
    readAt slots.toList index = .ok (field (entries.get ⟨index, below⟩)) := by
  rw [readAt, filled.getElem? (by rw [List.length_map]; exact below), List.getElem?_map,
    List.getElem?_eq_getElem below]
  rfl

/-- The next slot, while there is one. -/
theorem writeAt_filled {slots : Vector α size} {items : List α} (filled : Filled slots items)
    (room : items.length < size) (item : α) :
    ∃ after, writeAt slots items.length item = .ok after ∧ Filled after (items ++ [item]) := by
  refine ⟨slots.set items.length item, dif_pos room, ?_⟩
  rw [Filled, List.length_append, List.length_singleton, Vector.toList_set,
    take_set_succ (by rw [Vector.length_toList]; exact room), filled]

/-! ### Loops -/

/-- The second test is made where the first fails. -/
def eitherChecked (first second : Except AccessFault Bool) : Except AccessFault Bool := do
  let found ← first
  if found then pure true else second

/-- A scan that stops at the first item for which the test holds. -/
def anyChecked (test : ι → Except AccessFault Bool) : List ι → Except AccessFault Bool
  | [] => .ok false
  | item :: rest => do
      let found ← test item
      if found then pure true else anyChecked test rest

/-- A scan that stops at the first item for which the test fails. -/
def allChecked (test : ι → Except AccessFault Bool) : List ι → Except AccessFault Bool
  | [] => .ok true
  | item :: rest => do
      let holds ← test item
      if holds then allChecked test rest else pure false

/-- Slot after slot, each from what is read for it. -/
def fillChecked (item : Nat → Except AccessFault α) :
    Nat → Nat → Vector α size → Except AccessFault (Vector α size)
  | 0, _, slots => .ok slots
  | remaining + 1, index, slots => do
      let value ← item index
      let after ← writeAt slots index value
      fillChecked item remaining (index + 1) after

@[simp] theorem eitherChecked_ok (first second : Bool) :
    eitherChecked (.ok first) (.ok second) = .ok (first || second) := by
  cases first <;> rfl

theorem anyChecked_ok {test : ι → Except AccessFault Bool} {items : List ι} (holds : ι → Bool)
    (safe : ∀ item ∈ items, test item = .ok (holds item)) :
    anyChecked test items = .ok (items.any holds) := by
  induction items with
  | nil => rfl
  | cons item rest inductionHypothesis =>
      have later := inductionHypothesis fun other member =>
        safe other (List.mem_cons_of_mem item member)
      rw [anyChecked, safe item List.mem_cons_self, checked_bind, later, List.any_cons]
      cases holds item <;> rfl

theorem allChecked_ok {test : ι → Except AccessFault Bool} {items : List ι} (holds : ι → Bool)
    (safe : ∀ item ∈ items, test item = .ok (holds item)) :
    allChecked test items = .ok (items.all holds) := by
  induction items with
  | nil => rfl
  | cons item rest inductionHypothesis =>
      have later := inductionHypothesis fun other member =>
        safe other (List.mem_cons_of_mem item member)
      rw [allChecked, safe item List.mem_cons_self, checked_bind, later, List.all_cons]
      cases holds item <;> rfl

/-- A scan over the first slots of an array, item by item. -/
theorem anyChecked_range {test : Nat → Except AccessFault Bool} {items : List ι} (holds : ι → Bool)
    (safe : ∀ index (below : index < items.length),
      test index = .ok (holds (items.get ⟨index, below⟩))) :
    anyChecked test (List.range items.length) = .ok (items.any holds) := by
  have found (index : Nat) (below : index < items.length) :
      (items[index]?).any holds = holds (items.get ⟨index, below⟩) := by
    rw [List.getElem?_eq_getElem below]
    rfl
  rw [anyChecked_ok fun index => (items[index]?).any holds]
  · congr 1
    rw [Bool.eq_iff_iff, List.any_eq_true, List.any_eq_true]
    constructor
    · rintro ⟨index, listed, holdsAt⟩
      have below := List.mem_range.mp listed
      rw [found index below] at holdsAt
      exact ⟨_, List.get_mem items ⟨index, below⟩, holdsAt⟩
    · rintro ⟨item, member, holdsOf⟩
      obtain ⟨index, below, rfl⟩ := List.getElem_of_mem member
      exact ⟨index, List.mem_range.mpr below, (found index below).trans holdsOf⟩
  · intro index listed
    have below := List.mem_range.mp listed
    rw [safe index below, found index below]

theorem fillChecked_filled {item : Nat → Except AccessFault α} (value : Nat → α)
    {remaining : Nat} {slots : Vector α size} {items : List α} (filled : Filled slots items)
    (room : items.length + remaining ≤ size)
    (safe : ∀ index < items.length + remaining, item index = .ok (value index)) :
    ∃ after, fillChecked item remaining items.length slots = .ok after ∧
      Filled after (items ++ (List.range' items.length remaining).map value) := by
  induction remaining generalizing slots items with
  | zero => exact ⟨slots, rfl, by rwa [List.range'_zero, List.map_nil, List.append_nil]⟩
  | succ remaining inductionHypothesis =>
      obtain ⟨next, written, nextFilled⟩ :=
        writeAt_filled filled (by omega) (value items.length)
      have length : (items ++ [value items.length]).length = items.length + 1 :=
        List.length_append
      obtain ⟨after, run, afterFilled⟩ := inductionHypothesis nextFilled (by omega)
        (fun index below => safe index (by omega))
      rw [length] at run afterFilled
      refine ⟨after, ?_, ?_⟩
      · rw [fillChecked, safe items.length (by omega), checked_bind, written, checked_bind, run]
      · rw [List.range'_succ, List.map_cons]
        rwa [List.append_assoc, List.singleton_append] at afterFilled

/-- A whole array, from its first slot on. -/
theorem fillChecked_ok {item : Nat → Except AccessFault α} (value : Nat → α) {count : Nat}
    (slots : Vector α size) (room : count ≤ size)
    (safe : ∀ index < count, item index = .ok (value index)) :
    ∃ after, fillChecked item count 0 slots = .ok after ∧
      Filled after ((List.range count).map value) := by
  have wholeRoom : ([] : List α).length + count ≤ size := by
    rw [List.length_nil, Nat.zero_add]
    exact room
  have wholeSafe : ∀ index < ([] : List α).length + count, item index = .ok (value index) := by
    rw [List.length_nil, Nat.zero_add]
    exact safe
  obtain ⟨after, run, filled⟩ := fillChecked_filled value (filled_nil slots) wholeRoom wholeSafe
  rw [List.nil_append, List.length_nil, ← List.range_eq_range'] at filled
  exact ⟨after, run, filled⟩

theorem foldlM_ok {step : β → ι → Except AccessFault β} {items : List ι} (value : β → ι → β)
    (safe : ∀ state, ∀ item ∈ items, step state item = .ok (value state item)) (start : β) :
    items.foldlM step start = .ok (items.foldl value start) := by
  induction items generalizing start with
  | nil => rfl
  | cons item rest inductionHypothesis =>
      rw [List.foldlM_cons, safe start item List.mem_cons_self, checked_bind, List.foldl_cons]
      exact inductionHypothesis (fun state other member =>
        safe state other (List.mem_cons_of_mem item member)) _

/-! ### Outcomes -/

/-- The code ends without a fault: in the status it should, or in items that have a
property and stand for the value it should end in. -/
def EndsAs {Status Items Value : Type u} (checked : Except AccessFault (Except Status Items))
    (view : Items → Value) (property : Items → Prop) (expected : Except Status Value) : Prop :=
  ∃ result, checked = .ok result ∧ result.map view = expected ∧
    ∀ items, result = .ok items → property items

section Outcomes

variable {Status Items Value : Type u} {view : Items → Value} {property : Items → Prop}

theorem endsAs_error (status : Status) :
    EndsAs (.ok (.error status)) view property (.error status) := by
  refine ⟨.error status, rfl, rfl, ?_⟩
  intro items ended
  contradiction

theorem endsAs_ok {items : Items} {value : Value} (isView : view items = value)
    (has : property items) :
    EndsAs (.ok (.ok items) : Except AccessFault (Except Status Items)) view property
      (.ok value) := by
  refine ⟨.ok items, rfl, congrArg Except.ok isView, ?_⟩
  intro other ended
  rwa [← Except.ok.inj ended]

/-- A check both make, with the same status. -/
theorem endsAs_guard {guard : Prop} [Decidable guard] {status : Status}
    {checked : Except AccessFault (Except Status Items)} {expected : Except Status Value}
    (rest : ¬guard → EndsAs checked view property expected) :
    EndsAs (if guard then pure (.error status) else checked) view property
      (if guard then .error status else expected) := by
  by_cases refused : guard
  · rw [if_pos refused, if_pos refused]
    exact endsAs_error status
  · rw [if_neg refused, if_neg refused]
    exact rest refused

end Outcomes

end Library
