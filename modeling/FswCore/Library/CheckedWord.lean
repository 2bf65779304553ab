import FswCore.Library.CheckedAccess

/-!
Contract: array code whose 32-bit arithmetic is checked along with its accesses.

Owns:
- sums, differences, products and quotients that fail where they wrap or divide by
  zero;
- a size rounded up to a multiple of a block;
- buffers written front to back, and the loop that computes its slots in words.

Does not own: which sizes and which contents are right.
-/

namespace Library

inductive CodeFault where
  | access (fault : AccessFault)
  | wraps
  | zeroDivisor
deriving DecidableEq, Repr

variable {α β : Type} {size : Nat}

@[simp] theorem code_bind (value : α) (next : α → Except CodeFault β) :
    ((Except.ok value : Except CodeFault α) >>= next) = next value := rfl

@[simp] theorem code_fault_bind (fault : CodeFault) (next : α → Except CodeFault β) :
    ((Except.error fault : Except CodeFault α) >>= next) = .error fault := rfl

def access (checked : Except AccessFault α) : Except CodeFault α := checked.mapError .access

@[simp] theorem access_ok (value : α) : access (.ok value) = .ok value := rfl

/-! ### Words -/

def addWord (left right : UInt32) : Except CodeFault UInt32 :=
  if left.toNat + right.toNat < UInt32.size then .ok (left + right) else .error .wraps

def subWord (left right : UInt32) : Except CodeFault UInt32 :=
  if right ≤ left then .ok (left - right) else .error .wraps

def mulWord (left right : UInt32) : Except CodeFault UInt32 :=
  if left.toNat * right.toNat < UInt32.size then .ok (left * right) else .error .wraps

def divWord (left right : UInt32) : Except CodeFault UInt32 :=
  if right = 0 then .error .zeroDivisor else .ok (left / right)

def modWord (left right : UInt32) : Except CodeFault UInt32 :=
  if right = 0 then .error .zeroDivisor else .ok (left % right)

theorem addWord_ok (left right : UInt32) (fits : left.toNat + right.toNat < UInt32.size) :
    addWord left right = .ok (left + right) := if_pos fits

theorem addWord_wraps {left right : UInt32} (large : UInt32.size ≤ left.toNat + right.toNat) :
    addWord left right = .error .wraps := if_neg (Nat.not_lt.mpr large)

theorem modWord_ok {left right : UInt32} (nonzero : right ≠ 0) :
    modWord left right = .ok (left % right) := if_neg nonzero

/-- A sum that fits is that of the naturals. -/
theorem addWord_exact (left right : UInt32) (fits : left.toNat + right.toNat < UInt32.size) :
    ∃ sum, addWord left right = .ok sum ∧ sum.toNat = left.toNat + right.toNat :=
  ⟨left + right, addWord_ok left right fits, by rw [UInt32.toNat_add, Nat.mod_eq_of_lt fits]⟩

theorem subWord_exact (left right : UInt32) (le : right.toNat ≤ left.toNat) :
    ∃ difference, subWord left right = .ok difference ∧
      difference.toNat = left.toNat - right.toNat :=
  ⟨left - right, if_pos (UInt32.le_iff_toNat_le.mpr le),
    UInt32.toNat_sub_of_le _ _ (UInt32.le_iff_toNat_le.mpr le)⟩

theorem mulWord_exact (left right : UInt32) (fits : left.toNat * right.toNat < UInt32.size) :
    ∃ product, mulWord left right = .ok product ∧ product.toNat = left.toNat * right.toNat :=
  ⟨left * right, if_pos fits, by rw [UInt32.toNat_mul, Nat.mod_eq_of_lt fits]⟩

theorem divWord_exact (left : UInt32) {right : UInt32} (positive : 0 < right.toNat) :
    ∃ quotient, divWord left right = .ok quotient ∧
      quotient.toNat = left.toNat / right.toNat := by
  have nonzero : right ≠ 0 := by
    rintro rfl
    exact absurd positive (Nat.lt_irrefl 0)
  exact ⟨left / right, if_neg nonzero, UInt32.toNat_div _ _⟩

/-! ### Rounding up -/

def roundUp (bytes block : Nat) : Nat := (bytes + block - 1) / block * block

/-- The first multiple of the block from a size on. -/
structure RoundsUp (bytes block padded : Nat) : Prop where
  multiple : block ∣ padded
  bytes_le : bytes ≤ padded
  next : padded < bytes + block

theorem roundUp_spec {block : Nat} (positive : 0 < block) (bytes : Nat) :
    RoundsUp bytes block (roundUp bytes block) := by
  have whole := Nat.div_add_mod (bytes + block - 1) block
  have rest := Nat.mod_lt (bytes + block - 1) positive
  have multiple : roundUp bytes block = block * ((bytes + block - 1) / block) := Nat.mul_comm _ _
  refine ⟨⟨_, multiple⟩, ?_, ?_⟩
  · rw [multiple]
    omega
  · rw [multiple]
    omega

/-- `((bytes + block - 1) / block) * block`. -/
def roundUpChecked (bytes block : UInt32) : Except CodeFault UInt32 := do
  let upper ← addWord bytes block
  let last ← subWord upper 1
  let blocks ← divWord last block
  mulWord blocks block

theorem roundUpChecked_exact (bytes : UInt32) {block : UInt32} (positive : 0 < block.toNat)
    (fits : bytes.toNat + block.toNat < UInt32.size) :
    ∃ padded, roundUpChecked bytes block = .ok padded ∧
      padded.toNat = roundUp bytes.toNat block.toNat := by
  have one : (1 : UInt32).toNat = 1 := rfl
  obtain ⟨upper, added, upperIs⟩ := addWord_exact bytes block fits
  obtain ⟨last, subtracted, lastIs⟩ := subWord_exact upper 1 (by omega)
  obtain ⟨blocks, divided, blocksIs⟩ := divWord_exact last positive
  have rounded : blocks.toNat * block.toNat = roundUp bytes.toNat block.toNat := by
    rw [blocksIs, lastIs, upperIs, one, roundUp]
  have below := (roundUp_spec positive bytes.toNat).next
  obtain ⟨padded, multiplied, paddedIs⟩ := mulWord_exact blocks block (by omega)
  refine ⟨padded, ?_, paddedIs.trans rounded⟩
  rw [roundUpChecked, added, code_bind, subtracted, code_bind, divided, code_bind, multiplied]

/-! ### Buffers -/

/-- Items written one after another, from a slot on. -/
def writeRun : List α → Nat → Vector α size → Except AccessFault (Vector α size)
  | [], _, slots => .ok slots
  | item :: rest, index, slots => do
      let after ← writeAt slots index item
      writeRun rest (index + 1) after

/-- The first slots of a buffer, as a callee reads them. -/
def readFront (slots : Vector α size) (count : Nat) : Except AccessFault (List α) :=
  if count ≤ size then .ok (slots.toList.take count) else .error .read

theorem readFront_filled {slots : Vector α size} {items : List α}
    (filled : Filled slots items) : readFront slots items.length = .ok items := by
  rw [readFront, if_pos filled.length_le]
  exact congrArg Except.ok filled

theorem writeRun_filled {slots : Vector α size} {items : List α} (filled : Filled slots items)
    (more : List α) (room : items.length + more.length ≤ size) :
    ∃ after, writeRun more items.length slots = .ok after ∧ Filled after (items ++ more) := by
  induction more generalizing slots items with
  | nil => exact ⟨slots, rfl, by rwa [List.append_nil]⟩
  | cons item rest inductionHypothesis =>
      rw [List.length_cons] at room
      obtain ⟨next, written, nextFilled⟩ := writeAt_filled filled (by omega) item
      have length : (items ++ [item]).length = items.length + 1 := List.length_append
      obtain ⟨after, run, afterFilled⟩ := inductionHypothesis nextFilled (by omega)
      rw [length] at run
      refine ⟨after, ?_, ?_⟩
      · rw [writeRun, written, checked_bind, run]
      · rwa [List.append_assoc, List.singleton_append] at afterFilled

/-- `slots[base + i] = item i`, with the number of each slot computed in 32 bits. -/
def fillWordsChecked (item : Nat → Except AccessFault α) (base : UInt32) :
    Nat → Nat → Vector α size → Except CodeFault (Vector α size)
  | 0, _, slots => .ok slots
  | remaining + 1, index, slots => do
      let slot ← addWord base (UInt32.ofNat index)
      let value ← access (item index)
      let after ← access (writeAt slots slot.toNat value)
      fillWordsChecked item base remaining (index + 1) after

theorem fillWordsChecked_filled (item : Nat → Except AccessFault α) (value : Nat → α)
    (base : UInt32) (remaining index : Nat) {slots : Vector α size} {items : List α}
    (filled : Filled slots items) (start : base.toNat + index = items.length)
    (room : items.length + remaining ≤ size) (small : size ≤ UInt32.size)
    (safe : ∀ round < index + remaining, item round = .ok (value round)) :
    ∃ after, fillWordsChecked item base remaining index slots = .ok after ∧
      Filled after (items ++ (List.range' index remaining).map value) := by
  induction remaining generalizing index slots items with
  | zero => exact ⟨slots, rfl, by rwa [List.range'_zero, List.map_nil, List.append_nil]⟩
  | succ remaining inductionHypothesis =>
      have indexIs : (UInt32.ofNat index).toNat = index :=
        UInt32.toNat_ofNat_of_lt' (by omega)
      obtain ⟨slot, added, slotIs⟩ := addWord_exact base (UInt32.ofNat index) (by omega)
      have slotNumber : slot.toNat = items.length := by omega
      obtain ⟨next, written, nextFilled⟩ := writeAt_filled filled (by omega) (value index)
      have length : (items ++ [value index]).length = items.length + 1 := List.length_append
      obtain ⟨after, run, afterFilled⟩ := inductionHypothesis (index + 1) nextFilled
        (by omega) (by omega) (fun round below => safe round (by omega))
      refine ⟨after, ?_, ?_⟩
      · rw [fillWordsChecked, added, code_bind, safe index (by omega), access_ok, code_bind,
          slotNumber, written, access_ok, code_bind, run]
      · rw [List.range'_succ, List.map_cons]
        rwa [List.append_assoc, List.singleton_append] at afterFilled

end Library
