import FswCore.Library.Bytes
import Mathlib.Algebra.Ring.Nat
import Mathlib.Tactic.SplitIfs

/-!
Contract: big-endian coding of 16-bit and 32-bit words as octet strings.

Owns:
- `put16` / `put32`, the octets of a word, most significant first;
- `get16` / `get32`, the word of two or four octets;
- `be16At` / `be32At`, a word read at an offset of an octet string, where an
  octet past the end reads as zero;
- the round trips in both directions.

Does not own: bounds checks. A caller that must not read past the end proves it.
-/

namespace Library.BigEndian

/-- The octets of a 16-bit word, most significant first. -/
def put16 (value : UInt16) : List UInt8 :=
  [(value >>> 8).toUInt8, (value &&& 0xFF).toUInt8]

/-- The octets of a 32-bit word, most significant first. -/
def put32 (value : UInt32) : List UInt8 :=
  [((value >>> 24) &&& 0xFF).toUInt8, ((value >>> 16) &&& 0xFF).toUInt8,
    ((value >>> 8) &&& 0xFF).toUInt8, (value &&& 0xFF).toUInt8]

def get16 (high low : UInt8) : UInt16 :=
  (high.toUInt16 <<< 8) ||| low.toUInt16

def get32 (first second third fourth : UInt8) : UInt32 :=
  (first.toUInt32 <<< 24) ||| (second.toUInt32 <<< 16) ||| (third.toUInt32 <<< 8) |||
    fourth.toUInt32

def be16At (bytes : List UInt8) (off : Nat) : UInt16 :=
  get16 (bytes.getD off 0) (bytes.getD (off + 1) 0)

def be32At (bytes : List UInt8) (off : Nat) : UInt32 :=
  get32 (bytes.getD off 0) (bytes.getD (off + 1) 0) (bytes.getD (off + 2) 0)
    (bytes.getD (off + 3) 0)

@[simp] theorem put16_length (value : UInt16) : (put16 value).length = 2 := rfl

@[simp] theorem put32_length (value : UInt32) : (put32 value).length = 4 := rfl

/-! ### Words as numbers -/

private theorem mask_octet (value : Nat) : value &&& 255 = value % 256 :=
  Nat.and_two_pow_sub_one_eq_mod value 8

theorem get16_toNat (high low : UInt8) :
    (get16 high low).toNat = high.toNat * 256 + low.toNat := by
  have highLt := high.toNat_lt
  have lowLt := low.toNat_lt
  have disjoint := Nat.shiftLeft_add_eq_or_of_lt (i := 8) lowLt high.toNat
  simp only [get16, UInt16.toNat_or, UInt16.toNat_shiftLeft, UInt8.toNat_toUInt16]
  rw [Nat.shiftLeft_eq, Nat.mod_eq_of_lt (by simp; omega)]
  rw [Nat.shiftLeft_eq] at disjoint
  simpa using disjoint.symm

theorem get32_toNat (first second third fourth : UInt8) :
    (get32 first second third fourth).toNat =
      first.toNat * 16777216 + second.toNat * 65536 + third.toNat * 256 + fourth.toNat := by
  have firstLt := first.toNat_lt
  have secondLt := second.toNat_lt
  have thirdLt := third.toNat_lt
  have fourthLt := fourth.toNat_lt
  -- each field lies below the next one's shift, so the three unions are sums
  have outer := Nat.shiftLeft_add_eq_or_of_lt (i := 24)
    (show second.toNat * 65536 < 2 ^ 24 by omega) first.toNat
  have middle := Nat.shiftLeft_add_eq_or_of_lt (i := 16)
    (show third.toNat * 256 < 2 ^ 16 by omega) (first.toNat * 256 + second.toNat)
  have inner := Nat.shiftLeft_add_eq_or_of_lt (i := 8)
    (show fourth.toNat < 2 ^ 8 by omega) (first.toNat * 65536 + second.toNat * 256 + third.toNat)
  simp only [Nat.shiftLeft_eq, Nat.reducePow] at outer middle inner
  simp only [get32, UInt32.toNat_or, UInt32.toNat_shiftLeft, UInt8.toNat_toUInt32,
    Nat.shiftLeft_eq, UInt32.reduceToNat, Nat.reducePow, Nat.reduceMod]
  have firstFits : first.toNat * 16777216 % 4294967296 = first.toNat * 16777216 :=
    Nat.mod_eq_of_lt (by omega)
  have secondFits : second.toNat * 65536 % 4294967296 = second.toNat * 65536 :=
    Nat.mod_eq_of_lt (by omega)
  have thirdFits : third.toNat * 256 % 4294967296 = third.toNat * 256 :=
    Nat.mod_eq_of_lt (by omega)
  have firstTwo : first.toNat * 16777216 + second.toNat * 65536 =
      (first.toNat * 256 + second.toNat) * 65536 := by simp [Nat.add_mul, Nat.mul_assoc]
  have firstThree : (first.toNat * 256 + second.toNat) * 65536 + third.toNat * 256 =
      (first.toNat * 65536 + second.toNat * 256 + third.toNat) * 256 := by
    simp [Nat.add_mul, Nat.mul_assoc]
  rw [firstFits, secondFits, thirdFits, ← outer, firstTwo, ← middle, firstThree, ← inner]

/-- A value that fits its field is not changed by the field's mask. -/
theorem mask_field (width : Nat) {value : Nat} (fits : value < 2 ^ width) :
    value &&& (2 ^ width - 1) = value := by
  rw [Nat.and_two_pow_sub_one_eq_mod, Nat.mod_eq_of_lt fits]

/-- The union of a field and what lies below it is their sum. -/
theorem field_or_low {low width : Nat} (fits : low < 2 ^ width) (field : Nat) :
    field * 2 ^ width ||| low = field * 2 ^ width + low := by
  rw [Nat.mul_comm, ← Nat.two_pow_add_eq_or_of_lt fits]

/-- One more octet behind a word with room for it. -/
theorem pushOctet_toNat {bits : UInt32} (octet : UInt8) (room : bits.toNat < 16777216) :
    ((bits <<< 8) ||| octet.toUInt32).toNat = bits.toNat * 256 + octet.toNat := by
  have disjoint := Nat.shiftLeft_add_eq_or_of_lt (i := 8) octet.toNat_lt bits.toNat
  simp only [UInt32.toNat_or, UInt32.toNat_shiftLeft, UInt8.toNat_toUInt32, Nat.shiftLeft_eq,
    UInt32.reduceToNat, Nat.reducePow, Nat.reduceMod] at disjoint ⊢
  rw [Nat.mod_eq_of_lt (by omega), disjoint]

/-- The octet of a word at a shift of whole octets. -/
theorem octetAt_toNat (bits : UInt32) {count : Nat} (inside : count < 4) :
    ((bits >>> UInt32.ofNat (8 * count)) &&& 0xFF).toUInt8.toNat =
      bits.toNat / 256 ^ count % 256 := by
  have shift : (UInt32.ofNat (8 * count)).toNat % 32 = 8 * count := by
    rw [UInt32.toNat_ofNat', Nat.mod_eq_of_lt (by omega), Nat.mod_eq_of_lt (by omega)]
  simp only [UInt32.toNat_toUInt8, UInt32.toNat_and, UInt32.toNat_shiftRight, shift,
    UInt32.reduceToNat, mask_octet, Nat.shiftRight_eq_div_pow, Nat.pow_mul, Nat.reducePow]
  rw [Nat.mod_mod]

/-! ### Round trips -/

theorem get16_put16 (value : UInt16) :
    get16 (value >>> 8).toUInt8 (value &&& 0xFF).toUInt8 = value := by
  apply UInt16.toNat_inj.mp
  have valueLt := value.toNat_lt
  simp only [get16_toNat, UInt16.toNat_toUInt8, UInt16.toNat_shiftRight, UInt16.toNat_and,
    UInt16.reduceToNat, Nat.shiftRight_eq_div_pow, Nat.reducePow, Nat.reduceMod, mask_octet]
  omega

theorem get32_put32 (value : UInt32) :
    get32 ((value >>> 24) &&& 0xFF).toUInt8 ((value >>> 16) &&& 0xFF).toUInt8
      ((value >>> 8) &&& 0xFF).toUInt8 (value &&& 0xFF).toUInt8 = value := by
  apply UInt32.toNat_inj.mp
  have valueLt := value.toNat_lt
  simp only [get32_toNat, UInt32.toNat_toUInt8, UInt32.toNat_shiftRight, UInt32.toNat_and,
    UInt32.reduceToNat, Nat.shiftRight_eq_div_pow, Nat.reducePow, Nat.reduceMod, mask_octet]
  omega

theorem put16_get16 (high low : UInt8) : put16 (get16 high low) = [high, low] := by
  have highLt := high.toNat_lt
  have lowLt := low.toNat_lt
  simp only [put16, List.cons.injEq, and_true]
  constructor <;> apply UInt8.toNat_inj.mp <;>
    simp only [get16_toNat, UInt16.toNat_toUInt8, UInt16.toNat_shiftRight, UInt16.toNat_and,
      UInt16.reduceToNat, Nat.shiftRight_eq_div_pow, Nat.reducePow, Nat.reduceMod, mask_octet] <;>
    omega

theorem put32_get32 (first second third fourth : UInt8) :
    put32 (get32 first second third fourth) = [first, second, third, fourth] := by
  have firstLt := first.toNat_lt
  have secondLt := second.toNat_lt
  have thirdLt := third.toNat_lt
  have fourthLt := fourth.toNat_lt
  simp only [put32, List.cons.injEq, and_true]
  refine ⟨?_, ?_, ?_, ?_⟩ <;> apply UInt8.toNat_inj.mp <;>
    simp only [get32_toNat, UInt32.toNat_toUInt8, UInt32.toNat_shiftRight, UInt32.toNat_and,
      UInt32.reduceToNat, Nat.shiftRight_eq_div_pow, Nat.reducePow, Nat.reduceMod, mask_octet] <;>
    omega

theorem put32_injective {left right : UInt32} (equal : put32 left = put32 right) :
    left = right := by
  simp only [put32, List.cons.injEq, and_true] at equal
  rw [← get32_put32 left, equal.1, equal.2.1, equal.2.2.1, equal.2.2.2, get32_put32]

/-! ### Words inside an octet string -/

theorem getD_append_add (before after : List UInt8) (index : Nat) :
    (before ++ after).getD (before.length + index) 0 = after.getD index 0 := by
  simp only [List.getD_eq_getElem?_getD]
  rw [List.getElem?_append_right (by omega), Nat.add_sub_cancel_left]

theorem getD_drop {α : Type*} (items : List α) (off index : Nat) (other : α) :
    (items.drop off).getD index other = items.getD (off + index) other := by
  rw [List.getD_eq_getElem?_getD, List.getElem?_drop, ← List.getD_eq_getElem?_getD]

theorem be16At_drop (bytes : List UInt8) (front off : Nat) :
    be16At (bytes.drop front) off = be16At bytes (front + off) := by
  rw [be16At, be16At, getD_drop, getD_drop, Nat.add_assoc]

theorem be32At_drop (bytes : List UInt8) (front off : Nat) :
    be32At (bytes.drop front) off = be32At bytes (front + off) := by
  rw [be32At, be32At, getD_drop, getD_drop, getD_drop, getD_drop, Nat.add_assoc, Nat.add_assoc,
    Nat.add_assoc]

theorem be16At_window {bytes : List UInt8} {off count field : Nat} (inside : field + 2 ≤ count) :
    be16At (window bytes off count) field = be16At bytes (off + field) := by
  rw [be16At, be16At, getD_window (by omega), getD_window (by omega), Nat.add_assoc]

/-- A field of a front part does not depend on what stands behind it. -/
theorem be16At_append_left {front : List UInt8} (back : List UInt8) {off : Nat}
    (inside : off + 2 ≤ front.length) : be16At (front ++ back) off = be16At front off := by
  have octet {index : Nat} (below : index < front.length) :
      (front ++ back).getD index 0 = front.getD index 0 := by
    rw [List.getD_eq_getElem?_getD, List.getElem?_append_left below,
      ← List.getD_eq_getElem?_getD]
  rw [be16At, be16At, octet (by omega), octet (by omega)]

/-- A word written after `before` is the word read at its length. -/
theorem be16At_append (before after : List UInt8) (value : UInt16) :
    be16At (before ++ put16 value ++ after) before.length = value := by
  have start := getD_append_add before (put16 value ++ after) 0
  have next := getD_append_add before (put16 value ++ after) 1
  simp only [← List.append_assoc] at start next
  rw [be16At, ← Nat.add_zero before.length, Nat.add_assoc, start, next]
  exact get16_put16 value

theorem be32At_append (before after : List UInt8) (value : UInt32) :
    be32At (before ++ put32 value ++ after) before.length = value := by
  have octet := getD_append_add before (put32 value ++ after)
  have first := octet 0
  simp only [← List.append_assoc] at octet first
  rw [be32At, octet 1, octet 2, octet 3, ← Nat.add_zero before.length, first]
  exact get32_put32 value

/-- Words written one after the other are read back at their offsets. -/
theorem map_be16At_flatMap (before after : List UInt8) (values : List UInt16) :
    (List.range values.length).map (fun index =>
      be16At (before ++ values.flatMap put16 ++ after) (before.length + 2 * index)) = values := by
  induction values generalizing before with
  | nil => rfl
  | cons value rest inductionHypothesis =>
      have first := be16At_append before (rest.flatMap put16 ++ after) value
      have others := inductionHypothesis (before ++ put16 value)
      rw [List.length_cons, List.range_succ_eq_map, List.map_cons, List.map_map]
      rw [List.flatMap_cons, ← List.append_assoc, Nat.mul_zero, Nat.add_zero]
      rw [List.append_assoc _ (rest.flatMap put16), first]
      congr 1
      rw [List.append_assoc] at others
      rw [List.length_append, put16_length] at others
      refine Eq.trans ?_ others
      apply List.map_congr_left
      intro index _
      rw [Function.comp_apply, Nat.succ_eq_add_one, Nat.mul_add, Nat.add_assoc,
        Nat.add_comm 2 (2 * index)]

private theorem drop_eq_getD_cons (bytes : List UInt8) (off : Nat) (below : off < bytes.length) :
    bytes.drop off = bytes.getD off 0 :: bytes.drop (off + 1) := by
  rw [List.drop_eq_getElem_cons below, List.getD_eq_getElem?_getD,
    List.getElem?_eq_getElem below, Option.getD_some]

/-- The word read at `off` is the one whose octets stand there. -/
theorem drop_eq_put16 (bytes : List UInt8) (off : Nat) (inside : off + 2 ≤ bytes.length) :
    bytes.drop off = put16 (be16At bytes off) ++ bytes.drop (off + 2) := by
  rw [be16At, put16_get16, drop_eq_getD_cons bytes off (by omega),
    drop_eq_getD_cons bytes (off + 1) (by omega)]
  rfl

theorem drop_eq_put32 (bytes : List UInt8) (off : Nat) (inside : off + 4 ≤ bytes.length) :
    bytes.drop off = put32 (be32At bytes off) ++ bytes.drop (off + 4) := by
  rw [be32At, put32_get32, drop_eq_getD_cons bytes off (by omega),
    drop_eq_getD_cons bytes (off + 1) (by omega), drop_eq_getD_cons bytes (off + 2) (by omega),
    drop_eq_getD_cons bytes (off + 3) (by omega)]
  rfl

end Library.BigEndian
