import FswCore.Library.Bytes
import Mathlib.Algebra.Order.Floor.Div

/-!
Contract: a list cut into slices of one size, the last one possibly shorter.

Owns:
- `slice`, the slice of a number, and its length;
- that there are as many as the size goes into the length, rounded up, and that
  they are the list, one after the other;
- that parts of the size come back as the slices of their concatenation.
-/

namespace Library

variable {α : Type*}

/-- Slice `number` of the list, counted from 0. -/
def slice (size : Nat) (items : List α) (number : Nat) : List α :=
  window items (number * size) size

theorem slice_length (size : Nat) (items : List α) (number : Nat) :
    (slice size items number).length = min size (items.length - number * size) := by
  rw [slice, window, List.length_take, List.length_drop]

/-- What the first slices hold. -/
theorem flatten_slices (size : Nat) (items : List α) (count : Nat) :
    ((List.range count).map (slice size items)).flatten = items.take (count * size) := by
  induction count with
  | zero => simp
  | succ count inductionHypothesis =>
      rw [List.range_succ, List.map_append, List.flatten_append, inductionHypothesis,
        Nat.add_mul, Nat.one_mul, List.take_add]
      simp only [List.map_cons, List.map_nil, List.flatten_cons, List.flatten_nil,
        List.append_nil]
      rfl

/-- The slices up to the number that the size goes into the length are all of it. -/
theorem flatten_slices_all {size : Nat} (positive : 0 < size) (items : List α) :
    ((List.range (items.length ⌈/⌉ size)).map (slice size items)).flatten = items := by
  have covered : items.length ≤ items.length ⌈/⌉ size * size := by
    rw [Nat.mul_comm]
    exact le_smul_ceilDiv positive
  rw [flatten_slices, List.take_of_length_le covered]

/-- Slices that lie inside the list have the full size. -/
theorem slices_sized {size count : Nat} {items : List α} (room : size * count ≤ items.length) :
    ∀ part ∈ (List.range count).map (slice size items), part.length = size := by
  intro part member
  obtain ⟨number, listed, rfl⟩ := List.mem_map.mp member
  have below := Nat.succ_le_of_lt (List.mem_range.mp listed)
  have inside := Nat.mul_le_mul_right size below
  rw [Nat.succ_mul] at inside
  rw [Nat.mul_comm] at room
  rw [slice_length]
  apply Nat.min_eq_left
  omega

/-- Parts of one size, written one after the other, are the slices. -/
theorem slices_flatten {size : Nat} {parts : List (List α)}
    (sized : ∀ part ∈ parts, part.length = size) :
    (List.range parts.length).map (slice size parts.flatten) = parts := by
  induction parts with
  | nil => rfl
  | cons part rest inductionHypothesis =>
      have partSize := sized part List.mem_cons_self
      have behind := inductionHypothesis fun other member =>
        sized other (List.mem_cons_of_mem part member)
      have first : slice size (part ++ rest.flatten) 0 = part := by
        rw [slice, Nat.zero_mul, window_zero, ← partSize, List.take_left]
      have later (number : Nat) :
          slice size (part ++ rest.flatten) (number + 1) = slice size rest.flatten number := by
        have skipped : (part ++ rest.flatten).drop size = rest.flatten := by
          rw [← partSize, List.drop_left]
        rw [slice, slice, window, window, Nat.add_mul, Nat.one_mul, Nat.add_comm, ← List.drop_drop,
          skipped]
      rw [List.length_cons, List.range_succ_eq_map, List.map_cons, List.map_map, List.flatten_cons,
        first]
      congr 1
      refine Eq.trans ?_ behind
      apply List.map_congr_left
      intro number _
      exact later number

/-- There is something to cut exactly while the slices are not used up. -/
theorem lt_ceilDiv_iff {size : Nat} (positive : 0 < size) (length number : Nat) :
    number < length ⌈/⌉ size ↔ number * size < length := by
  have covers := ceilDiv_le_iff_le_mul positive (b := length) (c := number)
  rw [Nat.mul_comm size number] at covers
  omega

end Library
