import Mathlib.Algebra.BigOperators.Intervals
import Mathlib.Algebra.Field.ZMod
import Mathlib.Logic.Function.Iterate
import Mathlib.Tactic.Ring

/-!
Contract: a linear feedback shift register fed with bits, as checksums are.

Owns:
- `shift`, `feed` and `run`, linear over exclusive or;
- feeding no more bits than the register is wide is shifting the register with
  those bits stored in it;
- a register fed from zero with a single burst no wider than itself does not end
  at zero, if the generator is odd; nor when fed an odd number of ones, if the
  generator together with its leading term has an even number of them.

Does not own: how octets are split into bits.
-/

namespace Library.ShiftRegister

variable {w : Nat} (generator : BitVec w)

/-- One place to the left; a one that drops out feeds the generator back. -/
def shift (register : BitVec w) : BitVec w :=
  if register.msb then (register <<< 1) ^^^ generator else register <<< 1

/-- A bit in the leading place. -/
def topBit (bit : Bool) : BitVec w := if bit then BitVec.twoPow w (w - 1) else 0#w

def feed (register : BitVec w) (bit : Bool) : BitVec w := shift generator (register ^^^ topBit bit)

def run (register : BitVec w) (bits : List Bool) : BitVec w := bits.foldl (feed generator) register

/-! ### Linearity -/

theorem shift_xor (left right : BitVec w) :
    shift generator (left ^^^ right) = shift generator left ^^^ shift generator right := by
  have twice (first second : BitVec w) :
      (first ^^^ generator) ^^^ (second ^^^ generator) = first ^^^ second := by
    rw [BitVec.xor_assoc, BitVec.xor_comm second, ← BitVec.xor_assoc generator, BitVec.xor_self,
      BitVec.zero_xor]
  simp only [shift, BitVec.msb_xor, BitVec.shiftLeft_xor_distrib]
  cases left.msb <;> cases right.msb
  · rfl
  · exact BitVec.xor_assoc _ _ _
  · simp only [Bool.bne_false, if_true, Bool.false_eq_true, if_false]
    rw [BitVec.xor_assoc, BitVec.xor_comm (right <<< 1), ← BitVec.xor_assoc]
  · exact (twice _ _).symm

theorem topBit_xor (left right : Bool) :
    (topBit (left ^^ right) : BitVec w) = topBit left ^^^ topBit right := by
  cases left <;> cases right <;> simp [topBit]

theorem shift_zero : shift generator 0#w = 0#w := by
  simp [shift]

theorem feed_xor (left right : BitVec w) (leftBit rightBit : Bool) :
    feed generator (left ^^^ right) (leftBit ^^ rightBit) =
      feed generator left leftBit ^^^ feed generator right rightBit := by
  rw [feed, feed, feed, ← shift_xor, topBit_xor]
  congr 1
  ac_rfl

/-- Two streams fed to two registers, and their difference to the difference. -/
theorem run_xor (left right : BitVec w) {leftBits rightBits : List Bool}
    (sameLength : leftBits.length = rightBits.length) :
    run generator (left ^^^ right) (List.zipWith (· ^^ ·) leftBits rightBits) =
      run generator left leftBits ^^^ run generator right rightBits := by
  induction leftBits generalizing rightBits left right with
  | nil =>
      obtain rfl := List.length_eq_zero_iff.mp sameLength.symm
      rfl
  | cons leftBit leftRest inductionHypothesis =>
      cases rightBits with
      | nil => contradiction
      | cons rightBit rightRest =>
          have next := inductionHypothesis (feed generator left leftBit)
            (feed generator right rightBit) (Nat.succ.inj sameLength)
          rw [← feed_xor] at next
          exact next

theorem run_append (register : BitVec w) (front back : List Bool) :
    run generator register (front ++ back) = run generator (run generator register front) back :=
  List.foldl_append

theorem feed_false (register : BitVec w) :
    feed generator register false = shift generator register := by
  simp [feed, topBit]

theorem run_replicate_false (register : BitVec w) (count : Nat) :
    run generator register (List.replicate count false) = (shift generator)^[count] register := by
  induction count generalizing register with
  | zero => rfl
  | succ count inductionHypothesis =>
      have next := inductionHypothesis (feed generator register false)
      rw [feed_false] at next
      rw [List.replicate_succ, Function.iterate_succ_apply, ← next]
      rw [run, List.foldl_cons, feed_false, run]

/-! ### A stream no longer than the register -/

/-- The bits of a stream, stored from the leading place on. -/
def word : List Bool → BitVec w
  | [] => 0#w
  | bit :: rest => topBit bit ^^^ (word rest >>> 1)

theorem word_getMsbD (bits : List Bool) {index : Nat} (inside : index < w) :
    (word bits : BitVec w).getMsbD index = bits.getD index false := by
  induction bits generalizing index with
  | nil => simp [word]
  | cons bit rest inductionHypothesis =>
      have top : (topBit bit : BitVec w).getMsbD index = (bit && decide (index = 0)) := by
        cases bit
        · simp [topBit]
        · simp only [topBit, if_true, BitVec.getMsbD_twoPow, Bool.true_and]
          by_cases first : index = 0 <;> simp [first] <;> omega
      rw [word, BitVec.getMsbD_xor, top, BitVec.getMsbD_ushiftRight]
      cases index with
      | zero => simp
      | succ index =>
          have next := inductionHypothesis (Nat.lt_of_succ_lt inside)
          simp [next, inside]

/-- A word that leaves the leading place free and is moved there. -/
theorem shift_word_ushiftRight {bits : List Bool} (short : bits.length < w) :
    shift generator ((word bits : BitVec w) >>> 1) = word bits := by
  have lead : ((word bits : BitVec w) >>> 1).msb = false := by
    rw [BitVec.msb_eq_getMsbD_zero, BitVec.getMsbD_ushiftRight]
    simp
  rw [shift, lead]
  apply BitVec.eq_of_getMsbD_eq
  intro index inside
  simp only [Bool.false_eq_true, if_false]
  rw [BitVec.getMsbD_shiftLeft, BitVec.getMsbD_ushiftRight]
  by_cases last : index + 1 < w
  · simp [last]
  · have beyond : bits.getD index false = false := by
      rw [List.getD_eq_getElem?_getD, List.getElem?_eq_none (by omega), Option.getD_none]
    rw [word_getMsbD bits inside, beyond]
    simp
    omega

/-- Feeding a stream no longer than the register is shifting the stored stream. -/
theorem run_eq_shifts {bits : List Bool} (short : bits.length ≤ w) (register : BitVec w) :
    run generator register bits = (shift generator)^[bits.length] (register ^^^ word bits) := by
  induction bits generalizing register with
  | nil => simp [run, word]
  | cons bit rest inductionHypothesis =>
      have restShort : rest.length < w := short
      have next := inductionHypothesis (Nat.le_of_lt restShort) (feed generator register bit)
      rw [List.length_cons, Function.iterate_succ_apply, word, ← BitVec.xor_assoc, shift_xor,
        shift_word_ushiftRight generator restShort]
      exact next

/-! ### Bursts -/

section Odd

variable {generator} (odd : generator.getLsbD 0 = true)
include odd

/-- With an odd generator nothing but zero is shifted to zero. -/
theorem eq_zero_of_shift {register : BitVec w} (zero : shift generator register = 0#w) :
    register = 0#w := by
  unfold shift at zero
  cases lead : register.msb with
  | true =>
      rw [lead, if_pos rfl] at zero
      have low := congrArg (BitVec.getLsbD · 0) zero
      simp [odd] at low
  | false =>
      simp only [lead, Bool.false_eq_true, if_false] at zero
      apply BitVec.eq_of_getLsbD_eq
      intro index inside
      rw [BitVec.getLsbD_zero]
      by_cases last : index + 1 < w
      · have moved := congrArg (BitVec.getLsbD · (index + 1)) zero
        simp only [BitVec.getLsbD_shiftLeft, last, decide_true, Nat.add_sub_cancel,
          BitVec.getLsbD_zero, Nat.lt_one_iff, Nat.succ_ne_zero, decide_false, Bool.not_false,
          Bool.true_and] at moved
        exact moved
      · rw [BitVec.msb_eq_getLsbD_last] at lead
        rwa [show index = w - 1 by omega]

theorem eq_zero_of_shifts {count : Nat} {register : BitVec w}
    (zero : (shift generator)^[count] register = 0#w) : register = 0#w := by
  induction count with
  | zero => exact zero
  | succ count inductionHypothesis =>
      rw [Function.iterate_succ_apply'] at zero
      exact inductionHypothesis (eq_zero_of_shift odd zero)

omit odd in
theorem run_zero_of_false {bits : List Bool} (noneSet : ∀ bit ∈ bits, bit = false) :
    run generator 0#w bits = 0#w := by
  rw [List.eq_replicate_of_mem noneSet, run_replicate_false]
  exact Function.iterate_fixed (shift_zero generator) _

/-- A stream no longer than the register that ends at zero is all zeros. -/
theorem false_of_run_zero {bits : List Bool} (short : bits.length ≤ w)
    (zero : run generator 0#w bits = 0#w) : ∀ bit ∈ bits, bit = false := by
  rw [run_eq_shifts generator short, BitVec.zero_xor] at zero
  have stored := eq_zero_of_shifts odd zero
  intro bit member
  obtain ⟨index, below, rfl⟩ := List.getElem_of_mem member
  have read := word_getMsbD (w := w) bits (Nat.lt_of_lt_of_le below short)
  rw [stored, BitVec.getMsbD_zero, List.getD_eq_getElem?_getD, List.getElem?_eq_getElem below,
    Option.getD_some] at read
  exact read.symm

/-- A burst no wider than the register does not end at zero. -/
theorem run_burst_ne_zero {bits : List Bool} {start : Nat} (burst : true ∈ bits)
    (inWindow : ∀ index, bits.getD index false = true → start ≤ index ∧ index < start + w) :
    run generator 0#w bits ≠ 0#w := by
  intro zero
  have front : ∀ bit ∈ bits.take start, bit = false := by
    intro bit member
    obtain ⟨index, below, rfl⟩ := List.getElem_of_mem member
    rw [List.getElem_take]
    rw [List.length_take] at below
    by_contra set
    have bounds := inWindow index (by
      rw [List.getD_eq_getElem?_getD, List.getElem?_eq_getElem (by omega)]
      simpa using set)
    omega
  have back : ∀ bit ∈ (bits.drop start).drop w, bit = false := by
    intro bit member
    obtain ⟨index, below, rfl⟩ := List.getElem_of_mem member
    rw [List.getElem_drop, List.getElem_drop]
    rw [List.length_drop, List.length_drop] at below
    by_contra set
    have bounds := inWindow (start + (w + index)) (by
      rw [List.getD_eq_getElem?_getD, List.getElem?_eq_getElem (by omega)]
      simpa using set)
    omega
  have split : bits =
      bits.take start ++ ((bits.drop start).take w ++ (bits.drop start).drop w) := by
    rw [List.take_append_drop, List.take_append_drop]
  have middleZero : run generator 0#w ((bits.drop start).take w) = 0#w := by
    rw [split, run_append, run_append, run_zero_of_false front, List.eq_replicate_of_mem back,
      run_replicate_false] at zero
    exact eq_zero_of_shifts odd zero
  have middle := false_of_run_zero odd (List.length_take_le _ _) middleZero
  rw [split, List.mem_append, List.mem_append] at burst
  rcases burst with inFront | inMiddle | inBack
  · exact absurd (front true inFront) (by decide)
  · exact absurd (middle true inMiddle) (by decide)
  · exact absurd (back true inBack) (by decide)

end Odd

/-! ### Parity -/

/-- A bit as a residue. -/
def bitValue (bit : Bool) : ZMod 2 := if bit then 1 else 0

def parity (register : BitVec w) : ZMod 2 :=
  ∑ index ∈ Finset.range w, bitValue (register.getLsbD index)

theorem bitValue_xor (left right : Bool) :
    bitValue (left ^^ right) = bitValue left + bitValue right := by
  cases left <;> cases right <;> decide

theorem parity_xor (left right : BitVec w) :
    parity (left ^^^ right) = parity left + parity right := by
  simp only [parity, BitVec.getLsbD_xor, bitValue_xor, Finset.sum_add_distrib]

theorem parity_zero : parity 0#w = 0 := by
  simp [parity, bitValue]

/-- The leading bit drops out. -/
theorem parity_shiftLeft (register : BitVec w) :
    parity register = parity (register <<< 1) + bitValue register.msb := by
  cases w with
  | zero => simp [parity, bitValue, BitVec.msb_eq_getLsbD_last]
  | succ count =>
      have moved : ∀ index ∈ Finset.range count,
          bitValue ((register <<< 1).getLsbD (index + 1)) = bitValue (register.getLsbD index) := by
        intro index member
        have below := Finset.mem_range.mp member
        rw [BitVec.getLsbD_shiftLeft]
        simp only [Nat.add_sub_cancel, below, Nat.add_lt_add_iff_right, decide_true,
          Nat.lt_one_iff, Nat.succ_ne_zero, decide_false, Bool.not_false, Bool.true_and]
      rw [parity, parity, Finset.sum_range_succ, Finset.sum_range_succ', Finset.sum_congr rfl moved,
        BitVec.msb_eq_getLsbD_last]
      simp [bitValue]

theorem parity_topBit (positive : 0 < w) (bit : Bool) :
    parity (topBit bit : BitVec w) = bitValue bit := by
  cases bit with
  | false => exact parity_zero
  | true =>
      rw [parity, Finset.sum_eq_single (w - 1)]
      · simp [topBit, positive, bitValue]
      · intro index member different
        have apart : ¬ w - 1 = index := fun same => different same.symm
        simp [topBit, BitVec.getLsbD_twoPow, apart, bitValue]
      · intro outside
        exact absurd (Finset.mem_range.mpr (Nat.sub_lt positive Nat.one_pos)) outside

section Even

variable {generator} (leads : parity generator = 1)
include leads

/-- The bit that drops out comes back with the generator. -/
theorem parity_shift (register : BitVec w) :
    parity (shift generator register) = parity register := by
  rw [parity_shiftLeft register, shift]
  cases register.msb with
  | true =>
      rw [if_pos rfl, parity_xor, leads]
      rfl
  | false => simp [bitValue]

theorem parity_run (positive : 0 < w) (register : BitVec w) (bits : List Bool) :
    parity (run generator register bits) = parity register + (bits.count true : ZMod 2) := by
  induction bits generalizing register with
  | nil => simp [run]
  | cons bit rest inductionHypothesis =>
      have next := inductionHypothesis (feed generator register bit)
      rw [feed, parity_shift leads, parity_xor, parity_topBit positive] at next
      refine next.trans ?_
      cases bit with
      | false => simp [bitValue]
      | true =>
          rw [List.count_cons_self, Nat.cast_succ]
          simp only [bitValue, if_true]
          ring

/-- An odd number of ones does not end at zero. -/
theorem run_odd_ne_zero (positive : 0 < w) {bits : List Bool} (odd : Odd (bits.count true)) :
    run generator 0#w bits ≠ 0#w := by
  intro zero
  have total := parity_run leads positive 0#w bits
  rw [zero, parity_zero, zero_add, ZMod.natCast_eq_one_iff_odd.mpr odd] at total
  exact absurd total (by decide)

end Even

end Library.ShiftRegister
