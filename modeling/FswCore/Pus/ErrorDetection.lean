import FswCore.Library.ShiftRegister
import FswCore.Pus.Acceptance

/-!
Contract: the transmission errors that acceptance detects.

Owns:
- the checksum as a shift register over the bits of a string, most significant
  bit of each octet first;
- a string with its own checksum behind it leaves the register at zero;
- a corrupted telecommand of the same length is not accepted, if the flipped bits
  lie in a window of 16 or their number is odd, the length field included.
-/

namespace FswCore

open Library Library.BigEndian Library.ShiftRegister

/-- The generator of the checksum, without its leading term. -/
def crc16Generator : BitVec 16 := 0x1021#16

/-- The bits of an octet, most significant first. -/
def octetBits (octet : UInt8) : List Bool :=
  (List.range 8).map fun index => octet.toBitVec.getMsbD index

def messageBits (bytes : List UInt8) : List Bool := bytes.flatMap octetBits

/-! ### The checksum as a register -/

theorem crc16Shift_toBitVec (crc : UInt16) :
    (crc16Shift crc).toBitVec = shift crc16Generator crc.toBitVec := by
  have lead : (crc &&& 0x8000 ≠ 0) ↔ crc.toBitVec.msb = true := by
    have mask : (crc &&& 0x8000).toBitVec = crc.toBitVec &&& BitVec.twoPow 16 15 := rfl
    rw [ne_eq, ← UInt16.toBitVec_inj, mask, BitVec.and_twoPow, BitVec.msb_eq_getLsbD_last]
    cases crc.toBitVec.getLsbD (16 - 1) <;> decide
  have moved : (crc <<< 1).toBitVec = crc.toBitVec <<< 1 := rfl
  rw [crc16Shift, shift]
  by_cases set : crc.toBitVec.msb = true
  · rw [if_pos (lead.mpr set), if_pos set, UInt16.toBitVec_xor, moved]
    rfl
  · rw [if_neg (fun masked => set (lead.mp masked)), if_neg set, moved]

theorem octetBits_getD (octet : UInt8) (index : Nat) :
    (octetBits octet).getD index false = octet.toBitVec.getMsbD index := by
  by_cases inside : index < 8
  · simp [octetBits, List.getD_eq_getElem?_getD, inside]
  · simp [octetBits, List.getD_eq_getElem?_getD, inside, BitVec.getMsbD]

/-- Where the byte loop stores an octet. -/
theorem word_octetBits (octet : UInt8) :
    (word (octetBits octet) : BitVec 16) = (octet.toUInt16 <<< 8).toBitVec := by
  apply BitVec.eq_of_getMsbD_eq
  intro index inside
  have stored : (octet.toUInt16 <<< 8).toBitVec = octet.toBitVec.setWidth 16 <<< 8 := rfl
  rw [word_getMsbD _ inside, octetBits_getD, stored, BitVec.getMsbD_shiftLeft]
  simp only [BitVec.getMsbD_eq_getLsbD, BitVec.getLsbD_setWidth]
  by_cases first : index < 8
  · simp only [first, decide_true, Bool.true_and, show index + 8 < 16 by omega,
      show 16 - 1 - (index + 8) < 16 by omega]
    congr 1
    omega
  · simp [first, show ¬ index + 8 < 16 by omega]

theorem crc16Byte_toBitVec (crc : UInt16) (octet : UInt8) :
    (crc16Byte crc octet).toBitVec = run crc16Generator crc.toBitVec (octetBits octet) := by
  have step : Function.Semiconj UInt16.toBitVec crc16Shift (shift crc16Generator) :=
    crc16Shift_toBitVec
  rw [crc16Byte, List.foldl_const, (step.iterate_right _).eq,
    run_eq_shifts _ (show (octetBits octet).length ≤ 16 by simp [octetBits]), word_octetBits]
  rfl

theorem crc16CcittFalse_toBitVec (bytes : List UInt8) :
    (crc16CcittFalse bytes).toBitVec = run crc16Generator 0xFFFF#16 (messageBits bytes) := by
  have fold (crc : UInt16) :
      (bytes.foldl crc16Byte crc).toBitVec =
        run crc16Generator crc.toBitVec (messageBits bytes) := by
    induction bytes generalizing crc with
    | nil => rfl
    | cons octet rest inductionHypothesis =>
        rw [List.foldl_cons, inductionHypothesis, crc16Byte_toBitVec, messageBits, messageBits,
          List.flatMap_cons, run_append]
  exact fold 0xFFFF

/-- The bits of a word are those of its octets. -/
theorem messageBits_put16 (value : UInt16) :
    messageBits (put16 value) = (List.range 16).map fun index => value.toBitVec.getMsbD index := by
  have high : (value >>> 8).toUInt8.toBitVec = (value.toBitVec >>> 8).setWidth 8 := rfl
  have low : (value &&& 0xFF).toUInt8.toBitVec = (value.toBitVec &&& 0xFF#16).setWidth 8 := rfl
  simp only [messageBits, put16, octetBits, List.flatMap_cons, List.flatMap_nil, List.append_nil,
    high, low]
  simp [List.range_succ, BitVec.getMsbD]

/-- A register followed by its own content ends at zero. -/
theorem run_own_content (crc : UInt16) :
    run crc16Generator crc.toBitVec (messageBits (put16 crc)) = 0#16 := by
  have stored : (word (messageBits (put16 crc)) : BitVec 16) = crc.toBitVec := by
    apply BitVec.eq_of_getMsbD_eq
    intro index inside
    rw [word_getMsbD _ inside, messageBits_put16]
    simp [List.getD_eq_getElem?_getD, inside]
  have length : (messageBits (put16 crc)).length ≤ 16 := by
    rw [messageBits_put16]
    simp
  rw [run_eq_shifts _ length, stored, BitVec.xor_self]
  exact Function.iterate_fixed (shift_zero _) _

theorem messageBits_append (front back : List UInt8) :
    messageBits (front ++ back) = messageBits front ++ messageBits back :=
  List.flatMap_append

theorem messageBits_length (bytes : List UInt8) : (messageBits bytes).length = 8 * bytes.length :=
  length_flatMap_eq fun octet _ => by simp [octetBits]

/-- What an accepted telecommand leaves in the register, checksum included. -/
theorem TcAccepted.residue {tc : List UInt8} {expectedApid : UInt16}
    (accepted : TcAccepted tc expectedApid) :
    run crc16Generator 0xFFFF#16 (messageBits tc) = 0#16 := by
  obtain ⟨primary, sec, checked⟩ := accepted.checked
  have shortest := checked.shortest
  simp only [tcRouterMinTc, ccsdsPrimaryHeaderSize, pusTcSecondaryHeaderSize] at shortest
  have octets := drop_eq_put16 tc (tc.length - 2) (by omega)
  have nothing : tc.drop (tc.length - 2 + 2) = [] := List.drop_of_length_le (by omega)
  rw [nothing, List.append_nil, ← checked.checksum] at octets
  have split : messageBits tc = messageBits (tc.take (tc.length - 2)) ++
      messageBits (put16 (crc16CcittFalse (tc.take (tc.length - 2)))) := by
    rw [← messageBits_append, ← octets, List.take_append_drop]
  rw [split, run_append, ← crc16CcittFalse_toBitVec, run_own_content]

/-! ### Corruptions -/

/-- Which bits of a string a corruption flips. -/
def flippedBits (tc corrupted : List UInt8) : List Bool :=
  List.zipWith (· ^^ ·) (messageBits tc) (messageBits corrupted)

/-- A window of at most 16 consecutive bits holds every flipped one. -/
def FlipsInWindow (tc corrupted : List UInt8) : Prop :=
  ∃ start, ∀ index, (flippedBits tc corrupted).getD index false = true →
    start ≤ index ∧ index < start + 16

structure DetectableCorruption (tc corrupted : List UInt8) : Prop where
  length : corrupted.length = tc.length
  differs : corrupted ≠ tc
  flips : FlipsInWindow tc corrupted ∨ Odd ((flippedBits tc corrupted).count true)

theorem octetBits_injective {left right : UInt8} (same : octetBits left = octetBits right) :
    left = right := by
  apply UInt8.toBitVec_inj.mp
  apply BitVec.eq_of_getMsbD_eq
  intro index _
  rw [← octetBits_getD, ← octetBits_getD, same]

theorem messageBits_injective {left right : List UInt8}
    (same : messageBits left = messageBits right) : left = right := by
  induction left generalizing right with
  | nil =>
      have length := congrArg List.length same
      rw [messageBits_length, messageBits_length] at length
      exact (List.length_eq_zero_iff.mp (by simpa using length.symm)).symm
  | cons octet rest inductionHypothesis =>
      cases right with
      | nil =>
          have length := congrArg List.length same
          rw [messageBits_length, messageBits_length, List.length_cons, List.length_nil] at length
          omega
      | cons other others =>
          rw [messageBits, messageBits, List.flatMap_cons, List.flatMap_cons] at same
          obtain ⟨first, behind⟩ := List.append_inj same (by simp [octetBits])
          rw [octetBits_injective first, inductionHypothesis behind]

theorem eq_of_zipWith_xor_false {left right : List Bool} (sameLength : left.length = right.length)
    (noFlip : true ∉ List.zipWith (· ^^ ·) left right) : left = right := by
  induction left generalizing right with
  | nil => exact (List.length_eq_zero_iff.mp sameLength.symm).symm
  | cons bit rest inductionHypothesis =>
      cases right with
      | nil => contradiction
      | cons other others =>
          rw [List.zipWith_cons_cons, List.mem_cons, not_or] at noFlip
          have sameBit : bit = other := by
            have kept := noFlip.1
            revert kept
            cases bit <;> cases other <;> decide
          rw [sameBit, inductionHypothesis (Nat.succ.inj sameLength) noFlip.2]

/-- Something is flipped. -/
theorem DetectableCorruption.flipped {tc corrupted : List UInt8}
    (corruption : DetectableCorruption tc corrupted) : true ∈ flippedBits tc corrupted := by
  by_contra noFlip
  have sameLength : (messageBits tc).length = (messageBits corrupted).length := by
    rw [messageBits_length, messageBits_length, corruption.length]
  have sameBits := eq_of_zipWith_xor_false sameLength noFlip
  exact corruption.differs (messageBits_injective sameBits).symm

/-- The difference of two accepted telecommands ends at zero. -/
theorem run_flippedBits {tc corrupted : List UInt8} {expectedApid : UInt16}
    (accepted : TcAccepted tc expectedApid) (alsoAccepted : TcAccepted corrupted expectedApid)
    (length : corrupted.length = tc.length) :
    run crc16Generator 0#16 (flippedBits tc corrupted) = 0#16 := by
  have sameLength : (messageBits tc).length = (messageBits corrupted).length := by
    rw [messageBits_length, messageBits_length, length]
  have difference := run_xor crc16Generator 0xFFFF#16 0xFFFF#16 sameLength
  rw [accepted.residue, alsoAccepted.residue, BitVec.xor_self, BitVec.xor_self] at difference
  exact difference

/-- A burst of at most 16 bits or an odd number of flips is never accepted. -/
theorem tcAccept_detects {tc corrupted : List UInt8} {expectedApid : UInt16}
    (accepted : TcAccepted tc expectedApid) (corruption : DetectableCorruption tc corrupted) :
    ¬ TcAccepted corrupted expectedApid := by
  intro alsoAccepted
  have zero := run_flippedBits accepted alsoAccepted corruption.length
  rcases corruption.flips with ⟨start, inWindow⟩ | odd
  · have generatorOdd : crc16Generator.getLsbD 0 = true := by decide
    exact run_burst_ne_zero generatorOdd corruption.flipped inWindow zero
  · have generatorParity : parity crc16Generator = 1 := by decide
    exact run_odd_ne_zero generatorParity (by decide) odd zero

/-- A connection test, and the same with the last bit of its length field flipped. -/
theorem tcAccept_detects_length_bit :
    ¬ TcAccepted
      [0x18, 0x01, 0xC0, 0x00, 0x00, 0x07, 0x29, 0x11, 0x01, 0x00, 0x00, 0xDB, 0x98] 1 := by
  have accepted : TcAccepted
      [0x18, 0x01, 0xC0, 0x00, 0x00, 0x06, 0x29, 0x11, 0x01, 0x00, 0x00, 0xDB, 0x98] 1 := by
    decide +kernel
  exact tcAccept_detects accepted ⟨rfl, by decide, .inr (by decide)⟩

end FswCore
