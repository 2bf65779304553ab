import FswCore.Library.BigEndian
import FswCore.Library.Bytes

/-!
Contract: `lib/pus/src/ccsds.c`, function by function.

Owns:
- the space packet primary header, its octets, and that they read back;
- the CRC-16-CCITT-FALSE checksum.

Does not own: secondary headers and what a packet carries.
-/

namespace FswCore

open Library Library.BigEndian

/-- `MIGRIS_CCSDS_PRIMARY_HEADER_SIZE`. -/
def ccsdsPrimaryHeaderSize : Nat := 6

/-- `MIGRIS_CCSDS_PACKET_TYPE_TM` and `MIGRIS_CCSDS_PACKET_TYPE_TC`. -/
def ccsdsPacketTypeTm : UInt8 := 0
def ccsdsPacketTypeTc : UInt8 := 1

/-- `MIGRIS_CCSDS_SEQ_FLAGS_UNSEGMENTED`. -/
def ccsdsSeqFlagsUnsegmented : UInt8 := 3

@[ext] structure CcsdsPrimaryHeader where
  version : UInt8
  type : UInt8
  secHdrFlag : UInt8
  apid : UInt16
  seqFlags : UInt8
  seqCount : UInt16
  dataLength : UInt16
deriving DecidableEq, Repr

inductive CcsdsStatus where
  | errBufTooSmall
  | errFieldOutOfRange
deriving DecidableEq, Repr

/-- Every field lies in its bit range. -/
def CcsdsPrimaryHeader.InRange (hdr : CcsdsPrimaryHeader) : Prop :=
  hdr.version ≤ 0x7 ∧ hdr.type ≤ 0x1 ∧ hdr.secHdrFlag ≤ 0x1 ∧ hdr.apid ≤ 0x7FF ∧
    hdr.seqFlags ≤ 0x3 ∧ hdr.seqCount ≤ 0x3FFF

instance (hdr : CcsdsPrimaryHeader) : Decidable hdr.InRange :=
  inferInstanceAs (Decidable (_ ∧ _))

/-- Version (3), type (1), secondary header flag (1), APID (11). -/
def ccsdsWord0 (hdr : CcsdsPrimaryHeader) : UInt16 :=
  ((hdr.version &&& 0x7).toUInt16 <<< 13) ||| ((hdr.type &&& 0x1).toUInt16 <<< 12) |||
    ((hdr.secHdrFlag &&& 0x1).toUInt16 <<< 11) ||| (hdr.apid &&& 0x7FF)

/-- Sequence flags (2), sequence count (14). -/
def ccsdsWord1 (hdr : CcsdsPrimaryHeader) : UInt16 :=
  ((hdr.seqFlags &&& 0x3).toUInt16 <<< 14) ||| (hdr.seqCount &&& 0x3FFF)

def ccsdsPrimaryPack (hdr : CcsdsPrimaryHeader) (outLen : Nat) :
    Except CcsdsStatus (List UInt8) :=
  if outLen < ccsdsPrimaryHeaderSize then .error .errBufTooSmall
  else if ¬hdr.InRange then .error .errFieldOutOfRange
  else .ok (put16 (ccsdsWord0 hdr) ++ put16 (ccsdsWord1 hdr) ++ put16 hdr.dataLength)

def ccsdsPrimaryUnpack (input : List UInt8) : Except CcsdsStatus CcsdsPrimaryHeader :=
  if input.length < ccsdsPrimaryHeaderSize then .error .errBufTooSmall
  else
    let word0 := be16At input 0
    let word1 := be16At input 2
    .ok
      { version := ((word0 >>> 13) &&& 0x7).toUInt8
        type := ((word0 >>> 12) &&& 0x1).toUInt8
        secHdrFlag := ((word0 >>> 11) &&& 0x1).toUInt8
        apid := word0 &&& 0x7FF
        seqFlags := ((word1 >>> 14) &&& 0x3).toUInt8
        seqCount := word1 &&& 0x3FFF
        dataLength := be16At input 4 }

def ccsdsPacketTotalSize (dataLength : UInt16) : Nat :=
  ccsdsPrimaryHeaderSize + dataLength.toNat + 1

/-! ### Header round trip -/

theorem ccsdsWord0_toNat {hdr : CcsdsPrimaryHeader} (inRange : hdr.InRange) :
    (ccsdsWord0 hdr).toNat = hdr.version.toNat * 2 ^ 13 + hdr.type.toNat * 2 ^ 12 +
      hdr.secHdrFlag.toNat * 2 ^ 11 + hdr.apid.toNat := by
  obtain ⟨version, type, secHdrFlag, apid, -, -⟩ := inRange
  simp only [UInt8.le_iff_toNat_le, UInt16.le_iff_toNat_le, UInt8.reduceToNat,
    UInt16.reduceToNat] at version type secHdrFlag apid
  have versionMask : hdr.version.toNat &&& 7 = hdr.version.toNat := mask_field 3 (by omega)
  have typeMask : hdr.type.toNat &&& 1 = hdr.type.toNat := mask_field 1 (by omega)
  have flagMask : hdr.secHdrFlag.toNat &&& 1 = hdr.secHdrFlag.toNat := mask_field 1 (by omega)
  have apidMask : hdr.apid.toNat &&& 2047 = hdr.apid.toNat := mask_field 11 (by omega)
  simp only [ccsdsWord0, UInt16.toNat_or, UInt16.toNat_shiftLeft, UInt8.toNat_toUInt16,
    UInt8.toNat_and, UInt16.toNat_and, UInt8.reduceToNat, UInt16.reduceToNat, Nat.reduceMod,
    Nat.shiftLeft_eq, versionMask, typeMask, flagMask, apidMask]
  rw [Nat.mod_eq_of_lt (by omega), Nat.mod_eq_of_lt (by omega), Nat.mod_eq_of_lt (by omega)]
  -- each union has one operand below the lowest field of the other
  have first := field_or_low (show hdr.type.toNat * 2 ^ 12 < 2 ^ 13 by omega) hdr.version.toNat
  have second := field_or_low (show hdr.secHdrFlag.toNat * 2 ^ 11 < 2 ^ 12 by omega)
    (hdr.version.toNat * 2 + hdr.type.toNat)
  have third := field_or_low (show hdr.apid.toNat < 2 ^ 11 by omega)
    (hdr.version.toNat * 4 + hdr.type.toNat * 2 + hdr.secHdrFlag.toNat)
  simp only [Nat.add_mul, Nat.mul_assoc, Nat.reducePow, Nat.reduceMul] at first second third ⊢
  rw [first, second, third]

theorem ccsdsWord1_toNat {hdr : CcsdsPrimaryHeader} (inRange : hdr.InRange) :
    (ccsdsWord1 hdr).toNat = hdr.seqFlags.toNat * 2 ^ 14 + hdr.seqCount.toNat := by
  obtain ⟨-, -, -, -, seqFlags, seqCount⟩ := inRange
  simp only [UInt8.le_iff_toNat_le, UInt16.le_iff_toNat_le, UInt8.reduceToNat,
    UInt16.reduceToNat] at seqFlags seqCount
  have flagsMask : hdr.seqFlags.toNat &&& 3 = hdr.seqFlags.toNat := mask_field 2 (by omega)
  have countMask : hdr.seqCount.toNat &&& 16383 = hdr.seqCount.toNat := mask_field 14 (by omega)
  simp only [ccsdsWord1, UInt16.toNat_or, UInt16.toNat_shiftLeft, UInt8.toNat_toUInt16,
    UInt8.toNat_and, UInt16.toNat_and, UInt8.reduceToNat, UInt16.reduceToNat, Nat.reduceMod,
    Nat.shiftLeft_eq, flagsMask, countMask]
  rw [Nat.mod_eq_of_lt (by omega)]
  exact field_or_low (by omega) hdr.seqFlags.toNat

theorem ccsdsPrimaryPack_ok {hdr : CcsdsPrimaryHeader} (inRange : hdr.InRange) {outLen : Nat}
    (room : ccsdsPrimaryHeaderSize ≤ outLen) :
    ∃ bytes, ccsdsPrimaryPack hdr outLen = .ok bytes ∧ bytes.length = ccsdsPrimaryHeaderSize := by
  rw [ccsdsPrimaryPack, if_neg (by omega), if_neg (Classical.not_not.mpr inRange)]
  exact ⟨_, rfl, by simp [ccsdsPrimaryHeaderSize]⟩

private theorem low1 (value : Nat) : value &&& 1 = value % 2 :=
  Nat.and_two_pow_sub_one_eq_mod value 1

private theorem low2 (value : Nat) : value &&& 3 = value % 4 :=
  Nat.and_two_pow_sub_one_eq_mod value 2

private theorem low3 (value : Nat) : value &&& 7 = value % 8 :=
  Nat.and_two_pow_sub_one_eq_mod value 3

private theorem low11 (value : Nat) : value &&& 2047 = value % 2048 :=
  Nat.and_two_pow_sub_one_eq_mod value 11

private theorem low14 (value : Nat) : value &&& 16383 = value % 16384 :=
  Nat.and_two_pow_sub_one_eq_mod value 14

/-- A header packed is the header unpacked, whatever stands behind it. -/
theorem ccsdsPrimaryUnpack_pack {hdr : CcsdsPrimaryHeader} {outLen : Nat} {bytes : List UInt8}
    (packed : ccsdsPrimaryPack hdr outLen = .ok bytes) (behind : List UInt8) :
    ccsdsPrimaryUnpack (bytes ++ behind) = .ok hdr := by
  unfold ccsdsPrimaryPack at packed
  split_ifs at packed with short inRange
  cases packed
  have word0 := ccsdsWord0_toNat inRange
  have word1 := ccsdsWord1_toNat inRange
  have read0 := be16At_append [] (put16 (ccsdsWord1 hdr) ++ put16 hdr.dataLength ++ behind)
    (ccsdsWord0 hdr)
  have read2 := be16At_append (put16 (ccsdsWord0 hdr)) (put16 hdr.dataLength ++ behind)
    (ccsdsWord1 hdr)
  have read4 := be16At_append (put16 (ccsdsWord0 hdr) ++ put16 (ccsdsWord1 hdr)) behind
    hdr.dataLength
  simp only [List.append_assoc, List.nil_append, List.length_nil, put16_length,
    List.length_append] at read0 read2 read4
  rw [ccsdsPrimaryUnpack, if_neg (by simp [ccsdsPrimaryHeaderSize]; omega)]
  simp only [List.append_assoc, read0, read2, read4]
  obtain ⟨version, type, secHdrFlag, apid, seqFlags, seqCount⟩ := inRange
  simp only [UInt8.le_iff_toNat_le, UInt16.le_iff_toNat_le, UInt8.reduceToNat,
    UInt16.reduceToNat] at version type secHdrFlag apid seqFlags seqCount
  congr 1
  simp only [CcsdsPrimaryHeader.ext_iff, ← UInt8.toNat_inj, ← UInt16.toNat_inj,
    UInt16.toNat_toUInt8, UInt16.toNat_and, UInt16.toNat_shiftRight, UInt16.reduceToNat,
    Nat.reduceMod, Nat.shiftRight_eq_div_pow, word0, word1, low1, low2, low3, low11, low14,
    and_true]
  refine ⟨?_, ?_, ?_, ?_, ?_, ?_⟩ <;> omega

theorem ccsdsPrimaryUnpack_inRange {input : List UInt8} {hdr : CcsdsPrimaryHeader}
    (unpacked : ccsdsPrimaryUnpack input = .ok hdr) : hdr.InRange := by
  unfold ccsdsPrimaryUnpack at unpacked
  split_ifs at unpacked
  cases unpacked
  simp only [CcsdsPrimaryHeader.InRange, UInt8.le_iff_toNat_le, UInt16.le_iff_toNat_le,
    UInt8.reduceToNat, UInt16.reduceToNat, UInt16.toNat_toUInt8, UInt16.toNat_and, low1, low2,
    low3, low11, low14]
  omega

/-- A header unpacked is packed to the octets it was read from. -/
theorem ccsdsPrimaryPack_unpack {input : List UInt8} {hdr : CcsdsPrimaryHeader}
    (unpacked : ccsdsPrimaryUnpack input = .ok hdr) {outLen : Nat}
    (room : ccsdsPrimaryHeaderSize ≤ outLen) :
    ccsdsPrimaryPack hdr outLen = .ok (input.take ccsdsPrimaryHeaderSize) := by
  have inRange := ccsdsPrimaryUnpack_inRange unpacked
  have word0 := ccsdsWord0_toNat inRange
  have word1 := ccsdsWord1_toNat inRange
  rw [ccsdsPrimaryPack, if_neg (by omega), if_neg (not_not_intro inRange)]
  unfold ccsdsPrimaryUnpack at unpacked
  split_ifs at unpacked with short
  cases unpacked
  simp only [ccsdsPrimaryHeaderSize] at short
  have bound0 := (be16At input 0).toNat_lt
  have bound1 := (be16At input 2).toNat_lt
  simp only [UInt16.toNat_toUInt8, UInt16.toNat_and, UInt16.toNat_shiftRight, UInt16.reduceToNat,
    Nat.reduceMod, Nat.shiftRight_eq_div_pow, low1, low2, low3, low11, low14] at word0 word1
  -- the fields of a word are its bits
  have same0 := UInt16.toNat_inj.mp (word0.trans
    (show _ = (be16At input 0).toNat by omega))
  have same1 := UInt16.toNat_inj.mp (word1.trans
    (show _ = (be16At input 2).toNat by omega))
  have octets0 := drop_eq_put16 input 0 (by omega)
  have octets2 := drop_eq_put16 input 2 (by omega)
  have octets4 := drop_eq_put16 input 4 (by omega)
  rw [same0, same1]
  rw [List.drop_zero, octets2, octets4] at octets0
  conv_rhs => rw [octets0]
  simp [ccsdsPrimaryHeaderSize, put16]

/-! ### Checksum -/

/-- One of the eight shifts of a byte. -/
def crc16Shift (crc : UInt16) : UInt16 :=
  if crc &&& 0x8000 ≠ 0 then (crc <<< 1) ^^^ 0x1021 else crc <<< 1

def crc16Byte (crc : UInt16) (byte : UInt8) : UInt16 :=
  (List.range 8).foldl (fun crc _ => crc16Shift crc) (crc ^^^ (byte.toUInt16 <<< 8))

def crc16CcittFalse (bytes : List UInt8) : UInt16 :=
  bytes.foldl crc16Byte 0xFFFF

example : crc16CcittFalse [0x31, 0x32, 0x33, 0x34, 0x35, 0x36, 0x37, 0x38, 0x39] = 0x29B1 := by
  decide +kernel

end FswCore
