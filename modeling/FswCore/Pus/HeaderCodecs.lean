import FswCore.Library.FixedCodec
import FswCore.Pus.Packet

/-!
Contract: the three header codecs of `ccsds.c`, `pus_tc.c` and `pus_tm.c` as inverses.

Owns:
- the widths of the fields, as the packet layouts give them;
- each packer and its unpacker are a codec of fixed length.

Does not own: what stands behind a header.
-/

namespace FswCore

open Library

/-! ### Widths -/

/-- The bits of each field; the data length has sixteen. -/
structure CcsdsPrimaryHeader.WithinWidths (hdr : CcsdsPrimaryHeader) : Prop where
  version : hdr.version.toNat < 2 ^ 3
  type : hdr.type.toNat < 2 ^ 1
  secHdrFlag : hdr.secHdrFlag.toNat < 2 ^ 1
  apid : hdr.apid.toNat < 2 ^ 11
  seqFlags : hdr.seqFlags.toNat < 2 ^ 2
  seqCount : hdr.seqCount.toNat < 2 ^ 14

/-- The other fields are octets and words. -/
structure PusTcSecondaryHeader.WithinWidths (hdr : PusTcSecondaryHeader) : Prop where
  pusVersion : hdr.pusVersion.toNat < 2 ^ 4
  ackFlags : hdr.ackFlags.toNat < 2 ^ 4

structure PusTmSecondaryHeader.WithinWidths (hdr : PusTmSecondaryHeader) : Prop where
  pusVersion : hdr.pusVersion.toNat < 2 ^ 4
  scTimeRefStatus : hdr.scTimeRefStatus.toNat < 2 ^ 4

theorem CcsdsPrimaryHeader.inRange_iff (hdr : CcsdsPrimaryHeader) :
    hdr.InRange ↔ hdr.WithinWidths := by
  simp only [InRange, UInt8.le_iff_toNat_le, UInt16.le_iff_toNat_le, UInt8.reduceToNat,
    UInt16.reduceToNat]
  constructor
  · rintro ⟨version, type, secHdrFlag, apid, seqFlags, seqCount⟩
    constructor <;> omega
  · rintro ⟨version, type, secHdrFlag, apid, seqFlags, seqCount⟩
    omega

/-- The nibbles of an octet, as the packers check them. -/
theorem nibbles_iff (high low : UInt8) :
    ¬(high > 0xF ∨ low > 0xF) ↔ high.toNat < 2 ^ 4 ∧ low.toNat < 2 ^ 4 := by
  simp only [gt_iff_lt, UInt8.lt_iff_toNat_lt, UInt8.reduceToNat]
  omega

/-! ### Codecs -/

theorem ccsdsPrimary_codec :
    FixedCodec CcsdsPrimaryHeader.WithinWidths ccsdsPrimaryHeaderSize ccsdsPrimaryPack
      ccsdsPrimaryUnpack := by
  apply FixedCodec.of_checked
  · intro hdr outLen room within
    exact ccsdsPrimaryPack_ok (hdr.inRange_iff.mpr within) room
  · intro hdr outLen outside
    rw [← hdr.inRange_iff] at outside
    unfold ccsdsPrimaryPack
    split_ifs with short inRange
    · exact ⟨_, rfl⟩
    · exact absurd ⟨Nat.le_of_not_lt short, inRange⟩ outside
    · exact ⟨_, rfl⟩
  · intro hdr outLen bytes packed behind
    exact ccsdsPrimaryUnpack_pack packed behind
  · intro bytes long
    rw [ccsdsPrimaryUnpack, if_neg (Nat.not_lt.mpr long)]
    exact ⟨_, rfl⟩
  · intro bytes hdr unpacked outLen room
    exact ccsdsPrimaryPack_unpack unpacked room

theorem pusTcSecondary_codec :
    FixedCodec PusTcSecondaryHeader.WithinWidths pusTcSecondaryHeaderSize pusTcSecondaryPack
      pusTcSecondaryUnpack := by
  apply FixedCodec.of_checked
  · intro hdr outLen room within
    have inRange := (nibbles_iff hdr.pusVersion hdr.ackFlags).mpr
      ⟨within.pusVersion, within.ackFlags⟩
    rw [pusTcSecondaryPack, if_neg (Nat.not_lt.mpr room), if_neg inRange]
    exact ⟨_, rfl, rfl⟩
  · intro hdr outLen outside
    unfold pusTcSecondaryPack
    split_ifs with short outOfRange
    · exact ⟨_, rfl⟩
    · exact ⟨_, rfl⟩
    · obtain ⟨version, flags⟩ := (nibbles_iff hdr.pusVersion hdr.ackFlags).mp outOfRange
      exact absurd ⟨Nat.le_of_not_lt short, version, flags⟩ outside
  · intro hdr outLen bytes packed behind
    exact pusTcSecondaryUnpack_pack packed behind
  · intro bytes long
    rw [pusTcSecondaryUnpack, if_neg (Nat.not_lt.mpr long)]
    exact ⟨_, rfl⟩
  · intro bytes hdr unpacked outLen room
    exact pusTcSecondaryPack_unpack unpacked room

theorem pusTmSecondary_codec :
    FixedCodec PusTmSecondaryHeader.WithinWidths pusTmSecondaryHeaderSize pusTmSecondaryPack
      pusTmSecondaryUnpack := by
  apply FixedCodec.of_checked
  · intro hdr outLen room within
    have inRange := (nibbles_iff hdr.pusVersion hdr.scTimeRefStatus).mpr
      ⟨within.pusVersion, within.scTimeRefStatus⟩
    rw [pusTmSecondaryPack, if_neg (Nat.not_lt.mpr room), if_neg inRange]
    exact ⟨_, rfl, rfl⟩
  · intro hdr outLen outside
    unfold pusTmSecondaryPack
    split_ifs with short outOfRange
    · exact ⟨_, rfl⟩
    · exact ⟨_, rfl⟩
    · obtain ⟨version, status⟩ := (nibbles_iff hdr.pusVersion hdr.scTimeRefStatus).mp outOfRange
      exact absurd ⟨Nat.le_of_not_lt short, version, status⟩ outside
  · intro hdr outLen bytes packed behind
    exact pusTmSecondaryUnpack_pack packed behind
  · intro bytes long
    rw [pusTmSecondaryUnpack, if_neg (Nat.not_lt.mpr long)]
    exact ⟨_, rfl⟩
  · intro bytes hdr unpacked outLen room
    exact pusTmSecondaryPack_unpack unpacked room

/-- What holds of a header's packer and unpacker, in both directions. -/
structure HeaderCodec {Header Status UnpackStatus : Type} (withinWidths : Header → Prop)
    (size : Nat) (pack : Header → Nat → Except Status (List UInt8))
    (unpack : List UInt8 → Except UnpackStatus Header) : Prop where
  inverse : FixedCodec withinWidths size pack unpack
  bijection : Set.BijOn (packed size pack) {hdr | withinWidths hdr} {bytes | bytes.length = size}

/-- All three headers. -/
theorem headerCodecs :
    HeaderCodec CcsdsPrimaryHeader.WithinWidths ccsdsPrimaryHeaderSize ccsdsPrimaryPack
        ccsdsPrimaryUnpack ∧
      HeaderCodec PusTcSecondaryHeader.WithinWidths pusTcSecondaryHeaderSize pusTcSecondaryPack
        pusTcSecondaryUnpack ∧
      HeaderCodec PusTmSecondaryHeader.WithinWidths pusTmSecondaryHeaderSize pusTmSecondaryPack
        pusTmSecondaryUnpack :=
  ⟨⟨ccsdsPrimary_codec, ccsdsPrimary_codec.bijOn⟩,
    ⟨pusTcSecondary_codec, pusTcSecondary_codec.bijOn⟩,
    ⟨pusTmSecondary_codec, pusTmSecondary_codec.bijOn⟩⟩

end FswCore
