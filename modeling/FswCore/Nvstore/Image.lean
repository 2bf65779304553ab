import FswCore.Library.PingPong
import FswCore.Nvstore.Flash

/-!
Contract: the image a sector's bytes hold.

Owns:
- `HeaderValid`, the checks load makes of a header;
- `readImage`, the image at the front of a sector, if it passes every check;
- a complete image reads back, whatever stands behind it.
-/

namespace FswCore

open Library Library.BigEndian

/-! ### Reading an image -/

structure NvImage where
  seq : UInt32
  payload : List UInt8
deriving DecidableEq, Repr

/-- The payload length a header states. -/
def imageLen (bytes : List UInt8) : Nat := (be16At bytes 10).toNat

structure HeaderValid (bytes : List UInt8) : Prop where
  magic : magicMatches bytes = true
  version : be16At bytes 4 = nvstoreFormatVersion
  len_le : imageLen bytes ≤ nvstorePayloadMax

instance (bytes : List UInt8) : Decidable (HeaderValid bytes) :=
  decidable_of_iff (magicMatches bytes = true ∧ be16At bytes 4 = nvstoreFormatVersion ∧
      imageLen bytes ≤ nvstorePayloadMax)
    ⟨fun valid => ⟨valid.1, valid.2.1, valid.2.2⟩, fun valid => ⟨valid.1, valid.2, valid.3⟩⟩

/-- The checks of a header, in the order the source makes them. -/
theorem ite_headerValid {β : Type*} (bytes : List UInt8) (refused accepted : β) :
    (if magicMatches bytes = false then refused
      else if be16At bytes 4 ≠ nvstoreFormatVersion then refused
      else if imageLen bytes > nvstorePayloadMax then refused
      else accepted) = if HeaderValid bytes then accepted else refused := by
  by_cases valid : HeaderValid bytes
  · rw [if_pos valid, if_neg (by simp [valid.magic]), if_neg (by simp [valid.version]),
      if_neg (Nat.not_lt.mpr valid.len_le)]
  · rw [if_neg valid]
    split
    · rfl
    rename_i magicOk
    split
    · rfl
    rename_i versionOk
    split
    · rfl
    rename_i lenOk
    exact absurd ⟨by simpa using magicOk, by simpa using versionOk, Nat.le_of_not_lt lenOk⟩ valid

/-- The image at the front of a sector: magic, version and length pass, and the
checksum over header and payload is the one behind them. -/
def readImage (bytes : List UInt8) : Option NvImage :=
  if HeaderValid bytes ∧ crc16CcittFalse (bytes.take (nvstoreHeaderSize + imageLen bytes)) =
      be16At bytes (nvstoreHeaderSize + imageLen bytes) then
    some { seq := be32At bytes 6, payload := window bytes nvstoreHeaderSize (imageLen bytes) }
  else none

theorem getD_take {bytes : List UInt8} {count index : Nat} (below : index < count) :
    (bytes.take count).getD index 0 = bytes.getD index 0 := by
  simp [List.getD_eq_getElem?_getD, below]

theorem be16At_take {bytes : List UInt8} {count off : Nat} (inside : off + 2 ≤ count) :
    be16At (bytes.take count) off = be16At bytes off := by
  rw [be16At, be16At, getD_take (by omega), getD_take (by omega)]

theorem be32At_take {bytes : List UInt8} {count off : Nat} (inside : off + 4 ≤ count) :
    be32At (bytes.take count) off = be32At bytes off := by
  rw [be32At, be32At, getD_take (by omega), getD_take (by omega), getD_take (by omega),
    getD_take (by omega)]

theorem magicMatches_take {bytes : List UInt8} {count : Nat} (inside : 4 ≤ count) :
    magicMatches (bytes.take count) = magicMatches bytes := by
  rw [Bool.eq_iff_iff, magicMatches, magicMatches, List.all_eq_true, List.all_eq_true]
  apply forall₂_congr
  intro index member
  have below := List.mem_range.mp member
  rw [getD_take (by omega)]

theorem readImage_payload_length {bytes : List UInt8} {image : NvImage}
    (found : readImage bytes = some image) : image.payload.length ≤ nvstorePayloadMax := by
  unfold readImage at found
  split at found
  · rename_i valid
    obtain rfl := Option.some.inj found
    have bound := valid.1.len_le
    simp only [window, List.length_take]
    omega
  · contradiction

/-- A header that fails rules out an image. -/
theorem readImage_of_headerInvalid {bytes : List UInt8} (invalid : ¬ HeaderValid bytes) :
    readImage bytes = none := by
  rw [readImage, if_neg fun valid => invalid valid.1]

/-! ### Writing an image -/

theorem nvstoreHeader_length (seq : UInt32) (payloadLen : Nat) :
    (nvstoreHeader seq payloadLen).length = nvstoreHeaderSize := rfl

theorem nvstoreImage_length (seq : UInt32) (payload : List UInt8) :
    (nvstoreImage seq payload).length = nvstoreHeaderSize + payload.length + 2 := by
  simp [nvstoreImage, nvstoreHeader_length]
  rfl

theorem imageLen_nvstoreImage (seq : UInt32) {payload : List UInt8} (behind : List UInt8)
    (fits : payload.length ≤ nvstorePayloadMax) :
    imageLen (nvstoreImage seq payload ++ behind) = payload.length := by
  have read := be16At_append (nvstoreMagic ++ put16 nvstoreFormatVersion ++ put32 seq)
    (payload ++ put16 (crc16CcittFalse (nvstoreHeader seq payload.length ++ payload)) ++ behind)
    (UInt16.ofNat payload.length)
  have limit : payload.length < 65536 := Nat.lt_of_le_of_lt fits (by decide)
  rw [imageLen, show nvstoreImage seq payload ++ behind = nvstoreMagic ++
      put16 nvstoreFormatVersion ++ put32 seq ++ put16 (UInt16.ofNat payload.length) ++
      (payload ++ put16 (crc16CcittFalse (nvstoreHeader seq payload.length ++ payload)) ++ behind)
    by simp [nvstoreImage, nvstoreHeader]]
  exact (congrArg UInt16.toNat read).trans
    ((UInt16.toNat_ofNat').trans (Nat.mod_eq_of_lt limit))

/-- A complete image reads back, whatever stands behind it. -/
theorem readImage_nvstoreImage (seq : UInt32) {payload : List UInt8} (behind : List UInt8)
    (fits : payload.length ≤ nvstorePayloadMax) :
    readImage (nvstoreImage seq payload ++ behind) = some { seq := seq, payload := payload } := by
  have len := imageLen_nvstoreImage seq behind fits
  have front : (nvstoreHeader seq payload.length ++ payload).length =
      nvstoreHeaderSize + payload.length := by
    rw [List.length_append, nvstoreHeader_length]
  have seqRead : be32At (nvstoreImage seq payload ++ behind) 6 = seq := by
    have read := be32At_append (nvstoreMagic ++ put16 nvstoreFormatVersion)
      (put16 (UInt16.ofNat payload.length) ++ payload ++
        put16 (crc16CcittFalse (nvstoreHeader seq payload.length ++ payload)) ++ behind) seq
    rw [show nvstoreImage seq payload ++ behind = nvstoreMagic ++ put16 nvstoreFormatVersion ++
        put32 seq ++ (put16 (UInt16.ofNat payload.length) ++ payload ++
          put16 (crc16CcittFalse (nvstoreHeader seq payload.length ++ payload)) ++ behind)
      by simp [nvstoreImage, nvstoreHeader]]
    exact read
  have crcRead : be16At (nvstoreImage seq payload ++ behind)
      (nvstoreHeaderSize + payload.length) =
        crc16CcittFalse (nvstoreHeader seq payload.length ++ payload) := by
    rw [← front]
    exact be16At_append _ _ _
  have taken : (nvstoreImage seq payload ++ behind).take (nvstoreHeaderSize + payload.length) =
      nvstoreHeader seq payload.length ++ payload := by
    rw [nvstoreImage, List.append_assoc, ← front, List.take_left]
  have payloadRead : window (nvstoreImage seq payload ++ behind) nvstoreHeaderSize payload.length =
      payload := by
    rw [nvstoreImage, List.append_assoc]
    exact window_append (nvstoreHeader seq payload.length) payload _
  have versionRead : be16At (nvstoreImage seq payload ++ behind) 4 = nvstoreFormatVersion := by
    have read := be16At_append nvstoreMagic (put32 seq ++
      put16 (UInt16.ofNat payload.length) ++ payload ++
        put16 (crc16CcittFalse (nvstoreHeader seq payload.length ++ payload)) ++ behind)
      nvstoreFormatVersion
    rw [show nvstoreImage seq payload ++ behind = nvstoreMagic ++ put16 nvstoreFormatVersion ++
        (put32 seq ++ put16 (UInt16.ofNat payload.length) ++ payload ++
          put16 (crc16CcittFalse (nvstoreHeader seq payload.length ++ payload)) ++ behind)
      by simp [nvstoreImage, nvstoreHeader]]
    exact read
  rw [readImage, len, seqRead, crcRead, taken, payloadRead, if_pos]
  exact ⟨⟨rfl, versionRead, by rw [len]; exact fits⟩, rfl⟩

end FswCore
