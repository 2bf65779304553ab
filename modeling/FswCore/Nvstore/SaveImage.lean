import FswCore.Library.CheckedWord
import FswCore.Nvstore.LoadSave

/-!
Contract: the arithmetic of `backend_ok` and of the image a save builds, in the
32-bit words of `nvstore.c`.

Owns:
- `backendOkChecked` and `nvstoreSizesChecked`, where a word that wraps is a fault:
  there is none, and the padded size is within the buffer and the sector;
- `nvstoreBuildImage`, the image written into the buffer on the stack, whatever that
  held: no write leaves it, and the padded image of `nvstoreSave` is at its front.

Does not own: the sector the image goes to.
-/

namespace FswCore

open Library Library.BigEndian

/-- `NVSTORE_IMAGE_MAX`. -/
def nvstoreImageMax : Nat :=
  nvstoreHeaderSize + nvstorePayloadMax + 2 + nvstoreWriteBlockMax.toNat

/-! ### The geometry -/

/-- `backend_ok`. -/
def backendOkChecked (geometry : NvGeometry) : Except CodeFault Bool :=
  if geometry.sectorCount < 2 ∨ geometry.writeBlock = 0 ∨
      geometry.writeBlock > nvstoreWriteBlockMax then pure false
  else do
    let behindPayload ←
      addWord (UInt32.ofNat nvstoreHeaderSize) (UInt32.ofNat nvstorePayloadMax)
    let behindCrc ← addWord behindPayload 2
    let imageMax ← addWord behindCrc geometry.writeBlock
    if geometry.sectorSize < imageMax then pure false else pure true

theorem backendOkChecked_ok (geometry : NvGeometry) :
    backendOkChecked geometry = .ok (backendOk geometry) := by
  rw [backendOkChecked, backendOk]
  by_cases unusable : geometry.sectorCount < 2 ∨ geometry.writeBlock = 0 ∨
      geometry.writeBlock > nvstoreWriteBlockMax
  · rw [if_pos unusable, if_pos unusable]
    rfl
  · have blockLe : geometry.writeBlock.toNat ≤ nvstoreWriteBlockMax.toNat :=
      UInt32.le_iff_toNat_le.mp (UInt32.not_lt.mp fun large => unusable (.inr (.inr large)))
    have behindPayload :
        addWord (UInt32.ofNat nvstoreHeaderSize) (UInt32.ofNat nvstorePayloadMax) = .ok 1548 :=
      addWord_ok _ _ (by decide)
    have behindCrc : addWord 1548 2 =
        .ok (UInt32.ofNat (nvstoreHeaderSize + nvstorePayloadMax + 2)) :=
      addWord_ok _ _ (by decide)
    have imageMax := addWord_ok
      (UInt32.ofNat (nvstoreHeaderSize + nvstorePayloadMax + 2)) geometry.writeBlock
      (Nat.lt_of_le_of_lt (Nat.add_le_add_left blockLe _) (by decide))
    rw [if_neg unusable, if_neg unusable, behindPayload, code_bind, behindCrc, code_bind,
      imageMax, code_bind]
    exact (apply_ite Except.ok _ _ _).symm

theorem backendOk_block_le {geometry : NvGeometry} (accepted : backendOk geometry = true) :
    geometry.writeBlock.toNat ≤ nvstoreWriteBlockMax.toNat := by
  by_contra large
  have unusable : geometry.sectorCount < 2 ∨ geometry.writeBlock = 0 ∨
      geometry.writeBlock > nvstoreWriteBlockMax :=
    .inr (.inr (UInt32.lt_iff_toNat_lt.mpr (Nat.lt_of_not_le large)))
  rw [backendOk, if_pos unusable] at accepted
  contradiction

/-! ### The sizes -/

/-- `raw_size` and `padded_size`. -/
structure ImageSizes where
  raw : UInt32
  padded : UInt32
deriving DecidableEq, Repr

def nvstoreSizesChecked (writeBlock : UInt32) (payloadLen : UInt16) :
    Except CodeFault ImageSizes := do
  let behindPayload ← addWord (UInt32.ofNat nvstoreHeaderSize) payloadLen.toUInt32
  let raw ← addWord behindPayload 2
  let padded ← roundUpChecked raw writeBlock
  pure { raw := raw, padded := padded }

/-- Header, payload and checksum, padded to whole write blocks, within the buffer and
the sector. -/
structure SizesFit (geometry : NvGeometry) (payloadLen : UInt16) (sizes : ImageSizes) : Prop where
  raw : sizes.raw.toNat = nvstoreHeaderSize + payloadLen.toNat + 2
  padded : sizes.padded.toNat = roundUp sizes.raw.toNat geometry.writeBlock.toNat
  whole : geometry.writeBlock.toNat ∣ sizes.padded.toNat
  raw_le : sizes.raw.toNat ≤ sizes.padded.toNat
  buffer : sizes.padded.toNat ≤ nvstoreImageMax
  sector : sizes.padded.toNat ≤ geometry.sectorSize.toNat

theorem nvstoreSizesChecked_fit {geometry : NvGeometry} (accepted : backendOk geometry = true)
    (payloadLen : UInt16) (small : payloadLen.toNat ≤ nvstorePayloadMax) :
    ∃ sizes, nvstoreSizesChecked geometry.writeBlock payloadLen = .ok sizes ∧
      SizesFit geometry payloadLen sizes := by
  have fits := backendOk_fits accepted
  have positive := fits.block_pos
  have sectorSize := fits.image
  have blockLe := backendOk_block_le accepted
  have header : (UInt32.ofNat nvstoreHeaderSize).toNat = nvstoreHeaderSize := rfl
  have two : (2 : UInt32).toNat = 2 := rfl
  have len : payloadLen.toUInt32.toNat = payloadLen.toNat := UInt16.toNat_toUInt32 _
  simp only [nvstoreHeaderSize, nvstorePayloadMax, nvstoreWriteBlockMax, UInt32.reduceToNat]
    at header small blockLe
  obtain ⟨behindPayload, payloadAdded, behindPayloadIs⟩ := addWord_exact
    (UInt32.ofNat nvstoreHeaderSize) payloadLen.toUInt32
    (by simp only [nvstoreHeaderSize, UInt32.size]; omega)
  obtain ⟨raw, crcAdded, rawIs⟩ := addWord_exact behindPayload 2
    (by simp only [nvstoreHeaderSize, UInt32.size] at behindPayloadIs ⊢; omega)
  have rawLen : raw.toNat = nvstoreHeaderSize + payloadLen.toNat + 2 := by
    rw [rawIs, behindPayloadIs, two, len]
    rfl
  have rawLe : raw.toNat ≤ 1550 := by
    simp only [nvstoreHeaderSize] at rawLen
    omega
  obtain ⟨padded, rounded, paddedIs⟩ := roundUpChecked_exact raw positive
    (by simp only [UInt32.size]; omega)
  have rounds := roundUp_spec positive raw.toNat
  rw [← paddedIs] at rounds
  have next := rounds.next
  have bufferSize : nvstoreImageMax = 1614 := rfl
  refine ⟨{ raw := raw, padded := padded }, ?_, ?_⟩
  · rw [nvstoreSizesChecked, payloadAdded, code_bind, crcAdded, code_bind, rounded, code_bind]
    rfl
  · exact {
      raw := rawLen
      padded := paddedIs
      whole := rounds.multiple
      raw_le := rounds.bytes_le
      buffer := by simp only [bufferSize]; omega
      sector := by simp only; omega }

/-! ### The image -/

def nvstoreBuildHeader (newSeq : UInt32) (payloadLen : UInt16)
    (image : Vector UInt8 nvstoreImageMax) :
    Except AccessFault (Vector UInt8 nvstoreImageMax) := do
  let image ← writeRun nvstoreMagic 0 image
  let image ← writeRun (put16 nvstoreFormatVersion) 4 image
  let image ← writeRun (put32 newSeq) 6 image
  writeRun (put16 payloadLen) 10 image

/-- The payload behind the header, and the checksum over both. -/
def nvstoreBuildBody (payload : List UInt8) (payloadLen : UInt16)
    (image : Vector UInt8 nvstoreImageMax) :
    Except CodeFault (Vector UInt8 nvstoreImageMax) := do
  let image ← fillWordsChecked (readAt payload) (UInt32.ofNat nvstoreHeaderSize)
    payloadLen.toNat 0 image
  -- the size the checksum is taken over is a `size_t`, the slot behind it a word
  let front ← access (readFront image (nvstoreHeaderSize + payloadLen.toNat))
  let crcOff ← addWord (UInt32.ofNat nvstoreHeaderSize) payloadLen.toUInt32
  access (writeRun (put16 (crc16CcittFalse front)) crcOff.toNat image)

/-- The image and its padding, written into the buffer front to back. -/
def nvstoreBuildImage (newSeq writeBlock : UInt32) (payload : List UInt8) (payloadLen : UInt16)
    (image : Vector UInt8 nvstoreImageMax) :
    Except CodeFault (Vector UInt8 nvstoreImageMax × ImageSizes) := do
  let image ← access (nvstoreBuildHeader newSeq payloadLen image)
  let image ← nvstoreBuildBody payload payloadLen image
  let sizes ← nvstoreSizesChecked writeBlock payloadLen
  let image ← fillWordsChecked (fun _ => .ok 0xFF) sizes.raw
    (sizes.padded.toNat - sizes.raw.toNat) 0 image
  pure (image, sizes)

theorem nvstoreBuildHeader_filled (newSeq : UInt32) (payloadLen : Nat)
    (image : Vector UInt8 nvstoreImageMax) :
    ∃ after, nvstoreBuildHeader newSeq (UInt16.ofNat payloadLen) image = .ok after ∧
      Filled after (nvstoreHeader newSeq payloadLen) := by
  obtain ⟨first, magic, firstFilled⟩ :=
    writeRun_filled (filled_nil image) nvstoreMagic (by decide)
  obtain ⟨second, version, secondFilled⟩ :=
    writeRun_filled firstFilled (put16 nvstoreFormatVersion) (by decide)
  obtain ⟨third, seq, thirdFilled⟩ :=
    writeRun_filled secondFilled (put32 newSeq) (by decide : 6 + 4 ≤ nvstoreImageMax)
  obtain ⟨after, len, filled⟩ := writeRun_filled thirdFilled
    (put16 (UInt16.ofNat payloadLen)) (by decide : 10 + 2 ≤ nvstoreImageMax)
  refine ⟨after, ?_, filled⟩
  -- the slot behind each field is the one the source writes the next at
  change writeRun _ 0 _ = _ at magic
  change writeRun _ 4 _ = _ at version
  change writeRun _ 6 _ = _ at seq
  change writeRun _ 10 _ = _ at len
  rw [nvstoreBuildHeader, magic, checked_bind, version, checked_bind, seq, checked_bind, len]

section Sized

variable {store : Nvstore}

theorem Nvstore.Sized.len_toNat (sized : store.Sized) :
    (UInt16.ofNat store.payloadLen).toNat = store.payloadLen :=
  UInt16.toNat_ofNat_of_lt' (Nat.lt_of_le_of_lt sized.len_le (by decide))

theorem nvstoreBuildBody_filled (sized : store.Sized) (newSeq : UInt32)
    {image : Vector UInt8 nvstoreImageMax}
    (headerFilled : Filled image (nvstoreHeader newSeq store.payloadLen)) :
    ∃ after, nvstoreBuildBody store.payload (UInt16.ofNat store.payloadLen) image = .ok after ∧
      Filled after (nvstoreImage newSeq (nvPayload store)) := by
  have length := nvPayload_length sized
  have lenLe : store.payloadLen ≤ 1536 := sized.len_le
  have header : (UInt32.ofNat nvstoreHeaderSize).toNat = 12 := rfl
  have bufferSize : nvstoreImageMax = 1614 := rfl
  -- the payload behind the header
  obtain ⟨withPayload, payloadCopied, payloadFilled⟩ := fillWordsChecked_filled
    (readAt store.payload) (fun index => store.payload.getD index 0)
    (UInt32.ofNat nvstoreHeaderSize) store.payloadLen 0 headerFilled rfl
    (by rw [nvstoreHeader_length, bufferSize, nvstoreHeaderSize]; omega) (by decide)
    (fun index below => readAt_ok (by rw [sized.buffer, nvstorePayloadMax]; omega) 0)
  rw [← List.range_eq_range', map_getD_take (by rw [sized.buffer]; exact sized.len_le),
    ← nvPayload] at payloadFilled
  -- the checksum behind the payload
  have frontLength : (nvstoreHeader newSeq store.payloadLen ++ nvPayload store).length =
      nvstoreHeaderSize + store.payloadLen := by
    rw [List.length_append, nvstoreHeader_length, length]
  have frontRead := readFront_filled payloadFilled
  obtain ⟨crcOff, offAdded, offIs⟩ := addWord_exact (UInt32.ofNat nvstoreHeaderSize)
    (UInt16.ofNat store.payloadLen).toUInt32
    (by rw [UInt16.toNat_toUInt32, sized.len_toNat, header, UInt32.size]; omega)
  rw [UInt16.toNat_toUInt32, sized.len_toNat, header] at offIs
  obtain ⟨after, crcWritten, filled⟩ := writeRun_filled payloadFilled
    (put16 (crc16CcittFalse (nvstoreHeader newSeq store.payloadLen ++ nvPayload store)))
    (by rw [frontLength, put16_length, bufferSize, nvstoreHeaderSize]; omega)
  rw [frontLength] at frontRead crcWritten
  refine ⟨after, ?_, ?_⟩
  · rw [nvstoreBuildBody, sized.len_toNat, payloadCopied, code_bind, frontRead, access_ok,
      code_bind, offAdded, code_bind, offIs]
    exact congrArg access crcWritten
  · rw [nvstoreImage, length]
    exact filled

theorem nvstorePadded_roundUp (writeBlock : UInt32) (image : List UInt8) :
    nvstorePadded writeBlock image = image ++
      List.replicate (roundUp image.length writeBlock.toNat - image.length) 0xFF := rfl

/-- What a save hands to the backend: the padded image at the front of the buffer. -/
structure ImageBuilt (geometry : NvGeometry) (newSeq : UInt32) (store : Nvstore)
    (built : Vector UInt8 nvstoreImageMax × ImageSizes) : Prop where
  fits : SizesFit geometry (UInt16.ofNat store.payloadLen) built.2
  filled : Filled built.1
    (nvstorePadded geometry.writeBlock (nvstoreImage newSeq (nvPayload store)))
  length : (nvstorePadded geometry.writeBlock (nvstoreImage newSeq (nvPayload store))).length =
    built.2.padded.toNat

theorem nvstoreBuildImage_built {geometry : NvGeometry} (accepted : backendOk geometry = true)
    (newSeq : UInt32) (sized : store.Sized) (image : Vector UInt8 nvstoreImageMax) :
    ∃ built, nvstoreBuildImage newSeq geometry.writeBlock store.payload
        (UInt16.ofNat store.payloadLen) image = .ok built ∧
      ImageBuilt geometry newSeq store built := by
  obtain ⟨withHeader, headerBuilt, headerFilled⟩ :=
    nvstoreBuildHeader_filled newSeq store.payloadLen image
  obtain ⟨withBody, bodyBuilt, bodyFilled⟩ := nvstoreBuildBody_filled sized newSeq headerFilled
  obtain ⟨sizes, sizesComputed, fits⟩ := nvstoreSizesChecked_fit accepted
    (UInt16.ofNat store.payloadLen) (by rw [sized.len_toNat]; exact sized.len_le)
  have rawIs : sizes.raw.toNat = (nvstoreImage newSeq (nvPayload store)).length := by
    rw [fits.raw, sized.len_toNat, nvstoreImage_length, nvPayload_length sized]
  have room := fits.buffer
  have rawLe := fits.raw_le
  obtain ⟨padded, paddingWritten, paddedFilled⟩ := fillWordsChecked_filled
    (fun _ => .ok 0xFF) (fun _ => 0xFF) sizes.raw (sizes.padded.toNat - sizes.raw.toNat) 0
    bodyFilled rawIs
    (by omega) (by decide) (fun _ _ => rfl)
  have isPadded : nvstoreImage newSeq (nvPayload store) ++
      (List.range' 0 (sizes.padded.toNat - sizes.raw.toNat)).map (fun _ => (0xFF : UInt8)) =
        nvstorePadded geometry.writeBlock (nvstoreImage newSeq (nvPayload store)) := by
    rw [List.map_const', List.length_range', nvstorePadded_roundUp, fits.padded, rawIs]
  refine ⟨(padded, sizes), ?_, ?_⟩
  · rw [nvstoreBuildImage, headerBuilt, access_ok, code_bind, bodyBuilt, code_bind,
      sizesComputed, code_bind, paddingWritten, code_bind]
    rfl
  · refine ⟨fits, isPadded ▸ paddedFilled, ?_⟩
    rw [nvstorePadded_roundUp, List.length_append, List.length_replicate, ← rawIs, ← fits.padded]
    exact Nat.add_sub_cancel' rawLe

end Sized

end FswCore
