import FswCore.Nvstore.Image

/-!
Contract: load and save on a flash device whose reads succeed.

Owns:
- `imageSlots`, the two sectors as a two-slot store of stamped payloads;
- load takes the newest copy, or reports that there is none;
- save leaves a complete image in its target sector, or what its fault left
  there, and touches no other sector.
-/

namespace FswCore

open Library Library.BigEndian

/-- The valid part of the payload buffer. -/
def nvPayload (store : Nvstore) : List UInt8 := store.payload.take store.payloadLen

structure Nvstore.Sized (store : Nvstore) : Prop where
  buffer : store.payload.length = nvstorePayloadMax
  len_le : store.payloadLen ≤ nvstorePayloadMax

theorem nvPayload_length {store : Nvstore} (sized : store.Sized) :
    (nvPayload store).length = store.payloadLen := by
  rw [nvPayload, List.length_take, sized.buffer, Nat.min_eq_left sized.len_le]

/-- What an accepted geometry provides. -/
structure GeometryFits (geometry : NvGeometry) : Prop where
  sectors : 2 ≤ geometry.sectorCount.toNat
  block_pos : 0 < geometry.writeBlock.toNat
  image : 1550 + geometry.writeBlock.toNat ≤ geometry.sectorSize.toNat

theorem backendOk_fits {geometry : NvGeometry} (accepted : backendOk geometry = true) :
    GeometryFits geometry := by
  by_cases unusable : geometry.sectorCount < 2 ∨ geometry.writeBlock = 0 ∨
      geometry.writeBlock > nvstoreWriteBlockMax
  · rw [backendOk, if_pos unusable] at accepted
    contradiction
  by_cases small : geometry.sectorSize <
      UInt32.ofNat (nvstoreHeaderSize + nvstorePayloadMax + 2) + geometry.writeBlock
  · simp only [backendOk, if_neg unusable, if_pos small, Bool.false_eq_true] at accepted
  have largest : (UInt32.ofNat (nvstoreHeaderSize + nvstorePayloadMax + 2)).toNat = 1550 := rfl
  simp only [not_or, UInt32.not_lt, UInt32.le_iff_toNat_le, nvstoreWriteBlockMax, gt_iff_lt,
    ← UInt32.toNat_inj, UInt32.toNat_add, UInt32.reduceToNat, largest] at unusable small
  obtain ⟨sectors, nonzero, blockLe⟩ := unusable
  exact ⟨sectors, by omega, by omega⟩

/-- The sector a slot stands for. -/
def sectorOf : Fin 2 → UInt32
  | 0 => 0
  | 1 => 1

variable {geometry : NvGeometry}

/-- The two sectors load examines, each with the image it holds. -/
def imageSlots (flash : Flash geometry) : Fin 2 → Option (Stamped (List UInt8)) := fun slot =>
  (readImage (flash (sectorOf slot)).bytes).map fun image => ⟨image.seq.toNat, image.payload⟩

/-! ### Load -/

theorem sectorOf_lt (fits : GeometryFits geometry) (slot : Fin 2) :
    sectorOf slot < geometry.sectorCount := by
  have sectors := fits.sectors
  rw [UInt32.lt_iff_toNat_lt]
  match slot with
  | 0 => exact Nat.lt_of_lt_of_le (by decide) sectors
  | 1 => exact Nat.lt_of_lt_of_le (by decide) sectors

theorem flashRead_inside (fits : GeometryFits geometry) (flash : Flash geometry) (slot : Fin 2)
    {off len : Nat} (inside : off + len ≤ 1550) :
    flashRead flash (sectorOf slot) off len =
      some (window (flash (sectorOf slot)).bytes off len) := by
  have size := fits.image
  rw [flashRead, if_pos ⟨sectorOf_lt fits slot, by omega⟩]

/-- What the header checks see of a sector. -/
structure HeaderRead (flash : Flash geometry) (slot : Fin 2) (header : List UInt8) : Prop where
  read : flashRead flash (sectorOf slot) 0 nvstoreHeaderSize = some header
  front : header = (flash (sectorOf slot)).bytes.take nvstoreHeaderSize
  magic : magicMatches header = magicMatches (flash (sectorOf slot)).bytes
  version : be16At header 4 = be16At (flash (sectorOf slot)).bytes 4
  len : (be16At header 10).toNat = imageLen (flash (sectorOf slot)).bytes
  seq : be32At header 6 = be32At (flash (sectorOf slot)).bytes 6

theorem headerRead (fits : GeometryFits geometry) (flash : Flash geometry) (slot : Fin 2) :
    HeaderRead flash slot ((flash (sectorOf slot)).bytes.take nvstoreHeaderSize) where
  read := flashRead_inside fits flash slot (by decide)
  front := rfl
  magic := magicMatches_take (by decide)
  version := be16At_take (by decide)
  len := congrArg UInt16.toNat (be16At_take (by decide))
  seq := be32At_take (by decide)

/-- What the reads behind a header see of a sector. -/
structure BodyRead (flash : Flash geometry) (slot : Fin 2) (len : Nat) : Prop where
  payload : (if len > 0 then flashRead flash (sectorOf slot) nvstoreHeaderSize len else some []) =
    some (window (flash (sectorOf slot)).bytes nvstoreHeaderSize len)
  crc : flashRead flash (sectorOf slot) (nvstoreHeaderSize + len) 2 =
    some (window (flash (sectorOf slot)).bytes (nvstoreHeaderSize + len) 2)
  length : (window (flash (sectorOf slot)).bytes nvstoreHeaderSize len).length = len

theorem bodyRead (fits : GeometryFits geometry) (flash : Flash geometry) (slot : Fin 2) {len : Nat}
    (len_le : len ≤ nvstorePayloadMax) : BodyRead flash slot len := by
  have size := fits.image
  have sectorSize := (flash (sectorOf slot)).size_eq
  have bounded : nvstoreHeaderSize + len + 2 ≤ 1550 := by
    simp only [nvstoreHeaderSize, nvstorePayloadMax] at len_le ⊢
    omega
  constructor
  · split
    · exact flashRead_inside fits flash slot (by omega)
    · rename_i empty
      rw [Nat.eq_zero_of_not_pos empty, window, List.take_zero]
  · exact flashRead_inside fits flash slot bounded
  · exact window_length _ (by omega)

section Load

variable (fault : FlashFault geometry) (flash : Flash geometry)

theorem nvstoreHeaderSeq_eq (fits : GeometryFits geometry) (slot : Fin 2) :
    nvstoreHeaderSeq (flashBackend geometry fault) flash (sectorOf slot) =
      if HeaderValid (flash (sectorOf slot)).bytes then
        some (be32At (flash (sectorOf slot)).bytes 6)
      else none := by
  have header := headerRead fits flash slot
  simp only [nvstoreHeaderSeq, flashBackend, header.read, header.magic, header.version,
    header.len, header.seq]
  exact ite_headerValid _ _ _

/-- What an attempt at a sector leaves: its image at the front of the buffer, or
a buffer nobody looks at. -/
structure TryLoadSpec (store : Nvstore) (found : Option NvImage)
    (result : Option (UInt32 × Nat) × Nvstore) : Prop where
  outcome : result.1 = found.map fun image => (image.seq, image.payload.length)
  buffer : result.2.payload.length = nvstorePayloadMax
  payload : ∀ image, found = some image →
    result.2.payload.take image.payload.length = image.payload

theorem nvstoreTryLoadSector_spec (fits : GeometryFits geometry) {store : Nvstore}
    (buffer : store.payload.length = nvstorePayloadMax) (slot : Fin 2) :
    TryLoadSpec store (readImage (flash (sectorOf slot)).bytes)
      (nvstoreTryLoadSector (flashBackend geometry fault) flash store (sectorOf slot)) := by
  have header := headerRead fits flash slot
  simp only [nvstoreTryLoadSector, flashBackend, header.read, header.magic, header.version,
    header.len, header.seq, ite_headerValid]
  by_cases valid : HeaderValid (flash (sectorOf slot)).bytes
  · have body := bodyRead fits flash slot valid.len_le
    have windowLength := body.length
    simp only [if_pos valid, body.payload, body.crc]
    generalize (flash (sectorOf slot)).bytes = bytes at *
    have payloadLe := valid.len_le
    have loaded : (patch store.payload 0 (window bytes nvstoreHeaderSize (imageLen bytes))).take
        (imageLen bytes) = window bytes nvstoreHeaderSize (imageLen bytes) := by
      have taken := take_patch store.payload
        (window bytes nvstoreHeaderSize (imageLen bytes)) (Nat.zero_le _)
      simpa [windowLength] using taken
    have loadedLength : (patch store.payload 0
        (window bytes nvstoreHeaderSize (imageLen bytes))).length = nvstorePayloadMax := by
      rw [patch_length _ (by omega), buffer]
    have crcOnFlash : be16At (window bytes (nvstoreHeaderSize + imageLen bytes) 2) 0 =
        be16At bytes (nvstoreHeaderSize + imageLen bytes) := be16At_window (Nat.le_refl 2)
    have combined : bytes.take nvstoreHeaderSize ++
        window bytes nvstoreHeaderSize (imageLen bytes) =
          bytes.take (nvstoreHeaderSize + imageLen bytes) := List.take_add.symm
    simp only [loaded, crcOnFlash]
    rw [combined, readImage]
    by_cases intact : crc16CcittFalse (bytes.take (nvstoreHeaderSize + imageLen bytes)) =
        be16At bytes (nvstoreHeaderSize + imageLen bytes)
    · rw [if_neg (not_not_intro intact), if_pos ⟨valid, intact⟩]
      refine ⟨by simp [windowLength], loadedLength, fun image found => ?_⟩
      obtain rfl := Option.some.inj found
      simp only [windowLength]
      exact loaded
    · rw [if_pos intact, if_neg fun both => intact both.2]
      exact ⟨rfl, loadedLength, by simp⟩
  · rw [readImage_of_headerInvalid valid, if_neg valid]
    exact ⟨rfl, buffer, by simp⟩

/-- The two ends of an attempt. -/
inductive Attempted : Option NvImage → Option (UInt32 × Nat) × Nvstore → Prop where
  | missed (after : Nvstore) (buffer : after.payload.length = nvstorePayloadMax) :
      Attempted none (none, after)
  | loaded (image : NvImage) (after : Nvstore)
      (buffer : after.payload.length = nvstorePayloadMax)
      (payload : after.payload.take image.payload.length = image.payload) :
      Attempted (some image) (some (image.seq, image.payload.length), after)

theorem TryLoadSpec.attempted {store : Nvstore} {found : Option NvImage}
    {result : Option (UInt32 × Nat) × Nvstore} (tried : TryLoadSpec store found result) :
    Attempted found result := by
  obtain ⟨outcome, after⟩ := result
  have outcomeIs := tried.outcome
  cases found with
  | none =>
      simp only [Option.map_none] at outcomeIs
      subst outcomeIs
      exact .missed after tried.buffer
  | some image =>
      simp only [Option.map_some] at outcomeIs
      subst outcomeIs
      exact .loaded image after tried.buffer (tried.payload image rfl)

/-! ### Load as a whole -/

/-- What a load leaves, for the newest copy it found. -/
def LoadsAs (result : NvstoreStatus × Nvstore) :
    Option (Fin 2 × Stamped (List UInt8)) → Prop
  | none => result.1 = .errNoValidImage ∧ result.2.Sized ∧ result.2.loaded = false ∧
      result.2.loadedSeq = 0 ∧ nvPayload result.2 = []
  | some (slot, copy) => result.1 = .ok ∧ result.2.Sized ∧ result.2.loaded = true ∧
      result.2.loadedSector = sectorOf slot ∧ result.2.loadedSeq.toNat = copy.stamp ∧
      nvPayload result.2 = copy.value

/-- The attempts take the first sector in their order that holds an image. -/
theorem nvstoreLoadPasses_spec (fits : GeometryFits geometry) (order : List (Fin 2))
    (store : Nvstore) (buffer : store.payload.length = nvstorePayloadMax) :
    LoadsAs (nvstoreLoadPasses (flashBackend geometry fault) flash (order.map sectorOf) store)
      (order.findSome? fun slot => (imageSlots flash slot).map (slot, ·)) := by
  induction order generalizing store with
  | nil =>
      refine ⟨rfl, ⟨buffer, Nat.zero_le _⟩, rfl, rfl, ?_⟩
      simp [nvstoreLoadPasses, nvPayload]
  | cons slot rest inductionHypothesis =>
      rw [List.map_cons, nvstoreLoadPasses, nvstoreHeaderSeq_eq fault flash fits slot]
      by_cases valid : HeaderValid (flash (sectorOf slot)).bytes
      · rw [if_pos valid, if_neg (by simp)]
        have attempt := (nvstoreTryLoadSector_spec fault flash fits buffer slot).attempted
        generalize nvstoreTryLoadSector (flashBackend geometry fault) flash store
          (sectorOf slot) = result at attempt ⊢
        generalize found : readImage (flash (sectorOf slot)).bytes = image at attempt
        rw [List.findSome?_cons]
        cases attempt with
        | missed after kept => simpa [imageSlots, found] using inductionHypothesis after kept
        | loaded image after kept payload =>
            have len_le := readImage_payload_length found
            simp only [imageSlots, found, Option.map_some]
            exact ⟨rfl, ⟨kept, len_le⟩, rfl, rfl, rfl, payload⟩
      · have noImage := readImage_of_headerInvalid valid
        rw [if_neg valid, if_pos Option.isNone_none, List.findSome?_cons]
        simpa [imageSlots, noImage] using inductionHypothesis store buffer

/-- A sector that holds an image passes the header check with its sequence. -/
theorem nvstoreHeaderSeq_of_image (fits : GeometryFits geometry) {slot : Fin 2}
    {image : NvImage} (found : readImage (flash (sectorOf slot)).bytes = some image) :
    nvstoreHeaderSeq (flashBackend geometry fault) flash (sectorOf slot) = some image.seq := by
  have valid : HeaderValid (flash (sectorOf slot)).bytes := by
    by_contra invalid
    rw [readImage_of_headerInvalid invalid] at found
    contradiction
  have isSeq : image.seq = be32At (flash (sectorOf slot)).bytes 6 := by
    unfold readImage at found
    split at found
    · rw [← Option.some.inj found]
    · contradiction
  rw [nvstoreHeaderSeq_eq fault flash fits slot, if_pos valid, isSeq]

theorem nvstoreHeaderSeq_of_slot (fits : GeometryFits geometry) {slot : Fin 2}
    {copy : Stamped (List UInt8)} (present : imageSlots flash slot = some copy) :
    ∃ seq : UInt32, seq.toNat = copy.stamp ∧
      nvstoreHeaderSeq (flashBackend geometry fault) flash (sectorOf slot) = some seq := by
  obtain ⟨image, found, rfl⟩ := Option.map_eq_some_iff.mp present
  exact ⟨image.seq, rfl, nvstoreHeaderSeq_of_image fault flash fits found⟩

/-- Trying the higher header first finds the newest image: a header without an
image behind it is passed over. -/
theorem newest_eq_findSome? (fits : GeometryFits geometry) :
    newest (imageSlots flash) =
      (if nvstoreSecondFirst (nvstoreHeaderSeq (flashBackend geometry fault) flash 0)
          (nvstoreHeaderSeq (flashBackend geometry fault) flash 1) then [1, 0]
        else [0, 1]).findSome? fun slot : Fin 2 => (imageSlots flash slot).map (slot, ·) := by
  cases first : imageSlots flash 0 with
  | none =>
      cases second : imageSlots flash 1 with
      | none => split <;> simp [newest, first, second]
      | some newer => split <;> simp [newest, first, second]
  | some older =>
      cases second : imageSlots flash 1 with
      | none => split <;> simp [newest, first, second]
      | some newer =>
          obtain ⟨firstSeq, firstStamp, firstHeader⟩ :=
            nvstoreHeaderSeq_of_slot fault flash fits first
          obtain ⟨secondSeq, secondStamp, secondHeader⟩ :=
            nvstoreHeaderSeq_of_slot fault flash fits second
          simp only [sectorOf] at firstHeader secondHeader
          have compare : nvstoreSecondFirst (some firstSeq) (some secondSeq) =
              decide (older.stamp < newer.stamp) := by
            simp only [nvstoreSecondFirst, gt_iff_lt, UInt32.lt_iff_toNat_lt, firstStamp,
              secondStamp]
          rw [firstHeader, secondHeader, compare]
          by_cases higher : older.stamp < newer.stamp <;>
            simp [newest, first, second, higher]

/-- Load takes the newest copy. -/
theorem nvstoreLoad_spec (accepted : backendOk geometry = true) (store : Nvstore)
    (buffer : store.payload.length = nvstorePayloadMax) :
    LoadsAs (nvstoreLoad (flashBackend geometry fault) flash store)
      (newest (imageSlots flash)) := by
  have fits := backendOk_fits accepted
  have usable : ¬ backendOk (flashBackend geometry fault).geometry = false := by
    simp [flashBackend, accepted]
  rw [newest_eq_findSome? fault flash fits, nvstoreLoad, if_neg usable]
  generalize nvstoreSecondFirst _ _ = secondFirst
  cases secondFirst with
  | true => exact nvstoreLoadPasses_spec fault flash fits [1, 0] store buffer
  | false => exact nvstoreLoadPasses_spec fault flash fits [0, 1] store buffer

end Load

/-! ### Save -/

theorem nvstorePadded_length_le (geometry : NvGeometry) (fits : GeometryFits geometry)
    {image : List UInt8} (small : image.length ≤ 1550) :
    (nvstorePadded geometry.writeBlock image).length ≤ geometry.sectorSize.toNat := by
  have size := fits.image
  have positive := fits.block_pos
  have rounded := Nat.div_mul_le_self
    (image.length + geometry.writeBlock.toNat - 1) geometry.writeBlock.toNat
  simp only [nvstorePadded, List.length_append, List.length_replicate]
  omega

/-- The bytes a complete save leaves: the image, padding, and erased flash. -/
theorem patch_erased (size : Nat) (bytes : List UInt8) :
    patch (List.replicate size 0xFF) 0 bytes =
      bytes ++ List.replicate (size - bytes.length) 0xFF := by
  simp [patch]

/-- What a save does, for each fault. -/
structure SaveSpec (fault : FlashFault geometry) (flash : Flash geometry) (store : Nvstore)
    (result : NvstoreStatus × Nvstore × Flash geometry) : Prop where
  done : fault = .none → ∃ sector,
    readImage sector.bytes = some { seq := store.loadedSeq + 1, payload := nvPayload store } ∧
    result = (.ok, { store with
      loadedSeq := store.loadedSeq + 1
      loadedSector := nvstoreTarget geometry store
      loaded := true }, Function.update flash (nvstoreTarget geometry store) sector)
  stopped : ∀ residue, fault = .duringErase residue ∨ fault = .duringWrite residue →
    result = (.errBackend, store, Function.update flash (nvstoreTarget geometry store) residue)

theorem nvstoreTarget_lt (fits : GeometryFits geometry) (store : Nvstore) :
    nvstoreTarget geometry store < geometry.sectorCount := by
  have sectors := fits.sectors
  unfold nvstoreTarget
  split
  · rw [UInt32.lt_iff_toNat_lt, UInt32.toNat_mod]
    exact Nat.mod_lt _ (by omega)
  · rw [UInt32.lt_iff_toNat_lt]
    exact Nat.lt_of_lt_of_le (by decide) sectors

theorem flashErase_none (flash : Flash geometry) {sector : UInt32}
    (inRange : sector < geometry.sectorCount) :
    flashErase .none flash sector = (true, Function.update flash sector (erasedSector _)) := by
  simp only [flashErase, if_pos inRange]

theorem flashErase_duringErase (flash : Flash geometry) {sector : UInt32}
    (inRange : sector < geometry.sectorCount) (residue : Sector geometry.sectorSize.toNat) :
    flashErase (.duringErase residue) flash sector =
      (false, Function.update flash sector residue) := by
  rw [flashErase, if_pos inRange]

theorem flashErase_duringWrite (flash : Flash geometry) {sector : UInt32}
    (inRange : sector < geometry.sectorCount) (residue : Sector geometry.sectorSize.toNat) :
    flashErase (.duringWrite residue) flash sector =
      (true, Function.update flash sector (erasedSector _)) := by
  simp only [flashErase, if_pos inRange]

/-- A write into a sector just erased. -/
theorem flashWrite_erased (fault : FlashFault geometry) (flash : Flash geometry)
    {sector : UInt32} (inRange : sector < geometry.sectorCount) {bytes : List UInt8}
    (inside : bytes.length ≤ geometry.sectorSize.toNat) :
    ∃ written : Sector geometry.sectorSize.toNat,
      written.bytes = bytes ++ List.replicate (geometry.sectorSize.toNat - bytes.length) 0xFF ∧
      flashWrite fault (Function.update flash sector (erasedSector _)) sector 0 bytes =
        match fault with
        | .duringWrite residue => (false, Function.update flash sector residue)
        | _ => (true, Function.update flash sector written) := by
  have erased : (Function.update flash sector (erasedSector geometry.sectorSize.toNat) sector) =
      erasedSector _ := Function.update_self ..
  have room : sector < geometry.sectorCount ∧ 0 + bytes.length ≤
      (Function.update flash sector (erasedSector geometry.sectorSize.toNat)
        sector).bytes.length := by
    rw [erased, (erasedSector _).size_eq, Nat.zero_add]
    exact ⟨inRange, inside⟩
  refine ⟨⟨_, (patch_length _ room.2).trans (Sector.size_eq _)⟩, ?_, ?_⟩
  · simp only [erased]
    exact patch_erased _ bytes
  · rw [flashWrite, dif_pos room]
    cases fault <;> simp only [Function.update_idem]

theorem nvstoreSave_spec (accepted : backendOk geometry = true) (fault : FlashFault geometry)
    (flash : Flash geometry) {store : Nvstore} (sized : store.Sized) :
    SaveSpec fault flash store (nvstoreSave (flashBackend geometry fault) flash store) := by
  have fits := backendOk_fits accepted
  have inRange := nvstoreTarget_lt fits store
  have payloadLe : (nvPayload store).length ≤ nvstorePayloadMax := by
    rw [nvPayload_length sized]
    exact sized.len_le
  have imageLe : (nvstoreImage (store.loadedSeq + 1) (nvPayload store)).length ≤ 1550 := by
    rw [nvstoreImage_length]
    simp only [nvstoreHeaderSize, nvstorePayloadMax] at payloadLe ⊢
    omega
  have padded := nvstorePadded_length_le geometry fits imageLe
  obtain ⟨written, writtenIs, write⟩ := flashWrite_erased fault flash inRange padded
  have usable : ¬ backendOk (flashBackend geometry fault).geometry = false := by
    simp [flashBackend, accepted]
  rw [nvstoreSave, if_neg usable]
  simp only [flashBackend]
  rw [← nvPayload]
  constructor
  · rintro rfl
    refine ⟨written, ?_, ?_⟩
    · rw [writtenIs, nvstorePadded, List.append_assoc]
      exact readImage_nvstoreImage _ _ payloadLe
    · simp only [flashErase_none flash inRange, write]
  · rintro residue (rfl | rfl)
    · simp only [flashErase_duringErase flash inRange]
    · simp only [flashErase_duringWrite flash inRange, write]

end FswCore
