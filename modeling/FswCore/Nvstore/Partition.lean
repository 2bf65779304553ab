import FswCore.Library.CheckedWord
import FswCore.Library.Numbering
import FswCore.Nvstore.PowerLoss

/-!
Contract: `samples/tc_uart/src/nv_flash_backend.c`, the backend over one partition.

Owns:
- the backend's translation of a sector and an offset into the partition;
- `BackendsAgree`: backends that agree on the calls the store makes give the same
  store, whatever else they do;
- over a partition that behaves as documented, every run of the store is the run over
  a flash of two sectors, with the same faults;
- without the partition, no run reaches the device.

`FlashArea` stands for Zephyr's flash map. The offset type is taken to be wide enough
for the partition.
-/

namespace FswCore

open Library Library.BigEndian

variable {σ τ : Type}

/-! ### The backend -/

/-- The flash map's calls on the partition: whether it opens, the sizes of its first two
sectors, if it has as many, its alignment, and the accesses. -/
structure FlashArea (σ : Type) where
  opened : Bool
  sectors : Option (UInt32 × UInt32)
  align : UInt32
  read : σ → Nat → Nat → Option (List UInt8)
  write : σ → Nat → List UInt8 → Bool × σ
  erase : σ → Nat → Nat → Bool × σ

/-- `nv_flash_sector_size`, where `nv_flash_area` is set. -/
def nvFlashSectorSize (area : FlashArea σ) : Option UInt32 :=
  if area.opened = false then none else area.sectors.map Prod.fst

def nvFlashOffset (sectorSize sector : UInt32) (off : Nat) : Nat :=
  sector.toNat * sectorSize.toNat + off

def nvFlashRead (area : FlashArea σ) (device : σ) (sector : UInt32) (off len : Nat) :
    Option (List UInt8) :=
  match nvFlashSectorSize area with
  | none => none
  | some sectorSize => area.read device (nvFlashOffset sectorSize sector off) len

def nvFlashWrite (area : FlashArea σ) (device : σ) (sector : UInt32) (off : Nat)
    (bytes : List UInt8) : Bool × σ :=
  match nvFlashSectorSize area with
  | none => (false, device)
  | some sectorSize => area.write device (nvFlashOffset sectorSize sector off) bytes

def nvFlashErase (area : FlashArea σ) (device : σ) (sector : UInt32) : Bool × σ :=
  match nvFlashSectorSize area with
  | none => (false, device)
  | some sectorSize =>
      area.erase device (nvFlashOffset sectorSize sector 0) sectorSize.toNat

/-- `migris_fsw_nv_flash_backend`: of a partition that does not open, or has no two
sectors, the geometry is all zero. -/
def fswNvFlashBackend (area : FlashArea σ) : NvBackend σ where
  geometry :=
    match nvFlashSectorSize area with
    | none => { sectorSize := 0, sectorCount := 0, writeBlock := 0 }
    | some sectorSize => { sectorSize := sectorSize, sectorCount := 2, writeBlock := area.align }
  read := nvFlashRead area
  write := nvFlashWrite area
  erase := nvFlashErase area

/-! ### Backends that agree -/

/-- A save writes whole blocks. -/
theorem nvstorePadded_blocks {writeBlock : UInt32} (positive : 0 < writeBlock.toNat)
    (image : List UInt8) : (nvstorePadded writeBlock image).length % writeBlock.toNat = 0 := by
  obtain ⟨⟨blocks, multiple⟩, notBelow, _⟩ := roundUp_spec positive image.length
  have length : (nvstorePadded writeBlock image).length =
      roundUp image.length writeBlock.toNat := by
    change (image ++
      List.replicate (roundUp image.length writeBlock.toNat - image.length) 0xFF).length = _
    rw [List.length_append, List.length_replicate, Nat.add_sub_cancel' notBelow]
  rw [length, multiple, Nat.mul_mod_right]

/-- They agree on reads inside a sector, on erases, and on writes at the front of a
sector that has just been erased. -/
structure BackendsAgree (first : NvBackend σ) (second : NvBackend τ) (Related : σ → τ → Prop)
    (Erased : σ → UInt32 → Prop) : Prop where
  geometry : first.geometry = second.geometry
  read : ∀ {device image sector off len}, Related device image →
    sector < first.geometry.sectorCount → off + len ≤ first.geometry.sectorSize.toNat →
    first.read device sector off len = second.read image sector off len
  erase : ∀ {device image sector}, Related device image → sector < first.geometry.sectorCount →
    (first.erase device sector).1 = (second.erase image sector).1 ∧
      Related (first.erase device sector).2 (second.erase image sector).2 ∧
      ((first.erase device sector).1 = true → Erased (first.erase device sector).2 sector)
  write : ∀ {device image sector bytes}, Related device image →
    sector < first.geometry.sectorCount → Erased device sector →
    bytes.length ≤ first.geometry.sectorSize.toNat →
    bytes.length % first.geometry.writeBlock.toNat = 0 →
    (first.write device sector 0 bytes).1 = (second.write image sector 0 bytes).1 ∧
      Related (first.write device sector 0 bytes).2 (second.write image sector 0 bytes).2

namespace BackendsAgree

variable {first : NvBackend σ} {second : NvBackend τ} {Related : σ → τ → Prop}
variable {Erased : σ → UInt32 → Prop} {device : σ} {image : τ}

/-- The header of a sector is inside it. -/
theorem readHeader (agree : BackendsAgree first second Related Erased)
    (fits : GeometryFits first.geometry) (related : Related device image) {sector : UInt32}
    (below : sector < first.geometry.sectorCount) :
    first.read device sector 0 nvstoreHeaderSize = second.read image sector 0 nvstoreHeaderSize := by
  apply agree.read related below
  have size := fits.image
  rw [nvstoreHeaderSize]
  omega

theorem headerSeq (agree : BackendsAgree first second Related Erased)
    (fits : GeometryFits first.geometry) (related : Related device image) {sector : UInt32}
    (below : sector < first.geometry.sectorCount) :
    nvstoreHeaderSeq first device sector = nvstoreHeaderSeq second image sector := by
  rw [nvstoreHeaderSeq, nvstoreHeaderSeq, agree.readHeader fits related below]

/-- So are the payload and its checksum. -/
theorem tryLoadSector (agree : BackendsAgree first second Related Erased)
    (fits : GeometryFits first.geometry) (related : Related device image) {sector : UInt32}
    (below : sector < first.geometry.sectorCount) (store : Nvstore) :
    nvstoreTryLoadSector first device store sector =
      nvstoreTryLoadSector second image store sector := by
  have size := fits.image
  rw [nvstoreTryLoadSector, nvstoreTryLoadSector, agree.readHeader fits related below]
  cases second.read image sector 0 nvstoreHeaderSize with
  | none => rfl
  | some header =>
      simp only
      split
      · rfl
      split
      · rfl
      split
      · rfl
      rename_i small
      rw [nvstorePayloadMax] at small
      have body : nvstoreHeaderSize + (be16At header 10).toNat ≤
          first.geometry.sectorSize.toNat := by
        rw [nvstoreHeaderSize]
        omega
      have checksum : nvstoreHeaderSize + (be16At header 10).toNat + 2 ≤
          first.geometry.sectorSize.toNat := by
        rw [nvstoreHeaderSize]
        omega
      rw [agree.read related below body, agree.read related below checksum]

theorem loadPasses (agree : BackendsAgree first second Related Erased)
    (fits : GeometryFits first.geometry) (related : Related device image) {order : List UInt32}
    (below : ∀ sector ∈ order, sector < first.geometry.sectorCount) (store : Nvstore) :
    nvstoreLoadPasses first device order store = nvstoreLoadPasses second image order store := by
  induction order generalizing store with
  | nil => rfl
  | cons sector rest inductionHypothesis =>
      have here := below sector List.mem_cons_self
      have later := inductionHypothesis fun other member =>
        below other (List.mem_cons_of_mem sector member)
      simp only [nvstoreLoadPasses, agree.headerSeq fits related here,
        agree.tryLoadSector fits related here store, later]

theorem load (agree : BackendsAgree first second Related Erased) (related : Related device image)
    (store : Nvstore) : nvstoreLoad first device store = nvstoreLoad second image store := by
  rw [nvstoreLoad, nvstoreLoad, ← agree.geometry]
  by_cases refused : backendOk first.geometry = false
  · rw [if_pos refused, if_pos refused]
  have fits := backendOk_fits (eq_true_of_ne_false refused)
  have zero : (0 : UInt32) < first.geometry.sectorCount := sectorOf_lt fits 0
  have one : (1 : UInt32) < first.geometry.sectorCount := sectorOf_lt fits 1
  rw [if_neg refused, if_neg refused, agree.headerSeq fits related zero,
    agree.headerSeq fits related one]
  apply agree.loadPasses fits related
  split
  · simp [zero, one]
  · simp [zero, one]

/-- A save erases its target, and then writes an image that fits it. -/
theorem save (agree : BackendsAgree first second Related Erased) (related : Related device image)
    {store : Nvstore} (sized : store.Sized) :
    (nvstoreSave first device store).1 = (nvstoreSave second image store).1 ∧
      (nvstoreSave first device store).2.1 = (nvstoreSave second image store).2.1 ∧
      Related (nvstoreSave first device store).2.2 (nvstoreSave second image store).2.2 := by
  rw [nvstoreSave, nvstoreSave, ← agree.geometry]
  by_cases refused : backendOk first.geometry = false
  · rw [if_pos refused, if_pos refused]
    exact ⟨rfl, rfl, related⟩
  have fits := backendOk_fits (eq_true_of_ne_false refused)
  rw [if_neg refused, if_neg refused]
  have target := nvstoreTarget_lt fits store
  have imageLe : (nvstoreImage (store.loadedSeq + 1) (nvPayload store)).length ≤ 1550 := by
    have payloadLe := sized.len_le
    rw [nvstoreImage_length, nvPayload_length sized]
    simp only [nvstoreHeaderSize, nvstorePayloadMax] at payloadLe ⊢
    omega
  have padded := nvstorePadded_length_le first.geometry fits imageLe
  have blocks := nvstorePadded_blocks fits.block_pos
    (nvstoreImage (store.loadedSeq + 1) (nvPayload store))
  obtain ⟨erased, after, isErased⟩ := agree.erase related target
  simp only [nvPayload] at padded blocks ⊢
  generalize first.erase device (nvstoreTarget first.geometry store) = firstErase at *
  generalize second.erase image (nvstoreTarget first.geometry store) = secondErase at *
  obtain ⟨done, device⟩ := firstErase
  obtain ⟨alsoDone, image⟩ := secondErase
  simp only at erased after isErased
  subst erased
  cases done with
  | false => exact ⟨rfl, rfl, after⟩
  | true =>
      obtain ⟨written, final⟩ := agree.write after target (isErased rfl) padded blocks
      simp only
      generalize first.write device _ 0 _ = firstWrite at *
      generalize second.write image _ 0 _ = secondWrite at *
      obtain ⟨done, device⟩ := firstWrite
      obtain ⟨alsoDone, image⟩ := secondWrite
      simp only at written final
      subst written
      cases done with
      | false => exact ⟨rfl, rfl, final⟩
      | true => exact ⟨rfl, rfl, final⟩

end BackendsAgree

/-! ### The partition -/

section Partition

variable {geometry : NvGeometry}

/-- The first two sectors of the partition. -/
def partitionFlash (geometry : NvGeometry) (bytes : List UInt8) : Flash geometry := fun sector =>
  if fits : sector < 2 ∧
      sector.toNat * geometry.sectorSize.toNat + geometry.sectorSize.toNat ≤ bytes.length then
    ⟨window bytes (sector.toNat * geometry.sectorSize.toNat) geometry.sectorSize.toNat,
      window_length bytes fits.2⟩
  else erasedSector _

/-- What is behind them. -/
def partitionRest (geometry : NvGeometry) (bytes : List UInt8) : List UInt8 :=
  bytes.drop (2 * geometry.sectorSize.toNat)

theorem sector_inside {bytes : List UInt8} (room : 2 * geometry.sectorSize.toNat ≤ bytes.length)
    {sector : UInt32} (below : sector < 2) :
    sector.toNat * geometry.sectorSize.toNat + geometry.sectorSize.toNat ≤ bytes.length := by
  have few : sector.toNat + 1 ≤ 2 := UInt32.lt_iff_toNat_lt.mp below
  have whole := Nat.mul_le_mul_right geometry.sectorSize.toNat few
  rw [Nat.add_mul, Nat.one_mul] at whole
  exact Nat.le_trans whole room

theorem partitionFlash_bytes {bytes : List UInt8}
    (room : 2 * geometry.sectorSize.toNat ≤ bytes.length) {sector : UInt32} (below : sector < 2) :
    (partitionFlash geometry bytes sector).bytes =
      window bytes (sector.toNat * geometry.sectorSize.toNat) geometry.sectorSize.toNat := by
  rw [partitionFlash, dif_pos ⟨below, sector_inside room below⟩]

/-- What is stored in one sector leaves the other alone. -/
theorem partitionFlash_patch {bytes data : List UInt8}
    (room : 2 * geometry.sectorSize.toNat ≤ bytes.length) {sector : UInt32} (below : sector < 2)
    (fits : data.length ≤ geometry.sectorSize.toNat)
    {after : Sector geometry.sectorSize.toNat}
    (stored : after.bytes = patch (partitionFlash geometry bytes sector).bytes 0 data) :
    partitionFlash geometry
        (patch bytes (sector.toNat * geometry.sectorSize.toNat) data) =
      Function.update (partitionFlash geometry bytes) sector after := by
  have inside := sector_inside room below
  have length : (patch bytes (sector.toNat * geometry.sectorSize.toNat) data).length =
      bytes.length := patch_length bytes (by omega)
  have roomAfter := room
  rw [← length] at roomAfter
  funext other
  by_cases same : other = sector
  · subst same
    rw [Function.update_self]
    apply Sector.ext
    rw [stored, partitionFlash_bytes roomAfter below, partitionFlash_bytes room below]
    exact window_patch bytes (Nat.le_trans (Nat.le_of_eq (Nat.zero_add _)) fits) inside
  · rw [Function.update_of_ne same]
    by_cases otherBelow : other < 2
    · apply Sector.ext
      rw [partitionFlash_bytes roomAfter otherBelow, partitionFlash_bytes room otherBelow]
      apply window_patch_apart bytes (by omega)
      have different : other.toNat ≠ sector.toNat := fun equal => same (UInt32.toNat_inj.mp equal)
      have otherFew : other.toNat < 2 := UInt32.lt_iff_toNat_lt.mp otherBelow
      have few : sector.toNat < 2 := UInt32.lt_iff_toNat_lt.mp below
      rcases Nat.lt_or_gt_of_ne different with before | behind
      · left
        have zero : other.toNat = 0 := by omega
        have one : sector.toNat = 1 := by omega
        rw [zero, one]
        omega
      · right
        have zero : sector.toNat = 0 := by omega
        have one : other.toNat = 1 := by omega
        rw [zero, one]
        omega
    · rw [partitionFlash, partitionFlash, dif_neg fun both => otherBelow both.1,
        dif_neg fun both => otherBelow both.1]

/-- What is stored in a sector leaves what is behind the two alone. -/
theorem partitionRest_patch {bytes data : List UInt8}
    (room : 2 * geometry.sectorSize.toNat ≤ bytes.length) {sector : UInt32} (below : sector < 2)
    (fits : data.length ≤ geometry.sectorSize.toNat) :
    partitionRest geometry (patch bytes (sector.toNat * geometry.sectorSize.toNat) data) =
      partitionRest geometry bytes := by
  have few : sector.toNat + 1 ≤ 2 := UInt32.lt_iff_toNat_lt.mp below
  have whole := Nat.mul_le_mul_right geometry.sectorSize.toNat few
  rw [Nat.add_mul, Nat.one_mul] at whole
  exact drop_patch bytes (by omega) (by omega)

/-- The partition of a device with two sectors of this geometry, and what is documented
of its accesses: inside it a read reads, an erase of a sector and a write of blocks to
erased flash succeed, unless the fault stops them. -/
structure FlashArea.Documented (area : FlashArea σ) (geometry : NvGeometry)
    (bytes : σ → List UInt8) (fault : FlashFault geometry) : Prop where
  opened : area.opened = true
  sectors : area.sectors.map Prod.fst = some geometry.sectorSize
  align : area.align = geometry.writeBlock
  two : geometry.sectorCount = 2
  blocks : geometry.sectorSize.toNat % geometry.writeBlock.toNat = 0
  room : ∀ device, 2 * geometry.sectorSize.toNat ≤ (bytes device).length
  read : ∀ device off len, off + len ≤ (bytes device).length →
    area.read device off len = some (window (bytes device) off len)
  erase : ∀ device off, off % geometry.sectorSize.toNat = 0 →
    off + geometry.sectorSize.toNat ≤ (bytes device).length →
    (∀ residue, fault ≠ .duringErase residue) →
    (area.erase device off geometry.sectorSize.toNat).1 = true ∧
      bytes (area.erase device off geometry.sectorSize.toNat).2 =
        patch (bytes device) off (List.replicate geometry.sectorSize.toNat 0xFF)
  eraseStops : ∀ device off residue, off % geometry.sectorSize.toNat = 0 →
    off + geometry.sectorSize.toNat ≤ (bytes device).length → fault = .duringErase residue →
    (area.erase device off geometry.sectorSize.toNat).1 = false ∧
      bytes (area.erase device off geometry.sectorSize.toNat).2 =
        patch (bytes device) off residue.bytes
  write : ∀ device off data, off % geometry.writeBlock.toNat = 0 →
    data.length % geometry.writeBlock.toNat = 0 → off + data.length ≤ (bytes device).length →
    window (bytes device) off data.length = List.replicate data.length 0xFF →
    (∀ residue, fault ≠ .duringWrite residue) →
    (area.write device off data).1 = true ∧
      bytes (area.write device off data).2 = patch (bytes device) off data
  writeStops : ∀ device off data residue, off % geometry.sectorSize.toNat = 0 →
    off + geometry.sectorSize.toNat ≤ (bytes device).length →
    data.length ≤ geometry.sectorSize.toNat → fault = .duringWrite residue →
    (area.write device off data).1 = false ∧
      bytes (area.write device off data).2 = patch (bytes device) off residue.bytes

namespace FlashArea.Documented

variable {area : FlashArea σ} {bytes : σ → List UInt8} {fault : FlashFault geometry}

theorem sectorSize (documented : area.Documented geometry bytes fault) :
    nvFlashSectorSize area = some geometry.sectorSize := by
  rw [nvFlashSectorSize, documented.opened, documented.sectors]
  rfl

theorem readsAgree (documented : area.Documented geometry bytes fault) {device : σ}
    {sector : UInt32} (below : sector < geometry.sectorCount) {off len : Nat}
    (inside : off + len ≤ geometry.sectorSize.toNat) :
    nvFlashRead area device sector off len =
      flashRead (partitionFlash geometry (bytes device)) sector off len := by
  have room := documented.room device
  have isTwo : sector < 2 := documented.two ▸ below
  have sectorInside := sector_inside room isTwo
  rw [nvFlashRead, documented.sectorSize, flashRead, if_pos ⟨below, inside⟩,
    partitionFlash_bytes room isTwo, window_window _ inside]
  exact documented.read device _ len (by rw [nvFlashOffset]; omega)

/-- Whatever fills the sector leaves the other alone. -/
theorem sectorFilled (documented : area.Documented geometry bytes fault) (device : σ)
    {sector : UInt32} (isTwo : sector < 2) (after : Sector geometry.sectorSize.toNat) :
    partitionFlash geometry (patch (bytes device) (sector.toNat * geometry.sectorSize.toNat)
        after.bytes) =
      Function.update (partitionFlash geometry (bytes device)) sector after := by
  apply partitionFlash_patch (documented.room device) isTwo (Nat.le_of_eq after.size_eq)
  exact (patch_whole (after.size_eq.trans
    (partitionFlash geometry (bytes device) sector).size_eq.symm)).symm

theorem erasesAgree (documented : area.Documented geometry bytes fault) {device : σ}
    {sector : UInt32} (below : sector < geometry.sectorCount) :
    (nvFlashErase area device sector).1 =
        (flashErase fault (partitionFlash geometry (bytes device)) sector).1 ∧
      partitionFlash geometry (bytes (nvFlashErase area device sector).2) =
        (flashErase fault (partitionFlash geometry (bytes device)) sector).2 ∧
      partitionRest geometry (bytes (nvFlashErase area device sector).2) =
        partitionRest geometry (bytes device) ∧
      ((nvFlashErase area device sector).1 = true →
        (partitionFlash geometry (bytes (nvFlashErase area device sector).2) sector).bytes =
          List.replicate geometry.sectorSize.toNat 0xFF) := by
  have isTwo : sector < 2 := documented.two ▸ below
  have sectorInside := sector_inside (documented.room device) isTwo
  have atSector : sector.toNat * geometry.sectorSize.toNat % geometry.sectorSize.toNat = 0 :=
    Nat.mul_mod_left _ _
  unfold flashErase
  rw [nvFlashErase, documented.sectorSize, if_pos below]
  cases fault with
  | duringErase residue =>
      obtain ⟨stopped, after⟩ := documented.eraseStops device _ residue atSector sectorInside rfl
      refine ⟨stopped, ?_, ?_, fun done => absurd (stopped.symm.trans done) Bool.false_ne_true⟩
      · exact (congrArg (partitionFlash geometry) after).trans
          (documented.sectorFilled device isTwo residue)
      · exact (congrArg (partitionRest geometry) after).trans
          (partitionRest_patch (documented.room device) isTwo (Nat.le_of_eq residue.size_eq))
  | none | duringWrite =>
      obtain ⟨done, after⟩ := documented.erase device _ atSector sectorInside
        fun residue isErase => by contradiction
      have erased := (congrArg (partitionFlash geometry) after).trans
        (documented.sectorFilled device isTwo (erasedSector _))
      refine ⟨done, erased, ?_, fun _ => ?_⟩
      · exact (congrArg (partitionRest geometry) after).trans
          (partitionRest_patch (documented.room device) isTwo
            (Nat.le_of_eq List.length_replicate))
      · refine (congrArg (fun flash => Sector.bytes (flash sector)) erased).trans ?_
        rw [Function.update_self]
        rfl

theorem writesAgree (documented : area.Documented geometry bytes fault) {device : σ}
    {sector : UInt32} (below : sector < geometry.sectorCount)
    (erased : (partitionFlash geometry (bytes device) sector).bytes =
      List.replicate geometry.sectorSize.toNat 0xFF) {data : List UInt8}
    (fits : data.length ≤ geometry.sectorSize.toNat)
    (blocks : data.length % geometry.writeBlock.toNat = 0) :
    (nvFlashWrite area device sector 0 data).1 =
        (flashWrite fault (partitionFlash geometry (bytes device)) sector 0 data).1 ∧
      partitionFlash geometry (bytes (nvFlashWrite area device sector 0 data).2) =
        (flashWrite fault (partitionFlash geometry (bytes device)) sector 0 data).2 ∧
      partitionRest geometry (bytes (nvFlashWrite area device sector 0 data).2) =
        partitionRest geometry (bytes device) := by
  have room := documented.room device
  have isTwo : sector < 2 := documented.two ▸ below
  have sectorInside := sector_inside room isTwo
  have atSector : sector.toNat * geometry.sectorSize.toNat % geometry.sectorSize.toNat = 0 :=
    Nat.mul_mod_left _ _
  have inside : sector < geometry.sectorCount ∧
      0 + data.length ≤ (partitionFlash geometry (bytes device) sector).bytes.length := by
    refine ⟨below, ?_⟩
    rw [(partitionFlash geometry (bytes device) sector).size_eq, Nat.zero_add]
    exact fits
  unfold flashWrite
  rw [nvFlashWrite, documented.sectorSize, dif_pos inside]
  cases fault with
  | duringWrite residue =>
      obtain ⟨stopped, after⟩ := documented.writeStops device _ data residue atSector sectorInside
        fits rfl
      exact ⟨stopped, (congrArg (partitionFlash geometry) after).trans
        (documented.sectorFilled device isTwo residue),
        (congrArg (partitionRest geometry) after).trans
          (partitionRest_patch room isTwo (Nat.le_of_eq residue.size_eq))⟩
  | none | duringErase =>
      have atBlock : sector.toNat * geometry.sectorSize.toNat % geometry.writeBlock.toNat = 0 := by
        rw [Nat.mul_mod, documented.blocks, Nat.mul_zero, Nat.zero_mod]
      have clear : window (bytes device) (sector.toNat * geometry.sectorSize.toNat) data.length =
          List.replicate data.length 0xFF := by
        have front : window (window (bytes device) (sector.toNat * geometry.sectorSize.toNat)
            geometry.sectorSize.toNat) 0 data.length = window (bytes device) _ data.length :=
          window_window (bytes device) (Nat.le_trans (Nat.le_of_eq (Nat.zero_add _)) fits)
        rw [← partitionFlash_bytes room isTwo, erased, Nat.add_zero] at front
        rw [← front, window_zero, List.take_replicate, Nat.min_eq_left fits]
      obtain ⟨done, after⟩ := documented.write device _ data atBlock blocks (by omega) clear
        fun residue isWrite => by contradiction
      exact ⟨done, (congrArg (partitionFlash geometry) after).trans
        (partitionFlash_patch room isTwo fits rfl),
        (congrArg (partitionRest geometry) after).trans (partitionRest_patch room isTwo fits)⟩

/-- The backend over the partition agrees with the flash of its two sectors, and leaves
the rest alone. -/
theorem agrees (documented : area.Documented geometry bytes fault) (rest : List UInt8) :
    BackendsAgree (fswNvFlashBackend area) (flashBackend geometry fault)
      (fun device flash => partitionFlash geometry (bytes device) = flash ∧
        partitionRest geometry (bytes device) = rest)
      (fun device sector => (partitionFlash geometry (bytes device) sector).bytes =
        List.replicate geometry.sectorSize.toNat 0xFF) := by
  have isGeometry : (fswNvFlashBackend area).geometry = geometry := by
    simp only [fswNvFlashBackend, documented.sectorSize, documented.align, ← documented.two]
  refine ⟨isGeometry, ?_, ?_, ?_⟩
  · rintro device _ sector off len ⟨rfl, _⟩ below inside
    rw [isGeometry] at below inside
    exact documented.readsAgree below inside
  · rintro device _ sector ⟨rfl, rfl⟩ below
    rw [isGeometry] at below
    obtain ⟨status, sectors, behind, erased⟩ := documented.erasesAgree below
    exact ⟨status, ⟨sectors, behind⟩, erased⟩
  · rintro device _ sector data ⟨rfl, rfl⟩ below erased fits blocks
    rw [isGeometry] at below fits blocks
    exact documented.writesAgree below erased fits blocks

end FlashArea.Documented

/-! ### Runs -/

/-- A start-up on whatever the RAM holds, or a call; a save meets a fault or none. -/
inductive PartitionOp (geometry : NvGeometry) where
  | reboot (memory : Nvstore) (buffer : memory.payload.length = nvstorePayloadMax)
  | load
  | put (recordType : UInt8) (bytes : List UInt8)
  | save (fault : FlashFault geometry)

/-- The store over a device, whose backend meets the fault of the operation. -/
def partitionStep (backend : FlashFault geometry → NvBackend σ) (state : σ × Nvstore) :
    PartitionOp geometry → (σ × Nvstore) × NvstoreStatus
  | .reboot memory _ =>
      let (status, store) := nvstoreLoad (backend .none) state.1 (nvstoreInit memory)
      ((state.1, store), status)
  | .load =>
      let (status, store) := nvstoreLoad (backend .none) state.1 state.2
      ((state.1, store), status)
  | .put recordType bytes =>
      let (status, store) := nvstorePut state.2 recordType bytes
      ((state.1, store), status)
  | .save fault =>
      let (status, store, device) := nvstoreSave (backend fault) state.1 state.2
      ((device, store), status)

theorem nvstoreLoad_sized (fault : FlashFault geometry) (flash : Flash geometry) {store : Nvstore}
    (sized : store.Sized) : (nvstoreLoad (flashBackend geometry fault) flash store).2.Sized := by
  by_cases accepted : backendOk geometry = true
  · have loads := nvstoreLoad_spec fault flash accepted store sized.buffer
    cases found : newest (imageSlots flash) with
    | none =>
        rw [found] at loads
        exact loads.2.1
    | some held =>
        rw [found] at loads
        exact loads.2.1
  · have refused : nvstoreLoad (flashBackend geometry fault) flash store = (.errGeometry, store) :=
      if_pos (eq_false_of_ne_true accepted)
    rw [refused]
    exact sized

theorem nvstoreSave_sized (fault : FlashFault geometry) (flash : Flash geometry) {store : Nvstore}
    (sized : store.Sized) :
    (nvstoreSave (flashBackend geometry fault) flash store).2.1.Sized := by
  simp only [nvstoreSave]
  split
  · exact sized
  · split
    · exact sized
    · split
      · exact sized
      · exact ⟨sized.buffer, sized.len_le⟩

/-- The device holds the two sectors, and this behind them, and the store is the same. -/
structure PartitionHolds (geometry : NvGeometry) (bytes : σ → List UInt8) (rest : List UInt8)
    (state : σ × Nvstore) (image : Flash geometry × Nvstore) : Prop where
  flash : partitionFlash geometry (bytes state.1) = image.1
  behind : partitionRest geometry (bytes state.1) = rest
  store : state.2 = image.2
  sized : state.2.Sized

theorem partitionStep_refines {areas : FlashFault geometry → FlashArea σ} {bytes : σ → List UInt8}
    (documented : ∀ fault, (areas fault).Documented geometry bytes fault) {rest : List UInt8}
    (state : σ × Nvstore) (image : Flash geometry × Nvstore) (op : PartitionOp geometry)
    (holds : PartitionHolds geometry bytes rest state image) :
    (partitionStep (fun fault => fswNvFlashBackend (areas fault)) state op).2 =
        (partitionStep (flashBackend geometry) image op).2 ∧
      PartitionHolds geometry bytes rest
        (partitionStep (fun fault => fswNvFlashBackend (areas fault)) state op).1
        (partitionStep (flashBackend geometry) image op).1 := by
  obtain ⟨device, store⟩ := state
  obtain ⟨flash, _⟩ := image
  obtain ⟨sectors, behind, rfl, sized⟩ := holds
  simp only at sectors behind sized
  cases op with
  | reboot memory buffer =>
      have init : (nvstoreInit memory).Sized := ⟨buffer, Nat.zero_le _⟩
      have loads := ((documented .none).agrees rest).load ⟨sectors, behind⟩ (nvstoreInit memory)
      refine ⟨congrArg Prod.fst loads, sectors, behind, congrArg Prod.snd loads, ?_⟩
      change (nvstoreLoad (fswNvFlashBackend (areas .none)) device (nvstoreInit memory)).2.Sized
      rw [loads]
      exact nvstoreLoad_sized .none flash init
  | load =>
      have loads := ((documented .none).agrees rest).load ⟨sectors, behind⟩ store
      refine ⟨congrArg Prod.fst loads, sectors, behind, congrArg Prod.snd loads, ?_⟩
      change (nvstoreLoad (fswNvFlashBackend (areas .none)) device store).2.Sized
      rw [loads]
      exact nvstoreLoad_sized .none flash sized
  | put recordType bytes =>
      exact ⟨rfl, sectors, behind, rfl, nvstorePut_sized sized recordType bytes⟩
  | save fault =>
      obtain ⟨status, saved, after⟩ :=
        ((documented fault).agrees rest).save ⟨sectors, behind⟩ sized
      refine ⟨status, after.1, after.2, saved, ?_⟩
      change (nvstoreSave (fswNvFlashBackend (areas fault)) device store).2.1.Sized
      rw [saved]
      exact nvstoreSave_sized fault flash sized

/-- For every order of loads, puts, saves, faults and reboots, the store over the
partition replies, holds and leaves on flash what it does over two sectors: neither
reaches into the other, and what is behind them stays as it is. -/
theorem partitionRun_refines {areas : FlashFault geometry → FlashArea σ} {bytes : σ → List UInt8}
    (documented : ∀ fault, (areas fault).Documented geometry bytes fault) (device : σ)
    {store : Nvstore} (sized : store.Sized) (ops : List (PartitionOp geometry)) :
    let run := outputs (partitionStep fun fault => fswNvFlashBackend (areas fault))
      (device, store) ops
    let image := outputs (partitionStep (flashBackend geometry))
      (partitionFlash geometry (bytes device), store) ops
    run.2 = image.2 ∧ partitionFlash geometry (bytes run.1.1) = image.1.1 ∧
      run.1.2 = image.1.2 ∧
      partitionRest geometry (bytes run.1.1) = partitionRest geometry (bytes device) := by
  have start : PartitionHolds geometry bytes (partitionRest geometry (bytes device))
      (device, store) (partitionFlash geometry (bytes device), store) := ⟨rfl, rfl, rfl, sized⟩
  obtain ⟨replies, final⟩ := outputs_simulates (partitionStep_refines documented) start ops
  exact ⟨replies, final.flash, final.store, final.behind⟩

/-- Bytes stored where they fit. -/
def storeInside {size : Nat} (device : Sector size) (off : Nat) (data : List UInt8) :
    Sector size :=
  if fits : off + data.length ≤ device.bytes.length then
    ⟨patch device.bytes off data, (patch_length _ fits).trans device.size_eq⟩
  else device

theorem storeInside_bytes {size : Nat} (device : Sector size) {off : Nat} {data : List UInt8}
    (fits : off + data.length ≤ device.bytes.length) :
    (storeInside device off data).bytes = patch device.bytes off data := by
  rw [storeInside, dif_pos fits]

/-- A partition of two sectors, as a list of bytes. -/
def listArea (geometry : NvGeometry) (fault : FlashFault geometry) :
    FlashArea (Sector (2 * geometry.sectorSize.toNat)) where
  opened := true
  sectors := some (geometry.sectorSize, geometry.sectorSize)
  align := geometry.writeBlock
  read device off len :=
    if off + len ≤ device.bytes.length then some (window device.bytes off len) else none
  write device off data :=
    match fault with
    | .duringWrite residue => (false, storeInside device off residue.bytes)
    | _ => (true, storeInside device off data)
  erase device off len :=
    match fault with
    | .duringErase residue => (false, storeInside device off residue.bytes)
    | _ => (true, storeInside device off (List.replicate len 0xFF))

theorem listArea_documented (two : geometry.sectorCount = 2)
    (blocks : geometry.sectorSize.toNat % geometry.writeBlock.toNat = 0)
    (fault : FlashFault geometry) :
    (listArea geometry fault).Documented geometry Sector.bytes fault where
  opened := rfl
  sectors := rfl
  align := rfl
  two := two
  blocks := blocks
  room device := Nat.le_of_eq device.size_eq.symm
  read _ _ _ inside := if_pos inside
  erase device off _ inside working := by
    have stored : (storeInside device off (List.replicate geometry.sectorSize.toNat 0xFF)).bytes =
        patch device.bytes off (List.replicate geometry.sectorSize.toNat 0xFF) :=
      storeInside_bytes device (by rw [List.length_replicate]; exact inside)
    cases fault with
    | duringErase residue => exact absurd rfl (working residue)
    | none | duringWrite => exact ⟨rfl, stored⟩
  eraseStops device off residue _ inside stops := by
    subst stops
    exact ⟨rfl, storeInside_bytes device (by rw [residue.size_eq]; exact inside)⟩
  write device off data _ _ inside _ working := by
    cases fault with
    | duringWrite residue => exact absurd rfl (working residue)
    | none | duringErase => exact ⟨rfl, storeInside_bytes device inside⟩
  writeStops device off _ residue _ inside _ stops := by
    subst stops
    exact ⟨rfl, storeInside_bytes device (by rw [residue.size_eq]; exact inside)⟩

/-- Two records, saved, then a save that a cut ends, and a start-up. -/
theorem partitionRun_refines_cut :
    let geometry : NvGeometry := { sectorSize := 2048, sectorCount := 2, writeBlock := 32 }
    let ops : List (PartitionOp geometry) :=
      [.put 1 [7], .save .none, .put 2 [8, 9], .save (.duringWrite (erasedSector _)),
        .reboot nvstoreZero List.length_replicate]
    let erased := erasedSector (2 * geometry.sectorSize.toNat)
    (outputs (partitionStep fun fault => fswNvFlashBackend (listArea geometry fault))
        (erased, nvstoreZero) ops).2 =
      (outputs (partitionStep (flashBackend geometry))
        (partitionFlash geometry erased.bytes, nvstoreZero) ops).2 := by
  intro geometry ops erased
  have documented : ∀ fault, (listArea geometry fault).Documented geometry Sector.bytes fault :=
    listArea_documented rfl (by decide)
  exact (partitionRun_refines documented erased
    ⟨List.length_replicate, Nat.zero_le _⟩ ops).1

/-- Without the partition the store refuses every load and save and touches nothing. -/
theorem fswNvFlashBackend_unresolved {area : FlashArea σ} (missing : nvFlashSectorSize area = none)
    (device : σ) (store : Nvstore) :
    nvstoreLoad (fswNvFlashBackend area) device store = (.errGeometry, store) ∧
      nvstoreSave (fswNvFlashBackend area) device store = (.errGeometry, store, device) := by
  have refused : backendOk (fswNvFlashBackend area).geometry = false := by
    simp only [fswNvFlashBackend, missing]
    rfl
  exact ⟨if_pos refused, if_pos refused⟩

end Partition

end FswCore
