import FswCore.Nvstore.SaveImage
import FswCore.Nvstore.TransientLoad

/-!
Contract: a save with every access to its buffer and its sector and every 32-bit
computation checked.

Owns:
- `nvstoreSaveChecked`, for a way to count the sequence number up;
- `NvSaveRun`, the stores that loads, puts and saves lead to, and that their sector is
  one of the device;
- where the sequence number counts modulo 2^32 such a save is `nvstoreSave`, for every
  geometry and payload; its increment is the one computation that can wrap.
-/

namespace FswCore

open Library

/-! ### A save -/

def nvstoreTargetChecked (geometry : NvGeometry) (store : Nvstore) : Except CodeFault UInt32 :=
  if store.loaded then do
    let next ← addWord store.loadedSector 1
    modWord next geometry.sectorCount
  else pure 0

/-- An access to a sector of the device. -/
def sectorAccess (geometry : NvGeometry) (sector : UInt32) (off len : Nat) :
    Except AccessFault Unit :=
  if sector < geometry.sectorCount ∧ off + len ≤ geometry.sectorSize.toNat then .ok ()
  else .error .write

section Save

variable {σ : Type}

/-- `migris_nvstore_save`; `stack` is what the image buffer held, and `increment` adds
one to a sequence number. -/
def nvstoreSaveChecked (increment : UInt32 → Except CodeFault UInt32) (backend : NvBackend σ)
    (stack : Vector UInt8 nvstoreImageMax) (device : σ) (store : Nvstore) :
    Except CodeFault (NvstoreStatus × Nvstore × σ) := do
  let usable ← backendOkChecked backend.geometry
  if usable = false then pure (.errGeometry, store, device)
  else
    let target ← nvstoreTargetChecked backend.geometry store
    let newSeq ← increment store.loadedSeq
    let built ← nvstoreBuildImage newSeq backend.geometry.writeBlock store.payload
      (UInt16.ofNat store.payloadLen) stack
    access (sectorAccess backend.geometry target 0 backend.geometry.sectorSize.toNat)
    match backend.erase device target with
    | (false, device) => pure (.errBackend, store, device)
    | (true, device) => do
        access (sectorAccess backend.geometry target 0 built.2.padded.toNat)
        let bytes ← access (readFront built.1 built.2.padded.toNat)
        match backend.write device target 0 bytes with
        | (false, device) => pure (.errBackend, store, device)
        | (true, device) => pure (.ok,
            { store with loadedSeq := newSeq, loadedSector := target, loaded := true }, device)

end Save

/-- Modulo 2^32, as unsigned arithmetic is. -/
def countUp (seq : UInt32) : Except CodeFault UInt32 := .ok (seq + 1)

/-- A wrap is a fault, as it is for the sizes. -/
def countUpChecked (seq : UInt32) : Except CodeFault UInt32 := addWord seq 1

/-! ### The sector of the loaded image -/

/-- The sector a loaded image lives in is one of the device. -/
def Nvstore.SectorKnown (store : Nvstore) (geometry : NvGeometry) : Prop :=
  store.loaded = true → store.loadedSector < geometry.sectorCount

/-- The stores of a run on a device of this geometry. Its reads may yield anything, and
fail in one pass of a load and succeed in the other. -/
inductive NvSaveRun (geometry : NvGeometry) : Nvstore → Prop where
  | init (memory : Nvstore) : NvSaveRun geometry (nvstoreInit memory)
  | load {store : Nvstore} {σ : Type} {scan attempt : NvBackend σ} (device : σ)
      (scanned : scan.geometry = geometry) (run : NvSaveRun geometry store) :
      NvSaveRun geometry (nvstoreLoadTransient scan attempt device store).2
  | put {store : Nvstore} (recordType : UInt8) (bytes : List UInt8)
      (run : NvSaveRun geometry store) : NvSaveRun geometry (nvstorePut store recordType bytes).2
  | save {store : Nvstore} {σ : Type} {backend : NvBackend σ} (device : σ)
      (saved : backend.geometry = geometry) (run : NvSaveRun geometry store) :
      NvSaveRun geometry (nvstoreSave backend device store).2.1

/-- The passes leave nothing loaded, or a sector they tried. -/
theorem nvstoreLoadPassesTransient_sector {σ : Type} (scan attempt : NvBackend σ) (device : σ)
    (order : List UInt32) (store : Nvstore)
    (loaded : (nvstoreLoadPassesTransient scan attempt device order store).2.loaded = true) :
    (nvstoreLoadPassesTransient scan attempt device order store).2.loadedSector ∈ order := by
  induction order generalizing store with
  | nil => contradiction
  | cons sector rest inductionHypothesis =>
      rw [nvstoreLoadPassesTransient] at loaded ⊢
      by_cases passed : (nvstoreHeaderSeq scan device sector).isNone
      · rw [if_pos passed] at loaded ⊢
        exact List.mem_cons_of_mem sector (inductionHypothesis store loaded)
      · rw [if_neg passed] at loaded ⊢
        rcases tried : nvstoreTryLoadSector attempt device store sector with ⟨found, after⟩
        rw [tried] at loaded
        cases found with
        | none => exact List.mem_cons_of_mem sector (inductionHypothesis after loaded)
        | some header => exact List.mem_cons_self

section Known

variable {geometry : NvGeometry} {store : Nvstore} {σ : Type}

theorem nvstoreLoadTransient_sectorKnown (scan attempt : NvBackend σ) (device : σ)
    (known : store.SectorKnown scan.geometry) :
    (nvstoreLoadTransient scan attempt device store).2.SectorKnown scan.geometry := by
  by_cases refused : backendOk scan.geometry = false
  · rw [nvstoreLoadTransient, if_pos refused]
    exact known
  · have sectors := (backendOk_fits (Bool.not_eq_false _ ▸ refused)).sectors
    rw [nvstoreLoadTransient, if_neg refused]
    generalize nvstoreSecondFirst _ _ = secondFirst
    intro loaded
    have tried := nvstoreLoadPassesTransient_sector scan attempt device _ store loaded
    have examined (sector : UInt32) (listed : sector = 0 ∨ sector = 1) :
        sector < scan.geometry.sectorCount := by
      rw [UInt32.lt_iff_toNat_lt]
      apply Nat.lt_of_lt_of_le _ sectors
      rcases listed with rfl | rfl <;> decide
    apply examined
    cases secondFirst with
    | true => simpa [or_comm] using tried
    | false => simpa using tried

theorem nvstorePut_sectorKnown (known : store.SectorKnown geometry) (recordType : UInt8)
    (bytes : List UInt8) : (nvstorePut store recordType bytes).2.SectorKnown geometry := by
  have anchor := nvstorePut_anchor store recordType bytes
  intro loaded
  rw [anchor.loadedSector]
  exact known (anchor.loaded.symm.trans loaded)

theorem nvstoreSave_sectorKnown (backend : NvBackend σ) (device : σ)
    (known : store.SectorKnown backend.geometry) :
    (nvstoreSave backend device store).2.1.SectorKnown backend.geometry := by
  by_cases refused : backendOk backend.geometry = false
  · rw [nvstoreSave, if_pos refused]
    exact known
  · have fits := backendOk_fits (Bool.not_eq_false _ ▸ refused)
    rw [nvstoreSave, if_neg refused]
    dsimp only
    split
    · exact known
    · split
      · exact known
      · intro _
        exact nvstoreTarget_lt fits store

theorem NvSaveRun.sectorKnown (run : NvSaveRun geometry store) : store.SectorKnown geometry := by
  induction run with
  | init memory =>
      intro loaded
      contradiction
  | load device scanned _ known =>
      subst scanned
      exact nvstoreLoadTransient_sectorKnown _ _ device known
  | put recordType bytes _ known => exact nvstorePut_sectorKnown known recordType bytes
  | save device saved _ known =>
      subst saved
      exact nvstoreSave_sectorKnown _ device known

end Known

/-! ### No fault -/

section NoFault

variable {σ : Type} {backend : NvBackend σ} {store : Nvstore}

theorem nvstoreTargetChecked_ok {geometry : NvGeometry} (accepted : backendOk geometry = true)
    (known : store.SectorKnown geometry) :
    nvstoreTargetChecked geometry store = .ok (nvstoreTarget geometry store) := by
  have sectors := (backendOk_fits accepted).sectors
  have nonzero : geometry.sectorCount ≠ 0 := by
    intro isZero
    rw [isZero] at sectors
    exact absurd sectors (by decide)
  rw [nvstoreTargetChecked, nvstoreTarget]
  by_cases loaded : store.loaded = true
  · have below := UInt32.lt_iff_toNat_lt.mp (known loaded)
    have bound := geometry.sectorCount.toNat_lt
    have added := addWord_ok store.loadedSector 1
      (by rw [UInt32.toNat_one, UInt32.size]; omega)
    rw [if_pos loaded, if_pos loaded, added, code_bind, modWord_ok nonzero]
  · rw [if_neg loaded, if_neg loaded]
    rfl

theorem sectorAccess_ok {geometry : NvGeometry} {sector : UInt32} {off len : Nat}
    (inRange : sector < geometry.sectorCount) (inside : off + len ≤ geometry.sectorSize.toNat) :
    sectorAccess geometry sector off len = .ok () := if_pos ⟨inRange, inside⟩

theorem nvstoreSaveChecked_ok (sized : store.Sized) (known : store.SectorKnown backend.geometry)
    {increment : UInt32 → Except CodeFault UInt32}
    (counts : increment store.loadedSeq = .ok (store.loadedSeq + 1))
    (stack : Vector UInt8 nvstoreImageMax) (device : σ) :
    nvstoreSaveChecked increment backend stack device store =
      .ok (nvstoreSave backend device store) := by
  rw [nvstoreSaveChecked, nvstoreSave, backendOkChecked_ok, code_bind]
  by_cases refused : backendOk backend.geometry = false
  · rw [if_pos refused, if_pos refused]
    rfl
  · have accepted : backendOk backend.geometry = true := Bool.not_eq_false _ ▸ refused
    have inRange := nvstoreTarget_lt (backendOk_fits accepted) store
    obtain ⟨⟨image, sizes⟩, built, isBuilt⟩ :=
      nvstoreBuildImage_built accepted (store.loadedSeq + 1) sized stack
    have read := readFront_filled isBuilt.filled
    rw [isBuilt.length] at read
    have eraseInside : sectorAccess backend.geometry (nvstoreTarget backend.geometry store) 0
        backend.geometry.sectorSize.toNat = .ok () :=
      sectorAccess_ok inRange (Nat.le_of_eq (Nat.zero_add _))
    have writeInside : sectorAccess backend.geometry (nvstoreTarget backend.geometry store) 0
        sizes.padded.toNat = .ok () :=
      sectorAccess_ok inRange (by rw [Nat.zero_add]; exact isBuilt.fits.sector)
    rw [if_neg refused, if_neg refused, nvstoreTargetChecked_ok accepted known, code_bind, counts,
      code_bind, built, code_bind, eraseInside, access_ok, code_bind]
    rcases erased : backend.erase device (nvstoreTarget backend.geometry store) with ⟨isOk, after⟩
    cases isOk with
    | false => simp only [erased]; rfl
    | true =>
        simp only [erased, writeInside, access_ok, code_bind, read]
        rw [← nvPayload]
        generalize backend.write after _ _ _ = written
        rcases written with ⟨isOk, last⟩
        cases isOk <;> rfl

theorem nvstoreSaveChecked_wraps (accepted : backendOk backend.geometry = true)
    (known : store.SectorKnown backend.geometry) (isLast : store.loadedSeq = 0xFFFFFFFF)
    (stack : Vector UInt8 nvstoreImageMax) (device : σ) :
    nvstoreSaveChecked countUpChecked backend stack device store = .error .wraps := by
  have wraps : countUpChecked store.loadedSeq = .error .wraps := by
    rw [isLast]
    exact addWord_wraps (Nat.le_refl _)
  have usable : ¬true = false := by decide
  rw [nvstoreSaveChecked, backendOkChecked_ok, accepted, code_bind, if_neg usable,
    nvstoreTargetChecked_ok accepted known, code_bind, wraps, code_fault_bind]

theorem countUpChecked_ok {seq : UInt32} (notLast : seq ≠ 0xFFFFFFFF) :
    countUpChecked seq = .ok (seq + 1) := by
  apply addWord_ok seq 1
  have bound := seq.toNat_lt
  have last : (0xFFFFFFFF : UInt32).toNat = 4294967295 := rfl
  rw [ne_eq, ← UInt32.toNat_inj, last] at notLast
  rw [UInt32.toNat_one, UInt32.size]
  omega

end NoFault

/-- A save of any store of a run that has one of these sequence numbers goes through
without a fault, as `nvstoreSave`. -/
def SavesInBounds (increment : UInt32 → Except CodeFault UInt32) (geometry : NvGeometry)
    (numbers : UInt32 → Prop) : Prop :=
  ∀ {σ : Type} (backend : NvBackend σ), backend.geometry = geometry →
    ∀ store, NvSaveRun geometry store → store.Sized → numbers store.loadedSeq →
      ∀ (stack : Vector UInt8 nvstoreImageMax) (device : σ),
        nvstoreSaveChecked increment backend stack device store =
          .ok (nvstoreSave backend device store)

theorem savesInBounds_of_counts {increment : UInt32 → Except CodeFault UInt32}
    (geometry : NvGeometry) {numbers : UInt32 → Prop}
    (counts : ∀ seq, numbers seq → increment seq = .ok (seq + 1)) :
    SavesInBounds increment geometry numbers := by
  intro σ backend isGeometry store run sized numbered stack device
  subst isGeometry
  exact nvstoreSaveChecked_ok sized run.sectorKnown (counts _ numbered) stack device

/-- Nothing wraps in `backend_ok`; for an accepted geometry and every payload length the
padded image is within the buffer and the sector; and in a save nothing leaves them and
no word wraps but the sequence number, whose last value is followed by 0. -/
structure SaveImageInBounds (geometry : NvGeometry) : Prop where
  accepts : backendOkChecked geometry = .ok (backendOk geometry)
  sizes : backendOk geometry = true → ∀ payloadLen : UInt16,
    payloadLen.toNat ≤ nvstorePayloadMax →
      ∃ sizes, nvstoreSizesChecked geometry.writeBlock payloadLen = .ok sizes ∧
        SizesFit geometry payloadLen sizes
  counting : SavesInBounds countUp geometry fun _ => True
  unwrapped : SavesInBounds countUpChecked geometry fun seq => seq ≠ 0xFFFFFFFF

theorem nvstoreSave_inBounds (geometry : NvGeometry) : SaveImageInBounds geometry where
  accepts := backendOkChecked_ok geometry
  sizes := by
    intro accepted payloadLen small
    exact nvstoreSizesChecked_fit accepted payloadLen small
  counting := by
    apply savesInBounds_of_counts
    intro seq _
    rfl
  unwrapped := by
    apply savesInBounds_of_counts
    intro seq notLast
    exact countUpChecked_ok notLast

section Startup

variable {geometry : NvGeometry} (flash : Flash geometry)

/-- The store of a start-up on zeroed memory. -/
theorem nvSaveRun_startup :
    NvSaveRun geometry (nvstoreLoad (flashBackend geometry .none) flash nvstoreZero).2 := by
  rw [← nvstoreLoadTransient_self]
  exact .load flash rfl (.init nvstoreZero)

theorem nvstoreLoad_startup_sized (accepted : backendOk geometry = true) :
    (nvstoreLoad (flashBackend geometry .none) flash nvstoreZero).2.Sized :=
  (nvstoreLoad_spec .none flash accepted nvstoreZero List.length_replicate).tracks.sized

end Startup

/-- A valid image has sequence number `0xFFFFFFFF`: after its load the sequence number
of a save wraps. -/
theorem nvstoreSave_lastSeq_wraps :
    let geometry : NvGeometry := { sectorSize := 2048, sectorCount := 2, writeBlock := 32 }
    let backend := flashBackend geometry .none
    let flash := (nvSave .none ⟨erasedFlash geometry,
      { (nvstorePut nvstoreZero 1 [7]).2 with loadedSeq := 0xFFFFFFFE }⟩).flash
    let loaded := (nvstoreLoad backend flash nvstoreZero).2
    loaded.loadedSeq = 0xFFFFFFFF ∧ NvSaveRun geometry loaded ∧ loaded.Sized ∧
      nvstoreSaveChecked countUpChecked backend (Vector.replicate _ 0) flash loaded =
        .error .wraps ∧
      ¬SavesInBounds countUpChecked geometry fun _ => True := by
  intro geometry backend flash loaded
  have accepted : backendOk geometry = true := by decide
  have isLast : loaded.loadedSeq = 0xFFFFFFFF := by decide +kernel
  have run : NvSaveRun geometry loaded := nvSaveRun_startup flash
  have sized : loaded.Sized := nvstoreLoad_startup_sized flash accepted
  have fault : nvstoreSaveChecked countUpChecked backend (Vector.replicate _ 0) flash loaded =
      .error .wraps := nvstoreSaveChecked_wraps accepted run.sectorKnown isLast _ flash
  refine ⟨isLast, run, sized, fault, ?_⟩
  intro inBounds
  rw [inBounds backend rfl loaded run sized trivial] at fault
  simp only [reduceCtorEq] at fault

end FswCore
