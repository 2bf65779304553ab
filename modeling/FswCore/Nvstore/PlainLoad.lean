import FswCore.Nvstore.PowerLoss

/-!
Contract: what load computes, stated on the two images without its passes.

Owns:
- `plainLoad`, the outcome as a function of what the two sectors hold;
- load computes it from any previous store and any sector contents;
- after it, every get in every run of puts sees the selected payload only.

Does not own: when a sector holds an image, which is `readImage`.
-/

namespace FswCore

open Library

/-- What a caller can tell a load by. -/
structure LoadOutcome where
  status : NvstoreStatus
  payloadLen : Nat
  payload : List UInt8
  seq : UInt32
  sector : UInt32
  loaded : Bool
deriving DecidableEq, Repr

def loadOutcome (result : NvstoreStatus × Nvstore) : LoadOutcome where
  status := result.1
  payloadLen := result.2.payloadLen
  payload := nvPayload result.2
  seq := result.2.loadedSeq
  sector := result.2.loadedSector
  loaded := result.2.loaded

def LoadOutcome.noImage : LoadOutcome where
  status := .errNoValidImage
  payloadLen := 0
  payload := []
  seq := 0
  sector := 0
  loaded := false

def LoadOutcome.ofImage (sector : UInt32) (image : NvImage) : LoadOutcome where
  status := .ok
  payloadLen := image.payload.length
  payload := image.payload
  seq := image.seq
  sector := sector
  loaded := true

/-- The image of sector 0 and that of sector 1: the greater sequence number is
loaded, sector 0 on a tie. -/
def plainLoad (first second : Option NvImage) : LoadOutcome :=
  match first, second with
  | none, none => .noImage
  | some image, none => .ofImage 0 image
  | none, some image => .ofImage 1 image
  | some older, some newer =>
      if newer.seq > older.seq then .ofImage 1 newer else .ofImage 0 older

theorem plainLoad_ok_iff (first second : Option NvImage) :
    (plainLoad first second).status = .ok ↔ first.isSome ∨ second.isSome := by
  cases first with
  | none => cases second <;> simp [plainLoad, LoadOutcome.noImage, LoadOutcome.ofImage]
  | some older =>
      cases second with
      | none => simp [plainLoad, LoadOutcome.ofImage]
      | some newer =>
          simp only [plainLoad]
          split <;> simp [LoadOutcome.ofImage]

/-! ### Load computes it -/

section Passes

variable {geometry : NvGeometry} (fault : FlashFault geometry) (flash : Flash geometry)

/-- The outcome of the attempts in an order. -/
def plainPasses : List (Fin 2) → LoadOutcome
  | [] => .noImage
  | slot :: rest =>
      match readImage (flash (sectorOf slot)).bytes with
      | some image => .ofImage (sectorOf slot) image
      | none => plainPasses rest

/-- A sector whose header or body fails leaves nothing behind in the outcome. -/
theorem nvstoreLoadPasses_outcome (fits : GeometryFits geometry) (order : List (Fin 2))
    {store : Nvstore} (buffer : store.payload.length = nvstorePayloadMax) :
    loadOutcome (nvstoreLoadPasses (flashBackend geometry fault) flash (order.map sectorOf) store) =
      plainPasses flash order := by
  induction order generalizing store with
  | nil => rfl
  | cons slot rest inductionHypothesis =>
      rw [List.map_cons, nvstoreLoadPasses, nvstoreHeaderSeq_eq fault flash fits slot, plainPasses]
      by_cases valid : HeaderValid (flash (sectorOf slot)).bytes
      · have attempt := (nvstoreTryLoadSector_spec fault flash fits buffer slot).attempted
        rw [if_pos valid, if_neg (by simp)]
        generalize nvstoreTryLoadSector (flashBackend geometry fault) flash store
          (sectorOf slot) = result at attempt ⊢
        generalize readImage (flash (sectorOf slot)).bytes = image at attempt ⊢
        cases attempt with
        | missed after kept => exact inductionHypothesis kept
        | loaded image after kept payload =>
            simp only [loadOutcome, nvPayload, payload, LoadOutcome.ofImage]
      · rw [if_neg valid, if_pos Option.isNone_none, readImage_of_headerInvalid valid]
        exact inductionHypothesis buffer

/-- Ranked by their headers, the attempts end at the image the plain rule picks. -/
theorem plainPasses_ranked (fits : GeometryFits geometry) :
    plainPasses flash
        (if nvstoreSecondFirst (nvstoreHeaderSeq (flashBackend geometry fault) flash 0)
          (nvstoreHeaderSeq (flashBackend geometry fault) flash 1) then [1, 0] else [0, 1]) =
      plainLoad (readImage (flash 0).bytes) (readImage (flash 1).bytes) := by
  cases first : readImage (flash 0).bytes with
  | none =>
      cases second : readImage (flash 1).bytes with
      | none => split <;> simp [plainPasses, plainLoad, sectorOf, first, second]
      | some newer => split <;> simp [plainPasses, plainLoad, sectorOf, first, second]
  | some older =>
      cases second : readImage (flash 1).bytes with
      | none => split <;> simp [plainPasses, plainLoad, sectorOf, first, second]
      | some newer =>
          have atFirst : readImage (flash (sectorOf 0)).bytes = some older := first
          have atSecond : readImage (flash (sectorOf 1)).bytes = some newer := second
          have firstHeader := nvstoreHeaderSeq_of_image fault flash fits atFirst
          have secondHeader := nvstoreHeaderSeq_of_image fault flash fits atSecond
          simp only [sectorOf] at firstHeader secondHeader
          rw [firstHeader, secondHeader]
          simp only [nvstoreSecondFirst, decide_eq_true_eq, plainLoad]
          split <;> simp [plainPasses, sectorOf, first, second]

theorem nvstoreLoad_outcome (accepted : backendOk geometry = true) {store : Nvstore}
    (buffer : store.payload.length = nvstorePayloadMax) :
    loadOutcome (nvstoreLoad (flashBackend geometry fault) flash store) =
      plainLoad (readImage (flash 0).bytes) (readImage (flash 1).bytes) := by
  have fits := backendOk_fits accepted
  have usable : ¬ backendOk (flashBackend geometry fault).geometry = false := by
    simp [flashBackend, accepted]
  rw [← plainPasses_ranked fault flash fits, nvstoreLoad, if_neg usable]
  generalize nvstoreSecondFirst _ _ = secondFirst
  cases secondFirst with
  | true => exact nvstoreLoadPasses_outcome fault flash fits [1, 0] buffer
  | false => exact nvstoreLoadPasses_outcome fault flash fits [0, 1] buffer

end Passes

/-! ### What stays behind the valid part -/

/-- A store that has never held anything but this payload. -/
def plainStore (payload : List UInt8) : Nvstore where
  payload := payload ++ List.replicate (nvstorePayloadMax - payload.length) 0
  payloadLen := payload.length
  loadedSeq := 0
  loadedSector := 0
  loaded := false

theorem plainStore_sized {payload : List UInt8} (small : payload.length ≤ nvstorePayloadMax) :
    (plainStore payload).Sized where
  buffer := by
    simp only [plainStore, List.length_append, List.length_replicate]
    omega
  len_le := small

theorem nvPayload_plainStore (payload : List UInt8) : nvPayload (plainStore payload) = payload := by
  simp [nvPayload, plainStore]

/-- A put computes the valid part from the valid part. -/
theorem nvstorePut_congr {left right : Nvstore} (leftSized : left.Sized)
    (rightSized : right.Sized) (same : nvPayload left = nvPayload right) (recordType : UInt8)
    (bytes : List UInt8) :
    nvPayload (nvstorePut left recordType bytes).2 =
      nvPayload (nvstorePut right recordType bytes).2 := by
  have located := nvstoreLocate_congr leftSized rightSized same recordType
  have dropped : nvPayload (nvstoreDrop left recordType) =
      nvPayload (nvstoreDrop right recordType) := by
    cases found : nvstoreLocate right recordType with
    | found off total =>
        rw [nvPayload_drop leftSized (located.trans found), nvPayload_drop rightSized found, same]
    | missing =>
        rw [nvstoreDrop, nvstoreDrop, located, found]
        exact same
    | corrupt =>
        rw [nvstoreDrop, nvstoreDrop, located, found]
        exact same
  rw [nvPayload_put leftSized, nvPayload_put rightSized, dropped]

/-- So in every run of puts a get sees the valid part the run began with. -/
theorem nvstoreGet_puts_congr {left right : Nvstore} (leftSized : left.Sized)
    (rightSized : right.Sized) (same : nvPayload left = nvPayload right)
    (written : List (UInt8 × List UInt8)) (recordType : UInt8) :
    nvstoreGet (nvstorePuts left written) recordType =
      nvstoreGet (nvstorePuts right written) recordType := by
  induction written generalizing left right with
  | nil => exact nvstoreGet_congr leftSized rightSized same recordType
  | cons record rest inductionHypothesis =>
      have leftNext := nvstorePut_sized leftSized record.1 record.2
      have rightNext := nvstorePut_sized rightSized record.1 record.2
      have sameNext := nvstorePut_congr leftSized rightSized same record.1 record.2
      exact inductionHypothesis leftNext rightNext sameNext

/-! ### The refinement -/

section Refinement

variable {geometry : NvGeometry} (fault : FlashFault geometry) (flash : Flash geometry)

/-- A load, from any previous store. -/
structure LoadRefines (store : Nvstore) : Prop where
  ok_iff : (nvstoreLoad (flashBackend geometry fault) flash store).1 = .ok ↔
    (readImage (flash 0).bytes).isSome ∨ (readImage (flash 1).bytes).isSome
  outcome : loadOutcome (nvstoreLoad (flashBackend geometry fault) flash store) =
    plainLoad (readImage (flash 0).bytes) (readImage (flash 1).bytes)
  hidden : ∀ written recordType,
    nvstoreGet (nvstorePuts (nvstoreLoad (flashBackend geometry fault) flash store).2 written)
        recordType =
      nvstoreGet (nvstorePuts (plainStore
        (plainLoad (readImage (flash 0).bytes) (readImage (flash 1).bytes)).payload) written)
        recordType

theorem nvstoreLoad_refines (accepted : backendOk geometry = true) {store : Nvstore}
    (buffer : store.payload.length = nvstorePayloadMax) : LoadRefines fault flash store := by
  have computes := nvstoreLoad_outcome fault flash accepted buffer
  have status := congrArg LoadOutcome.status computes
  have payload := congrArg LoadOutcome.payload computes
  have sized : (nvstoreLoad (flashBackend geometry fault) flash store).2.Sized := by
    have loads := nvstoreLoad_spec fault flash accepted store buffer
    cases found : newest (imageSlots flash) with
    | none =>
        rw [found] at loads
        exact loads.2.1
    | some held =>
        rw [found] at loads
        exact loads.2.1
  have small : (nvPayload (nvstoreLoad (flashBackend geometry fault) flash store).2).length ≤
      nvstorePayloadMax := by
    rw [nvPayload_length sized]
    exact sized.len_le
  constructor
  · rw [← plainLoad_ok_iff, ← status]
    exact Iff.rfl
  · exact computes
  · intro written recordType
    rw [← payload]
    exact nvstoreGet_puts_congr sized (plainStore_sized small) (nvPayload_plainStore _).symm
      written recordType

end Refinement

/-- Sector 0 holds an image, sector 1 a newer header with nothing valid behind it. -/
theorem nvstoreLoad_refines_fallback :
    let geometry : NvGeometry := { sectorSize := 2048, sectorCount := 2, writeBlock := 32 }
    let saved : NvState geometry :=
      nvSave .none ⟨erasedFlash geometry, (nvstorePut nvstoreZero 1 [7]).2⟩
    let torn : Sector geometry.sectorSize.toNat :=
      ⟨patch (erasedSector 2048).bytes 0 (nvstoreHeader 9 4),
        (patch_length _ (by rw [Sector.size_eq]; decide)).trans (Sector.size_eq _)⟩
    LoadRefines .none (Function.update saved.flash 1 torn) nvstoreZero := by
  intro geometry saved torn
  exact nvstoreLoad_refines .none _ (by decide) List.length_replicate

end FswCore
