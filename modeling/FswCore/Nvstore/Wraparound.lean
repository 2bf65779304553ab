import FswCore.Nvstore.ReadBack

/-!
Contract: the sequence number of a save against that of the image it follows.

Owns:
- `SavedSelected`, that every start-up after a save takes the saved image;
- on two sectors it holds of a load, puts and a save exactly when no image on
  flash carries the highest sequence number: the next one is 0, and load compares
  without regard to the wrap.
-/

namespace FswCore

open Library

variable {geometry : NvGeometry}

/-- What the first load of a start-up has to find after the save. -/
structure SelectsSaved (state : NvState geometry) (memory : Nvstore) : Prop where
  status : (nvReboot memory (nvSave .none state).flash).1 = .ok
  sector : (nvReboot memory (nvSave .none state).flash).2.loadedSector =
    (nvSave .none state).store.loadedSector
  seq : (nvReboot memory (nvSave .none state).flash).2.loadedSeq =
    (nvSave .none state).store.loadedSeq
  payload : nvPayload (nvReboot memory (nvSave .none state).flash).2 = nvPayload state.store

/-- A save that returns OK is selected by every fresh load, whatever the RAM holds. -/
def SavedSelected (state : NvState geometry) : Prop :=
  (nvstoreSave (flashBackend geometry .none) state.flash state.store).1 = .ok →
    ∀ memory : Nvstore, memory.payload.length = nvstorePayloadMax → SelectsSaved state memory

/-- The saved image is selected if and only if it is the newest on flash. -/
theorem savedSelected_iff (accepted : backendOk geometry = true) {state : NvState geometry}
    (sized : state.store.Sized) {slot : Fin 2}
    (isTarget : nvstoreTarget geometry state.store = sectorOf slot) :
    SavedSelected state ↔ newest (imageSlots (nvSave .none state).flash) =
      some (slot, ⟨(state.store.loadedSeq + 1).toNat, nvPayload state.store⟩) := by
  obtain ⟨isOk, after⟩ := nvSave_complete accepted sized
  have loads (memory : Nvstore) (buffer : memory.payload.length = nvstorePayloadMax) :=
    nvReboot_loads accepted (nvSave .none state).flash buffer
  constructor
  · intro selected
    have zero := selected isOk nvstoreZero List.length_replicate
    have load := loads nvstoreZero List.length_replicate
    cases found : newest (imageSlots (nvSave .none state).flash) with
    | none =>
        rw [found] at load
        have status := zero.status
        rw [load.1] at status
        contradiction
    | some held =>
        obtain ⟨heldSlot, stamp, value⟩ := held
        rw [found] at load
        obtain ⟨_, _, _, sector, stampIs, valueIs⟩ := load
        rw [zero.sector, after, isTarget] at sector
        rw [zero.seq, after] at stampIs
        rw [zero.payload] at valueIs
        rw [sectorOf_injective sector, stampIs, valueIs]
  · intro found _ memory buffer
    have load := loads memory buffer
    rw [found] at load
    obtain ⟨status, _, _, sector, seq, payload⟩ := load
    constructor
    · exact status
    · rw [sector, after, isTarget]
    · rw [after]
      exact UInt32.toNat_inj.mp seq
    · exact payload

/-- No image on flash carries the highest sequence number. -/
def NoLastSeq (flash : Flash geometry) : Prop :=
  ∀ slot image, readImage (flash (sectorOf slot)).bytes = some image → image.seq ≠ 0xFFFFFFFF

theorem seqFits_iff (store : Nvstore) : SeqFits store ↔ store.loadedSeq ≠ 0xFFFFFFFF := by
  have bound := store.loadedSeq.toNat_lt
  have last : (0xFFFFFFFF : UInt32).toNat = 4294967295 := rfl
  rw [SeqFits, ne_eq, ← UInt32.toNat_inj, last]
  omega

/-- An anchored store's number is the highest exactly when one on flash is. -/
theorem seqFits_of_anchored {state : NvState geometry}
    (anchored : Anchored state.store (newest (imageSlots state.flash))) :
    SeqFits state.store ↔ NoLastSeq state.flash := by
  rw [seqFits_iff]
  cases found : newest (imageSlots state.flash) with
  | none =>
      rw [found] at anchored
      have empty := (newest_eq_none_iff _).mp found
      refine ⟨fun _ slot image held => ?_, fun _ => by rw [anchored.2]; decide⟩
      have present := empty slot
      rw [imageSlots, held] at present
      contradiction
  | some held =>
      obtain ⟨slot, copy⟩ := held
      rw [found] at anchored
      have seqIs := anchored.2.2
      constructor
      · intro notLast other image present isLast
        have slotHolds : imageSlots state.flash other = some ⟨image.seq.toNat, image.payload⟩ := by
          rw [imageSlots, present, Option.map_some]
        have highest := newest_stamp_le found slotHolds
        have bound := state.store.loadedSeq.toNat_lt
        apply notLast
        rw [isLast] at highest
        rw [← UInt32.toNat_inj]
        simp only [UInt32.reduceToNat] at highest ⊢
        omega
      · intro noLast isLast
        obtain ⟨image, present, copyIs⟩ := Option.map_eq_some_iff.mp (newest_mem found)
        apply noLast slot image present
        rw [← UInt32.toNat_inj, ← isLast, seqIs, ← copyIs]

/-- A save of a store anchored at the newest image is selected exactly when its
number does not wrap. -/
theorem savedSelected_iff_seqFits (accepted : backendOk geometry = true)
    (two : geometry.sectorCount = 2) {state : NvState geometry} (sized : state.store.Sized)
    (anchored : Anchored state.store (newest (imageSlots state.flash))) :
    SavedSelected state ↔ SeqFits state.store := by
  have isTarget := nvstoreTarget_eq two anchored
  rw [savedSelected_iff accepted sized isTarget, nvSave_imageSlots accepted sized isTarget]
  cases found : newest (imageSlots state.flash) with
  | none =>
      rw [found] at anchored
      have empty := (newest_eq_none_iff _).mp found
      have fits : SeqFits state.store := by
        rw [SeqFits, anchored.2]
        decide
      exact ⟨fun _ => fits, fun _ => newest_update_of_empty empty _ _⟩
  | some held =>
      obtain ⟨slot, copy⟩ := held
      rw [found] at anchored
      have seqIs := anchored.2.2
      constructor
      · intro selected
        by_contra wraps
        have next : (state.store.loadedSeq + 1).toNat = 0 := by
          have bound := state.store.loadedSeq.toNat_lt
          rw [SeqFits] at wraps
          rw [UInt32.toNat_add, UInt32.toNat_one]
          omega
        -- the loaded image keeps its slot, with a number above 0
        have older : (state.store.loadedSeq + 1).toNat < copy.stamp := by
          rw [SeqFits] at wraps
          omega
        rw [targetSlot, newest_update_older found older] at selected
        have sameSlot := (Prod.mk.inj (Option.some.inj selected)).1
        exact otherSlot_ne slot sameSlot.symm
      · intro fits
        apply newest_update_newer found
        rw [SaveReady.next_seq fits, seqIs]
        exact Nat.lt_succ_self _

/-- From a load on any flash, after any puts: the save is selected by the next
start-up exactly when no image on flash carries the highest sequence number. -/
theorem nvSave_selected_iff (accepted : backendOk geometry = true)
    (two : geometry.sectorCount = 2) (flash : Flash geometry) {memory : Nvstore}
    (buffer : memory.payload.length = nvstorePayloadMax)
    (written : List (UInt8 × List UInt8)) :
    SavedSelected ⟨flash, nvstorePuts
        (nvstoreLoad (flashBackend geometry .none) flash memory).2 written⟩ ↔
      NoLastSeq flash := by
  have tracks := (nvstoreLoad_spec .none flash accepted memory buffer).tracks
  obtain ⟨sized, anchor⟩ := nvstorePuts_anchor tracks.sized written
  have anchored := tracks.anchored.congr anchor
  rw [savedSelected_iff_seqFits accepted two sized anchored]
  exact seqFits_of_anchored anchored

/-- The second save: the flash holds the image of the first. -/
theorem nvSave_selected_iff_second :
    let geometry : NvGeometry := { sectorSize := 2048, sectorCount := 2, writeBlock := 32 }
    let flash := (nvSave .none ⟨erasedFlash geometry, (nvstorePut nvstoreZero 1 [7]).2⟩).flash
    let loaded := (nvstoreLoad (flashBackend geometry .none) flash nvstoreZero).2
    loaded.loadedSeq = 1 ∧
      (SavedSelected ⟨flash, nvstorePuts loaded [(1, [8])]⟩ ↔ NoLastSeq flash) := by
  intro geometry flash loaded
  exact ⟨by decide +kernel, nvSave_selected_iff (by decide) rfl flash List.length_replicate _⟩

/-- The image loaded has sequence number `0xFFFFFFFF`: the save writes number 0,
returns OK, and the next start-up takes the old image again. -/
theorem nvSave_after_last_unselected :
    let geometry : NvGeometry := { sectorSize := 2048, sectorCount := 2, writeBlock := 32 }
    let flash := (nvSave .none ⟨erasedFlash geometry,
      { (nvstorePut nvstoreZero 1 [7]).2 with loadedSeq := 0xFFFFFFFE }⟩).flash
    let loaded := (nvstoreLoad (flashBackend geometry .none) flash nvstoreZero).2
    let state : NvState geometry := ⟨flash, nvstorePuts loaded [(1, [8])]⟩
    loaded.loadedSeq = 0xFFFFFFFF ∧
      (nvstoreSave (flashBackend geometry .none) state.flash state.store).1 = .ok ∧
      nvstoreGet (nvReboot nvstoreZero (nvSave .none state).flash).2 1 = .ok [7] ∧
      ¬ SavedSelected state := by
  intro geometry flash loaded state
  have saved : (nvstoreSave (flashBackend geometry .none) state.flash state.store).1 = .ok := by
    decide +kernel
  refine ⟨by decide +kernel, saved, by decide +kernel, fun selected => ?_⟩
  have sector := (selected saved nvstoreZero List.length_replicate).sector
  revert sector
  decide +kernel

end FswCore
