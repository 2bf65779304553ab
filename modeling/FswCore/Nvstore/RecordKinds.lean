import FswCore.Nvstore.PowerLoss

/-!
Contract: records of one kind, in memory and on flash, whatever is saved and cut.

Owns:
- `StoreOf` and `ImagesOf`: the payload, and every image that load examines, is a stream
  of records of this kind;
- puts, loads and saves keep the kind, in any sector and with any sequence number, and so
  does a fault that leaves the sector as it was, invalid or complete.

Does not own: which image a load selects.
-/

namespace FswCore

open Library

variable {geometry : NvGeometry} {Kind Wider : List Record → Prop}

def StoreOf (Kind : List Record → Prop) (store : Nvstore) : Prop :=
  ∃ records, HoldsRecords store records ∧ Kind records

def ImagesOf (Kind : List Record → Prop) (flash : Flash geometry) : Prop :=
  ∀ slot copy, imageSlots flash slot = some copy →
    ∃ records, copy.value = encodeRecords records ∧ Kind records

theorem StoreOf.mono {store : Nvstore} (stored : StoreOf Kind store)
    (wider : ∀ records, Kind records → Wider records) : StoreOf Wider store := by
  obtain ⟨records, holds, kind⟩ := stored
  exact ⟨records, holds, wider records kind⟩

theorem ImagesOf.mono {flash : Flash geometry} (images : ImagesOf Kind flash)
    (wider : ∀ records, Kind records → Wider records) : ImagesOf Wider flash := by
  intro slot copy present
  obtain ⟨records, isStream, kind⟩ := images slot copy present
  exact ⟨records, isStream, wider records kind⟩

theorem imagesOf_blank {flash : Flash geometry} (blank : ∀ slot, imageSlots flash slot = none) :
    ImagesOf Kind flash := by
  intro slot copy present
  rw [blank slot] at present
  contradiction

/-- A put replaces the record of its type, or drops it. -/
theorem StoreOf.put {store : Nvstore} (stored : StoreOf Kind store) {recordType : UInt8}
    {bytes : List UInt8}
    (erase : ∀ records, Kind records → Kind (eraseTag recordType records))
    (replace : ∀ records, Kind records → Kind (replaceTag recordType bytes records)) :
    StoreOf Kind (nvstorePut store recordType bytes).2 := by
  obtain ⟨records, holds, kind⟩ := stored
  have done := nvstorePut_holds holds recordType bytes
  split at done
  · exact ⟨_, done.2, replace records kind⟩
  · exact ⟨_, done.2, erase records kind⟩

/-- A start-up loads one of the images, or none. -/
theorem ImagesOf.reboot (accepted : backendOk geometry = true) {flash : Flash geometry}
    (images : ImagesOf Kind flash) (empty : Kind []) {memory : Nvstore}
    (buffer : memory.payload.length = nvstorePayloadMax) :
    StoreOf Kind (nvReboot memory flash).2 := by
  have loads := nvReboot_loads accepted flash buffer
  cases found : newest (imageSlots flash) with
  | none =>
      rw [found] at loads
      exact ⟨[], ⟨loads.2.1, loads.2.2.2.2⟩, empty⟩
  | some held =>
      rw [found] at loads
      obtain ⟨records, isStream, kind⟩ := images held.1 held.2 (newest_mem found)
      exact ⟨records, ⟨loads.2.1, loads.2.2.2.2.2.trans isStream⟩, kind⟩

/-- A sector with records of the kind, or no image, in place of any other. -/
theorem ImagesOf.update {flash : Flash geometry} (images : ImagesOf Kind flash)
    (target : UInt32) {sector : Sector geometry.sectorSize.toNat}
    (holds : ∀ image, readImage sector.bytes = some image →
      ∃ records, image.payload = encodeRecords records ∧ Kind records) :
    ImagesOf Kind (Function.update flash target sector) := by
  intro slot copy present
  by_cases here : sectorOf slot = target
  · rw [imageSlots, here, Function.update_self, Option.map_eq_some_iff] at present
    obtain ⟨image, found, rfl⟩ := present
    exact holds image found
  · rw [imageSlots, Function.update_of_ne here] at present
    exact images slot copy present

/-- A save writes what the payload holds, and what stops it leaves nothing else. -/
theorem ImagesOf.save (accepted : backendOk geometry = true) (state : NvState geometry)
    (images : ImagesOf Kind state.flash) (stored : StoreOf Kind state.store)
    {fault : FlashFault geometry}
    (stops : fault = .none ∨ ∃ residue, FaultLeaves fault residue ∧
      (ResidueLost state residue ∨ ResidueComplete state residue)) :
    ImagesOf Kind (nvSave fault state).flash ∧ StoreOf Kind (nvSave fault state).store := by
  obtain ⟨records, holds, kind⟩ := stored
  have written {sector : Sector geometry.sectorSize.toNat}
      (complete : readImage sector.bytes =
        some { seq := state.store.loadedSeq + 1, payload := nvPayload state.store }) :
      ∀ image, readImage sector.bytes = some image →
        ∃ records, image.payload = encodeRecords records ∧ Kind records := by
    intro image found
    rw [complete] at found
    rw [← Option.some.inj found]
    exact ⟨records, holds.payload, kind⟩
  rcases stops with rfl | ⟨residue, leaves, content⟩
  · obtain ⟨sector, complete, result⟩ :=
      (nvstoreSave_spec accepted .none state.flash holds.sized).done rfl
    rw [nvSave, result]
    exact ⟨images.update _ (written complete), records,
      ⟨⟨holds.sized.buffer, holds.sized.len_le⟩, holds.payload⟩, kind⟩
  · rw [nvSave_stopped accepted holds.sized leaves]
    refine ⟨?_, records, holds, kind⟩
    rcases content with (rfl | invalid) | complete
    · rw [Function.update_eq_self]
      exact images
    · refine images.update _ fun image found => ?_
      rw [invalid] at found
      contradiction
    · exact images.update _ (written complete)

end FswCore
