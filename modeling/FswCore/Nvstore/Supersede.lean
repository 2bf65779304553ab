import FswCore.Nvstore.PowerLoss

/-!
Contract: when the image a save writes is the one the next start-up loads.

Owns:
- `SaveSupersedes`, the condition on the store and the flash before the save;
- under it the saved payload is the newest; without it what a start-up loads
  does not depend on what was saved;
- every state of a two-sector run whose sequence number does not wrap meets it.
-/

namespace FswCore

open Library

variable {geometry : NvGeometry}

/-- The save goes to a sector that load examines, and the other such sector
holds no image that outranks it. -/
def SaveSupersedes (state : NvState geometry) : Prop :=
  ∃ slot, nvstoreTarget geometry state.store = sectorOf slot ∧
    ∀ rival, imageSlots state.flash (otherSlot slot) = some rival →
      rival.stamp < (state.store.loadedSeq + 1).toNat ∨
        (nvstoreTarget geometry state.store = 0 ∧
          rival.stamp = (state.store.loadedSeq + 1).toNat)

theorem sectorOf_eq_zero {slot : Fin 2} : sectorOf slot = 0 ↔ slot.val = 0 := by
  match slot with
  | 0 => exact ⟨fun _ => rfl, fun _ => rfl⟩
  | 1 => simp [sectorOf]

/-- The target depends on the anchor only. -/
theorem nvstoreTarget_congr {store other : Nvstore} (same : SameAnchor store other) :
    nvstoreTarget geometry other = nvstoreTarget geometry store := by
  rw [nvstoreTarget, nvstoreTarget, same.loaded, same.loadedSector]

theorem SaveSupersedes.congr {flash : Flash geometry} {store other : Nvstore}
    (supersedes : SaveSupersedes ⟨flash, store⟩) (same : SameAnchor store other) :
    SaveSupersedes ⟨flash, other⟩ := by
  obtain ⟨slot, isTarget, outranks⟩ := supersedes
  refine ⟨slot, (nvstoreTarget_congr same).trans isTarget, fun rival present => ?_⟩
  simp only [nvstoreTarget_congr same, same.loadedSeq]
  exact outranks rival present

/-- The slots after a complete save. -/
theorem nvSave_imageSlots (accepted : backendOk geometry = true) {state : NvState geometry}
    (sized : state.store.Sized) {slot : Fin 2}
    (isTarget : nvstoreTarget geometry state.store = sectorOf slot) :
    imageSlots (nvSave .none state).flash = Function.update (imageSlots state.flash) slot
      (some ⟨(state.store.loadedSeq + 1).toNat, nvPayload state.store⟩) := by
  obtain ⟨sector, complete, result⟩ :=
    (nvstoreSave_spec accepted .none state.flash sized).done rfl
  rw [nvSave, result]
  simp only [isTarget]
  rw [imageSlots_update, complete]
  rfl

/-- A superseding save is what the next start-up finds. -/
theorem nvSave_newest (accepted : backendOk geometry = true) {state : NvState geometry}
    (sized : state.store.Sized) (supersedes : SaveSupersedes state) :
    newestPayload (nvSave .none state).flash = some (nvPayload state.store) := by
  obtain ⟨slot, isTarget, outranks⟩ := supersedes
  rw [newestPayload, nvSave_imageSlots accepted sized isTarget, newest_update_some]
  cases present : imageSlots state.flash (otherSlot slot) with
  | none => rfl
  | some rival =>
      have wins := outranks rival present
      rw [isTarget, sectorOf_eq_zero] at wins
      simp only [if_pos wins, Option.map_some]

/-- A save that does not supersede leaves what a start-up finds to the other
sector, whatever was saved. -/
theorem nvSave_hidden (accepted : backendOk geometry = true) {flash : Flash geometry}
    {store : Nvstore} (hidden : ¬ SaveSupersedes ⟨flash, store⟩) :
    ∃ found, ∀ other, SameAnchor store other → other.Sized →
      newestPayload (nvSave .none ⟨flash, other⟩).flash = found := by
  by_cases examined : ∃ slot, nvstoreTarget geometry store = sectorOf slot
  · obtain ⟨slot, isTarget⟩ := examined
    have outranked : ∃ rival, imageSlots flash (otherSlot slot) = some rival ∧
        ¬ (rival.stamp < (store.loadedSeq + 1).toNat ∨
          (nvstoreTarget geometry store = 0 ∧
            rival.stamp = (store.loadedSeq + 1).toNat)) := by
      by_contra noRival
      refine hidden ⟨slot, isTarget, fun rival present => ?_⟩
      by_contra loses
      exact noRival ⟨rival, present, loses⟩
    obtain ⟨rival, present, loses⟩ := outranked
    refine ⟨some rival.value, fun other same sized => ?_⟩
    have otherTarget : nvstoreTarget geometry other = sectorOf slot :=
      (nvstoreTarget_congr same).trans isTarget
    rw [isTarget, sectorOf_eq_zero] at loses
    rw [newestPayload, nvSave_imageSlots accepted sized otherTarget, newest_update_some]
    simp only [present, same.loadedSeq, if_neg loses, Option.map_some]
  · refine ⟨newestPayload flash, fun other same sized => ?_⟩
    obtain ⟨sector, _, result⟩ := (nvstoreSave_spec accepted .none flash sized).done rfl
    have untouched : imageSlots (nvSave .none ⟨flash, other⟩).flash = imageSlots flash := by
      funext slot
      have apart : sectorOf slot ≠ nvstoreTarget geometry other := fun equal =>
        examined ⟨slot, (nvstoreTarget_congr same).symm.trans equal.symm⟩
      rw [nvSave, result]
      simp only [imageSlots, Function.update_of_ne apart]
    rw [newestPayload, untouched, newestPayload]

/-- In a two-sector run every save whose sequence number does not wrap
supersedes. -/
theorem nvRun_supersedes (accepted : backendOk geometry = true)
    (two : geometry.sectorCount = 2) {initial : Flash geometry} {state : NvState geometry}
    {committed : Option (List UInt8)} (run : NvRun initial state committed)
    (seqFits : SeqFits state.store) : SaveSupersedes state := by
  have tracks := nvRun_tracks accepted two run
  have anchored := tracks.anchored
  have isTarget := nvstoreTarget_eq two anchored
  refine ⟨_, isTarget, fun rival present => ?_⟩
  cases found : newest (imageSlots state.flash) with
  | none =>
      rw [(newest_eq_none_iff _).mp found] at present
      contradiction
  | some held =>
      obtain ⟨slot, copy⟩ := held
      rw [found] at anchored present
      rw [targetSlot, otherSlot_otherSlot, newest_mem found] at present
      obtain rfl := Option.some.inj present
      left
      rw [← anchored.2.2, UInt32.toNat_add, UInt32.toNat_one, Nat.mod_eq_of_lt seqFits]
      exact Nat.lt_succ_self _

end FswCore
