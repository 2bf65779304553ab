import FswCore.Nvstore.Records

/-!
Contract: power-loss atomicity of the two-sector store.

Owns:
- `NvRun`, the runs of boots, loads, puts and saves, where a save may fail or be
  cut short, with the payload last committed to flash;
- `Tracks`, the invariant that ties the store's sequence and sector to the
  newest image on flash;
- a reboot in any state of a run, or after a cut, recovers the committed payload.

A cut leaves the target sector untouched, complete, or failing validation. A
sector that passes validation with other contents is outside the contract.
-/

namespace FswCore

open Library Library.BigEndian

/-! ### Runs -/

variable {geometry : NvGeometry}

structure NvState (geometry : NvGeometry) where
  flash : Flash geometry
  store : Nvstore

/-- Start-up on whatever the RAM holds. -/
def nvReboot (memory : Nvstore) (flash : Flash geometry) : NvstoreStatus × Nvstore :=
  nvstoreLoad (flashBackend geometry .none) flash (nvstoreInit memory)

theorem nvReboot_loads (accepted : backendOk geometry = true) (flash : Flash geometry)
    {memory : Nvstore} (buffer : memory.payload.length = nvstorePayloadMax) :
    LoadsAs (nvReboot memory flash) (newest (imageSlots flash)) :=
  nvstoreLoad_spec .none flash accepted (nvstoreInit memory) buffer

/-- The fault stops the save with `residue` in the sector. -/
def FaultLeaves (fault : FlashFault geometry) (residue : Sector geometry.sectorSize.toNat) :
    Prop :=
  fault = .duringErase residue ∨ fault = .duringWrite residue

/-- The residue is the old content, or fails validation. -/
def ResidueLost (state : NvState geometry) (residue : Sector geometry.sectorSize.toNat) : Prop :=
  residue = state.flash (nvstoreTarget geometry state.store) ∨ readImage residue.bytes = none

/-- The residue is the complete new image. -/
def ResidueComplete (state : NvState geometry) (residue : Sector geometry.sectorSize.toNat) :
    Prop :=
  readImage residue.bytes =
    some { seq := state.store.loadedSeq + 1, payload := nvPayload state.store }

/-- The next sequence number does not wrap. -/
def SeqFits (store : Nvstore) : Prop := store.loadedSeq.toNat + 1 < 4294967296

instance (store : Nvstore) : Decidable (SeqFits store) := inferInstanceAs (Decidable (_ < _))

def nvSave (fault : FlashFault geometry) (state : NvState geometry) : NvState geometry :=
  let (_, store, flash) := nvstoreSave (flashBackend geometry fault) state.flash state.store
  { flash := flash, store := store }

/-- Payload of the newest valid image. -/
def newestPayload (flash : Flash geometry) : Option (List UInt8) :=
  (newest (imageSlots flash)).map fun found => found.2.value

/-- The states of a run, each with the payload of the last save completed on
flash; before the first it is that of the newest image the run began with. -/
inductive NvRun (initial : Flash geometry) : NvState geometry → Option (List UInt8) → Prop where
  | start (memory : Nvstore) (buffer : memory.payload.length = nvstorePayloadMax) :
      NvRun initial ⟨initial, (nvReboot memory initial).2⟩ (newestPayload initial)
  | reboot {state committed} (memory : Nvstore)
      (buffer : memory.payload.length = nvstorePayloadMax) (run : NvRun initial state committed) :
      NvRun initial ⟨state.flash, (nvReboot memory state.flash).2⟩ committed
  | load {state committed} (run : NvRun initial state committed) :
      NvRun initial ⟨state.flash,
        (nvstoreLoad (flashBackend geometry .none) state.flash state.store).2⟩ committed
  | put {state committed} (recordType : UInt8) (bytes : List UInt8)
      (run : NvRun initial state committed) :
      NvRun initial ⟨state.flash, (nvstorePut state.store recordType bytes).2⟩ committed
  | save {state committed} (seqFits : SeqFits state.store)
      (run : NvRun initial state committed) :
      NvRun initial (nvSave .none state) (some (nvPayload state.store))
  | saveFails {state committed fault residue} (leaves : FaultLeaves fault residue)
      (lost : ResidueLost state residue) (run : NvRun initial state committed) :
      NvRun initial (nvSave fault state) committed
  | cutLost {state committed fault residue} (memory : Nvstore)
      (buffer : memory.payload.length = nvstorePayloadMax) (leaves : FaultLeaves fault residue)
      (lost : ResidueLost state residue) (run : NvRun initial state committed) :
      NvRun initial ⟨(nvSave fault state).flash, (nvReboot memory (nvSave fault state).flash).2⟩
        committed
  | cutComplete {state committed fault residue} (memory : Nvstore)
      (buffer : memory.payload.length = nvstorePayloadMax) (leaves : FaultLeaves fault residue)
      (seqFits : SeqFits state.store) (complete : ResidueComplete state residue)
      (run : NvRun initial state committed) :
      NvRun initial ⟨(nvSave fault state).flash, (nvReboot memory (nvSave fault state).flash).2⟩
        (some (nvPayload state.store))

/-! ### The invariant -/

/-- The store is anchored at the newest image, if there is one. -/
def Anchored (store : Nvstore) : Option (Fin 2 × Stamped (List UInt8)) → Prop
  | none => store.loaded = false ∧ store.loadedSeq = 0
  | some (slot, copy) => store.loaded = true ∧ store.loadedSector = sectorOf slot ∧
      store.loadedSeq.toNat = copy.stamp

structure Tracks (state : NvState geometry) (committed : Option (List UInt8)) : Prop where
  sized : state.store.Sized
  anchored : Anchored state.store (newest (imageSlots state.flash))
  committed : newestPayload state.flash = committed

theorem Anchored.congr {store after : Nvstore} {found : Option (Fin 2 × Stamped (List UInt8))}
    (anchored : Anchored store found) (same : SameAnchor store after) : Anchored after found := by
  cases found with
  | none => exact ⟨same.loaded.trans anchored.1, same.loadedSeq.trans anchored.2⟩
  | some held =>
      exact ⟨same.loaded.trans anchored.1, same.loadedSector.trans anchored.2.1,
        (congrArg UInt32.toNat same.loadedSeq).trans anchored.2.2⟩

theorem LoadsAs.tracks {flash : Flash geometry} {result : NvstoreStatus × Nvstore}
    (loads : LoadsAs result (newest (imageSlots flash))) :
    Tracks ⟨flash, result.2⟩ (newestPayload flash) := by
  cases found : newest (imageSlots flash) with
  | none =>
      rw [found] at loads
      exact ⟨loads.2.1, found ▸ ⟨loads.2.2.1, loads.2.2.2.1⟩, rfl⟩
  | some held =>
      rw [found] at loads
      exact ⟨loads.2.1, found ▸ ⟨loads.2.2.1, loads.2.2.2.1, loads.2.2.2.2.1⟩, rfl⟩

/-- The slot a save of an anchored store writes. -/
def targetSlot : Option (Fin 2 × Stamped (List UInt8)) → Fin 2
  | none => ⟨0, Nat.two_pos⟩
  | some (slot, _) => otherSlot slot

theorem nvstoreTarget_eq (two : geometry.sectorCount = 2) {store : Nvstore}
    {found : Option (Fin 2 × Stamped (List UInt8))} (anchored : Anchored store found) :
    nvstoreTarget geometry store = sectorOf (targetSlot found) := by
  cases found with
  | none => simp [nvstoreTarget, anchored.1, targetSlot, sectorOf]
  | some held =>
      obtain ⟨slot, copy⟩ := held
      obtain ⟨loaded, sector, _⟩ := anchored
      rw [nvstoreTarget, if_pos loaded, sector, two]
      have bothSlots : ∀ slot, (sectorOf slot + 1) % 2 = sectorOf (otherSlot slot) := by decide
      exact bothSlots slot

theorem sectorOf_injective {left right : Fin 2} (same : sectorOf left = sectorOf right) :
    left = right := by
  match left, right with
  | 0, 0 => rfl
  | 1, 1 => rfl
  | 0, 1 => simp [sectorOf] at same
  | 1, 0 => simp [sectorOf] at same

theorem imageSlots_update (flash : Flash geometry) (slot : Fin 2)
    (sector : Sector geometry.sectorSize.toNat) :
    imageSlots (Function.update flash (sectorOf slot) sector) =
      Function.update (imageSlots flash) slot
        ((readImage sector.bytes).map fun image => ⟨image.seq.toNat, image.payload⟩) := by
  funext other
  by_cases same : other = slot
  · subst same
    simp [imageSlots]
  · have different : sectorOf other ≠ sectorOf slot := fun equal =>
      same (sectorOf_injective equal)
    simp [imageSlots, Function.update_of_ne same, Function.update_of_ne different]

/-- An invalid sector in place of the target hides nothing. -/
theorem newest_update_invalid (flash : Flash geometry)
    {sector : Sector geometry.sectorSize.toNat} (invalid : readImage sector.bytes = none) :
    newest (imageSlots (Function.update flash
      (sectorOf (targetSlot (newest (imageSlots flash)))) sector)) = newest (imageSlots flash) := by
  rw [imageSlots_update, invalid, Option.map_none]
  cases found : newest (imageSlots flash) with
  | none =>
      have empty := (newest_eq_none_iff _).mp found
      apply (newest_eq_none_iff _).mpr
      intro slot
      by_cases same : slot = targetSlot none
      · rw [same, Function.update_self]
      · rw [Function.update_of_ne same, empty]
  | some held => exact newest_update_none found

/-- The complete new image in the target sector becomes the newest. -/
theorem newest_update_complete {state : NvState geometry}
    (anchored : Anchored state.store (newest (imageSlots state.flash)))
    (seqFits : SeqFits state.store) {sector : Sector geometry.sectorSize.toNat}
    (complete : ResidueComplete state sector) :
    newest (imageSlots (Function.update state.flash
      (sectorOf (targetSlot (newest (imageSlots state.flash)))) sector)) =
      some (targetSlot (newest (imageSlots state.flash)),
        ⟨(state.store.loadedSeq + 1).toNat, nvPayload state.store⟩) := by
  rw [imageSlots_update, complete, Option.map_some]
  cases found : newest (imageSlots state.flash) with
  | none => exact newest_update_of_empty ((newest_eq_none_iff _).mp found) _ _
  | some held =>
      rw [found] at anchored
      apply newest_update_newer found
      rw [← anchored.2.2, UInt32.toNat_add, UInt32.toNat_one, Nat.mod_eq_of_lt seqFits]
      exact Nat.lt_succ_self _

/-- The flash a stopped save leaves. -/
theorem nvSave_stopped (accepted : backendOk geometry = true) {state : NvState geometry}
    (sized : state.store.Sized) {fault : FlashFault geometry}
    {residue : Sector geometry.sectorSize.toNat} (leaves : FaultLeaves fault residue) :
    nvSave fault state =
      ⟨Function.update state.flash (nvstoreTarget geometry state.store) residue, state.store⟩ := by
  have spec := (nvstoreSave_spec accepted fault state.flash sized).stopped residue leaves
  rw [nvSave, spec]

/-- A residue that is old or invalid leaves the newest image in place. -/
theorem newest_of_lost (two : geometry.sectorCount = 2) {state : NvState geometry}
    (anchored : Anchored state.store (newest (imageSlots state.flash)))
    {residue : Sector geometry.sectorSize.toNat} (lost : ResidueLost state residue) :
    newest (imageSlots (Function.update state.flash (nvstoreTarget geometry state.store)
      residue)) = newest (imageSlots state.flash) := by
  rcases lost with rfl | invalid
  · rw [Function.update_eq_self]
  · rw [nvstoreTarget_eq two anchored]
    exact newest_update_invalid state.flash invalid

namespace Tracks

variable {state : NvState geometry} {committed : Option (List UInt8)}

theorem load (tracks : Tracks state committed) (accepted : backendOk geometry = true)
    (store : Nvstore) (buffer : store.payload.length = nvstorePayloadMax) :
    Tracks ⟨state.flash, (nvstoreLoad (flashBackend geometry .none) state.flash store).2⟩
      committed := by
  have loads := nvstoreLoad_spec .none state.flash accepted store buffer
  exact tracks.committed ▸ loads.tracks

theorem put (tracks : Tracks state committed) (recordType : UInt8) (bytes : List UInt8) :
    Tracks ⟨state.flash, (nvstorePut state.store recordType bytes).2⟩ committed := by
  have anchor := nvstorePut_anchor state.store recordType bytes
  exact ⟨nvstorePut_sized tracks.sized recordType bytes, tracks.anchored.congr anchor,
    tracks.committed⟩

/-- A completed save is the newest image, and the store is anchored at it. -/
theorem save (tracks : Tracks state committed) (accepted : backendOk geometry = true)
    (two : geometry.sectorCount = 2) (seqFits : SeqFits state.store) :
    Tracks (nvSave .none state) (some (nvPayload state.store)) := by
  obtain ⟨sector, complete, result⟩ :=
    (nvstoreSave_spec accepted .none state.flash tracks.sized).done rfl
  have newestIs := newest_update_complete tracks.anchored seqFits complete
  rw [← nvstoreTarget_eq two tracks.anchored] at newestIs
  rw [nvSave, result]
  refine ⟨⟨tracks.sized.buffer, tracks.sized.len_le⟩, ?_, ?_⟩
  · simp only [newestIs]
    exact ⟨rfl, nvstoreTarget_eq two tracks.anchored, rfl⟩
  · simp only [newestPayload, newestIs, Option.map_some]

theorem saveFails (tracks : Tracks state committed) (accepted : backendOk geometry = true)
    (two : geometry.sectorCount = 2) {fault : FlashFault geometry}
    {residue : Sector geometry.sectorSize.toNat} (leaves : FaultLeaves fault residue)
    (lost : ResidueLost state residue) : Tracks (nvSave fault state) committed := by
  rw [nvSave_stopped accepted tracks.sized leaves]
  have same := newest_of_lost two tracks.anchored lost
  refine ⟨tracks.sized, ?_, ?_⟩
  · simp only [same]
    exact tracks.anchored
  · simp only [newestPayload, same]
    exact tracks.committed

/-- After a cut that left the complete image, flash holds the new payload. -/
theorem cutComplete_newest (tracks : Tracks state committed)
    (accepted : backendOk geometry = true) (two : geometry.sectorCount = 2)
    {fault : FlashFault geometry} {residue : Sector geometry.sectorSize.toNat}
    (leaves : FaultLeaves fault residue) (seqFits : SeqFits state.store)
    (complete : ResidueComplete state residue) :
    newestPayload (nvSave fault state).flash = some (nvPayload state.store) := by
  have newestIs := newest_update_complete tracks.anchored seqFits complete
  rw [← nvstoreTarget_eq two tracks.anchored] at newestIs
  rw [nvSave_stopped accepted tracks.sized leaves]
  simp only [newestPayload, newestIs, Option.map_some]

end Tracks

theorem nvReboot_tracks (accepted : backendOk geometry = true) (flash : Flash geometry)
    {memory : Nvstore} (buffer : memory.payload.length = nvstorePayloadMax) :
    Tracks ⟨flash, (nvReboot memory flash).2⟩ (newestPayload flash) :=
  (nvReboot_loads accepted flash buffer).tracks

theorem nvRun_tracks (accepted : backendOk geometry = true) (two : geometry.sectorCount = 2)
    {initial : Flash geometry} {state : NvState geometry} {committed : Option (List UInt8)}
    (run : NvRun initial state committed) : Tracks state committed := by
  induction run with
  | start memory buffer => exact nvReboot_tracks accepted initial buffer
  | reboot memory buffer run tracks =>
      exact tracks.committed ▸ nvReboot_tracks accepted _ buffer
  | load run tracks => exact tracks.load accepted _ tracks.sized.buffer
  | put recordType bytes run tracks => exact tracks.put recordType bytes
  | save seqFits run tracks => exact tracks.save accepted two seqFits
  | saveFails leaves lost run tracks => exact tracks.saveFails accepted two leaves lost
  | cutLost memory buffer leaves lost run tracks =>
      have after := tracks.saveFails accepted two leaves lost
      exact after.committed ▸ nvReboot_tracks accepted _ buffer
  | cutComplete memory buffer leaves seqFits complete run tracks =>
      have newest := tracks.cutComplete_newest accepted two leaves seqFits complete
      exact newest ▸ nvReboot_tracks accepted _ buffer

/-! ### Recovery -/

/-- A load yields exactly this payload, or finds no valid image. -/
def LoadYields (loaded : NvstoreStatus × Nvstore) : Option (List UInt8) → Prop
  | none => loaded.1 = .errNoValidImage
  | some payload => loaded.1 = .ok ∧ nvPayload loaded.2 = payload

/-- Every start-up on this flash yields exactly this payload, or finds no valid
image where there is none. -/
def RecoversTo (flash : Flash geometry) (committed : Option (List UInt8)) : Prop :=
  ∀ memory : Nvstore, memory.payload.length = nvstorePayloadMax →
    LoadYields (nvReboot memory flash) committed

theorem recoversTo_newest (accepted : backendOk geometry = true) (flash : Flash geometry) :
    RecoversTo flash (newestPayload flash) := by
  intro memory buffer
  have loads := nvReboot_loads accepted flash buffer
  unfold newestPayload
  cases found : newest (imageSlots flash) with
  | none =>
      rw [found] at loads
      exact loads.1
  | some held =>
      rw [found] at loads
      exact ⟨loads.1, loads.2.2.2.2.2⟩

/-- Power-loss atomicity. In every state of a run a reboot recovers the payload
last committed. A save cut there leaves the complete new payload or the one
committed before it, by what the cut left in the target sector. -/
theorem nvRun_recovers (accepted : backendOk geometry = true) (two : geometry.sectorCount = 2)
    {initial : Flash geometry} {state : NvState geometry} {committed : Option (List UInt8)}
    (run : NvRun initial state committed) :
    RecoversTo state.flash committed ∧
    ∀ fault residue, FaultLeaves fault residue →
      (ResidueLost state residue → RecoversTo (nvSave fault state).flash committed) ∧
      (SeqFits state.store → ResidueComplete state residue →
        RecoversTo (nvSave fault state).flash (some (nvPayload state.store))) := by
  have tracks := nvRun_tracks accepted two run
  refine ⟨tracks.committed ▸ recoversTo_newest accepted _, fun fault residue leaves => ⟨?_, ?_⟩⟩
  · intro lost
    have after := tracks.saveFails accepted two leaves lost
    exact after.committed ▸ recoversTo_newest accepted _
  · intro seqFits complete
    have newest := tracks.cutComplete_newest accepted two leaves seqFits complete
    exact newest ▸ recoversTo_newest accepted _

/-- The first record ever saved survives a save of the next that is cut in its
erase. -/
theorem nvRun_recovers_first_record :
    let geometry : NvGeometry := { sectorSize := 2048, sectorCount := 2, writeBlock := 32 }
    let first := (nvstorePut (nvReboot nvstoreZero (erasedFlash geometry)).2 1 [7]).2
    let saved := nvSave .none ⟨erasedFlash geometry, first⟩
    nvPayload first = [1, 0, 1, 7] ∧
      RecoversTo (nvSave (.duringErase (erasedSector _))
        ⟨saved.flash, (nvstorePut saved.store 2 [8, 9]).2⟩).flash (some (nvPayload first)) := by
  intro geometry first saved
  have seqFits : SeqFits first := by decide +kernel
  have accepted : backendOk geometry = true := by decide
  have run : NvRun (erasedFlash geometry) saved (some (nvPayload first)) := by
    refine .save ?_ (.put 1 [7] (.start nvstoreZero List.length_replicate))
    exact seqFits
  have invalid : readImage (erasedSector geometry.sectorSize.toNat).bytes = none := by
    decide +kernel
  have recovers := (nvRun_recovers accepted rfl (run.put 2 [8, 9])).2
    (.duringErase (erasedSector _)) (erasedSector _) (.inl rfl)
  exact ⟨by decide +kernel, recovers.1 (.inr invalid)⟩

end FswCore
