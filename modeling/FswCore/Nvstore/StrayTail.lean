import FswCore.Nvstore.Wraparound

/-!
Contract: a put after loading any image, and what is read back.

Owns:
- `PutReadsBack`, what a put that returns OK owes: its bytes to the next get, and
  to the get after a save and a fresh load;
- `PutVisible`, when the loaded octets let get find the record put behind them.
  Load checks an image as a whole: a type may have a second record, and octets
  that begin no record may stand behind the last one;
- `NextSaveLoaded`, when the next start-up loads what is saved next; the one
  before is loaded again otherwise;
- a put reads back exactly under the two, or where the loaded image already holds
  its bytes.
-/

namespace FswCore

open Library

variable {geometry : NvGeometry}

structure PutReadsBack (flash : Flash geometry) (store : Nvstore) (recordType : UInt8)
    (bytes : List UInt8) : Prop where
  get : nvstoreGet (nvstorePut store recordType bytes).2 recordType = .ok bytes
  reload :
    (nvstoreSave (flashBackend geometry .none) flash (nvstorePut store recordType bytes).2).1 =
        .ok →
      ∀ memory : Nvstore, memory.payload.length = nvstorePayloadMax →
        nvstoreGet (nvReboot memory
          (nvSave .none ⟨flash, (nvstorePut store recordType bytes).2⟩).flash).2 recordType =
            .ok bytes

/-- The first record of the type is dropped. What get finds then is the next one, if
there is one; else it is the record put, if the stray octets in front of it are
octets that it repeats. -/
def PutVisible (payload : List UInt8) (recordType : UInt8) (bytes : List UInt8) : Prop :=
  match lookupTag recordType (eraseTag recordType (wholeRecords payload)) with
  | some body => body = bytes
  | none => encodeRecord (recordType, bytes) <+:
      strayTail payload ++ encodeRecord (recordType, bytes)

/-- The next save goes to a sector load examines, with a number that does not wrap. -/
def NextSaveLoaded (geometry : NvGeometry) (store : Nvstore) : Prop :=
  (geometry.sectorCount = 2 ∨ store.loadedSector = 0) ∧ SeqFits store

/-! ### The put -/

theorem HoldsUpTo.fits {store : Nvstore} {records : List Record} {tail : List UInt8}
    (holds : HoldsUpTo store records tail) :
    ∀ record ∈ records, record.2.length < 65536 := by
  intro record member
  obtain ⟨before, after, rfl⟩ := List.append_of_mem member
  exact holds.body_lt

theorem nvstoreGet_ok_iff {store : Nvstore} (sized : store.Sized) {recordType : UInt8}
    {bytes : List UInt8} :
    nvstoreGet store recordType = .ok bytes ↔
      lookupTag recordType (wholeRecords (nvPayload store)) = some bytes := by
  rw [nvstoreGet_upTo (holdsUpTo_whole sized)]
  cases lookupTag recordType (wholeRecords (nvPayload store)) with
  | none => simp
  | some body => simp

/-- A put that returns OK appends its record to what the drop left. -/
theorem nvPayload_put_ok {store : Nvstore} (sized : store.Sized) {recordType : UInt8}
    {bytes : List UInt8} (putOk : (nvstorePut store recordType bytes).1 = .ok) :
    bytes.length < 65536 ∧
      nvPayload (nvstorePut store recordType bytes).2 =
        nvPayload (nvstoreDrop store recordType) ++ encodeRecord (recordType, bytes) := by
  have dropped := nvstoreDrop_sized sized recordType
  have appended := nvPayload_put sized recordType bytes
  rw [nvPayload_length dropped] at appended
  by_cases full : (nvstoreDrop store recordType).payloadLen + nvstoreRecordOverhead +
      bytes.length > nvstorePayloadMax
  · rw [nvstorePut, if_pos full] at putOk
    contradiction
  · rw [if_neg full] at appended
    simp only [nvstorePayloadMax] at full
    exact ⟨by omega, appended⟩

/-- The next get returns the bytes put exactly when the octets show them. -/
theorem nvstoreGet_put_iff {store : Nvstore} (sized : store.Sized) {recordType : UInt8}
    {bytes : List UInt8} (putOk : (nvstorePut store recordType bytes).1 = .ok) :
    nvstoreGet (nvstorePut store recordType bytes).2 recordType = .ok bytes ↔
      PutVisible (nvPayload store) recordType bytes := by
  obtain ⟨fits, appended⟩ := nvPayload_put_ok sized putOk
  have dropped := nvstoreDrop_upTo (holdsUpTo_whole sized) recordType
  have records : wholeRecords (nvPayload (nvstorePut store recordType bytes).2) =
      eraseTag recordType (wholeRecords (nvPayload store)) ++
        wholeRecords (strayTail (nvPayload store) ++ encodeRecord (recordType, bytes)) := by
    rw [appended, dropped.payload, List.append_assoc, wholeRecords_append _ dropped.fits]
  rw [nvstoreGet_ok_iff (nvstorePut_sized sized recordType bytes), records, lookupTag_append,
    PutVisible]
  cases lookupTag recordType (eraseTag recordType (wholeRecords (nvPayload store))) with
  | some body => simp
  | none => exact lookupTag_append_stray dropped.stray fits

/-! ### The save and the fresh load -/

/-- Where a loaded store saves next: the other sector load examines, or a sector it
does not. -/
theorem nvstoreTarget_other (accepted : backendOk geometry = true) {store : Nvstore}
    {slot : Fin 2} {copy : Stamped (List UInt8)} (anchored : Anchored store (some (slot, copy)))
    (within : geometry.sectorCount = 2 ∨ store.loadedSector = 0) :
    nvstoreTarget geometry store = sectorOf (otherSlot slot) := by
  rcases within with two | isFirst
  · exact nvstoreTarget_eq two anchored
  · obtain ⟨loaded, sector, _⟩ := anchored
    have isSlot : slot = 0 := sectorOf_injective (sector.symm.trans isFirst)
    have sectors := (backendOk_fits accepted).sectors
    rw [nvstoreTarget, if_pos loaded, isFirst, isSlot, ← UInt32.toNat_inj, UInt32.toNat_mod]
    exact Nat.mod_eq_of_lt sectors

theorem nvstoreTarget_outside (accepted : backendOk geometry = true) {state : NvState geometry}
    (ready : SaveReady state) (loaded : state.store.loaded = true)
    (beyond : ¬ (geometry.sectorCount = 2 ∨ state.store.loadedSector = 0)) :
    ∀ slot, nvstoreTarget geometry state.store ≠ sectorOf slot := by
  obtain ⟨many, notFirst⟩ := not_or.mp beyond
  have target := ready.target_many accepted many
  have noneLeft : savesInReach state.store = 0 := by
    rw [savesInReach, if_neg (by simp [loaded]), if_neg notFirst]
  rwa [noneLeft] at target

section Reload

variable {state : NvState geometry} {slot : Fin 2} {copy : Stamped (List UInt8)}

/-- The store of a loaded image has seen all that load examines. -/
theorem saveReady_of_anchored (sized : state.store.Sized)
    (found : newest (imageSlots state.flash) = some (slot, copy))
    (anchored : Anchored state.store (some (slot, copy))) : SaveReady state where
  sized := sized
  stamps := by
    intro examined other present
    rw [anchored.2.2]
    exact newest_stamp_le found present
  sector := fun _ => ⟨slot, anchored.2.1⟩

theorem newest_nextSave (accepted : backendOk geometry = true) (sized : state.store.Sized)
    (found : newest (imageSlots state.flash) = some (slot, copy))
    (anchored : Anchored state.store (some (slot, copy)))
    (next : NextSaveLoaded geometry state.store) :
    newest (imageSlots (nvSave .none state).flash) =
      some (otherSlot slot, ⟨(state.store.loadedSeq + 1).toNat, nvPayload state.store⟩) := by
  have isTarget := nvstoreTarget_other accepted anchored next.1
  rw [nvSave_imageSlots accepted sized isTarget]
  apply newest_update_newer found
  rw [SaveReady.next_seq next.2, anchored.2.2]
  exact Nat.lt_succ_self _

/-- A save that load does not examine, or whose number wraps, leaves the image
loaded before the newest. -/
theorem newest_keptSave (accepted : backendOk geometry = true) (sized : state.store.Sized)
    (found : newest (imageSlots state.flash) = some (slot, copy))
    (anchored : Anchored state.store (some (slot, copy)))
    (notNext : ¬ NextSaveLoaded geometry state.store) :
    newest (imageSlots (nvSave .none state).flash) = some (slot, copy) := by
  by_cases within : geometry.sectorCount = 2 ∨ state.store.loadedSector = 0
  · have isTarget := nvstoreTarget_other accepted anchored within
    have wraps : ¬ SeqFits state.store := fun fits => notNext ⟨within, fits⟩
    rw [nvSave_imageSlots accepted sized isTarget]
    apply newest_update_older found
    have isZero : (state.store.loadedSeq + 1).toNat = 0 := by
      have bound := state.store.loadedSeq.toNat_lt
      rw [SeqFits] at wraps
      rw [UInt32.toNat_add, UInt32.toNat_one]
      omega
    have positive : 0 < copy.stamp := by
      rw [← anchored.2.2]
      rw [SeqFits] at wraps
      omega
    exact isZero ▸ positive
  · have ready := saveReady_of_anchored sized found anchored
    have outside := nvstoreTarget_outside accepted ready anchored.1 within
    rw [nvSave_imageSlots_outside accepted sized outside, found]

end Reload

/-- A load that returns OK takes the newest image. -/
theorem nvstoreLoad_ok {flash : Flash geometry} {memory loaded : Nvstore}
    (buffer : memory.payload.length = nvstorePayloadMax)
    (loadOk : nvstoreLoad (flashBackend geometry .none) flash memory = (.ok, loaded)) :
    backendOk geometry = true ∧ ∃ slot copy, newest (imageSlots flash) = some (slot, copy) ∧
      LoadsAs (.ok, loaded) (some (slot, copy)) := by
  have accepted : backendOk geometry = true := by
    by_contra refused
    rw [nvstoreLoad, if_pos (by simpa [flashBackend] using refused)] at loadOk
    cases loadOk
  refine ⟨accepted, ?_⟩
  have loads := nvstoreLoad_spec .none flash accepted memory buffer
  rw [loadOk] at loads
  cases found : newest (imageSlots flash) with
  | none =>
      rw [found] at loads
      cases loads.1
  | some held => exact ⟨held.1, held.2, rfl, found ▸ loads⟩

/-- Every start-up after a save gets what the newest image then holds. -/
theorem nvReboot_get {flash : Flash geometry} (accepted : backendOk geometry = true)
    {slot : Fin 2} {copy : Stamped (List UInt8)}
    (found : newest (imageSlots flash) = some (slot, copy)) {store : Nvstore}
    (sized : store.Sized) (payload : copy.value = nvPayload store) {memory : Nvstore}
    (buffer : memory.payload.length = nvstorePayloadMax) (recordType : UInt8) :
    nvstoreGet (nvReboot memory flash).2 recordType = nvstoreGet store recordType := by
  have loads := nvReboot_loads accepted flash buffer
  rw [found] at loads
  obtain ⟨_, rebootSized, _, _, _, held⟩ := loads
  exact nvstoreGet_congr rebootSized sized (held.trans payload) recordType

/-- After a load that returned OK, a put that returns OK reads back exactly when the
loaded octets show it and the next start-up loads the save that follows, or holds
the bytes anyway. -/
theorem nvstorePut_readsBack_iff {flash : Flash geometry} {memory loaded : Nvstore}
    (buffer : memory.payload.length = nvstorePayloadMax)
    (loadOk : nvstoreLoad (flashBackend geometry .none) flash memory = (.ok, loaded))
    {recordType : UInt8} {bytes : List UInt8}
    (putOk : (nvstorePut loaded recordType bytes).1 = .ok) :
    PutReadsBack flash loaded recordType bytes ↔
      PutVisible (nvPayload loaded) recordType bytes ∧
        (NextSaveLoaded geometry loaded ∨
          lookupTag recordType (wholeRecords (nvPayload loaded)) = some bytes) := by
  obtain ⟨accepted, slot, copy, found, _, sized, isLoaded, sector, stamp, payload⟩ :=
    nvstoreLoad_ok buffer loadOk
  have putSized := nvstorePut_sized sized recordType bytes
  have anchor := nvstorePut_anchor loaded recordType bytes
  let state : NvState geometry := ⟨flash, (nvstorePut loaded recordType bytes).2⟩
  have stateSized : state.store.Sized := putSized
  have stateFound : newest (imageSlots state.flash) = some (slot, copy) := found
  have anchored : Anchored state.store (some (slot, copy)) :=
    Anchored.congr ⟨isLoaded, sector, stamp⟩ anchor
  have sameNext : NextSaveLoaded geometry state.store ↔ NextSaveLoaded geometry loaded := by
    rw [NextSaveLoaded, NextSaveLoaded, SeqFits, SeqFits, anchor.loadedSector, anchor.loadedSeq]
  have saveOk := (nvSave_complete accepted stateSized).1
  have visible := nvstoreGet_put_iff sized putOk
  by_cases next : NextSaveLoaded geometry loaded
  · -- the next start-up gets what the store holds after the put
    have after := newest_nextSave accepted stateSized stateFound anchored (sameNext.mpr next)
    constructor
    · intro readsBack
      exact ⟨visible.mp readsBack.get, .inl next⟩
    · rintro ⟨shown, _⟩
      refine ⟨visible.mpr shown, fun _ other otherBuffer => ?_⟩
      rw [nvReboot_get accepted after putSized rfl otherBuffer]
      exact visible.mpr shown
  · -- the next start-up gets what the store held before the put
    have after := newest_keptSave accepted stateSized stateFound anchored
      (fun nextAfter => next (sameNext.mp nextAfter))
    constructor
    · intro readsBack
      have again := readsBack.reload saveOk memory buffer
      rw [nvReboot_get accepted after sized payload.symm buffer, nvstoreGet_ok_iff sized] at again
      exact ⟨visible.mp readsBack.get, .inr again⟩
    · rintro ⟨shown, loads | holds⟩
      · exact absurd loads next
      · refine ⟨visible.mpr shown, fun _ other otherBuffer => ?_⟩
        rw [nvReboot_get accepted after sized payload.symm otherBuffer, nvstoreGet_ok_iff sized]
        exact holds

/-- An image of two records of one type: the put drops the first, and the second one
holds the bytes put. -/
theorem nvstorePut_readsBack_iff_repeated :
    let geometry : NvGeometry := { sectorSize := 2048, sectorCount := 2, writeBlock := 32 }
    let repeated : Nvstore := { nvstoreZero with
      payload := patch nvstoreZero.payload 0 (encodeRecords [(1, [7]), (1, [8])])
      payloadLen := 8 }
    let flash := (nvSave .none ⟨erasedFlash geometry, repeated⟩).flash
    let loaded := (nvstoreLoad (flashBackend geometry .none) flash nvstoreZero).2
    PutReadsBack flash loaded 1 [8] ↔ PutVisible (nvPayload loaded) 1 [8] ∧
      (NextSaveLoaded geometry loaded ∨
        lookupTag 1 (wholeRecords (nvPayload loaded)) = some [8]) := by
  intro geometry repeated flash loaded
  have isOk : (nvstoreLoad (flashBackend geometry .none) flash nvstoreZero).1 = .ok := by
    decide +kernel
  have loadOk : nvstoreLoad (flashBackend geometry .none) flash nvstoreZero = (.ok, loaded) := by
    rw [← isOk]
  have putOk : (nvstorePut loaded 1 [8]).1 = .ok := by decide +kernel
  exact nvstorePut_readsBack_iff List.length_replicate loadOk putOk

/-- An image of one stray octet: the put returns OK behind it, and the walk takes the
octet for the type of a record that runs past the payload. -/
theorem nvstorePut_behind_stray_unread :
    let geometry : NvGeometry := { sectorSize := 2048, sectorCount := 2, writeBlock := 32 }
    let stray : Nvstore := { nvstoreZero with
      payload := patch nvstoreZero.payload 0 [9]
      payloadLen := 1 }
    let flash := (nvSave .none ⟨erasedFlash geometry, stray⟩).flash
    let loaded := (nvstoreLoad (flashBackend geometry .none) flash nvstoreZero).2
    (nvstoreLoad (flashBackend geometry .none) flash nvstoreZero).1 = .ok ∧
      nvPayload loaded = [9] ∧
      (nvstorePut loaded 1 [7]).1 = .ok ∧
      nvstoreGet (nvstorePut loaded 1 [7]).2 1 = .error .errNotFound ∧
      ¬ PutReadsBack flash loaded 1 [7] := by
  intro geometry stray flash loaded
  have unread : nvstoreGet (nvstorePut loaded 1 [7]).2 1 = .error .errNotFound := by
    decide +kernel
  refine ⟨by decide +kernel, by decide +kernel, by decide +kernel, unread, fun readsBack => ?_⟩
  have found := readsBack.get
  rw [unread] at found
  cases found

end FswCore
