import FswCore.Nvstore.Supersede

/-!
Contract: which saves a fresh load reads back exactly, on a backend with any
accepted number of sectors.

Owns:
- `SaveReadsBack`, what a save owes the next start-up;
- `SaveReady`, the invariant of runs of puts and saves whose target load
  examines: load has seen every image that could outrank the next save;
- a run's saves read back exactly when there are two sectors, or too few saves
  to leave the first two.
-/

namespace FswCore

open Library

variable {geometry : NvGeometry}

/-! ### One save -/

/-- A save that returns OK is what every start-up after it loads, payload and
sequence number. -/
def SaveReadsBack (state : NvState geometry) : Prop :=
  (nvstoreSave (flashBackend geometry .none) state.flash state.store).1 = .ok →
    ∀ memory : Nvstore, memory.payload.length = nvstorePayloadMax →
      (nvReboot memory (nvSave .none state).flash).1 = .ok ∧
        nvPayload (nvReboot memory (nvSave .none state).flash).2 = nvPayload state.store ∧
        (nvReboot memory (nvSave .none state).flash).2.loadedSeq =
          (nvSave .none state).store.loadedSeq

theorem nvSave_complete (accepted : backendOk geometry = true) {state : NvState geometry}
    (sized : state.store.Sized) :
    (nvstoreSave (flashBackend geometry .none) state.flash state.store).1 = .ok ∧
      (nvSave .none state).store = { state.store with
        loadedSeq := state.store.loadedSeq + 1
        loadedSector := nvstoreTarget geometry state.store
        loaded := true } := by
  obtain ⟨sector, _, result⟩ := (nvstoreSave_spec accepted .none state.flash sized).done rfl
  rw [nvSave, result]
  exact ⟨rfl, rfl⟩

/-- The images load examines are unchanged by a save to another sector. -/
theorem nvSave_imageSlots_outside (accepted : backendOk geometry = true) {state : NvState geometry}
    (sized : state.store.Sized)
    (outside : ∀ slot, nvstoreTarget geometry state.store ≠ sectorOf slot) :
    imageSlots (nvSave .none state).flash = imageSlots state.flash := by
  obtain ⟨sector, _, result⟩ := (nvstoreSave_spec accepted .none state.flash sized).done rfl
  funext slot
  rw [nvSave, result]
  simp only [imageSlots, Function.update_of_ne (outside slot).symm]

/-- The save reads back exactly when it is the newest image. -/
theorem saveReadsBack_iff (accepted : backendOk geometry = true) {state : NvState geometry}
    (sized : state.store.Sized) :
    SaveReadsBack state ↔ ∃ slot, newest (imageSlots (nvSave .none state).flash) =
      some (slot, ⟨(state.store.loadedSeq + 1).toNat, nvPayload state.store⟩) := by
  obtain ⟨isOk, after⟩ := nvSave_complete accepted sized
  have loads (memory : Nvstore) (buffer : memory.payload.length = nvstorePayloadMax) :=
    nvReboot_loads accepted (nvSave .none state).flash buffer
  constructor
  · intro readsBack
    obtain ⟨loadOk, payload, seq⟩ := readsBack isOk nvstoreZero List.length_replicate
    have zero := loads nvstoreZero List.length_replicate
    cases found : newest (imageSlots (nvSave .none state).flash) with
    | none =>
        rw [found] at zero
        rw [zero.1] at loadOk
        contradiction
    | some held =>
        obtain ⟨slot, stamp, value⟩ := held
        rw [found] at zero
        obtain ⟨_, _, _, _, stampIs, valueIs⟩ := zero
        rw [seq, after] at stampIs
        rw [payload] at valueIs
        exact ⟨slot, by rw [stampIs, valueIs]⟩
  · rintro ⟨slot, found⟩ _ memory buffer
    have fresh := loads memory buffer
    rw [found] at fresh
    obtain ⟨loadOk, _, _, _, seq, payload⟩ := fresh
    refine ⟨loadOk, payload, ?_⟩
    rw [after]
    exact UInt32.toNat_inj.mp seq

/-- A superseding save reads back. -/
theorem saveReadsBack_of_supersedes (accepted : backendOk geometry = true)
    {state : NvState geometry} (sized : state.store.Sized) (supersedes : SaveSupersedes state) :
    SaveReadsBack state := by
  apply (saveReadsBack_iff accepted sized).mpr
  obtain ⟨slot, isTarget, outranks⟩ := supersedes
  refine ⟨slot, ?_⟩
  rw [nvSave_imageSlots accepted sized isTarget, newest_update_some]
  cases present : imageSlots state.flash (otherSlot slot) with
  | none => rfl
  | some rival =>
      have wins := outranks rival present
      rw [isTarget, sectorOf_eq_zero] at wins
      simp only [if_pos wins]

/-! ### The invariant -/

/-- The store has seen every image load examines, and its own is one of them. -/
structure SaveReady (state : NvState geometry) : Prop where
  sized : state.store.Sized
  stamps : ∀ slot copy, imageSlots state.flash slot = some copy →
    copy.stamp ≤ state.store.loadedSeq.toNat
  sector : state.store.loaded = true → ∃ slot, state.store.loadedSector = sectorOf slot

theorem nvReboot_saveReady (accepted : backendOk geometry = true) (flash : Flash geometry)
    {memory : Nvstore} (buffer : memory.payload.length = nvstorePayloadMax) :
    SaveReady ⟨flash, (nvReboot memory flash).2⟩ := by
  have loads := nvReboot_loads accepted flash buffer
  cases found : newest (imageSlots flash) with
  | none =>
      rw [found] at loads
      obtain ⟨_, sized, notLoaded, _, _⟩ := loads
      refine ⟨sized, fun slot copy present => ?_, fun loaded => ?_⟩
      · rw [(newest_eq_none_iff _).mp found slot] at present
        contradiction
      · rw [notLoaded] at loaded
        contradiction
  | some held =>
      rw [found] at loads
      obtain ⟨_, sized, _, sector, seq, _⟩ := loads
      refine ⟨sized, fun slot copy present => ?_, fun _ => ⟨held.1, sector⟩⟩
      rw [seq]
      exact newest_stamp_le found present

namespace SaveReady

variable {state : NvState geometry}

theorem put (ready : SaveReady state) (recordType : UInt8) (bytes : List UInt8) :
    SaveReady ⟨state.flash, (nvstorePut state.store recordType bytes).2⟩ := by
  have anchor := nvstorePut_anchor state.store recordType bytes
  refine ⟨nvstorePut_sized ready.sized recordType bytes, fun slot copy present => ?_,
    fun loaded => ?_⟩
  · rw [anchor.loadedSeq]
    exact ready.stamps slot copy present
  · rw [anchor.loadedSector]
    exact ready.sector (anchor.loaded ▸ loaded)

theorem next_seq (seqFits : SeqFits state.store) :
    (state.store.loadedSeq + 1).toNat = state.store.loadedSeq.toNat + 1 := by
  rw [UInt32.toNat_add, UInt32.toNat_one, Nat.mod_eq_of_lt seqFits]

/-- A save to a sector load examines reads back and keeps the invariant. -/
theorem saveInside (ready : SaveReady state) (accepted : backendOk geometry = true)
    (seqFits : SeqFits state.store) {slot : Fin 2}
    (isTarget : nvstoreTarget geometry state.store = sectorOf slot) :
    SaveReadsBack state ∧ SaveReady (nvSave .none state) := by
  have next := next_seq seqFits
  constructor
  · apply saveReadsBack_of_supersedes accepted ready.sized
    refine ⟨slot, isTarget, fun rival present => .inl ?_⟩
    have seen := ready.stamps _ rival present
    omega
  · obtain ⟨_, after⟩ := nvSave_complete accepted ready.sized
    refine ⟨?_, fun examined copy present => ?_, fun _ => ⟨slot, ?_⟩⟩
    · rw [after]
      exact ⟨ready.sized.buffer, ready.sized.len_le⟩
    · rw [nvSave_imageSlots accepted ready.sized isTarget] at present
      rw [after]
      by_cases written : examined = slot
      · rw [written, Function.update_self] at present
        rw [← Option.some.inj present]
      · rw [Function.update_of_ne written] at present
        have seen := ready.stamps examined copy present
        simp only [next]
        omega
    · rw [after]
      exact isTarget

/-- A save to any other sector does not read back: the images load examines are
older. -/
theorem saveOutside (ready : SaveReady state) (accepted : backendOk geometry = true)
    (seqFits : SeqFits state.store)
    (outside : ∀ slot, nvstoreTarget geometry state.store ≠ sectorOf slot) :
    ¬ SaveReadsBack state := by
  intro readsBack
  obtain ⟨slot, found⟩ := (saveReadsBack_iff accepted ready.sized).mp readsBack
  rw [nvSave_imageSlots_outside accepted ready.sized outside] at found
  have seen := ready.stamps slot _ (newest_mem found)
  have next := next_seq seqFits
  simp only at seen
  omega

end SaveReady

/-! ### Runs -/

inductive NvOp where
  | put (recordType : UInt8) (bytes : List UInt8)
  | save

def saveCount : List NvOp → Nat
  | [] => 0
  | .put _ _ :: rest => saveCount rest
  | .save :: rest => saveCount rest + 1

/-- Every save of the run reads back. -/
def SavesReadBack : NvState geometry → List NvOp → Prop
  | _, [] => True
  | state, .put recordType bytes :: rest =>
      SavesReadBack ⟨state.flash, (nvstorePut state.store recordType bytes).2⟩ rest
  | state, .save :: rest => SaveReadsBack state ∧ SavesReadBack (nvSave .none state) rest

/-- The saves that stay in the first two sectors, where the store counts up to
the last sector of more than two. -/
def savesInReach (store : Nvstore) : Nat :=
  if store.loaded = false then 2 else if store.loadedSector = 0 then 1 else 0

namespace SaveReady

variable {state : NvState geometry}

theorem target_two (ready : SaveReady state) (two : geometry.sectorCount = 2) :
    ∃ slot, nvstoreTarget geometry state.store = sectorOf slot := by
  cases loaded : state.store.loaded with
  | false => exact ⟨0, by simp [nvstoreTarget, loaded, sectorOf]⟩
  | true =>
      obtain ⟨slot, sector⟩ := ready.sector loaded
      have bothSlots : ∀ slot, (sectorOf slot + 1) % 2 = sectorOf (otherSlot slot) := by decide
      exact ⟨otherSlot slot, by rw [nvstoreTarget, if_pos loaded, sector, two, bothSlots]⟩

/-- With more than two sectors the target moves on, and leaves the first two when
no save is left in reach. -/
theorem target_many (ready : SaveReady state) (accepted : backendOk geometry = true)
    (many : geometry.sectorCount ≠ 2) :
    match savesInReach state.store with
    | 0 => ∀ slot, nvstoreTarget geometry state.store ≠ sectorOf slot
    | reach + 1 => ∃ slot, nvstoreTarget geometry state.store = sectorOf slot ∧
        savesInReach (nvSave .none state).store = reach := by
  obtain ⟨_, after⟩ := nvSave_complete accepted ready.sized
  have atLeast := (backendOk_fits accepted).sectors
  have moreThanTwo : 2 < geometry.sectorCount.toNat := by
    refine Nat.lt_of_le_of_ne atLeast fun equal => many ?_
    exact UInt32.toNat_inj.mp equal.symm
  have unreduced {sector : UInt32} (below : sector.toNat ≤ 2) :
      sector % geometry.sectorCount = sector := by
    rw [← UInt32.toNat_inj, UInt32.toNat_mod, Nat.mod_eq_of_lt (by omega)]
  have either (slot : Fin 2) : slot = 0 ∨ slot = 1 := by omega
  cases loaded : state.store.loaded with
  | false =>
      have target : nvstoreTarget geometry state.store = 0 := by simp [nvstoreTarget, loaded]
      simp only [savesInReach, loaded, if_true]
      exact ⟨0, target, by simp [after, target]⟩
  | true =>
      obtain ⟨slot, sector⟩ := ready.sector loaded
      have target : nvstoreTarget geometry state.store = sectorOf slot + 1 := by
        rw [nvstoreTarget, if_pos loaded, sector]
        apply unreduced
        rcases either slot with rfl | rfl <;> decide
      rcases either slot with rfl | rfl
      · simp only [savesInReach, loaded, sector, sectorOf, if_true, Bool.true_eq_false, if_false]
        exact ⟨1, target, by simp [after, target, sectorOf]⟩
      · have noneLeft : savesInReach state.store = 0 := by
          simp [savesInReach, loaded, sector, sectorOf]
        rw [noneLeft]
        intro examined equal
        rw [target] at equal
        rcases either examined with rfl | rfl <;> contradiction

end SaveReady

theorem savesReadBack_of_ready (accepted : backendOk geometry = true) (ops : List NvOp)
    {state : NvState geometry} (ready : SaveReady state)
    (seqFits : state.store.loadedSeq.toNat + saveCount ops < 4294967296) :
    SavesReadBack state ops ↔
      geometry.sectorCount = 2 ∨ saveCount ops ≤ savesInReach state.store := by
  induction ops generalizing state with
  | nil => exact ⟨fun _ => .inr (Nat.zero_le _), fun _ => trivial⟩
  | cons op rest inductionHypothesis =>
      cases op with
      | put recordType bytes =>
          have anchor := nvstorePut_anchor state.store recordType bytes
          have sameReach : savesInReach (nvstorePut state.store recordType bytes).2 =
              savesInReach state.store := by
            rw [savesInReach, savesInReach, anchor.loaded, anchor.loadedSector]
          rw [SavesReadBack, inductionHypothesis (ready.put recordType bytes)
            (by rw [anchor.loadedSeq]; exact seqFits)]
          simp only [sameReach, saveCount]
      | save =>
          rw [saveCount] at seqFits
          have fits : SeqFits state.store := by
            rw [SeqFits]
            omega
          obtain ⟨_, after⟩ := nvSave_complete accepted ready.sized
          have counted : (nvSave .none state).store.loadedSeq.toNat + saveCount rest <
              4294967296 := by
            rw [after, SaveReady.next_seq fits]
            omega
          rw [SavesReadBack, saveCount]
          by_cases two : geometry.sectorCount = 2
          · obtain ⟨slot, isTarget⟩ := ready.target_two two
            obtain ⟨readsBack, next⟩ := ready.saveInside accepted fits isTarget
            simp only [readsBack, inductionHypothesis next counted, two, true_and, true_or]
          · have target := ready.target_many accepted two
            cases reach : savesInReach state.store with
            | zero =>
                rw [reach] at target
                have lost := ready.saveOutside accepted fits target
                simp [lost, two]
            | succ left =>
                rw [reach] at target
                obtain ⟨slot, isTarget, leftAfter⟩ := target
                obtain ⟨readsBack, next⟩ := ready.saveInside accepted fits isTarget
                rw [inductionHypothesis next counted, leftAfter]
                simp only [readsBack, true_and, Nat.add_le_add_iff_right]

/-- After a start-up on any flash, the saves of a run read back exactly when the
backend has two sectors or the run stays in the first two. -/
theorem nvRun_readsBack_iff (accepted : backendOk geometry = true) {memory : Nvstore}
    (buffer : memory.payload.length = nvstorePayloadMax) (flash : Flash geometry)
    (ops : List NvOp)
    (seqFits : (nvReboot memory flash).2.loadedSeq.toNat + saveCount ops < 4294967296) :
    SavesReadBack ⟨flash, (nvReboot memory flash).2⟩ ops ↔
      geometry.sectorCount = 2 ∨ saveCount ops ≤ savesInReach (nvReboot memory flash).2 :=
  savesReadBack_of_ready accepted ops (nvReboot_saveReady accepted flash buffer) seqFits

/-- Two sectors, first use: both sectors are written, and the first again. -/
theorem nvRun_readsBack_iff_two :
    let geometry : NvGeometry := { sectorSize := 2048, sectorCount := 2, writeBlock := 32 }
    SavesReadBack ⟨erasedFlash geometry, (nvReboot nvstoreZero (erasedFlash geometry)).2⟩
      [.put 1 [7], .save, .put 1 [8], .save, .save] := by
  intro geometry
  have accepted : backendOk geometry = true := by decide
  have fits : (nvReboot nvstoreZero (erasedFlash geometry)).2.loadedSeq.toNat + 3 <
      4294967296 := by
    decide +kernel
  exact (nvRun_readsBack_iff accepted List.length_replicate _ _ fits).mpr (.inl rfl)

/-- Three sectors: the third save goes where load does not look, and the second
is loaded instead. -/
theorem nvRun_third_sector_unread :
    let geometry : NvGeometry := { sectorSize := 2048, sectorCount := 3, writeBlock := 32 }
    ¬ SavesReadBack ⟨erasedFlash geometry, (nvReboot nvstoreZero (erasedFlash geometry)).2⟩
      [.put 1 [7], .save, .save, .save] := by
  rintro geometry ⟨_, _, readsBack, _⟩
  obtain ⟨_, _, seq⟩ := readsBack (by decide +kernel) nvstoreZero List.length_replicate
  revert seq
  decide +kernel

end FswCore
