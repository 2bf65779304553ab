import FswCore.Nvstore.ReadBack

/-!
Contract: a start-up some of whose flash reads fail, and the first save after it.

Owns:
- `nvstoreLoadTransient`, load with the reads of its two passes failing
  independently, and that it is load where none fails;
- what such a load finds: an image all of whose reads succeeded, or nothing;
- the first save after it is what the next start-up loads, exactly when an image
  was read or sector 1 holds none that outranks a first save.

Does not own: reads that succeed with wrong data.
-/

namespace FswCore

open Library

/-! ### Load with failing reads -/

section Transient

variable {σ : Type} (scan attempt : NvBackend σ)

/-- The attempts, with the headers as the first pass read them. -/
def nvstoreLoadPassesTransient (device : σ) : List UInt32 → Nvstore → NvstoreStatus × Nvstore
  | [], store => (.errNoValidImage,
      { store with payloadLen := 0, loadedSeq := 0, loadedSector := 0, loaded := false })
  | sector :: rest, store =>
      if (nvstoreHeaderSeq scan device sector).isNone then
        nvstoreLoadPassesTransient device rest store
      else
        match nvstoreTryLoadSector attempt device store sector with
        | (none, store) => nvstoreLoadPassesTransient device rest store
        | (some (seq, payloadLen), store) => (.ok, { store with
            payloadLen := payloadLen
            loadedSeq := seq
            loadedSector := sector
            loaded := true })

/-- `scan` answers the reads of the header pass, `attempt` those of the attempts:
no read is made twice within one of the two. -/
def nvstoreLoadTransient (device : σ) (store : Nvstore) : NvstoreStatus × Nvstore :=
  if backendOk scan.geometry = false then (.errGeometry, store)
  else
    let order := if nvstoreSecondFirst (nvstoreHeaderSeq scan device 0)
      (nvstoreHeaderSeq scan device 1) then [1, 0] else [0, 1]
    nvstoreLoadPassesTransient scan attempt device order store

end Transient

theorem nvstoreLoadPassesTransient_self {σ : Type} (backend : NvBackend σ) (device : σ)
    (order : List UInt32) (store : Nvstore) :
    nvstoreLoadPassesTransient backend backend device order store =
      nvstoreLoadPasses backend device order store := by
  induction order generalizing store with
  | nil => rfl
  | cons sector rest inductionHypothesis =>
      rcases attempt : nvstoreTryLoadSector backend device store sector with ⟨found, after⟩
      cases found with
      | none =>
          simp only [nvstoreLoadPassesTransient, nvstoreLoadPasses, attempt, inductionHypothesis]
      | some header => simp only [nvstoreLoadPassesTransient, nvstoreLoadPasses, attempt,
          inductionHypothesis]

theorem nvstoreLoadTransient_self {σ : Type} (backend : NvBackend σ) (device : σ)
    (store : Nvstore) :
    nvstoreLoadTransient backend backend device store = nvstoreLoad backend device store := by
  simp only [nvstoreLoadTransient, nvstoreLoad, nvstoreLoadPassesTransient_self]

/-- Which reads fail, by sector, offset and length. -/
abbrev ReadFailures := UInt32 → Nat → Nat → Bool

variable {geometry : NvGeometry}

def flakyRead (fails : ReadFailures) (flash : Flash geometry) (sector : UInt32) (off len : Nat) :
    Option (List UInt8) :=
  if fails sector off len then none else flashRead flash sector off len

def flakyBackend (geometry : NvGeometry) (fails : ReadFailures) : NvBackend (Flash geometry) :=
  { flashBackend geometry .none with read := flakyRead fails }

/-- The start-up of `nvReboot`, with failing reads. -/
def nvRebootTransient (scan attempt : ReadFailures) (memory : Nvstore) (flash : Flash geometry) :
    NvstoreStatus × Nvstore :=
  nvstoreLoadTransient (flakyBackend geometry scan) (flakyBackend geometry attempt) flash
    (nvstoreInit memory)

/-! ### What it finds -/

/-- The reads of an attempt at a sector succeed. -/
structure AttemptReads (attempt : ReadFailures) (flash : Flash geometry) (slot : Fin 2) :
    Prop where
  header : attempt (sectorOf slot) 0 nvstoreHeaderSize = false
  payload : 0 < imageLen (flash (sectorOf slot)).bytes →
    attempt (sectorOf slot) nvstoreHeaderSize (imageLen (flash (sectorOf slot)).bytes) = false
  crc : attempt (sectorOf slot)
    (nvstoreHeaderSize + imageLen (flash (sectorOf slot)).bytes) 2 = false

/-- The slot holds an image, and load reads it without a failure. -/
structure ImageRead (scan attempt : ReadFailures) (flash : Flash geometry) (slot : Fin 2) :
    Prop where
  image : (imageSlots flash slot).isSome
  scanned : scan (sectorOf slot) 0 nvstoreHeaderSize = false
  reads : AttemptReads attempt flash slot

section Reads

variable {scan attempt : ReadFailures} {flash : Flash geometry} {slot : Fin 2}

theorem flakyTry_succeeds (fits : GeometryFits geometry)
    (reads : AttemptReads attempt flash slot) (store : Nvstore) :
    nvstoreTryLoadSector (flakyBackend geometry attempt) flash store (sectorOf slot) =
      nvstoreTryLoadSector (flashBackend geometry .none) flash store (sectorOf slot) := by
  have header := headerRead fits flash slot
  have payload : (if imageLen (flash (sectorOf slot)).bytes > 0 then
        flakyRead attempt flash (sectorOf slot) nvstoreHeaderSize
          (imageLen (flash (sectorOf slot)).bytes)
      else some []) =
      (if imageLen (flash (sectorOf slot)).bytes > 0 then
        flashRead flash (sectorOf slot) nvstoreHeaderSize
          (imageLen (flash (sectorOf slot)).bytes)
      else some []) := by
    split
    · rename_i nonempty
      simp [flakyRead, reads.payload nonempty]
    · rfl
  have headerRead : flakyRead attempt flash (sectorOf slot) 0 nvstoreHeaderSize =
      some ((flash (sectorOf slot)).bytes.take nvstoreHeaderSize) := by
    simp [flakyRead, reads.header, header.read]
  have crcRead : flakyRead attempt flash (sectorOf slot)
        (nvstoreHeaderSize + imageLen (flash (sectorOf slot)).bytes) 2 =
      flashRead flash (sectorOf slot)
        (nvstoreHeaderSize + imageLen (flash (sectorOf slot)).bytes) 2 := by
    simp [flakyRead, reads.crc]
  simp only [nvstoreTryLoadSector, flakyBackend, flashBackend, headerRead, header.read,
    header.len, payload, crcRead]

theorem flakyTry_fails (fits : GeometryFits geometry)
    (unread : ¬ AttemptReads attempt flash slot) {store : Nvstore}
    (buffer : store.payload.length = nvstorePayloadMax) :
    TryLoadSpec store none
      (nvstoreTryLoadSector (flakyBackend geometry attempt) flash store (sectorOf slot)) := by
  have rejected : TryLoadSpec store none (none, store) := ⟨rfl, buffer, by simp⟩
  have header := headerRead fits flash slot
  by_cases headerFails : attempt (sectorOf slot) 0 nvstoreHeaderSize = true
  · simp only [nvstoreTryLoadSector, flakyBackend, flakyRead, headerFails, if_true]
    exact rejected
  have headerRead : flakyRead attempt flash (sectorOf slot) 0 nvstoreHeaderSize =
      some ((flash (sectorOf slot)).bytes.take nvstoreHeaderSize) := by
    rw [flakyRead, if_neg headerFails, header.read]
  simp only [nvstoreTryLoadSector, flakyBackend, headerRead, header.magic, header.version,
    header.len, ite_headerValid]
  by_cases valid : HeaderValid (flash (sectorOf slot)).bytes
  case neg =>
    rw [if_neg valid]
    exact rejected
  rw [if_pos valid]
  have inBounds := valid.len_le
  have body := bodyRead fits flash slot inBounds
  generalize lengthIs : imageLen (flash (sectorOf slot)).bytes = length at *
  by_cases payloadFails : 0 < length ∧
      attempt (sectorOf slot) nvstoreHeaderSize length = true
  · simp only [gt_iff_lt, payloadFails.1, flakyRead, payloadFails.2, if_true]
    exact rejected
  -- with the header and the payload read, it is the checksum that is not
  have crcFails : attempt (sectorOf slot) (nvstoreHeaderSize + length) 2 = true := by
    by_contra crcRead
    refine unread ⟨Bool.eq_false_iff.mpr headerFails, fun nonempty => ?_, ?_⟩
    · rw [lengthIs] at nonempty ⊢
      exact Bool.eq_false_iff.mpr fun fails => payloadFails ⟨nonempty, fails⟩
    · rw [lengthIs]
      exact Bool.eq_false_iff.mpr crcRead
  have payloadRead : (if length > 0 then
        flakyRead attempt flash (sectorOf slot) nvstoreHeaderSize length else some []) =
          some (window (flash (sectorOf slot)).bytes nvstoreHeaderSize length) := by
    rw [← body.payload]
    split
    · rename_i nonempty
      have succeeds : ¬ attempt (sectorOf slot) nvstoreHeaderSize length = true := fun fails =>
        payloadFails ⟨nonempty, fails⟩
      rw [flakyRead, if_neg succeeds]
    · rfl
  have crcRead : flakyRead attempt flash (sectorOf slot) (nvstoreHeaderSize + length) 2 = none := by
    simp only [flakyRead, crcFails, if_true]
  simp only [payloadRead, crcRead]
  refine ⟨rfl, ?_, by simp⟩
  show (patch store.payload 0 _).length = nvstorePayloadMax
  rw [patch_length _ (by rw [body.length]; omega), buffer]

/-- What a start-up with failing reads finds among the sectors it tries. -/
inductive TransientLoads (scan attempt : ReadFailures) (flash : Flash geometry)
    (order : List (Fin 2)) (result : NvstoreStatus × Nvstore) : Prop where
  | loaded (slot : Fin 2) (copy : Stamped (List UInt8))
      (present : imageSlots flash slot = some copy) (read : ImageRead scan attempt flash slot)
      (loads : LoadsAs result (some (slot, copy)))
  | nothing (unread : ∀ slot ∈ order, ¬ ImageRead scan attempt flash slot)
      (loads : LoadsAs result none)

theorem TransientLoads.skip {rest : List (Fin 2)} {result : NvstoreStatus × Nvstore}
    (unread : ¬ ImageRead scan attempt flash slot)
    (later : TransientLoads scan attempt flash rest result) :
    TransientLoads scan attempt flash (slot :: rest) result := by
  cases later with
  | loaded other copy present read loads => exact .loaded other copy present read loads
  | nothing others loads =>
      exact .nothing (fun other member => by
        rcases List.mem_cons.mp member with rfl | inRest
        · exact unread
        · exact others other inRest) loads

theorem nvstoreLoadPassesTransient_spec (fits : GeometryFits geometry) (order : List (Fin 2))
    {store : Nvstore} (buffer : store.payload.length = nvstorePayloadMax) :
    TransientLoads scan attempt flash order
      (nvstoreLoadPassesTransient (flakyBackend geometry scan) (flakyBackend geometry attempt)
        flash (order.map sectorOf) store) := by
  induction order generalizing store with
  | nil =>
      apply TransientLoads.nothing (by simp)
      exact ⟨rfl, ⟨buffer, Nat.zero_le _⟩, rfl, rfl,
        by simp [nvstoreLoadPassesTransient, nvPayload]⟩
  | cons slot rest inductionHypothesis =>
      rw [List.map_cons, nvstoreLoadPassesTransient]
      by_cases scanFails : scan (sectorOf slot) 0 nvstoreHeaderSize = true
      · have noHeader : nvstoreHeaderSeq (flakyBackend geometry scan) flash (sectorOf slot) =
            none := by
          simp [nvstoreHeaderSeq, flakyBackend, flakyRead, scanFails]
        rw [noHeader, if_pos Option.isNone_none]
        apply (inductionHypothesis buffer).skip
        intro read
        rw [read.scanned] at scanFails
        contradiction
      have scanned : scan (sectorOf slot) 0 nvstoreHeaderSize = false :=
        Bool.eq_false_iff.mpr scanFails
      have sameHeader : nvstoreHeaderSeq (flakyBackend geometry scan) flash (sectorOf slot) =
          nvstoreHeaderSeq (flashBackend geometry .none) flash (sectorOf slot) := by
        simp [nvstoreHeaderSeq, flakyBackend, flakyRead, flashBackend, scanned]
      rw [sameHeader, nvstoreHeaderSeq_eq .none flash fits slot]
      by_cases valid : HeaderValid (flash (sectorOf slot)).bytes
      · rw [if_pos valid, if_neg (by simp)]
        by_cases reads : AttemptReads attempt flash slot
        · rw [flakyTry_succeeds fits reads]
          have tried := (nvstoreTryLoadSector_spec .none flash fits buffer slot).attempted
          generalize nvstoreTryLoadSector (flashBackend geometry .none) flash store
            (sectorOf slot) = result at tried ⊢
          generalize found : readImage (flash (sectorOf slot)).bytes = image at tried
          cases tried with
          | missed after kept =>
              apply (inductionHypothesis kept).skip
              intro read
              simpa [imageSlots, found] using read.image
          | loaded image after kept payload =>
              have present : imageSlots flash slot = some ⟨image.seq.toNat, image.payload⟩ := by
                simp [imageSlots, found]
              apply TransientLoads.loaded slot _ present
                ⟨by rw [present]; rfl, scanned, reads⟩
              exact ⟨rfl, ⟨kept, readImage_payload_length found⟩, rfl, rfl, rfl, payload⟩
        · have tried := (flakyTry_fails fits reads buffer).attempted
          generalize nvstoreTryLoadSector (flakyBackend geometry attempt) flash store
            (sectorOf slot) = result at tried ⊢
          cases tried with
          | missed after kept => exact (inductionHypothesis kept).skip fun read => reads read.reads
      · rw [if_neg valid, if_pos Option.isNone_none]
        apply (inductionHypothesis buffer).skip
        intro read
        have noImage := readImage_of_headerInvalid valid
        simpa [imageSlots, noImage] using read.image

end Reads

theorem nvRebootTransient_spec (accepted : backendOk geometry = true)
    (scan attempt : ReadFailures) (flash : Flash geometry) {memory : Nvstore}
    (buffer : memory.payload.length = nvstorePayloadMax) :
    ∃ order, (∀ slot, slot ∈ order) ∧ TransientLoads scan attempt flash order
      (nvRebootTransient scan attempt memory flash) := by
  have fits := backendOk_fits accepted
  have usable : ¬ backendOk (flakyBackend geometry scan).geometry = false := by
    simp [flakyBackend, flashBackend, accepted]
  rw [nvRebootTransient, nvstoreLoadTransient, if_neg usable]
  generalize nvstoreSecondFirst _ _ = secondFirst
  cases secondFirst with
  | true => exact ⟨[1, 0], by decide, nvstoreLoadPassesTransient_spec fits [1, 0] buffer⟩
  | false => exact ⟨[0, 1], by decide, nvstoreLoadPassesTransient_spec fits [0, 1] buffer⟩

/-! ### The first save after it -/

/-- The save of a store that loaded an image overwrites the other sector, and
outranks the image it loaded. -/
theorem saveReadsBack_of_loaded (accepted : backendOk geometry = true)
    (two : geometry.sectorCount = 2) {state : NvState geometry} (sized : state.store.Sized)
    {slot : Fin 2} {copy : Stamped (List UInt8)}
    (anchored : Anchored state.store (some (slot, copy)))
    (present : imageSlots state.flash slot = some copy) (small : copy.stamp < 4294967295) :
    SaveReadsBack state := by
  apply saveReadsBack_of_supersedes accepted sized
  refine ⟨otherSlot slot, nvstoreTarget_eq two anchored, fun rival found => .inl ?_⟩
  have twice : otherSlot (otherSlot slot) = slot := by
    match slot with
    | 0 => rfl
    | 1 => rfl
  rw [twice, present] at found
  obtain rfl := Option.some.inj found
  have seqIs := anchored.2.2
  rw [SaveReady.next_seq (by rw [SeqFits]; omega)]
  omega

/-- The save of a store that loaded nothing goes to sector 0 with sequence 1. -/
theorem saveReadsBack_of_nothing (accepted : backendOk geometry = true)
    {state : NvState geometry} (sized : state.store.Sized)
    (anchored : Anchored state.store none) :
    SaveReadsBack state ↔ ∀ rival, imageSlots state.flash 1 = some rival → rival.stamp ≤ 1 := by
  obtain ⟨notLoaded, noSeq⟩ := anchored
  have isTarget : nvstoreTarget geometry state.store = sectorOf 0 := by
    simp [nvstoreTarget, notLoaded, sectorOf]
  have first : (state.store.loadedSeq + 1).toNat = 1 := by rw [noSeq]; rfl
  rw [saveReadsBack_iff accepted sized, nvSave_imageSlots accepted sized isTarget,
    newest_update_some, first, show otherSlot 0 = 1 from rfl]
  cases present : imageSlots state.flash 1 with
  | none => simp
  | some rival =>
      by_cases outranked : rival.stamp ≤ 1
      · have wins : rival.stamp < 1 ∨ rival.stamp = 1 := by omega
        simp only [Fin.val_zero, true_and, if_pos wins, Option.some.injEq, forall_eq', outranked,
          iff_true]
        exact ⟨0, rfl⟩
      · have loses : ¬ (rival.stamp < 1 ∨ rival.stamp = 1) := by omega
        simp only [Fin.val_zero, true_and, if_neg loses, Option.some.injEq, forall_eq', outranked,
          iff_false]
        rintro ⟨slot, same⟩
        rw [(Prod.mk.inj same).2] at outranked
        exact outranked (Nat.le_refl 1)

/-- Whatever reads fail at start-up, the first save is what the next start-up
loads exactly when an image was read, or sector 1 holds none that outranks a
first save. -/
theorem transientLoad_readsBack_iff (accepted : backendOk geometry = true)
    (two : geometry.sectorCount = 2) (scan attempt : ReadFailures) (flash : Flash geometry)
    (small : ∀ slot copy, imageSlots flash slot = some copy → copy.stamp < 4294967295)
    {memory : Nvstore} (buffer : memory.payload.length = nvstorePayloadMax)
    (records : List (UInt8 × List UInt8)) :
    SaveReadsBack
        ⟨flash, nvstorePuts (nvRebootTransient scan attempt memory flash).2 records⟩ ↔
      (∃ slot, ImageRead scan attempt flash slot) ∨
        ∀ rival, imageSlots flash 1 = some rival → rival.stamp ≤ 1 := by
  obtain ⟨order, both, loads⟩ := nvRebootTransient_spec accepted scan attempt flash buffer
  cases loads with
  | loaded slot copy present read loads =>
      obtain ⟨_, sized, loaded, sector, seq, _⟩ := loads
      obtain ⟨putsSized, anchor⟩ := nvstorePuts_anchor sized records
      have before : Anchored (nvRebootTransient scan attempt memory flash).2
          (some (slot, copy)) := ⟨loaded, sector, seq⟩
      refine ⟨fun _ => .inl ⟨slot, read⟩, fun _ => ?_⟩
      exact saveReadsBack_of_loaded accepted two putsSized (before.congr anchor) present
        (small slot copy present)
  | nothing unread loads =>
      obtain ⟨_, sized, notLoaded, noSeq, _⟩ := loads
      obtain ⟨putsSized, anchor⟩ := nvstorePuts_anchor sized records
      have before : Anchored (nvRebootTransient scan attempt memory flash).2 none :=
        ⟨notLoaded, noSeq⟩
      rw [saveReadsBack_of_nothing accepted putsSized (before.congr anchor)]
      have none : ¬ ∃ slot, ImageRead scan attempt flash slot := fun ⟨slot, read⟩ =>
        unread slot (both slot) read
      simp only [none, false_or]

/-- Images in both sectors, of which the header of the newer is not read: the
save replaces it. -/
theorem transientLoad_readsBack_older :
    let geometry : NvGeometry := { sectorSize := 2048, sectorCount := 2, writeBlock := 32 }
    let flash : Flash geometry :=
      (nvSave .none (nvSave .none ⟨erasedFlash geometry, nvstoreZero⟩)).flash
    let scan : ReadFailures := fun sector _ _ => sector == 1
    SaveReadsBack ⟨flash, nvstorePuts
      (nvRebootTransient scan (fun _ _ _ => false) nvstoreZero flash).2 [(1, [7])]⟩ := by
  intro geometry flash scan
  have stamps : ∀ slot, ((imageSlots flash slot).map Stamped.stamp).getD 0 < 4294967295 := by
    decide +kernel
  have small (slot : Fin 2) (copy : Stamped (List UInt8))
      (present : imageSlots flash slot = some copy) : copy.stamp < 4294967295 := by
    simpa [present] using stamps slot
  have image : (imageSlots flash 0).isSome := by decide +kernel
  have read : ImageRead scan (fun _ _ _ => false) flash 0 := ⟨image, rfl, rfl, fun _ => rfl, rfl⟩
  exact (transientLoad_readsBack_iff (by decide) rfl scan _ flash small List.length_replicate
    [(1, [7])]).mpr (.inl ⟨0, read⟩)

/-- Neither header is read: the save starts again at sequence 1, and the next
start-up loads the image with sequence 2. -/
theorem transientLoad_older_image_wins :
    let geometry : NvGeometry := { sectorSize := 2048, sectorCount := 2, writeBlock := 32 }
    let flash : Flash geometry :=
      (nvSave .none (nvSave .none ⟨erasedFlash geometry, nvstoreZero⟩)).flash
    ¬ SaveReadsBack ⟨flash, nvstorePuts
      (nvRebootTransient (fun _ _ _ => true) (fun _ _ _ => false) nvstoreZero flash).2
        [(1, [7])]⟩ := by
  intro geometry flash readsBack
  obtain ⟨_, _, seq⟩ := readsBack (by decide +kernel) nvstoreZero List.length_replicate
  revert seq
  decide +kernel

end FswCore
