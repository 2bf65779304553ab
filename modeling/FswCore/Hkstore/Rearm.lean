import FswCore.Hkstore.DueOrder

/-!
Contract: restored structures and the clock at the restore.

Owns:
- `RearmedFromNow`, that no restored structure is emitted before its interval has
  passed since the restore;
- when a restore achieves it: a restored structure counts from clock value zero,
  whatever the clock is at the restore.
-/

namespace FswCore

open Library

variable {cfg : Config}

/-- After a restore at `restoredAt`, whatever is called then: a structure that was
restored and not deleted waits for its interval. -/
def RearmedFromNow (cfg : Config) (image : List UInt8) (restoredAt : Nat) : Prop :=
  ∀ calls now emitted, ClockForward restoredAt calls now →
    (hkstoreDue (hkstoreCalls cfg (hkstoreDeserialize cfg image).2 calls)
      (UInt32.ofNat now)).1 = some emitted →
    (hkstoreFind (hkstoreDeserialize cfg image).2 emitted.sid).isSome = true →
    .delete emitted.sid ∉ calls → restoredAt + emitted.intervalSec.toNat ≤ now

/-! ### What a restore arms -/

theorem hkstoreReadStruct_lastEmit {input : List UInt8} {held : HkStructure} {consumed : Nat}
    (read : hkstoreReadStruct cfg input = .ok (held, consumed)) : held.lastEmitSec = 0 := by
  rw [hkstoreReadStruct] at read
  split at read
  · contradiction
  simp only at read
  split_ifs at read
  obtain ⟨rfl, -⟩ := Prod.mk.inj (Except.ok.inj read)
  rfl

theorem hkstoreDeserializeLoop_lastEmit {input : List UInt8} {remaining off : Nat}
    {restored result : List HkStructure}
    (decoded : hkstoreDeserializeLoop cfg input remaining off restored = .ok result)
    (armed : ∀ held ∈ restored, held.lastEmitSec = 0) :
    ∀ held ∈ result, held.lastEmitSec = 0 := by
  induction remaining generalizing off restored with
  | zero =>
      obtain rfl := Except.ok.inj decoded
      exact armed
  | succ remaining inductionHypothesis =>
      rw [hkstoreDeserializeLoop] at decoded
      split at decoded
      · contradiction
      rename_i held consumed read
      split at decoded
      · contradiction
      apply inductionHypothesis decoded
      intro other member
      rcases List.mem_append.mp member with old | new
      · exact armed other old
      · rw [List.mem_singleton.mp new]
        exact hkstoreReadStruct_lastEmit read

/-- Every restored structure counts from clock value zero. -/
theorem hkstoreDeserialize_lastEmit (cfg : Config) (image : List UInt8) :
    ∀ held ∈ (hkstoreDeserialize cfg image).2.held, held.lastEmitSec = 0 := by
  rw [hkstoreDeserialize]
  split
  · simp [hkstoreInit, Hkstore.held]
  simp only
  split
  · simp [hkstoreInit, Hkstore.held]
  split
  · simp [hkstoreInit, Hkstore.held]
  · rename_i restored decoded
    rw [Hkstore.held, occupied_append, occupied_map_some, occupied_replicate_none,
      List.append_nil]
    exact hkstoreDeserializeLoop_lastEmit decoded (by simp)

/-! ### A structure that is due is emitted -/

/-- Enabling a structure leaves it as it was otherwise. -/
theorem hkstoreSetEnabled_find {store : Hkstore} (wellFormed : store.WellFormed cfg)
    {sid : UInt16} {held : HkStructure} (found : hkstoreFind store sid = some held)
    (enabled : Bool) :
    hkstoreFind (hkstoreSetEnabled store sid enabled).2 sid =
      some { held with enabled := enabled } := by
  have after := wellFormed.setEnabled sid enabled
  obtain ⟨member, rfl⟩ : { held with enabled := enabled } ∈
      (hkstoreSetEnabled store sid enabled).2.held ∧ held.sid = sid := by
    rw [hkstoreFind_eq] at found
    rw [hkstoreSetEnabled]
    cases index : hkstoreIndexOf store sid with
    | none =>
        rw [hkstoreIndexOf_none index] at found
        contradiction
    | some slot =>
        obtain ⟨left, one, right, _, isSid, atIndex, first, write⟩ := hkstoreIndexOf_some index
        obtain rfl := Option.some.inj (first.symm.trans found)
        simp only [atIndex]
        refine ⟨?_, isSid⟩
        split
        · rename_i already
          rw [← already]
          exact List.mem_of_find?_eq_some first
        · rw [Hkstore.held, write]
          simp
  rw [hkstoreFind_eq]
  exact find?_key_of_mem after.distinct member

/-- The reply after so many calls at one time. -/
theorem hkstoreDueReplies_getElem? (cfg : Config) (store : Hkstore) (seconds calls : Nat) :
    (hkstoreDueReplies (UInt32.ofNat seconds) (calls + 1) store)[calls]? =
      some (hkstoreDue (hkstoreCalls cfg store (List.replicate calls (.due seconds)))
        (UInt32.ofNat seconds)).1 := by
  induction calls generalizing store with
  | zero => rfl
  | succ calls inductionHypothesis =>
      rw [hkstoreDueReplies, List.getElem?_cons_succ, inductionHypothesis, List.replicate_succ]
      rfl

/-- Asked often enough at one time, a store emits every structure that is due. -/
theorem DueAt.emitted_after (cfg : Config) {store : Hkstore} {seconds slot : Nat}
    {held : HkStructure} (due : DueAt store (UInt32.ofNat seconds) slot held) :
    ∃ calls, (hkstoreDue (hkstoreCalls cfg store (List.replicate calls (.due seconds)))
      (UInt32.ofNat seconds)).1 = some (held.emitted (UInt32.ofNat seconds)) := by
  obtain ⟨order, isOrder, replies⟩ := hkstoreDueReplies_order store (UInt32.ofNat seconds)
  obtain ⟨position, below, atPosition⟩ :=
    List.mem_iff_getElem.mp ((isOrder.complete slot held).mpr due)
  refine ⟨position, ?_⟩
  have reply := hkstoreDueReplies_getElem? cfg store seconds position
  rw [replies, List.getElem?_append_left (by simp; omega), List.getElem?_map,
    List.getElem?_take_of_lt (Nat.lt_succ_self _), List.getElem?_eq_getElem below, atPosition]
    at reply
  exact (Option.some.inj reply).symm

/-! ### When a restore re-arms from now -/

/-- A clock that stands, asked again and again. -/
theorem clockForward_standing {start now : Nat} (later : start ≤ now) (sid : UInt16)
    (enabled : Bool) (calls : Nat) :
    ClockForward start (.setEnabled sid enabled :: List.replicate calls (.due now)) now := by
  have times : dueTimes (.setEnabled sid enabled :: List.replicate calls (.due now)) =
      List.replicate calls now := by
    rw [dueTimes, List.filterMap_cons_none rfl]
    exact List.filterMap_replicate_of_some rfl
  rw [ClockForward, times, ← List.replicate_succ', List.pairwise_cons, List.pairwise_replicate]
  refine ⟨?_, .inr (Nat.le_refl _)⟩
  intro time member
  rw [List.eq_of_mem_replicate member]
  exact later

/-- The first time a periodic structure armed at clock value zero can be due is
before its interval has passed, unless the clock is zero. -/
theorem early_due_time {restoredAt : Nat} {interval : UInt32}
    (running : UInt32.ofNat restoredAt ≠ 0) (periodic : interval ≠ 0) :
    ∃ now, restoredAt ≤ now ∧ now < restoredAt + interval.toNat ∧
      interval ≤ UInt32.ofNat now := by
  have clock : (UInt32.ofNat restoredAt).toNat = restoredAt % 4294967296 := UInt32.toNat_ofNat'
  have runs : (UInt32.ofNat restoredAt).toNat ≠ 0 := fun zero =>
    running (UInt32.toNat_inj.mp zero)
  have passes : interval.toNat ≠ 0 := fun zero => periodic (UInt32.toNat_inj.mp zero)
  have small := interval.toNat_lt
  refine ⟨restoredAt + (interval.toNat - restoredAt % 4294967296), Nat.le_add_right _ _, ?_, ?_⟩
  · omega
  · rw [UInt32.le_iff_toNat_le, UInt32.toNat_ofNat']
    omega

/-- With a clock that is not zero, a restored periodic structure is emitted before
its interval has passed, once it is enabled. -/
theorem not_rearmedFromNow {image : List UInt8} {restoredAt : Nat} {held : HkStructure}
    (member : held ∈ (hkstoreDeserialize cfg image).2.held) (periodic : held.intervalSec ≠ 0)
    (running : UInt32.ofNat restoredAt ≠ 0) : ¬RearmedFromNow cfg image restoredAt := by
  have wellFormed := hkstoreDeserialize_wellFormed cfg image
  have armed := hkstoreDeserialize_lastEmit cfg image held member
  have found : hkstoreFind (hkstoreDeserialize cfg image).2 held.sid = some held := by
    rw [hkstoreFind_eq]
    exact find?_key_of_mem wellFormed.distinct member
  obtain ⟨now, later, early, reached⟩ := early_due_time running periodic
  have enabled := hkstoreSetEnabled_find wellFormed found true
  rw [hkstoreFind_eq] at enabled
  obtain ⟨content, stored, isHeld⟩ := List.mem_filterMap.mp (List.mem_of_find?_eq_some enabled)
  obtain rfl : content = some { held with enabled := true } := isHeld
  obtain ⟨slot, below, atSlot⟩ := List.mem_iff_getElem.mp stored
  have due : DueAt (hkstoreSetEnabled (hkstoreDeserialize cfg image).2 held.sid true).2
      (UInt32.ofNat now) slot { held with enabled := true } := by
    refine ⟨List.getElem?_eq_some_iff.mpr ⟨below, atSlot⟩, rfl, periodic, ?_⟩
    rw [armed, UInt32.sub_zero]
    exact reached
  obtain ⟨calls, selected⟩ := due.emitted_after cfg
  intro rearmed
  have waits := rearmed (.setEnabled held.sid true :: List.replicate calls (.due now)) now _
    (clockForward_standing later held.sid true calls) selected (by
      have isRestored := congrArg Option.isSome found
      exact isRestored) (by simp)
  have interval : ({ held with enabled := true }.emitted (UInt32.ofNat now)).intervalSec =
      held.intervalSec := rfl
  rw [interval] at waits
  omega

/-- Restored structures wait for their intervals from now exactly when the clock is
zero at the restore or none of them is periodic. An image that is not accepted
restores none. -/
theorem hkstoreDeserialize_rearms_iff (cfg : Config) (image : List UInt8) (restoredAt : Nat) :
    RearmedFromNow cfg image restoredAt ↔ UInt32.ofNat restoredAt = 0 ∨
      ∀ held ∈ (hkstoreDeserialize cfg image).2.held, held.intervalSec = 0 := by
  constructor
  · intro rearmed
    by_contra neither
    rw [not_or] at neither
    obtain ⟨running, somePeriodic⟩ := neither
    apply somePeriodic
    intro held member
    by_contra periodic
    exact not_rearmedFromNow member periodic running rearmed
  · intro either calls now emitted forward selected isRestored notDeleted
    obtain ⟨held, found⟩ := Option.isSome_iff_exists.mp isRestored
    have wellFormed := hkstoreDeserialize_wellFormed cfg image
    have member : held ∈ (hkstoreDeserialize cfg image).2.held := by
      rw [hkstoreFind_eq] at found
      exact List.mem_of_find?_eq_some found
    have armed := hkstoreDeserialize_lastEmit cfg image held member
    rcases either with zero | neverPeriodic
    · obtain ⟨interval, waits⟩ :=
        hkstoreCalls_waits wellFormed found (armed.trans zero.symm) notDeleted forward selected
      rw [interval]
      exact waits
    · -- counted from clock value zero the interval is the restored one, which is none
      have fromZero : ClockForward 0 calls now := by
        rw [ClockForward, List.pairwise_cons] at forward ⊢
        exact ⟨fun time _ => Nat.zero_le time, forward.2⟩
      obtain ⟨interval, _⟩ :=
        hkstoreCalls_waits wellFormed found armed notDeleted fromZero selected
      rw [interval, neverPeriodic held member]
      exact forward.stop_ge

/-- A structure with an interval of a minute, restored 100 seconds after the start,
is emitted at once. -/
theorem hkstoreDeserialize_emits_at_restore :
    ¬ ∀ (cfg : Config) (image : List UInt8), (hkstoreDeserialize cfg image).1 = .ok →
      ∀ restoredAt, RearmedFromNow cfg image restoredAt := by
  intro rearms
  have waits := rearms defaultConfig [0, 1, 1, 0, 0, 0, 0, 60, 1, 1, 0, 7] (by decide) 100 [] 100
    { sid := 256, paramIds := [7], intervalSec := 60, lastEmitSec := 100, enabled := true }
    (by decide) (by decide) (by decide) (by simp)
  revert waits
  decide

end FswCore
