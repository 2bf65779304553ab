import FswCore.Hkstore.Model
import FswCore.Library.SlotTable
import Mathlib.Data.List.Nodup

/-!
Contract: what every operation of the housekeeping store does, and its
invariant over whole runs.

Owns:
- `Hkstore.WellFormed`, and that every mutator and every restore keeps it;
- one inversion lemma for each mutator, in terms of the structures held.
-/

namespace FswCore

open Library Library.BigEndian

/-- The structures held, in slot order. -/
def Hkstore.held (store : Hkstore) : List HkStructure := occupied store.structures

/-- What create and restore check of one structure. -/
structure StructureBounded (cfg : Config) (held : HkStructure) : Prop where
  sidFloor : hkstoreSidMin ≤ held.sid
  params_le : held.paramIds.length ≤ cfg.hkstoreMaxParams

structure Hkstore.WellFormed (cfg : Config) (store : Hkstore) : Prop where
  slots : store.structures.length = cfg.hkstoreCapacity
  count_eq : store.count = store.held.length
  bounded : ∀ held ∈ store.held, StructureBounded cfg held
  distinct : (store.held.map (·.sid)).Nodup

/-! ### Lookup -/

theorem hkstoreIndexOf_eq (store : Hkstore) (sid : UInt16) :
    hkstoreIndexOf store sid = slotIndex (fun held => held.sid == sid) store.structures := by
  rw [hkstoreIndexOf, slotIndex]
  congr 1
  funext slot
  cases slot <;> rfl

/-- The structure a lookup finds, and the slots around it. -/
theorem hkstoreIndexOf_some {store : Hkstore} {sid : UInt16} {index : Nat}
    (found : hkstoreIndexOf store sid = some index) :
    ∃ left held right, store.structures = left ++ some held :: right ∧ held.sid = sid ∧
      store.structures[index]? = some (some held) ∧
      store.held.find? (fun other => other.sid == sid) = some held ∧
      ∀ replacement, store.structures.set index replacement = left ++ replacement :: right := by
  rw [hkstoreIndexOf_eq] at found
  obtain ⟨held, atIndex, isSid, first⟩ := slotIndex_some found
  obtain ⟨left, right, split, write⟩ := slot_split atIndex
  exact ⟨left, held, right, split, by simpa using isSid, atIndex, first, write⟩

theorem hkstoreIndexOf_none {store : Hkstore} {sid : UInt16}
    (nothing : hkstoreIndexOf store sid = none) :
    store.held.find? (fun held => held.sid == sid) = none := by
  rw [hkstoreIndexOf_eq] at nothing
  exact slotIndex_none nothing

theorem hkstoreFind_eq (store : Hkstore) (sid : UInt16) :
    hkstoreFind store sid = store.held.find? fun held => held.sid == sid := by
  rw [hkstoreFind]
  cases found : hkstoreIndexOf store sid with
  | none => exact (hkstoreIndexOf_none found).symm
  | some index =>
      obtain ⟨_, held, _, _, _, atIndex, first, _⟩ := hkstoreIndexOf_some found
      simp only [atIndex, first]

theorem hkstoreIndexOf_isSome (store : Hkstore) (sid : UInt16) :
    (hkstoreIndexOf store sid).isSome = (hkstoreFind store sid).isSome := by
  rw [hkstoreFind_eq]
  cases found : hkstoreIndexOf store sid with
  | none => rw [hkstoreIndexOf_none found]; rfl
  | some index =>
      obtain ⟨_, held, _, _, _, _, first, _⟩ := hkstoreIndexOf_some found
      rw [first]
      rfl

/-! ### Create -/

/-- What a successful create does: a free slot takes the new structure. -/
structure CreateOk (cfg : Config) (store : Hkstore) (sid : UInt16) (paramIds : List UInt16)
    (intervalSec : UInt32) (after : Hkstore) : Prop where
  nonempty : paramIds ≠ []
  sidFloor : hkstoreSidMin ≤ sid
  params_le : paramIds.length ≤ cfg.hkstoreMaxParams
  fresh : store.held.find? (fun held => held.sid == sid) = none
  change : ∃ left right, store.structures = left ++ none :: right ∧
    after.structures = left ++ some
      { sid := sid
        paramIds := paramIds
        intervalSec := intervalSec
        lastEmitSec := 0
        enabled := false } :: right
  count : after.count = store.count + 1
  generation : after.generation = store.generation + 1

theorem hkstoreCreate_cases (cfg : Config) (store : Hkstore) (sid : UInt16)
    (paramIds : List UInt16) (intervalSec : UInt32) :
    ((hkstoreCreate cfg store sid paramIds intervalSec).1 ≠ .ok ∧
        (hkstoreCreate cfg store sid paramIds intervalSec).2 = store) ∨
      ((hkstoreCreate cfg store sid paramIds intervalSec).1 = .ok ∧
        CreateOk cfg store sid paramIds intervalSec
          (hkstoreCreate cfg store sid paramIds intervalSec).2) := by
  rw [hkstoreCreate]
  split
  · exact .inl ⟨by simp, rfl⟩
  rename_i arguments
  split
  · exact .inl ⟨by simp, rfl⟩
  rename_i inBounds
  split
  · exact .inl ⟨by simp, rfl⟩
  rename_i fresh
  split
  · exact .inl ⟨by simp, rfl⟩
  · rename_i slot found
    obtain ⟨left, right, split, write⟩ := slot_split (freeSlot_some found)
    obtain ⟨nonempty, sidFloor⟩ := not_or.mp arguments
    have nothing := hkstoreIndexOf_none (Option.not_isSome_iff_eq_none.mp fresh)
    exact .inr ⟨rfl, fun empty => nonempty (congrArg List.length empty),
      UInt16.not_lt.mp sidFloor, Nat.le_of_not_lt inBounds, nothing,
      ⟨left, right, split, write _⟩, rfl, rfl⟩

/-- The guards of a create are all it needs to succeed. -/
theorem hkstoreCreate_ok {cfg : Config} {store : Hkstore} {sid : UInt16}
    {paramIds : List UInt16} {intervalSec : UInt32} (nonempty : paramIds ≠ [])
    (sidFloor : hkstoreSidMin ≤ sid) (params_le : paramIds.length ≤ cfg.hkstoreMaxParams)
    (fresh : ∀ held ∈ store.held, held.sid ≠ sid)
    (room : store.held.length < store.structures.length) :
    (hkstoreCreate cfg store sid paramIds intervalSec).1 = .ok := by
  have arguments : ¬ (paramIds.length = 0 ∨ sid < hkstoreSidMin) := by
    rintro (empty | low)
    · exact nonempty (List.length_eq_zero_iff.mp empty)
    · exact absurd sidFloor (UInt16.not_le.mpr low)
  have absent : ¬ (hkstoreIndexOf store sid).isSome = true := by
    rw [hkstoreIndexOf_isSome, hkstoreFind_eq, List.find?_isSome]
    rintro ⟨held, member, same⟩
    exact fresh held member (by simpa using same)
  rw [hkstoreCreate, if_neg arguments, if_neg (Nat.not_lt.mpr params_le), if_neg absent]
  cases free : store.structures.findIdx? Option.isNone with
  | none => exact absurd (freeSlot_none free) (Nat.ne_of_lt room)
  | some slot => rfl

/-! ### Delete and enable -/

structure DeleteOk (store : Hkstore) (sid : UInt16) (after : Hkstore) : Prop where
  change : ∃ left held right, store.structures = left ++ some held :: right ∧ held.sid = sid ∧
    after.structures = left ++ none :: right
  count : after.count = store.count - 1
  generation : after.generation = store.generation + 1

theorem hkstoreDelete_cases (store : Hkstore) (sid : UInt16) :
    ((hkstoreDelete store sid).1 ≠ .ok ∧ (hkstoreDelete store sid).2 = store ∧
        hkstoreFind store sid = none) ∨
      ((hkstoreDelete store sid).1 = .ok ∧ DeleteOk store sid (hkstoreDelete store sid).2) := by
  rw [hkstoreDelete]
  cases found : hkstoreIndexOf store sid with
  | none => exact .inl ⟨by simp, rfl, (hkstoreFind_eq ..).trans (hkstoreIndexOf_none found)⟩
  | some index =>
      obtain ⟨left, held, right, split, isSid, _, _, write⟩ := hkstoreIndexOf_some found
      exact .inr ⟨rfl, ⟨left, held, right, split, isSid, write _⟩, rfl, rfl⟩

/-- What enabling does to the structure it finds. -/
structure SetEnabledOk (store : Hkstore) (sid : UInt16) (enabled : Bool) (after : Hkstore) :
    Prop where
  change : ∃ left held right, store.structures = left ++ some held :: right ∧ held.sid = sid ∧
    after.structures = left ++ some { held with enabled := enabled } :: right
  count : after.count = store.count
  generation : after.generation = store.generation + 1

theorem hkstoreSetEnabled_cases (store : Hkstore) (sid : UInt16) (enabled : Bool) :
    ((hkstoreSetEnabled store sid enabled).1 ≠ .ok ∧
        (hkstoreSetEnabled store sid enabled).2 = store ∧ hkstoreFind store sid = none) ∨
      ((hkstoreSetEnabled store sid enabled).1 = .ok ∧
        ((hkstoreSetEnabled store sid enabled).2 = store ∨
          SetEnabledOk store sid enabled (hkstoreSetEnabled store sid enabled).2)) := by
  rw [hkstoreSetEnabled]
  cases found : hkstoreIndexOf store sid with
  | none => exact .inl ⟨by simp, rfl, (hkstoreFind_eq ..).trans (hkstoreIndexOf_none found)⟩
  | some index =>
      obtain ⟨left, held, right, split, isSid, atIndex, _, write⟩ := hkstoreIndexOf_some found
      simp only [atIndex]
      split
      · exact .inr ⟨rfl, .inl rfl⟩
      · exact .inr ⟨rfl, .inr ⟨⟨left, held, right, split, isSid, write _⟩, rfl, rfl⟩⟩

/-! ### Due -/

/-- A structure that is due is marked as emitted; nothing else changes. -/
theorem hkstoreDue_cases (store : Hkstore) (nowSeconds : UInt32) :
    hkstoreDue store nowSeconds = (none, store) ∨
      ∃ left held right, store.structures = left ++ some held :: right ∧
        hkstoreDue store nowSeconds = (some { held with lastEmitSec := nowSeconds },
          { store with structures :=
              left ++ some { held with lastEmitSec := nowSeconds } :: right }) := by
  rw [hkstoreDue]
  simp only
  split
  · exact .inl rfl
  rename_i best _
  split
  · rename_i held atBest
    obtain ⟨left, right, split, write⟩ := slot_split atBest
    exact .inr ⟨left, held, right, split, by rw [write]⟩
  · exact .inl rfl

/-! ### Restore -/

theorem hkstoreReadStruct_bounded {cfg : Config} {input : List UInt8} {held : HkStructure}
    {consumed : Nat} (read : hkstoreReadStruct cfg input = .ok (held, consumed)) :
    StructureBounded cfg held := by
  rw [hkstoreReadStruct] at read
  split at read
  · contradiction
  simp only at read
  split at read
  · contradiction
  rename_i sidFloor
  split at read
  · contradiction
  rename_i inBounds
  split at read
  · contradiction
  · obtain ⟨rfl, -⟩ := Prod.mk.inj (Except.ok.inj read)
    exact ⟨UInt16.not_lt.mp sidFloor, by simpa using inBounds⟩

/-- A successful decode read `remaining` bounded structures with new SIDs. -/
theorem hkstoreDeserializeLoop_ok {cfg : Config} {input : List UInt8} {remaining off : Nat}
    {restored result : List HkStructure}
    (decoded : hkstoreDeserializeLoop cfg input remaining off restored = .ok result)
    (bounded : ∀ held ∈ restored, StructureBounded cfg held)
    (distinct : (restored.map (·.sid)).Nodup) :
    result.length = restored.length + remaining ∧
      (∀ held ∈ result, StructureBounded cfg held) ∧ (result.map (·.sid)).Nodup := by
  induction remaining generalizing off restored with
  | zero =>
      obtain rfl := Except.ok.inj decoded
      exact ⟨rfl, bounded, distinct⟩
  | succ remaining inductionHypothesis =>
      rw [hkstoreDeserializeLoop] at decoded
      split at decoded
      · contradiction
      rename_i held consumed read
      split at decoded
      · contradiction
      rename_i fresh
      have notSeen : held.sid ∉ restored.map (·.sid) := by
        simpa using fresh
      have next := inductionHypothesis decoded
        (by
          intro other member
          rcases List.mem_append.mp member with old | new
          · exact bounded other old
          · rw [List.mem_singleton.mp new]
            exact hkstoreReadStruct_bounded read)
        (by
          rw [List.map_append]
          exact List.Nodup.append distinct (List.nodup_singleton _)
            (List.disjoint_singleton.mpr notSeen))
      refine ⟨?_, next.2⟩
      rw [next.1, List.length_append, List.length_singleton]
      omega

theorem hkstoreInit_wellFormed (cfg : Config) : (hkstoreInit cfg).WellFormed cfg where
  slots := List.length_replicate
  count_eq := by simp [hkstoreInit, Hkstore.held]
  bounded := by simp [hkstoreInit, Hkstore.held]
  distinct := by simp [hkstoreInit, Hkstore.held]

theorem hkstoreDeserialize_wellFormed (cfg : Config) (input : List UInt8) :
    (hkstoreDeserialize cfg input).2.WellFormed cfg := by
  rw [hkstoreDeserialize]
  split
  · exact hkstoreInit_wellFormed cfg
  simp only
  split
  · exact hkstoreInit_wellFormed cfg
  rename_i inCapacity
  split
  · exact hkstoreInit_wellFormed cfg
  · rename_i restored decoded
    obtain ⟨count, bounded, distinct⟩ :=
      hkstoreDeserializeLoop_ok decoded (by simp) (by simp)
    rw [List.length_nil, Nat.zero_add] at count
    refine ⟨?_, ?_, ?_, ?_⟩
    · simp only [List.length_append, List.length_map, List.length_replicate, count]
      omega
    · simp [Hkstore.held]
    · simpa [Hkstore.held] using bounded
    · simpa [Hkstore.held] using distinct

theorem hkstoreDeserialize_generation (cfg : Config) (input : List UInt8) :
    (hkstoreDeserialize cfg input).2.generation = 0 := by
  rw [hkstoreDeserialize]
  split
  · rfl
  simp only
  split
  · rfl
  split <;> rfl

/-! ### The invariant over runs -/

namespace Hkstore.WellFormed

variable {cfg : Config} {store : Hkstore}

/-- One slot's content replaced by another structure with its SID. -/
theorem replace (wellFormed : store.WellFormed cfg) {left right : List (Option HkStructure)}
    {held changed : HkStructure} (split : store.structures = left ++ some held :: right)
    {after : Hkstore} (result : after.structures = left ++ some changed :: right)
    (sameSid : changed.sid = held.sid) (sameParams : changed.paramIds = held.paramIds)
    (count : after.count = store.count) : after.WellFormed cfg := by
  obtain ⟨slots, countEq, bounded, distinct⟩ := wellFormed
  simp only [Hkstore.held, split, occupied_append, occupied_cons_some, List.length_append,
    List.length_cons, List.map_append, List.map_cons, List.mem_append, List.mem_cons]
    at slots countEq bounded distinct
  constructor
  · rw [result, ← slots]
    simp
  · rw [count, countEq, Hkstore.held, result]
    simp
  · intro other member
    rw [Hkstore.held, result, occupied_append, occupied_cons_some, List.mem_append,
      List.mem_cons] at member
    rcases member with inLeft | rfl | inRight
    · exact bounded other (.inl inLeft)
    · have old := bounded held (.inr (.inl rfl))
      exact ⟨sameSid ▸ old.sidFloor, sameParams ▸ old.params_le⟩
    · exact bounded other (.inr (.inr inRight))
  · rw [Hkstore.held, result, occupied_append, occupied_cons_some, List.map_append,
      List.map_cons, sameSid]
    exact distinct

theorem create (wellFormed : store.WellFormed cfg) (sid : UInt16) (paramIds : List UInt16)
    (intervalSec : UInt32) :
    (hkstoreCreate cfg store sid paramIds intervalSec).2.WellFormed cfg := by
  rcases hkstoreCreate_cases cfg store sid paramIds intervalSec with ⟨_, same⟩ | ⟨_, done⟩
  · rw [same]
    exact wellFormed
  obtain ⟨left, right, split, result⟩ := done.change
  have fresh := done.fresh
  obtain ⟨slots, countEq, bounded, distinct⟩ := wellFormed
  simp only [Hkstore.held, split, occupied_append, occupied_cons_none, List.length_append,
    List.length_cons, List.map_append, List.mem_append, List.find?_eq_none]
    at slots countEq bounded distinct fresh
  constructor
  · rw [result, ← slots]
    simp
  · rw [done.count, countEq, Hkstore.held, result]
    simp only [occupied_append, occupied_cons_some, List.length_append, List.length_cons]
    omega
  · intro other member
    rw [Hkstore.held, result, occupied_append, occupied_cons_some, List.mem_append,
      List.mem_cons] at member
    rcases member with inLeft | rfl | inRight
    · exact bounded other (.inl inLeft)
    · exact ⟨done.sidFloor, done.params_le⟩
    · exact bounded other (.inr inRight)
  · rw [Hkstore.held, result, occupied_append, occupied_cons_some, List.map_append,
      List.map_cons, List.nodup_middle, List.nodup_cons]
    refine ⟨?_, distinct⟩
    rw [← List.map_append, List.mem_map]
    rintro ⟨other, member, sameSid⟩
    exact fresh other (List.mem_append.mp member) (by simpa using sameSid)

theorem delete (wellFormed : store.WellFormed cfg) (sid : UInt16) :
    (hkstoreDelete store sid).2.WellFormed cfg := by
  rcases hkstoreDelete_cases store sid with ⟨_, same, _⟩ | ⟨_, done⟩
  · rw [same]
    exact wellFormed
  obtain ⟨left, held, right, split, _, result⟩ := done.change
  obtain ⟨slots, countEq, bounded, distinct⟩ := wellFormed
  simp only [Hkstore.held, split, occupied_append, occupied_cons_some, List.length_append,
    List.length_cons, List.map_append, List.map_cons, List.mem_append, List.mem_cons,
    List.nodup_middle, List.nodup_cons] at slots countEq bounded distinct
  constructor
  · rw [result, ← slots]
    simp
  · rw [done.count, countEq, Hkstore.held, result]
    simp only [occupied_append, occupied_cons_none, List.length_append]
    omega
  · intro other member
    rw [Hkstore.held, result, occupied_append, occupied_cons_none, List.mem_append] at member
    rcases member with inLeft | inRight
    · exact bounded other (.inl inLeft)
    · exact bounded other (.inr (.inr inRight))
  · rw [Hkstore.held, result, occupied_append, occupied_cons_none, List.map_append]
    exact distinct.2

theorem setEnabled (wellFormed : store.WellFormed cfg) (sid : UInt16) (enabled : Bool) :
    (hkstoreSetEnabled store sid enabled).2.WellFormed cfg := by
  rcases hkstoreSetEnabled_cases store sid enabled with ⟨_, same, _⟩ | ⟨_, same | done⟩
  · rw [same]
    exact wellFormed
  · rw [same]
    exact wellFormed
  · obtain ⟨left, held, right, split, _, result⟩ := done.change
    exact wellFormed.replace split result rfl rfl done.count

theorem due (wellFormed : store.WellFormed cfg) (nowSeconds : UInt32) :
    (hkstoreDue store nowSeconds).2.WellFormed cfg := by
  rcases hkstoreDue_cases store nowSeconds with same | ⟨left, held, right, split, result⟩
  · rw [same]
    exact wellFormed
  · rw [result]
    exact wellFormed.replace split rfl rfl rfl rfl

/-- The structure that is due fits the parameter array, as all that are held do. -/
theorem due_params_le (wellFormed : store.WellFormed cfg) {nowSeconds : UInt32}
    {held : HkStructure} (due : (hkstoreDue store nowSeconds).1 = some held) :
    held.paramIds.length ≤ cfg.hkstoreMaxParams := by
  rcases hkstoreDue_cases store nowSeconds with same | ⟨left, old, right, split, result⟩
  · rw [same] at due
    contradiction
  · rw [result] at due
    rw [← Option.some.inj due]
    exact (wellFormed.bounded old (by simp [Hkstore.held, occupied, split])).params_le

end Hkstore.WellFormed

inductive HkstoreOp where
  | create (sid : UInt16) (paramIds : List UInt16) (intervalSec : UInt32)
  | delete (sid : UInt16)
  | setEnabled (sid : UInt16) (enabled : Bool)
  | due (nowSeconds : UInt32)

def hkstoreApply (cfg : Config) (store : Hkstore) : HkstoreOp → Hkstore
  | .create sid paramIds intervalSec => (hkstoreCreate cfg store sid paramIds intervalSec).2
  | .delete sid => (hkstoreDelete store sid).2
  | .setEnabled sid enabled => (hkstoreSetEnabled store sid enabled).2
  | .due nowSeconds => (hkstoreDue store nowSeconds).2

inductive HkstoreEvent where
  | call (op : HkstoreOp)
  | restore (image : List UInt8)

def hkstoreEvent (cfg : Config) (store : Hkstore) : HkstoreEvent → Hkstore
  | .call op => hkstoreApply cfg store op
  | .restore image => (hkstoreDeserialize cfg image).2

/-- The store after a run from initialisation. -/
def hkstoreRun (cfg : Config) (events : List HkstoreEvent) : Hkstore :=
  events.foldl (hkstoreEvent cfg) (hkstoreInit cfg)

theorem hkstoreApply_wellFormed {cfg : Config} {store : Hkstore}
    (wellFormed : store.WellFormed cfg) (op : HkstoreOp) :
    (hkstoreApply cfg store op).WellFormed cfg := by
  cases op with
  | create sid paramIds intervalSec => exact wellFormed.create sid paramIds intervalSec
  | delete sid => exact wellFormed.delete sid
  | setEnabled sid enabled => exact wellFormed.setEnabled sid enabled
  | due nowSeconds => exact wellFormed.due nowSeconds

/-- Unlike the schedule's, a restore rejects what create would reject. -/
theorem hkstoreRun_wellFormed (cfg : Config) (events : List HkstoreEvent) :
    (hkstoreRun cfg events).WellFormed cfg := by
  apply List.foldlRecOn events _ (hkstoreInit_wellFormed cfg)
  intro store wellFormed event _
  cases event with
  | call op => exact hkstoreApply_wellFormed wellFormed op
  | restore image => exact hkstoreDeserialize_wellFormed cfg image

end FswCore
