import FswCore.Hkstore.Invariant
import FswCore.Library.KeyedSlots

/-!
Contract: the housekeeping store as the partial map it is for the ground.

Owns:
- `HkMap`, definitions by structure identifier, and the map of a store;
- create, delete and enable as updates of the map, and when each succeeds.

Does not own: the octets of the requests.
-/

namespace FswCore

open Library

/-- A structure as the ground defined it. -/
structure HkDefinition where
  paramIds : List UInt16
  intervalSec : UInt32
  enabled : Bool
deriving DecidableEq, Repr

def HkStructure.definition (held : HkStructure) : HkDefinition :=
  { paramIds := held.paramIds
    intervalSec := held.intervalSec
    enabled := held.enabled }

abbrev HkMap := UInt16 → Option HkDefinition

def Hkstore.toMap (store : Hkstore) : HkMap :=
  Option.map HkStructure.definition ∘ slotMap HkStructure.sid store.structures

theorem Hkstore.toMap_apply (store : Hkstore) (sid : UInt16) :
    store.toMap sid =
      (slotMap HkStructure.sid store.structures sid).map HkStructure.definition := rfl

theorem Hkstore.toMap_eq_find (store : Hkstore) (sid : UInt16) :
    store.toMap sid = (hkstoreFind store sid).map HkStructure.definition := by
  rw [hkstoreFind_eq]
  rfl

theorem Hkstore.toMap_eq_none {store : Hkstore} {sid : UInt16} :
    store.toMap sid = none ↔ hkstoreFind store sid = none := by
  rw [store.toMap_eq_find, Option.map_eq_none_iff]

theorem hkstoreInit_toMap (cfg : Config) : (hkstoreInit cfg).toMap = fun _ => none := by
  funext sid
  rw [Hkstore.toMap_apply, slotMap, hkstoreInit, occupied_replicate_none]
  rfl

theorem Hkstore.WellFormed.mapSize_eq {cfg : Config} {store : Hkstore}
    (wellFormed : store.WellFormed cfg) : mapSize store.toMap = store.held.length :=
  mapSize_slotMap HkStructure.definition wellFormed.distinct

theorem Hkstore.WellFormed.mapSize_le {cfg : Config} {store : Hkstore}
    (wellFormed : store.WellFormed cfg) : mapSize store.toMap ≤ cfg.hkstoreCapacity := by
  rw [wellFormed.mapSize_eq, ← wellFormed.slots]
  exact occupied_length_le _

theorem Hkstore.WellFormed.distinct_split {cfg : Config} {store : Hkstore}
    (wellFormed : store.WellFormed cfg) {left right : List (Option HkStructure)}
    {held : HkStructure} (split : store.structures = left ++ some held :: right) :
    ((occupied (left ++ some held :: right)).map HkStructure.sid).Nodup :=
  split ▸ wellFormed.distinct

/-- An update of the slots is an update of the map. -/
theorem toMap_update {before after : List (Option HkStructure)} {sid : UInt16}
    {entry : Option HkStructure}
    (updated : slotMap HkStructure.sid after =
      Function.update (slotMap HkStructure.sid before) sid entry) :
    Option.map HkStructure.definition ∘ slotMap HkStructure.sid after =
      Function.update (Option.map HkStructure.definition ∘ slotMap HkStructure.sid before) sid
        (entry.map HkStructure.definition) := by
  rw [updated, Function.comp_update]

/-! ### Create -/

/-- When a create succeeds. -/
structure CreateAdmitted (cfg : Config) (map : HkMap) (sid : UInt16) (paramIds : List UInt16) :
    Prop where
  atLeastOne : 1 ≤ paramIds.length
  params_le : paramIds.length ≤ cfg.hkstoreMaxParams
  sidFloor : hkstoreSidMin ≤ sid
  unused : map sid = none
  room : mapSize map < cfg.hkstoreCapacity

theorem CreateOk.toMap {cfg : Config} {store after : Hkstore} {sid : UInt16}
    {paramIds : List UInt16} {intervalSec : UInt32}
    (done : CreateOk cfg store sid paramIds intervalSec after) :
    after.toMap = Function.update store.toMap sid (some ⟨paramIds, intervalSec, false⟩) := by
  obtain ⟨left, right, split, result⟩ := done.change
  have fresh : slotMap HkStructure.sid store.structures sid = none := done.fresh
  rw [split] at fresh
  have filled : slotMap HkStructure.sid
      (left ++ some ⟨sid, paramIds, intervalSec, 0, false⟩ :: right) = _ := slotMap_fill fresh
  rw [← result, ← split] at filled
  exact toMap_update filled

theorem hkstoreCreate_ok_iff {cfg : Config} {store : Hkstore} (wellFormed : store.WellFormed cfg)
    (sid : UInt16) (paramIds : List UInt16) (intervalSec : UInt32) :
    (hkstoreCreate cfg store sid paramIds intervalSec).1 = .ok ↔
      CreateAdmitted cfg store.toMap sid paramIds := by
  constructor
  · intro succeeded
    rcases hkstoreCreate_cases cfg store sid paramIds intervalSec with ⟨failed, _⟩ | ⟨_, done⟩
    · exact absurd succeeded failed
    obtain ⟨left, right, split, _⟩ := done.change
    constructor
    · exact List.length_pos_iff.mpr done.nonempty
    · exact done.params_le
    · exact done.sidFloor
    · rw [Hkstore.toMap_eq_none, hkstoreFind_eq]
      exact done.fresh
    · have others := occupied_length_le left
      have more := occupied_length_le right
      rw [wellFormed.mapSize_eq, ← wellFormed.slots, Hkstore.held, split, occupied_append,
        occupied_cons_none, List.length_append, List.length_append, List.length_cons]
      omega
  · intro admitted
    apply hkstoreCreate_ok
    · exact List.length_pos_iff.mp admitted.atLeastOne
    · exact admitted.sidFloor
    · exact admitted.params_le
    · have absent := Hkstore.toMap_eq_none.mp admitted.unused
      rw [hkstoreFind_eq, List.find?_eq_none] at absent
      intro held member isSid
      exact absent held member (beq_iff_eq.mpr isSid)
    · have room := admitted.room
      rw [wellFormed.mapSize_eq, ← wellFormed.slots] at room
      exact room

/-! ### Delete and enable -/

theorem DeleteOk.toMap {cfg : Config} {store after : Hkstore} {sid : UInt16}
    (wellFormed : store.WellFormed cfg) (done : DeleteOk store sid after) :
    after.toMap = Function.update store.toMap sid none ∧ store.toMap sid ≠ none := by
  obtain ⟨left, held, right, split, rfl, result⟩ := done.change
  have distinct := wellFormed.distinct_split split
  have freed := slotMap_free distinct
  have found := slotMap_key distinct
  rw [← result, ← split] at freed
  rw [← split] at found
  constructor
  · exact toMap_update freed
  · rw [Hkstore.toMap_apply, found]
    exact Option.some_ne_none _

theorem hkstoreDelete_ok_iff {cfg : Config} {store : Hkstore} (wellFormed : store.WellFormed cfg)
    (sid : UInt16) : (hkstoreDelete store sid).1 = .ok ↔ store.toMap sid ≠ none := by
  rcases hkstoreDelete_cases store sid with ⟨failed, _, absent⟩ | ⟨succeeded, done⟩
  · rw [ne_eq, Hkstore.toMap_eq_none]
    exact ⟨fun succeeded => absurd succeeded failed, fun found => absurd absent found⟩
  · exact ⟨fun _ => (done.toMap wellFormed).2, fun _ => succeeded⟩

/-- The structure with this identifier enabled or disabled. -/
def HkMap.setEnabled (map : HkMap) (sid : UInt16) (enabled : Bool) : HkMap :=
  Function.update map sid ((map sid).map fun definition => { definition with enabled := enabled })

theorem hkstoreSetEnabled_ok_iff (store : Hkstore) (sid : UInt16) (enabled : Bool) :
    (hkstoreSetEnabled store sid enabled).1 = .ok ↔ store.toMap sid ≠ none := by
  rw [ne_eq, Hkstore.toMap_eq_none, hkstoreFind_eq, hkstoreSetEnabled]
  cases found : hkstoreIndexOf store sid with
  | none => simp [hkstoreIndexOf_none found]
  | some index =>
      obtain ⟨_, held, _, _, _, atIndex, first, _⟩ := hkstoreIndexOf_some found
      simp only [atIndex, first]
      split <;> simp

theorem hkstoreSetEnabled_toMap {cfg : Config} {store : Hkstore}
    (wellFormed : store.WellFormed cfg) {sid : UInt16} {enabled : Bool}
    (succeeded : (hkstoreSetEnabled store sid enabled).1 = .ok) :
    (hkstoreSetEnabled store sid enabled).2.toMap = store.toMap.setEnabled sid enabled := by
  rw [hkstoreSetEnabled] at succeeded ⊢
  cases found : hkstoreIndexOf store sid with
  | none =>
      rw [found] at succeeded
      contradiction
  | some index =>
      obtain ⟨left, held, right, split, rfl, atIndex, _, write⟩ := hkstoreIndexOf_some found
      have distinct := wellFormed.distinct_split split
      have here := slotMap_key distinct
      rw [← split] at here
      have entry : store.toMap held.sid = some held.definition := by
        rw [Hkstore.toMap_apply, here, Option.map_some]
      simp only [atIndex]
      rw [HkMap.setEnabled, entry, Option.map_some]
      split
      · rename_i already
        have same : { held.definition with enabled := enabled } = held.definition := by
          rw [← already]
          rfl
        rw [same, ← entry, Function.update_eq_self]
      · have sameSid : { held with enabled := enabled }.sid = held.sid := rfl
        have replaced := slotMap_replace sameSid distinct
        rw [← write, ← split] at replaced
        exact toMap_update replaced

end FswCore
