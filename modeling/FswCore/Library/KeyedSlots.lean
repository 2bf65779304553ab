import FswCore.Library.SlotTable
import Mathlib.Data.Set.Card
import Mathlib.Logic.Function.Basic

/-!
Contract: a slot table whose items have distinct keys, read as a partial map.

Owns:
- `slotMap`, the partial map a table represents;
- filling a free slot, freeing a slot and replacing an item under its own key are
  updates of the map;
- the map has as many entries as the table holds items.

Does not own: the search for a slot.
-/

namespace Library

variable {α β κ : Type*} [DecidableEq κ] {key : α → κ} {left right : List (Option α)}

/-- The item held under a key. -/
def slotMap (key : α → κ) (slots : List (Option α)) (wanted : κ) : Option α :=
  (occupied slots).find? fun item => key item == wanted

/-- How many keys a partial map is defined for. -/
noncomputable def mapSize (map : κ → Option β) : Nat := {wanted | (map wanted).isSome}.ncard

theorem slotMap_append_none :
    slotMap key (left ++ none :: right) = slotMap key (left ++ right) := by
  funext wanted
  simp [slotMap]

theorem slotMap_append_some (item : α) (wanted : κ) :
    slotMap key (left ++ some item :: right) wanted =
      (slotMap key left wanted).or
        (if key item = wanted then some item else slotMap key right wanted) := by
  rw [slotMap, occupied_append, occupied_cons_some, List.find?_append, List.find?_cons]
  by_cases here : key item = wanted
  · rw [beq_iff_eq.mpr here, if_pos here, slotMap]
  · rw [beq_eq_false_iff_ne.mpr here, if_neg here, slotMap, slotMap]

theorem slotMap_append (wanted : κ) :
    slotMap key (left ++ right) wanted =
      (slotMap key left wanted).or (slotMap key right wanted) := by
  rw [slotMap, occupied_append, List.find?_append, slotMap, slotMap]

theorem slotMap_eq_none {slots : List (Option α)} {wanted : κ}
    (absent : wanted ∉ (occupied slots).map key) : slotMap key slots wanted = none := by
  rw [slotMap, List.find?_eq_none]
  intro item member
  rw [beq_iff_eq]
  rintro rfl
  exact absent (List.mem_map_of_mem member)

/-- A free slot takes an item with a new key. -/
theorem slotMap_fill {item : α} (fresh : slotMap key (left ++ none :: right) (key item) = none) :
    slotMap key (left ++ some item :: right) =
      Function.update (slotMap key (left ++ none :: right)) (key item) (some item) := by
  rw [slotMap_append_none] at fresh ⊢
  funext wanted
  rw [slotMap_append_some]
  by_cases here : wanted = key item
  · subst here
    rw [slotMap_append, Option.or_eq_none_iff] at fresh
    rw [Function.update_self, if_pos rfl, fresh.1, Option.none_or]
  · rw [Function.update_of_ne here, if_neg (Ne.symm here), slotMap_append]

/-- No other slot has the key of an item. -/
theorem slotMap_around {item : α}
    (distinct : ((occupied (left ++ some item :: right)).map key).Nodup) :
    slotMap key left (key item) = none ∧ slotMap key right (key item) = none := by
  rw [occupied_append, occupied_cons_some, List.map_append, List.map_cons, List.nodup_middle,
    List.nodup_cons, List.mem_append, not_or] at distinct
  exact ⟨slotMap_eq_none distinct.1.1, slotMap_eq_none distinct.1.2⟩

/-- A slot is freed. -/
theorem slotMap_free {item : α}
    (distinct : ((occupied (left ++ some item :: right)).map key).Nodup) :
    slotMap key (left ++ none :: right) =
      Function.update (slotMap key (left ++ some item :: right)) (key item) none := by
  have absent := slotMap_around distinct
  rw [slotMap_append_none]
  funext wanted
  rw [slotMap_append]
  by_cases here : wanted = key item
  · subst here
    rw [Function.update_self, absent.1, absent.2, Option.none_or]
  · rw [Function.update_of_ne here, slotMap_append_some, if_neg (Ne.symm here)]

/-- An item is replaced by another one with its key. -/
theorem slotMap_replace {item changed : α} (sameKey : key changed = key item)
    (distinct : ((occupied (left ++ some item :: right)).map key).Nodup) :
    slotMap key (left ++ some changed :: right) =
      Function.update (slotMap key (left ++ some item :: right)) (key item) (some changed) := by
  have absent := slotMap_around distinct
  funext wanted
  rw [slotMap_append_some, sameKey]
  by_cases here : wanted = key item
  · subst here
    rw [Function.update_self, if_pos rfl, absent.1, Option.none_or]
  · rw [Function.update_of_ne here, slotMap_append_some, if_neg (Ne.symm here),
      if_neg (Ne.symm here)]

/-- The item of a slot is found under its key. -/
theorem slotMap_key {item : α}
    (distinct : ((occupied (left ++ some item :: right)).map key).Nodup) :
    slotMap key (left ++ some item :: right) (key item) = some item := by
  rw [slotMap_append_some, if_pos rfl, (slotMap_around distinct).1, Option.none_or]

theorem slotMap_isSome {slots : List (Option α)} {wanted : κ} :
    (slotMap key slots wanted).isSome ↔ wanted ∈ (occupied slots).map key := by
  rw [slotMap, List.find?_isSome]
  simp

/-- The table holds as many items as the map has entries. -/
theorem mapSize_slotMap {slots : List (Option α)} (view : α → β)
    (distinct : ((occupied slots).map key).Nodup) :
    mapSize (fun wanted => (slotMap key slots wanted).map view) = (occupied slots).length := by
  have domain : {wanted | ((slotMap key slots wanted).map view).isSome} =
      ((occupied slots).map key).toFinset := by
    ext wanted
    rw [Set.mem_ofPred_eq, Option.isSome_map, slotMap_isSome, Finset.mem_coe, List.mem_toFinset]
  rw [mapSize, domain, Set.ncard_coe_finset, List.toFinset_card_of_nodup distinct,
    List.length_map]

end Library
