import Mathlib.Data.List.Basic

/-!
Contract: a fixed array of slots, each free or holding one item.

Owns:
- `occupied`, the items held, in slot order;
- a slot found at an index splits the table there, and a write replaces it;
- the search for a slot by a property of its item is the search among the items.
-/

namespace Library

variable {α : Type*}

/-- The items held, in slot order. -/
def occupied (slots : List (Option α)) : List α := slots.filterMap id

@[simp] theorem occupied_nil : occupied ([] : List (Option α)) = [] := rfl

@[simp] theorem occupied_cons_none (slots : List (Option α)) :
    occupied (none :: slots) = occupied slots := rfl

@[simp] theorem occupied_cons_some (item : α) (slots : List (Option α)) :
    occupied (some item :: slots) = item :: occupied slots := rfl

@[simp] theorem occupied_append (left right : List (Option α)) :
    occupied (left ++ right) = occupied left ++ occupied right := by
  rw [occupied, List.filterMap_append]
  rfl

@[simp] theorem occupied_map_some (items : List α) : occupied (items.map some) = items := by
  rw [occupied, List.filterMap_map]
  exact List.filterMap_some

@[simp] theorem occupied_replicate_none (count : Nat) :
    occupied (List.replicate count (none : Option α)) = [] := by
  rw [occupied, List.filterMap_replicate_of_none rfl]

theorem occupied_length_le (slots : List (Option α)) : (occupied slots).length ≤ slots.length :=
  List.length_filterMap_le _ _

/-- The table around a slot; a write there changes nothing else. -/
theorem slot_split {slots : List (Option α)} {index : Nat} {slot : Option α}
    (found : slots[index]? = some slot) :
    ∃ left right, slots = left ++ slot :: right ∧
      ∀ replacement, slots.set index replacement = left ++ replacement :: right := by
  obtain ⟨below, atIndex⟩ := List.getElem?_eq_some_iff.mp found
  refine ⟨slots.take index, slots.drop (index + 1), ?_, fun replacement => ?_⟩
  · rw [← atIndex, ← List.drop_eq_getElem_cons below, List.take_append_drop]
  · rw [List.set_eq_take_append_cons_drop, if_pos below]

/-! ### Search -/

/-- Index of the first slot whose item has the property. -/
def slotIndex (holds : α → Bool) (slots : List (Option α)) : Option Nat :=
  slots.findIdx? (Option.any holds)

theorem slotIndex_some {holds : α → Bool} {slots : List (Option α)} {index : Nat}
    (found : slotIndex holds slots = some index) :
    ∃ item, slots[index]? = some (some item) ∧ holds item = true ∧
      (occupied slots).find? holds = some item := by
  induction slots generalizing index with
  | nil => simp [slotIndex] at found
  | cons slot rest inductionHypothesis =>
      rw [slotIndex, List.findIdx?_cons] at found
      cases slot with
      | none =>
          obtain ⟨earlier, deeper, rfl⟩ := Option.map_eq_some_iff.mp found
          exact inductionHypothesis deeper
      | some item =>
          rw [Option.any_some] at found
          by_cases here : holds item = true
          · rw [if_pos here] at found
            obtain rfl := Option.some.inj found
            exact ⟨item, rfl, here, by simp [here]⟩
          · rw [if_neg here] at found
            obtain ⟨earlier, deeper, rfl⟩ := Option.map_eq_some_iff.mp found
            obtain ⟨other, atEarlier, has, first⟩ := inductionHypothesis deeper
            exact ⟨other, atEarlier, has, by simp [here, first]⟩

theorem slotIndex_none {holds : α → Bool} {slots : List (Option α)}
    (nothing : slotIndex holds slots = none) : (occupied slots).find? holds = none := by
  rw [slotIndex, List.findIdx?_eq_none_iff] at nothing
  rw [List.find?_eq_none]
  intro item member
  obtain ⟨slot, isSlot, rfl⟩ := List.mem_filterMap.mp member
  simpa using nothing _ isSlot

/-- A free slot found is free. -/
theorem freeSlot_some {slots : List (Option α)} {index : Nat}
    (found : slots.findIdx? Option.isNone = some index) : slots[index]? = some none := by
  obtain ⟨below, free, _⟩ := List.findIdx?_eq_some_iff_getElem.mp found
  rw [List.getElem?_eq_getElem below, Option.isNone_iff_eq_none.mp free]

theorem freeSlot_none {slots : List (Option α)}
    (nothing : slots.findIdx? Option.isNone = none) :
    (occupied slots).length = slots.length := by
  rw [List.findIdx?_eq_none_iff] at nothing
  induction slots with
  | nil => rfl
  | cons slot rest inductionHypothesis =>
      cases slot with
      | none => simpa using nothing none (List.mem_cons_self ..)
      | some item =>
          rw [occupied_cons_some, List.length_cons, List.length_cons,
            inductionHypothesis fun other member => nothing other (List.mem_cons_of_mem _ member)]

end Library
