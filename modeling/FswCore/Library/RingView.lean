import Mathlib.Data.List.Basic

/-!
Contract: a circular array read as a list, oldest element first.

Owns:
- `ringIndex`, the slot an offset from the head falls on;
- `ringView`, the list of the stored elements;
- what writing the slot behind the newest element and advancing the head do to
  that list, at any wrap of the indices.
-/

namespace Library

variable {α : Type*} {capacity : Nat}

/-- The slot `offset` places behind the head. -/
def ringIndex (head : Fin capacity) (offset : Nat) : Fin capacity :=
  ⟨(head.val + offset) % capacity, Nat.mod_lt _ (Nat.lt_of_le_of_lt (Nat.zero_le _) head.isLt)⟩

/-- The `count` stored elements, from the head on. -/
def ringView (slots : Vector α capacity) (head : Fin capacity) (count : Nat) : List α :=
  (List.range count).map fun offset => slots[ringIndex head offset]

@[simp] theorem ringView_length (slots : Vector α capacity) (head : Fin capacity) (count : Nat) :
    (ringView slots head count).length = count := by
  simp [ringView]

@[simp] theorem ringIndex_zero (head : Fin capacity) : ringIndex head 0 = head := by
  apply Fin.ext
  simp [ringIndex, Nat.mod_eq_of_lt head.isLt]

theorem ringIndex_succ (head : Fin capacity) (offset : Nat) :
    ringIndex (ringIndex head 1) offset = ringIndex head (offset + 1) := by
  apply Fin.ext
  simp only [ringIndex, Nat.mod_add_mod]
  rw [Nat.add_assoc, Nat.add_comm 1 offset]

/-- Offsets below the capacity fall on distinct slots. -/
theorem ringIndex_injective {head : Fin capacity} {left right : Nat} (leftBelow : left < capacity)
    (rightBelow : right < capacity) (same : ringIndex head left = ringIndex head right) :
    left = right := by
  have equal : (head.val + left) % capacity = (head.val + right) % capacity :=
    congrArg Fin.val same
  have headBelow := head.isLt
  have wrap (offset : Nat) (below : offset < capacity) : (head.val + offset) % capacity =
      if head.val + offset < capacity then head.val + offset
      else head.val + offset - capacity := by
    split
    · exact Nat.mod_eq_of_lt ‹_›
    · rw [Nat.mod_eq_sub_mod (by omega), Nat.mod_eq_of_lt (by omega)]
  rw [wrap left leftBelow, wrap right rightBelow] at equal
  split at equal <;> split at equal <;> omega

theorem ringView_getElem? (slots : Vector α capacity) (head : Fin capacity) {count offset : Nat}
    (below : offset < count) :
    (ringView slots head count)[offset]? = some slots[ringIndex head offset] := by
  simp [ringView, below]

theorem ringView_drop_getElem (slots : Vector α capacity) (head : Fin capacity)
    {count offset : Nat} (below : offset < count) :
    (ringView slots head count).drop offset =
      slots[ringIndex head offset] :: (ringView slots head count).drop (offset + 1) := by
  have inside : offset < (ringView slots head count).length := by simpa using below
  rw [List.drop_eq_getElem_cons inside]
  congr 1
  simp [ringView]

/-- Writing the slot behind the newest element appends to the list. -/
theorem ringView_set (slots : Vector α capacity) (head : Fin capacity) {count : Nat}
    (room : count < capacity) (item : α) :
    ringView (slots.set (ringIndex head count) item) head (count + 1) =
      ringView slots head count ++ [item] := by
  rw [ringView, List.range_succ, List.map_append]
  congr 1
  · apply List.map_congr_left
    intro offset member
    have below := List.mem_range.mp member
    have different : ringIndex head count ≠ ringIndex head offset := fun same =>
      Nat.ne_of_gt below (ringIndex_injective room (Nat.lt_trans below room) same)
    exact Vector.getElem_set_ne _ _ fun same => different (Fin.ext same)
  · simp

/-- Advancing the head drops the oldest element. -/
theorem ringView_advance (slots : Vector α capacity) (head : Fin capacity) (count : Nat) :
    ringView slots (ringIndex head 1) count = (ringView slots head (count + 1)).tail := by
  rw [ringView, ringView, List.range_succ_eq_map, List.map_cons, List.tail_cons, List.map_map]
  apply List.map_congr_left
  intro offset _
  simp only [ringIndex_succ, Function.comp_apply]

theorem ringView_succ (slots : Vector α capacity) (head : Fin capacity) (count : Nat) :
    ringView slots head (count + 1) = slots[head] :: ringView slots (ringIndex head 1) count := by
  rw [ringView_advance]
  have first := ringView_drop_getElem slots head (Nat.succ_pos count)
  simpa using first

theorem ringView_head? (slots : Vector α capacity) (head : Fin capacity) {count : Nat}
    (positive : 0 < count) : (ringView slots head count).head? = some slots[head] := by
  obtain ⟨fewer, rfl⟩ := Nat.exists_eq_succ_of_ne_zero (Nat.ne_of_gt positive)
  rw [ringView_succ]
  rfl

theorem ringView_getLast? (slots : Vector α capacity) (head : Fin capacity) {count : Nat}
    (positive : 0 < count) :
    (ringView slots head count).getLast? = some slots[ringIndex head (count - 1)] := by
  rw [List.getLast?_eq_getElem?, ringView_length]
  exact ringView_getElem? slots head (Nat.sub_lt positive Nat.one_pos)

end Library
