import Mathlib.Data.List.Basic
import Mathlib.Data.List.Perm.Basic

/-!
Contract: removal from an unordered array by filling the gap with the last
element.

Owns:
- `swapRemove`, the list left after the element at an index is overwritten by
  the last one and the last slot is dropped;
- that it removes exactly that element, up to order.
-/

namespace Library

open scoped List

variable {α : Type*}

/-- Overwrite position `index` with the last element, then drop the last slot. -/
def swapRemove (items : List α) (index : Nat) : List α :=
  match items.getLast? with
  | none => items
  | some last => (items.set index last).dropLast

theorem swapRemove_concat_last (front : List α) (last : α) :
    swapRemove (front ++ [last]) front.length = front := by
  simp [swapRemove]

theorem swapRemove_concat (front : List α) (last : α) {index : Nat}
    (below : index < front.length) :
    swapRemove (front ++ [last]) index = front.set index last := by
  simp [swapRemove, List.set_append_left _ _ below]

/-- The element at `index` leaves and every other element stays. -/
theorem perm_cons_swapRemove {items : List α} {index : Nat} {item : α}
    (found : items[index]? = some item) : items.Perm (item :: swapRemove items index) := by
  obtain ⟨below, rfl⟩ := List.getElem?_eq_some_iff.mp found
  obtain ⟨front, last, rfl⟩ : ∃ front last, items = front ++ [last] :=
    ⟨items.dropLast, items.getLast (List.ne_nil_of_length_pos (by omega)),
      (List.dropLast_append_getLast _).symm⟩
  rw [List.length_append, List.length_singleton] at below
  by_cases atEnd : index = front.length
  · subst index
    rw [swapRemove_concat_last, List.getElem_concat_length rfl]
    exact List.perm_append_comm
  · have inFront : index < front.length := by omega
    rw [swapRemove_concat front last inFront, List.getElem_append_left inFront]
    -- both sides hold `last` once and `front` without position `index`
    have split := List.getElem_cons_eraseIdx_perm inFront
    have replaced : (front.set index last).Perm (last :: front.eraseIdx index) := by
      rw [List.set_eq_take_append_cons_drop, if_pos inFront, List.eraseIdx_eq_take_drop_succ]
      exact List.perm_middle
    calc front ++ [last]
        _ ~ last :: front := List.perm_append_comm
        _ ~ last :: front[index] :: front.eraseIdx index := split.symm.cons _
        _ ~ front[index] :: last :: front.eraseIdx index := .swap _ _ _
        _ ~ front[index] :: front.set index last := replaced.symm.cons _

theorem swapRemove_length {items : List α} {index : Nat} {item : α}
    (found : items[index]? = some item) : (swapRemove items index).length + 1 = items.length := by
  rw [(perm_cons_swapRemove found).length_eq, List.length_cons]

theorem mem_of_mem_swapRemove {items : List α} {index : Nat} {item : α}
    (found : items[index]? = some item) {other : α} (member : other ∈ swapRemove items index) :
    other ∈ items :=
  (perm_cons_swapRemove found).mem_iff.mpr (List.mem_cons_of_mem _ member)

end Library
