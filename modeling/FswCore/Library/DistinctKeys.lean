import Mathlib.Data.List.Nodup

/-!
Contract: a list whose elements have distinct keys, looked up by key.

Owns:
- a lookup by the key of an element finds that element.

Does not own: that two elements with one key are the same, which is Mathlib's.
-/

namespace Library

variable {α κ : Type*} {key : α → κ} {items : List α}

/-- Searching for the key of an element finds the element. -/
theorem find?_key_of_mem [BEq κ] [LawfulBEq κ] (distinct : (items.map key).Nodup) {item : α}
    (member : item ∈ items) :
    items.find? (fun other => key other == key item) = some item := by
  cases found : items.find? fun other => key other == key item with
  | none =>
      have missed := List.find?_eq_none.mp found item member
      simp at missed
  | some other =>
      have same := List.find?_some found
      rw [beq_iff_eq] at same
      rw [List.inj_on_of_nodup_map distinct (List.mem_of_find?_eq_some found) member same]

end Library
