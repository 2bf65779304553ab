import Mathlib.Data.Fin.Basic
import Mathlib.Logic.Function.Basic

/-!
Contract: two slots that hold stamped copies of one value, newest wins.

Owns:
- `newest`, the copy a reader takes: the higher stamp, the first slot on a tie;
- what overwriting the slot that does not hold the newest copy does: a newer copy
  becomes the newest, an older or an invalid one changes nothing.

Does not own: how a slot comes to be invalid, nor the stamps' arithmetic.
-/

namespace Library

structure Stamped (α : Type*) where
  stamp : Nat
  value : α

variable {α : Type*}

/-- The slot with the newest copy, and the copy. -/
def newest (slots : Fin 2 → Option (Stamped α)) : Option (Fin 2 × Stamped α) :=
  match slots 0, slots 1 with
  | none, none => none
  | some first, none => some (0, first)
  | none, some second => some (1, second)
  | some first, some second =>
      if first.stamp < second.stamp then some (1, second) else some (0, first)

def otherSlot : Fin 2 → Fin 2
  | 0 => 1
  | 1 => 0

theorem otherSlot_otherSlot : ∀ slot, otherSlot (otherSlot slot) = slot := by decide

theorem otherSlot_ne : ∀ slot, otherSlot slot ≠ slot := by decide

theorem newest_eq_none_iff (slots : Fin 2 → Option (Stamped α)) :
    newest slots = none ↔ ∀ slot, slots slot = none := by
  rw [Fin.forall_fin_two]
  unfold newest
  cases slots 0 with
  | none => cases slots 1 <;> simp
  | some first =>
      cases slots 1 with
      | none => simp
      | some second =>
          simp only [reduceCtorEq, and_self, iff_false]
          split <;> simp

theorem newest_mem {slots : Fin 2 → Option (Stamped α)} {held : Fin 2} {copy : Stamped α}
    (found : newest slots = some (held, copy)) : slots held = some copy := by
  unfold newest at found
  split at found
  · contradiction
  · rename_i first _ atFirst _
    obtain ⟨rfl, rfl⟩ := Prod.mk.inj (Option.some.inj found)
    exact atFirst
  · rename_i second _ atSecond
    obtain ⟨rfl, rfl⟩ := Prod.mk.inj (Option.some.inj found)
    exact atSecond
  · rename_i first second atFirst atSecond
    split at found
    · obtain ⟨rfl, rfl⟩ := Prod.mk.inj (Option.some.inj found)
      exact atSecond
    · obtain ⟨rfl, rfl⟩ := Prod.mk.inj (Option.some.inj found)
      exact atFirst

/-- No copy has a higher stamp than the newest. -/
theorem newest_stamp_le {slots : Fin 2 → Option (Stamped α)} {held slot : Fin 2}
    {copy other : Stamped α} (found : newest slots = some (held, copy))
    (present : slots slot = some other) : other.stamp ≤ copy.stamp := by
  unfold newest at found
  match slot with
  | 0 =>
      cases second : slots 1 with
      | none =>
          simp only [present, second, Option.some.injEq, Prod.mk.injEq] at found
          rw [found.2]
      | some newer =>
          simp only [present, second] at found
          split at found <;> grind
  | 1 =>
      cases first : slots 0 with
      | none =>
          simp only [present, first, Option.some.injEq, Prod.mk.injEq] at found
          rw [found.2]
      | some older =>
          simp only [present, first] at found
          split at found <;> grind

/-- A copy in an otherwise empty store is the newest. -/
theorem newest_update_of_empty {slots : Fin 2 → Option (Stamped α)}
    (empty : ∀ slot, slots slot = none) (slot : Fin 2) (copy : Stamped α) :
    newest (Function.update slots slot (some copy)) = some (slot, copy) := by
  match slot with
  | 0 => simp [newest, empty]
  | 1 => simp [newest, empty]

/-- A newer copy in the slot that does not hold the newest becomes the newest. -/
theorem newest_update_newer {slots : Fin 2 → Option (Stamped α)} {held : Fin 2}
    {copy next : Stamped α} (found : newest slots = some (held, copy))
    (newer : copy.stamp < next.stamp) :
    newest (Function.update slots (otherSlot held) (some next)) = some (otherSlot held, next) := by
  have present := newest_mem found
  match held with
  | 0 => simp [newest, otherSlot, present, newer]
  | 1 => simp [newest, otherSlot, present, Nat.not_lt.mpr (Nat.le_of_lt newer)]

/-- A copy stored at a slot yields to the other slot's, if that is newer. The
first slot wins a tie. -/
theorem newest_update_some (slots : Fin 2 → Option (Stamped α)) (slot : Fin 2)
    (copy : Stamped α) :
    newest (Function.update slots slot (some copy)) =
      match slots (otherSlot slot) with
      | none => some (slot, copy)
      | some rival =>
          if rival.stamp < copy.stamp ∨ (slot.val = 0 ∧ rival.stamp = copy.stamp) then
            some (slot, copy)
          else some (otherSlot slot, rival) := by
  match slot with
  | 0 =>
      cases present : slots 1 with
      | none => simp [newest, otherSlot, present]
      | some rival =>
          by_cases newer : copy.stamp < rival.stamp
          · have loses : ¬ (rival.stamp < copy.stamp ∨ rival.stamp = copy.stamp) := by omega
            simp [newest, otherSlot, present, newer, loses]
          · have wins : rival.stamp < copy.stamp ∨ rival.stamp = copy.stamp := by omega
            simp [newest, otherSlot, present, newer, wins]
  | 1 =>
      cases present : slots 0 with
      | none => simp [newest, otherSlot, present]
      | some rival => simp [newest, otherSlot, present]

/-- An older copy there leaves the newest in place. -/
theorem newest_update_older {slots : Fin 2 → Option (Stamped α)} {held : Fin 2}
    {copy next : Stamped α} (found : newest slots = some (held, copy))
    (older : next.stamp < copy.stamp) :
    newest (Function.update slots (otherSlot held) (some next)) = some (held, copy) := by
  have loses : ¬ (copy.stamp < next.stamp ∨
      ((otherSlot held).val = 0 ∧ copy.stamp = next.stamp)) := by omega
  rw [newest_update_some, otherSlot_otherSlot, newest_mem found]
  simp only [if_neg loses]

/-- Losing the copy that is not the newest loses nothing. -/
theorem newest_update_none {slots : Fin 2 → Option (Stamped α)} {held : Fin 2}
    {copy : Stamped α} (found : newest slots = some (held, copy)) :
    newest (Function.update slots (otherSlot held) none) = some (held, copy) := by
  have present := newest_mem found
  match held with
  | 0 => simp [newest, otherSlot, present]
  | 1 => simp [newest, otherSlot, present]

end Library
