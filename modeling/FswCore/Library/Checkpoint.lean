import Mathlib.Logic.Basic

/-!
Contract: checkpoints of a state in parts, where a part that shows the counter it was
last written at is not written again.

Owns:
- `CheckpointSound`, what the counters have to say about the parts;
- a change that advances the counter of every part it touches keeps it so;
- a checkpoint that writes the parts with a new counter holds the whole state.
-/

namespace Library

variable {ι : Type*} {part : ι → Type*}

/-- A part whose counter is the one written down is in the checkpoint. -/
structure CheckpointSound (counter written : ι → Nat) (live saved : ∀ index, part index) :
    Prop where
  behind : ∀ index, written index ≤ counter index
  current : ∀ index, written index = counter index → saved index = live index

namespace CheckpointSound

variable {counter written after : ι → Nat} {live changed saved : ∀ index, part index}

/-- A state and its own checkpoint. -/
theorem refl (counter : ι → Nat) (live : ∀ index, part index) :
    CheckpointSound counter counter live live :=
  ⟨fun _ => Nat.le_refl _, fun _ _ => rfl⟩

/-- A part may change when its counter grows. -/
theorem change (sound : CheckpointSound counter written live saved)
    (grows : ∀ index, counter index ≤ after index)
    (same : ∀ index, after index = counter index → changed index = live index) :
    CheckpointSound after written changed saved where
  behind index := Nat.le_trans (sound.behind index) (grows index)
  current index isWritten := by
    have behind := sound.behind index
    have unmoved : after index = counter index :=
      Nat.le_antisymm (isWritten ▸ behind) (grows index)
    rw [same index unmoved]
    exact sound.current index (isWritten.trans unmoved)

/-- The parts with a new counter are written, and the others are there already. -/
theorem checkpoint (sound : CheckpointSound counter written live saved)
    {now : ∀ index, part index}
    (wrote : ∀ index, counter index ≠ written index → now index = live index)
    (kept : ∀ index, counter index = written index → now index = saved index) : now = live := by
  funext index
  by_cases same : counter index = written index
  · exact (kept index same).trans (sound.current index same.symm)
  · exact wrote index same

end CheckpointSound

end Library
