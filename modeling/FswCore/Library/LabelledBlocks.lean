import Mathlib.Data.List.Basic

/-!
Contract: a list made of consecutive blocks, each element labelled with the
number of its block.

Owns:
- `labelFrom`, the labelled concatenation;
- `BlockAt`, where the elements of one label stand, and that an element's label
  names such a block.

What holds of positions inside every block then holds of positions in the whole.
-/

namespace Library

variable {α : Type*}

/-- The blocks one after the other, labelled from `label` on. -/
def labelFrom (label : Nat) : List (List α) → List (Nat × α)
  | [] => []
  | block :: rest => block.map (fun item => (label, item)) ++ labelFrom (label + 1) rest

theorem le_of_mem_labelFrom {label : Nat} {blocks : List (List α)} {entry : Nat × α}
    (member : entry ∈ labelFrom label blocks) : label ≤ entry.1 := by
  induction blocks generalizing label with
  | nil => simp [labelFrom] at member
  | cons block rest inductionHypothesis =>
      rw [labelFrom, List.mem_append, List.mem_map] at member
      rcases member with ⟨item, _, rfl⟩ | later
      · exact Nat.le_refl _
      · exact Nat.le_of_succ_le (inductionHypothesis later)

theorem labelFrom_map_snd (label : Nat) (blocks : List (List α)) :
    (labelFrom label blocks).map Prod.snd = blocks.flatten := by
  induction blocks generalizing label with
  | nil => rfl
  | cons block rest inductionHypothesis =>
      rw [labelFrom, List.map_append, inductionHypothesis, List.flatten_cons, List.map_map]
      congr 1
      exact List.map_id block

/-- The elements with this label are the block's, and stand from `start` on. -/
structure BlockAt (entries : List (Nat × α)) (label : Nat) (block : List α) (start : Nat) :
    Prop where
  inside : ∀ (offset : Nat) (item : α), block[offset]? = some item →
    entries[start + offset]? = some (label, item)
  only : ∀ (index : Nat) (item : α), entries[index]? = some (label, item) →
    ∃ offset, index = start + offset ∧ block[offset]? = some item

theorem blockAt_of_getElem? {label : Nat} {blocks : List (List α)} {index : Nat}
    {entry : Nat × α} (stored : (labelFrom label blocks)[index]? = some entry) :
    ∃ block ∈ blocks, ∃ start, BlockAt (labelFrom label blocks) entry.1 block start := by
  induction blocks generalizing label index with
  | nil => simp [labelFrom] at stored
  | cons block rest inductionHypothesis =>
      have split (position : Nat) (found : Nat × α)
          (at_ : (labelFrom label (block :: rest))[position]? = some found) :
          (position < block.length ∧ found.1 = label ∧ block[position]? = some found.2) ∨
            (block.length ≤ position ∧
              (labelFrom (label + 1) rest)[position - block.length]? = some found) := by
        rw [labelFrom, List.getElem?_append, List.length_map] at at_
        split at at_
        · rename_i inside
          rw [List.getElem?_map, Option.map_eq_some_iff] at at_
          obtain ⟨item, held, rfl⟩ := at_
          exact .inl ⟨inside, rfl, held⟩
        · rename_i behind
          exact .inr ⟨Nat.le_of_not_lt behind, at_⟩
      rcases split index entry stored with ⟨_, named, _⟩ | ⟨_, later⟩
      · refine ⟨block, List.mem_cons_self, 0, fun offset item held => ?_,
          fun position item at_ => ?_⟩
        · have below : offset < block.length := (List.getElem?_eq_some_iff.mp held).1
          rw [labelFrom, List.getElem?_append_left (by simpa using below), Nat.zero_add,
            List.getElem?_map, held, named]
          rfl
        · rcases split position _ at_ with ⟨_, _, held⟩ | ⟨_, behind⟩
          · exact ⟨position, (Nat.zero_add _).symm, held⟩
          · -- the labels behind the first block are larger
            have larger := le_of_mem_labelFrom (List.mem_of_getElem? behind)
            rw [named] at larger
            exact absurd larger (Nat.not_succ_le_self label)
      · obtain ⟨found, member, start, placed⟩ := inductionHypothesis later
        have larger := le_of_mem_labelFrom (List.mem_of_getElem? later)
        refine ⟨found, List.mem_cons_of_mem block member, block.length + start,
          fun offset item held => ?_, fun position item at_ => ?_⟩
        · rw [labelFrom, List.getElem?_append_right (by simp; omega), List.length_map,
            Nat.add_assoc, Nat.add_sub_cancel_left]
          exact placed.inside offset item held
        · rcases split position _ at_ with ⟨_, named, _⟩ | ⟨beyond, behind⟩
          · exact absurd larger (by rw [named]; exact Nat.not_succ_le_self label)
          · obtain ⟨offset, place, held⟩ := placed.only _ item behind
            exact ⟨offset, by omega, held⟩

end Library
