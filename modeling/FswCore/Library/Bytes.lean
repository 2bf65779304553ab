import Mathlib.Data.List.Basic

/-!
Contract: windows of a buffer, and a buffer with a window overwritten.

Owns:
- `window`, the elements at an offset;
- `patch`, the buffer after a string is stored at an offset, of the same length
  when the string fits;
- a front filled by one write after the other;
- `copyDown`, the element-by-element copy towards the front, and that it is the
  overlapping move it stands for;
- the length of strings written one after the other;
- a string handed out only where it fits.
-/

namespace Library

variable {α : Type*}

/-- The `count` elements at `off`. -/
def window (buffer : List α) (off count : Nat) : List α :=
  (buffer.drop off).take count

theorem window_append_drop (buffer : List α) (off count : Nat) :
    window buffer off count ++ buffer.drop (off + count) = buffer.drop off := by
  rw [window, ← List.drop_drop, List.take_append_drop]

theorem window_length (buffer : List α) {off count : Nat} (inside : off + count ≤ buffer.length) :
    (window buffer off count).length = count := by
  rw [window, List.length_take, List.length_drop]
  omega

@[simp] theorem window_append (before middle after : List α) :
    window (before ++ middle ++ after) before.length middle.length = middle := by
  rw [window, List.append_assoc, List.drop_left, List.take_left]

/-- A window behind another one's front is a part of that one. -/
theorem window_add (buffer : List α) (off skip count : Nat) :
    window buffer (off + skip) count = (window buffer off (skip + count)).drop skip := by
  rw [window, window, List.drop_take, List.drop_drop, Nat.add_sub_cancel_left]

theorem getD_window {buffer : List α} {off count index : Nat} (below : index < count)
    (other : α) : (window buffer off count).getD index other = buffer.getD (off + index) other := by
  simp [window, List.getD_eq_getElem?_getD, below]

/-- A window read item by item. -/
theorem map_getD_window {buffer : List α} {off count : Nat} (inside : off + count ≤ buffer.length)
    (other : α) :
    (List.range count).map (fun index => buffer.getD (off + index) other) =
      window buffer off count := by
  apply List.ext_getElem
  · rw [List.length_map, List.length_range, window_length buffer inside]
  · intro index listed below
    have index_lt : index < count := by
      rw [List.length_map, List.length_range] at listed
      exact listed
    rw [List.getElem_map, List.getElem_range, ← getD_window index_lt other,
      List.getD_eq_getElem?_getD, List.getElem?_eq_getElem below, Option.getD_some]

theorem map_getD_take {buffer : List α} {count : Nat} (inside : count ≤ buffer.length) (other : α) :
    (List.range count).map (fun index => buffer.getD index other) = buffer.take count := by
  have whole : 0 + count ≤ buffer.length := by
    rw [Nat.zero_add]
    exact inside
  have front := map_getD_window whole other
  simp only [Nat.zero_add] at front
  exact front

theorem window_succ {buffer : List α} {off : Nat} (inside : off < buffer.length) (count : Nat) :
    window buffer off (count + 1) =
      buffer.get ⟨off, inside⟩ :: window buffer (off + 1) count := by
  rw [window, List.drop_eq_getElem_cons inside, List.take_succ_cons]
  rfl

@[simp] theorem window_zero (buffer : List α) (count : Nat) :
    window buffer 0 count = buffer.take count := rfl

/-- `buffer` with `bytes` stored at `off`. -/
def patch (buffer : List α) (off : Nat) (bytes : List α) : List α :=
  buffer.take off ++ bytes ++ buffer.drop (off + bytes.length)

theorem patch_length (buffer : List α) {off : Nat} {bytes : List α}
    (inside : off + bytes.length ≤ buffer.length) :
    (patch buffer off bytes).length = buffer.length := by
  simp only [patch, List.length_append, List.length_take, List.length_drop]
  omega

/-- The elements up to the end of the stored string. -/
theorem take_patch (buffer : List α) {off : Nat} (bytes : List α) (inside : off ≤ buffer.length) :
    (patch buffer off bytes).take (off + bytes.length) = buffer.take off ++ bytes := by
  have front : (buffer.take off ++ bytes).length = off + bytes.length := by
    rw [List.length_append, List.length_take, Nat.min_eq_left inside]
  rw [patch, ← front, List.take_left]

@[simp] theorem patch_nil (buffer : List α) (off : Nat) : patch buffer off [] = buffer := by
  simp [patch]

theorem patch_getElem? (buffer : List α) {off : Nat} {bytes : List α}
    (inside : off + bytes.length ≤ buffer.length) (index : Nat) :
    (patch buffer off bytes)[index]? =
      if index < off then buffer[index]?
      else if index < off + bytes.length then bytes[index - off]? else buffer[index]? := by
  have front : (buffer.take off).length = off := by
    rw [List.length_take]
    omega
  rw [patch, List.append_assoc]
  split
  · rename_i before
    rw [List.getElem?_append_left (by omega), List.getElem?_take_of_lt before]
  rename_i notBefore
  rw [List.getElem?_append_right (by omega), front]
  split
  · rw [List.getElem?_append_left (by omega)]
  · rw [List.getElem?_append_right (by omega), List.getElem?_drop]
    congr 1
    omega

theorem window_getElem? (buffer : List α) (off count index : Nat) :
    (window buffer off count)[index]? = if index < count then buffer[off + index]? else none := by
  rw [window, List.getElem?_take, List.getElem?_drop]

/-- A window of a window. -/
theorem window_window (buffer : List α) {base size off count : Nat} (inside : off + count ≤ size) :
    window (window buffer base size) off count = window buffer (base + off) count := by
  apply List.ext_getElem?
  intro index
  rw [window_getElem?, window_getElem?, window_getElem?]
  split_ifs <;> first
    | rfl
    | omega
    | rw [Nat.add_assoc]

/-- A string of the buffer's size replaces it. -/
theorem patch_whole {buffer bytes : List α} (whole : bytes.length = buffer.length) :
    patch buffer 0 bytes = bytes := by
  rw [patch, Nat.zero_add, whole, List.drop_length, List.append_nil, List.take_zero,
    List.nil_append]

/-- A string stored before this index. -/
theorem drop_patch (buffer : List α) {off keep : Nat} {bytes : List α}
    (inside : off + bytes.length ≤ buffer.length) (before : off + bytes.length ≤ keep) :
    (patch buffer off bytes).drop keep = buffer.drop keep := by
  apply List.ext_getElem?
  intro index
  rw [List.getElem?_drop, List.getElem?_drop, patch_getElem? buffer inside, if_neg (by omega),
    if_neg (by omega)]

/-- A string stored inside a window. -/
theorem window_patch (buffer : List α) {base count off : Nat} {bytes : List α}
    (inside : off + bytes.length ≤ count) (whole : base + count ≤ buffer.length) :
    window (patch buffer (base + off) bytes) base count =
      patch (window buffer base count) off bytes := by
  have size := window_length buffer whole
  apply List.ext_getElem?
  intro index
  rw [window_getElem?, patch_getElem? buffer (by omega), patch_getElem? _ (by omega),
    window_getElem?]
  split_ifs <;> first
    | rfl
    | omega
    | rw [show base + index - (base + off) = index - off by omega]

/-- A string stored in front of a window, or behind it. -/
theorem window_patch_apart (buffer : List α) {base count off : Nat} {bytes : List α}
    (inside : off + bytes.length ≤ buffer.length)
    (apart : base + count ≤ off ∨ off + bytes.length ≤ base) :
    window (patch buffer off bytes) base count = window buffer base count := by
  apply List.ext_getElem?
  intro index
  rw [window_getElem?, window_getElem?, patch_getElem? buffer inside]
  split_ifs <;> first | rfl | omega

/-! ### Filling from the front -/

/-- The front that is filled, behind a write at its end. -/
theorem take_set_succ {buffer : List α} {index : Nat} (inside : index < buffer.length) (item : α) :
    (buffer.set index item).take (index + 1) = buffer.take index ++ [item] := by
  have written : index < (buffer.set index item).length := by
    rw [List.length_set]
    exact inside
  rw [List.take_succ_eq_append_getElem written, List.getElem_set_self,
    List.take_set_of_le (Nat.le_refl index)]

/-- One write after the other. -/
theorem take_foldl_set (items buffer : List α) (start : Nat)
    (room : start + items.length ≤ buffer.length) :
    ((items.zipIdx start).foldl (fun buffer entry => buffer.set entry.2 entry.1) buffer).take
        (start + items.length) = buffer.take start ++ items := by
  induction items generalizing buffer start with
  | nil => simp
  | cons item rest inductionHypothesis =>
      rw [List.length_cons] at room
      have next := inductionHypothesis (buffer.set start item) (start + 1)
        (by rw [List.length_set]; omega)
      have total : start + (rest.length + 1) = start + 1 + rest.length := by omega
      rw [List.zipIdx_cons, List.foldl_cons, List.length_cons, total, next,
        take_set_succ (by omega), List.append_assoc, List.singleton_append]

/-- Items copied to the first slots, one after the other. -/
def copyFront {size : Nat} (slots : Vector α size) (items : List α) : Vector α size :=
  items.zipIdx.foldl (fun slots entry => slots.setIfInBounds entry.2 entry.1) slots

theorem toList_copyFront {size : Nat} (slots : Vector α size) (items : List α) :
    (copyFront slots items).toList =
      items.zipIdx.foldl (fun slots entry => slots.set entry.2 entry.1) slots.toList := by
  unfold copyFront
  generalize items.zipIdx = entries
  induction entries generalizing slots with
  | nil => rfl
  | cons entry rest inductionHypothesis =>
      rw [List.foldl_cons, List.foldl_cons, inductionHypothesis, Vector.toList_setIfInBounds]

theorem take_copyFront {size : Nat} (slots : Vector α size) {items : List α}
    (fits : items.length ≤ size) : (copyFront slots items).toList.take items.length = items := by
  have copied := take_foldl_set items slots.toList 0 (by rw [Vector.length_toList]; omega)
  rw [Nat.zero_add, List.take_zero, List.nil_append] at copied
  rw [toList_copyFront]
  exact copied

/-! ### Moving a window towards the front -/

def copyStep (target source : Nat) (buffer : List α) (index : Nat) : List α :=
  match buffer[source + index]? with
  | none => buffer
  | some item => buffer.set (target + index) item

/-- The copy loop: element `target + i` is overwritten by element `source + i`,
for `i` below `count`, in this order. -/
def copyDown (buffer : List α) (target source count : Nat) : List α :=
  (List.range count).foldl (copyStep target source) buffer

theorem copyDown_succ (buffer : List α) (target source count : Nat) :
    copyDown buffer target source (count + 1) =
      copyStep target source (copyDown buffer target source count) count := by
  rw [copyDown, List.range_succ, List.foldl_append]
  rfl

@[simp] theorem copyDown_length (buffer : List α) (target source count : Nat) :
    (copyDown buffer target source count).length = buffer.length := by
  induction count with
  | zero => rfl
  | succ count inductionHypothesis =>
      rw [copyDown_succ, copyStep]
      split
      · exact inductionHypothesis
      · rw [List.length_set, inductionHypothesis]

/-- An element the loop has not reached is the original one; one it has written
is the original one from behind. -/
theorem copyDown_getElem? {buffer : List α} {target source count : Nat}
    (towardsFront : target ≤ source) (inside : source + count ≤ buffer.length) (index : Nat) :
    (copyDown buffer target source count)[index]? =
      if target ≤ index ∧ index < target + count then buffer[source + (index - target)]?
      else buffer[index]? := by
  induction count generalizing index with
  | zero => rw [if_neg (by omega)]; rfl
  | succ count inductionHypothesis =>
      have before := inductionHypothesis (by omega)
      have below : source + count < buffer.length := by omega
      have read := (before (source + count)).trans (if_neg (by omega))
      simp only [copyDown_succ, copyStep, read, List.getElem?_eq_getElem below]
      rw [List.getElem?_set, copyDown_length]
      by_cases atEnd : target + count = index
      · rw [if_pos atEnd, if_pos (by omega), if_pos (by omega), ← atEnd,
          Nat.add_sub_cancel_left, List.getElem?_eq_getElem]
      · rw [if_neg atEnd, before index]
        by_cases written : target ≤ index ∧ index < target + count
        · rw [if_pos written, if_pos (by omega)]
        · rw [if_neg written, if_neg (by omega)]

/-- Towards the front the loop is the overlapping move: what it reads it has not
overwritten yet. -/
theorem take_copyDown {buffer : List α} {target source count : Nat}
    (towardsFront : target ≤ source) (inside : source + count ≤ buffer.length) :
    (copyDown buffer target source count).take (target + count) =
      buffer.take target ++ window buffer source count := by
  apply List.ext_getElem?
  intro index
  rw [List.getElem?_take, copyDown_getElem? towardsFront inside, List.getElem?_append,
    List.length_take, Nat.min_eq_left (by omega), List.getElem?_take, window, List.getElem?_take,
    List.getElem?_drop]
  by_cases front : index < target
  · rw [if_pos (by omega), if_neg (by omega), if_pos front, if_pos front]
  · rw [if_neg front]
    by_cases moved : index < target + count
    · rw [if_pos moved, if_pos (by omega), if_pos (by omega)]
    · rw [if_neg moved, if_neg (by omega)]

/-! ### Strings one after the other -/

theorem length_flatMap_le {ι : Type*} {items : List ι} {image : ι → List α} {size : Nat}
    (bounded : ∀ item ∈ items, (image item).length ≤ size) :
    (items.flatMap image).length ≤ size * items.length := by
  induction items with
  | nil => simp
  | cons item rest inductionHypothesis =>
      have first := bounded item List.mem_cons_self
      have behind := inductionHypothesis fun other member =>
        bounded other (List.mem_cons_of_mem item member)
      rw [List.flatMap_cons, List.length_append, List.length_cons, Nat.mul_succ]
      omega

theorem length_flatMap_eq {ι : Type*} {items : List ι} {image : ι → List α} {size : Nat}
    (equal : ∀ item ∈ items, (image item).length = size) :
    (items.flatMap image).length = size * items.length := by
  induction items with
  | nil => simp
  | cons item rest inductionHypothesis =>
      have first := equal item List.mem_cons_self
      have behind := inductionHypothesis fun other member =>
        equal other (List.mem_cons_of_mem item member)
      rw [List.flatMap_cons, List.length_append, List.length_cons, Nat.mul_succ]
      omega

theorem handedOut_iff {ε : Type*} {bytes : List α} {room : Nat} {status : ε} :
    (∃ image, (if bytes.length ≤ room then Except.ok bytes else .error status) = .ok image) ↔
      bytes.length ≤ room := by
  by_cases fits : bytes.length ≤ room
  · rw [if_pos fits]
    exact ⟨fun _ => fits, fun _ => ⟨_, rfl⟩⟩
  · rw [if_neg fits]
    constructor
    · rintro ⟨image, written⟩
      contradiction
    · intro enough
      exact absurd enough fits

end Library
