import Mathlib.Data.List.Basic
import Mathlib.Tactic.SplitIfs

/-!
Contract: one left-to-right scan that keeps the first eligible element of least
key.

Owns:
- `bestIndex`, the scan, with the running best as its accumulator;
- its specification: the result is eligible, no eligible element has a smaller
  key and none before it has the same key; no result means none is eligible;
- `picks`, the scan repeated with each result marked: as long as a marked element
  is not eligible, the picks are the eligible elements in order of their keys,
  equal keys in list order, and then nothing.
-/

namespace Library

variable {α : Type*}

section Scan

variable (eligible : α → Bool) (key : α → Nat)

/-- The running best after one more element. -/
def bestStep (items : List α) (best : Option Nat) (index : Nat) : Option Nat :=
  match items[index]? with
  | none => best
  | some item =>
      if eligible item then
        match best with
        | none => some index
        | some held =>
            match items[held]? with
            | none => some index
            | some other => if key item < key other then some index else best
      else best

/-- Index of the first eligible element of least key. -/
def bestIndex (items : List α) : Option Nat :=
  (List.range items.length).foldl (bestStep eligible key items) none

/-- `item` stands at `index` and is what a scan of the first `seen` elements
keeps. -/
structure BestOf (items : List α) (seen index : Nat) (item : α) : Prop where
  found : items[index]? = some item
  inside : index < seen
  isEligible : eligible item = true
  least : ∀ (other : Nat) (rival : α), items[other]? = some rival → other < seen →
    eligible rival = true → key item ≤ key rival
  first : ∀ (other : Nat) (rival : α), items[other]? = some rival → other < index →
    eligible rival = true → key item < key rival

/-- What the running best says about the first `seen` elements. -/
def Holds (items : List α) (seen : Nat) : Option Nat → Prop
  | none => ∀ (other : Nat) (rival : α), items[other]? = some rival → other < seen →
      eligible rival = false
  | some index => ∃ item, BestOf eligible key items seen index item

variable {eligible key}

theorem BestOf.skip {items : List α} {seen index : Nat} {item next : α}
    (best : BestOf eligible key items seen index item) (atSeen : items[seen]? = some next)
    (keeps : eligible next = true → key item ≤ key next) :
    BestOf eligible key items (seen + 1) index item where
  found := best.found
  inside := Nat.lt_succ_of_lt best.inside
  isEligible := best.isEligible
  least other rival atOther inside isEligible := by
    rcases Nat.lt_succ_iff_lt_or_eq.mp inside with old | rfl
    · exact best.least other rival atOther old isEligible
    · obtain rfl : rival = next := Option.some.inj (atOther.symm.trans atSeen)
      exact keeps isEligible
  first := best.first

theorem bestStep_holds {items : List α} {seen : Nat} {next : α}
    (atSeen : items[seen]? = some next) {best : Option Nat}
    (holds : Holds eligible key items seen best) :
    Holds eligible key items (seen + 1) (bestStep eligible key items best seen) := by
  simp only [bestStep, atSeen]
  cases best with
  | none =>
      have noneBefore : ∀ (other : Nat) (rival : α), items[other]? = some rival → other < seen →
          eligible rival = false := holds
      split_ifs with isEligible
      · refine ⟨next, atSeen, Nat.lt_succ_self _, isEligible, ?_, ?_⟩
        · intro other rival atOther inside rivalEligible
          rcases Nat.lt_succ_iff_lt_or_eq.mp inside with old | rfl
          · rw [noneBefore other rival atOther old] at rivalEligible
            contradiction
          · obtain rfl : rival = next := Option.some.inj (atOther.symm.trans atSeen)
            exact Nat.le_refl _
        · intro other rival atOther before rivalEligible
          rw [noneBefore other rival atOther before] at rivalEligible
          contradiction
      · intro other rival atOther inside
        rcases Nat.lt_succ_iff_lt_or_eq.mp inside with old | rfl
        · exact noneBefore other rival atOther old
        · obtain rfl : rival = next := Option.some.inj (atOther.symm.trans atSeen)
          simpa using isEligible
  | some held =>
      obtain ⟨item, best⟩ : ∃ item, BestOf eligible key items seen held item := holds
      simp only [best.found]
      split_ifs with isEligible smaller
      · refine ⟨next, atSeen, Nat.lt_succ_self _, isEligible, ?_, ?_⟩
        · intro other rival atOther inside rivalEligible
          rcases Nat.lt_succ_iff_lt_or_eq.mp inside with old | rfl
          · exact Nat.le_trans (Nat.le_of_lt smaller)
              (best.least other rival atOther old rivalEligible)
          · obtain rfl : rival = next := Option.some.inj (atOther.symm.trans atSeen)
            exact Nat.le_refl _
        · intro other rival atOther before rivalEligible
          exact Nat.lt_of_lt_of_le smaller
            (best.least other rival atOther before rivalEligible)
      · exact ⟨item, best.skip atSeen fun _ => Nat.le_of_not_lt smaller⟩
      · exact ⟨item, best.skip atSeen fun yes => absurd yes isEligible⟩

theorem scan_holds (items : List α) (seen : Nat) (bound : seen ≤ items.length) :
    Holds eligible key items seen
      ((List.range seen).foldl (bestStep eligible key items) none) := by
  induction seen with
  | zero => intro other _ _ inside; omega
  | succ seen inductionHypothesis =>
      rw [List.range_succ, List.foldl_append]
      exact bestStep_holds (List.getElem?_eq_getElem bound) (inductionHypothesis (by omega))

theorem bestIndex_holds (items : List α) :
    Holds eligible key items items.length (bestIndex eligible key items) :=
  scan_holds items items.length (Nat.le_refl _)

/-- The scan's result is the first eligible element of least key. -/
theorem bestIndex_some {items : List α} {index : Nat}
    (found : bestIndex eligible key items = some index) :
    ∃ item, BestOf eligible key items items.length index item := by
  have holds : Holds eligible key items items.length (bestIndex eligible key items) :=
    bestIndex_holds items
  rw [found] at holds
  exact holds

theorem bestIndex_none {items : List α} (nothing : bestIndex eligible key items = none) :
    ∀ item ∈ items, eligible item = false := by
  have holds : Holds eligible key items items.length (bestIndex eligible key items) :=
    bestIndex_holds items
  rw [nothing] at holds
  intro item member
  obtain ⟨index, bound, rfl⟩ := List.mem_iff_getElem.mp member
  exact holds index _ (List.getElem?_eq_getElem bound) bound

end Scan

/-! ### Picking until nothing is left -/

section Picks

variable (eligible : α → Bool) (key : α → Nat) (mark : α → α)

/-- The best element with its index, and the list with it marked. -/
def pickBest (items : List α) : Option (Nat × α) × List α :=
  match bestIndex eligible key items with
  | none => (none, items)
  | some index =>
      match items[index]? with
      | none => (none, items)
      | some item => (some (index, item), items.set index (mark item))

/-- What `count` picks in a row yield. -/
def picks : Nat → List α → List (Option (Nat × α))
  | 0, _ => []
  | count + 1, items =>
      (pickBest eligible key mark items).1 :: picks count (pickBest eligible key mark items).2

/-- `order` is the eligible elements with their indices, by key and, of equal
keys, by index. -/
structure Ranked (items : List α) (order : List (Nat × α)) : Prop where
  complete : ∀ (index : Nat) (item : α), (index, item) ∈ order ↔
    items[index]? = some item ∧ eligible item = true
  sorted : order.Pairwise fun left right =>
    key left.2 < key right.2 ∨ key left.2 = key right.2 ∧ left.1 < right.1

variable {eligible key mark}

theorem pickBest_none {items : List α} (nothing : bestIndex eligible key items = none) :
    pickBest eligible key mark items = (none, items) := by
  rw [pickBest, nothing]

theorem pickBest_some {items : List α} {index : Nat}
    (found : bestIndex eligible key items = some index) :
    ∃ item, BestOf eligible key items items.length index item ∧
      pickBest eligible key mark items = (some (index, item), items.set index (mark item)) := by
  obtain ⟨item, best⟩ := bestIndex_some found
  refine ⟨item, best, ?_⟩
  simp only [pickBest, found, best.found]

theorem picks_none {items : List α} (nothing : bestIndex eligible key items = none)
    (count : Nat) : picks eligible key mark count items = List.replicate count none := by
  induction count with
  | zero => rfl
  | succ count inductionHypothesis =>
      rw [picks, pickBest_none nothing, inductionHypothesis, List.replicate_succ]

/-- With the best one in front, the ranking of what is left is the whole ranking. -/
theorem Ranked.cons {items : List α} {index : Nat} {item : α} {order : List (Nat × α)}
    (best : BestOf eligible key items items.length index item)
    (unmarked : eligible (mark item) = false)
    (rest : Ranked eligible key (items.set index (mark item)) order) :
    Ranked eligible key items ((index, item) :: order) := by
  have below : index < items.length := best.inside
  have written : (items.set index (mark item))[index]? = some (mark item) :=
    List.getElem?_set_self below
  constructor
  · intro other rival
    rw [List.mem_cons, rest.complete]
    by_cases same : index = other
    · subst same
      rw [written, best.found, Prod.mk.injEq, Option.some.injEq, Option.some.injEq]
      constructor
      · rintro (⟨-, rfl⟩ | ⟨rfl, isEligible⟩)
        · exact ⟨rfl, best.isEligible⟩
        · rw [unmarked] at isEligible
          contradiction
      · rintro ⟨rfl, -⟩
        exact .inl ⟨rfl, rfl⟩
    · rw [List.getElem?_set_ne same, Prod.mk.injEq]
      constructor
      · rintro (⟨equal, -⟩ | there)
        · exact absurd equal.symm same
        · exact there
      · intro there
        exact .inr there
  · rw [List.pairwise_cons]
    refine ⟨?_, rest.sorted⟩
    rintro ⟨other, rival⟩ member
    obtain ⟨atOther, isEligible⟩ := (rest.complete other rival).mp member
    have different : index ≠ other := by
      rintro rfl
      rw [written, Option.some.injEq] at atOther
      rw [← atOther, unmarked] at isEligible
      contradiction
    rw [List.getElem?_set_ne different] at atOther
    have inside := (List.getElem?_eq_some_iff.mp atOther).1
    have least := best.least other rival atOther inside isEligible
    rcases Nat.lt_or_ge other index with before | behind
    · exact .inl (best.first other rival atOther before isEligible)
    · rcases Nat.lt_or_eq_of_le least with smaller | equal
      · exact .inl smaller
      · exact .inr ⟨equal, Nat.lt_of_le_of_ne behind different⟩

theorem ranked_nil {items : List α} (nothing : bestIndex eligible key items = none) :
    Ranked eligible key items [] := by
  have none := bestIndex_none nothing
  refine ⟨fun index item => ⟨fun member => by contradiction, ?_⟩, List.Pairwise.nil⟩
  rintro ⟨atIndex, isEligible⟩
  rw [none item (List.mem_of_getElem? atIndex)] at isEligible
  contradiction

/-- As long as a mark ends eligibility, the picks go through the ranking once. -/
theorem picks_ranked (unmarks : ∀ item, eligible item = true → eligible (mark item) = false)
    (items : List α) :
    ∃ order, Ranked eligible key items order ∧ ∀ count,
      picks eligible key mark count items =
        (order.take count).map some ++ List.replicate (count - order.length) none := by
  -- every pick leaves one eligible element fewer
  induction left : items.countP eligible generalizing items with
  | zero =>
      cases found : bestIndex eligible key items with
      | none => exact ⟨[], ranked_nil found, fun count => by simp [picks_none found]⟩
      | some index =>
          obtain ⟨item, best⟩ := bestIndex_some found
          have none := List.countP_eq_zero.mp left item (List.mem_of_getElem? best.found)
          exact absurd best.isEligible none
  | succ fewer inductionHypothesis =>
      cases found : bestIndex eligible key items with
      | none => exact ⟨[], ranked_nil found, fun count => by simp [picks_none found]⟩
      | some index =>
          obtain ⟨item, best, picked⟩ : ∃ item, BestOf eligible key items items.length index item ∧
              pickBest eligible key mark items = _ := pickBest_some found
          have unmarked := unmarks item best.isEligible
          obtain ⟨below, isItem⟩ := List.getElem?_eq_some_iff.mp best.found
          have counted : (items.set index (mark item)).countP eligible = fewer := by
            rw [List.countP_set below, isItem, best.isEligible, unmarked, left]
            rfl
          obtain ⟨order, ranked, rest⟩ := inductionHypothesis _ counted
          refine ⟨(index, item) :: order, ranked.cons best unmarked, fun count => ?_⟩
          cases count with
          | zero => simp [picks]
          | succ count =>
              rw [picks, picked, rest count, List.take_succ_cons, List.map_cons, List.length_cons,
                Nat.add_sub_add_right]
              rfl

end Picks

end Library
