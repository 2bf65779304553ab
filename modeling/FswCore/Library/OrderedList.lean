import Mathlib.Data.List.Basic

/-!
Contract: a threshold on an ordered list cuts it in two.

Owns: `takeWhile` and `dropWhile` of a predicate that is closed towards the
front are filters.
-/

namespace Library

variable {α : Type*} {related : α → α → Prop} {keep : α → Bool}

/-- Up to the first element that fails stand exactly the elements that pass. -/
theorem takeWhile_eq_filter {items : List α} (ordered : items.Pairwise related)
    (closed : ∀ earlier later, related earlier later → keep later = true → keep earlier = true) :
    items.takeWhile keep = items.filter keep := by
  induction ordered with
  | nil => rfl
  | @cons first rest firstRelated _ inductionHypothesis =>
      cases passes : keep first with
      | true => simp [passes, inductionHypothesis]
      | false =>
          have noneAfter : rest.filter keep = [] := by
            apply List.filter_eq_nil_iff.mpr
            intro later member kept
            have := closed first later (firstRelated later member) kept
            rw [passes] at this
            contradiction
          simp [passes, noneAfter]

theorem dropWhile_eq_filter {items : List α} (ordered : items.Pairwise related)
    (closed : ∀ earlier later, related earlier later → keep later = true → keep earlier = true) :
    items.dropWhile keep = items.filter fun item => !keep item := by
  induction ordered with
  | nil => rfl
  | @cons first rest firstRelated _ inductionHypothesis =>
      cases passes : keep first with
      | true => simp [passes, inductionHypothesis]
      | false =>
          have allAfter : rest.filter (fun item => !keep item) = rest := by
            apply List.filter_eq_self.mpr
            intro later member
            cases kept : keep later with
            | false => rfl
            | true =>
                have := closed first later (firstRelated later member) kept
                rw [passes] at this
                contradiction
          simp [passes, allAfter]

end Library
