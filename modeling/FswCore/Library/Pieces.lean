import Mathlib.Data.List.Infix

/-!
Contract: pieces taken out of a stream, in order and without overlap.

Owns:
- `Pieces`, the pieces and the gaps between them;
- each piece is a contiguous run of the stream.
-/

namespace Library

variable {α : Type*}

/-- The stream is gaps and pieces in turn, with a tail behind them. -/
inductive Pieces : List (List α) → List α → Prop where
  | nil (tail : List α) : Pieces [] tail
  | cons (gap piece : List α) {pieces : List (List α)} {rest : List α}
      (others : Pieces pieces rest) : Pieces (piece :: pieces) (gap ++ piece ++ rest)

namespace Pieces

/-- Items in front only lengthen the first gap. -/
theorem prepend {pieces : List (List α)} {stream : List α} (taken : Pieces pieces stream)
    (front : List α) : Pieces pieces (front ++ stream) := by
  cases taken with
  | nil tail => exact .nil _
  | cons gap piece others =>
      rw [← List.append_assoc, ← List.append_assoc]
      exact .cons (front ++ gap) piece others

/-- A piece at the very front. -/
theorem first (piece : List α) {pieces : List (List α)} {rest : List α}
    (others : Pieces pieces rest) : Pieces (piece :: pieces) (piece ++ rest) :=
  .cons [] piece others

theorem isInfix {pieces : List (List α)} {stream piece : List α} (taken : Pieces pieces stream)
    (member : piece ∈ pieces) : piece <:+: stream := by
  induction taken with
  | nil tail => exact absurd member List.not_mem_nil
  | cons gap here others inductionHypothesis =>
      rcases List.mem_cons.mp member with rfl | later
      · exact ⟨gap, _, rfl⟩
      · exact (inductionHypothesis later).trans (List.suffix_append _ _).isInfix

end Pieces

end Library
