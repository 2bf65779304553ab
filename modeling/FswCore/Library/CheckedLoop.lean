import FswCore.Library.CheckedAccess

/-!
Contract: loops of array code in which every access is checked.

Owns:
- a loop run for a number of rounds, where rounds that did not suffice are told apart
  from an end;
- the rule for a loop with an invariant and a variant.

Does not own: what a round does.
-/

namespace Library

universe u

variable {σ ρ : Type u}

/-- A round goes on from a next state or ends in a result; `none` is a loop that has not
ended yet. -/
def loopChecked (round : σ → Except AccessFault (σ ⊕ ρ)) : Nat → σ → Except AccessFault (Option ρ)
  | 0, _ => .ok none
  | rounds + 1, state => do
      let after ← round state
      match after with
      | .inl next => loopChecked round rounds next
      | .inr result => pure (some result)

/-- The code ends, without a fault, as it should. -/
def EndsRight (checked : Except AccessFault (Option ρ)) (right : ρ → Prop) : Prop :=
  ∃ result, checked = .ok (some result) ∧ right result

/-- What holds in front of every round, what every round makes smaller, and which results
are right for a state. -/
structure LoopSpec (σ ρ : Type u) where
  invariant : σ → Prop
  variant : σ → Nat
  right : σ → ρ → Prop

/-- Without a fault a round ends in a result that is right for its state, or comes closer
to the end. -/
inductive RoundRight (spec : LoopSpec σ ρ) (state : σ) : Except AccessFault (σ ⊕ ρ) → Prop where
  | ends (result : ρ) (isRight : spec.right state result) :
      RoundRight spec state (.ok (.inr result))
  | continues (next : σ) (kept : spec.invariant next)
      (closer : spec.variant next < spec.variant state)
      (carried : ∀ result, spec.right next result → spec.right state result) :
      RoundRight spec state (.ok (.inl next))

/-- A check that ends the loop. -/
theorem roundRight_guard {spec : LoopSpec σ ρ} {state : σ} {guard : Prop} [Decidable guard]
    {result : ρ} {rest : Except AccessFault (σ ⊕ ρ)}
    (isRight : guard → spec.right state result) (otherwise : ¬guard → RoundRight spec state rest) :
    RoundRight spec state (if guard then pure (.inr result) else rest) := by
  by_cases stops : guard
  · rw [if_pos stops]
    exact .ends result (isRight stops)
  · rw [if_neg stops]
    exact otherwise stops

theorem loopChecked_ends {round : σ → Except AccessFault (σ ⊕ ρ)} {spec : LoopSpec σ ρ}
    (rule : ∀ state, spec.invariant state → RoundRight spec state (round state)) {state : σ}
    (holds : spec.invariant state) {rounds : Nat} (enough : spec.variant state < rounds) :
    EndsRight (loopChecked round rounds state) (spec.right state) := by
  induction rounds generalizing state with
  | zero => exact absurd enough (Nat.not_lt_zero _)
  | succ rounds inductionHypothesis =>
      have once := rule state holds
      rw [loopChecked]
      generalize round state = after at once
      cases once with
      | ends result isRight => exact ⟨result, rfl, isRight⟩
      | continues next kept closer carried =>
          obtain ⟨result, later, isRight⟩ := inductionHypothesis kept (by omega)
          exact ⟨result, later, carried result isRight⟩

/-! ### A counter of 16 bits -/

section Counter

variable {i count : UInt16}

/-- Below its bound it does not wrap. -/
theorem counter_next (below : i < count) : (i + 1).toNat = i.toNat + 1 := by
  have inside := UInt16.lt_iff_toNat_lt.mp below
  have small := count.toNat_lt
  rw [UInt16.toNat_add, UInt16.toNat_one]
  omega

theorem counter_le (below : i < count) : i + 1 ≤ count := by
  rw [UInt16.le_iff_toNat_le, counter_next below]
  exact UInt16.lt_iff_toNat_lt.mp below

theorem counter_left (below : i < count) :
    count.toNat - i.toNat = count.toNat - (i + 1).toNat + 1 := by
  have inside := UInt16.lt_iff_toNat_lt.mp below
  rw [counter_next below]
  omega

theorem counter_closer (below : i < count) :
    count.toNat - (i + 1).toNat < count.toNat - i.toNat := by
  rw [counter_left below]
  exact Nat.lt_succ_self _

/-- From zero on there are at most as many rounds as there are values. -/
theorem counter_few {rounds : Nat} (enough : 65536 ≤ rounds) (count : UInt16) :
    count.toNat - (0 : UInt16).toNat < rounds := by
  have small := count.toNat_lt
  omega

theorem counter_done (stopped : ¬i < count) : count.toNat - i.toNat = 0 := by
  rw [UInt16.lt_iff_toNat_lt] at stopped
  omega

end Counter

end Library
