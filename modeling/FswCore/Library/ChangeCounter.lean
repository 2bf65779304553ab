import Mathlib.Data.List.Basic
import Mathlib.Data.Nat.ModEq

/-!
Contract: a wrapping counter that a system advances when what it exposes may
have changed.

Owns:
- `CountsChanges`, the discipline of one step;
- `advances`, how often a run advances the counter;
- a run that does not take the counter all the way round shows the same value at
  two points only where it exposes the same.
-/

namespace Library

variable {σ ε β : Type*} {step : σ → ε → σ} {modulus : Nat} {counter : σ → Nat} {observe : σ → β}

/-- A step leaves the counter and the observation alone, or advances the counter. -/
structure CountsChanges (step : σ → ε → σ) (modulus : Nat) (counter : σ → Nat)
    (observe : σ → β) : Prop where
  wide : 1 < modulus
  bounded : ∀ state, counter state < modulus
  stepped : ∀ state event,
    (counter (step state event) = counter state ∧ observe (step state event) = observe state) ∨
      counter (step state event) = (counter state + 1) % modulus

/-- The number of steps of a run that change the counter. -/
def advances (step : σ → ε → σ) (counter : σ → Nat) : σ → List ε → Nat
  | _, [] => 0
  | state, event :: rest =>
      (if counter (step state event) = counter state then 0 else 1) +
        advances step counter (step state event) rest

theorem advances_append (start : σ) (first second : List ε) :
    advances step counter start (first ++ second) =
      advances step counter start first +
        advances step counter (first.foldl step start) second := by
  induction first generalizing start with
  | nil => simp [advances]
  | cons event rest inductionHypothesis =>
      rw [List.cons_append, advances, advances, inductionHypothesis, List.foldl_cons, Nat.add_assoc]

theorem advances_le_length (step : σ → ε → σ) (counter : σ → Nat) (start : σ) (events : List ε) :
    advances step counter start events ≤ events.length := by
  induction events generalizing start with
  | nil => exact Nat.le_refl 0
  | cons event rest inductionHypothesis =>
      have after := inductionHypothesis (step start event)
      rw [advances, List.length_cons]
      split <;> omega

theorem advances_take_drop (start : σ) (events : List ε) {earlier later : Nat}
    (ordered : earlier ≤ later) :
    advances step counter ((events.take earlier).foldl step start)
        ((events.take later).drop earlier) ≤ advances step counter start events := by
  have whole : events = events.take earlier ++ (events.take later).drop earlier ++
      events.drop later := by
    have first : (events.take later).take earlier = events.take earlier := by
      rw [List.take_take, Nat.min_eq_left ordered]
    rw [← first, List.take_append_drop, List.take_append_drop]
  conv_rhs => rw [whole]
  rw [advances_append, advances_append]
  omega

namespace CountsChanges

theorem step_ne (counts : CountsChanges step modulus counter observe) (state : σ) :
    (counter state + 1) % modulus ≠ counter state := by
  have wide := counts.wide
  have bounded := counts.bounded state
  by_cases last : counter state + 1 = modulus
  · rw [last, Nat.mod_self]
    omega
  · rw [Nat.mod_eq_of_lt (by omega)]
    omega

/-- The counter's value says how often it was advanced; one never advanced leaves
the observation alone. -/
theorem run (counts : CountsChanges step modulus counter observe) (start : σ) (events : List ε) :
    counter (events.foldl step start) =
        (counter start + advances step counter start events) % modulus ∧
      (advances step counter start events = 0 →
        observe (events.foldl step start) = observe start) := by
  induction events generalizing start with
  | nil => exact ⟨(Nat.mod_eq_of_lt (counts.bounded start)).symm, fun _ => rfl⟩
  | cons event rest inductionHypothesis =>
      obtain ⟨value, unchanged⟩ := inductionHypothesis (step start event)
      rw [List.foldl_cons, advances]
      rcases counts.stepped start event with ⟨same, observed⟩ | advanced
      · rw [if_pos same, Nat.zero_add]
        rw [same] at value
        exact ⟨value, fun none => (unchanged none).trans observed⟩
      · rw [if_neg (advanced ▸ counts.step_ne start)]
        refine ⟨?_, fun none => by omega⟩
        rw [value, advanced, Nat.mod_add_mod, Nat.add_assoc]

/-- Two points of a run that show the same count, short of a full turn of the
counter, expose the same. -/
theorem sound (counts : CountsChanges step modulus counter observe) {start : σ} {events : List ε}
    (few : advances step counter start events < modulus) {earlier later : Nat}
    (same : counter ((events.take earlier).foldl step start) =
      counter ((events.take later).foldl step start)) :
    observe ((events.take earlier).foldl step start) =
      observe ((events.take later).foldl step start) := by
  wlog ordered : earlier ≤ later generalizing earlier later
  · exact (this same.symm (Nat.le_of_not_le ordered)).symm
  have between : advances step counter ((events.take earlier).foldl step start)
      ((events.take later).drop earlier) < modulus :=
    Nat.lt_of_le_of_lt (advances_take_drop start events ordered) few
  have joined : (events.take later).foldl step start =
      ((events.take later).drop earlier).foldl step ((events.take earlier).foldl step start) := by
    rw [← List.foldl_append, ← Nat.min_eq_left ordered, ← List.take_take, Nat.min_eq_left ordered,
      List.take_append_drop]
  rw [joined] at same ⊢
  obtain ⟨value, unchanged⟩ :=
    counts.run ((events.take earlier).foldl step start) ((events.take later).drop earlier)
  symm
  apply unchanged
  -- a count that comes back after less than a full turn was not advanced
  rw [value, ← Nat.mod_eq_of_lt (counts.bounded ((events.take earlier).foldl step start)),
    Nat.mod_add_mod] at same
  have turns : advances step counter ((events.take earlier).foldl step start)
      ((events.take later).drop earlier) ≡ 0 [MOD modulus] :=
    Nat.ModEq.add_left_cancel' _ same.symm
  exact Nat.eq_zero_of_dvd_of_lt (Nat.modEq_zero_iff_dvd.mp turns) between

end CountsChanges

end Library
