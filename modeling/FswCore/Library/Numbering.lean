import Mathlib.Data.List.Basic

/-!
Contract: items numbered by a counter that wraps.

Owns:
- `Numbered`, items that carry consecutive numbers modulo a bound;
- `Advances`, a counter moved on by exactly the items it numbered, and that this
  composes along a run in which each step emits a group of items.
-/

namespace Library

variable {α β σ ι : Type*} (carries : α → Nat → Prop) (modulus : Nat)

/-- The items carry consecutive numbers, the first one `start`. -/
def Numbered (start : Nat) (items : List α) : Prop :=
  ∀ index item, items[index]? = some item → carries item ((start + index) % modulus)

/-- The items are numbered on from `before`, and the counter is left behind them. -/
structure Advances (before : Nat) (items : List α) (after : Nat) : Prop where
  numbered : Numbered carries modulus before items
  counted : after = (before + items.length) % modulus

variable {carries modulus}

theorem Numbered.append {start : Nat} {first second : List α}
    (front : Numbered carries modulus start first)
    (back : Numbered carries modulus ((start + first.length) % modulus) second) :
    Numbered carries modulus start (first ++ second) := by
  intro index item read
  rw [List.getElem?_append] at read
  split at read
  · exact front index item read
  · rename_i beyond
    have number := back (index - first.length) item read
    rw [Nat.mod_add_mod, Nat.add_assoc, Nat.add_sub_cancel' (Nat.le_of_not_lt beyond)] at number
    exact number

/-- No item, and the counter stays. -/
theorem Advances.none {count : Nat} (small : count < modulus) :
    Advances carries modulus count [] count where
  numbered := by
    intro index item read
    rw [List.getElem?_nil] at read
    contradiction
  counted := (Nat.mod_eq_of_lt small).symm

/-- One item, with the number the counter shows. -/
theorem Advances.one {before after : Nat} {item : α} (small : before < modulus)
    (number : carries item before) (next : after = (before + 1) % modulus) :
    Advances carries modulus before [item] after where
  numbered := by
    intro index other read
    cases index with
    | zero =>
        obtain rfl := Option.some.inj read
        rw [Nat.add_zero, Nat.mod_eq_of_lt small]
        exact number
    | succ index =>
        rw [List.getElem?_cons_succ, List.getElem?_nil] at read
        contradiction
  counted := next

theorem Advances.append {before middle after : Nat} {first second : List α}
    (front : Advances carries modulus before first middle)
    (back : Advances carries modulus middle second after) :
    Advances carries modulus before (first ++ second) after where
  numbered := front.numbered.append (front.counted ▸ back.numbered)
  counted := by
    rw [back.counted, front.counted, List.length_append, Nat.mod_add_mod, Nat.add_assoc]

/-- The outputs of a run, and the state behind it. -/
def outputs (step : σ → ι → σ × β) : σ → List ι → σ × List β
  | state, [] => (state, [])
  | state, input :: rest =>
      let (next, output) := step state input
      let (final, later) := outputs step next rest
      (final, output :: later)

/-- A run of two strings of inputs is the run of the second behind that of the first. -/
theorem outputs_append (step : σ → ι → σ × β) (state : σ) (first second : List ι) :
    outputs step state (first ++ second) =
      ((outputs step (outputs step state first).1 second).1,
        (outputs step state first).2 ++ (outputs step (outputs step state first).1 second).2) := by
  induction first generalizing state with
  | nil => rfl
  | cons input rest inductionHypothesis =>
      simp only [List.cons_append, outputs, inductionHypothesis]

/-- Steps that agree on related states make runs that do. -/
theorem outputs_simulates {τ : Type*} {step : σ → ι → σ × β} {other : τ → ι → τ × β}
    {Related : σ → τ → Prop}
    (simulates : ∀ state image input, Related state image →
      (step state input).2 = (other image input).2 ∧
        Related (step state input).1 (other image input).1)
    {state : σ} {image : τ} (related : Related state image) (inputs : List ι) :
    (outputs step state inputs).2 = (outputs other image inputs).2 ∧
      Related (outputs step state inputs).1 (outputs other image inputs).1 := by
  induction inputs generalizing state image with
  | nil => exact ⟨rfl, related⟩
  | cons input rest inductionHypothesis =>
      obtain ⟨output, next⟩ := simulates state image input related
      obtain ⟨outputsSame, final⟩ := inductionHypothesis next
      refine ⟨?_, final⟩
      simp only [outputs, output, outputsSame]

/-- If every step emits a group of items and moves the counter on by it, a run emits
one group a step, all numbered in order. -/
theorem outputs_advances {step : σ → ι → σ × β} {Holds : σ → Prop} {Admits : ι → Prop}
    {count : σ → Nat} {join : List α → β}
    (small : ∀ state, Holds state → count state < modulus)
    (each : ∀ state input, Holds state → Admits input →
      Holds (step state input).1 ∧ ∃ items, join items = (step state input).2 ∧
        Advances carries modulus (count state) items (count (step state input).1))
    {state : σ} (holds : Holds state) (inputs : List ι) (admits : ∀ input ∈ inputs, Admits input) :
    Holds (outputs step state inputs).1 ∧ ∃ groups : List (List α),
      groups.map join = (outputs step state inputs).2 ∧
      Advances carries modulus (count state) groups.flatten
        (count (outputs step state inputs).1) := by
  induction inputs generalizing state with
  | nil => exact ⟨holds, [], rfl, .none (small state holds)⟩
  | cons input rest inductionHypothesis =>
      obtain ⟨first, later⟩ := List.forall_mem_cons.mp admits
      obtain ⟨next, items, joined, front⟩ := each state input holds first
      obtain ⟨final, groups, outputs, back⟩ := inductionHypothesis next later
      refine ⟨final, items :: groups, ?_, front.append back⟩
      exact congrArg₂ List.cons joined outputs

end Library
