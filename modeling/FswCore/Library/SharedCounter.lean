import FswCore.Library.Numbering
import Mathlib.Algebra.Group.Basic
import Mathlib.Tactic.Abel

/-!
Contract: labels that ought to come from one counter, drawn from two.

Owns:
- `CountsFrom`, labels that count on from a first one;
- `TwoCounters`, and what a run labels from one or the other of them;
- such labels count on exactly as long as only the counter that is drawn from has
  left its start.
-/

namespace Library

variable {G : Type*}

/-! ### Labels -/

/-- The labels count on by `one`, the first of them `first`. -/
def CountsFrom [Add G] (one : G) : G → List G → Prop
  | _, [] => True
  | first, label :: rest => label = first ∧ CountsFrom one (first + one) rest

/-- Each label is one on from the one before. -/
theorem isChain_iff_countsFrom [Add G] {one label : G} {rest : List G} :
    (label :: rest).IsChain (fun earlier later => later = earlier + one) ↔
      CountsFrom one label (label :: rest) := by
  induction rest generalizing label with
  | nil => simp [CountsFrom]
  | cons next rest inductionHypothesis =>
      rw [List.isChain_cons_cons, inductionHypothesis]
      simp only [CountsFrom, true_and]
      constructor
      · rintro ⟨rfl, counts⟩
        exact ⟨rfl, counts⟩
      · rintro ⟨rfl, counts⟩
        exact ⟨rfl, counts⟩

/-! ### Two counters -/

inductive CounterSide where
  | left
  | right
deriving DecidableEq, Repr

structure TwoCounters (G : Type*) where
  left : G
  right : G
deriving DecidableEq, Repr

namespace TwoCounters

/-- The counter on a side. -/
def own (counters : TwoCounters G) : CounterSide → G
  | .left => counters.left
  | .right => counters.right

/-- The counter on the other side. -/
def other (counters : TwoCounters G) : CounterSide → G
  | .left => counters.right
  | .right => counters.left

/-- The label that is drawn, if one is. -/
def drawn (counters : TwoCounters G) : Option CounterSide → List G
  | none => []
  | some side => [counters.own side]

/-- The counters after a draw. -/
def next [Add G] (one : G) (counters : TwoCounters G) : Option CounterSide → TwoCounters G
  | none => counters
  | some .left => { counters with left := counters.left + one }
  | some .right => { counters with right := counters.right + one }

/-- Both counters together. -/
def total [Add G] (counters : TwoCounters G) : G := counters.left + counters.right

/-- A draw while the other counter is at its start. -/
def OtherIdle [Zero G] (counters : TwoCounters G) (source : Option CounterSide) : Prop :=
  ∀ side, source = some side → counters.other side = 0

end TwoCounters

/-! ### Runs -/

variable {σ ι β : Type*}

/-- Every step of a run meets a condition on the state before it. -/
def AllSteps (step : σ → ι → σ × β) (Meets : σ → ι → Prop) : σ → List ι → Prop
  | _, [] => True
  | state, input :: rest => Meets state input ∧ AllSteps step Meets (step state input).1 rest

/-- A system whose outputs are labelled from two counters of its state. -/
structure LabelsFrom [Add G] (one : G) (step : σ → ι → σ × β) (Holds : σ → Prop)
    (counters : σ → TwoCounters G) (source : σ → ι → Option CounterSide)
    (labels : β → List G) : Prop where
  holds : ∀ state input, Holds state → Holds (step state input).1
  labels : ∀ state input, Holds state →
    labels (step state input).2 = (counters state).drawn (source state input)
  next : ∀ state input, Holds state →
    counters (step state input).1 = (counters state).next one (source state input)

variable [AddCommGroup G] {one : G} {step : σ → ι → σ × β} {Holds : σ → Prop}
  {counters : σ → TwoCounters G} {source : σ → ι → Option CounterSide} {labels : β → List G}

/-- Both counters together are the number of labels drawn, so that one of them is
that number if the other is at its start. -/
theorem TwoCounters.own_eq_total_iff (counters : TwoCounters G) (side : CounterSide) :
    counters.own side = counters.total ↔ counters.other side = 0 := by
  cases side <;> simp [own, other, total]

theorem TwoCounters.total_next (counters : TwoCounters G) (side : CounterSide) :
    (counters.next one (some side)).total = counters.total + one := by
  cases side <;> simp only [next, total] <;> abel

theorem LabelsFrom.countsFrom_iff (system : LabelsFrom one step Holds counters source labels)
    {state : σ} (holds : Holds state) (inputs : List ι) :
    CountsFrom one (counters state).total ((outputs step state inputs).2.flatMap labels) ↔
      AllSteps step (fun state input => (counters state).OtherIdle (source state input)) state
        inputs := by
  induction inputs generalizing state with
  | nil => exact Iff.rfl
  | cons input rest inductionHypothesis =>
      have later := inductionHypothesis (system.holds state input holds)
      simp only [outputs, List.flatMap_cons, AllSteps]
      rw [system.labels state input holds, ← later, system.next state input holds]
      generalize source state input = drew
      cases drew with
      | none => simp [TwoCounters.drawn, TwoCounters.OtherIdle, TwoCounters.next]
      | some side =>
          rw [TwoCounters.total_next]
          simp [TwoCounters.drawn, TwoCounters.OtherIdle, CountsFrom,
            TwoCounters.own_eq_total_iff]

/-- Drawn from two counters at their start, the first label is the start. -/
theorem LabelsFrom.head_eq (system : LabelsFrom one step Holds counters source labels)
    {state : σ} (holds : Holds state) (start : counters state = ⟨0, 0⟩) (inputs : List ι)
    {label : G} {rest : List G}
    (drawn : (outputs step state inputs).2.flatMap labels = label :: rest) : label = 0 := by
  induction inputs generalizing state with
  | nil => contradiction
  | cons input later inductionHypothesis =>
      simp only [outputs, List.flatMap_cons] at drawn
      rw [system.labels state input holds, start] at drawn
      have next := system.next state input holds
      rw [start] at next
      generalize source state input = drew at drawn next
      cases drew with
      | none => exact inductionHypothesis (system.holds state input holds) next drawn
      | some side =>
          have first := (List.cons.inj drawn).1
          rw [← first]
          cases side <;> rfl

/-- Each label is one on from the one before exactly as long as no label is drawn
while the other counter has left its start. -/
theorem LabelsFrom.isChain_iff (system : LabelsFrom one step Holds counters source labels)
    {state : σ} (holds : Holds state) (start : counters state = ⟨0, 0⟩) (inputs : List ι) :
    ((outputs step state inputs).2.flatMap labels).IsChain
        (fun earlier later => later = earlier + one) ↔
      AllSteps step (fun state input => (counters state).OtherIdle (source state input)) state
        inputs := by
  have total : (counters state).total = 0 := by
    rw [start]
    exact add_zero 0
  rw [← system.countsFrom_iff holds inputs, total]
  cases drawn : (outputs step state inputs).2.flatMap labels with
  | nil => simp [CountsFrom]
  | cons label rest =>
      rw [isChain_iff_countsFrom, system.head_eq holds start inputs drawn]

end Library
