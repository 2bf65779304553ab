import Mathlib.Data.List.Basic

/-!
Contract: a bounded queue that drops the newest item when it is full.

Owns:
- the queue, an offer and a take, and runs of both;
- what was accepted is what was taken with what is still queued behind it, in
  order, and every other offer is counted as dropped.
-/

namespace Library

variable {α : Type*}

/-- The queued items, oldest first, and how many found no room. -/
structure BoundedQueue (α : Type*) where
  items : List α
  dropped : Nat

namespace BoundedQueue

def empty : BoundedQueue α := { items := [], dropped := 0 }

/-- Whether an item finds room. -/
def Free (capacity : Nat) (queue : BoundedQueue α) : Prop := queue.items.length < capacity

instance (capacity : Nat) (queue : BoundedQueue α) : Decidable (queue.Free capacity) :=
  inferInstanceAs (Decidable (queue.items.length < capacity))

def offer (capacity : Nat) (queue : BoundedQueue α) (item : α) : BoundedQueue α :=
  if queue.Free capacity then { queue with items := queue.items ++ [item] }
  else { queue with dropped := queue.dropped + 1 }

def take (queue : BoundedQueue α) : Option α × BoundedQueue α :=
  (queue.items.head?, { queue with items := queue.items.tail })

inductive Call (α : Type*) where
  | offer (item : α)
  | take

/-- The queue behind a call. -/
def after (capacity : Nat) (queue : BoundedQueue α) : Call α → BoundedQueue α
  | .offer item => queue.offer capacity item
  | .take => queue.take.2

/-- What a call takes. -/
def taken (queue : BoundedQueue α) : Call α → List α
  | .offer _ => []
  | .take => queue.take.1.toList

/-- What a call gets accepted. -/
def accepted (capacity : Nat) (queue : BoundedQueue α) : Call α → List α
  | .offer item => if queue.Free capacity then [item] else []
  | .take => []

/-! ### Runs -/

def run (capacity : Nat) (queue : BoundedQueue α) (calls : List (Call α)) : BoundedQueue α :=
  calls.foldl (after capacity) queue

def runTaken (capacity : Nat) (queue : BoundedQueue α) : List (Call α) → List α
  | [] => []
  | call :: rest => queue.taken call ++ runTaken capacity (queue.after capacity call) rest

def runAccepted (capacity : Nat) (queue : BoundedQueue α) : List (Call α) → List α
  | [] => []
  | call :: rest =>
      queue.accepted capacity call ++ runAccepted capacity (queue.after capacity call) rest

/-- The items that were offered. -/
def offered (calls : List (Call α)) : List α :=
  calls.flatMap fun call =>
    match call with
    | .offer item => [item]
    | .take => []

theorem offered_append (first second : List (Call α)) :
    offered (first ++ second) = offered first ++ offered second :=
  List.flatMap_append

theorem offered_offers (items : List α) : offered (items.map .offer) = items := by
  rw [offered, List.flatMap_map]
  exact List.flatMap_singleton' items

variable {capacity : Nat}

theorem run_append (queue : BoundedQueue α) (first second : List (Call α)) :
    queue.run capacity (first ++ second) = (queue.run capacity first).run capacity second :=
  List.foldl_append

theorem runTaken_append (queue : BoundedQueue α) (first second : List (Call α)) :
    queue.runTaken capacity (first ++ second) =
      queue.runTaken capacity first ++ (queue.run capacity first).runTaken capacity second := by
  induction first generalizing queue with
  | nil => rfl
  | cons call rest inductionHypothesis =>
      rw [List.cons_append, runTaken, inductionHypothesis, runTaken, List.append_assoc]
      rfl

theorem runTaken_offers (queue : BoundedQueue α) (items : List α) :
    queue.runTaken capacity (items.map .offer) = [] := by
  induction items generalizing queue with
  | nil => rfl
  | cons item rest inductionHypothesis =>
      rw [List.map_cons, runTaken, inductionHypothesis]
      rfl

theorem run_offers (queue : BoundedQueue α) (items : List α) :
    queue.run capacity (items.map .offer) = items.foldl (offer capacity) queue := by
  rw [run, List.foldl_map]
  rfl

/-- One call: what is accepted comes behind, what is taken was in front. -/
theorem after_conserved (capacity : Nat) (queue : BoundedQueue α) (call : Call α) :
    queue.items ++ queue.accepted capacity call =
      queue.taken call ++ (queue.after capacity call).items := by
  cases call with
  | offer item =>
      rw [accepted, taken, after, offer]
      split
      · rfl
      · rw [List.append_nil, List.nil_append]
  | take =>
      rw [accepted, taken, after, take, List.append_nil]
      cases queue.items <;> rfl

/-- What was accepted is what was taken and what is queued, in order. -/
theorem run_conserved (capacity : Nat) (queue : BoundedQueue α) (calls : List (Call α)) :
    queue.items ++ queue.runAccepted capacity calls =
      queue.runTaken capacity calls ++ (queue.run capacity calls).items := by
  induction calls generalizing queue with
  | nil =>
      rw [runAccepted, runTaken, List.append_nil, List.nil_append]
      rfl
  | cons call rest inductionHypothesis =>
      rw [runAccepted, runTaken, ← List.append_assoc, after_conserved, List.append_assoc,
        inductionHypothesis, List.append_assoc]
      rfl

theorem after_bounded {queue : BoundedQueue α} (bounded : queue.items.length ≤ capacity)
    (call : Call α) : (queue.after capacity call).items.length ≤ capacity := by
  cases call with
  | offer item =>
      rw [after, offer]
      split
      · rename_i free
        rw [List.length_append, List.length_singleton]
        exact free
      · exact bounded
  | take =>
      rw [after, take, List.length_tail]
      omega

theorem run_bounded {queue : BoundedQueue α} (bounded : queue.items.length ≤ capacity)
    (calls : List (Call α)) : (queue.run capacity calls).items.length ≤ capacity := by
  induction calls generalizing queue with
  | nil => exact bounded
  | cons call rest inductionHypothesis => exact inductionHypothesis (after_bounded bounded call)

/-- A full queue drops whatever is offered. -/
theorem foldl_offer_full {queue : BoundedQueue α} (full : ¬queue.Free capacity)
    (items : List α) : items.foldl (offer capacity) queue =
      { queue with dropped := queue.dropped + items.length } := by
  induction items generalizing queue with
  | nil => rfl
  | cons item rest inductionHypothesis =>
      have dropped : queue.offer capacity item = { queue with dropped := queue.dropped + 1 } :=
        if_neg full
      have stillFull : ¬({ queue with dropped := queue.dropped + 1 }).Free capacity := full
      rw [List.foldl_cons, dropped, inductionHypothesis stillFull, List.length_cons,
        Nat.add_assoc, Nat.add_comm 1]

/-- One call: an offer is accepted or dropped. -/
theorem after_counted (capacity : Nat) (queue : BoundedQueue α) (call : Call α) :
    (queue.after capacity call).dropped + (queue.accepted capacity call).length =
      queue.dropped + (offered [call]).length := by
  cases call with
  | offer item =>
      rw [accepted, after, offer]
      split <;> simp [offered]
  | take => rfl

/-- What is accepted was offered, in that order. -/
theorem runAccepted_sublist (capacity : Nat) (queue : BoundedQueue α) (calls : List (Call α)) :
    (queue.runAccepted capacity calls).Sublist (offered calls) := by
  induction calls generalizing queue with
  | nil => exact List.nil_sublist _
  | cons call rest inductionHypothesis =>
      have one : (queue.accepted capacity call).Sublist (offered [call]) := by
        cases call with
        | offer item =>
            rw [accepted]
            split
            · exact List.Sublist.refl _
            · exact List.nil_sublist _
        | take => exact List.nil_sublist _
      have joined := one.append (inductionHypothesis (queue.after capacity call))
      rw [← offered_append] at joined
      exact joined

theorem dropped_le_run (capacity : Nat) (queue : BoundedQueue α) (calls : List (Call α)) :
    queue.dropped ≤ (queue.run capacity calls).dropped := by
  induction calls generalizing queue with
  | nil => exact Nat.le_refl _
  | cons call rest inductionHypothesis =>
      refine Nat.le_trans ?_ (inductionHypothesis (queue.after capacity call))
      cases call with
      | offer item =>
          rw [after, offer]
          split
          · exact Nat.le_refl _
          · exact Nat.le_succ _
      | take => exact Nat.le_refl _

/-- Every offer is accepted or counted as dropped. -/
theorem run_counted (capacity : Nat) (queue : BoundedQueue α) (calls : List (Call α)) :
    (queue.run capacity calls).dropped + (queue.runAccepted capacity calls).length =
      queue.dropped + (offered calls).length := by
  induction calls generalizing queue with
  | nil => rfl
  | cons call rest inductionHypothesis =>
      have step := after_counted capacity queue call
      have others := inductionHypothesis (queue.after capacity call)
      have split : (offered (call :: rest)).length =
          (offered [call]).length + (offered rest).length := by
        rw [← List.length_append]
        simp [offered]
      have unfolded : queue.run capacity (call :: rest) =
          (queue.after capacity call).run capacity rest := rfl
      rw [unfolded, runAccepted, List.length_append, split]
      omega

end BoundedQueue

end Library
