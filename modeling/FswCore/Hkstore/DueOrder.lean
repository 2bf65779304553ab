import FswCore.Hkstore.Invariant
import FswCore.Library.DistinctKeys

/-!
Contract: which structures the housekeeping store emits, and when.

Owns:
- `DueAt` and `DueOrder`, the structures due at one time and the order they are
  emitted in;
- calls at one time go through that order once and then return nothing;
- `HkstoreCall`, the calls of an application with a clock, and what a run of them
  does to a structure that it does not delete;
- two emissions of one structure are its interval apart.
-/

namespace FswCore

open Library

/-! ### Calls at one time -/

/-- The test of the scan. -/
def slotDue (nowSeconds : UInt32) : Option HkStructure → Bool
  | none => false
  | some held => held.enabled && held.intervalSec != 0 &&
      !decide (nowSeconds - held.lastEmitSec < held.intervalSec)

def slotAge : Option HkStructure → Nat
  | none => 0
  | some held => held.lastEmitSec.toNat

def HkStructure.emitted (held : HkStructure) (nowSeconds : UInt32) : HkStructure :=
  { held with lastEmitSec := nowSeconds }

/-- Enabled, periodic and not emitted for its interval. -/
structure DueAt (store : Hkstore) (nowSeconds : UInt32) (slot : Nat) (held : HkStructure) :
    Prop where
  stored : store.structures[slot]? = some (some held)
  enabled : held.enabled = true
  periodic : held.intervalSec ≠ 0
  elapsed : held.intervalSec ≤ nowSeconds - held.lastEmitSec

/-- Everything due, by last emission and, of equal ones, by slot. -/
structure DueOrder (store : Hkstore) (nowSeconds : UInt32) (order : List (Nat × HkStructure)) :
    Prop where
  complete : ∀ slot held, (slot, held) ∈ order ↔ DueAt store nowSeconds slot held
  sorted : order.Pairwise fun left right => left.2.lastEmitSec < right.2.lastEmitSec ∨
    left.2.lastEmitSec = right.2.lastEmitSec ∧ left.1 < right.1

/-- What `calls` calls at one time return. -/
def hkstoreDueReplies (nowSeconds : UInt32) : Nat → Hkstore → List (Option HkStructure)
  | 0, _ => []
  | calls + 1, store => (hkstoreDue store nowSeconds).1 ::
      hkstoreDueReplies nowSeconds calls (hkstoreDue store nowSeconds).2

theorem slotDue_iff (nowSeconds : UInt32) (held : HkStructure) :
    slotDue nowSeconds (some held) = true ↔ held.enabled = true ∧ held.intervalSec ≠ 0 ∧
      held.intervalSec ≤ nowSeconds - held.lastEmitSec := by
  simp [slotDue, and_assoc, UInt32.not_lt]

/-- The scan of the slots, over their due times and ages. -/
theorem hkstoreDue_scan (store : Hkstore) (nowSeconds : UInt32) :
    hkstoreDue store nowSeconds =
      match bestIndex (slotDue nowSeconds) slotAge store.structures with
      | none => (none, store)
      | some best =>
          match store.structures[best]? with
          | some (some held) => (some (held.emitted nowSeconds),
              { store with structures :=
                  store.structures.set best (some (held.emitted nowSeconds)) })
          | _ => (none, store) := rfl

/-- An emission is one pick of the scan. -/
theorem hkstoreDue_eq_pick (store : Hkstore) (nowSeconds : UInt32) :
    hkstoreDue store nowSeconds =
      ((pickBest (slotDue nowSeconds) slotAge (Option.map (·.emitted nowSeconds))
          store.structures).1.bind fun pick => pick.2.map (·.emitted nowSeconds),
        { store with structures := (pickBest (slotDue nowSeconds) slotAge
            (Option.map (·.emitted nowSeconds)) store.structures).2 }) := by
  rw [hkstoreDue_scan]
  cases found : bestIndex (slotDue nowSeconds) slotAge store.structures with
  | none => rw [pickBest_none found]; rfl
  | some best =>
      obtain ⟨slot, isBest, picked⟩ : ∃ slot, BestOf (slotDue nowSeconds) slotAge
          store.structures store.structures.length best slot ∧
          pickBest (slotDue nowSeconds) slotAge (Option.map (·.emitted nowSeconds))
            store.structures = _ := pickBest_some found
      rw [picked]
      cases slot with
      | none => exact absurd isBest.isEligible Bool.false_ne_true
      | some held => simp only [isBest.found]; rfl

theorem hkstoreDueReplies_eq_picks (nowSeconds : UInt32) (calls : Nat) (store : Hkstore) :
    hkstoreDueReplies nowSeconds calls store =
      (picks (slotDue nowSeconds) slotAge (Option.map (·.emitted nowSeconds)) calls
        store.structures).map
          fun reply => reply.bind fun pick => pick.2.map (·.emitted nowSeconds) := by
  induction calls generalizing store with
  | zero => rfl
  | succ calls inductionHypothesis =>
      rw [hkstoreDueReplies, picks, List.map_cons, inductionHypothesis, hkstoreDue_eq_pick]

/-- An emitted structure is not due before its interval has passed again. -/
theorem slotDue_emitted (nowSeconds : UInt32) (slot : Option HkStructure)
    (isDue : slotDue nowSeconds slot = true) :
    slotDue nowSeconds (slot.map (·.emitted nowSeconds)) = false := by
  cases slot with
  | none => rfl
  | some held =>
      obtain ⟨_, periodic, _⟩ := (slotDue_iff nowSeconds held).mp isDue
      rw [Option.map_some, Bool.eq_false_iff, ne_eq, slotDue_iff]
      rintro ⟨_, _, elapsed⟩
      rw [HkStructure.emitted, UInt32.sub_self] at elapsed
      exact periodic (UInt32.le_zero_iff.mp elapsed)

/-- A ranking of the slots lists structures. -/
theorem dueOrder_of_ranked {store : Hkstore} {nowSeconds : UInt32}
    {ranking : List (Nat × Option HkStructure)}
    (ranked : Ranked (slotDue nowSeconds) slotAge store.structures ranking) :
    ∃ order, DueOrder store nowSeconds order ∧
      ranking = order.map fun due => (due.1, some due.2) := by
  have allHeld (entries : List (Nat × Option HkStructure))
      (isDue : ∀ entry ∈ entries, slotDue nowSeconds entry.2 = true) :
      ∃ order : List (Nat × HkStructure), entries = order.map fun due => (due.1, some due.2) := by
    induction entries with
    | nil => exact ⟨[], rfl⟩
    | cons entry rest inductionHypothesis =>
        obtain ⟨order, rfl⟩ := inductionHypothesis fun other member =>
          isDue other (List.mem_cons_of_mem _ member)
        obtain ⟨slot, content⟩ := entry
        cases content with
        | none => exact absurd (isDue _ List.mem_cons_self) Bool.false_ne_true
        | some held => exact ⟨(slot, held) :: order, rfl⟩
  obtain ⟨order, rfl⟩ := allHeld ranking fun entry member =>
    ((ranked.complete entry.1 entry.2).mp member).2
  refine ⟨order, ⟨?_, ?_⟩, rfl⟩
  · intro slot held
    have listed := ranked.complete slot (some held)
    have inOrder : (slot, some held) ∈ order.map (fun due => (due.1, some due.2)) ↔
        (slot, held) ∈ order := by
      simp [List.mem_map]
    rw [inOrder, slotDue_iff] at listed
    rw [listed]
    constructor
    · rintro ⟨stored, enabled, periodic, elapsed⟩
      exact ⟨stored, enabled, periodic, elapsed⟩
    · intro due
      exact ⟨due.stored, due.enabled, due.periodic, due.elapsed⟩
  · have sorted := ranked.sorted
    rw [List.pairwise_map] at sorted
    apply sorted.imp
    rintro left right (older | ⟨equal, lower⟩)
    · exact .inl (UInt32.lt_iff_toNat_lt.mpr older)
    · exact .inr ⟨UInt32.toNat_inj.mp equal, lower⟩

/-- Calls at one time return every structure that is due, once and in order, and
then nothing. -/
theorem hkstoreDueReplies_order (store : Hkstore) (nowSeconds : UInt32) :
    ∃ order, DueOrder store nowSeconds order ∧ ∀ calls,
      hkstoreDueReplies nowSeconds calls store =
        (order.take calls).map (fun due => some (due.2.emitted nowSeconds)) ++
          List.replicate (calls - order.length) none := by
  obtain ⟨ranking, ranked, replies⟩ := picks_ranked (slotDue_emitted nowSeconds) store.structures
  obtain ⟨order, isOrder, rfl⟩ := dueOrder_of_ranked ranked
  refine ⟨order, isOrder, fun calls => ?_⟩
  rw [hkstoreDueReplies_eq_picks, replies, List.map_append, List.map_replicate, List.length_map,
    ← List.map_take, List.map_map, List.map_map]
  rfl

/-! ### Calls over time -/

/-- A call of the application; the clock is in seconds and does not wrap. -/
inductive HkstoreCall where
  | create (sid : UInt16) (paramIds : List UInt16) (intervalSec : UInt32)
  | delete (sid : UInt16)
  | setEnabled (sid : UInt16) (enabled : Bool)
  | due (seconds : Nat)
deriving DecidableEq

/-- The store is given the low 32 bits of the clock. -/
def HkstoreCall.op : HkstoreCall → HkstoreOp
  | .create sid paramIds intervalSec => .create sid paramIds intervalSec
  | .delete sid => .delete sid
  | .setEnabled sid enabled => .setEnabled sid enabled
  | .due seconds => .due (UInt32.ofNat seconds)

def hkstoreCalls (cfg : Config) (store : Hkstore) (calls : List HkstoreCall) : Hkstore :=
  calls.foldl (fun store call => hkstoreApply cfg store call.op) store

/-- The times at which a run asks for a structure that is due. -/
def dueTimes (calls : List HkstoreCall) : List Nat :=
  calls.filterMap fun
    | .due seconds => some seconds
    | _ => none

/-- From `start` to `stop` the clock of a run does not go back. -/
def ClockForward (start : Nat) (calls : List HkstoreCall) (stop : Nat) : Prop :=
  (start :: (dueTimes calls ++ [stop])).Pairwise (· ≤ ·)

instance (start : Nat) (calls : List HkstoreCall) (stop : Nat) :
    Decidable (ClockForward start calls stop) :=
  inferInstanceAs (Decidable (List.Pairwise _ _))

theorem ClockForward.stop_ge {start stop : Nat} {calls : List HkstoreCall}
    (forward : ClockForward start calls stop) : start ≤ stop := by
  rw [ClockForward, List.pairwise_cons] at forward
  exact forward.1 stop (by simp)

/-- Whether a call asks for a structure or not, the clock goes on behind it. -/
theorem ClockForward.rest {start stop : Nat} {call : HkstoreCall} {calls : List HkstoreCall}
    (forward : ClockForward start (call :: calls) stop) :
    ClockForward start calls stop ∧ ∀ seconds, call = .due seconds →
      start ≤ seconds ∧ ClockForward seconds calls stop := by
  cases call with
  | due seconds =>
      have times : dueTimes (.due seconds :: calls) = seconds :: dueTimes calls := rfl
      rw [ClockForward, times, List.cons_append] at forward
      obtain ⟨fromStart, later⟩ := List.pairwise_cons.mp forward
      constructor
      · rw [ClockForward, List.pairwise_cons]
        exact ⟨fun time member => fromStart time (List.mem_cons_of_mem _ member),
          (List.pairwise_cons.mp later).2⟩
      · intro other same
        obtain rfl := HkstoreCall.due.inj same
        exact ⟨fromStart seconds List.mem_cons_self, later⟩
  | create sid paramIds intervalSec => exact ⟨forward, fun _ _ => by contradiction⟩
  | delete sid => exact ⟨forward, fun _ _ => by contradiction⟩
  | setEnabled sid enabled => exact ⟨forward, fun _ _ => by contradiction⟩

/-- What a call that does not delete a structure leaves of it: it has the same
interval, and its last emission is the old one or this one. -/
structure Continues (call : HkstoreCall) (held after : HkStructure) : Prop where
  interval : after.intervalSec = held.intervalSec
  lastEmit : after.lastEmitSec = held.lastEmitSec ∨
    ∃ seconds, call = .due seconds ∧ after.lastEmitSec = UInt32.ofNat seconds

/-- In a list where one structure is replaced, a lookup finds the old result or the
replacement. -/
theorem find?_replaced {left right : List HkStructure} {old new held : HkStructure}
    {sid : UInt16} (sameSid : new.sid = old.sid)
    (found : (left ++ old :: right).find? (fun held => held.sid == sid) = some held) :
    (left ++ new :: right).find? (fun held => held.sid == sid) = some held ∨
      held = old ∧ (left ++ new :: right).find? (fun held => held.sid == sid) = some new := by
  rw [List.find?_append, List.find?_cons] at found ⊢
  rw [sameSid]
  cases inLeft : left.find? fun held => held.sid == sid with
  | some first =>
      rw [inLeft, Option.some_or] at found
      exact .inl found
  | none =>
      rw [inLeft, Option.none_or] at found
      rw [Option.none_or]
      cases here : old.sid == sid with
      | true =>
          rw [here] at found
          exact .inr ⟨(Option.some.inj found).symm, rfl⟩
      | false =>
          rw [here] at found
          exact .inl found

/-- A structure that is found stays found when another one is created. -/
theorem CreateOk.find {cfg : Config} {store after : Hkstore} {sid other : UInt16}
    {paramIds : List UInt16} {intervalSec : UInt32} {held : HkStructure}
    (done : CreateOk cfg store other paramIds intervalSec after)
    (found : hkstoreFind store sid = some held) : hkstoreFind after sid = some held := by
  rw [hkstoreFind_eq] at found ⊢
  obtain ⟨left, right, split, result⟩ := done.change
  have isOther : other ≠ sid := by
    rintro rfl
    have absent := done.fresh
    rw [found] at absent
    contradiction
  rw [Hkstore.held, split, occupied_append, occupied_cons_none, List.find?_append] at found
  rw [Hkstore.held, result, occupied_append, occupied_cons_some, List.find?_append,
    List.find?_cons, beq_eq_false_iff_ne.mpr isOther]
  exact found

/-- And when another one is deleted. -/
theorem DeleteOk.find {store after : Hkstore} {sid other : UInt16} {held : HkStructure}
    (done : DeleteOk store other after) (different : other ≠ sid)
    (found : hkstoreFind store sid = some held) : hkstoreFind after sid = some held := by
  rw [hkstoreFind_eq] at found ⊢
  obtain ⟨left, target, right, split, isOther, result⟩ := done.change
  have skipped : target.sid ≠ sid := by rwa [isOther]
  rw [Hkstore.held, split, occupied_append, occupied_cons_some, List.find?_append,
    List.find?_cons, beq_eq_false_iff_ne.mpr skipped] at found
  rw [Hkstore.held, result, occupied_append, occupied_cons_none, List.find?_append]
  exact found

/-- One call, seen by a structure that it does not delete. -/
theorem hkstoreApply_continues {cfg : Config} {store : Hkstore} {sid : UInt16}
    {held : HkStructure} (found : hkstoreFind store sid = some held) (call : HkstoreCall)
    (notDeleted : call ≠ .delete sid) :
    ∃ after, hkstoreFind (hkstoreApply cfg store call.op) sid = some after ∧
      Continues call held after := by
  have unchanged : Continues call held held := ⟨rfl, .inl rfl⟩
  cases call with
  | create other paramIds intervalSec =>
      simp only [HkstoreCall.op, hkstoreApply]
      rcases hkstoreCreate_cases cfg store other paramIds intervalSec with ⟨_, same⟩ | ⟨_, done⟩
      · rw [same]
        exact ⟨held, found, unchanged⟩
      · exact ⟨held, done.find found, unchanged⟩
  | delete other =>
      simp only [HkstoreCall.op, hkstoreApply]
      rcases hkstoreDelete_cases store other with ⟨_, same, _⟩ | ⟨_, done⟩
      · rw [same]
        exact ⟨held, found, unchanged⟩
      · have different : other ≠ sid := fun same => notDeleted (congrArg HkstoreCall.delete same)
        exact ⟨held, done.find different found, unchanged⟩
  | setEnabled other enabled =>
      simp only [HkstoreCall.op, hkstoreApply]
      rcases hkstoreSetEnabled_cases store other enabled with ⟨_, same, _⟩ | ⟨_, same | done⟩
      · rw [same]
        exact ⟨held, found, unchanged⟩
      · rw [same]
        exact ⟨held, found, unchanged⟩
      · obtain ⟨left, target, right, split, _, result⟩ := done.change
        rw [hkstoreFind_eq, Hkstore.held, split, occupied_append, occupied_cons_some] at found
        rw [hkstoreFind_eq, Hkstore.held, result, occupied_append, occupied_cons_some]
        have sameSid : { target with enabled := enabled }.sid = target.sid := rfl
        rcases find?_replaced sameSid found with old | ⟨rfl, new⟩
        · exact ⟨held, old, unchanged⟩
        · exact ⟨_, new, rfl, .inl rfl⟩
  | due seconds =>
      simp only [HkstoreCall.op, hkstoreApply]
      rcases hkstoreDue_cases store (UInt32.ofNat seconds) with
        same | ⟨left, target, right, split, result⟩
      · rw [same]
        exact ⟨held, found, unchanged⟩
      · rw [hkstoreFind_eq, Hkstore.held, split, occupied_append, occupied_cons_some] at found
        rw [hkstoreFind_eq, result, Hkstore.held, occupied_append, occupied_cons_some]
        have sameSid : (target.emitted (UInt32.ofNat seconds)).sid = target.sid := rfl
        rcases find?_replaced sameSid found with old | ⟨rfl, new⟩
        · exact ⟨held, old, unchanged⟩
        · exact ⟨_, new, rfl, .inr ⟨seconds, rfl, rfl⟩⟩

theorem hkstoreCalls_wellFormed {cfg : Config} {store : Hkstore}
    (wellFormed : store.WellFormed cfg) (calls : List HkstoreCall) :
    (hkstoreCalls cfg store calls).WellFormed cfg := by
  apply List.foldlRecOn calls _ wellFormed
  intro store wellFormed call _
  exact hkstoreApply_wellFormed wellFormed call.op

/-- A run that does not delete a structure keeps its interval, and its last
emission, first at `start`, is within the run. -/
theorem hkstoreCalls_continues {cfg : Config} {store : Hkstore} {sid : UInt16}
    {held : HkStructure} {calls : List HkstoreCall} {start stop : Nat}
    (found : hkstoreFind store sid = some held) (armed : held.lastEmitSec = UInt32.ofNat start)
    (notDeleted : .delete sid ∉ calls) (forward : ClockForward start calls stop) :
    ∃ after last, hkstoreFind (hkstoreCalls cfg store calls) sid = some after ∧
      after.intervalSec = held.intervalSec ∧ after.lastEmitSec = UInt32.ofNat last ∧
      start ≤ last ∧ last ≤ stop := by
  induction calls generalizing store held start with
  | nil => exact ⟨held, start, found, rfl, armed, Nat.le_refl _, forward.stop_ge⟩
  | cons call rest inductionHypothesis =>
      rw [List.mem_cons, not_or] at notDeleted
      obtain ⟨next, nextFound, continues⟩ :
          ∃ next, hkstoreFind (hkstoreApply cfg store call.op) sid = some next ∧
            Continues call held next :=
        hkstoreApply_continues found call fun same => notDeleted.1 same.symm
      obtain ⟨onward, fromDue⟩ := forward.rest
      rcases continues.lastEmit with same | ⟨seconds, isDue, emitted⟩
      · obtain ⟨after, last, atEnd, interval, lastEmit, bounds⟩ :=
          inductionHypothesis nextFound (same.trans armed) notDeleted.2 onward
        exact ⟨after, last, atEnd, interval.trans continues.interval, lastEmit, bounds⟩
      · obtain ⟨afterStart, fromHere⟩ := fromDue seconds isDue
        obtain ⟨after, last, atEnd, interval, lastEmit, fromSeconds, toStop⟩ :=
          inductionHypothesis nextFound emitted notDeleted.2 fromHere
        exact ⟨after, last, atEnd, interval.trans continues.interval, lastEmit,
          Nat.le_trans afterStart fromSeconds, toStop⟩

/-- An emission is of a structure that was due. -/
theorem hkstoreDue_some {store : Hkstore} {nowSeconds : UInt32} {emitted : HkStructure}
    (selected : (hkstoreDue store nowSeconds).1 = some emitted) :
    ∃ slot held, DueAt store nowSeconds slot held ∧ emitted = held.emitted nowSeconds := by
  obtain ⟨order, isOrder, replies⟩ := hkstoreDueReplies_order store nowSeconds
  have first := replies 1
  rw [hkstoreDueReplies, hkstoreDueReplies, selected] at first
  cases order with
  | nil => simp at first
  | cons due rest =>
      have isFirst : emitted = due.2.emitted nowSeconds := by simpa using first
      exact ⟨due.1, due.2, (isOrder.complete due.1 due.2).mp List.mem_cons_self, isFirst⟩

/-- In a store with distinct identifiers, what is emitted is what a lookup finds. -/
theorem DueAt.find {cfg : Config} {store : Hkstore} {nowSeconds : UInt32} {slot : Nat}
    {held : HkStructure} (due : DueAt store nowSeconds slot held)
    (wellFormed : store.WellFormed cfg) : hkstoreFind store held.sid = some held := by
  have member : held ∈ store.held :=
    List.mem_filterMap.mpr ⟨some held, List.mem_of_getElem? due.stored, rfl⟩
  rw [hkstoreFind_eq]
  exact find?_key_of_mem wellFormed.distinct member

/-- A clock reading at least `interval` past an earlier one is that much later. -/
theorem le_of_elapsed {interval : UInt32} {earlier later : Nat} (ordered : earlier ≤ later)
    (elapsed : interval ≤ UInt32.ofNat later - UInt32.ofNat earlier) :
    earlier + interval.toNat ≤ later := by
  rw [← UInt32.ofNat_sub ordered, UInt32.le_iff_toNat_le, UInt32.toNat_ofNat'] at elapsed
  have bound := Nat.mod_le (later - earlier) (2 ^ 32)
  omega

/-- Whoever emits a structure last armed at `start` waits for its interval. -/
theorem hkstoreCalls_waits {cfg : Config} {store : Hkstore} (wellFormed : store.WellFormed cfg)
    {held emitted : HkStructure} {calls : List HkstoreCall} {start stop : Nat}
    (found : hkstoreFind store emitted.sid = some held)
    (armed : held.lastEmitSec = UInt32.ofNat start) (notDeleted : .delete emitted.sid ∉ calls)
    (forward : ClockForward start calls stop)
    (selected : (hkstoreDue (hkstoreCalls cfg store calls) (UInt32.ofNat stop)).1 =
      some emitted) :
    emitted.intervalSec = held.intervalSec ∧ start + held.intervalSec.toNat ≤ stop := by
  obtain ⟨after, last, atEnd, interval, lastEmit, fromStart, toStop⟩ :
      ∃ after last, hkstoreFind (hkstoreCalls cfg store calls) emitted.sid = some after ∧ _ :=
    hkstoreCalls_continues found armed notDeleted forward
  obtain ⟨slot, one, due, rfl⟩ := hkstoreDue_some selected
  have same := due.find (hkstoreCalls_wellFormed wellFormed calls)
  have isAfter : after = one := Option.some.inj (atEnd.symm.trans same)
  subst isAfter
  refine ⟨interval, ?_⟩
  have elapsed := due.elapsed
  rw [lastEmit, interval] at elapsed
  have waited := le_of_elapsed toStop elapsed
  omega

/-- While no structure is enabled none is due, and the store stays as it is. -/
theorem hkstoreDue_disabled {store : Hkstore} (off : ∀ held ∈ store.held, held.enabled = false)
    (nowSeconds : UInt32) : hkstoreDue store nowSeconds = (none, store) := by
  rcases hkstoreDue_cases store nowSeconds with same | ⟨left, old, right, _, result⟩
  · exact same
  · obtain ⟨slot, held, due, _⟩ := hkstoreDue_some (congrArg Prod.fst result)
    have member : held ∈ store.held := by
      rw [Hkstore.held, occupied, List.mem_filterMap]
      exact ⟨some held, List.mem_of_getElem? due.stored, rfl⟩
    have enabled := due.enabled
    rw [off held member] at enabled
    contradiction

/-- What has been emitted is found with its new time. -/
theorem hkstoreDue_find {cfg : Config} {store : Hkstore} {nowSeconds : UInt32}
    {emitted : HkStructure} (wellFormed : store.WellFormed cfg)
    (selected : (hkstoreDue store nowSeconds).1 = some emitted) :
    hkstoreFind (hkstoreDue store nowSeconds).2 emitted.sid = some emitted ∧
      emitted.lastEmitSec = nowSeconds := by
  have after := wellFormed.due nowSeconds
  rcases hkstoreDue_cases store nowSeconds with same | ⟨left, held, right, _, result⟩
  · rw [same] at selected
    contradiction
  · rw [result] at selected after ⊢
    obtain rfl := Option.some.inj selected
    refine ⟨?_, rfl⟩
    rw [hkstoreFind_eq]
    apply find?_key_of_mem after.distinct
    simp [Hkstore.held]

/-- What the emissions of a store do, at one time and over time. -/
structure HkstoreDueExact (cfg : Config) (store : Hkstore) : Prop where
  enumerates : ∀ nowSeconds, ∃ order, DueOrder store nowSeconds order ∧ ∀ calls,
    hkstoreDueReplies nowSeconds calls store =
      (order.take calls).map (fun due => some (due.2.emitted nowSeconds)) ++
        List.replicate (calls - order.length) none
  spaced : ∀ first between second earlier later,
    (hkstoreDue store (UInt32.ofNat first)).1 = some earlier →
    ClockForward first between second → .delete earlier.sid ∉ between →
    (hkstoreDue (hkstoreCalls cfg (hkstoreDue store (UInt32.ofNat first)).2 between)
      (UInt32.ofNat second)).1 = some later →
    later.sid = earlier.sid →
      later.intervalSec = earlier.intervalSec ∧ first + earlier.intervalSec.toNat ≤ second

/-- Every store a run reaches. -/
theorem hkstoreRun_due_exact (cfg : Config) (events : List HkstoreEvent) :
    HkstoreDueExact cfg (hkstoreRun cfg events) where
  enumerates nowSeconds := hkstoreDueReplies_order (hkstoreRun cfg events) nowSeconds
  spaced first between second earlier later selected forward notDeleted again sameSid := by
    have wellFormed := hkstoreRun_wellFormed cfg events
    obtain ⟨found, emittedAt⟩ := hkstoreDue_find wellFormed selected
    rw [← sameSid] at found notDeleted
    exact hkstoreCalls_waits (wellFormed.due _) found emittedAt notDeleted forward again

end FswCore
