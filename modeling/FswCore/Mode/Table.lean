import FswCore.Library.Bytes
import FswCore.Mode.Safety

/-!
Contract: which tables `migris_mode_init` takes, and what it leaves in memory.

Owns:
- the manager as its memory holds it, with slots no definition is in;
- the initialisation succeeds exactly on the tables that are in order, and a manager
  whose table was refused stays empty.

Does not own: what a run over an accepted table does.
-/

namespace FswCore

open Library

variable {cfg : Config}

/-! ### Memory -/

/-- The slots behind `count` keep what they held. -/
structure ModeMemory (cfg : Config) where
  slots : Vector ModeDef cfg.modeCapacity
  count : Nat
  current : UInt8
  sinkWired : Bool
  generation : UInt32
deriving DecidableEq

/-- The manager the functions see. -/
def ModeMemory.manager (memory : ModeMemory cfg) : ModeManager where
  defs := memory.slots.toList.take memory.count
  current := memory.current
  sinkWired := memory.sinkWired
  generation := memory.generation

/-- The copying loop. -/
def modeCopyDefs (slots : Vector ModeDef cfg.modeCapacity) (defs : List ModeDef) :
    Vector ModeDef cfg.modeCapacity :=
  defs.zipIdx.foldl (fun slots entry => slots.setIfInBounds entry.2 entry.1) slots

/-- `migris_mode_init` over a manager in any state. -/
def modeMemoryInit (memory : ModeMemory cfg) (defs : List ModeDef) (initial : UInt8)
    (sinkWired : Bool) : ModeStatus × ModeMemory cfg :=
  let empty : ModeMemory cfg :=
    { memory with count := 0, current := 0, sinkWired := false, generation := 0 }
  if defs.length > cfg.modeCapacity then (.errCapacity, empty)
  else
    match modeValidate defs with
    | .ok =>
        if (modeIndexOf defs initial).isNone then (.errNotFound, empty)
        else
          (.ok, { empty with
            slots := modeCopyDefs memory.slots defs
            count := defs.length
            current := initial
            sinkWired := sinkWired })
    | status => (status, empty)

/-- A table that fits is what the manager then holds. -/
theorem take_modeCopyDefs (slots : Vector ModeDef cfg.modeCapacity) {defs : List ModeDef}
    (fits : defs.length ≤ cfg.modeCapacity) :
    (modeCopyDefs slots defs).toList.take defs.length = defs :=
  take_copyFront slots fits

/-- What was in memory before does not matter. -/
theorem modeMemoryInit_manager (memory : ModeMemory cfg) (defs : List ModeDef) (initial : UInt8)
    (sinkWired : Bool) :
    (modeMemoryInit memory defs initial sinkWired).1 = (modeInit cfg defs initial sinkWired).1 ∧
      (modeMemoryInit memory defs initial sinkWired).2.manager =
        (modeInit cfg defs initial sinkWired).2 := by
  simp only [modeMemoryInit, modeInit]
  split
  · exact ⟨rfl, rfl⟩
  rename_i fits
  cases modeValidate defs
  case ok =>
    simp only
    split
    · exact ⟨rfl, rfl⟩
    · refine ⟨rfl, ?_⟩
      simp only [ModeMemory.manager, take_modeCopyDefs memory.slots (Nat.le_of_not_lt fits)]
  all_goals exact ⟨rfl, rfl⟩

/-! ### Tables -/

/-- The tables that are in order, with the initial mode. -/
structure TableInOrder (cfg : Config) (defs : List ModeDef) (initial : UInt8) : Prop where
  fits : defs.length ≤ cfg.modeCapacity
  inRange : ∀ mode ∈ defs, mode.id < modeIdMax
  distinct : defs.Pairwise fun earlier later => earlier.id ≠ later.id
  targets : ∀ mode ∈ defs, TargetsDeclared defs mode
  initial : ModeDeclared defs initial

theorem modeInit_ok_iff (cfg : Config) (defs : List ModeDef) (initial : UInt8)
    (sinkWired : Bool) :
    (modeInit cfg defs initial sinkWired).1 = .ok ↔ TableInOrder cfg defs initial := by
  have declared := modeIndexOf_isSome_iff defs initial
  have validated := modeValidate_ok_iff defs
  unfold modeInit
  split
  · rename_i large
    constructor
    · intro impossible
      contradiction
    · intro valid
      exact absurd large (Nat.not_lt.mpr valid.fits)
  rename_i fits
  split
  · rename_i valid
    obtain ⟨inRange, distinct, targets⟩ := validated.mp valid
    split
    · rename_i missing
      rw [Option.isNone_iff_eq_none] at missing
      rw [missing] at declared
      refine ⟨fun impossible => by contradiction, fun valid => ?_⟩
      exact absurd (declared.mpr valid.initial) (by decide)
    · rename_i present
      rw [Option.isNone_iff_eq_none, ← ne_eq, ← Option.isSome_iff_ne_none, declared] at present
      exact ⟨fun _ => ⟨Nat.le_of_not_lt fits, inRange, distinct, targets, present⟩, fun _ => rfl⟩
  · rename_i notOk
    constructor
    · intro valid
      exact absurd valid notOk
    · intro valid
      exact absurd (validated.mpr ⟨valid.inRange, valid.distinct, valid.targets⟩) notOk

/-! ### The initialisation -/

def modeEmpty : ModeManager := { defs := [], current := 0, sinkWired := false, generation := 0 }

theorem modeInit_cases (cfg : Config) (defs : List ModeDef) (initial : UInt8) (sinkWired : Bool) :
    ((modeInit cfg defs initial sinkWired).1 ≠ .ok ∧
        (modeInit cfg defs initial sinkWired).2 = modeEmpty) ∨
      ((modeInit cfg defs initial sinkWired).1 = .ok ∧
        (modeInit cfg defs initial sinkWired).2 =
          { defs := defs, current := initial, sinkWired := sinkWired, generation := 0 }) := by
  unfold modeInit
  split
  · exact .inl ⟨by decide, rfl⟩
  split
  · split
    · exact .inl ⟨by decide, rfl⟩
    · exact .inr ⟨rfl, rfl⟩
  · rename_i notOk
    exact .inl ⟨notOk, rfl⟩

/-- A manager without a table has no mode to change to. -/
theorem modeRequest_empty {mgr : ModeManager} (noDefs : mgr.defs = []) (target : UInt8)
    (nowSeconds : UInt32) :
    modeRequest mgr target nowSeconds = (.errNotFound, mgr, none) := by
  have unknown : (modeIndexOf mgr.defs target).isNone = true := by
    rw [noDefs]
    rfl
  rw [modeRequest, if_pos (.inr unknown)]

theorem modeDeserializeCurrent_empty {mgr : ModeManager} (noDefs : mgr.defs = [])
    (image : List UInt8) : (modeDeserializeCurrent mgr image).2 = mgr := by
  rcases modeDeserializeCurrent_cases mgr image with same | ⟨restored, _, isDeclared, _⟩
  · exact same
  · rw [noDefs] at isDeclared
    contradiction

theorem modeEvent_empty {mgr : ModeManager} (noDefs : mgr.defs = []) (event : ModeEvent) :
    modeEvent mgr event = mgr := by
  cases event with
  | request target nowSeconds => rw [modeEvent, modeRequest_empty noDefs]
  | restore image => rw [modeEvent, modeDeserializeCurrent_empty noDefs]

theorem foldl_modeEvent_defs (mgr : ModeManager) (events : List ModeEvent) :
    (events.foldl modeEvent mgr).defs = mgr.defs := by
  apply List.foldlRecOn (motive := fun after : ModeManager => after.defs = mgr.defs) events _ rfl
  intro after same event _
  rw [modeEvent_defs, same]

theorem foldl_modeEvent_empty {mgr : ModeManager} (noDefs : mgr.defs = [])
    (events : List ModeEvent) : events.foldl modeEvent mgr = mgr := by
  apply List.foldlRecOn (motive := fun after : ModeManager => after = mgr) events _ rfl
  rintro after rfl event _
  exact modeEvent_empty noDefs event

/-- A table in order is one whose edges the query follows. -/
theorem TableInOrder.allowed {defs : List ModeDef} {initial : UInt8}
    (inOrder : TableInOrder cfg defs initial) {mgr : ModeManager} (table : mgr.defs = defs)
    (target : UInt8) :
    modeIsAllowed mgr target = true ↔ ModeEdge defs mgr.current target := by
  have valid : modeValidate mgr.defs = .ok := by
    rw [table]
    exact (modeValidate_ok_iff defs).mpr ⟨inOrder.inRange, inOrder.distinct, inOrder.targets⟩
  have modes := modeValidate_table valid
  rw [modeIsAllowed_iff modes, table]
  constructor
  · exact And.right
  · intro edge
    rw [table] at modes
    obtain ⟨mode, member, rfl⟩ := modes.targets _ _ edge
    exact ⟨modes.inRange mode member, edge⟩

/-- What a call of the initialisation promises of its table and of all that follows. -/
structure ModeInitExact (cfg : Config) (defs : List ModeDef) (initial : UInt8)
    (sinkWired : Bool) (result : ModeStatus × ModeMemory cfg) : Prop where
  succeeds_iff : result.1 = .ok ↔ TableInOrder cfg defs initial
  holds : result.1 = .ok → result.2.manager =
    { defs := defs, current := initial, sinkWired := sinkWired, generation := 0 }
  keeps : result.1 = .ok → ∀ events : List ModeEvent,
    (events.foldl modeEvent result.2.manager).defs = defs
  follows : result.1 = .ok → ∀ mgr : ModeManager, mgr.defs = defs → ∀ target,
    modeIsAllowed mgr target = true ↔ ModeEdge defs mgr.current target
  empty : result.1 ≠ .ok → ∀ events : List ModeEvent,
    events.foldl modeEvent result.2.manager = modeEmpty
  requests : result.1 ≠ .ok → ∀ (events : List ModeEvent) target nowSeconds,
    let mgr := events.foldl modeEvent result.2.manager
    modeRequest mgr target nowSeconds = (.errNotFound, mgr, none)
  restores : result.1 ≠ .ok → ∀ (events : List ModeEvent) image,
    let mgr := events.foldl modeEvent result.2.manager
    (modeDeserializeCurrent mgr image).2 = mgr

/-- For any manager, table and initial mode, and a sink or none. -/
theorem modeMemoryInit_exact (memory : ModeMemory cfg) (defs : List ModeDef) (initial : UInt8)
    (sinkWired : Bool) :
    ModeInitExact cfg defs initial sinkWired (modeMemoryInit memory defs initial sinkWired) := by
  obtain ⟨status, manager⟩ := modeMemoryInit_manager memory defs initial sinkWired
  have succeeds := modeInit_ok_iff cfg defs initial sinkWired
  rw [← status] at succeeds
  rcases modeInit_cases cfg defs initial sinkWired with ⟨failed, isEmpty⟩ | ⟨done, isTable⟩
  · rw [← status] at failed
    rw [isEmpty] at manager
    have noDefs : (modeMemoryInit memory defs initial sinkWired).2.manager.defs = [] := by
      rw [manager]
      rfl
    constructor
    · exact succeeds
    · exact fun done => absurd done failed
    · exact fun done => absurd done failed
    · exact fun done => absurd done failed
    · intro _ events
      rw [foldl_modeEvent_empty noDefs, manager]
    · intro _ events target nowSeconds
      apply modeRequest_empty
      rw [foldl_modeEvent_defs, noDefs]
    · intro _ events image
      apply modeDeserializeCurrent_empty
      rw [foldl_modeEvent_defs, noDefs]
  · rw [← status] at done
    rw [isTable] at manager
    constructor
    · exact succeeds
    · exact fun _ => manager
    · intro _ events
      rw [foldl_modeEvent_defs, manager]
    · intro _ mgr table target
      exact (succeeds.mp done).allowed table target
    · exact fun failed => absurd done failed
    · exact fun failed => absurd done failed
    · exact fun failed => absurd done failed

end FswCore
