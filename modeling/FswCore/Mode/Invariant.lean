import FswCore.Mode.Model
import Mathlib.Data.List.Basic
import Mathlib.Tactic.SplitIfs

/-!
Contract: the current mode is one the table declares, over whole runs, and its
image restores it.
-/

namespace FswCore

/-- The current mode is declared, unless a rejected table left none. -/
inductive ModeManager.Consistent (mgr : ModeManager) : Prop where
  | empty (noDefs : mgr.defs = []) (zero : mgr.current = 0)
  | declared (inRange : mgr.current < modeIdMax)
      (isDeclared : (modeIndexOf mgr.defs mgr.current).isSome)

theorem modeValidateIds_ok {seen defs : List ModeDef} (valid : modeValidateIds seen defs = .ok) :
    ∀ mode ∈ defs, mode.id < modeIdMax := by
  induction defs generalizing seen with
  | nil => simp
  | cons mode rest inductionHypothesis =>
      rw [modeValidateIds] at valid
      split at valid
      · contradiction
      rename_i inRange
      split at valid
      · contradiction
      intro other member
      rcases List.mem_cons.mp member with rfl | later
      · exact UInt8.not_le.mp inRange
      · exact inductionHypothesis valid other later

theorem modeIndexOf_mem {defs : List ModeDef} {id : UInt8}
    (isDeclared : (modeIndexOf defs id).isSome) : ∃ mode ∈ defs, mode.id = id := by
  rw [modeIndexOf, List.findIdx?_isSome, List.any_eq_true] at isDeclared
  obtain ⟨mode, member, same⟩ := isDeclared
  exact ⟨mode, member, by simpa using same⟩

theorem modeInit_consistent (cfg : Config) (defs : List ModeDef) (initial : UInt8)
    (sinkWired : Bool) : (modeInit cfg defs initial sinkWired).2.Consistent := by
  rw [modeInit]
  split
  · exact .empty rfl rfl
  split
  · rename_i valid
    split
    · exact .empty rfl rfl
    · rename_i present
      have isDeclared : (modeIndexOf defs initial).isSome := by
        simpa [Option.isSome_iff_ne_none] using present
      obtain ⟨mode, member, rfl⟩ := modeIndexOf_mem isDeclared
      rw [modeValidate] at valid
      split at valid
      · rename_i idsValid
        exact .declared (modeValidateIds_ok idsValid mode member) isDeclared
      · rename_i notOk
        exact absurd valid notOk
  · exact .empty rfl rfl

/-! ### Request and restore -/

theorem modeRequest_cases (mgr : ModeManager) (target : UInt8) (nowSeconds : UInt32) :
    ((modeRequest mgr target nowSeconds).1 ≠ .ok ∧
        (modeRequest mgr target nowSeconds).2.1 = mgr ∧
        (modeRequest mgr target nowSeconds).2.2 = none) ∨
      ((modeRequest mgr target nowSeconds).1 = .ok ∧ target < modeIdMax ∧
        (modeIndexOf mgr.defs target).isSome ∧ modeIsAllowed mgr target = true ∧
        (modeRequest mgr target nowSeconds).2.1 =
          { mgr with current := target, generation := mgr.generation + 1 }) := by
  rw [modeRequest]
  split
  · exact .inl ⟨by simp, rfl, rfl⟩
  rename_i known
  split
  · exact .inl ⟨by simp, rfl, rfl⟩
  · rename_i allowed
    obtain ⟨inRange, isDeclared⟩ := not_or.mp known
    exact .inr ⟨rfl, UInt8.not_le.mp inRange,
      by simpa [Option.isSome_iff_ne_none] using isDeclared, by simpa using allowed, rfl⟩

/-- A restored mode the table declares is current; any other is ignored. -/
theorem modeDeserializeCurrent_cases (mgr : ModeManager) (input : List UInt8) :
    (modeDeserializeCurrent mgr input).2 = mgr ∨
      ∃ restored, restored < modeIdMax ∧ (modeIndexOf mgr.defs restored).isSome ∧
        (modeDeserializeCurrent mgr input).2 = { mgr with current := restored } := by
  rw [modeDeserializeCurrent]
  split
  · exact .inl rfl
  simp only
  split
  · exact .inl rfl
  rename_i inRange
  split
  · exact .inl rfl
  · rename_i present
    exact .inr ⟨_, UInt8.not_le.mp inRange,
      by simpa [Option.isSome_iff_ne_none] using present, rfl⟩

theorem modeInit_generation (cfg : Config) (defs : List ModeDef) (initial : UInt8)
    (sinkWired : Bool) : (modeInit cfg defs initial sinkWired).2.generation = 0 := by
  unfold modeInit
  split
  · rfl
  split
  · split <;> rfl
  · rfl

theorem modeDeserializeCurrent_generation (mgr : ModeManager) (input : List UInt8) :
    (modeDeserializeCurrent mgr input).2.generation = mgr.generation := by
  rcases modeDeserializeCurrent_cases mgr input with same | ⟨_, _, _, result⟩
  · rw [same]
  · rw [result]

/-! ### Runs -/

inductive ModeEvent where
  | request (target : UInt8) (nowSeconds : UInt32)
  | restore (image : List UInt8)

def modeEvent (mgr : ModeManager) : ModeEvent → ModeManager
  | .request target nowSeconds => (modeRequest mgr target nowSeconds).2.1
  | .restore image => (modeDeserializeCurrent mgr image).2

/-- The manager after a run from its initialisation. -/
def modeRun (cfg : Config) (defs : List ModeDef) (initial : UInt8) (sinkWired : Bool)
    (events : List ModeEvent) : ModeManager :=
  events.foldl modeEvent (modeInit cfg defs initial sinkWired).2

theorem modeEvent_defs (mgr : ModeManager) (event : ModeEvent) :
    (modeEvent mgr event).defs = mgr.defs := by
  cases event with
  | request target nowSeconds =>
      rcases modeRequest_cases mgr target nowSeconds with ⟨_, same, _⟩ | ⟨_, _, _, _, result⟩
      · rw [modeEvent, same]
      · rw [modeEvent, result]
  | restore image =>
      rcases modeDeserializeCurrent_cases mgr image with same | ⟨restored, _, _, result⟩
      · rw [modeEvent, same]
      · rw [modeEvent, result]

theorem modeEvent_consistent {mgr : ModeManager} (consistent : mgr.Consistent)
    (event : ModeEvent) : (modeEvent mgr event).Consistent := by
  cases event with
  | request target nowSeconds =>
      rcases modeRequest_cases mgr target nowSeconds with
        ⟨_, same, _⟩ | ⟨_, inRange, known, _, result⟩
      · rw [modeEvent, same]
        exact consistent
      · rw [modeEvent, result]
        exact .declared inRange known
  | restore image =>
      rcases modeDeserializeCurrent_cases mgr image with same | ⟨restored, inRange, known, result⟩
      · rw [modeEvent, same]
        exact consistent
      · rw [modeEvent, result]
        exact .declared inRange known

theorem modeRun_defs (cfg : Config) (defs : List ModeDef) (initial : UInt8) (sinkWired : Bool)
    (events : List ModeEvent) :
    (modeRun cfg defs initial sinkWired events).defs =
      (modeInit cfg defs initial sinkWired).2.defs := by
  refine List.foldlRecOn (motive := fun mgr : ModeManager => mgr.defs =
    (modeInit cfg defs initial sinkWired).2.defs) events modeEvent rfl ?_
  intro mgr same event _
  rw [modeEvent_defs, same]

theorem modeRun_consistent (cfg : Config) (defs : List ModeDef) (initial : UInt8)
    (sinkWired : Bool) (events : List ModeEvent) :
    (modeRun cfg defs initial sinkWired events).Consistent := by
  apply List.foldlRecOn events _ (modeInit_consistent cfg defs initial sinkWired)
  intro mgr consistent event _
  exact modeEvent_consistent consistent event

/-- The image of the current mode restores it into a manager with the same
table. -/
theorem modeDeserializeCurrent_restores {mgr fresh : ModeManager}
    (consistent : mgr.Consistent) (freshConsistent : fresh.Consistent)
    (sameTable : fresh.defs = mgr.defs) :
    (modeDeserializeCurrent fresh [mgr.current]).1 = .ok ∧
      (modeDeserializeCurrent fresh [mgr.current]).2.current = mgr.current := by
  cases consistent with
  | empty noDefs zero =>
      cases freshConsistent with
      | empty _ freshZero =>
          rw [zero]
          refine ⟨?_, ?_⟩
          · simp [modeDeserializeCurrent, sameTable, noDefs, modeIndexOf, modeIdMax]
          · simp [modeDeserializeCurrent, sameTable, noDefs, modeIndexOf, modeIdMax, freshZero]
      | declared _ isDeclared => simp [sameTable, noDefs, modeIndexOf] at isDeclared
  | declared inRange isDeclared =>
      have outOfRange : ¬ mgr.current ≥ modeIdMax := UInt8.not_le.mpr inRange
      have known : (modeIndexOf fresh.defs mgr.current).isNone = false := by
        rw [sameTable]
        simpa [Option.isSome_iff_ne_none] using isDeclared
      simp [modeDeserializeCurrent, outOfRange, known]

end FswCore
