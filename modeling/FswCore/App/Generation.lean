import FswCore.App.Autosave
import FswCore.Library.ChangeCounter

/-!
Contract: what a subsystem's generation says about its serialised state.

Owns:
- which calls of the public mutators report failure, and that these change
  nothing;
- over a run that advances a generation fewer than 2^32 times, one generation is
  one serialised state.
-/

namespace FswCore

open Library

/-! ### Calls that report failure -/

/-- A release that finds nothing due counts as a failure. -/
def ScheduleReply.reportsFailure : ScheduleReply → Bool
  | .status returned => returned != .ok
  | .popped (.ok (some _)) => false
  | .popped _ => true
  | .done => false

/-- A `due` that finds nothing counts as a failure. -/
def hkstoreReportsFailure (cfg : Config) (store : Hkstore) : HkstoreOp → Bool
  | .create sid paramIds intervalSec =>
      (hkstoreCreate cfg store sid paramIds intervalSec).1 != .ok
  | .delete sid => (hkstoreDelete store sid).1 != .ok
  | .setEnabled sid enabled => (hkstoreSetEnabled store sid enabled).1 != .ok
  | .due nowSeconds => (hkstoreDue store nowSeconds).1.isNone

/-- What the call's return value says, in this state. -/
def Subsystems.reportsFailure (cfg : Config) (subs : Subsystems) : SubsystemMutation → Bool
  | .datapoolSet id value => (datapoolSet subs.datapool id value).1 != .ok
  | .schedule op => (scheduleApply cfg subs.schedule op).1.reportsFailure
  | .hkstore op => hkstoreReportsFailure cfg subs.hkstore op
  | .modeRequest target nowSeconds => (modeRequest subs.mode target nowSeconds).1 != .ok

theorem scheduleApply_failed {cfg : Config} {sched : Schedule} {op : ScheduleOp}
    (failed : (scheduleApply cfg sched op).1.reportsFailure = true) :
    (scheduleApply cfg sched op).2 = sched := by
  cases op with
  | insert releaseTime tc =>
      rcases scheduleInsert_cases cfg sched releaseTime tc with ⟨_, same⟩ | inserted
      · exact same
      · rw [scheduleApply, inserted.result] at failed
        contradiction
  | delete requestId =>
      rcases scheduleDelete_cases sched requestId with ⟨_, same, _⟩ | ⟨_, _, _, _, removed⟩
      · exact same
      · rw [scheduleApply, removed] at failed
        contradiction
  | reset => contradiction
  | setEnabled enabled => contradiction
  | popDue nowSeconds outCap =>
      cases schedulePopDue_cases sched nowSeconds outCap with
      | disabled _ result => rw [scheduleApply, result]
      | noneDue _ _ result => rw [scheduleApply, result]
      | tooSmall _ _ _ _ _ result => rw [scheduleApply, result]
      | released _ _ _ _ _ result =>
          rw [scheduleApply, result] at failed
          contradiction

theorem hkstoreApply_failed {cfg : Config} {store : Hkstore} {op : HkstoreOp}
    (failed : hkstoreReportsFailure cfg store op = true) : hkstoreApply cfg store op = store := by
  cases op with
  | create sid paramIds intervalSec =>
      rcases hkstoreCreate_cases cfg store sid paramIds intervalSec with ⟨_, same⟩ | ⟨isOk, _⟩
      · exact same
      · simp [hkstoreReportsFailure, isOk] at failed
  | delete sid =>
      rcases hkstoreDelete_cases store sid with ⟨_, same, _⟩ | ⟨isOk, _⟩
      · exact same
      · simp [hkstoreReportsFailure, isOk] at failed
  | setEnabled sid enabled =>
      rcases hkstoreSetEnabled_cases store sid enabled with ⟨_, same, _⟩ | ⟨isOk, _⟩
      · exact same
      · simp [hkstoreReportsFailure, isOk] at failed
  | due nowSeconds =>
      rcases hkstoreDue_cases store nowSeconds with same | ⟨_, _, _, _, result⟩
      · rw [hkstoreApply, same]
      · simp [hkstoreReportsFailure, result] at failed

theorem Subsystems.mutate_failed {cfg : Config} {subs : Subsystems} {mutation : SubsystemMutation}
    (failed : subs.reportsFailure cfg mutation = true) : subs.mutate cfg mutation = subs := by
  cases mutation with
  | datapoolSet id value =>
      rcases datapoolSet_cases subs.datapool id value with ⟨_, same⟩ | ⟨isOk, _⟩
      · rw [mutate, same]
      · simp [reportsFailure, isOk] at failed
  | schedule op => rw [mutate, scheduleApply_failed failed]
  | hkstore op => rw [mutate, hkstoreApply_failed failed]
  | modeRequest target nowSeconds =>
      rcases modeRequest_cases subs.mode target nowSeconds with ⟨_, same, _⟩ | ⟨isOk, _⟩
      · rw [mutate, same]
      · simp [reportsFailure, isOk] at failed

/-! ### Runs -/

def subsystemsRun (cfg : Config) (start : Subsystems) (mutations : List SubsystemMutation) :
    Subsystems :=
  mutations.foldl (Subsystems.mutate cfg) start

def generationBumps (cfg : Config) (recordType : NvRecordType) (start : Subsystems)
    (mutations : List SubsystemMutation) : Nat :=
  advances (Subsystems.mutate cfg) (fun subs => (subs.generation recordType).toNat) start mutations

theorem mutate_countsChanges (cfg : Config) (recordType : NvRecordType) :
    CountsChanges (Subsystems.mutate cfg) 4294967296
      (fun subs => (subs.generation recordType).toNat)
      (fun subs bufCap => subs.serialize bufCap recordType) where
  wide := by decide
  bounded subs := UInt32.toNat_lt _
  stepped subs mutation := by
    rcases subs.mutate_effect cfg mutation recordType with ⟨same, serialized⟩ | counted
    · exact .inl ⟨congrArg UInt32.toNat same, funext serialized⟩
    · exact .inr (by rw [counted, UInt32.toNat_add, UInt32.toNat_one])

/-- The generation accounts for every change of the serialised state, and a call
that reports failure changes neither. -/
theorem subsystemsRun_generation (cfg : Config) (start : Subsystems)
    (mutations : List SubsystemMutation) (recordType : NvRecordType)
    (few : generationBumps cfg recordType start mutations < 4294967296) :
    (∀ earlier later,
      (subsystemsRun cfg start (mutations.take earlier)).generation recordType =
          (subsystemsRun cfg start (mutations.take later)).generation recordType →
        ∀ bufCap, (subsystemsRun cfg start (mutations.take earlier)).serialize bufCap recordType =
          (subsystemsRun cfg start (mutations.take later)).serialize bufCap recordType) ∧
      ∀ point mutation,
        (subsystemsRun cfg start (mutations.take point)).reportsFailure cfg mutation = true →
          ((subsystemsRun cfg start (mutations.take point)).mutate cfg mutation).generation
              recordType =
            (subsystemsRun cfg start (mutations.take point)).generation recordType ∧
          ∀ bufCap,
            ((subsystemsRun cfg start (mutations.take point)).mutate cfg mutation).serialize bufCap
                recordType =
              (subsystemsRun cfg start (mutations.take point)).serialize bufCap recordType := by
  constructor
  · intro earlier later same bufCap
    have observed := (mutate_countsChanges cfg recordType).sound few (congrArg UInt32.toNat same)
    exact congrFun observed bufCap
  · intro point mutation failed
    rw [Subsystems.mutate_failed failed]
    exact ⟨rfl, fun _ => rfl⟩

/-- Enable, a second enable, a release with nothing due: the count stays at one. -/
theorem subsystemsRun_generation_enabled :
    let start : Subsystems := subsystemsInit defaultConfig
      { params := [], modes := [], initialMode := 0, sinkWired := false }
    let mutations : List SubsystemMutation :=
      [.schedule (.setEnabled true), .schedule (.setEnabled true), .schedule (.popDue 7 256)]
    (∀ bufCap, (subsystemsRun defaultConfig start (mutations.take 1)).serialize bufCap .schedule =
        (subsystemsRun defaultConfig start (mutations.take 2)).serialize bufCap .schedule) ∧
      ((subsystemsRun defaultConfig start (mutations.take 2)).mutate defaultConfig
          (.schedule (.popDue 7 256))).generation .schedule =
        (subsystemsRun defaultConfig start (mutations.take 2)).generation .schedule := by
  intro start mutations
  have sound := subsystemsRun_generation defaultConfig start mutations .schedule (by decide)
  exact ⟨sound.1 1 2 (by decide), (sound.2 2 (.schedule (.popDue 7 256)) (by decide)).1⟩

end FswCore
