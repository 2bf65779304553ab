import FswCore.Mode.Invariant
import Mathlib.Data.List.Nodup

/-!
Contract: the mode manager as a state machine over a validated table.

Owns:
- `ModeEdge`, the transitions a table declares, and which tables validation accepts;
- `StepSafe`, what one request or restore does: a request succeeds exactly along
  a declared edge, and what fails changes nothing;
- over whole runs, that the current mode is a declared one and that the sink
  hears exactly the successful requests.
-/

namespace FswCore

/-! ### The table -/

/-- The table allows a transition: the source mode's mask names the target. -/
def ModeEdge (defs : List ModeDef) (source target : UInt8) : Prop :=
  ∃ mode ∈ defs, mode.id = source ∧ mode.allowedTargets.toNat.testBit target.toNat = true

/-- The mode is declared by the table. -/
def ModeDeclared (defs : List ModeDef) (id : UInt8) : Prop := ∃ mode ∈ defs, mode.id = id

/-- What validation guarantees of a table. -/
structure ModeTable (defs : List ModeDef) : Prop where
  inRange : ∀ mode ∈ defs, mode.id < modeIdMax
  unique : (defs.map ModeDef.id).Nodup
  targets : ∀ source target, ModeEdge defs source target → ModeDeclared defs target

theorem modeIndexOf_isSome_iff (defs : List ModeDef) (id : UInt8) :
    (modeIndexOf defs id).isSome ↔ ModeDeclared defs id := by
  rw [modeIndexOf, List.findIdx?_isSome, List.any_eq_true]
  exact exists_congr fun mode => and_congr_right fun _ => by simp

/-- A bit of a mask, as the code reads it. -/
theorem allowedBit_iff (mask : UInt32) {target : UInt8} (inRange : target < modeIdMax) :
    ((mask >>> target.toUInt32) &&& 1 == 1) = mask.toNat.testBit target.toNat := by
  have small : target.toNat < 32 := UInt8.lt_iff_toNat_lt.mp inRange
  have low (value : Nat) : value &&& 1 = value % 2 := Nat.and_two_pow_sub_one_eq_mod value 1
  rw [Nat.testBit_eq_decide_div_mod_eq, Bool.eq_iff_iff, beq_iff_eq, decide_eq_true_eq,
    ← UInt32.toNat_inj]
  simp only [UInt32.toNat_and, UInt32.toNat_shiftRight, UInt8.toNat_toUInt32,
    UInt32.reduceToNat, Nat.mod_eq_of_lt small, Nat.shiftRight_eq_div_pow, low]

/-- The scan takes modes in range that differ from those seen and from each other. -/
theorem modeValidateIds_ok_iff {seen defs : List ModeDef} :
    modeValidateIds seen defs = .ok ↔
      (∀ mode ∈ defs, mode.id < modeIdMax) ∧ (∀ mode ∈ defs, ¬ModeDeclared seen mode.id) ∧
        defs.Pairwise fun earlier later => earlier.id ≠ later.id := by
  induction defs generalizing seen with
  | nil => simp [modeValidateIds]
  | cons mode rest inductionHypothesis =>
      have declared (other : ModeDef) : ModeDeclared (seen ++ [mode]) other.id ↔
          ModeDeclared seen other.id ∨ mode.id = other.id := by
        simp [ModeDeclared, or_and_right, exists_or]
      rw [modeValidateIds, List.pairwise_cons, List.forall_mem_cons, List.forall_mem_cons]
      by_cases inRange : mode.id < modeIdMax
      · rw [if_neg (UInt8.not_le.mpr inRange)]
        by_cases fresh : ModeDeclared seen mode.id
        · rw [if_pos ((modeIndexOf_isSome_iff seen mode.id).mpr fresh)]
          exact ⟨fun impossible => by contradiction, fun valid => absurd fresh valid.2.1.1⟩
        · rw [if_neg fun found => fresh ((modeIndexOf_isSome_iff seen mode.id).mp found),
            inductionHypothesis]
          simp only [declared, not_or]
          constructor
          · rintro ⟨ranges, others, distinct⟩
            exact ⟨⟨inRange, ranges⟩, ⟨fresh, fun other member => (others other member).1⟩,
              fun other member => (others other member).2, distinct⟩
          · rintro ⟨⟨_, ranges⟩, ⟨_, others⟩, differ, distinct⟩
            exact ⟨ranges, fun other member => ⟨others other member, differ other member⟩,
              distinct⟩
      · rw [if_pos (UInt8.not_lt.mp inRange)]
        exact ⟨fun impossible => by contradiction, fun valid => absurd valid.1.1 inRange⟩

/-- Every set bit of a mask names a declared mode. -/
def TargetsDeclared (defs : List ModeDef) (mode : ModeDef) : Prop :=
  ∀ bit, mode.allowedTargets.toNat.testBit bit = true → ∃ target ∈ defs, target.id.toNat = bit

/-- A clear bit of a mask, as the scan reads it. -/
theorem scannedBit_iff (mask : UInt32) {bit : Nat} (small : bit < 32) :
    (mask >>> UInt32.ofNat bit &&& 1 == 0) = !mask.toNat.testBit bit := by
  have low (value : Nat) : value &&& 1 = value % 2 := Nat.and_two_pow_sub_one_eq_mod value 1
  have shift : (UInt32.ofNat bit).toNat = bit := by
    rw [UInt32.toNat_ofNat']
    omega
  have parity := Nat.mod_two_eq_zero_or_one (mask.toNat / 2 ^ bit)
  rw [Nat.testBit_eq_decide_div_mod_eq, Bool.eq_iff_iff, beq_iff_eq, Bool.not_eq_true',
    decide_eq_false_iff_not, ← UInt32.toNat_inj]
  simp only [UInt32.toNat_and, UInt32.toNat_shiftRight, shift, UInt32.reduceToNat,
    Nat.mod_eq_of_lt small, Nat.shiftRight_eq_div_pow, low]
  omega

/-- The scan of a mask goes over all its bits. -/
theorem modeTargetsDeclared_iff (defs : List ModeDef) (mode : ModeDef) :
    modeTargetsDeclared defs mode = true ↔ TargetsDeclared defs mode := by
  have identifier (bit : Nat) (small : bit < 32) (target : ModeDef) :
      target.id = UInt8.ofNat bit ↔ target.id.toNat = bit := by
    rw [← UInt8.toNat_inj, UInt8.toNat_ofNat', Nat.mod_eq_of_lt (by omega)]
  rw [modeTargetsDeclared, List.all_eq_true]
  constructor
  · intro scanned bit set
    have small : bit < 32 := by
      by_contra large
      have mask := mode.allowedTargets.toNat_lt
      rw [Nat.testBit_lt_two_pow
        (Nat.lt_of_lt_of_le mask (Nat.pow_le_pow_right (by decide) (by omega)))] at set
      contradiction
    have found := scanned bit (List.mem_range.mpr small)
    rw [scannedBit_iff mode.allowedTargets small, set, Bool.not_true, Bool.false_or,
      modeIndexOf_isSome_iff] at found
    obtain ⟨target, member, same⟩ := found
    exact ⟨target, member, (identifier bit small target).mp same⟩
  · intro declared bit member
    have small : bit < 32 := List.mem_range.mp member
    rw [scannedBit_iff mode.allowedTargets small]
    cases set : mode.allowedTargets.toNat.testBit bit with
    | false => rfl
    | true =>
        obtain ⟨target, isDeclared, same⟩ := declared bit set
        rw [Bool.not_true, Bool.false_or, modeIndexOf_isSome_iff]
        exact ⟨target, isDeclared, (identifier bit small target).mpr same⟩

theorem modeValidate_ok_iff (defs : List ModeDef) :
    modeValidate defs = .ok ↔
      (∀ mode ∈ defs, mode.id < modeIdMax) ∧
        (defs.Pairwise fun earlier later => earlier.id ≠ later.id) ∧
        ∀ mode ∈ defs, TargetsDeclared defs mode := by
  have fresh : ∀ mode ∈ defs, ¬ModeDeclared [] mode.id := by
    rintro mode _ ⟨other, member, _⟩
    exact absurd member List.not_mem_nil
  have identifiers : modeValidateIds [] defs = .ok ↔ _ := modeValidateIds_ok_iff
  rw [modeValidate]
  split
  · rename_i valid
    obtain ⟨inRange, _, distinct⟩ := identifiers.mp valid
    have targets : defs.all (modeTargetsDeclared defs) = true ↔
        ∀ mode ∈ defs, TargetsDeclared defs mode := by
      simp only [List.all_eq_true, modeTargetsDeclared_iff]
    split
    · rename_i declared
      exact ⟨fun _ => ⟨inRange, distinct, targets.mp declared⟩, fun _ => rfl⟩
    · rename_i missing
      constructor
      · intro impossible
        contradiction
      · intro valid
        exact absurd (targets.mpr valid.2.2) missing
  · rename_i notOk
    constructor
    · intro valid
      exact absurd valid notOk
    · intro valid
      exact absurd (identifiers.mpr ⟨valid.1, fresh, valid.2.1⟩) notOk

theorem modeValidate_table {defs : List ModeDef} (valid : modeValidate defs = .ok) :
    ModeTable defs := by
  obtain ⟨inRange, distinct, targets⟩ := (modeValidate_ok_iff defs).mp valid
  refine ⟨inRange, List.pairwise_map.mpr distinct, ?_⟩
  rintro source target ⟨mode, member, _, bit⟩
  obtain ⟨declared, isMode, same⟩ := targets mode member target.toNat bit
  exact ⟨declared, isMode, UInt8.toNat_inj.mp same⟩

/-- The query is the edge relation of the table. -/
theorem modeIsAllowed_iff {mgr : ModeManager} (table : ModeTable mgr.defs) (target : UInt8) :
    modeIsAllowed mgr target = true ↔
      target < modeIdMax ∧ ModeEdge mgr.defs mgr.current target := by
  rw [modeIsAllowed]
  split
  · rename_i outOfRange
    exact ⟨fun impossible => by contradiction, fun edge =>
      absurd outOfRange (UInt8.not_le.mpr edge.1)⟩
  rename_i notOut
  have inRange := UInt8.not_le.mp notOut
  cases located : modeIndexOf mgr.defs mgr.current with
  | none =>
      refine ⟨fun impossible => by contradiction, ?_⟩
      rintro ⟨_, mode, member, same, _⟩
      have declared := (modeIndexOf_isSome_iff mgr.defs mgr.current).mpr ⟨mode, member, same⟩
      rw [located] at declared
      contradiction
  | some index =>
      obtain ⟨below, same, _⟩ := List.findIdx?_eq_some_iff_getElem.mp located
      have isCurrent : mgr.defs[index].id = mgr.current := by simpa using same
      simp only [List.getElem?_eq_getElem below, allowedBit_iff _ inRange]
      constructor
      · intro bit
        exact ⟨inRange, mgr.defs[index], List.getElem_mem below, isCurrent, bit⟩
      · rintro ⟨_, mode, member, sameId, bit⟩
        have equal := List.inj_on_of_nodup_map table.unique (List.getElem_mem below) member
          (isCurrent.trans sameId.symm)
        rw [equal]
        exact bit

/-! ### Steps -/

/-- One call of a request or a restore: its status, what it leaves behind and what
the sink hears. -/
structure ModeStep where
  event : ModeEvent
  before : ModeManager
  status : ModeStatus
  after : ModeManager
  announced : Option ModeChanged

def modeStep (mgr : ModeManager) (event : ModeEvent) : ModeStep :=
  match event with
  | .request target nowSeconds =>
      let (status, after, announced) := modeRequest mgr target nowSeconds
      { event := event
        before := mgr
        status := status
        after := after
        announced := announced }
  | .restore image =>
      let (status, after) := modeDeserializeCurrent mgr image
      { event := event, before := mgr, status := status, after := after, announced := none }

/-- The steps of a run, in order. -/
def modeTrace (mgr : ModeManager) : List ModeEvent → List ModeStep
  | [] => []
  | event :: rest => modeStep mgr event :: modeTrace (modeStep mgr event).after rest

/-- The manager after a run. -/
def modeFinal (mgr : ModeManager) (events : List ModeEvent) : ModeManager :=
  events.foldl (fun mgr event => (modeStep mgr event).after) mgr

/-- What the sink hears of a successful request, if it is wired. -/
def ModeStep.change (step : ModeStep) : Option ModeChanged :=
  match step.event with
  | .request target nowSeconds =>
      if step.status = .ok ∧ step.before.sinkWired = true then
        some { nowSeconds := nowSeconds, fromMode := step.before.current, toMode := target }
      else none
  | .restore _ => none

/-- A request succeeds exactly along an edge of the table, and then makes its
target current; a restore makes current the mode it names, if that is declared.
Whatever fails or restores nothing leaves the manager as it was. -/
structure StepSafe (step : ModeStep) : Prop where
  table : step.after.defs = step.before.defs ∧ step.after.sinkWired = step.before.sinkWired
  current : ModeDeclared step.after.defs step.after.current
  announced : step.announced = step.change
  request : ∀ target nowSeconds, step.event = .request target nowSeconds →
    (step.status = .ok ↔ ModeEdge step.before.defs step.before.current target) ∧
    (step.status = .ok → step.after.current = target ∧
      step.after.generation = step.before.generation + 1) ∧
    (step.status ≠ .ok → step.after = step.before)
  restore : ∀ image, step.event = .restore image →
    step.after.generation = step.before.generation ∧
    (∀ restored, image.head? = some restored → ModeDeclared step.before.defs restored →
      step.after.current = restored) ∧
    ((∀ restored, image.head? = some restored → ¬ ModeDeclared step.before.defs restored) →
      step.after = step.before)

/-- A manager over a validated table, in a declared mode. -/
structure ModeManager.Valid (mgr : ModeManager) : Prop where
  table : ModeTable mgr.defs
  current : ModeDeclared mgr.defs mgr.current

theorem modeInit_valid {cfg : Config} {defs : List ModeDef} {initial : UInt8} {sinkWired : Bool}
    (accepted : (modeInit cfg defs initial sinkWired).1 = .ok) :
    (modeInit cfg defs initial sinkWired).2 =
        { defs := defs, current := initial, sinkWired := sinkWired, generation := 0 } ∧
      (modeInit cfg defs initial sinkWired).2.Valid := by
  rw [modeInit] at accepted ⊢
  split at accepted
  · contradiction
  rename_i fits
  rw [if_neg fits]
  cases valid : modeValidate defs with
  | ok =>
      simp only [valid] at accepted ⊢
      split at accepted
      · contradiction
      · rename_i known
        rw [if_neg known]
        refine ⟨rfl, modeValidate_table valid, (modeIndexOf_isSome_iff defs initial).mp ?_⟩
        simpa [Option.isSome_iff_ne_none] using known
  | errBadArg => simp [valid] at accepted
  | errCapacity => simp [valid] at accepted
  | errDuplicate => simp [valid] at accepted
  | errRange => simp [valid] at accepted
  | errNotFound => simp [valid] at accepted
  | errForbidden => simp [valid] at accepted
  | errBufTooSmall => simp [valid] at accepted
  | errTruncated => simp [valid] at accepted

/-- Over a validated table a request is refused, or takes an edge. -/
theorem modeRequest_edge {mgr : ModeManager} (valid : mgr.Valid) (target : UInt8)
    (nowSeconds : UInt32) :
    (¬ ModeEdge mgr.defs mgr.current target ∧ (modeRequest mgr target nowSeconds).1 ≠ .ok ∧
        (modeRequest mgr target nowSeconds).2 = (mgr, none)) ∨
      (ModeEdge mgr.defs mgr.current target ∧
        modeRequest mgr target nowSeconds = (.ok,
          { mgr with current := target, generation := mgr.generation + 1 },
          if mgr.sinkWired then
            some { nowSeconds := nowSeconds, fromMode := mgr.current, toMode := target }
          else none)) := by
  have allowed := modeIsAllowed_iff valid.table target
  have reachable (edge : ModeEdge mgr.defs mgr.current target) :
      target < modeIdMax ∧ (modeIndexOf mgr.defs target).isSome := by
    obtain ⟨mode, member, rfl⟩ := valid.table.targets _ _ edge
    exact ⟨valid.table.inRange mode member,
      (modeIndexOf_isSome_iff mgr.defs mode.id).mpr ⟨mode, member, rfl⟩⟩
  by_cases edge : ModeEdge mgr.defs mgr.current target
  · obtain ⟨inRange, declared⟩ := reachable edge
    have known : ¬(target ≥ modeIdMax ∨ (modeIndexOf mgr.defs target).isNone = true) := by
      rw [not_or]
      exact ⟨UInt8.not_le.mpr inRange, by simpa [Option.isSome_iff_ne_none] using declared⟩
    have permitted : ¬modeIsAllowed mgr target = false := by
      rw [Bool.not_eq_false]
      exact allowed.mpr ⟨inRange, edge⟩
    exact .inr ⟨edge, by rw [modeRequest, if_neg known, if_neg permitted]⟩
  · have forbidden : modeIsAllowed mgr target = false := by
      rw [← Bool.not_eq_true]
      exact fun held => edge (allowed.mp held).2
    left
    rw [modeRequest]
    split
    · exact ⟨edge, by simp, rfl⟩
    · exact ⟨edge, by simp, rfl⟩

/-- A restore names a declared mode and makes it current, or changes nothing. -/
theorem modeDeserializeCurrent_declared {mgr : ModeManager} (valid : mgr.Valid)
    (image : List UInt8) :
    (∃ restored, image.head? = some restored ∧ ModeDeclared mgr.defs restored ∧
        (modeDeserializeCurrent mgr image).2 = { mgr with current := restored }) ∨
      ((∀ restored, image.head? = some restored → ¬ ModeDeclared mgr.defs restored) ∧
        (modeDeserializeCurrent mgr image).2 = mgr) := by
  cases image with
  | nil => exact .inr ⟨fun _ impossible => by simp at impossible, rfl⟩
  | cons restored rest =>
      have long : ¬(restored :: rest).length < 1 := by simp
      have octet : (restored :: rest).getD 0 0 = restored := rfl
      simp only [modeDeserializeCurrent, if_neg long, octet, List.head?_cons, Option.some.injEq]
      by_cases declared : ModeDeclared mgr.defs restored
      · obtain ⟨mode, member, rfl⟩ := declared
        have inRange := UInt8.not_le.mpr (valid.table.inRange mode member)
        have known := (modeIndexOf_isSome_iff mgr.defs mode.id).mpr ⟨mode, member, rfl⟩
        have present : ¬(modeIndexOf mgr.defs mode.id).isNone = true := by
          simpa [Option.isSome_iff_ne_none] using known
        rw [if_neg inRange, if_neg present]
        exact .inl ⟨mode.id, rfl, ⟨mode, member, rfl⟩, rfl⟩
      · have absent : (modeIndexOf mgr.defs restored).isNone = true := by
          rw [Option.isNone_iff_eq_none, ← Option.not_isSome_iff_eq_none]
          exact fun held => declared ((modeIndexOf_isSome_iff mgr.defs restored).mp held)
        right
        refine ⟨fun other same => same ▸ declared, ?_⟩
        split <;> rfl

/-- One step from a valid manager is safe and leaves a valid one. -/
theorem modeStep_safe {mgr : ModeManager} (valid : mgr.Valid) (event : ModeEvent) :
    StepSafe (modeStep mgr event) ∧ (modeStep mgr event).after.Valid := by
  cases event with
  | request target nowSeconds =>
      have step : modeStep mgr (.request target nowSeconds) =
          { event := .request target nowSeconds
            before := mgr
            status := (modeRequest mgr target nowSeconds).1
            after := (modeRequest mgr target nowSeconds).2.1
            announced := (modeRequest mgr target nowSeconds).2.2 } := rfl
      rw [step]
      rcases modeRequest_edge valid target nowSeconds with ⟨noEdge, refused, same⟩ | ⟨edge, result⟩
      · rw [same]
        refine ⟨⟨⟨rfl, rfl⟩, valid.current, ?_, ?_, by simp⟩, valid⟩
        · simp [ModeStep.change, refused]
        · intro other time sameEvent
          obtain ⟨rfl, _⟩ := ModeEvent.request.inj sameEvent
          exact ⟨iff_of_false refused noEdge, fun succeeded => absurd succeeded refused,
            fun _ => rfl⟩
      · have declared := valid.table.targets _ _ edge
        rw [result]
        refine ⟨⟨⟨rfl, rfl⟩, declared, ?_, ?_, by simp⟩, ⟨valid.table, declared⟩⟩
        · simp only [ModeStep.change, true_and]
        · intro other time sameEvent
          obtain ⟨rfl, _⟩ := ModeEvent.request.inj sameEvent
          exact ⟨iff_of_true rfl edge, fun _ => ⟨rfl, rfl⟩, fun failed => absurd rfl failed⟩
  | restore image =>
      have step : modeStep mgr (.restore image) =
          { event := .restore image
            before := mgr
            status := (modeDeserializeCurrent mgr image).1
            after := (modeDeserializeCurrent mgr image).2
            announced := none } := rfl
      rw [step]
      rcases modeDeserializeCurrent_declared valid image with
        ⟨restored, named, declared, result⟩ | ⟨unknown, result⟩
      · rw [result]
        refine ⟨⟨⟨rfl, rfl⟩, declared, rfl, by simp, ?_⟩, ⟨valid.table, declared⟩⟩
        intro other sameEvent
        obtain rfl := ModeEvent.restore.inj sameEvent
        refine ⟨rfl, fun again held _ => ?_, fun unknown => absurd declared (unknown _ named)⟩
        exact Option.some.inj (named.symm.trans held)
      · rw [result]
        refine ⟨⟨⟨rfl, rfl⟩, valid.current, rfl, by simp, ?_⟩, valid⟩
        intro other sameEvent
        obtain rfl := ModeEvent.restore.inj sameEvent
        exact ⟨rfl, fun restored named declared => absurd declared (unknown restored named),
          fun _ => rfl⟩

/-! ### Runs -/

/-- Every step of a run is safe, and the manager stays valid. -/
theorem modeTrace_safe {mgr : ModeManager} (valid : mgr.Valid) (events : List ModeEvent) :
    (∀ step ∈ modeTrace mgr events, StepSafe step) ∧ (modeFinal mgr events).Valid := by
  induction events generalizing mgr with
  | nil => exact ⟨by simp [modeTrace], valid⟩
  | cons event rest inductionHypothesis =>
      obtain ⟨safe, stays⟩ := modeStep_safe valid event
      obtain ⟨later, final⟩ := inductionHypothesis stays
      refine ⟨fun step member => ?_, final⟩
      rw [modeTrace, List.mem_cons] at member
      rcases member with rfl | inRest
      · exact safe
      · exact later step inRest

/-- The sink hears the successful requests, in order. -/
theorem modeTrace_announced {mgr : ModeManager} (valid : mgr.Valid) (events : List ModeEvent) :
    (modeTrace mgr events).filterMap ModeStep.announced =
      (modeTrace mgr events).filterMap ModeStep.change := by
  apply List.filterMap_congr
  intro step member
  exact ((modeTrace_safe valid events).1 step member).announced

theorem modeTrace_append (mgr : ModeManager) (first second : List ModeEvent) :
    modeTrace mgr (first ++ second) =
      modeTrace mgr first ++ modeTrace (modeFinal mgr first) second := by
  induction first generalizing mgr with
  | nil => rfl
  | cons event rest inductionHypothesis =>
      rw [List.cons_append, modeTrace, modeTrace, inductionHypothesis, List.cons_append]
      rfl

end FswCore
