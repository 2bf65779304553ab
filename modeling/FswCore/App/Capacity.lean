import FswCore.App.Buffers

/-!
Contract: which capacities the autosave's buffers are large enough for.

Owns:
- the application reaches a schedule, and a housekeeping store, of every size up
  to its capacity, with the longest entries;
- every changed subsystem is written in every reached state exactly when the
  buffers hold the worst case.
-/

namespace FswCore

open Library Library.BigEndian

variable {geometry : NvGeometry} {cfg : Config} {tables : AppTables}

/-! ### The first power-up -/

theorem readImage_erased (size : Nat) : readImage (erasedSector size).bytes = none := by
  apply readImage_of_headerInvalid
  intro valid
  have magic := valid.magic
  rw [magicMatches, List.all_eq_true] at magic
  have first := magic 0 (by decide)
  cases size with
  | zero => contradiction
  | succ size => contradiction

theorem imageSlots_erased (geometry : NvGeometry) (slot : Fin 2) :
    imageSlots (erasedFlash geometry) slot = none := by
  rw [imageSlots, erasedFlash, readImage_erased]
  rfl

/-- The application just started on erased flash. -/
def appFirstBoot (geometry : NvGeometry) (cfg : Config) (tables : AppTables) : AppState geometry :=
  appBoot cfg tables nvstoreZero (erasedFlash geometry)

theorem appFirstBoot_reached (cfg : Config) (tables : AppTables) :
    AppReached cfg tables (appFirstBoot geometry cfg tables) :=
  .powerUp nvstoreZero List.length_replicate _ (imageSlots_erased geometry)

theorem appFirstBoot_subs (accepted : backendOk geometry = true) (cfg : Config)
    (tables : AppTables) :
    (appFirstBoot geometry cfg tables).subs = subsystemsInit cfg tables := by
  have loads : LoadsAs (nvReboot nvstoreZero (erasedFlash geometry))
      (newest (imageSlots (erasedFlash geometry))) :=
    nvReboot_loads accepted _ List.length_replicate
  rw [(newest_eq_none_iff _).mpr (imageSlots_erased geometry)] at loads
  have nothing : ¬ (nvReboot nvstoreZero (erasedFlash geometry)).1 = .ok := by
    rw [loads.1]
    decide
  exact if_neg nothing

/-! ### A full schedule -/

/-- A telecommand of the largest size, with its number as request identifier. -/
def largestTc (cfg : Config) (number : Nat) : List UInt8 :=
  put32 (UInt32.ofNat number) ++ List.replicate (cfg.scheduleTcMax - 4) 0

structure ScheduleFilled (cfg : Config) (count : Nat) (state : AppState geometry) : Prop where
  unsaved : state.autosave.lastSavedGen .schedule = 0
  generation : state.subs.schedule.generation = UInt32.ofNat count
  length : state.subs.schedule.activities.length = count
  longest : ∀ activity ∈ state.subs.schedule.activities,
    activity.tc.length = cfg.scheduleTcMax ∧
      ∃ number < count, requestIdOf activity.tc = put32 (UInt32.ofNat number)

theorem requestIdOf_largestTc (cfg : Config) (number : Nat) :
    requestIdOf (largestTc cfg number) = put32 (UInt32.ofNat number) := rfl

theorem largestTc_length (admitted : cfg.KconfigAdmitted) (number : Nat) :
    (largestTc cfg number).length = cfg.scheduleTcMax := by
  have least := admitted.scheduleTcMax.1
  simp only [largestTc, List.length_append, put32_length, List.length_replicate]
  omega

/-- One more command of the largest size. -/
theorem ScheduleFilled.insert (admitted : cfg.KconfigAdmitted) {state : AppState geometry}
    {count : Nat} (filled : ScheduleFilled cfg count state) (room : count < cfg.scheduleCapacity) :
    ScheduleFilled cfg (count + 1)
      (appEvent cfg state (.mutate (.schedule (.insert 0 (largestTc cfg count))))) := by
  have most := admitted.scheduleCapacity.2
  have fresh (activity : ScheduleActivity) (member : activity ∈ state.subs.schedule.activities) :
      requestIdOf activity.tc ≠ requestIdOf (largestTc cfg count) := by
    obtain ⟨_, number, below, isNumber⟩ := filled.longest activity member
    rw [isNumber, requestIdOf_largestTc]
    intro same
    have equal := congrArg UInt32.toNat (put32_injective same)
    rw [UInt32.toNat_ofNat_of_lt' (by rw [UInt32.size]; omega),
      UInt32.toNat_ofNat_of_lt' (by rw [UInt32.size]; omega)] at equal
    omega
  have long := largestTc_length admitted count
  have identified : scheduleRequestIdSize ≤ (largestTc cfg count).length := by
    rw [long, scheduleRequestIdSize]
    exact Nat.le_trans (by decide) admitted.scheduleTcMax.1
  have space : scheduleCount state.subs.schedule < cfg.scheduleCapacity := by
    rw [scheduleCount, filled.length]
    exact room
  have inserted := @scheduleInsert_ok cfg state.subs.schedule 0 _ identified
    (Nat.le_of_eq long) fresh space
  refine ⟨filled.unsaved, ?_, ?_, ?_⟩
  all_goals simp only [appEvent, Subsystems.mutate, scheduleApply, inserted]
  · rw [filled.generation, UInt32.ofNat_add]
    rfl
  · rw [List.length_append, filled.length, List.length_singleton]
  · intro activity member
    rcases List.mem_append.mp member with old | new
    · obtain ⟨length, number, below, isNumber⟩ := filled.longest activity old
      exact ⟨length, number, by omega, isNumber⟩
    · rw [List.mem_singleton.mp new]
      exact ⟨long, count, by omega, requestIdOf_largestTc cfg count⟩

theorem scheduleFilled_reached (accepted : backendOk geometry = true)
    (admitted : cfg.KconfigAdmitted) (tables : AppTables) (count : Nat)
    (room : count ≤ cfg.scheduleCapacity) :
    ∃ state : AppState geometry, AppReached cfg tables state ∧ ScheduleFilled cfg count state := by
  induction count with
  | zero =>
      refine ⟨_, appFirstBoot_reached cfg tables, rfl, ?_, ?_, ?_⟩ <;>
        rw [appFirstBoot_subs accepted]
      · rfl
      · rfl
      · intro activity member
        contradiction
  | succ count inductionHypothesis =>
      obtain ⟨state, reached, filled⟩ := inductionHypothesis (by omega)
      exact ⟨_, reached.mutate _, filled.insert admitted room⟩

theorem scheduleImage_length_eq {activities : List ScheduleActivity} {longest : Nat}
    (equal : ∀ activity ∈ activities, activity.tc.length = longest) (flag : UInt8) :
    (scheduleImage flag activities).length = 3 + activities.length * (6 + longest) := by
  have body : (activities.flatMap scheduleActivityImage).length =
      (6 + longest) * activities.length := by
    apply length_flatMap_eq
    intro activity member
    rw [scheduleActivityImage_length, equal activity member]
  rw [Nat.mul_comm] at body
  simp only [scheduleImage, List.length_append, put16_length, List.length_singleton, body]

/-- A schedule too long for its buffer is not written. -/
theorem ScheduleFilled.notWritten {count : Nat} {state : AppState geometry}
    (filled : ScheduleFilled cfg count state) (positive : 0 < count) (small : count ≤ 256)
    (long : nvBufCap .schedule < 3 + count * (6 + cfg.scheduleTcMax)) : ¬ TickWrites state := by
  intro writes
  have changed : state.subs.generation .schedule ≠ state.autosave.lastSavedGen .schedule := by
    rw [filled.unsaved, Subsystems.generation, filled.generation]
    intro zero
    have equal := congrArg UInt32.toNat zero
    rw [UInt32.toNat_ofNat_of_lt' (by rw [UInt32.size]; omega)] at equal
    exact absurd equal (Nat.ne_of_gt positive)
  obtain ⟨bytes, serialized, _⟩ := writes .schedule changed
  have length := scheduleImage_length_eq (fun activity member =>
    (filled.longest activity member).1) (if state.subs.schedule.enabled then 1 else 0)
  rw [filled.length] at length
  rw [Subsystems.serialize, scheduleSerialize_eq, if_neg (by omega)] at serialized
  contradiction

/-! ### A full housekeeping store -/

/-- The identifier of the structure with this number. -/
def fillSid (number : Nat) : UInt16 := UInt16.ofNat (256 + number)

theorem fillSid_toNat {number : Nat} (small : number ≤ 256) :
    (fillSid number).toNat = 256 + number := by
  rw [fillSid, UInt16.toNat_ofNat_of_lt']
  rw [UInt16.size]
  omega

structure HkstoreFilled (cfg : Config) (count : Nat) (state : AppState geometry) : Prop where
  unsaved : state.autosave.lastSavedGen .hkstore = 0
  generation : state.subs.hkstore.generation = UInt32.ofNat count
  wellFormed : state.subs.hkstore.WellFormed cfg
  length : state.subs.hkstore.held.length = count
  longest : ∀ held ∈ state.subs.hkstore.held, held.paramIds.length = cfg.hkstoreMaxParams ∧
    ∃ number < count, held.sid = fillSid number

/-- One more structure of the largest size. -/
theorem HkstoreFilled.create (admitted : cfg.KconfigAdmitted) {state : AppState geometry}
    {count : Nat} (filled : HkstoreFilled cfg count state) (room : count < cfg.hkstoreCapacity) :
    HkstoreFilled cfg (count + 1)
      (appEvent cfg state (.mutate (.hkstore
        (.create (fillSid count) (List.replicate cfg.hkstoreMaxParams 0) 0)))) := by
  have most := admitted.hkstoreCapacity.2
  have params := admitted.hkstoreMaxParams.1
  have sid := fillSid_toNat (show count ≤ 256 by omega)
  have sidFloor : hkstoreSidMin ≤ fillSid count := by
    rw [UInt16.le_iff_toNat_le, sid]
    exact Nat.le_add_right 256 count
  have fresh (held : HkStructure) (member : held ∈ state.subs.hkstore.held) :
      held.sid ≠ fillSid count := by
    obtain ⟨_, number, below, isSid⟩ := filled.longest held member
    rw [isSid]
    intro same
    have equal := congrArg UInt16.toNat same
    rw [sid, fillSid_toNat (by omega)] at equal
    omega
  have space : state.subs.hkstore.held.length < state.subs.hkstore.structures.length := by
    rw [filled.length, filled.wellFormed.slots]
    exact room
  have nonempty : List.replicate cfg.hkstoreMaxParams (0 : UInt16) ≠ [] := by
    rw [← List.length_pos_iff, List.length_replicate]
    exact params
  have created := @hkstoreCreate_ok cfg _ _ _ 0 nonempty sidFloor
    (Nat.le_of_eq List.length_replicate) fresh space
  rcases hkstoreCreate_cases cfg state.subs.hkstore (fillSid count)
    (List.replicate cfg.hkstoreMaxParams 0) 0 with ⟨refused, _⟩ | ⟨_, done⟩
  · exact absurd created refused
  obtain ⟨left, right, before, after⟩ := done.change
  have oldHeld : state.subs.hkstore.held = occupied left ++ occupied right := by
    rw [Hkstore.held, before, occupied_append, occupied_cons_none]
  refine ⟨filled.unsaved, ?_, ?_, ?_, ?_⟩
  all_goals simp only [appEvent, Subsystems.mutate, hkstoreApply]
  · rw [done.generation, filled.generation, UInt32.ofNat_add]
    rfl
  · exact filled.wellFormed.create _ _ _
  · rw [Hkstore.held, after, occupied_append, occupied_cons_some, List.length_append,
      List.length_cons, ← Nat.add_assoc, ← List.length_append, ← oldHeld, filled.length]
  · intro held member
    rw [Hkstore.held, after, occupied_append, occupied_cons_some] at member
    have isNew : held ∈ state.subs.hkstore.held ∨ held =
        { sid := fillSid count, paramIds := List.replicate cfg.hkstoreMaxParams 0
          intervalSec := 0, lastEmitSec := 0, enabled := false } := by
      rw [oldHeld]
      simp only [List.mem_append, List.mem_cons] at member ⊢
      grind
    rcases isNew with old | rfl
    · obtain ⟨length, number, below, isSid⟩ := filled.longest held old
      exact ⟨length, number, by omega, isSid⟩
    · exact ⟨List.length_replicate, count, by omega, rfl⟩

theorem hkstoreFilled_reached (accepted : backendOk geometry = true)
    (admitted : cfg.KconfigAdmitted) (tables : AppTables) (count : Nat)
    (room : count ≤ cfg.hkstoreCapacity) :
    ∃ state : AppState geometry, AppReached cfg tables state ∧ HkstoreFilled cfg count state := by
  induction count with
  | zero =>
      have empty : (hkstoreInit cfg).held = [] := by simp [Hkstore.held, hkstoreInit]
      refine ⟨_, appFirstBoot_reached cfg tables, rfl, ?_, ?_, ?_, ?_⟩ <;>
        rw [appFirstBoot_subs accepted]
      · rfl
      · exact hkstoreInit_wellFormed cfg
      · exact congrArg List.length empty
      · intro held member
        rw [show (subsystemsInit cfg tables).hkstore.held = [] from empty] at member
        contradiction
  | succ count inductionHypothesis =>
      obtain ⟨state, reached, filled⟩ := inductionHypothesis (by omega)
      exact ⟨_, reached.mutate _, filled.create admitted room⟩

theorem hkstoreImage_length_eq {held : List HkStructure} {longest : Nat}
    (equal : ∀ one ∈ held, one.paramIds.length = longest) :
    (hkstoreImage held).length = 2 + held.length * (8 + 2 * longest) := by
  have body : (held.flatMap hkStructureImage).length = (8 + 2 * longest) * held.length := by
    apply length_flatMap_eq
    intro one member
    rw [hkStructureImage_length, equal one member]
  rw [hkstoreImage, List.length_append, put16_length, body, Nat.mul_comm]

/-- A store too long for its buffer is not written. -/
theorem HkstoreFilled.notWritten {count : Nat} {state : AppState geometry}
    (filled : HkstoreFilled cfg count state) (positive : 0 < count) (small : count ≤ 256)
    (long : nvBufCap .hkstore < 2 + count * (8 + 2 * cfg.hkstoreMaxParams)) :
    ¬ TickWrites state := by
  intro writes
  have changed : state.subs.generation .hkstore ≠ state.autosave.lastSavedGen .hkstore := by
    rw [filled.unsaved, Subsystems.generation, filled.generation]
    intro zero
    have equal := congrArg UInt32.toNat zero
    rw [UInt32.toNat_ofNat_of_lt' (by rw [UInt32.size]; omega)] at equal
    exact absurd equal (Nat.ne_of_gt positive)
  obtain ⟨bytes, serialized, _⟩ := writes .hkstore changed
  have length := hkstoreImage_length_eq fun one member => (filled.longest one member).1
  rw [filled.length] at length
  rw [Subsystems.serialize, hkstoreSerialize_eq filled.wellFormed, if_neg (by omega)] at serialized
  contradiction

/-! ### The capacities the buffers allow -/

/-- For every capacity the menu admits: every changed subsystem is written in
every reached state exactly when the buffers hold the worst case. -/
theorem appReached_writes_iff (accepted : backendOk geometry = true) (cfg : Config)
    (admitted : cfg.KconfigAdmitted) (hkPeriodSec : UInt32) (fwVersion : UInt16)
    (fwBuildId : UInt32) :
    (∀ state : AppState geometry,
      AppReached cfg (appTables hkPeriodSec fwVersion fwBuildId) state → TickWrites state) ↔
        BuffersSuffice cfg := by
  constructor
  · intro writes
    constructor
    · by_contra long
      obtain ⟨state, reached, filled⟩ := scheduleFilled_reached accepted admitted
        (appTables hkPeriodSec fwVersion fwBuildId) cfg.scheduleCapacity (Nat.le_refl _)
      exact filled.notWritten admitted.scheduleCapacity.1 admitted.scheduleCapacity.2
        (Nat.lt_of_not_le long) (writes state reached)
    · by_contra long
      obtain ⟨state, reached, filled⟩ := hkstoreFilled_reached accepted admitted
        (appTables hkPeriodSec fwVersion fwBuildId) cfg.hkstoreCapacity (Nat.le_refl _)
      exact filled.notWritten admitted.hkstoreCapacity.1 admitted.hkstoreCapacity.2
        (Nat.lt_of_not_le long) (writes state reached)
  · intro suffice state reached
    have within := appReached_within accepted suffice (Nat.le_refl _) reached
    exact tickWrites_of_within suffice within.subs within.store

/-- The limits of the library: every state of the application is written. -/
theorem appReached_writes_iff_default :
    BuffersSuffice defaultConfig ∧
      ∀ state : AppState { sectorSize := 2048, sectorCount := 2, writeBlock := 32 },
        AppReached defaultConfig (appTables 10 1 0x20260522) state → TickWrites state :=
  ⟨by decide, (appReached_writes_iff (by decide) defaultConfig Config.default_kconfigAdmitted
    10 1 0x20260522).mpr (by decide)⟩

/-- A schedule of 18 activities: full of commands of the largest size it is not
written. -/
theorem appReached_schedule_unwritten :
    let cfg : Config := { scheduleCapacity := 18 }
    let geometry : NvGeometry := { sectorSize := 2048, sectorCount := 2, writeBlock := 32 }
    let inserts : List SubsystemMutation :=
      (List.range 18).map fun number => .schedule (.insert 0 (largestTc cfg number))
    let full : AppState geometry := inserts.foldl (fun state mutation =>
      appEvent cfg state (.mutate mutation)) (appFirstBoot geometry cfg (appTables 10 1 0x20260522))
    cfg.KconfigAdmitted ∧ AppReached cfg (appTables 10 1 0x20260522) full ∧ ¬ TickWrites full := by
  intro cfg geometry inserts full
  refine ⟨by constructor <;> decide, ?_, fun writes => ?_⟩
  · apply List.foldlRecOn inserts _ (appFirstBoot_reached cfg _)
    intro state reached mutation _
    exact reached.mutate mutation
  · obtain ⟨bytes, serialized, _⟩ := writes .schedule (by decide +kernel)
    have nothing : full.subs.serialize (nvBufCap .schedule) .schedule = none := by decide +kernel
    rw [nothing] at serialized
    contradiction

end FswCore
