import FswCore.App.Provenance
import FswCore.Nvstore.RecordKinds

/-!
Contract: where the telecommands of a whole mission come from, over its saves, cuts and
power cycles.

Owns:
- `RecordsBring`: the schedule records, in memory and in every image on flash, restore
  telecommands of one kind;
- a save tick puts what the schedule holds, if it fits, and a start-up restores what
  was put, in whichever save;
- `MissionHistory`, missions with the octets received in each power cycle, for any
  buffers, counters and sequence numbers, and any faults of a save;
- whatever a mission dispatches was commanded, if not in this power cycle then in an
  earlier one.

Does not own: which of the saves a start-up restores.
-/

namespace FswCore

open Library

variable {geometry : NvGeometry} {cfg : Config} {build : AppBuild}

/-! ### Records -/

/-- What the schedule records restore, on whatever the schedule holds, is of this kind. -/
def RecordsBring (cfg : Config) (Kind : List UInt8 → Prop) (records : List Record) : Prop :=
  ∀ record ∈ records, record.1 = NvRecordType.schedule.code →
    ∀ sched, (scheduleDeserialize cfg sched record.2).2.Holds Kind

section Records

variable {Kind Wider : List UInt8 → Prop}

theorem Schedule.Holds.mono {sched : Schedule} (holds : sched.Holds Kind)
    (wider : ∀ tc, Kind tc → Wider tc) : sched.Holds Wider :=
  fun activity member => wider activity.tc (holds activity member)

theorem RecordsBring.mono {records : List Record} (brings : RecordsBring cfg Kind records)
    (wider : ∀ tc, Kind tc → Wider tc) : RecordsBring cfg Wider records :=
  fun record member isSchedule sched => (brings record member isSchedule sched).mono wider

theorem recordsBring_nil : RecordsBring cfg Kind [] :=
  fun _ none => absurd none List.not_mem_nil

theorem RecordsBring.erase {records : List Record} (brings : RecordsBring cfg Kind records)
    (tag : UInt8) : RecordsBring cfg Kind (eraseTag tag records) :=
  fun record member => brings record ((eraseTag_sublist tag records).subset member)

/-- The image of a bounded schedule restores what the schedule holds. -/
theorem scheduleSerialize_brings (admitted : cfg.KconfigAdmitted) {saved : Schedule}
    (bounded : saved.Bounded cfg) (holds : saved.Holds Kind) {outCap : Nat} {bytes : List UInt8}
    (written : scheduleSerialize saved outCap = .ok bytes) (sched : Schedule) :
    (scheduleDeserialize cfg sched bytes).2.Holds Kind := by
  have slots : cfg.scheduleCapacity < 65536 := by
    have most := admitted.scheduleCapacity.2
    omega
  have octets : cfg.scheduleTcMax < 65536 := by
    have most := admitted.scheduleTcMax.2
    omega
  rw [scheduleSerialize_eq] at written
  by_cases fits : (scheduleImage (if saved.enabled then 1 else 0) saved.activities).length ≤ outCap
  · rw [if_pos fits] at written
    rw [← Except.ok.inj written, scheduleDeserialize_restores bounded slots octets]
    exact holds
  · rw [if_neg fits] at written
    contradiction

/-- Whichever subsystem is put, the schedule record is that of the schedule. -/
theorem RecordsBring.replace (admitted : cfg.KconfigAdmitted) {subs : Subsystems}
    (within : subs.Within cfg) (holds : subs.schedule.Holds Kind) {records : List Record}
    (brings : RecordsBring cfg Kind records) {recordType : NvRecordType} {outCap : Nat}
    {bytes : List UInt8} (written : subs.serialize outCap recordType = some bytes) :
    RecordsBring cfg Kind (replaceTag recordType.code bytes records) := by
  intro record member isSchedule
  rcases List.mem_append.mp member with old | new
  · exact brings.erase recordType.code record old isSchedule
  · obtain rfl := List.mem_singleton.mp new
    obtain rfl := NvRecordType.code_injective isSchedule
    have isOk : scheduleSerialize subs.schedule outCap = .ok bytes := by
      simp only [Subsystems.serialize] at written
      cases done : scheduleSerialize subs.schedule outCap with
      | error status => simp [done, Except.toOption] at written
      | ok image => simpa [done, Except.toOption] using written
    exact scheduleSerialize_brings admitted within.schedule holds isOk

/-- The puts of a save tick. -/
theorem autosavePuts_brings (admitted : cfg.KconfigAdmitted) {subs : Subsystems}
    (within : subs.Within cfg) (holds : subs.schedule.Holds Kind) {before : AutosaveState}
    (stored : StoreOf (RecordsBring cfg Kind) before.store) :
    StoreOf (RecordsBring cfg Kind) (autosavePuts subs before).2.store := by
  apply List.foldlRecOn (motive := fun result : Bool × AutosaveState =>
    StoreOf (RecordsBring cfg Kind) result.2.store) nvRecordTypes (autosavePut subs) stored
  intro result stored recordType _
  cases nvAutosaveTick_cases result.2.store recordType.code
      (subs.serialize (nvBufCap recordType) recordType) (subs.generation recordType)
      (result.2.lastSavedGen recordType) with
  | skipped isResult =>
      simp only [autosavePut, isResult]
      exact stored
  | full bytes _ isFull isResult =>
      simp only [autosavePut, isResult]
      obtain ⟨records, isStream, brings⟩ := stored
      have done := nvstorePut_holds isStream recordType.code bytes
      split at done
      · exact absurd done.1 isFull
      · exact ⟨_, done.2, brings.erase recordType.code⟩
  | put bytes written _ _ isResult =>
      simp only [autosavePut, isResult]
      exact stored.put (fun records brings => brings.erase recordType.code)
        fun records brings => brings.replace admitted within holds written

/-- What a start-up restores. -/
theorem appRestore_brings (tables : AppTables) {loaded : NvstoreStatus × Nvstore}
    (stored : StoreOf (RecordsBring cfg Kind) loaded.2) :
    (appRestore cfg tables loaded).schedule.Holds Kind := by
  obtain ⟨records, isStream, brings⟩ := stored
  have start : (subsystemsInit cfg tables).schedule.Holds Kind :=
    fun activity none => absurd none List.not_mem_nil
  rw [appRestore]
  split
  · apply List.foldlRecOn (motive := fun subs : Subsystems => subs.schedule.Holds Kind)
      nvRecordTypes _ start
    intro subs holds recordType _
    rw [nvstoreGet_eq isStream]
    cases tagSplit recordType.code records with
    | absent _ lookup _ =>
        rw [lookup]
        exact holds
    | present before body after split _ lookup _ =>
        rw [lookup]
        have member : (recordType.code, body) ∈ records := by
          rw [split]
          exact List.mem_append_right before List.mem_cons_self
        cases recordType with
        | schedule => exact brings _ member rfl subs.schedule
        | datapool | hkstore | mode => exact holds
  · exact start

end Records

/-! ### Missions -/

/-- What the flash calls of a save tick run into: nothing, or what stops it with the
sector as it was, invalid or complete. -/
def Mission.SaveStops (mission : Mission geometry cfg) (fault : FlashFault geometry) : Prop :=
  ∀ subs, mission.subsystems = some subs →
    TickFault ⟨subs, mission.autosave, mission.flash⟩ fault

/-- The missions from a first power-up, with the octets received since the last power-up
and, latest first, in the power cycles before it. A save tick may fail and the loop go on. -/
inductive MissionHistory (cfg : Config) (build : AppBuild) :
    Mission geometry cfg → List UInt8 → List (List UInt8) → Prop where
  | powerUp (power : PowerUp cfg) (flash : Flash geometry)
      (blank : ∀ slot, imageSlots flash slot = none) :
      MissionHistory cfg build (powerUp cfg build power flash) [] []
  | tick {mission octets earlier} (tick : LoopTick)
      (history : MissionHistory cfg build mission octets earlier) :
      MissionHistory cfg build (missionEvent build mission (.tick tick)) (octets ++ tick.octets)
        earlier
  | save {mission octets earlier} (fault : FlashFault geometry) (stops : mission.SaveStops fault)
      (history : MissionHistory cfg build mission octets earlier) :
      MissionHistory cfg build (missionEvent build mission (.save fault)) octets earlier
  | powerCycle {mission octets earlier} (power : PowerUp cfg)
      (history : MissionHistory cfg build mission octets earlier) :
      MissionHistory cfg build (missionEvent build mission (.powerCycle power)) []
        (octets :: earlier)

theorem MissionHistory.ticks {mission : Mission geometry cfg} {octets : List UInt8}
    {earlier : List (List UInt8)} (history : MissionHistory cfg build mission octets earlier)
    (ticks : List LoopTick) :
    MissionHistory cfg build { mission with main := tickRun mission.main ticks }
      (octets ++ ticks.flatMap LoopTick.octets) earlier := by
  induction ticks generalizing mission octets with
  | nil => rwa [List.flatMap_nil, List.append_nil]
  | cons tick rest inductionHypothesis =>
      have stepped := inductionHypothesis (history.tick tick)
      rw [List.append_assoc] at stepped
      exact stepped

/-- The loop, the payload and every image on flash hold what was commanded. -/
structure HistoryHolds (octets : List UInt8) (earlier : List (List UInt8))
    (mission : Mission geometry cfg) : Prop where
  uplink : UplinkHolds octets earlier mission.main
  within : ∀ subs, mission.subsystems = some subs → subs.Within cfg
  stored : StoreOf (RecordsBring cfg (Commanded cfg (octets :: earlier))) mission.autosave.store
  images : ImagesOf (RecordsBring cfg (Commanded cfg (octets :: earlier))) mission.flash

theorem startedSubsystems_schedule (power : PowerUp cfg) (subs : Subsystems) :
    (startedSubsystems cfg power subs).schedule = subs.schedule := by
  rw [startedSubsystems]
  split <;> rfl

/-- Every start-up on flash that holds what was commanded. -/
theorem powerUp_history (accepted : backendOk geometry = true) (power : PowerUp cfg)
    {flash : Flash geometry} {epochs : List (List UInt8)}
    (images : ImagesOf (RecordsBring cfg (Commanded cfg epochs)) flash) :
    HistoryHolds [] epochs (powerUp cfg build power flash) := by
  have later (records : List Record) (brings : RecordsBring cfg (Commanded cfg epochs) records) :
      RecordsBring cfg (Commanded cfg ([] :: epochs)) records :=
    brings.mono fun tc commanded => commanded.later []
  have stored := (images.mono later).reboot accepted recordsBring_nil power.buffer
  have held : (powerUp cfg build power flash).subsystems = some (startedSubsystems cfg power
      (appRestore cfg build.tables (nvReboot power.memory flash))) := appMain_subsystems power _
  refine ⟨⟨?_, appMain_framer power _, fun sched wired => ?_⟩, fun subs isHeld => ?_, stored,
    images.mono later⟩
  · have tally := (appMain_account build power (appRestore cfg build.tables
      (nvReboot power.memory flash))).2
    exact congrArg RouterTally.apid tally
  · obtain ⟨_, isWired, same⟩ := Components.subsystems_schedule held
    obtain rfl := Option.some.inj (isWired.symm.trans wired)
    rw [same, startedSubsystems_schedule]
    exact appRestore_brings build.tables stored
  · obtain rfl := Option.some.inj (held.symm.trans isHeld)
    have params : build.tables.params.length ≤ 3 := Nat.le_refl 3
    obtain ⟨mutations, _, started⟩ :=
      startedSubsystems_run power (appRestore cfg build.tables (nvReboot power.memory flash))
    rw [started]
    exact (Subsystems.Within.appRestore cfg params _).mutates mutations

namespace HistoryHolds

variable {octets : List UInt8} {earlier : List (List UInt8)} {mission : Mission geometry cfg}

theorem tick (holds : HistoryHolds octets earlier mission) (tick : LoopTick) :
    HistoryHolds (octets ++ tick.octets) earlier (missionEvent build mission (.tick tick)) := by
  have further (records : List Record)
      (brings : RecordsBring cfg (Commanded cfg (octets :: earlier)) records) :
      RecordsBring cfg (Commanded cfg ((octets ++ tick.octets) :: earlier)) records :=
    brings.mono fun tc commanded => commanded.further tick.octets
  refine ⟨holds.uplink.step tick, fun after isHeld => ?_, holds.stored.mono further,
    holds.images.mono further⟩
  have mutated := mission.main.components.after_subsystems
    (tickCalls_restoresNothing mission.main tick)
  rw [← loopTick_calls mission.main tick] at mutated
  obtain ⟨subs, held, rfl⟩ := Option.map_eq_some_iff.mp (mutated.symm.trans isHeld)
  exact (holds.within subs held).mutates _

/-- A save tick, whether it saves, fails or has nothing to put. -/
theorem save (holds : HistoryHolds octets earlier mission) (accepted : backendOk geometry = true)
    (admitted : cfg.KconfigAdmitted) {fault : FlashFault geometry}
    (stops : mission.SaveStops fault) :
    HistoryHolds octets earlier (missionEvent build mission (.save fault)) := by
  have main := mission.save_main fault
  suffices kept :
      StoreOf (RecordsBring cfg (Commanded cfg (octets :: earlier)))
          (mission.save fault).autosave.store ∧
        ImagesOf (RecordsBring cfg (Commanded cfg (octets :: earlier)))
          (mission.save fault).flash by
    rw [missionEvent]
    refine ⟨main ▸ holds.uplink, fun subs isHeld => ?_, kept.1, kept.2⟩
    rw [Mission.subsystems, main] at isHeld
    exact holds.within subs isHeld
  cases held : mission.subsystems with
  | none =>
      have idle : mission.save fault = mission := by simp only [Mission.save, held]
      rw [idle]
      exact ⟨holds.stored, holds.images⟩
  | some subs =>
      obtain ⟨sched, wired, same⟩ := Components.subsystems_schedule held
      have commands : subs.schedule.Holds (Commanded cfg (octets :: earlier)) :=
        same ▸ holds.uplink.scheduled sched wired
      have puts := autosavePuts_brings admitted (holds.within subs held) commands holds.stored
      have stopped := stops subs held
      cases done : autosavePuts subs mission.autosave with
      | mk dirty autosave =>
          rw [TickFault, done] at stopped
          rw [done] at puts
          cases dirty with
          | false =>
              rw [Mission.save_idle held done]
              exact ⟨puts, holds.images⟩
          | true =>
              have saved := holds.images.save accepted ⟨mission.flash, autosave.store⟩ puts stopped
              rw [Mission.save_puts held done]
              exact ⟨saved.2, saved.1⟩

end HistoryHolds

/-- Whatever a mission hands to its router, ground has commanded: it was framed in this
power cycle or in an earlier one, or an accepted insertion that was commanded carries it.
In either case the octets were received, one behind the other, in one power cycle. -/
theorem missionHistory_commanded (accepted : backendOk geometry = true)
    (admitted : cfg.KconfigAdmitted) {mission : Mission geometry cfg} {octets : List UInt8}
    {earlier : List (List UInt8)} (history : MissionHistory cfg build mission octets earlier)
    {tick : LoopTick} {dispatch : TickDispatch cfg}
    (handed : mission.main.dispatches tick = some dispatch) :
    Commanded cfg ((octets ++ tick.octets) :: earlier) dispatch.tc ∧
      ∃ epoch ∈ (octets ++ tick.octets) :: earlier, dispatch.tc <:+: epoch := by
  suffices holds : HistoryHolds octets earlier mission from
    ⟨holds.uplink.commanded handed, (holds.uplink.commanded handed).heard⟩
  clear handed
  induction history with
  | powerUp power flash blank =>
      have holds : HistoryHolds [] [] (powerUp cfg build power flash) :=
        powerUp_history accepted power (imagesOf_blank blank)
      exact holds
  | tick tick history holds => exact holds.tick tick
  | save fault stops history holds => exact holds.save accepted admitted stops
  | powerCycle power history holds => exact powerUp_history accepted power holds.images

/-- The schedule is enabled, and a connection test inserted into it for 40 seconds. -/
def insertedTest : List UInt8 :=
  [0x19, 0, 0xC0, 2, 0, 6, 0x20, 11, 1, 0, 0, 0x38, 0x42] ++
    [0x19, 0, 0xC0, 0, 0, 24, 0x20, 11, 4, 0, 0, 1, 0, 0, 0, 40, 0x19, 0, 0xC0, 1, 0, 6, 0x20,
      17, 1, 0, 0, 0x83, 0x3B, 0xA1, 0xD8]

/-- Inserted, saved, and released in the next power cycle. -/
theorem missionHistory_commanded_restored :
    let geometry : NvGeometry := { sectorSize := 2048, sectorCount := 2, writeBlock := 32 }
    let started := powerUp defaultConfig watchfulBuild (zeroedPowerUp defaultConfig 0)
      (erasedFlash geometry)
    let inserted : Mission geometry defaultConfig :=
      { started with
        main := tickRun started.main (insertedTest.map fun byte => .receive 9 0 (some byte)) }
    let rebooted := missionEvent watchfulBuild (missionEvent watchfulBuild inserted (.save .none))
      (.powerCycle (zeroedPowerUp defaultConfig 3))
    ∃ dispatch, rebooted.main.dispatches (.release 40) = some dispatch ∧
      Commanded defaultConfig [[], insertedTest] dispatch.tc := by
  intro geometry started inserted rebooted
  have accepted : backendOk geometry = true := by decide
  have history : MissionHistory defaultConfig watchfulBuild inserted insertedTest [] :=
    (MissionHistory.powerUp (zeroedPowerUp defaultConfig 0) _ (imageSlots_erased geometry)).ticks
      (insertedTest.map fun byte => .receive 9 0 (some byte))
  have released : (rebooted.main.dispatches (.release 40)).isSome = true := by decide +kernel
  obtain ⟨dispatch, handed⟩ := Option.isSome_iff_exists.mp released
  exact ⟨dispatch, handed, (missionHistory_commanded accepted Config.default_kconfigAdmitted
    ((history.save .none fun _ _ => .inl rfl).powerCycle (zeroedPowerUp defaultConfig 3))
    handed).1⟩

end FswCore
