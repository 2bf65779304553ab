import FswCore.App.ReportSizes

/-!
Contract: the packet store's size limit against the telemetry of the application.

Owns:
- `LiveTmRecorded`: whatever a run from boot transmits live, a store that records
  takes all of it;
- a build whose limits keep every report below the store's has this property.
-/

namespace FswCore

open Library Library.BigEndian

variable {cfg : Config}

/-! ### Builds -/

/-- A build of the application: limits the menu admits, and those of the library
where the menu has no entry. -/
structure Config.SampleBuild (cfg : Config) : Prop where
  admitted : cfg.KconfigAdmitted
  largedataUnitMax : cfg.largedataUnitMax = 4096
  pus13PartSize : cfg.pus13PartSize = 64

/-- `largedata_demo_unit`, a byte ramp. -/
def largedataDemoUnit : List UInt8 := (List.range 200).map UInt8.ofNat

/-- The session at boot; `demo` is `CONFIG_FSW_LARGEDATA_DEMO`. -/
def largedataBoot (cfg : Config) (demo : Bool) : LargedataSession :=
  if demo then (largedataStart cfg largedataInit 1 largedataDemoUnit).2 else largedataInit

/-- A restore changes the values of the parameters only. -/
theorem appRestore_shapes (cfg : Config) (tables : AppTables) (loaded : NvstoreStatus × Nvstore) :
    shapesOf (appRestore cfg tables loaded).datapool.params =
      shapesOf (subsystemsInit cfg tables).datapool.params := by
  rw [appRestore]
  split
  · apply List.foldlRecOn (motive := fun subs : Subsystems => shapesOf subs.datapool.params =
      shapesOf (subsystemsInit cfg tables).datapool.params) nvRecordTypes _ rfl
    intro subs same recordType _
    split
    · rename_i bytes _
      cases recordType with
      | datapool => exact (datapoolDeserialize_shapes subs.datapool bytes).trans same
      | schedule => exact same
      | hkstore => exact same
      | mode => exact same
    · exact same
  · rfl

/-- A pool too small for the application's table stays empty. -/
theorem appRestore_noParams {hkPeriodSec : UInt32} {fwVersion : UInt16} {fwBuildId : UInt32}
    (few : cfg.datapoolCapacity < 3) (loaded : NvstoreStatus × Nvstore) :
    (appRestore cfg (appTables hkPeriodSec fwVersion fwBuildId) loaded).datapool.params = [] := by
  have shapes := appRestore_shapes cfg (appTables hkPeriodSec fwVersion fwBuildId) loaded
  have refused : (appTables hkPeriodSec fwVersion fwBuildId).params.length >
      cfg.datapoolCapacity := few
  rw [subsystemsInit, datapoolInit, if_pos refused] at shapes
  exact List.map_eq_nil_iff.mp shapes

/-! ### Recording -/

/-- A burst of packets, all of which a store that records takes. -/
structure BurstRecorded (cfg : Config) (sent : List UInt8) (packets : List (List UInt8)) :
    Prop where
  burst : packets.flatten = sent
  complete : ∀ packet ∈ packets, Delimited packet ∧ packet.length ≤ cfg.pktstorePacketMax
  stored : ∀ (store : Pktstore cfg) storeTime, store.Recording →
    pktstoreView (transmitTaps storeTime sent.length sent store) =
      (pktstoreView store ++ packets.map (PktstoreEntry.mk storeTime)).rtake cfg.pktstoreCapacity

theorem SentWithin.recorded {sent : List UInt8}
    (within : SentWithin cfg.pktstorePacketMax sent) :
    ∃ packets, BurstRecorded cfg sent packets := by
  obtain ⟨packets, rfl, complete⟩ := within
  refine ⟨packets, rfl, complete, ?_⟩
  intro store storeTime recording
  rw [transmitTaps_eq, burstPackets_delimited (fun packet member => (complete packet member).1)
    (Nat.le_refl _)]
  apply foldl_pktstoreStore recording
  intro packet member
  have least := (complete packet member).1.least
  exact ⟨by omega, (complete packet member).2⟩

/-- In every run of the application from boot, with whatever was restored and
whatever waits in the event queue, no packet sent live is left out of the store. -/
def LiveTmRecorded (cfg : Config) (demo : Bool) : Prop :=
  ∀ hkPeriodSec fwVersion fwBuildId loaded (fdir : FdirSystem cfg) bootSeconds inputs,
    let subs := appRestore cfg (appTables hkPeriodSec fwVersion fwBuildId) loaded
    let boot := mainBoot cfg subs fdir (largedataBoot cfg demo) bootSeconds
    ∀ output ∈ boot.2 :: (mainRun boot.1 inputs).2,
      ∃ packets, BurstRecorded cfg output.sent packets

/-- The largest reports are within the store's limit: a full schedule summary, a
structure of parameters of four octets, if the pool has any, and a part of a large
data transfer, if there is one. -/
structure ReportsFitStore (cfg : Config) (demo : Bool) : Prop where
  summary : 19 + 8 * cfg.pus11MaxPerTc ≤ cfg.pktstorePacketMax
  structures : 3 ≤ cfg.datapoolCapacity → 20 + 4 * cfg.hkstoreMaxParams ≤ cfg.pktstorePacketMax
  parts : demo = true → pus13PartPacketMax cfg ≤ cfg.pktstorePacketMax

instance (cfg : Config) (demo : Bool) : Decidable (ReportsFitStore cfg demo) :=
  decidable_of_iff
    (19 + 8 * cfg.pus11MaxPerTc ≤ cfg.pktstorePacketMax ∧
      (3 ≤ cfg.datapoolCapacity → 20 + 4 * cfg.hkstoreMaxParams ≤ cfg.pktstorePacketMax) ∧
      (demo = true → pus13PartPacketMax cfg ≤ cfg.pktstorePacketMax))
    ⟨fun fits => ⟨fits.1, fits.2.1, fits.2.2⟩, fun fits => ⟨fits.1, fits.2, fits.3⟩⟩

/-! ### Limits that suffice -/

theorem reportsFit_services (build : cfg.SampleBuild) {demo : Bool}
    (fits : ReportsFitStore cfg demo) (hkPeriodSec : UInt32) (fwVersion : UInt16)
    (fwBuildId : UInt32) (loaded : NvstoreStatus × Nvstore) :
    ServiceSizes cfg
      (some (appRestore cfg (appTables hkPeriodSec fwVersion fwBuildId) loaded).datapool)
      (min cfg.pktstorePacketMax tcRouterMaxReport) := by
  have limits := build.admitted.reportLimits
  have least := build.admitted.pktstorePacketMax.1
  have router : tcRouterMaxReport = 84 := rfl
  constructor
  · exact limits
  · omega
  · exact Nat.min_le_right _ _
  · have summary := fits.summary
    have activities := limits.pus11MaxPerTc
    omega
  · by_cases params : 3 ≤ cfg.datapoolCapacity
    · have structures := fits.structures params
      have values := limits.hkstoreMaxParams
      left
      omega
    · right
      intro dp wired
      rw [← Option.some.inj wired]
      exact appRestore_noParams (Nat.lt_of_not_le params) loaded

theorem largedataBoot_idle (cfg : Config) {demo : Bool} (off : ¬demo = true) :
    (largedataBoot cfg demo).state ≠ .active := by
  rw [largedataBoot, if_neg off]
  decide

/-- The boot event, and the state the loop starts in. -/
theorem mainBoot_sizes (build : cfg.SampleBuild) {demo : Bool} (fits : ReportsFitStore cfg demo)
    (hkPeriodSec : UInt32) (fwVersion : UInt16) (fwBuildId : UInt32)
    (loaded : NvstoreStatus × Nvstore) (fdir : FdirSystem cfg) (bootSeconds : UInt32) :
    let subs := appRestore cfg (appTables hkPeriodSec fwVersion fwBuildId) loaded
    let boot := mainBoot cfg subs fdir (largedataBoot cfg demo) bootSeconds
    SentWithin cfg.pktstorePacketMax boot.2.sent ∧
      boot.1.Sizes (min cfg.pktstorePacketMax tcRouterMaxReport) cfg.pktstorePacketMax := by
  intro subs boot
  have services := reportsFit_services build fits hkPeriodSec fwVersion fwBuildId loaded
  have least := build.admitted.pktstorePacketMax.1
  have partSize : cfg.pus13PartSize + 18 < 65536 := by
    rw [build.pus13PartSize]
    decide
  have params : (appTables hkPeriodSec fwVersion fwBuildId).params.length ≤ 3 := Nat.le_refl _
  have within : subs.Within cfg := Subsystems.Within.appRestore cfg params loaded
  have ready := (mainBoot_hkTick build.admitted.reportLimits partSize within fdir
    (largedataBoot cfg demo) bootSeconds).1
  have floor : pus5TmMaxPacketSize ≤ cfg.pktstorePacketMax := Nat.le_trans (by decide) least
  let wired := mainWired cfg subs fdir (largedataBoot cfg demo) bootSeconds
  have tick := send_within bootSeconds (eventReport_sendsOne floor wired.senders
    (wired.request bootSeconds) pus5SevInfo pus5EvtFswBoot [])
  refine ⟨tick.sent, ready, services.kept tick.pool, Nat.min_le_left _ _, partSize, ?_⟩
  by_cases on : demo = true
  · exact .inl (fits.parts on)
  · exact .inr (tick.session (largedataBoot_idle cfg on))

theorem liveTmRecorded_of_fits (build : cfg.SampleBuild) {demo : Bool}
    (fits : ReportsFitStore cfg demo) : LiveTmRecorded cfg demo := by
  intro hkPeriodSec fwVersion fwBuildId loaded fdir bootSeconds inputs subs boot output member
  obtain ⟨sent, sizes⟩ :=
    mainBoot_sizes build fits hkPeriodSec fwVersion fwBuildId loaded fdir bootSeconds
  apply SentWithin.recorded
  rcases List.mem_cons.mp member with rfl | later
  · exact sent
  · exact sizes.outputs (inputs.flatMap loopTicks) output later

end FswCore
