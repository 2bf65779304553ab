import FswCore.App.StoredCommands
import FswCore.Schedule.Ledger

/-!
Contract: the life of a scheduled command over saves, cuts and power cycles.

Owns:
- `MissionLater`, what follows a point of a mission, with the calls of the schedule and
  their replies;
- a property of the activities that the calls keep holds on, live and saved;
- in every mission the schedule is well formed, so that no restore meets a repeated
  request identifier;
- an activity that is live and saved is there until a release, a deletion or a reset
  settles it;
- a release that was saved is not repeated, unless its request is inserted again.

Does not own: what becomes of an insertion, or of a release, that no save has seen.
-/

namespace FswCore

open Library

variable {geometry : NvGeometry} {cfg : Config} {build : AppBuild}

/-! ### Traces -/

/-- Calls in a row, each with its reply. -/
def callsTrace (cfg : Config) (sched : Schedule) : List ScheduleOp → ScheduleTrace
  | [] => []
  | op :: rest =>
      (op, (scheduleApply cfg sched op).1) :: callsTrace cfg (scheduleApply cfg sched op).2 rest

def MainState.tickTrace (state : MainState cfg) (tick : LoopTick) : ScheduleTrace :=
  match state.loop.ctx.schedule with
  | none => []
  | some sched => callsTrace cfg sched (state.tickCalls tick).stores.schedule

def ticksTrace (state : MainState cfg) : List LoopTick → ScheduleTrace
  | [] => []
  | tick :: rest => state.tickTrace tick ++ ticksTrace (loopTick state tick).1 rest

/-- What the schedule of the loop holds. -/
def MainState.activities (state : MainState cfg) : List ScheduleActivity :=
  (state.loop.ctx.schedule.map Schedule.activities).getD []

def OperatorState.activities (saved : OperatorState) : List ScheduleActivity :=
  (saved .schedule).1

/-- The call is an accepted insertion of this request. -/
def Inserts (requestId : List UInt8) (call : ScheduleOp × ScheduleReply) : Prop :=
  ∃ activity, acceptedInsert call = some activity ∧ requestIdOf activity.tc = requestId

/-- The call releases the activity, deletes its request or clears the schedule. -/
def Settles (activity : ScheduleActivity) (call : ScheduleOp × ScheduleReply) : Prop :=
  call.1 = .reset ∨
    (∃ requestId, successfulDelete call = some requestId ∧
      requestIdOf activity.tc = requestIdOf requestId) ∨
    ∃ nowSeconds, delivery call = some (nowSeconds, activity.tc)

/-- The call, with this reply, keeps the property of the activities. -/
def CallKeeps (cfg : Config) (Property : List ScheduleActivity → Prop)
    (call : ScheduleOp × ScheduleReply) : Prop :=
  ∀ sched, (scheduleApply cfg sched call.1).1 = call.2 → Property sched.activities →
    Property (scheduleApply cfg sched call.1).2.activities

theorem callsTrace_keeps {Property : List ScheduleActivity → Prop} {sched : Schedule}
    {ops : List ScheduleOp} (keeps : ∀ call ∈ callsTrace cfg sched ops, CallKeeps cfg Property call)
    (holds : Property sched.activities) : Property (scheduleCalls cfg sched ops).activities := by
  induction ops generalizing sched with
  | nil => exact holds
  | cons op rest inductionHypothesis =>
      have first := keeps _ List.mem_cons_self sched rfl holds
      exact inductionHypothesis (fun call member => keeps call (List.mem_cons_of_mem _ member))
        first

/-! ### Calls -/

theorem mem_swapRemove {α : Type} {items : List α} {index : Nat} {removed item : α}
    (stored : items[index]? = some removed) (member : item ∈ items) :
    item = removed ∨ item ∈ swapRemove items index :=
  List.mem_cons.mp ((perm_cons_swapRemove stored).mem_iff.mp member)

/-- Only an insertion brings a request in. -/
theorem callKeeps_absent {requestId : List UInt8} {call : ScheduleOp × ScheduleReply}
    (other : ¬Inserts requestId call) :
    CallKeeps cfg (fun activities => ∀ activity ∈ activities, requestIdOf activity.tc ≠ requestId)
      call := by
  rcases call with ⟨op, reply⟩
  intro sched replied absent
  change (scheduleApply cfg sched op).1 = reply at replied
  subst replied
  have brings : op.Brings (fun tc => requestIdOf tc ≠ requestId) ∨
      ∃ releaseTime tc, op = .insert releaseTime tc := by
    cases op with
    | insert releaseTime tc => exact .inr ⟨releaseTime, tc, rfl⟩
    | delete | reset | setEnabled | popDue => exact .inl trivial
  rcases brings with brings | ⟨releaseTime, tc, rfl⟩
  · exact scheduleApply_holds (show sched.Holds (fun tc => requestIdOf tc ≠ requestId) from absent)
      brings
  · rcases scheduleInsert_cases cfg sched releaseTime tc with ⟨_, same⟩ | inserted
    · simp only [scheduleApply, same]
      exact absent
    · simp only [scheduleApply, inserted.result] at other ⊢
      intro activity member
      rcases List.mem_append.mp member with old | new
      · exact absent activity old
      · rw [List.mem_singleton.mp new]
        exact fun same => other ⟨_, rfl, same⟩

/-- Whatever does not settle an activity leaves it in. -/
theorem callKeeps_present {activity : ScheduleActivity} {call : ScheduleOp × ScheduleReply}
    (other : ¬Settles activity call) :
    CallKeeps cfg (fun activities => activity ∈ activities) call := by
  rcases call with ⟨op, reply⟩
  intro sched replied present
  change (scheduleApply cfg sched op).1 = reply at replied
  subst replied
  cases op with
  | reset => exact absurd (.inl rfl) other
  | setEnabled enabled =>
      rw [scheduleApply, scheduleSetEnabled_activities]
      exact present
  | insert releaseTime tc =>
      rcases scheduleInsert_cases cfg sched releaseTime tc with ⟨_, same⟩ | inserted
      · simp only [scheduleApply, same]
        exact present
      · simp only [scheduleApply, inserted.result]
        exact List.mem_append_left _ present
  | delete requestId =>
      rcases scheduleDelete_cases sched requestId with
        ⟨_, same, _⟩ | ⟨index, held, stored, id, done⟩
      · simp only [scheduleApply, same]
        exact present
      · simp only [scheduleApply, done] at other ⊢
        rcases mem_swapRemove stored present with rfl | kept
        · exact absurd (.inr (.inl ⟨requestId, rfl, id⟩)) other
        · exact kept
  | popDue nowSeconds outCap =>
      cases schedulePopDue_cases sched nowSeconds outCap with
      | disabled _ result =>
          simp only [scheduleApply, result]
          exact present
      | noneDue _ _ result =>
          simp only [scheduleApply, result]
          exact present
      | tooSmall _ _ _ _ _ result =>
          simp only [scheduleApply, result]
          exact present
      | released index held best _ _ result =>
          simp only [scheduleApply, result] at other ⊢
          rcases mem_swapRemove best.stored present with rfl | kept
          · exact absurd (.inr (.inr ⟨nowSeconds, rfl⟩)) other
          · exact kept

/-- The activities of a schedule that is well formed. -/
def ActivitiesWellFormed (cfg : Config) (activities : List ScheduleActivity) : Prop :=
  ({ scheduleInit with activities := activities } : Schedule).WellFormed cfg

theorem callKeeps_wellFormed (call : ScheduleOp × ScheduleReply) :
    CallKeeps cfg (ActivitiesWellFormed cfg) call := by
  intro sched _ wellFormed
  have before : sched.WellFormed cfg := wellFormed.of_activities rfl
  exact (scheduleApply_wellFormed before call.1).of_activities rfl

/-! ### Ticks -/

/-- A tick does to the activities what its calls do. -/
theorem loopTick_activities {state : MainState cfg} {sched : Schedule}
    (wired : state.loop.ctx.schedule = some sched) (tick : LoopTick) :
    (loopTick state tick).1.activities =
      (scheduleCalls cfg sched (state.tickCalls tick).stores.schedule).activities := by
  rw [MainState.activities, loopTick_schedule, wired]
  rfl

theorem loopTick_unscheduled {state : MainState cfg} (unwired : state.loop.ctx.schedule = none)
    (tick : LoopTick) : (loopTick state tick).1.activities = [] := by
  rw [MainState.activities, loopTick_schedule, unwired]
  rfl

theorem MainState.activities_wired {state : MainState cfg} {sched : Schedule}
    (wired : state.loop.ctx.schedule = some sched) : state.activities = sched.activities := by
  rw [MainState.activities, wired]
  rfl

/-- What the calls of a tick keep holds behind it. -/
theorem loopTick_keeps {Property : List ScheduleActivity → Prop} {state : MainState cfg}
    {tick : LoopTick} (keeps : ∀ call ∈ state.tickTrace tick, CallKeeps cfg Property call)
    (holds : Property state.activities) : Property (loopTick state tick).1.activities := by
  cases wired : state.loop.ctx.schedule with
  | none =>
      rw [MainState.activities, wired] at holds
      rw [loopTick_unscheduled wired]
      exact holds
  | some sched =>
      rw [MainState.tickTrace, wired] at keeps
      rw [MainState.activities_wired wired] at holds
      rw [loopTick_activities wired]
      exact callsTrace_keeps keeps holds

theorem tickRun_keeps {Property : List ScheduleActivity → Prop} {state : MainState cfg}
    {ticks : List LoopTick} (keeps : ∀ call ∈ ticksTrace state ticks, CallKeeps cfg Property call)
    (holds : Property state.activities) : Property (tickRun state ticks).activities := by
  induction ticks generalizing state with
  | nil => exact holds
  | cons tick rest inductionHypothesis =>
      obtain ⟨first, later⟩ := List.forall_mem_append.mp keeps
      exact inductionHypothesis later (loopTick_keeps first holds)

theorem releasedTc_mem {state : MainState cfg} {nowSeconds : UInt32} {dispatch : TickDispatch cfg}
    (released : state.dispatches (.release nowSeconds) = some dispatch) :
    ∃ activity ∈ state.activities, activity.tc = dispatch.tc := by
  obtain ⟨tc, popped, rfl⟩ := Option.map_eq_some_iff.mp released
  cases wired : state.loop.ctx.schedule with
  | none => simp [releasedTc, wired] at popped
  | some sched =>
      rw [MainState.activities_wired wired]
      exact releasedTc_held wired
        (show sched.Holds (fun tc => ∃ activity ∈ sched.activities, activity.tc = tc) from
          fun activity member => ⟨activity, member, rfl⟩) popped

/-- Behind the pop of a release its request is gone. -/
theorem schedulePopDue_removes {sched : Schedule} (distinct : RequestIdsDistinct sched.activities)
    {nowSeconds : UInt32} {outCap : Nat} {tc : List UInt8}
    (popped : (schedulePopDue sched nowSeconds outCap).1 = .ok (some tc)) :
    ∀ activity ∈ (schedulePopDue sched nowSeconds outCap).2.activities,
      requestIdOf activity.tc ≠ requestIdOf tc := by
  cases schedulePopDue_cases sched nowSeconds outCap with
  | disabled _ result => simp [result] at popped
  | noneDue _ _ result => simp [result] at popped
  | tooSmall _ _ _ _ _ result => simp [result] at popped
  | released index held best _ _ result =>
      have isTc : held.tc = tc := by simpa [result] using popped
      have apart := distinct.perm (perm_cons_swapRemove best.stored)
      rw [RequestIdsDistinct, List.map_cons, List.nodup_cons] at apart
      rw [result, ← isTc]
      intro activity member same
      exact apart.1 (List.mem_map.mpr ⟨activity, member, same⟩)

/-- A release tick that inserts nothing of this request leaves none of it. -/
theorem releaseTick_removes {state : MainState cfg} (distinct : RequestIdsDistinct state.activities)
    {nowSeconds : UInt32} {dispatch : TickDispatch cfg}
    (released : state.dispatches (.release nowSeconds) = some dispatch)
    (keeps : ∀ call ∈ state.tickTrace (.release nowSeconds),
      ¬Inserts (requestIdOf dispatch.tc) call) :
    ∀ activity ∈ (loopTick state (.release nowSeconds)).1.activities,
      requestIdOf activity.tc ≠ requestIdOf dispatch.tc := by
  have popped : releasedTc state.loop.ctx nowSeconds = some dispatch.tc := by
    obtain ⟨tc, popped, rfl⟩ := Option.map_eq_some_iff.mp released
    exact popped
  cases wired : state.loop.ctx.schedule with
  | none => simp [releasedTc, wired] at popped
  | some sched =>
      rw [MainState.activities_wired wired] at distinct
      have result : (schedulePopDue sched nowSeconds cfg.scheduleTcMax).1 =
          .ok (some dispatch.tc) := by
        simp only [releasedTc, wired] at popped
        cases reply : (schedulePopDue sched nowSeconds cfg.scheduleTcMax).1 with
        | error status => simp [reply, Except.toOption] at popped
        | ok released => simpa [reply, Except.toOption] using popped
      have gone := schedulePopDue_removes distinct result
      rw [MainState.tickTrace, wired] at keeps
      rw [loopTick_activities wired]
      exact callsTrace_keeps
        (fun call member => callKeeps_absent (keeps call (List.mem_cons_of_mem _ member))) gone

/-! ### Missions -/

/-- One event of a mission, as `MissionRun` has them, with what the schedule is called. -/
inductive MissionStep (build : AppBuild) (mission : Mission geometry cfg) (saved : OperatorState) :
    Mission geometry cfg → OperatorState → ScheduleTrace → Prop where
  | tick (tick : LoopTick) (fits : mission.main.CountsFit tick) :
      MissionStep build mission saved (missionEvent build mission (.tick tick)) saved
        (mission.main.tickTrace tick)
  | save {subs} (held : mission.subsystems = some subs)
      (seqFits : SeqFits mission.autosave.store) :
      MissionStep build mission saved (missionEvent build mission (.save .none))
        subs.operatorState []
  | powerCycle (power : PowerUp cfg) :
      MissionStep build mission saved (missionEvent build mission (.powerCycle power)) saved []
  | cutLost {subs fault residue} (held : mission.subsystems = some subs) (power : PowerUp cfg)
      (leaves : FaultLeaves fault residue) (lost : ResidueLost (mission.putsState subs) residue) :
      MissionStep build mission saved
        (missionEvent build (missionEvent build mission (.save fault)) (.powerCycle power)) saved []
  | cutComplete {subs fault residue} (held : mission.subsystems = some subs)
      (power : PowerUp cfg) (seqFits : SeqFits mission.autosave.store)
      (leaves : FaultLeaves fault residue)
      (complete : ResidueComplete (mission.putsState subs) residue) :
      MissionStep build mission saved
        (missionEvent build (missionEvent build mission (.save fault)) (.powerCycle power))
        subs.operatorState []

/-- Any number of events, and what the schedule is called in them. -/
inductive MissionLater (build : AppBuild) (mission : Mission geometry cfg)
    (saved : OperatorState) : Mission geometry cfg → OperatorState → ScheduleTrace → Prop where
  | refl : MissionLater build mission saved mission saved []
  | step {reached reachedSaved trace next nextSaved further}
      (later : MissionLater build mission saved reached reachedSaved trace)
      (step : MissionStep build reached reachedSaved next nextSaved further) :
      MissionLater build mission saved next nextSaved (trace ++ further)

section Missions

variable {mission next : Mission geometry cfg} {saved nextSaved : OperatorState}
variable {trace : ScheduleTrace}

theorem MissionStep.run (step : MissionStep build mission saved next nextSaved trace)
    (run : MissionRun cfg build mission saved) : MissionRun cfg build next nextSaved := by
  cases step with
  | tick tick fits => exact run.tick tick fits
  | save held seqFits => exact run.save held seqFits
  | powerCycle power => exact run.powerCycle power
  | cutLost held power leaves lost => exact run.cutLost held power leaves lost
  | cutComplete held power seqFits leaves complete =>
      exact .cutComplete held power seqFits leaves complete run

theorem MissionLater.run (later : MissionLater build mission saved next nextSaved trace)
    (run : MissionRun cfg build mission saved) : MissionRun cfg build next nextSaved := by
  induction later with
  | refl => exact run
  | step later step inductionHypothesis => exact step.run inductionHypothesis

/-- Every mission follows its first power-up. -/
theorem missionRun_later (run : MissionRun cfg build mission saved) :
    ∃ (power : PowerUp cfg) (flash : Flash geometry) (trace : ScheduleTrace),
      (∀ slot, imageSlots flash slot = none) ∧
        MissionLater build (powerUp cfg build power flash)
          (subsystemsInit cfg build.tables).operatorState mission saved trace := by
  induction run with
  | powerUp power flash blank => exact ⟨power, flash, [], blank, .refl⟩
  | tick tick fits run inductionHypothesis =>
      obtain ⟨power, flash, trace, blank, later⟩ := inductionHypothesis
      exact ⟨power, flash, _, blank, later.step (.tick tick fits)⟩
  | save held seqFits run inductionHypothesis =>
      obtain ⟨power, flash, trace, blank, later⟩ := inductionHypothesis
      exact ⟨power, flash, _, blank, later.step (.save held seqFits)⟩
  | powerCycle restarted run inductionHypothesis =>
      obtain ⟨power, flash, trace, blank, later⟩ := inductionHypothesis
      exact ⟨power, flash, _, blank, later.step (.powerCycle restarted)⟩
  | cutLost held restarted leaves lost run inductionHypothesis =>
      obtain ⟨power, flash, trace, blank, later⟩ := inductionHypothesis
      exact ⟨power, flash, _, blank, later.step (.cutLost held restarted leaves lost)⟩
  | cutComplete held restarted seqFits leaves complete run inductionHypothesis =>
      obtain ⟨power, flash, trace, blank, later⟩ := inductionHypothesis
      exact ⟨power, flash, _, blank,
        later.step (.cutComplete held restarted seqFits leaves complete)⟩

theorem Mission.subsystems_activities {subs : Subsystems}
    (held : mission.subsystems = some subs) :
    mission.main.activities = subs.operatorState.activities := by
  obtain ⟨sched, wired, same⟩ := Components.subsystems_schedule held
  have held : mission.main.loop.ctx.schedule = some sched := wired
  rw [MainState.activities_wired held, same]
  rfl

/-- The loop starts with the saved activities. -/
theorem powerUp_activities (accepted : backendOk geometry = true) {power : PowerUp cfg}
    {flash : Flash geometry} {after : Subsystems} {records : List Record}
    (holds : MissionHolds cfg build (powerUp cfg build power flash) saved after records) :
    (powerUp cfg build power flash).main.activities = saved.activities := by
  obtain ⟨subs, started, state⟩ := powerUp_holds accepted holds.images holds.budget holds.flash
    holds.restores power
  have held : (powerUp cfg build power flash).subsystems = some subs := started.held
  rw [Mission.subsystems_activities held, state]
  rfl

/-- What is saved by a step was live, or saved before. -/
theorem MissionStep.saves {Property : List ScheduleActivity → Prop}
    (step : MissionStep build mission saved next nextSaved trace)
    (live : Property mission.main.activities) (kept : Property saved.activities) :
    Property nextSaved.activities := by
  cases step with
  | tick | powerCycle | cutLost => exact kept
  | save held _ | cutComplete held _ _ _ _ =>
      rw [← Mission.subsystems_activities held]
      exact live

section Keeps

variable (accepted : backendOk geometry = true) (two : geometry.sectorCount = 2)
variable (admitted : cfg.KconfigAdmitted) (suffice : BuffersSuffice cfg)

include accepted two admitted suffice

/-- What is live behind a step was live before, or is saved. -/
theorem MissionStep.live {Property : List ScheduleActivity → Prop}
    (run : MissionRun cfg build mission saved)
    (step : MissionStep build mission saved next nextSaved trace)
    (keeps : ∀ call ∈ trace, CallKeeps cfg Property call)
    (live : Property mission.main.activities) (kept : Property nextSaved.activities) :
    Property next.main.activities := by
  obtain ⟨subs, records, holds⟩ :=
    missionRun_holds accepted two admitted suffice (step.run run)
  cases step with
  | tick tick fits => exact loopTick_keeps keeps live
  | save held seqFits =>
      rw [missionEvent, Mission.save_main]
      exact live
  | powerCycle | cutLost | cutComplete =>
      have restored := powerUp_activities accepted holds
      rw [← restored] at kept
      exact kept

theorem MissionLater.keeps {Property : List ScheduleActivity → Prop}
    (run : MissionRun cfg build mission saved)
    (later : MissionLater build mission saved next nextSaved trace)
    (keeps : ∀ call ∈ trace, CallKeeps cfg Property call)
    (live : Property mission.main.activities) (kept : Property saved.activities) :
    Property next.main.activities ∧ Property nextSaved.activities := by
  induction later with
  | refl => exact ⟨live, kept⟩
  | step later step inductionHypothesis =>
      obtain ⟨before, further⟩ := List.forall_mem_append.mp keeps
      obtain ⟨reached, reachedSaved⟩ := inductionHypothesis before
      have saves := step.saves reached reachedSaved
      exact ⟨step.live accepted two admitted suffice (later.run run) further reached saves, saves⟩

/-! ### The schedule of a mission -/

/-- In every state of a mission the schedule is well formed, and so is the one saved: no
restore brings a request identifier in twice. -/
theorem missionRun_wellFormed (run : MissionRun cfg build mission saved) :
    ActivitiesWellFormed cfg mission.main.activities ∧
      ActivitiesWellFormed cfg saved.activities := by
  obtain ⟨power, flash, trace, blank, later⟩ := missionRun_later run
  have first : MissionRun cfg build (powerUp cfg build power flash) _ := .powerUp power flash blank
  have empty : ActivitiesWellFormed cfg
      (subsystemsInit cfg build.tables).operatorState.activities := scheduleInit_wellFormed cfg
  obtain ⟨subs, records, holds⟩ := missionRun_holds accepted two admitted suffice first
  have start : ActivitiesWellFormed cfg (powerUp cfg build power flash).main.activities := by
    rw [powerUp_activities accepted holds]
    exact empty
  exact later.keeps accepted two admitted suffice first
    (fun call _ => callKeeps_wellFormed call) start empty

end Keeps

end Missions

/-- An activity that is live and saved is not lost: it stays so over saves, cuts and power
cycles, or a call released it, deleted its request or cleared the schedule. -/
theorem missionLater_settles (accepted : backendOk geometry = true) (two : geometry.sectorCount = 2)
    (admitted : cfg.KconfigAdmitted) (suffice : BuffersSuffice cfg)
    {mission next : Mission geometry cfg} {saved nextSaved : OperatorState}
    {trace : ScheduleTrace} (run : MissionRun cfg build mission saved)
    (later : MissionLater build mission saved next nextSaved trace)
    {activity : ScheduleActivity} (live : activity ∈ mission.main.activities)
    (kept : activity ∈ saved.activities) :
    (activity ∈ next.main.activities ∧ activity ∈ nextSaved.activities) ∨
      ∃ call ∈ trace, Settles activity call := by
  by_cases settled : ∃ call ∈ trace, Settles activity call
  · exact .inr settled
  · refine .inl (later.keeps accepted two admitted suffice run (fun call member => ?_) live kept)
    exact callKeeps_present fun settles => settled ⟨call, member, settles⟩

/-- The test of `insertedTest`. -/
def scheduledTest : ScheduleActivity where
  releaseTime := 40
  tc := [0x19, 0, 0xC0, 1, 0, 6, 0x20, 17, 1, 0, 0, 0x83, 0x3B]

def twoSectors : NvGeometry := { sectorSize := 2048, sectorCount := 2, writeBlock := 32 }

def insertedTicks : List LoopTick := insertedTest.map fun byte => .receive 9 0 (some byte)

def startedMission : Mission twoSectors defaultConfig :=
  powerUp defaultConfig watchfulBuild (zeroedPowerUp defaultConfig 0) (erasedFlash twoSectors)

/-- The first power cycle of a mission, in which the test was inserted. -/
def insertedMission : Mission twoSectors defaultConfig :=
  { startedMission with main := tickRun startedMission.main insertedTicks }

theorem startedMission_run : MissionRun defaultConfig watchfulBuild startedMission
    (subsystemsInit defaultConfig watchfulBuild.tables).operatorState :=
  .powerUp (zeroedPowerUp defaultConfig 0) _ (imageSlots_erased _)

theorem insertedMission_run : MissionRun defaultConfig watchfulBuild insertedMission
    (subsystemsInit defaultConfig watchfulBuild.tables).operatorState := by
  have fits : TicksFit startedMission.main insertedTicks := by decide +kernel
  exact startedMission_run.ticks fits

/-- Inserted, saved, and there in the next power cycle. -/
theorem missionLater_settles_reboot :
    let saved := missionEvent watchfulBuild insertedMission (.save .none)
    let rebooted := missionEvent watchfulBuild saved (.powerCycle (zeroedPowerUp defaultConfig 3))
    scheduledTest ∈ rebooted.main.activities := by
  intro saved rebooted
  have accepted : backendOk twoSectors = true := by decide
  have seqFits : SeqFits insertedMission.autosave.store := by decide +kernel
  have present : insertedMission.subsystems.isSome = true := by decide +kernel
  obtain ⟨subs, held⟩ := Option.isSome_iff_exists.mp present
  have live : scheduledTest ∈ saved.main.activities := by decide +kernel
  have kept : scheduledTest ∈ subs.operatorState.activities := by
    rw [← Mission.subsystems_activities held]
    decide +kernel
  rcases missionLater_settles accepted rfl Config.default_kconfigAdmitted (by decide)
    (insertedMission_run.save held seqFits)
    (MissionLater.refl.step (.powerCycle (zeroedPowerUp defaultConfig 3))) live kept with
    ⟨restored, _⟩ | ⟨call, none, _⟩
  · exact restored
  · exact absurd none List.not_mem_nil

/-- A release that was saved is not repeated: in no later state, whatever saves, cuts and
power cycles there are, is a telecommand of that request released, unless an insertion of it
was accepted since. -/
theorem missionLater_releasedOnce (accepted : backendOk geometry = true)
    (two : geometry.sectorCount = 2) (admitted : cfg.KconfigAdmitted)
    (suffice : BuffersSuffice cfg)
    {mission next : Mission geometry cfg} {saved nextSaved : OperatorState}
    {trace : ScheduleTrace} (run : MissionRun cfg build mission saved)
    {nowSeconds : UInt32} {dispatch : TickDispatch cfg}
    (released : mission.main.dispatches (.release nowSeconds) = some dispatch)
    {ticks : List LoopTick} (fits : TicksFit mission.main (.release nowSeconds :: ticks)) :
    let done : Mission geometry cfg :=
      { mission with main := tickRun mission.main (.release nowSeconds :: ticks) }
    ∀ {subs kept keptSaved keeping}, done.subsystems = some subs →
      MissionStep build done saved kept keptSaved keeping → keptSaved = subs.operatorState →
        MissionLater build kept keptSaved next nextSaved trace →
          (∃ call ∈ ticksTrace mission.main (.release nowSeconds :: ticks) ++ (keeping ++ trace),
            Inserts (requestIdOf dispatch.tc) call) ∨
          ∀ laterSeconds other, next.main.dispatches (.release laterSeconds) = some other →
            requestIdOf other.tc ≠ requestIdOf dispatch.tc := by
  intro done subs kept keptSaved keeping held saves isSaved later
  by_cases again : ∃ call ∈ ticksTrace mission.main (.release nowSeconds :: ticks) ++
      (keeping ++ trace), Inserts (requestIdOf dispatch.tc) call
  · exact .inl again
  right
  have none : ∀ call ∈ ticksTrace mission.main (.release nowSeconds :: ticks) ++
      (keeping ++ trace), ¬Inserts (requestIdOf dispatch.tc) call :=
    fun call member inserts => again ⟨call, member, inserts⟩
  obtain ⟨inTicks, noneLater⟩ := List.forall_mem_append.mp none
  obtain ⟨inRelease, inRest⟩ := List.forall_mem_append.mp inTicks
  obtain ⟨inSaving, inTrace⟩ := List.forall_mem_append.mp noneLater
  have distinct := (missionRun_wellFormed accepted two admitted suffice run).1.distinct
  have gone := tickRun_keeps (fun call member => callKeeps_absent (inRest call member))
    (releaseTick_removes distinct released inRelease)
  have doneRun : MissionRun cfg build done saved := run.ticks fits
  have goneSaved : ∀ activity ∈ keptSaved.activities,
      requestIdOf activity.tc ≠ requestIdOf dispatch.tc := by
    rw [isSaved, ← Mission.subsystems_activities held]
    exact gone
  have goneKept := saves.live accepted two admitted suffice doneRun
    (fun call member => callKeeps_absent (inSaving call member)) gone goneSaved
  have goneNext := (later.keeps accepted two admitted suffice (saves.run doneRun)
    (fun call member => callKeeps_absent (inTrace call member)) goneKept goneSaved).1
  intro laterSeconds other repeated
  obtain ⟨activity, member, isTc⟩ := releasedTc_mem repeated
  rw [← isTc]
  exact goneNext activity member

/-- The second power cycle, in which the test is due. -/
def restoredMission : Mission twoSectors defaultConfig :=
  missionEvent watchfulBuild (missionEvent watchfulBuild insertedMission (.save .none))
    (.powerCycle (zeroedPowerUp defaultConfig 3))

theorem restoredMission_run :
    ∃ saved, MissionRun defaultConfig watchfulBuild restoredMission saved := by
  have seqFits : SeqFits insertedMission.autosave.store := by decide +kernel
  have present : insertedMission.subsystems.isSome = true := by decide +kernel
  obtain ⟨subs, held⟩ := Option.isSome_iff_exists.mp present
  exact ⟨_, (insertedMission_run.save held seqFits).powerCycle (zeroedPowerUp defaultConfig 3)⟩

/-- Restored, released, saved, and gone in the power cycle after that. -/
theorem missionLater_releasedOnce_reboot :
    let done : Mission twoSectors defaultConfig :=
      { restoredMission with main := tickRun restoredMission.main [.release 40] }
    let rebooted := missionEvent watchfulBuild (missionEvent watchfulBuild done (.save .none))
      (.powerCycle (zeroedPowerUp defaultConfig 41))
    ∃ dispatch, restoredMission.main.dispatches (.release 40) = some dispatch ∧
      ∀ laterSeconds other, rebooted.main.dispatches (.release laterSeconds) = some other →
        requestIdOf other.tc ≠ requestIdOf dispatch.tc := by
  intro done rebooted
  obtain ⟨saved, run⟩ := restoredMission_run
  have handed : (restoredMission.main.dispatches (.release 40)).isSome = true := by
    decide +kernel
  obtain ⟨dispatch, released⟩ := Option.isSome_iff_exists.mp handed
  have fits : TicksFit restoredMission.main [.release 40] := by decide +kernel
  have present : done.subsystems.isSome = true := by decide +kernel
  obtain ⟨subs, held⟩ := Option.isSome_iff_exists.mp present
  have seqFits : SeqFits done.autosave.store := by decide +kernel
  have nothing : ((ticksTrace restoredMission.main [.release 40]).all fun call =>
      (acceptedInsert call).isNone) = true := by decide +kernel
  refine ⟨dispatch, released, ?_⟩
  rcases missionLater_releasedOnce (by decide : backendOk twoSectors = true) rfl
    Config.default_kconfigAdmitted (by decide) run released fits held (.save held seqFits) rfl
    (MissionLater.refl.step (.powerCycle (zeroedPowerUp defaultConfig 41))) with
    ⟨call, member, activity, accepts, _⟩ | never
  · simp only [List.append_nil] at member
    have none : (acceptedInsert call).isNone = true := List.all_eq_true.mp nothing call member
    rw [accepts] at none
    exact absurd none Bool.false_ne_true
  · exact never

end FswCore
