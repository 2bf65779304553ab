import FswCore.App.Frames
import FswCore.App.Safing
import FswCore.Library.SwapRemove

/-!
Contract: where the telecommands come from that the router is handed.

Owns:
- `Commanded`, the telecommands the framer completes, and those that an accepted
  insertion among them carries;
- the schedule holds telecommands that were commanded, and nothing else, and so is
  whatever the loop dispatches.

Does not own: what a save and a start-up do to the schedule.
-/

namespace FswCore

open Library Library.BigEndian

variable {geometry : NvGeometry} {cfg : Config} {build : AppBuild}

/-! ### Commands -/

/-- The telecommand is an insertion request, accepted for this application, and one of
its activities carries the other. -/
def Carries (cfg : Config) (outer tc : List UInt8) : Prop :=
  (tcAccept outer fswApid).Accepted ∧
    (tcAccept outer fswApid).serviceType = pusServiceScheduling ∧
    (tcAccept outer fswApid).serviceSubtype = pus11SubtypeInsert ∧
    ∃ sched batch, pus11DecodeInserts cfg sched (routerAppData outer) = .ok batch ∧
      ∃ activity ∈ batch, activity.tc = tc

/-- What the ground has commanded, by the octets of each power cycle. -/
inductive Commanded (cfg : Config) (epochs : List (List UInt8)) : List UInt8 → Prop where
  | framed {octets tc} (received : octets ∈ epochs) (frame : tc ∈ framesOf octets) :
      Commanded cfg epochs tc
  | carried {outer tc} (commanded : Commanded cfg epochs outer) (carries : Carries cfg outer tc) :
      Commanded cfg epochs tc

/-- What was commanded stays so. -/
theorem Commanded.mono {earlier later : List (List UInt8)}
    (more : ∀ octets ∈ earlier, ∃ further, octets ++ further ∈ later) {tc : List UInt8}
    (commanded : Commanded cfg earlier tc) : Commanded cfg later tc := by
  induction commanded with
  | framed received frame =>
      obtain ⟨further, member⟩ := more _ received
      refine .framed member ?_
      rw [framesOf_append]
      exact List.mem_append_left _ frame
  | carried commanded carries inductionHypothesis => exact .carried inductionHypothesis carries

theorem Commanded.further {octets : List UInt8} {earlier : List (List UInt8)} {tc : List UInt8}
    (commanded : Commanded cfg (octets :: earlier) tc) (more : List UInt8) :
    Commanded cfg ((octets ++ more) :: earlier) tc :=
  commanded.mono fun epoch member => by
    rcases List.mem_cons.mp member with rfl | before
    · exact ⟨more, List.mem_cons_self⟩
    · exact ⟨[], List.mem_cons_of_mem _ (by rwa [List.append_nil])⟩

theorem Commanded.later {epochs : List (List UInt8)} {tc : List UInt8}
    (commanded : Commanded cfg epochs tc) (octets : List UInt8) :
    Commanded cfg (octets :: epochs) tc :=
  commanded.mono fun epoch member =>
    ⟨[], List.mem_cons_of_mem _ (by rwa [List.append_nil])⟩

theorem window_part {α : Type} (buffer : List α) (off count : Nat) :
    window buffer off count <:+: buffer :=
  (List.take_prefix _ _).isInfix.trans (List.drop_suffix _ _).isInfix

/-- An insertion request carries parts of itself. -/
theorem pus11DecodeInsertsLoop_parts {sched : Schedule} {app : List UInt8} {remaining off : Nat}
    {batch decoded : List ScheduleActivity} {after : Nat}
    (parts : ∀ activity ∈ batch, activity.tc <:+: app)
    (isOk : pus11DecodeInsertsLoop cfg sched app remaining off batch = .ok (decoded, after)) :
    ∀ activity ∈ decoded, activity.tc <:+: app := by
  induction remaining generalizing off batch with
  | zero =>
      obtain ⟨rfl, _⟩ := Prod.mk.inj (Except.ok.inj isOk)
      exact parts
  | succ remaining inductionHypothesis =>
      simp only [pus11DecodeInsertsLoop] at isOk
      split_ifs at isOk
      refine inductionHypothesis (fun activity member => ?_) isOk
      rcases List.mem_append.mp member with old | new
      · exact parts activity old
      · rw [List.mem_singleton.mp new]
        exact window_part app _ _

theorem pus11DecodeInserts_parts {sched : Schedule} {app : List UInt8}
    {batch : List ScheduleActivity} (decoded : pus11DecodeInserts cfg sched app = .ok batch) :
    ∀ activity ∈ batch, activity.tc <:+: app := by
  simp only [pus11DecodeInserts] at decoded
  split_ifs at decoded
  split at decoded
  · contradiction
  · rename_i loop
    split_ifs at decoded
    obtain rfl := Except.ok.inj decoded
    exact pus11DecodeInsertsLoop_parts (fun other none => absurd none List.not_mem_nil) loop

/-- What a command carries is a part of it. -/
theorem Carries.part {outer tc : List UInt8} (carries : Carries cfg outer tc) :
    tc <:+: outer := by
  obtain ⟨_, _, _, sched, batch, decoded, activity, inBatch, rfl⟩ := carries
  exact (pus11DecodeInserts_parts decoded activity inBatch).trans (window_part _ _ _)

theorem Commanded.heard {epochs : List (List UInt8)} {tc : List UInt8}
    (commanded : Commanded cfg epochs tc) : ∃ octets ∈ epochs, tc <:+: octets := by
  induction commanded with
  | framed received frame => exact ⟨_, received, (framesOf_parts _).2 _ frame⟩
  | carried commanded carries inductionHypothesis =>
      obtain ⟨octets, received, within⟩ := inductionHypothesis
      exact ⟨octets, received, carries.part.trans within⟩

/-! ### The schedule -/

/-- Every telecommand the schedule holds is of this kind. -/
def Schedule.Holds (Kind : List UInt8 → Prop) (sched : Schedule) : Prop :=
  ∀ activity ∈ sched.activities, Kind activity.tc

/-- An operation that brings nothing of another kind. -/
def ScheduleOp.Brings (Kind : List UInt8 → Prop) : ScheduleOp → Prop
  | .insert _ tc => Kind tc
  | _ => True

theorem scheduleApply_holds {Kind : List UInt8 → Prop} {sched : Schedule}
    (holds : sched.Holds Kind) {op : ScheduleOp} (brings : op.Brings Kind) :
    (scheduleApply cfg sched op).2.Holds Kind := by
  cases op with
  | insert releaseTime tc =>
      rcases scheduleInsert_cases cfg sched releaseTime tc with ⟨_, same⟩ | inserted
      · rw [scheduleApply, same]
        exact holds
      · rw [scheduleApply, inserted.result]
        intro activity member
        rcases List.mem_append.mp member with old | new
        · exact holds activity old
        · rw [List.mem_singleton.mp new]
          exact brings
  | delete requestId =>
      rcases scheduleDelete_cases sched requestId with ⟨_, same, _⟩ | ⟨index, held, stored, _, done⟩
      · rw [scheduleApply, same]
        exact holds
      · rw [scheduleApply, done]
        exact fun activity member => holds activity (mem_of_mem_swapRemove stored member)
  | reset => exact fun activity member => absurd member List.not_mem_nil
  | setEnabled enabled =>
      intro activity member
      rw [scheduleApply, scheduleSetEnabled_activities] at member
      exact holds activity member
  | popDue nowSeconds outCap =>
      cases schedulePopDue_cases sched nowSeconds outCap with
      | disabled _ result =>
          rw [scheduleApply, result]
          exact holds
      | noneDue _ _ result =>
          rw [scheduleApply, result]
          exact holds
      | tooSmall _ _ _ _ _ result =>
          rw [scheduleApply, result]
          exact holds
      | released index activity best _ _ result =>
          rw [scheduleApply, result]
          exact fun other member => holds other (mem_of_mem_swapRemove best.stored member)

theorem scheduleCalls_holds {Kind : List UInt8 → Prop} {sched : Schedule}
    (holds : sched.Holds Kind) {ops : List ScheduleOp} (bring : ∀ op ∈ ops, op.Brings Kind) :
    (scheduleCalls cfg sched ops).Holds Kind := by
  induction ops generalizing sched with
  | nil => exact holds
  | cons op rest inductionHypothesis =>
      exact inductionHypothesis (scheduleApply_holds holds (bring op List.mem_cons_self))
        fun other member => bring other (List.mem_cons_of_mem op member)

theorem releasedTc_held {Kind : List UInt8 → Prop} {ctx : RouterCtx cfg} {sched : Schedule}
    (wired : ctx.schedule = some sched) (holds : sched.Holds Kind) {nowSeconds : UInt32}
    {tc : List UInt8} (released : releasedTc ctx nowSeconds = some tc) : Kind tc := by
  simp only [releasedTc, wired] at released
  cases schedulePopDue_cases sched nowSeconds cfg.scheduleTcMax with
  | disabled _ result => simp [result, Except.toOption] at released
  | noneDue _ _ result => simp [result, Except.toOption] at released
  | tooSmall _ _ _ _ _ result => simp [result, Except.toOption] at released
  | released index activity best _ _ result =>
      have isTc : activity.tc = tc := by simpa [result, Except.toOption] using released
      rw [← isTc]
      exact holds activity (List.mem_of_getElem? best.stored)

theorem ScheduleOp.Brings.mono {Kind Wider : List UInt8 → Prop} {op : ScheduleOp}
    (brings : op.Brings Kind) (wider : ∀ tc, Kind tc → Wider tc) : op.Brings Wider := by
  cases op with
  | insert releaseTime tc => exact wider tc brings
  | delete | reset | setEnabled | popDue => trivial

/-- The calls of a telecommand insert what it carries, and nothing else. -/
theorem dispatchCalls_bring {ctx : RouterCtx cfg} (apid : ctx.apid = fswApid) (tc : List UInt8) :
    ∀ op ∈ (dispatchCalls ctx tc).schedule, op.Brings (Carries cfg tc) := by
  intro op member
  simp only [dispatchCalls, apid] at member
  split at member
  · rename_i accepted
    simp only [requestCalls] at member
    split_ifs at member with _ _ scheduling
    all_goals try contradiction
    cases wired : ctx.stores.schedule with
    | none =>
        rw [wired] at member
        contradiction
    | some sched =>
        rw [wired] at member
        simp only [Option.map_some, Option.getD_some, pus11Calls] at member
        split_ifs at member with _ _ _ _ _ _ insertion
        all_goals try contradiction
        · rw [List.mem_singleton.mp member]
          trivial
        · rw [List.mem_singleton.mp member]
          trivial
        · rw [List.mem_singleton.mp member]
          trivial
        · cases decoded : pus11DecodeInserts cfg sched (routerAppData tc) with
          | error status =>
              rw [decoded] at member
              contradiction
          | ok batch =>
              rw [decoded] at member
              obtain ⟨activity, inBatch, rfl⟩ := List.mem_map.mp member
              exact ⟨accepted, scheduling, insertion, sched, batch, decoded, activity, inBatch, rfl⟩
        · split at member
          · contradiction
          · split at member
            · contradiction
            · obtain ⟨id, _, rfl⟩ := List.mem_map.mp member
              trivial
  · contradiction

/-! ### Ticks -/

/-- The loop works on what was commanded. -/
structure UplinkHolds (octets : List UInt8) (earlier : List (List UInt8))
    (state : MainState cfg) : Prop where
  apid : state.loop.ctx.apid = fswApid
  framer : state.framer = (outputs framerByte framerIdle octets).1
  scheduled : ∀ sched, state.loop.ctx.schedule = some sched →
    sched.Holds (Commanded cfg (octets :: earlier))

/-- On its own a tick only asks the schedule for what is due. -/
theorem ownCalls_bring {Kind : List UInt8 → Prop} {state : MainState cfg} {tick : LoopTick}
    {op : ScheduleOp} (member : op ∈ (state.ownCalls tick).stores.schedule) : op.Brings Kind := by
  cases tick with
  | release nowSeconds =>
      rw [List.mem_singleton.mp member]
      trivial
  | dynamicHk nowSeconds =>
      simp only [MainState.ownCalls] at member
      split at member <;> exact absurd member List.not_mem_nil
  | rxOverflow nowSeconds drops =>
      simp only [MainState.ownCalls] at member
      split at member <;> exact absurd member List.not_mem_nil
  | hk | fdir | retrieval | largedata | receive => exact absurd member List.not_mem_nil

theorem dispatches_apid {state : MainState cfg} {tick : LoopTick} {dispatch : TickDispatch cfg}
    (handed : state.dispatches tick = some dispatch) :
    dispatch.ctx.apid = state.loop.ctx.apid := by
  cases tick with
  | release nowSeconds =>
      obtain ⟨tc, _, rfl⟩ := Option.map_eq_some_iff.mp handed
      rfl
  | receive nowSeconds drops received =>
      obtain ⟨tc, _, rfl⟩ := Option.map_eq_some_iff.mp handed
      rfl
  | hk | dynamicHk | rxOverflow | fdir | retrieval | largedata => contradiction

theorem Components.subsystems_schedule {components : Components cfg} {subs : Subsystems}
    (held : components.subsystems = some subs) :
    ∃ sched, components.stores.schedule = some sched ∧ sched = subs.schedule := by
  simp only [Components.subsystems] at held
  split at held
  · rename_i schedule _ _ wired _
    exact ⟨_, wired, congrArg Subsystems.schedule (Option.some.inj held)⟩
  · contradiction

theorem appMain_framer (power : PowerUp cfg) (subs : Subsystems) :
    (appMain cfg build power subs).1.framer = framerIdle := by
  simp only [appMain]
  split <;> rfl

theorem Mission.save_main (mission : Mission geometry cfg) (fault : FlashFault geometry) :
    (mission.save fault).main = mission.main := by
  simp only [Mission.save]
  split <;> rfl

namespace UplinkHolds

variable {octets : List UInt8} {earlier : List (List UInt8)} {state : MainState cfg}

/-- A telecommand handed to the router was framed, or comes from the schedule. -/
theorem commanded (holds : UplinkHolds octets earlier state) {tick : LoopTick}
    {dispatch : TickDispatch cfg} (handed : state.dispatches tick = some dispatch) :
    Commanded cfg ((octets ++ tick.octets) :: earlier) dispatch.tc := by
  cases tick with
  | release nowSeconds =>
      obtain ⟨tc, released, rfl⟩ := Option.map_eq_some_iff.mp handed
      change Commanded cfg ((octets ++ []) :: earlier) tc
      rw [List.append_nil]
      cases wired : state.loop.ctx.schedule with
      | none => simp [releasedTc, wired] at released
      | some sched => exact releasedTc_held wired (holds.scheduled sched wired) released
  | receive nowSeconds drops received =>
      obtain ⟨tc, framed, rfl⟩ := Option.map_eq_some_iff.mp handed
      cases received with
      | none => contradiction
      | some byte =>
          refine .framed List.mem_cons_self ?_
          rw [framesOf_append, List.mem_append, List.reduceOption_mem_iff, ← holds.framer]
          exact .inr (List.mem_singleton.mpr framed.symm)
  | hk | dynamicHk | rxOverflow | fdir | retrieval | largedata => contradiction

theorem step (holds : UplinkHolds octets earlier state) (tick : LoopTick) :
    UplinkHolds (octets ++ tick.octets) earlier (loopTick state tick).1 := by
  refine ⟨?_, ?_, fun after wired => ?_⟩
  · have tally := congrArg RouterTally.apid (loopTick_tally state tick)
    refine Eq.trans tally ?_
    cases state.dispatches tick with
    | none => exact holds.apid
    | some dispatch => exact (RouterTally.after_counts _ _).2.2.1.trans holds.apid
  · rw [loopTick_framer, holds.framer, outputs_append]
  · have calls := loopTick_schedule state tick
    rw [wired] at calls
    obtain ⟨sched, before, rfl⟩ := Option.map_eq_some_iff.mp calls.symm
    have now : sched.Holds (Commanded cfg ((octets ++ tick.octets) :: earlier)) :=
      fun activity member => (holds.scheduled sched before activity member).further tick.octets
    refine scheduleCalls_holds now fun op member => ?_
    simp only [MainState.tickCalls, ComponentCalls.andThen, StoreCalls.andThen,
      List.mem_append] at member
    rcases member with own | dispatched
    · exact ownCalls_bring own
    · cases handed : state.dispatches tick with
      | none =>
          rw [handed] at dispatched
          contradiction
      | some dispatch =>
          rw [handed] at dispatched
          have apid : dispatch.ctx.apid = fswApid := (dispatches_apid handed).trans holds.apid
          change op ∈ (dispatchCalls dispatch.ctx dispatch.tc).schedule ++ [] at dispatched
          rw [List.append_nil] at dispatched
          exact (dispatchCalls_bring apid dispatch.tc op dispatched).mono fun inner carries =>
            .carried (holds.commanded handed) carries

end UplinkHolds

end FswCore
