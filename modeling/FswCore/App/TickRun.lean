import FswCore.App.ComponentCalls
import FswCore.Pus.Tally

/-!
Contract: runs of ticks, and what every tick is to the components and to the router.

Owns:
- `tickRun`, the ticks of the loop in any order, with the calls they make and the
  telecommands they hand to the router;
- the components behind a run are what its calls leave;
- the verdict counts behind a run number its telecommands.

An iteration of the loop is one such order.
-/

namespace FswCore

variable {cfg : Config}

/-! ### Runs -/

def tickRun (state : MainState cfg) (ticks : List LoopTick) : MainState cfg :=
  ticks.foldl (fun state tick => (loopTick state tick).1) state

/-- The telecommands of a run, each in the context it is dispatched in. -/
def tickDispatches (state : MainState cfg) : List LoopTick → List (TickDispatch cfg)
  | [] => []
  | tick :: rest => (state.dispatches tick).toList ++ tickDispatches (loopTick state tick).1 rest

/-- The calls of a run, in order. -/
def tickRunCalls (state : MainState cfg) : List LoopTick → ComponentCalls
  | [] => {}
  | tick :: rest => (state.tickCalls tick).andThen (tickRunCalls (loopTick state tick).1 rest)

theorem tickRun_append (state : MainState cfg) (first second : List LoopTick) :
    tickRun state (first ++ second) = tickRun (tickRun state first) second :=
  List.foldl_append

theorem ComponentCalls.andThen_assoc (first second third : ComponentCalls) :
    (first.andThen second).andThen third = first.andThen (second.andThen third) := by
  simp only [ComponentCalls.andThen, StoreCalls.andThen, List.append_assoc]

theorem tickRunCalls_append (state : MainState cfg) (first second : List LoopTick) :
    tickRunCalls state (first ++ second) =
      (tickRunCalls state first).andThen (tickRunCalls (tickRun state first) second) := by
  induction first generalizing state with
  | nil => rfl
  | cons tick rest inductionHypothesis =>
      rw [List.cons_append, tickRunCalls, inductionHypothesis, tickRunCalls,
        ComponentCalls.andThen_assoc]
      rfl

theorem tickRun_components (state : MainState cfg) (ticks : List LoopTick) :
    (tickRun state ticks).components = state.components.after (tickRunCalls state ticks) := by
  induction ticks generalizing state with
  | nil => exact (Components.after_none _).symm
  | cons tick rest inductionHypothesis =>
      rw [tickRunCalls, Components.after_andThen, ← loopTick_calls]
      exact inductionHypothesis _

/-- The iterations of the loop are runs of their ticks. -/
theorem mainRun_ticks (state : MainState cfg) (inputs : List LoopInput) :
    (mainRun state inputs).1 = tickRun state (inputs.flatMap loopTicks) := by
  rw [mainRun]
  generalize inputs.flatMap loopTicks = ticks
  induction ticks generalizing state with
  | nil => rfl
  | cons tick rest inductionHypothesis => exact inductionHypothesis _

/-! ### Counts -/

def TickDispatch.verdict (dispatch : TickDispatch cfg) : TcAcceptResult :=
  tcAccept dispatch.tc dispatch.ctx.apid

def TickDispatch.reply (dispatch : TickDispatch cfg) : DispatchReply cfg :=
  tcRouterDispatch dispatch.ctx dispatch.nowSeconds dispatch.tc tcRouterMaxTm

theorem transmitTm_tally (ctx : RouterCtx cfg) (storeTime : UInt32) (burst : List UInt8) :
    (transmitTm ctx storeTime burst).tally = ctx.tally := rfl

theorem tmCall_tally (senders : TmSenders cfg) {call : TmCall cfg} (builds : call.Builds) :
    (tmCall senders call).1.ctx.tally = senders.ctx.tally := by
  cases call with
  | dispatch | largedataStart | otherWork => exact builds.elim
  | hkReport request sid params =>
      simp only [tmCall, TmSenders.sendPeriodic]
      split <;> rfl
  | dynamicHkReport request dp held =>
      simp only [tmCall, TmSenders.sendPeriodic]
      split <;> rfl
  | eventReport request severity eventId aux => rfl
  | fdirDrain apid outCap => rfl
  | largedataPart request => rfl

theorem MainState.send_tally (state : MainState cfg) (nowSeconds : UInt32) (call : TmCall cfg)
    (builds : call.Builds) :
    (state.send nowSeconds call).1.loop.ctx.tally = state.loop.ctx.tally := by
  have kept := tmCall_tally state.senders builds
  unfold MainState.send
  generalize tmCall state.senders call = step at kept
  obtain ⟨senders, sent⟩ := step
  simp only at kept ⊢
  split
  · exact (transmitTm_tally _ _ _).trans kept
  · exact kept

theorem loopDispatch_tally (state : LoopState cfg) (nowSeconds : UInt32) (tc : List UInt8) :
    (loopDispatch state nowSeconds tc).state.ctx.tally =
      (tcRouterDispatch state.ctx nowSeconds tc tcRouterMaxTm).ctx.tally := by
  simp only [loopDispatch]
  split
  · exact transmitTm_tally _ _ _
  · rfl

/-- The telecommand is dispatched with the counts the tick found. -/
theorem dispatches_tally {state : MainState cfg} {tick : LoopTick} {dispatch : TickDispatch cfg}
    (handed : state.dispatches tick = some dispatch) :
    dispatch.ctx.tally = state.loop.ctx.tally := by
  cases tick with
  | release nowSeconds =>
      obtain ⟨tc, _, rfl⟩ := Option.map_eq_some_iff.mp handed
      rfl
  | receive nowSeconds drops received =>
      obtain ⟨tc, _, rfl⟩ := Option.map_eq_some_iff.mp handed
      rfl
  | hk | dynamicHk | rxOverflow | fdir | retrieval | largedata => contradiction

/-- A tick counts the telecommand it hands to the router, and nothing else. -/
theorem loopTick_tally (state : MainState cfg) (tick : LoopTick) :
    (loopTick state tick).1.loop.ctx.tally =
      match state.dispatches tick with
      | none => state.loop.ctx.tally
      | some dispatch => state.loop.ctx.tally.after dispatch.verdict := by
  cases tick with
  | hk nowSeconds drops =>
      simp only [loopTick, hkTick]
      split
      · exact (state.snapshot drops).send_tally nowSeconds
          (.hkReport ((state.snapshot drops).request nowSeconds) pus3SidFrameworkDiag
            (fillHkParams (state.snapshot drops).loop.ctx)) trivial
      · rfl
  | dynamicHk nowSeconds =>
      simp only [loopTick, dynamicHkTick]
      split
      · split
        · rfl
        · exact (state.marked _).send_tally nowSeconds _ trivial
      · rfl
  | rxOverflow nowSeconds drops =>
      simp only [loopTick, rxOverflowTick]
      split <;> rfl
  | fdir nowSeconds => exact state.send_tally nowSeconds _ trivial
  | retrieval =>
      simp only [loopTick, retrievalTick]
      split <;> rfl
  | largedata nowSeconds => exact state.send_tally nowSeconds _ trivial
  | release nowSeconds =>
      simp only [loopTick, MainState.dispatched, releaseTick_eq, MainState.dispatches]
      cases releasedTc state.loop.ctx nowSeconds with
      | none => rfl
      | some tc =>
          have counted := (tcRouterDispatch_tally (poppedCtx state.loop.ctx nowSeconds) nowSeconds
            tc (Nat.le_refl _)).tally
          exact (loopDispatch_tally _ nowSeconds tc).trans counted
  | receive nowSeconds drops received =>
      simp only [loopTick, receiveTick, MainState.dispatches, framedTc]
      cases received with
      | none => rfl
      | some byte =>
          simp only [Option.bind_some]
          rcases framerByte state.framer byte with ⟨framer, completed⟩
          cases completed with
          | none => rfl
          | some tc =>
              have counted := (tcRouterDispatch_tally
                { state.loop.ctx with rxRingOverflowDrops := drops } nowSeconds tc
                (Nat.le_refl _)).tally
              exact (loopDispatch_tally _ nowSeconds tc).trans counted

theorem tickRun_tally (state : MainState cfg) (ticks : List LoopTick) :
    (tickRun state ticks).loop.ctx.tally =
      (tickDispatches state ticks).foldl (fun tally dispatch => tally.after dispatch.verdict)
        state.loop.ctx.tally := by
  induction ticks generalizing state with
  | nil => rfl
  | cons tick rest inductionHypothesis =>
      have later := inductionHypothesis (loopTick state tick).1
      rw [loopTick_tally] at later
      rw [tickDispatches, List.foldl_append]
      cases handed : state.dispatches tick with
      | none =>
          rw [handed] at later
          exact later
      | some dispatch =>
          rw [handed] at later
          exact later

/-- The telecommands of a run that the router accepts, and those it rejects. -/
def tickAcceptances (state : MainState cfg) (ticks : List LoopTick) : Nat :=
  (tickDispatches state ticks).countP fun dispatch => dispatch.verdict.Accepted

def tickRejections (state : MainState cfg) (ticks : List LoopTick) : Nat :=
  (tickDispatches state ticks).countP fun dispatch => dispatch.verdict.Rejected

theorem RouterTally.after_counts (tally : RouterTally) (v : TcAcceptResult) :
    (tally.after v).tcAcceptedCount =
        tally.tcAcceptedCount + UInt32.ofNat (if v.Accepted then 1 else 0) ∧
      (tally.after v).tcRejectedCount =
        tally.tcRejectedCount + UInt32.ofNat (if v.Rejected then 1 else 0) ∧
      (tally.after v).apid = tally.apid ∧ (tally.after v).sinkWired = tally.sinkWired := by
  rw [RouterTally.after]
  split
  · rename_i ignored
    rw [if_neg fun accepted => Bool.noConfusion (ignored.symm.trans accepted.1),
      if_neg fun rejected => Bool.noConfusion (ignored.symm.trans rejected.1)]
    exact ⟨(UInt32.add_zero _).symm, (UInt32.add_zero _).symm, rfl, rfl⟩
  · rename_i addressed
    have addressed := eq_true_of_ne_false addressed
    split
    · rename_i failed
      rw [if_neg fun accepted => failed accepted.2, if_pos ⟨addressed, failed⟩]
      exact ⟨(UInt32.add_zero _).symm, rfl, rfl, rfl⟩
    · rename_i passed
      rw [if_pos ⟨addressed, not_not.mp passed⟩, if_neg fun rejected => passed rejected.2]
      exact ⟨rfl, (UInt32.add_zero _).symm, rfl, rfl⟩

theorem foldl_tally (tally : RouterTally) (dispatches : List (TickDispatch cfg)) :
    let after := dispatches.foldl (fun tally dispatch => tally.after dispatch.verdict) tally
    after.tcAcceptedCount = tally.tcAcceptedCount + UInt32.ofNat
        (dispatches.countP fun dispatch => dispatch.verdict.Accepted) ∧
      after.tcRejectedCount = tally.tcRejectedCount + UInt32.ofNat
        (dispatches.countP fun dispatch => dispatch.verdict.Rejected) ∧
      after.apid = tally.apid ∧ after.sinkWired = tally.sinkWired := by
  induction dispatches generalizing tally with
  | nil => exact ⟨(UInt32.add_zero _).symm, (UInt32.add_zero _).symm, rfl, rfl⟩
  | cons dispatch rest inductionHypothesis =>
      obtain ⟨accepted, rejected, apid, wired⟩ := inductionHypothesis (tally.after dispatch.verdict)
      obtain ⟨acceptedOne, rejectedOne, apidOne, wiredOne⟩ := tally.after_counts dispatch.verdict
      refine ⟨?_, ?_, apid.trans apidOne, wired.trans wiredOne⟩
      · simp only [List.foldl_cons, accepted, acceptedOne, List.countP_cons, decide_eq_true_eq,
          UInt32.add_assoc, ← UInt32.ofNat_add, Nat.add_comm]
      · simp only [List.foldl_cons, rejected, rejectedOne, List.countP_cons, decide_eq_true_eq,
          UInt32.add_assoc, ← UInt32.ofNat_add, Nat.add_comm]

/-- The counters are the numbers of telecommands, as far as they go. -/
theorem tickRun_counts (state : MainState cfg) (ticks : List LoopTick) :
    (tickRun state ticks).loop.ctx.tcAcceptedCount =
        state.loop.ctx.tcAcceptedCount + UInt32.ofNat (tickAcceptances state ticks) ∧
      (tickRun state ticks).loop.ctx.tcRejectedCount =
        state.loop.ctx.tcRejectedCount + UInt32.ofNat (tickRejections state ticks) ∧
      (tickRun state ticks).loop.ctx.apid = state.loop.ctx.apid ∧
      (tickRun state ticks).loop.ctx.sinkWired = state.loop.ctx.sinkWired := by
  have counts := foldl_tally state.loop.ctx.tally (tickDispatches state ticks)
  simp only [← tickRun_tally] at counts
  exact counts

end FswCore
