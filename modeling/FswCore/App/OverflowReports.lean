import FswCore.App.ReceiveRing

/-!
Contract: the octets the receive ring drops, as the main loop reports them.

Owns:
- the RX overflow anomalies of a run, with the drops each of them reports;
- whatever the order of interrupts and ticks, at each detection the anomalies reported
  so far account for every octet dropped so far, and none of them is empty.

Does not own: what FDIR does with an anomaly.
-/

namespace FswCore

open Library

variable {cfg : Config} {σ : Type}

/-! ### Reports -/

/-- The drops that the RX overflow anomalies among the calls report. -/
def overflowDetails (ops : List FdirOp) : List UInt32 :=
  ops.filterMap fun op =>
    match op with
    | .reportAnomaly code _ detail =>
        if code = FdirAnomaly.rxOverflow.code.toUInt32 then some detail else none
    | _ => none

theorem overflowDetails_append (first second : List FdirOp) :
    overflowDetails (first ++ second) = overflowDetails first ++ overflowDetails second :=
  List.filterMap_append

/-- What the detector reports in a tick. -/
def MainState.detects (state : MainState cfg) : LoopTick → List UInt32
  | .rxOverflow _ drops =>
      if drops ≠ state.lastReportedRxDrops then [drops - state.lastReportedRxDrops] else []
  | _ => []

theorem tickCalls_overflow (state : MainState cfg) (tick : LoopTick) :
    overflowDetails (state.tickCalls tick).fdir = state.detects tick := by
  have dispatched (dispatch : TickDispatch cfg) : overflowDetails dispatch.calls.fdir = [] := by
    rw [overflowDetails, List.filterMap_eq_nil_iff]
    intro op member
    obtain ⟨report, _, rfl⟩ := List.mem_map.mp member
    rfl
  have own : overflowDetails (state.ownCalls tick).fdir = state.detects tick := by
    cases tick with
    | rxOverflow nowSeconds drops =>
        simp only [MainState.ownCalls, MainState.detects]
        split <;> rfl
    | dynamicHk nowSeconds =>
        simp only [MainState.ownCalls]
        split <;> rfl
    | hk | fdir | release | retrieval | largedata | receive => rfl
  rw [MainState.tickCalls, ComponentCalls.andThen, overflowDetails_append, own]
  cases state.dispatches tick with
  | none => exact List.append_nil _
  | some dispatch => rw [dispatched, List.append_nil]

/-- The counter the loop compares with next. -/
theorem loopTick_lastReported (state : MainState cfg) (tick : LoopTick) :
    (loopTick state tick).1.lastReportedRxDrops =
      match tick with
      | .rxOverflow _ drops => drops
      | _ => state.lastReportedRxDrops := by
  cases tick with
  | hk nowSeconds drops =>
      simp only [loopTick, hkTick]
      split <;> rfl
  | dynamicHk nowSeconds =>
      simp only [loopTick, dynamicHkTick]
      split
      · split <;> rfl
      · rfl
  | rxOverflow nowSeconds drops =>
      simp only [loopTick, rxOverflowTick]
      split
      · rfl
      · rename_i same
        exact (not_not.mp same).symm
  | retrieval =>
      simp only [loopTick, retrievalTick]
      split <;> rfl
  | fdir | release | largedata => rfl
  | receive nowSeconds drops received =>
      simp only [loopTick, receiveTick]
      split
      · rfl
      · split <;> rfl

/-! ### Accounting -/

/-- The reports so far sum up to the counter last compared with; as long as the octets
dropped fit the counter, to the number of drops it stood for. -/
structure DropsReported (details : List UInt32) (last : UInt32) (dropped : Nat) : Prop where
  total : details.foldl (· + ·) 0 = last
  each : ∀ detail ∈ details, detail ≠ 0
  exact : dropped < 4294967296 → (details.map UInt32.toNat).sum = last.toNat ∧ last.toNat ≤ dropped

theorem DropsReported.more {details : List UInt32} {last : UInt32} {dropped later : Nat}
    (reported : DropsReported details last dropped) (more : dropped ≤ later) :
    DropsReported details last later where
  total := reported.total
  each := reported.each
  exact few := by
    obtain ⟨sum, atMost⟩ := reported.exact (Nat.lt_of_le_of_lt more few)
    exact ⟨sum, Nat.le_trans atMost more⟩

/-- A detection reports what is missing. -/
theorem DropsReported.detect {details : List UInt32} {last : UInt32} {dropped : Nat}
    (reported : DropsReported details last dropped) :
    DropsReported (details ++ if UInt32.ofNat dropped ≠ last then [UInt32.ofNat dropped - last]
      else []) (UInt32.ofNat dropped) dropped := by
  by_cases same : UInt32.ofNat dropped = last
  · rw [if_neg (not_not.mpr same), List.append_nil, same]
    exact reported
  · rw [if_pos same]
    refine ⟨?_, fun detail member => ?_, fun few => ?_⟩
    · rw [List.foldl_append, reported.total, List.foldl_cons, List.foldl_nil, UInt32.add_comm,
        UInt32.sub_add_cancel]
    · rcases List.mem_append.mp member with earlier | now
      · exact reported.each detail earlier
      · rw [List.mem_singleton.mp now]
        intro zero
        apply same
        rw [← UInt32.sub_add_cancel (UInt32.ofNat dropped) last, zero, UInt32.zero_add]
    · obtain ⟨sum, atMost⟩ := reported.exact few
      have whole : (UInt32.ofNat dropped).toNat = dropped := UInt32.toNat_ofNat_of_lt few
      have difference : (UInt32.ofNat dropped - last).toNat = dropped - last.toNat := by
        rw [UInt32.toNat_sub_of_le _ _ (UInt32.le_iff_toNat_le.mpr (by rw [whole]; exact atMost)),
          whole]
      rw [List.map_append, List.sum_append, sum, whole]
      simp only [List.map_cons, List.map_nil, List.sum_cons, List.sum_nil, difference]
      omega

section Runs

variable {octets : σ → List UInt8}

/-- An event that is not a detection reports nothing. -/
theorem LinkEvent.tick_reported (ring : RingBuf σ) {link : RxLink σ}
    {queue : BoundedQueue UInt8} (queues : LinkQueues octets link queue)
    {main : MainState cfg} {details : List UInt32}
    (reported : DropsReported details main.lastReportedRxDrops queue.dropped)
    (event : LinkEvent) :
    DropsReported
      (details ++ overflowDetails (tickRunCalls main (event.tick ring link).1).fdir)
      (tickRun main (event.tick ring link).1).lastReportedRxDrops
      (queue.run rxRingSize event.calls).dropped := by
  have one (tick : LoopTick) : overflowDetails (tickRunCalls main [tick]).fdir =
      main.detects tick := by
    have calls : tickRunCalls main [tick] = main.tickCalls tick :=
      ComponentCalls.andThen_none _
    rw [calls, tickCalls_overflow]
  have quiet {tick : LoopTick} (detects : main.detects tick = [])
      (same : (loopTick main tick).1.lastReportedRxDrops = main.lastReportedRxDrops) :
      DropsReported (details ++ overflowDetails (tickRunCalls main [tick]).fdir)
        (tickRun main [tick]).lastReportedRxDrops (queue.run rxRingSize event.calls).dropped := by
    rw [one, detects, List.append_nil]
    change DropsReported details (loopTick main tick).1.lastReportedRxDrops _
    rw [same]
    exact reported.more (BoundedQueue.dropped_le_run rxRingSize queue event.calls)
  cases event with
  | isr call =>
      have none : overflowDetails (tickRunCalls main []).fdir = [] := rfl
      change DropsReported (details ++ overflowDetails (tickRunCalls main []).fdir) _ _
      rw [none, List.append_nil]
      exact reported.more (BoundedQueue.dropped_le_run rxRingSize queue _)
  | rxOverflow nowSeconds =>
      change DropsReported
        (details ++ overflowDetails (tickRunCalls main [.rxOverflow nowSeconds _]).fdir)
        (loopTick main (.rxOverflow nowSeconds _)).1.lastReportedRxDrops queue.dropped
      rw [one, loopTick_lastReported, queues.drops]
      exact reported.detect
  | hk | dynamicHk | fdir | release | retrieval | largedata | receive =>
      exact quiet rfl (loopTick_lastReported main _)

theorem linkRun_reported {ring : RingBuf σ} (documented : ring.Documented octets) {link : RxLink σ}
    {queue : BoundedQueue UInt8} (queues : LinkQueues octets link queue) {main : MainState cfg}
    {details : List UInt32}
    (reported : DropsReported details main.lastReportedRxDrops queue.dropped)
    (events : List LinkEvent) :
    DropsReported
      (details ++ overflowDetails (tickRunCalls main (linkTicks ring link events)).fdir)
      (tickRun main (linkTicks ring link events)).lastReportedRxDrops
      (queue.run rxRingSize (events.flatMap LinkEvent.calls)).dropped := by
  induction events generalizing link queue main details with
  | nil =>
      rw [show overflowDetails (tickRunCalls main (linkTicks ring link [])).fdir = [] from rfl,
        List.append_nil]
      exact reported
  | cons event rest inductionHypothesis =>
      have stepped := event.tick_reported ring queues reported
      have later := inductionHypothesis (event.tick_queues documented queues).1 stepped
      rw [List.flatMap_cons, BoundedQueue.run_append, linkTicks, tickRun_append,
        tickRunCalls_append, ComponentCalls.andThen, overflowDetails_append, ← List.append_assoc]
      exact later

end Runs

/-- Whatever the order of interrupts and ticks, a detection leaves no drop unreported:
the anomalies the loop has reported to FDIR by then sum up, on the counter's width, to
the octets that arrived and were neither taken nor are in the ring; none reports zero. -/
theorem linkedRun_reportsDrops {ring : RingBuf σ} {octets : σ → List UInt8}
    (documented : ring.Documented octets) {link : RxLink σ} (empty : octets link.ring = [])
    (noDrops : link.rxRingOverflowDrops = 0) {main : MainState cfg}
    (noReports : main.lastReportedRxDrops = 0) (before : List LinkEvent) (nowSeconds : UInt32) :
    let events := before ++ [.rxOverflow nowSeconds]
    let reached := linkedRun ring ⟨link, main⟩ events
    let ticks := linkTicks ring link events
    reached.main = tickRun main ticks ∧
      reached.main.loop.fdir = fdirRun main.loop.fdir (tickRunCalls main ticks).fdir ∧
      ∃ dropped, LinkAccounts octets reached.link (events.flatMap LinkEvent.arrivals)
          (ticks.flatMap LoopTick.octets) dropped ∧
        DropsReported (overflowDetails (tickRunCalls main ticks).fdir) (UInt32.ofNat dropped)
          dropped := by
  intro events reached ticks
  have run : reached = _ := linkedRun_eq ring ⟨link, main⟩ events
  obtain ⟨queues, accounts⟩ := linkRun_accounts documented empty noDrops events
  have started : LinkQueues octets link BoundedQueue.empty := ⟨empty, noDrops⟩
  have nothing : DropsReported [] main.lastReportedRxDrops
      (BoundedQueue.empty : BoundedQueue UInt8).dropped :=
    ⟨noReports.symm, fun detail none => absurd none List.not_mem_nil, fun _ => by
      rw [noReports]
      exact ⟨rfl, Nat.le_refl _⟩⟩
  have reported := linkRun_reported documented started nothing events
  have compared : (tickRun main (linkTicks ring link events)).lastReportedRxDrops =
      (linkAfter ring link events).rxRingOverflowDrops := by
    have after : linkAfter ring link events = linkAfter ring link before := List.foldl_append
    rw [linkTicks_append, tickRun_append, after]
    exact loopTick_lastReported _ _
  rw [List.nil_append, compared, accounts.drops] at reported
  rw [run]
  exact ⟨rfl, congrArg Components.fdir (tickRun_components main _), _, accounts, reported⟩

theorem linkedRun_reportsDrops_flooded :
    let link : RxLink (List UInt8) := { ring := [], rxRingOverflowDrops := 0 }
    let main : MainState defaultConfig := (powerUp defaultConfig watchfulBuild
      (zeroedPowerUp defaultConfig 0)
      (erasedFlash { sectorSize := 2048, sectorCount := 2, writeBlock := 32 })).main
    let events := floodedUplink ++ [.rxOverflow 9]
    let ticks := linkTicks listRing link events
    ∃ dropped, LinkAccounts id (linkedRun listRing ⟨link, main⟩ events).link
        (events.flatMap LinkEvent.arrivals) (ticks.flatMap LoopTick.octets) dropped ∧
      DropsReported (overflowDetails (tickRunCalls main ticks).fdir) (UInt32.ofNat dropped)
        dropped := by
  intro link main events ticks
  have noReports : main.lastReportedRxDrops = 0 := by decide +kernel
  obtain ⟨_, _, dropped, accounts, reported⟩ := linkedRun_reportsDrops listRing_documented
    (show id link.ring = [] from rfl) rfl noReports floodedUplink 9
  exact ⟨dropped, accounts, reported⟩

end FswCore
