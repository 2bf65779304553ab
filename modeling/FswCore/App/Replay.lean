import FswCore.App.Mission
import FswCore.App.TickRun
import FswCore.Pktstore.Capture

/-!
Contract: what the main loop replays, against what it has sent live.

Owns:
- the packets each tick sends live are those it offers to the packet store, and no
  other call of the loop offers one;
- while a retrieval is in progress, the packets replayed and those still owed are the
  same whatever else the loop does;
- replays are, in order, among the packets sent live before, and a retrieval is over
  after as many ticks as the store has slots, and one.

The clock of the ticks is arbitrary here. Does not own: which packets a window selects.
-/

namespace FswCore

open Library

variable {cfg : Config} {build : AppBuild}

/-! ### Live and replayed packets -/

/-- The packets sent live, as `transmit_tm` walks them. -/
def LoopOutput.live (output : LoopOutput) : List (List UInt8) :=
  burstPackets output.sent.length output.sent

def LoopOutput.replays (output : LoopOutput) : List (List UInt8) :=
  if output.replayed = [] then [] else [output.replayed]

def tickLive (state : MainState cfg) (ticks : List LoopTick) : List (List UInt8) :=
  (outputs loopTick state ticks).2.flatMap LoopOutput.live

def tickReplays (state : MainState cfg) (ticks : List LoopTick) : List (List UInt8) :=
  (outputs loopTick state ticks).2.flatMap LoopOutput.replays

theorem offeredPackets_record (storeTime : UInt32) (burst : List UInt8) :
    offeredPackets (recordCalls storeTime burst).pktstore = burstPackets burst.length burst := by
  rw [offeredPackets, recordCalls, List.filterMap_map]
  exact List.filterMap_some

/-- A call that a telecommand can make: it offers no packet and retrieves none. -/
def PktstoreOp.IsRequest : PktstoreOp → Prop
  | .store _ _ | .retrieveNext _ => False
  | _ => True

theorem dispatchCalls_requests (ctx : RouterCtx cfg) (tc : List UInt8) :
    ∀ op ∈ (dispatchCalls ctx tc).pktstore, op.IsRequest := by
  intro op member
  simp only [dispatchCalls] at member
  split at member
  · simp only [requestCalls, pus15Calls] at member
    split_ifs at member
    all_goals first
      | contradiction
      | exact List.mem_singleton.mp member ▸ trivial
  · contradiction

theorem offeredPackets_requests {ops : List PktstoreOp} (requests : ∀ op ∈ ops, op.IsRequest) :
    offeredPackets ops = [] := by
  rw [offeredPackets, List.filterMap_eq_nil_iff]
  intro op member
  have request := requests op member
  cases op with
  | store packet storageTime => exact request.elim
  | deleteUpTo | setEnabled | armRetrieval | retrieveNext | count | span => rfl

theorem loopDispatch_sent (state : LoopState cfg) (nowSeconds : UInt32) (tc : List UInt8) :
    (loopDispatch state nowSeconds tc).sent =
      (tcRouterDispatch state.ctx nowSeconds tc tcRouterMaxTm).out := by
  simp only [loopDispatch, tcRouterDispatch_ok]
  split
  · rfl
  · rename_i silent
    simp only [true_and, Nat.not_lt, Nat.le_zero, List.length_eq_zero_iff] at silent
    exact silent.symm

def LoopTick.isRetrieval : LoopTick → Bool
  | .retrieval => true
  | _ => false

/-- The packets a tick offers to the store are those it sends. -/
theorem tickCalls_offered (state : MainState cfg) (tick : LoopTick) :
    offeredPackets (state.tickCalls tick).stores.pktstore = (loopTick state tick).2.live := by
  have dispatched (dispatch : TickDispatch cfg) :
      offeredPackets dispatch.calls.stores.pktstore =
        burstPackets dispatch.reply.out.length dispatch.reply.out := by
    simp only [TickDispatch.calls, telecommandCalls, StoreCalls.andThen, offeredPackets_append,
      offeredPackets_requests (dispatchCalls_requests dispatch.ctx dispatch.tc), List.nil_append,
      offeredPackets_record]
    rfl
  cases tick with
  | hk | largedata | fdir =>
      rw [MainState.tickCalls_own rfl]
      exact offeredPackets_record _ _
  | dynamicHk nowSeconds =>
      rw [MainState.tickCalls_own rfl]
      simp only [MainState.ownCalls]
      split
      · exact offeredPackets_record _ _
      · have quiet : loopTick state (.dynamicHk nowSeconds) = state.quiet := by
          simp only [loopTick, dynamicHkTick]
        rw [quiet]
        rfl
  | rxOverflow nowSeconds drops =>
      rw [MainState.tickCalls_own rfl]
      simp only [MainState.ownCalls, loopTick, rxOverflowTick]
      split <;> rfl
  | retrieval =>
      rw [MainState.tickCalls_own rfl]
      simp only [loopTick, retrievalTick]
      split <;> rfl
  | release nowSeconds =>
      simp only [MainState.tickCalls, MainState.ownCalls, MainState.dispatches, loopTick,
        MainState.dispatched, releaseTick_eq, LoopOutput.live]
      cases releasedTc state.loop.ctx nowSeconds with
      | none => rfl
      | some tc =>
          rw [loopDispatch_sent]
          exact dispatched ⟨poppedCtx state.loop.ctx nowSeconds, nowSeconds, tc⟩
  | receive nowSeconds drops received =>
      simp only [MainState.tickCalls, MainState.ownCalls, MainState.dispatches, framedTc, loopTick,
        receiveTick, LoopOutput.live]
      cases received with
      | none => rfl
      | some byte =>
          simp only [Option.bind_some]
          rcases framerByte state.framer byte with ⟨framer, completed⟩
          cases completed with
          | none => rfl
          | some tc =>
              simp only [MainState.dispatched, framerDispatch, loopDispatch_sent]
              exact dispatched
                ⟨{ state.loop.ctx with rxRingOverflowDrops := drops }, nowSeconds, tc⟩

/-- Only the retrieval tick retrieves. -/
theorem tickCalls_retrieve (state : MainState cfg) {tick : LoopTick}
    (other : tick.isRetrieval = false) :
    ∀ op ∈ (state.tickCalls tick).stores.pktstore, isRetrieveNext op = false := by
  have recorded (storeTime : UInt32) (burst : List UInt8) :
      ∀ op ∈ (recordCalls storeTime burst).pktstore, isRetrieveNext op = false := by
    intro op member
    obtain ⟨packet, _, rfl⟩ := List.mem_map.mp member
    rfl
  intro op member
  simp only [MainState.tickCalls, ComponentCalls.andThen, StoreCalls.andThen,
    List.mem_append] at member
  rcases member with own | dispatched
  · cases tick with
    | retrieval => contradiction
    | hk nowSeconds drops => exact recorded _ _ op own
    | largedata nowSeconds => exact recorded _ _ op own
    | fdir nowSeconds => exact recorded _ _ op own
    | dynamicHk nowSeconds =>
        simp only [MainState.ownCalls] at own
        split at own
        · exact recorded _ _ op own
        · exact absurd own List.not_mem_nil
    | rxOverflow nowSeconds drops =>
        simp only [MainState.ownCalls] at own
        split at own <;> exact absurd own List.not_mem_nil
    | release | receive => exact absurd own List.not_mem_nil
  · cases handed : state.dispatches tick with
    | none =>
        rw [handed] at dispatched
        exact absurd dispatched List.not_mem_nil
    | some dispatch =>
        rw [handed] at dispatched
        rcases List.mem_append.mp dispatched with request | record
        · have isRequest := dispatchCalls_requests dispatch.ctx dispatch.tc op request
          cases op with
          | retrieveNext outCap => exact isRequest.elim
          | store | deleteUpTo | setEnabled | armRetrieval | count | span => rfl
        · exact recorded _ _ op record

theorem loopTick_replays (state : MainState cfg) {tick : LoopTick}
    (other : tick.isRetrieval = false) : (loopTick state tick).2.replays = [] := by
  cases tick with
  | retrieval => contradiction
  | hk nowSeconds drops =>
      simp only [loopTick, hkTick]
      split <;> rfl
  | dynamicHk nowSeconds =>
      simp only [loopTick, dynamicHkTick]
      split
      · split <;> rfl
      · rfl
  | rxOverflow nowSeconds drops =>
      simp only [loopTick, rxOverflowTick]
      split <;> rfl
  | fdir | release | largedata => rfl
  | receive nowSeconds drops received =>
      simp only [loopTick, receiveTick]
      split
      · rfl
      · split <;> rfl

/-! ### The store behind the loop -/

/-- The packet store is wired and holds packets that were sent live. -/
def MainState.Records (live : List (List UInt8)) (state : MainState cfg) : Prop :=
  ∃ store, state.loop.ctx.store = some store ∧ Captured live store

/-- The packet store as a log, if it is wired. -/
def MainState.packetLog (state : MainState cfg) : PacketLog :=
  (state.loop.ctx.store.map pktstoreLog).getD logInit

theorem loopTick_store (state : MainState cfg) (tick : LoopTick) :
    (loopTick state tick).1.loop.ctx.store = state.loop.ctx.store.map fun store =>
      (pktstoreRun store (state.tickCalls tick).stores.pktstore).2 :=
  congrArg (fun components => components.stores.store) (loopTick_calls state tick)

theorem MainState.Records.tick {live : List (List UInt8)} {state : MainState cfg}
    (records : state.Records live) (tick : LoopTick) :
    (loopTick state tick).1.Records (live ++ (loopTick state tick).2.live) := by
  obtain ⟨store, wired, captured⟩ := records
  refine ⟨_, (loopTick_store state tick).trans (by rw [wired]; rfl), ?_⟩
  rw [← tickCalls_offered]
  exact captured.run _

theorem MainState.Records.ticks {live : List (List UInt8)} {state : MainState cfg}
    (records : state.Records live) (ticks : List LoopTick) :
    (tickRun state ticks).Records (live ++ tickLive state ticks) := by
  induction ticks generalizing state live with
  | nil =>
      rw [show tickLive state [] = [] from rfl, List.append_nil]
      exact records
  | cons tick rest inductionHypothesis =>
      have later := inductionHypothesis (records.tick tick)
      rw [List.append_assoc] at later
      exact later

theorem mainBoot_records (subs : Subsystems) (fdir : FdirSystem cfg)
    (largedata : LargedataSession) (bootSeconds : UInt32) :
    let boot := mainBoot cfg subs fdir largedata bootSeconds
    boot.1.Records boot.2.live := by
  intro boot
  have stores := (mainWired cfg subs fdir largedata bootSeconds).send_stores bootSeconds
    (.eventReport ((mainWired cfg subs fdir largedata bootSeconds).request bootSeconds)
      pus5SevInfo pus5EvtFswBoot []) trivial
  have wired := congrArg RouterStores.store stores
  have captured := (pktstoreInit_captured (emptyMemory cfg)).run
    (recordCalls bootSeconds boot.2.sent).pktstore
  rw [List.nil_append, offeredPackets_record] at captured
  exact ⟨_, wired, captured⟩

theorem appMain_records (power : PowerUp cfg) (subs : Subsystems) :
    (appMain cfg build power subs).1.Records (appMain cfg build power subs).2.live := by
  have records := mainBoot_records subs
    { fdir := appFdir build power.fdirMemory, mode := subs.mode, modeSinkIsFdir := true }
    (appLargedata cfg build) power.bootSeconds
  simp only [appMain]
  split <;> exact records

/-! ### A retrieval in progress -/

def MainState.retrieving (state : MainState cfg) : Bool :=
  (state.loop.ctx.store.map fun store => store.retrievalActive).getD false

/-- A retrieval is in progress before each of the ticks. -/
def RetrievalThroughout (state : MainState cfg) : List LoopTick → Prop
  | [] => True
  | tick :: rest =>
      state.retrieving = true ∧ RetrievalThroughout (loopTick state tick).1 rest

/-- A tick replays the next packet owed, or leaves the retrieval alone. -/
theorem loopTick_retrieval (admitted : cfg.KconfigAdmitted) {live : List (List UInt8)}
    {state : MainState cfg} (records : state.Records live) (retrieving : state.retrieving = true)
    (tick : LoopTick) :
    (loopTick state tick).2.replays ++ (loopTick state tick).1.packetLog.owedPackets =
        state.packetLog.owedPackets ∧
      (loopTick state tick).1.packetLog.callsLeft + (if tick.isRetrieval then 1 else 0) =
        state.packetLog.callsLeft := by
  obtain ⟨store, wired, captured⟩ := records
  have after := loopTick_store state tick
  simp only [MainState.retrieving, wired, Option.map_some, Option.getD_some] at retrieving after
  simp only [MainState.packetLog, wired, after, Option.map_some, Option.getD_some]
  cases isRetrieval : tick.isRetrieval with
  | false =>
      have owed := pktstoreRun_frozen captured retrieving (tickCalls_retrieve state isRetrieval)
      rw [loopTick_replays state isRetrieval, PacketLog.owedPackets, PacketLog.callsLeft, owed]
      exact ⟨rfl, rfl⟩
  | true =>
      cases tick with
      | hk | dynamicHk | rxOverflow | fdir | release | largedata | receive => contradiction
      | retrieval =>
          have large : cfg.pktstorePacketMax ≤ tcRouterMaxTm := admitted.pktstorePacketMax.2
          obtain ⟨delivers, calls⟩ := pktstoreRetrieveNext_delivers captured retrieving large
          refine ⟨?_, calls⟩
          refine Eq.trans ?_ delivers
          congr 1
          simp only [loopTick, retrievalTick, wired, LoopOutput.replays]
          have sized : ∀ packet, (pktstoreRetrieveNext store tcRouterMaxTm).1.toOption.join =
              some packet → packet ≠ [] := by
            intro packet found
            rw [found] at delivers
            have isOwed : packet ∈ (pktstoreLog store).owedPackets := by
              rw [← delivers]
              exact List.mem_cons_self
            exact (captured.sized packet ((owedPackets_sublist store).subset isOwed)).1
          cases found : (pktstoreRetrieveNext store tcRouterMaxTm).1.toOption.join with
          | none => rfl
          | some packet => exact if_neg (sized packet found)

/-- Replayed and owed packets together stay the same until the retrieval ends. -/
theorem tickRun_retrieval (admitted : cfg.KconfigAdmitted) {live : List (List UInt8)}
    {state : MainState cfg} {session : List LoopTick} (records : state.Records live)
    (throughout : RetrievalThroughout state session) :
    tickReplays state session ++ (tickRun state session).packetLog.owedPackets =
        state.packetLog.owedPackets ∧
      (tickRun state session).packetLog.callsLeft + session.countP LoopTick.isRetrieval =
        state.packetLog.callsLeft := by
  induction session generalizing state live with
  | nil => exact ⟨rfl, rfl⟩
  | cons tick rest inductionHypothesis =>
      obtain ⟨delivers, calls⟩ := loopTick_retrieval admitted records throughout.1 tick
      obtain ⟨later, laterCalls⟩ := inductionHypothesis (records.tick tick) throughout.2
      constructor
      · rw [← delivers, ← later, ← List.append_assoc]
        rfl
      · rw [← calls, ← laterCalls, List.countP_cons, ← Nat.add_assoc]
        rfl

/-- While a retrieval is in progress, whatever else the loop does, the packets it
replays are, in order, among those sent live before; and it is over after one tick for
each slot of the store, and one more. -/
theorem appMain_replays (admitted : cfg.KconfigAdmitted) (power : PowerUp cfg)
    (subs : Subsystems) (before session : List LoopTick) :
    let boot := appMain cfg build power subs
    RetrievalThroughout (tickRun boot.1 before) session →
      (tickReplays (tickRun boot.1 before) session).Sublist
          (boot.2.live ++ tickLive boot.1 before) ∧
        session.countP LoopTick.isRetrieval ≤ cfg.pktstoreCapacity + 1 := by
  intro boot throughout
  have records : (tickRun boot.1 before).Records (boot.2.live ++ tickLive boot.1 before) :=
    (appMain_records power subs).ticks before
  obtain ⟨delivers, calls⟩ := tickRun_retrieval admitted records throughout
  obtain ⟨store, wired, captured⟩ := records
  have log : (tickRun boot.1 before).packetLog = pktstoreLog store := by
    rw [MainState.packetLog, wired]
    rfl
  rw [log] at delivers calls
  constructor
  · have among := (owedPackets_sublist store).trans captured.held
    rw [← delivers] at among
    exact (List.sublist_append_left _ _).trans among
  · have few := (owedPackets_sublist store).length_le
    rw [storedPackets, List.length_map, pktstoreView, ringView_length] at few
    have left := PacketLog.callsLeft_le (pktstoreLog store)
    have countLe := captured.count_le
    omega

/-- A request for all that was stored in the first hundred seconds. -/
def downlinkRequest : List LoopTick :=
  [0x19, 0, 0xC0, 0, 0, 14, 0x20, 15, 9, 0, 0, 0, 0, 0, 0, 0, 0, 0, 100, 0xCD, 0x73].map
    fun byte => .receive 9 0 (some byte)

/-- The boot event is replayed. -/
theorem appMain_replays_boot :
    let boot := appMain defaultConfig watchfulBuild (zeroedPowerUp defaultConfig 0)
      (subsystemsInit defaultConfig watchfulBuild.tables)
    tickReplays (tickRun boot.1 downlinkRequest) [.fdir 9, .retrieval] ≠ [] ∧
      (tickReplays (tickRun boot.1 downlinkRequest) [.fdir 9, .retrieval]).Sublist
        (boot.2.live ++ tickLive boot.1 downlinkRequest) := by
  intro boot
  have throughout : RetrievalThroughout (tickRun boot.1 downlinkRequest) [.fdir 9, .retrieval] :=
    ⟨by decide +kernel, by decide +kernel, trivial⟩
  exact ⟨by decide +kernel, (appMain_replays Config.default_kconfigAdmitted
    (zeroedPowerUp defaultConfig 0) (subsystemsInit defaultConfig watchfulBuild.tables)
    downlinkRequest _ throughout).1⟩

end FswCore
