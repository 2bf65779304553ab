import FswCore.Pktstore.Refinement

/-!
Contract: a retrieval delivers its time window.

Owns:
- `ActiveThroughout`, the calls made until a retrieval ends;
- at the log: delivered packets and packets still owed make up the window, and
  every other call is frozen out;
- the same of the ring, from any state reached with non-decreasing storage times.
-/

namespace FswCore

open Library

variable {cfg : Config}

/-- The retrieval is in progress before each of the calls. -/
def ActiveThroughout (store : Pktstore cfg) : List PktstoreOp → Prop
  | [] => True
  | op :: rest =>
      store.retrievalActive = true ∧ ActiveThroughout (pktstoreApply store op).2 rest

/-- The packets handed out in a run. -/
def deliveredPackets (replies : List PktstoreReply) : List (List UInt8) :=
  replies.filterMap fun
    | .retrieved (.ok (some packet)) => some packet
    | _ => none

def isRetrieveNext : PktstoreOp → Bool
  | .retrieveNext _ => true
  | _ => false

/-- The packets the log still owes, none once the retrieval has ended. -/
def PacketLog.owedPackets (log : PacketLog) : List (List UInt8) :=
  (log.owed.getD []).map (·.packet)

/-! ### One call during a retrieval -/

/-- What a call does while packets are owed. -/
structure RetrievalStep (cfg : Config) (log : PacketLog) (op : PktstoreOp) : Prop where
  frozen : (logApply cfg log op).2.packets = log.packets
  delivers : deliveredPackets [(logApply cfg log op).1] ++ (logApply cfg log op).2.owedPackets =
    log.owedPackets
  keeps : isRetrieveNext op = false → (logApply cfg log op).2.owed = log.owed

theorem logApply_retrieval {log : PacketLog} {owed : List PktstoreEntry}
    (active : log.owed = some owed) (op : PktstoreOp) : RetrievalStep cfg log op := by
  cases op with
  | store packet storageTime =>
      have suspended : log.enabled = false ∨ log.owed.isSome = true := by simp [active]
      have same : (logStore cfg log packet storageTime).2 = log := by
        simp only [logStore, if_pos suspended]
        split
        · rfl
        split <;> rfl
      refine ⟨?_, ?_, ?_⟩ <;> simp [logApply, same, deliveredPackets, active]
  | deleteUpTo timeSeconds =>
      refine ⟨?_, ?_, ?_⟩ <;> simp [logApply, logDeleteUpTo, deliveredPackets, active]
  | setEnabled enabled =>
      refine ⟨?_, ?_, ?_⟩ <;>
        simp [logApply, deliveredPackets, PacketLog.owedPackets, active]
  | armRetrieval fromTime toTime =>
      have same : (logArmRetrieval log fromTime toTime).2 = log := by
        simp only [logArmRetrieval, active, Option.isSome_some, if_true]
        split <;> rfl
      refine ⟨?_, ?_, ?_⟩ <;> simp [logApply, same, deliveredPackets, active]
  | retrieveNext outCap =>
      cases owed with
      | nil =>
          refine ⟨?_, ?_, ?_⟩ <;>
            simp [logApply, logRetrieveNext, deliveredPackets, PacketLog.owedPackets, active,
              isRetrieveNext]
      | cons next rest =>
          by_cases small : outCap < next.packet.length
          · refine ⟨?_, ?_, ?_⟩ <;>
              simp [logApply, logRetrieveNext, deliveredPackets, active, small]
          · refine ⟨?_, ?_, ?_⟩ <;>
              simp [logApply, logRetrieveNext, deliveredPackets, PacketLog.owedPackets, active,
                small, isRetrieveNext]
  | count => refine ⟨?_, ?_, ?_⟩ <;> simp [logApply, deliveredPackets, active]
  | span => refine ⟨?_, ?_, ?_⟩ <;> simp [logApply, deliveredPackets, active]

/-! ### A whole session -/

theorem deliveredPackets_cons (reply : PktstoreReply) (replies : List PktstoreReply) :
    deliveredPackets (reply :: replies) = deliveredPackets [reply] ++ deliveredPackets replies := by
  rw [deliveredPackets, deliveredPackets, deliveredPackets, ← List.filterMap_append]
  rfl

theorem Refines.owed_some {store : Pktstore cfg} {log : PacketLog} (refines : Refines store log)
    (active : store.retrievalActive = true) : ∃ owed, log.owed = some owed :=
  Option.isSome_iff_exists.mp (refines.active ▸ active)

/-- Delivered and owed packets together stay the same until the retrieval ends,
and so do the packets stored. -/
theorem session_delivers {store : Pktstore cfg} {log : PacketLog} {session : List PktstoreOp}
    (refines : Refines store log) (ordered : log.Ordered cfg)
    (throughout : ActiveThroughout store session) :
    ∃ final : PacketLog, Refines (pktstoreRun store session).2 final ∧
      final.packets = log.packets ∧
      deliveredPackets (pktstoreRun store session).1 ++ final.owedPackets = log.owedPackets := by
  induction session generalizing store log with
  | nil => exact ⟨log, refines, rfl, rfl⟩
  | cons op rest inductionHypothesis =>
      obtain ⟨owed, active⟩ := refines.owed_some throughout.1
      have call := pktstoreApply_refines refines ordered op
      have step : RetrievalStep cfg log op := logApply_retrieval active op
      have orderedAfter : (logApply cfg log op).2.Ordered cfg :=
        ordered.sublist (step.frozen ▸ List.Sublist.refl _)
      obtain ⟨final, refinesFinal, frozen, delivers⟩ :=
        inductionHypothesis call.2 orderedAfter throughout.2
      refine ⟨final, refinesFinal, frozen.trans step.frozen, ?_⟩
      rw [pktstoreRun, deliveredPackets_cons, List.append_assoc, delivers, call.1]
      exact step.delivers

/-! ### The session ends -/

/-- Retrieve calls with large buffers until the retrieval ends. -/
def PacketLog.callsLeft (log : PacketLog) : Nat :=
  match log.owed with
  | none => 0
  | some owed => owed.length + 1

/-- Each retrieve into a large buffer is one of the calls left; no other call
is. -/
theorem logApply_callsLeft {log : PacketLog} {owed : List PktstoreEntry}
    (active : log.owed = some owed)
    (fits : ∀ entry ∈ owed, entry.packet.length ≤ cfg.pktstorePacketMax) (op : PktstoreOp)
    (large : ∀ outCap, op = .retrieveNext outCap → cfg.pktstorePacketMax ≤ outCap) :
    (logApply cfg log op).2.callsLeft + (if isRetrieveNext op then 1 else 0) = log.callsLeft := by
  have step : RetrievalStep cfg log op := logApply_retrieval active op
  cases isRetrieve : isRetrieveNext op with
  | false => simp [PacketLog.callsLeft, step.keeps isRetrieve]
  | true =>
      cases op with
      | retrieveNext outCap =>
          cases owed with
          | nil => simp [logApply, logRetrieveNext, PacketLog.callsLeft, active]
          | cons next rest =>
              have room : ¬ outCap < next.packet.length := by
                have nextFits := fits next (by simp)
                have outLarge := large outCap rfl
                omega
              simp [logApply, logRetrieveNext, PacketLog.callsLeft, active, room]
      | _ => simp [isRetrieveNext] at isRetrieve

/-- The buffers of all retrieve calls hold any packet. -/
def LargeBuffers (cfg : Config) (ops : List PktstoreOp) : Prop :=
  ∀ outCap, PktstoreOp.retrieveNext outCap ∈ ops → cfg.pktstorePacketMax ≤ outCap

/-- The windowed packets are among those stored. -/
def PacketLog.OwesStored (log : PacketLog) : Prop :=
  ∀ owed, log.owed = some owed → ∀ entry ∈ owed, entry ∈ log.packets

/-- A call owes no packet it did not owe before. -/
theorem logApply_owesStored {log : PacketLog} {owed : List PktstoreEntry}
    (active : log.owed = some owed) (owes : log.OwesStored) (op : PktstoreOp) :
    (logApply cfg log op).2.OwesStored := by
  have step : RetrievalStep cfg log op := logApply_retrieval active op
  cases isRetrieve : isRetrieveNext op with
  | false => rwa [PacketLog.OwesStored, step.keeps isRetrieve, step.frozen]
  | true =>
      cases op with
      | retrieveNext outCap =>
          cases owed with
          | nil => simp [PacketLog.OwesStored, logApply, logRetrieveNext, active]
          | cons next rest =>
              intro later found entry member
              rw [step.frozen]
              simp only [logApply, logRetrieveNext, active] at found
              split at found
              · exact owes _ active entry (by simp_all)
              · obtain rfl := Option.some.inj found
                exact owes _ active entry (List.mem_cons_of_mem _ member)
      | _ => simp [isRetrieveNext] at isRetrieve

/-- Either the session goes on through all the calls, and each retrieve took one
of the calls left, or it ends within them after no more retrieves than that. -/
theorem session_ends {store : Pktstore cfg} {log : PacketLog} {later : List PktstoreOp}
    (refines : Refines store log) (ordered : log.Ordered cfg) (owes : log.OwesStored)
    (active : store.retrievalActive = true) (large : LargeBuffers cfg later) :
    later.countP isRetrieveNext < log.callsLeft ∨
      ∃ session rest, later = session ++ rest ∧ ActiveThroughout store session ∧
        (pktstoreRun store session).2.retrievalActive = false ∧
        session.countP isRetrieveNext ≤ log.callsLeft := by
  induction later generalizing store log with
  | nil =>
      obtain ⟨owed, owing⟩ := refines.owed_some active
      exact .inl (by simp [PacketLog.callsLeft, owing])
  | cons op rest inductionHypothesis =>
      obtain ⟨owed, owing⟩ := refines.owed_some active
      have call := pktstoreApply_refines refines ordered op
      have step : RetrievalStep cfg log op := logApply_retrieval owing op
      have orderedAfter : (logApply cfg log op).2.Ordered cfg :=
        ordered.sublist (step.frozen ▸ List.Sublist.refl _)
      have calls := logApply_callsLeft owing
        (fun entry member => ordered.bounded entry (owes owed owing entry member)) op
        fun outCap isRetrieve => large outCap (isRetrieve ▸ List.mem_cons_self)
      cases activeAfter : (pktstoreApply store op).2.retrievalActive with
      | false =>
          refine .inr ⟨[op], rest, rfl, ⟨active, trivial⟩, activeAfter, ?_⟩
          rw [List.countP_singleton, ← calls]
          exact Nat.le_add_left _ _
      | true =>
          have next := inductionHypothesis call.2 orderedAfter
            (logApply_owesStored owing owes op) activeAfter
            fun outCap member => large outCap (List.mem_cons_of_mem _ member)
          rw [List.countP_cons]
          rcases next with goesOn | ⟨session, remaining, split, throughout, ended, bound⟩
          · exact .inl (by omega)
          · refine .inr ⟨op :: session, remaining, by rw [split]; rfl, ⟨active, throughout⟩,
              ended, ?_⟩
            rw [List.countP_cons]
            omega

/-! ### From an armed window -/

/-- After the retrieval, stores and deletes take effect. -/
structure Unfrozen (store : Pktstore cfg) : Prop where
  stores : ∀ packet storageTime, store.enabled = true → packet ≠ [] →
    packet.length ≤ cfg.pktstorePacketMax →
    (pktstoreStore store packet storageTime).1 = .ok true ∧
      pktstoreView (pktstoreStore store packet storageTime).2 =
        (if store.count ≥ cfg.pktstoreCapacity then (pktstoreView store).tail
          else pktstoreView store) ++ [⟨storageTime, packet⟩]
  deletes : ∀ timeSeconds,
    (pktstoreDeleteUpTo store timeSeconds).1 =
        .ok ((pktstoreView store).filter fun entry => entry.storageTime ≤ timeSeconds).length ∧
      pktstoreView (pktstoreDeleteUpTo store timeSeconds).2 =
        (pktstoreView store).filter fun entry => timeSeconds < entry.storageTime

theorem Refines.unfrozen {store : Pktstore cfg} {log : PacketLog} (refines : Refines store log)
    (ordered : log.Ordered cfg) (idle : store.retrievalActive = false) : Unfrozen store where
  stores packet storageTime on nonempty fits := by
    have stored : (pktstoreStore store packet storageTime).1 = .ok true := by
      have present : packet.length ≠ 0 := fun zero => nonempty (List.length_eq_zero_iff.mp zero)
      simp [pktstoreStore, present, Nat.not_lt.mpr fits, on, idle]
    exact ⟨stored, (pktstoreStore_view refines.count_le storageTime stored).1⟩
  deletes timeSeconds := by
    have step := pktstoreDeleteUpTo_refines refines ordered timeSeconds
    have none := refines.owed_none idle
    rw [step.1, step.2.packets, refines.packets]
    simp [logDeleteUpTo, none]

/-- A session over the window: while it lasts the stored packets stay as they
are and the delivered packets are the window's from its front; when it has ended
they are all of the window's. -/
structure SessionDelivers (start : Pktstore cfg) (fromTime toTime : UInt32)
    (session : List PktstoreOp) : Prop where
  frozen : pktstoreView (pktstoreRun start session).2 = pktstoreView start
  delivers : ∃ remaining, deliveredPackets (pktstoreRun start session).1 ++ remaining =
      (windowOf (pktstoreView start) fromTime toTime).map (·.packet) ∧
    ((pktstoreRun start session).2.retrievalActive = false → remaining = [])
  unfrozen : (pktstoreRun start session).2.retrievalActive = false →
    Unfrozen (pktstoreRun start session).2

/-- Arming succeeds only when idle, and then owes the window. -/
theorem pktstoreArmRetrieval_armed {store : Pktstore cfg} {log : PacketLog}
    (refines : Refines store log) (ordered : log.Ordered cfg) {fromTime toTime : UInt32}
    (armed : (pktstoreArmRetrieval store fromTime toTime).1 = .ok) :
    Refines (pktstoreArmRetrieval store fromTime toTime).2
      { log with owed := some (windowOf log.packets fromTime toTime) } := by
  have arm := pktstoreArmRetrieval_refines refines ordered fromTime toTime
  rw [arm.1] at armed
  have result : (logArmRetrieval log fromTime toTime).2 =
      { log with owed := some (windowOf log.packets fromTime toTime) } := by
    unfold logArmRetrieval at armed ⊢
    split at armed
    · contradiction
    split at armed
    · contradiction
    rename_i inOrder idle
    rw [if_neg inOrder, if_neg idle]
  exact result ▸ arm.2

theorem session_delivers_window {start : Pktstore cfg} {log : PacketLog}
    {fromTime toTime : UInt32} (ordered : log.Ordered cfg)
    (refines : Refines start
      { log with owed := some (windowOf log.packets fromTime toTime) })
    {session : List PktstoreOp} (throughout : ActiveThroughout start session) :
    SessionDelivers start fromTime toTime session := by
  obtain ⟨final, refinesFinal, frozen, delivers⟩ :=
    session_delivers refines (ordered.sublist (List.Sublist.refl _)) throughout
  have orderedFinal : final.Ordered cfg := ordered.sublist (frozen ▸ List.Sublist.refl _)
  refine ⟨?_, ⟨final.owedPackets, ?_, ?_⟩, fun idle => refinesFinal.unfrozen orderedFinal idle⟩
  · rw [refinesFinal.packets, refines.packets, frozen]
  · rw [delivers, refines.packets]
    rfl
  · intro idle
    simp [PacketLog.owedPackets, refinesFinal.owed_none idle]

/-- Retrieval correctness. In a state reached with non-decreasing storage times
an armed window is delivered exactly, through any interleaving, and large
buffers end the retrieval after one call more than there are packets. -/
theorem pktstoreRetrieval_delivers (fresh : Pktstore cfg) (ops : List PktstoreOp)
    (fromTime toTime : UInt32) (monotone : (storageTimes ops).Pairwise (· ≤ ·))
    (armed : (pktstoreArmRetrieval (pktstoreRun (pktstoreInit fresh) ops).2
      fromTime toTime).1 = .ok) :
    let start := (pktstoreArmRetrieval (pktstoreRun (pktstoreInit fresh) ops).2
      fromTime toTime).2
    pktstoreView start = pktstoreView (pktstoreRun (pktstoreInit fresh) ops).2 ∧
    (∀ session, ActiveThroughout start session →
      SessionDelivers start fromTime toTime session) ∧
    ∀ later, LargeBuffers cfg later → start.count + 1 ≤ later.countP isRetrieveNext →
      ∃ session rest, later = session ++ rest ∧ ActiveThroughout start session ∧
        (pktstoreRun start session).2.retrievalActive = false ∧
        session.countP isRetrieveNext ≤ start.count + 1 := by
  intro start
  obtain ⟨_, reached, ordered⟩ :=
    pktstoreRun_simulates (pktstoreInit_refines fresh) (logInit_orderedAhead monotone)
  have refines := pktstoreArmRetrieval_armed reached ordered armed
  refine ⟨by rw [refines.packets, reached.packets], fun session throughout =>
    session_delivers_window ordered refines throughout, fun later large enough => ?_⟩
  have owes : PacketLog.OwesStored { (logRun cfg logInit ops).2 with
      owed := some (windowOf (logRun cfg logInit ops).2.packets fromTime toTime) } := by
    intro owed found entry member
    obtain rfl := Option.some.inj found
    exact List.mem_of_mem_filter member
  have windowSize : (windowOf (logRun cfg logInit ops).2.packets fromTime toTime).length ≤
      start.count := by
    rw [refines.count]
    exact List.length_filter_le _ _
  have active : start.retrievalActive = true := by rw [refines.active]; rfl
  rcases session_ends refines (ordered.sublist (List.Sublist.refl _)) owes active large with
    goesOn | ⟨session, rest, split, throughout, ended, bound⟩
  · simp only [PacketLog.callsLeft] at goesOn
    omega
  · simp only [PacketLog.callsLeft] at bound
    exact ⟨session, rest, split, throughout, ended, by omega⟩

/-- Two of three packets lie in the window; a store in between is refused and a
small buffer loses nothing. -/
theorem pktstoreRetrieval_delivers_two :
    SessionDelivers (pktstoreArmRetrieval (pktstoreRun
        (pktstoreInit (emptyMemory { pktstoreCapacity := 4 }))
        [.store [1] 10, .store [2, 2] 20, .store [3] 30]).2 20 40).2 20 40
      [.retrieveNext 1, .store [4] 40, .retrieveNext 2, .retrieveNext 128, .retrieveNext 128] :=
  (pktstoreRetrieval_delivers _ _ 20 40 (by decide) (by decide)).2.1 _
    ⟨rfl, rfl, rfl, rfl, rfl, trivial⟩

end FswCore
