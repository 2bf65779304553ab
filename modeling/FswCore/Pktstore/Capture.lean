import FswCore.Pktstore.Retrieval

/-!
Contract: a packet store against the packets offered to it, whatever their times.

Owns:
- `Captured`: the packets held are, in order, among those offered;
- a retrieval in progress hands out the packets it owes, and every other call leaves
  it and the packets alone.

Does not own: which packets a retrieval owes, for which the times have to be in order.
-/

namespace FswCore

open Library

variable {cfg : Config}

/-! ### Packets held and owed -/

/-- The ring as a log. -/
def pktstoreLog (store : Pktstore cfg) : PacketLog where
  packets := pktstoreView store
  enabled := store.enabled
  owed := pktstoreOwed store

theorem pktstoreLog_refines {store : Pktstore cfg} (countLe : store.count ≤ cfg.pktstoreCapacity) :
    Refines store (pktstoreLog store) := ⟨rfl, rfl, rfl, countLe⟩

theorem Refines.log_eq {store : Pktstore cfg} {log : PacketLog} (refines : Refines store log) :
    pktstoreLog store = log := by
  rw [pktstoreLog, refines.packets, refines.enabled, refines.owed]

def storedPackets (store : Pktstore cfg) : List (List UInt8) :=
  (pktstoreView store).map (·.packet)

/-- The packets of store calls. -/
def offeredPackets (ops : List PktstoreOp) : List (List UInt8) :=
  ops.filterMap fun
    | .store packet _ => some packet
    | _ => none

theorem offeredPackets_append (first second : List PktstoreOp) :
    offeredPackets (first ++ second) = offeredPackets first ++ offeredPackets second :=
  List.filterMap_append

theorem owedPackets_sublist (store : Pktstore cfg) :
    (pktstoreLog store).owedPackets.Sublist (storedPackets store) := by
  rw [PacketLog.owedPackets, pktstoreLog, pktstoreOwed]
  split
  · exact ((List.takeWhile_prefix _).sublist.trans (List.drop_sublist _ _)).map _
  · exact List.nil_sublist _

theorem PacketLog.callsLeft_le (log : PacketLog) : log.callsLeft ≤ log.owedPackets.length + 1 := by
  rw [PacketLog.callsLeft, PacketLog.owedPackets, List.length_map]
  cases log.owed with
  | none => exact Nat.zero_le _
  | some owed => exact Nat.le_refl _

/-- What is held was offered, in the same order, and fits a slot. -/
structure Captured (offered : List (List UInt8)) (store : Pktstore cfg) : Prop where
  held : (storedPackets store).Sublist offered
  count_le : store.count ≤ cfg.pktstoreCapacity
  sized : ∀ packet ∈ storedPackets store, packet ≠ [] ∧ packet.length ≤ cfg.pktstorePacketMax

theorem pktstoreInit_captured (store : Pktstore cfg) : Captured [] (pktstoreInit store) where
  held := List.Sublist.refl _
  count_le := Nat.zero_le _
  sized _ none := absurd none List.not_mem_nil

namespace Captured

variable {offered : List (List UInt8)} {store : Pktstore cfg}

/-- Packets that stay, or go. -/
theorem fewer (captured : Captured offered store) {after : Pktstore cfg}
    (sublist : (storedPackets after).Sublist (storedPackets store))
    (countLe : after.count ≤ cfg.pktstoreCapacity) (more : List (List UInt8)) :
    Captured (offered ++ more) after where
  held := (sublist.trans captured.held).trans (List.sublist_append_left _ _)
  count_le := countLe
  sized packet member := captured.sized packet (sublist.subset member)

theorem stores (captured : Captured offered store) (packet : List UInt8) (storageTime : UInt32) :
    Captured (offered ++ [packet]) (pktstoreStore store packet storageTime).2 := by
  by_cases stored : (pktstoreStore store packet storageTime).1 = .ok true
  · obtain ⟨view, countLe⟩ := pktstoreStore_view captured.count_le storageTime stored
    have fits : packet ≠ [] ∧ packet.length ≤ cfg.pktstorePacketMax := by
      simp only [pktstoreStore] at stored
      split_ifs at stored with empty large suspended
      all_goals first | contradiction | exact ⟨fun none => empty (by rw [none]; rfl), by omega⟩
    have kept : (if store.count ≥ cfg.pktstoreCapacity then (pktstoreView store).tail
        else pktstoreView store).Sublist (pktstoreView store) := by
      split
      · exact List.tail_sublist _
      · exact List.Sublist.refl _
    have held : storedPackets (pktstoreStore store packet storageTime).2 =
        (if store.count ≥ cfg.pktstoreCapacity then (pktstoreView store).tail
          else pktstoreView store).map (·.packet) ++ [packet] := by
      rw [storedPackets, view, List.map_append]
      rfl
    refine ⟨?_, countLe, fun other member => ?_⟩
    · rw [held]
      exact ((kept.map _).trans captured.held).append_right [packet]
    · rw [held, List.mem_append] at member
      rcases member with old | new
      · exact captured.sized other ((kept.map _).subset old)
      · rw [List.mem_singleton.mp new]
        exact fits
  · rw [pktstoreStore_refused stored]
    exact captured.fewer (List.Sublist.refl _) captured.count_le _

theorem apply (captured : Captured offered store) (op : PktstoreOp) :
    Captured (offered ++ offeredPackets [op]) (pktstoreApply store op).2 := by
  have same {after : Pktstore cfg} (view : pktstoreView after = pktstoreView store)
      (count : after.count = store.count) : Captured (offered ++ offeredPackets [op]) after :=
    captured.fewer (by rw [storedPackets, view]; exact List.Sublist.refl _)
      (count ▸ captured.count_le) _
  cases op with
  | store packet storageTime => exact captured.stores packet storageTime
  | deleteUpTo timeSeconds =>
      simp only [pktstoreApply, pktstoreDeleteUpTo]
      split
      · exact same rfl rfl
      · obtain ⟨view, _, countLe⟩ :=
          pktstoreDeleteLoop_spec store.entries timeSeconds store.count store.head 0
        refine captured.fewer ?_ (Nat.le_trans countLe captured.count_le) _
        rw [storedPackets, pktstoreView, view]
        exact (List.dropWhile_sublist _).map _
  | setEnabled enabled => exact same rfl rfl
  | armRetrieval fromTime toTime =>
      simp only [pktstoreApply, pktstoreArmRetrieval]
      split
      · exact same rfl rfl
      · split <;> exact same rfl rfl
  | retrieveNext outCap =>
      simp only [pktstoreApply, pktstoreRetrieveNext]
      split_ifs <;> exact same rfl rfl
  | count => exact same rfl rfl
  | span => exact same rfl rfl

theorem run (captured : Captured offered store) (ops : List PktstoreOp) :
    Captured (offered ++ offeredPackets ops) (pktstoreRun store ops).2 := by
  induction ops generalizing store offered with
  | nil =>
      rw [show offeredPackets [] = [] from rfl, List.append_nil]
      exact captured
  | cons op rest inductionHypothesis =>
      have later := inductionHypothesis (captured.apply op)
      rw [List.append_assoc, ← offeredPackets_append] at later
      exact later

end Captured

/-! ### A retrieval in progress -/

/-- No order of the times is needed while a retrieval is in progress. -/
theorem pktstoreApply_active {store : Pktstore cfg} (countLe : store.count ≤ cfg.pktstoreCapacity)
    (active : store.retrievalActive = true) (op : PktstoreOp) :
    (pktstoreApply store op).1 = (logApply cfg (pktstoreLog store) op).1 ∧
      pktstoreLog (pktstoreApply store op).2 = (logApply cfg (pktstoreLog store) op).2 := by
  have refines := pktstoreLog_refines countLe
  have owes : (pktstoreLog store).owed.isSome = true := refines.active ▸ active
  cases op with
  | store packet storageTime =>
      have step := pktstoreStore_refines refines packet storageTime
      exact ⟨congrArg PktstoreReply.stored step.1, step.2.log_eq⟩
  | deleteUpTo timeSeconds =>
      simp only [pktstoreApply, logApply, pktstoreDeleteUpTo, logDeleteUpTo, if_pos active,
        if_pos owes, and_self]
  | setEnabled enabled => exact ⟨rfl, rfl⟩
  | armRetrieval fromTime toTime =>
      simp only [pktstoreApply, logApply, pktstoreArmRetrieval, logArmRetrieval, if_pos active,
        if_pos owes]
      split <;> exact ⟨rfl, rfl⟩
  | retrieveNext outCap =>
      have step := pktstoreRetrieveNext_refines refines outCap
      exact ⟨congrArg PktstoreReply.retrieved step.1, step.2.log_eq⟩
  | count => exact ⟨congrArg PktstoreReply.counted refines.count, rfl⟩
  | span => exact ⟨congrArg PktstoreReply.spanned (pktstoreSpan_refines refines), rfl⟩

theorem pktstoreLog_owes {store : Pktstore cfg} (active : store.retrievalActive = true) :
    ∃ owed, (pktstoreLog store).owed = some owed := ⟨_, if_pos active⟩

theorem pktstoreLog_active {store : Pktstore cfg} :
    store.retrievalActive = (pktstoreLog store).owed.isSome := by
  rw [pktstoreLog, pktstoreOwed]
  cases store.retrievalActive <;> rfl

/-- Calls that retrieve nothing leave the retrieval alone. -/
theorem pktstoreRun_frozen {offered : List (List UInt8)} {store : Pktstore cfg}
    (captured : Captured offered store) (active : store.retrievalActive = true)
    {ops : List PktstoreOp} (others : ∀ op ∈ ops, isRetrieveNext op = false) :
    (pktstoreLog (pktstoreRun store ops).2).owed = (pktstoreLog store).owed := by
  induction ops generalizing store offered with
  | nil => rfl
  | cons op rest inductionHypothesis =>
      obtain ⟨owed, owes⟩ := pktstoreLog_owes active
      obtain ⟨_, after⟩ := pktstoreApply_active captured.count_le active op
      have step : RetrievalStep cfg (pktstoreLog store) op := logApply_retrieval owes op
      have keeps := step.keeps (others op List.mem_cons_self)
      rw [← after] at keeps
      have stillActive : (pktstoreApply store op).2.retrievalActive = true := by
        rw [pktstoreLog_active, keeps, owes]
        rfl
      exact (inductionHypothesis (captured.apply op) stillActive fun other member =>
        others other (List.mem_cons_of_mem op member)).trans keeps

/-- A retrieve call hands out the next packet owed, and is one of the calls left. -/
theorem pktstoreRetrieveNext_delivers {offered : List (List UInt8)} {store : Pktstore cfg}
    (captured : Captured offered store) (active : store.retrievalActive = true) {outCap : Nat}
    (large : cfg.pktstorePacketMax ≤ outCap) :
    (pktstoreRetrieveNext store outCap).1.toOption.join.toList ++
        (pktstoreLog (pktstoreRetrieveNext store outCap).2).owedPackets =
      (pktstoreLog store).owedPackets ∧
    (pktstoreLog (pktstoreRetrieveNext store outCap).2).callsLeft + 1 =
      (pktstoreLog store).callsLeft := by
  obtain ⟨owed, owes⟩ := pktstoreLog_owes active
  obtain ⟨reply, after⟩ :=
    pktstoreApply_active captured.count_le active (.retrieveNext outCap)
  have step : RetrievalStep cfg (pktstoreLog store) (.retrieveNext outCap) :=
    logApply_retrieval owes _
  have delivers := step.delivers
  rw [← after, ← reply] at delivers
  have fits : ∀ entry ∈ owed, entry.packet.length ≤ cfg.pktstorePacketMax := by
    intro entry member
    have isOwed : entry.packet ∈ (pktstoreLog store).owedPackets := by
      rw [PacketLog.owedPackets, owes]
      exact List.mem_map_of_mem member
    exact (captured.sized _ ((owedPackets_sublist store).subset isOwed)).2
  have calls := logApply_callsLeft owes fits (.retrieveNext outCap) fun other isCall => by
    obtain rfl := PktstoreOp.retrieveNext.inj isCall
    exact large
  rw [← after] at calls
  refine ⟨?_, calls⟩
  rw [← delivers]
  congr 1
  change _ = deliveredPackets [PktstoreReply.retrieved (pktstoreRetrieveNext store outCap).1]
  rcases (pktstoreRetrieveNext store outCap).1 with status | (_ | packet) <;> rfl

end FswCore
