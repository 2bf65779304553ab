import FswCore.Pktstore.Model

/-!
Contract: what a packet store is for, over a plain list.

Owns:
- `PacketLog`: the stored packets, oldest first, and the packets still owed to
  the retrieval in progress;
- its operations, in terms of list append, `filter`, `head?` and `getLast?`.

This is a statement of purpose, not a translation: `FswCore.Pktstore.Refinement`
compares it with the ring.
-/

namespace FswCore

structure PacketLog where
  packets : List PktstoreEntry
  enabled : Bool
  /-- Packets still owed to the retrieval in progress, if there is one. -/
  owed : Option (List PktstoreEntry)
deriving DecidableEq, Repr

def logInit : PacketLog := { packets := [], enabled := true, owed := none }

/-- Append the packet, after dropping the oldest if the log is full. -/
def logStore (cfg : Config) (log : PacketLog) (packet : List UInt8) (storageTime : UInt32) :
    Except PktstoreStatus Bool × PacketLog :=
  if packet = [] then (.error .errBadArg, log)
  else if packet.length > cfg.pktstorePacketMax then (.error .errPacketTooLarge, log)
  else if log.enabled = false ∨ log.owed.isSome then (.ok false, log)
  else
    let kept := if log.packets.length ≥ cfg.pktstoreCapacity then log.packets.tail else log.packets
    (.ok true, { log with packets := kept ++ [⟨storageTime, packet⟩] })

/-- Remove the packets stored at or before `timeSeconds` and count them. -/
def logDeleteUpTo (log : PacketLog) (timeSeconds : UInt32) :
    Except PktstoreStatus Nat × PacketLog :=
  if log.owed.isSome then (.error .errRetrievalActive, log)
  else
    (.ok (log.packets.filter fun entry => entry.storageTime ≤ timeSeconds).length, { log with
      packets := log.packets.filter fun entry => timeSeconds < entry.storageTime })

/-- The packets of a time window. -/
def windowOf (packets : List PktstoreEntry) (fromTime toTime : UInt32) : List PktstoreEntry :=
  packets.filter fun entry => fromTime ≤ entry.storageTime ∧ entry.storageTime ≤ toTime

def logArmRetrieval (log : PacketLog) (fromTime toTime : UInt32) : PktstoreStatus × PacketLog :=
  if fromTime > toTime then (.errBadArg, log)
  else if log.owed.isSome then (.errRetrievalActive, log)
  else (.ok, { log with owed := some (windowOf log.packets fromTime toTime) })

def logRetrieveNext (log : PacketLog) (outCap : Nat) :
    Except PktstoreStatus (Option (List UInt8)) × PacketLog :=
  match log.owed with
  | none => (.ok none, log)
  | some [] => (.ok none, { log with owed := none })
  | some (next :: rest) =>
      if outCap < next.packet.length then (.error .errBufTooSmall, log)
      else (.ok (some next.packet), { log with owed := some rest })

def logSpan (log : PacketLog) : Option (UInt32 × UInt32) :=
  match log.packets.head?, log.packets.getLast? with
  | some oldest, some newest => some (oldest.storageTime, newest.storageTime)
  | _, _ => none

def logApply (cfg : Config) (log : PacketLog) : PktstoreOp → PktstoreReply × PacketLog
  | .store packet storageTime =>
      let (result, after) := logStore cfg log packet storageTime
      (.stored result, after)
  | .deleteUpTo timeSeconds =>
      let (result, after) := logDeleteUpTo log timeSeconds
      (.deleted result, after)
  | .setEnabled enabled => (.done, { log with enabled := enabled })
  | .armRetrieval fromTime toTime =>
      let (status, after) := logArmRetrieval log fromTime toTime
      (.armed status, after)
  | .retrieveNext outCap =>
      let (result, after) := logRetrieveNext log outCap
      (.retrieved result, after)
  | .count => (.counted log.packets.length, log)
  | .span => (.spanned (logSpan log), log)

def logRun (cfg : Config) (log : PacketLog) :
    List PktstoreOp → List PktstoreReply × PacketLog
  | [] => ([], log)
  | op :: rest =>
      let (reply, after) := logApply cfg log op
      let (replies, final) := logRun cfg after rest
      (reply :: replies, final)

/-! ### Order and bounds -/

/-- Storage times do not decrease and packets fit their slot. -/
structure PacketLog.Ordered (cfg : Config) (log : PacketLog) : Prop where
  times : log.packets.Pairwise fun earlier later => earlier.storageTime ≤ later.storageTime
  bounded : ∀ entry ∈ log.packets, entry.packet.length ≤ cfg.pktstorePacketMax

/-- The order survives dropping packets. -/
theorem PacketLog.Ordered.sublist {cfg : Config} {log other : PacketLog}
    (ordered : log.Ordered cfg) (fewer : other.packets.Sublist log.packets) :
    other.Ordered cfg where
  times := ordered.times.sublist fewer
  bounded entry member := ordered.bounded entry (fewer.subset member)

/-- The packets a store leaves: those kept, and the new one. -/
theorem logStore_cases (cfg : Config) (log : PacketLog) (packet : List UInt8)
    (storageTime : UInt32) :
    (logStore cfg log packet storageTime).2 = log ∨
      ∃ kept : List PktstoreEntry, kept.Sublist log.packets ∧
        packet.length ≤ cfg.pktstorePacketMax ∧
        (logStore cfg log packet storageTime).2 =
          { log with packets := kept ++ [⟨storageTime, packet⟩] } := by
  unfold logStore
  split
  · exact .inl rfl
  split
  · exact .inl rfl
  split
  · exact .inl rfl
  rename_i fits _
  refine .inr ⟨_, ?_, Nat.le_of_not_lt fits, rfl⟩
  split
  · exact List.tail_sublist _
  · exact List.Sublist.refl _

theorem logStore_ordered {cfg : Config} {log : PacketLog} (ordered : log.Ordered cfg)
    (packet : List UInt8) {storageTime : UInt32}
    (monotone : ∀ entry ∈ log.packets, entry.storageTime ≤ storageTime) :
    (logStore cfg log packet storageTime).2.Ordered cfg := by
  rcases logStore_cases cfg log packet storageTime with same | ⟨kept, fewer, fits, result⟩
  · rw [same]; exact ordered
  · rw [result]
    have old : PacketLog.Ordered cfg { log with packets := kept } := ordered.sublist fewer
    refine ⟨List.pairwise_append.mpr ⟨old.times, List.pairwise_singleton _ _, ?_⟩, ?_⟩
    · intro earlier member later isNew
      rw [List.mem_singleton.mp isNew]
      exact monotone earlier (fewer.subset member)
    · intro entry member
      rcases List.mem_append.mp member with inKept | isNew
      · exact old.bounded entry inKept
      · rw [List.mem_singleton.mp isNew]
        exact fits

/-- Only a store adds a packet. -/
theorem logApply_sublist {cfg : Config} {log : PacketLog} {op : PktstoreOp}
    (notStore : ∀ packet storageTime, op ≠ .store packet storageTime) :
    (logApply cfg log op).2.packets.Sublist log.packets := by
  cases op with
  | store packet storageTime => exact absurd rfl (notStore packet storageTime)
  | deleteUpTo timeSeconds =>
      simp only [logApply, logDeleteUpTo]
      split
      · exact List.Sublist.refl _
      · exact List.filter_sublist
  | armRetrieval fromTime toTime =>
      simp only [logApply, logArmRetrieval]
      split
      · exact List.Sublist.refl _
      split <;> exact List.Sublist.refl _
  | retrieveNext outCap =>
      simp only [logApply, logRetrieveNext]
      split
      · exact List.Sublist.refl _
      · exact List.Sublist.refl _
      split <;> exact List.Sublist.refl _
  | setEnabled enabled => exact List.Sublist.refl _
  | count => exact List.Sublist.refl _
  | span => exact List.Sublist.refl _

/-- The calls still to come store at no earlier time than any packet held. -/
structure OrderedAhead (cfg : Config) (log : PacketLog) (ops : List PktstoreOp) : Prop where
  ordered : log.Ordered cfg
  ahead : (storageTimes ops).Pairwise (· ≤ ·)
  monotone : ∀ entry ∈ log.packets, ∀ storageTime ∈ storageTimes ops,
    entry.storageTime ≤ storageTime

theorem OrderedAhead.step {cfg : Config} {log : PacketLog} {op : PktstoreOp}
    {rest : List PktstoreOp} (ahead : OrderedAhead cfg log (op :: rest)) :
    OrderedAhead cfg (logApply cfg log op).2 rest := by
  have unlessStore (notStore : ∀ packet storageTime, op ≠ .store packet storageTime)
      (sameTimes : storageTimes (op :: rest) = storageTimes rest) :
      OrderedAhead cfg (logApply cfg log op).2 rest := by
    have fewer : (logApply cfg log op).2.packets.Sublist log.packets := logApply_sublist notStore
    refine ⟨ahead.ordered.sublist fewer, sameTimes ▸ ahead.ahead, fun entry member => ?_⟩
    rw [← sameTimes]
    exact ahead.monotone entry (fewer.subset member)
  cases op with
  | store packet storageTime =>
      have times : storageTimes (.store packet storageTime :: rest) =
        storageTime :: storageTimes rest := rfl
      have later := ahead.ahead
      have monotone := ahead.monotone
      rw [times] at later monotone
      have laterThanNew := (List.pairwise_cons.mp later).1
      refine ⟨logStore_ordered ahead.ordered packet fun entry member =>
        monotone entry member storageTime (by simp), (List.pairwise_cons.mp later).2, ?_⟩
      intro entry member time isLater
      have old (entry : PktstoreEntry) (member : entry ∈ log.packets) :=
        monotone entry member time (List.mem_cons_of_mem _ isLater)
      rcases logStore_cases cfg log packet storageTime with same | ⟨kept, fewer, _, result⟩
      · simp only [logApply, same] at member
        exact old entry member
      · simp only [logApply, result] at member
        rcases List.mem_append.mp member with inKept | isNew
        · exact old entry (fewer.subset inKept)
        · rw [List.mem_singleton.mp isNew]
          exact laterThanNew time isLater
  | deleteUpTo timeSeconds => exact unlessStore (by simp) rfl
  | armRetrieval fromTime toTime => exact unlessStore (by simp) rfl
  | retrieveNext outCap => exact unlessStore (by simp) rfl
  | setEnabled enabled => exact unlessStore (by simp) rfl
  | count => exact unlessStore (by simp) rfl
  | span => exact unlessStore (by simp) rfl

end FswCore
