import FswCore.Library.OrderedList
import FswCore.Pktstore.Log
import Mathlib.Tactic.SplitIfs

/-!
Contract: the ring computes what the packet log says.

Owns:
- `pktstoreView`, the ring read from the oldest slot;
- `Refines`, the relation between a store and a log;
- one refinement lemma for each operation, and from them the refinement of every
  run with non-decreasing storage times.
-/

namespace FswCore

open Library

variable {cfg : Config}

/-- The stored packets, read from the oldest slot. -/
def pktstoreView (store : Pktstore cfg) : List PktstoreEntry :=
  ringView store.entries store.head store.count

/-- The packets the retrieval cursor still has before it. -/
def pktstoreOwed (store : Pktstore cfg) : Option (List PktstoreEntry) :=
  if store.retrievalActive = true then
    some (((pktstoreView store).drop store.retrievalCursor).takeWhile fun entry =>
      entry.storageTime ≤ store.retrievalEnd)
  else none

structure Refines (store : Pktstore cfg) (log : PacketLog) : Prop where
  packets : pktstoreView store = log.packets
  enabled : store.enabled = log.enabled
  owed : pktstoreOwed store = log.owed
  count_le : store.count ≤ cfg.pktstoreCapacity

namespace Refines

variable {store : Pktstore cfg} {log : PacketLog}

theorem count (refines : Refines store log) : store.count = log.packets.length := by
  rw [← refines.packets, pktstoreView, ringView_length]

theorem active (refines : Refines store log) : store.retrievalActive = log.owed.isSome := by
  rw [← refines.owed, pktstoreOwed]
  cases store.retrievalActive <;> rfl

theorem owed_none (refines : Refines store log) (idle : store.retrievalActive = false) :
    log.owed = none := by
  have active := refines.active
  rw [idle] at active
  exact Option.not_isSome_iff_eq_none.mp (by simp [← active])

end Refines

theorem pktstoreInit_refines (store : Pktstore cfg) : Refines (pktstoreInit store) logInit where
  packets := rfl
  enabled := rfl
  owed := rfl
  count_le := Nat.zero_le _

/-! ### Store -/

/-- An accepted packet is appended, after the oldest has left a full store. -/
theorem pktstoreStore_view {store : Pktstore cfg} (countLe : store.count ≤ cfg.pktstoreCapacity)
    {packet : List UInt8} (storageTime : UInt32)
    (stored : (pktstoreStore store packet storageTime).1 = .ok true) :
    pktstoreView (pktstoreStore store packet storageTime).2 =
        (if store.count ≥ cfg.pktstoreCapacity then (pktstoreView store).tail
          else pktstoreView store) ++ [⟨storageTime, packet⟩] ∧
      (pktstoreStore store packet storageTime).2.count ≤ cfg.pktstoreCapacity := by
  have positive := cfg.pktstoreCapacity_pos
  unfold pktstoreStore at stored ⊢
  split at stored
  · contradiction
  split at stored
  · contradiction
  split at stored
  · simp at stored
  rename_i nonempty fits accepted
  rw [if_neg nonempty, if_neg fits, if_neg accepted]
  by_cases full : store.count ≥ cfg.pktstoreCapacity
  · have oneLess : store.count - 1 + 1 = store.count := by omega
    have room : store.count - 1 < cfg.pktstoreCapacity := by omega
    have appended := ringView_set store.entries (ringIndex store.head 1) room
      ⟨storageTime, packet⟩
    have advanced := ringView_advance store.entries store.head (store.count - 1)
    rw [oneLess] at appended advanced
    simp only [pktstoreView, if_pos full, oneLess]
    exact ⟨by rw [appended, advanced], countLe⟩
  · have room := Nat.lt_of_not_le full
    simp only [pktstoreView, if_neg full]
    exact ⟨ringView_set store.entries store.head room ⟨storageTime, packet⟩, room⟩

theorem pktstoreStore_retrievalActive (store : Pktstore cfg) (packet : List UInt8)
    (storageTime : UInt32) :
    (pktstoreStore store packet storageTime).2.retrievalActive = store.retrievalActive := by
  simp only [pktstoreStore]
  split_ifs <;> rfl

theorem pktstoreStore_refines {store : Pktstore cfg} {log : PacketLog}
    (refines : Refines store log) (packet : List UInt8) (storageTime : UInt32) :
    (pktstoreStore store packet storageTime).1 = (logStore cfg log packet storageTime).1 ∧
      Refines (pktstoreStore store packet storageTime).2
        (logStore cfg log packet storageTime).2 := by
  by_cases empty : packet = []
  · simp [pktstoreStore, logStore, empty, refines]
  have nonempty : packet.length ≠ 0 := fun zero => empty (List.length_eq_zero_iff.mp zero)
  by_cases large : packet.length > cfg.pktstorePacketMax
  · simp [pktstoreStore, logStore, empty, large, refines]
  by_cases suspended : store.enabled = false ∨ store.retrievalActive = true
  · have logSuspended : log.enabled = false ∨ log.owed.isSome = true := by
      rw [← refines.enabled, ← refines.active]
      exact suspended
    rw [pktstoreStore, logStore, if_neg nonempty, if_neg large, if_pos suspended, if_neg empty,
      if_neg large, if_pos logSuspended]
    exact ⟨rfl, refines⟩
  · have logAccepts : ¬ (log.enabled = false ∨ log.owed.isSome = true) := by
      rw [← refines.enabled, ← refines.active]
      exact suspended
    have idle : store.retrievalActive = false := by
      simpa using fun active => suspended (.inr active)
    have stored : (pktstoreStore store packet storageTime).1 = .ok true := by
      rw [pktstoreStore, if_neg nonempty, if_neg large, if_neg suspended]
    have view := pktstoreStore_view refines.count_le storageTime stored
    rw [refines.packets, refines.count] at view
    rw [stored, logStore, if_neg empty, if_neg large, if_neg logAccepts]
    refine ⟨rfl, view.1, ?_, ?_, view.2⟩
    · rw [pktstoreStore, if_neg nonempty, if_neg large, if_neg suspended]
      exact refines.enabled
    · rw [pktstoreOwed, pktstoreStore_retrievalActive, idle]
      exact (refines.owed_none idle).symm

/-! ### Delete -/

/-- The loop deletes the leading run of packets that are old enough. -/
theorem pktstoreDeleteLoop_spec (entries : Vector PktstoreEntry cfg.pktstoreCapacity)
    (timeSeconds : UInt32) :
    ∀ (count : Nat) (head : Fin cfg.pktstoreCapacity) (deleted : Nat),
      let (newHead, newCount, newDeleted) :=
        pktstoreDeleteLoop entries timeSeconds count head deleted
      ringView entries newHead newCount =
          (ringView entries head count).dropWhile (fun entry => entry.storageTime ≤ timeSeconds) ∧
        newDeleted = deleted + ((ringView entries head count).takeWhile
          fun entry => entry.storageTime ≤ timeSeconds).length ∧
        newCount ≤ count := by
  intro count
  induction count with
  | zero => intro head deleted; simp [pktstoreDeleteLoop, ringView]
  | succ count inductionHypothesis =>
      intro head deleted
      rw [pktstoreDeleteLoop, ringView_succ]
      by_cases old : entries[head].storageTime ≤ timeSeconds
      · have next := inductionHypothesis (ringIndex head 1) (deleted + 1)
        rw [if_pos old, List.dropWhile_cons_of_pos (by simpa using old),
          List.takeWhile_cons_of_pos (by simpa using old), List.length_cons]
        exact ⟨next.1, by rw [next.2.1]; omega, Nat.le_succ_of_le next.2.2⟩
      · rw [if_neg old, List.dropWhile_cons_of_neg (by simpa using old),
          List.takeWhile_cons_of_neg (by simpa using old)]
        exact ⟨ringView_succ entries head count, rfl, Nat.le_refl _⟩

theorem pktstoreDeleteUpTo_refines {store : Pktstore cfg} {log : PacketLog}
    (refines : Refines store log) (ordered : log.Ordered cfg) (timeSeconds : UInt32) :
    (pktstoreDeleteUpTo store timeSeconds).1 = (logDeleteUpTo log timeSeconds).1 ∧
      Refines (pktstoreDeleteUpTo store timeSeconds).2 (logDeleteUpTo log timeSeconds).2 := by
  by_cases active : store.retrievalActive = true
  · rw [pktstoreDeleteUpTo, logDeleteUpTo, if_pos active, if_pos (refines.active ▸ active)]
    exact ⟨rfl, refines⟩
  rw [pktstoreDeleteUpTo, logDeleteUpTo, if_neg active, if_neg (refines.active ▸ active)]
  have spec := pktstoreDeleteLoop_spec store.entries timeSeconds store.count store.head 0
  have earlier (first second : PktstoreEntry) (inOrder : first.storageTime ≤ second.storageTime)
      (old : decide (second.storageTime ≤ timeSeconds) = true) :
      decide (first.storageTime ≤ timeSeconds) = true := by
    simp only [decide_eq_true_eq] at old ⊢
    exact UInt32.le_trans inOrder old
  have dropped := dropWhile_eq_filter ordered.times earlier
  have taken := takeWhile_eq_filter ordered.times earlier
  rw [show ringView store.entries store.head store.count = log.packets from refines.packets,
    dropped, taken] at spec
  refine ⟨by simp only [spec.2.1, Nat.zero_add], ?_, refines.enabled, ?_, ?_⟩
  · simp only [pktstoreView, spec.1]
    apply List.filter_congr
    intro entry _
    rw [← decide_not]
    exact decide_eq_decide.mpr UInt32.not_le
  · rw [pktstoreOwed, if_neg active]
    exact (refines.owed_none (by simpa using active)).symm
  · exact Nat.le_trans spec.2.2 refines.count_le

/-! ### Retrieval -/

/-- The cursor stops at the first packet that is recent enough. -/
theorem pktstoreCursorLoop_spec (store : Pktstore cfg) (fromTime : UInt32) :
    ∀ (remaining cursor : Nat), cursor + remaining = store.count →
      (pktstoreView store).drop (pktstoreCursorLoop store fromTime remaining cursor) =
        ((pktstoreView store).drop cursor).dropWhile fun entry =>
          !decide (fromTime ≤ entry.storageTime) := by
  intro remaining
  induction remaining with
  | zero =>
      intro cursor atEnd
      have nothing : (pktstoreView store).drop cursor = [] := by
        rw [List.drop_eq_nil_iff, pktstoreView, ringView_length]
        omega
      simp [pktstoreCursorLoop, nothing]
  | succ remaining inductionHypothesis =>
      intro cursor inside
      have below : cursor < store.count := by omega
      have split := ringView_drop_getElem store.entries store.head below
      rw [pktstoreCursorLoop]
      by_cases recent : store.entries[ringIndex store.head cursor].storageTime ≥ fromTime
      · rw [if_pos recent, pktstoreView, split, List.dropWhile_cons_of_neg]
        simpa using recent
      · rw [if_neg recent, inductionHypothesis (cursor + 1) (by omega)]
        simp only [pktstoreView] at split ⊢
        rw [split, List.dropWhile_cons_of_pos]
        simpa using recent

theorem windowOf_eq {packets : List PktstoreEntry} {fromTime toTime : UInt32}
    (ordered : packets.Pairwise fun earlier later => earlier.storageTime ≤ later.storageTime) :
    (packets.dropWhile fun entry => !decide (fromTime ≤ entry.storageTime)).takeWhile
        (fun entry => decide (entry.storageTime ≤ toTime)) =
      windowOf packets fromTime toTime := by
  rw [dropWhile_eq_filter ordered, takeWhile_eq_filter (ordered.sublist List.filter_sublist),
    List.filter_filter, windowOf]
  · apply List.filter_congr
    intro entry _
    simp [Bool.and_comm]
  · intro earlier later inOrder old
    simp only [decide_eq_true_eq] at old ⊢
    exact UInt32.le_trans inOrder old
  · intro earlier later inOrder tooOld
    simp only [Bool.not_eq_true', decide_eq_false_iff_not, UInt32.not_le] at tooOld ⊢
    exact UInt32.lt_of_le_of_lt inOrder tooOld

theorem pktstoreArmRetrieval_refines {store : Pktstore cfg} {log : PacketLog}
    (refines : Refines store log) (ordered : log.Ordered cfg) (fromTime toTime : UInt32) :
    (pktstoreArmRetrieval store fromTime toTime).1 = (logArmRetrieval log fromTime toTime).1 ∧
      Refines (pktstoreArmRetrieval store fromTime toTime).2
        (logArmRetrieval log fromTime toTime).2 := by
  by_cases inverted : fromTime > toTime
  · rw [pktstoreArmRetrieval, logArmRetrieval, if_pos inverted, if_pos inverted]
    exact ⟨rfl, refines⟩
  by_cases active : store.retrievalActive = true
  · rw [pktstoreArmRetrieval, logArmRetrieval, if_neg inverted, if_neg inverted, if_pos active,
      if_pos (refines.active ▸ active)]
    exact ⟨rfl, refines⟩
  rw [pktstoreArmRetrieval, logArmRetrieval, if_neg inverted, if_neg inverted, if_neg active,
    if_neg (refines.active ▸ active)]
  have cursor := pktstoreCursorLoop_spec store fromTime store.count 0 (Nat.zero_add _)
  rw [List.drop_zero, refines.packets] at cursor
  refine ⟨rfl, refines.packets, refines.enabled, ?_, refines.count_le⟩
  rw [pktstoreOwed, if_pos rfl, ← windowOf_eq ordered.times, ← cursor, ← refines.packets]
  rfl

theorem pktstoreRetrieveNext_refines {store : Pktstore cfg} {log : PacketLog}
    (refines : Refines store log) (outCap : Nat) :
    (pktstoreRetrieveNext store outCap).1 = (logRetrieveNext log outCap).1 ∧
      Refines (pktstoreRetrieveNext store outCap).2 (logRetrieveNext log outCap).2 := by
  have owed := refines.owed
  unfold pktstoreRetrieveNext logRetrieveNext
  cases active : store.retrievalActive with
  | false => simp [refines.owed_none active, refines]
  | true =>
      have ends : Refines { store with retrievalActive := false } { log with owed := none } :=
        ⟨refines.packets, refines.enabled, rfl, refines.count_le⟩
      rw [pktstoreOwed, if_pos active] at owed
      simp only [Bool.true_eq_false, if_false]
      by_cases exhausted : store.retrievalCursor ≥ store.count
      · have nothing : (pktstoreView store).drop store.retrievalCursor = [] := by
          rw [List.drop_eq_nil_iff, pktstoreView, ringView_length]
          omega
        rw [nothing, List.takeWhile_nil] at owed
        rw [if_pos exhausted, ← owed]
        exact ⟨rfl, ends⟩
      rw [if_neg exhausted]
      have split := ringView_drop_getElem store.entries store.head (Nat.lt_of_not_le exhausted)
      rw [pktstoreView, split] at owed
      by_cases past : store.entries[ringIndex store.head store.retrievalCursor].storageTime >
          store.retrievalEnd
      · rw [List.takeWhile_cons_of_neg (by simpa using past)] at owed
        rw [if_pos past, ← owed]
        exact ⟨rfl, ends⟩
      · rw [List.takeWhile_cons_of_pos (by simpa using past)] at owed
        rw [if_neg past, ← owed]
        simp only
        split_ifs
        · exact ⟨rfl, refines⟩
        · exact ⟨rfl, refines.packets, refines.enabled, if_pos rfl, refines.count_le⟩

/-! ### Span -/

theorem pktstoreSpan_refines {store : Pktstore cfg} {log : PacketLog}
    (refines : Refines store log) : pktstoreSpan store = logSpan log := by
  rw [pktstoreSpan, logSpan, ← refines.packets, pktstoreView]
  by_cases empty : store.count = 0
  · rw [if_pos empty, empty]
    rfl
  · have positive := Nat.pos_of_ne_zero empty
    rw [if_neg empty, ringView_head? _ _ positive, ringView_getLast? _ _ positive]

/-! ### Runs -/

theorem pktstoreApply_refines {store : Pktstore cfg} {log : PacketLog}
    (refines : Refines store log) (ordered : log.Ordered cfg) (op : PktstoreOp) :
    (pktstoreApply store op).1 = (logApply cfg log op).1 ∧
      Refines (pktstoreApply store op).2 (logApply cfg log op).2 := by
  cases op with
  | store packet storageTime =>
      have step := pktstoreStore_refines refines packet storageTime
      exact ⟨congrArg PktstoreReply.stored step.1, step.2⟩
  | deleteUpTo timeSeconds =>
      have step := pktstoreDeleteUpTo_refines refines ordered timeSeconds
      exact ⟨congrArg PktstoreReply.deleted step.1, step.2⟩
  | setEnabled enabled => exact ⟨rfl, refines.packets, rfl, refines.owed, refines.count_le⟩
  | armRetrieval fromTime toTime =>
      have step := pktstoreArmRetrieval_refines refines ordered fromTime toTime
      exact ⟨congrArg PktstoreReply.armed step.1, step.2⟩
  | retrieveNext outCap =>
      have step := pktstoreRetrieveNext_refines refines outCap
      exact ⟨congrArg PktstoreReply.retrieved step.1, step.2⟩
  | count => exact ⟨congrArg PktstoreReply.counted refines.count, refines⟩
  | span => exact ⟨congrArg PktstoreReply.spanned (pktstoreSpan_refines refines), refines⟩

/-- A run of the ring is the run of the log: same replies, and the log's packets
are the ring read from the oldest slot. -/
theorem pktstoreRun_simulates {store : Pktstore cfg} {log : PacketLog} {ops : List PktstoreOp}
    (refines : Refines store log) (ahead : OrderedAhead cfg log ops) :
    (pktstoreRun store ops).1 = (logRun cfg log ops).1 ∧
      Refines (pktstoreRun store ops).2 (logRun cfg log ops).2 ∧
      (logRun cfg log ops).2.Ordered cfg := by
  induction ops generalizing store log with
  | nil => exact ⟨rfl, refines, ahead.ordered⟩
  | cons op rest inductionHypothesis =>
      have step := pktstoreApply_refines refines ahead.ordered op
      have run := inductionHypothesis step.2 ahead.step
      exact ⟨by simp only [pktstoreRun, logRun, step.1, run.1], run.2⟩

theorem logInit_orderedAhead {ops : List PktstoreOp}
    (monotone : (storageTimes ops).Pairwise (· ≤ ·)) : OrderedAhead cfg logInit ops where
  ordered := ⟨.nil, by simp [logInit]⟩
  ahead := monotone
  monotone := by simp [logInit]

/-- A store call that does not report success changes nothing. -/
theorem pktstoreStore_refused {store : Pktstore cfg} {packet : List UInt8} {storageTime : UInt32}
    (refused : (pktstoreStore store packet storageTime).1 ≠ .ok true) :
    (pktstoreStore store packet storageTime).2 = store := by
  unfold pktstoreStore at refused ⊢
  split
  · rfl
  split
  · rfl
  split
  · rfl
  rename_i nonempty fits accepted
  simp [nonempty, fits, accepted] at refused

/-- The ring refines the bounded list, over every run from initialisation whose
storage times do not decrease. -/
theorem pktstoreRun_refines (fresh : Pktstore cfg) (ops : List PktstoreOp)
    (monotone : (storageTimes ops).Pairwise (· ≤ ·)) :
    (pktstoreRun (pktstoreInit fresh) ops).1 = (logRun cfg logInit ops).1 ∧
    pktstoreView (pktstoreRun (pktstoreInit fresh) ops).2 = (logRun cfg logInit ops).2.packets ∧
    (logRun cfg logInit ops).2.packets.length ≤ cfg.pktstoreCapacity ∧
    ∀ packet storageTime,
      (pktstoreStore (pktstoreRun (pktstoreInit fresh) ops).2 packet storageTime).1 ≠ .ok true →
      (pktstoreStore (pktstoreRun (pktstoreInit fresh) ops).2 packet storageTime).2 =
        (pktstoreRun (pktstoreInit fresh) ops).2 := by
  have run := pktstoreRun_simulates (pktstoreInit_refines fresh) (logInit_orderedAhead monotone)
  exact ⟨run.1, run.2.1.packets, run.2.1.count ▸ run.2.1.count_le,
    fun packet storageTime refused => pktstoreStore_refused refused⟩

/-- Three packets into two slots: the oldest leaves, and a delete takes the next. -/
theorem pktstoreRun_refines_wrapped :
    pktstoreView (pktstoreRun (pktstoreInit (emptyMemory { pktstoreCapacity := 2 }))
      [.store [1] 10, .store [2] 20, .store [3] 30, .deleteUpTo 20]).2 = [⟨30, [3]⟩] :=
  (pktstoreRun_refines _ _ (by decide)).2.1.trans (by decide)

end FswCore
