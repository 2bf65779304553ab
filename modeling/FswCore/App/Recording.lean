import FswCore.App.HkCounters
import FswCore.Library.Pieces
import FswCore.Pktstore.Refinement
import Mathlib.Data.List.DropRight

/-!
Contract: the recording of telemetry, `transmit_tm` of
`samples/tc_uart/src/main.c` over any burst.

Owns:
- `transmitWalk`, the loop with its position, where a read behind the burst or a
  loop that does not end is a failure;
- no burst makes it fail, and what it stores are pieces of the burst;
- a burst of packets that fit the store is stored packet by packet, behind what
  was stored before, of which the oldest leave.

Does not own: when the storage is enabled.
-/

namespace FswCore

open Library Library.BigEndian

variable {cfg : Config}

/-! ### The loop -/

inductive WalkFault where
  | outOfBounds
  | unfinished
deriving DecidableEq, Repr

/-- `len` octets from `pos` on, where the burst has them. -/
def burstSlice (burst : List UInt8) (pos len : Nat) : Except WalkFault (List UInt8) :=
  if pos + len > burst.length then .error .outOfBounds else .ok (window burst pos len)

/-- The length field at a position, where the burst has it. -/
def burstDataLength (burst : List UInt8) (pos : Nat) : Except WalkFault UInt16 :=
  match burst[pos + 4]?, burst[pos + 5]? with
  | some high, some low => .ok (get16 high low)
  | _, _ => .error .outOfBounds

/-- The rounds of the loop from `pos` on; `rounds` bounds their number. -/
def transmitWalk (burst : List UInt8) (storeTime : UInt32) :
    Nat → Nat → Pktstore cfg → Except WalkFault (Pktstore cfg)
  | rounds, pos, store =>
      if pos + ccsdsPrimaryHeaderSize ≤ burst.length then
        match rounds with
        | 0 => .error .unfinished
        | rounds + 1 =>
            match burstDataLength burst pos with
            | .error fault => .error fault
            | .ok dataLength =>
                let pktSize := ccsdsPacketTotalSize dataLength
                if pos + pktSize > burst.length then .ok store
                else
                  match burstSlice burst pos pktSize with
                  | .error fault => .error fault
                  | .ok packet =>
                      transmitWalk burst storeTime rounds (pos + pktSize)
                        (pktstoreStore store packet storeTime).2
      else .ok store

theorem burstDataLength_ok {burst : List UInt8} {pos : Nat}
    (header : pos + ccsdsPrimaryHeaderSize ≤ burst.length) :
    burstDataLength burst pos = .ok (be16At (burst.drop pos) 4) := by
  have six : ccsdsPrimaryHeaderSize = 6 := rfl
  have octet {index : Nat} (below : index < burst.length) :
      burst[index]? = some (burst.getD index 0) := by
    rw [List.getD_eq_getElem?_getD, List.getElem?_eq_getElem below, Option.getD_some]
  rw [burstDataLength, octet (by omega), octet (by omega), be16At_drop]
  rfl

theorem burstSlice_ok {burst : List UInt8} {pos len : Nat} (inside : pos + len ≤ burst.length) :
    burstSlice burst pos len = .ok ((burst.drop pos).take len) := by
  rw [burstSlice, if_neg (Nat.not_lt.mpr inside), window]

/-- The loop never fails, with a round for every octet, and stores what the packets
of the burst are. -/
theorem transmitWalk_ok (burst : List UInt8) (storeTime : UInt32) {rounds pos : Nat}
    (enough : burst.length ≤ pos + rounds) (store : Pktstore cfg) :
    transmitWalk burst storeTime rounds pos store =
      .ok ((burstPackets rounds (burst.drop pos)).foldl
        (fun store packet => (pktstoreStore store packet storeTime).2) store) := by
  induction rounds generalizing pos store with
  | zero =>
      have behind : ¬pos + ccsdsPrimaryHeaderSize ≤ burst.length := by
        rw [ccsdsPrimaryHeaderSize]
        omega
      rw [transmitWalk, if_neg behind]
      rfl
  | succ rounds inductionHypothesis =>
      rw [transmitWalk, burstPackets, List.length_drop]
      by_cases header : pos + ccsdsPrimaryHeaderSize ≤ burst.length
      · rw [if_pos header, if_neg (by omega), burstDataLength_ok header]
        simp only
        generalize size : ccsdsPacketTotalSize (be16At (burst.drop pos) 4) = pktSize
        have positive : 0 < pktSize := by
          rw [← size, ccsdsPacketTotalSize]
          omega
        by_cases behind : pos + pktSize > burst.length
        · rw [if_pos behind, if_pos (by omega)]
          rfl
        · rw [if_neg behind, if_neg (by omega), burstSlice_ok (Nat.le_of_not_lt behind)]
          simp only
          rw [inductionHypothesis (by omega), List.drop_drop, List.foldl_cons]
      · have short : burst.length - pos < ccsdsPrimaryHeaderSize := by
          rw [ccsdsPrimaryHeaderSize] at header ⊢
          omega
        rw [if_neg header, if_pos short]
        rfl

/-- With a round for every octet more rounds make no difference. -/
theorem burstPackets_enough {few many : Nat} {burst : List UInt8} (enough : burst.length ≤ few)
    (more : few ≤ many) : burstPackets many burst = burstPackets few burst := by
  induction few generalizing many burst with
  | zero =>
      obtain rfl := List.eq_nil_of_length_eq_zero (Nat.le_zero.mp enough)
      cases many <;> rfl
  | succ few inductionHypothesis =>
      obtain ⟨others, rfl⟩ := Nat.exists_eq_add_of_lt (Nat.lt_of_lt_of_le (Nat.succ_pos few) more)
      simp only [burstPackets]
      split
      · rfl
      split
      · rfl
      · congr 1
        apply inductionHypothesis
        · rw [List.length_drop, ccsdsPacketTotalSize]
          omega
        · omega

/-! ### The pieces -/

theorem burstPackets_pieces (fuel : Nat) (burst : List UInt8) :
    Pieces (burstPackets fuel burst) burst := by
  induction fuel generalizing burst with
  | zero => exact .nil burst
  | succ fuel inductionHypothesis =>
      simp only [burstPackets]
      split
      · exact .nil burst
      split
      · exact .nil burst
      · have rest := inductionHypothesis (burst.drop (ccsdsPacketTotalSize (be16At burst 4)))
        have whole := Pieces.first (burst.take (ccsdsPacketTotalSize (be16At burst 4))) rest
        rw [List.take_append_drop] at whole
        exact whole

/-! ### The store -/

/-- What is left of the newest items is the newest of all. -/
theorem rtake_rtake_append {α : Type} (count : Nat) (items more : List α) :
    (items.rtake count ++ more).rtake count = (items ++ more).rtake count := by
  rw [List.rtake, List.rtake, List.rtake]
  rcases Nat.le_total items.length count with few | many
  · rw [Nat.sub_eq_zero_of_le few, List.drop_zero]
  · have front : (items ++ more).drop (items.length - count) =
        items.drop (items.length - count) ++ more :=
      List.drop_append_of_le_length (Nat.sub_le _ _)
    rw [← front, List.drop_drop, List.length_drop, List.length_append]
    congr 1
    omega

/-- A store that records: it is enabled, sends nothing back, and holds no more than
it has slots for. -/
structure Pktstore.Recording (store : Pktstore cfg) : Prop where
  enabled : store.enabled = true
  idle : store.retrievalActive = false
  count_le : store.count ≤ cfg.pktstoreCapacity

theorem pktstoreStore_recording {store : Pktstore cfg} (recording : store.Recording)
    {packet : List UInt8} (nonempty : packet.length ≠ 0)
    (fits : packet.length ≤ cfg.pktstorePacketMax) (storageTime : UInt32) :
    pktstoreView (pktstoreStore store packet storageTime).2 =
        (pktstoreView store ++ [PktstoreEntry.mk storageTime packet]).rtake cfg.pktstoreCapacity ∧
      (pktstoreStore store packet storageTime).2.Recording := by
  have accepts : ¬(store.enabled = false ∨ store.retrievalActive = true) := by
    rw [recording.enabled, recording.idle]
    decide
  have positive := cfg.pktstoreCapacity_pos
  have length : (pktstoreView store).length = store.count := by
    rw [pktstoreView, ringView_length]
  have count_le := recording.count_le
  have stored : (pktstoreStore store packet storageTime).1 = .ok true := by
    rw [pktstoreStore, if_neg nonempty, if_neg (Nat.not_lt.mpr fits), if_neg accepts]
  obtain ⟨view, bounded⟩ := pktstoreStore_view count_le storageTime stored
  constructor
  · rw [view, List.rtake, List.length_append, List.length_singleton, length]
    split
    · rename_i full
      have one : store.count + 1 - cfg.pktstoreCapacity = 1 := by omega
      rw [one, List.drop_append_of_le_length (by omega), List.drop_one]
    · rename_i free
      have none : store.count + 1 - cfg.pktstoreCapacity = 0 := by omega
      rw [none, List.drop_zero]
  · constructor
    · rw [pktstoreStore, if_neg nonempty, if_neg (Nat.not_lt.mpr fits), if_neg accepts]
      exact recording.enabled
    · rw [pktstoreStore, if_neg nonempty, if_neg (Nat.not_lt.mpr fits), if_neg accepts]
      exact recording.idle
    · exact bounded

/-- The packets stored one after the other stand behind what was stored before. -/
theorem foldl_pktstoreStore {store : Pktstore cfg} (recording : store.Recording)
    {packets : List (List UInt8)} (storageTime : UInt32)
    (storable : ∀ packet ∈ packets, packet.length ≠ 0 ∧
      packet.length ≤ cfg.pktstorePacketMax) :
    pktstoreView (packets.foldl
        (fun store packet => (pktstoreStore store packet storageTime).2) store) =
      (pktstoreView store ++ packets.map (PktstoreEntry.mk storageTime)).rtake
        cfg.pktstoreCapacity := by
  induction packets generalizing store with
  | nil =>
      have length : (pktstoreView store).length ≤ cfg.pktstoreCapacity := by
        rw [pktstoreView, ringView_length]
        exact recording.count_le
      rw [List.map_nil, List.append_nil, List.rtake, Nat.sub_eq_zero_of_le length, List.drop_zero]
      rfl
  | cons packet rest inductionHypothesis =>
      obtain ⟨nonempty, fits⟩ := storable packet List.mem_cons_self
      obtain ⟨view, after⟩ := pktstoreStore_recording recording nonempty fits storageTime
      rw [List.foldl_cons, inductionHypothesis after fun other member =>
        storable other (List.mem_cons_of_mem _ member), view, rtake_rtake_append, List.map_cons,
        List.append_assoc, List.singleton_append]

theorem pktstoreApply_count_le {store : Pktstore cfg}
    (count_le : store.count ≤ cfg.pktstoreCapacity)
    (op : PktstoreOp) : (pktstoreApply store op).2.count ≤ cfg.pktstoreCapacity := by
  cases op with
  | store packet storageTime =>
      by_cases stored : (pktstoreStore store packet storageTime).1 = .ok true
      · exact (pktstoreStore_view count_le storageTime stored).2
      · simp only [pktstoreApply]
        rw [pktstoreStore_refused stored]
        exact count_le
  | deleteUpTo timeSeconds =>
      have spec := pktstoreDeleteLoop_spec store.entries timeSeconds store.count store.head 0
      simp only [pktstoreApply, pktstoreDeleteUpTo]
      split
      · exact count_le
      · exact Nat.le_trans spec.2.2 count_le
  | armRetrieval fromTime toTime =>
      simp only [pktstoreApply, pktstoreArmRetrieval]
      split
      · exact count_le
      split <;> exact count_le
  | retrieveNext outCap =>
      simp only [pktstoreApply, pktstoreRetrieveNext]
      split
      · exact count_le
      split
      · exact count_le
      split
      · exact count_le
      split <;> exact count_le
  | setEnabled enabled => exact count_le
  | count => exact count_le
  | span => exact count_le

theorem pktstoreRun_count_le {store : Pktstore cfg} (count_le : store.count ≤ cfg.pktstoreCapacity)
    (ops : List PktstoreOp) : (pktstoreRun store ops).2.count ≤ cfg.pktstoreCapacity := by
  induction ops generalizing store with
  | nil => exact count_le
  | cons op rest inductionHypothesis =>
      exact inductionHypothesis (pktstoreApply_count_le count_le op)

/-! ### Any burst -/

/-- What `transmit_tm` does to a store with a burst, whatever the burst is. -/
structure TransmitRecords (store : Pktstore cfg) : Prop where
  ends : ∀ burst storeTime rounds, burst.length ≤ rounds →
    transmitWalk burst storeTime rounds 0 store =
      .ok (transmitTaps storeTime burst.length burst store)
  pieces : ∀ burst storeTime, ∃ pieces, Pieces pieces burst ∧
    transmitTaps storeTime burst.length burst store =
      pieces.foldl (fun store packet => (pktstoreStore store packet storeTime).2) store
  packets : store.enabled = true → store.retrievalActive = false →
    ∀ (packets : List (List UInt8)) storeTime, (∀ packet ∈ packets,
      Delimited packet ∧ packet.length ≤ cfg.pktstorePacketMax) →
      pktstoreView (transmitTaps storeTime packets.flatten.length packets.flatten store) =
        (pktstoreView store ++ packets.map (PktstoreEntry.mk storeTime)).rtake
          cfg.pktstoreCapacity

/-- For the store after any run of its calls. -/
theorem transmitTm_records (fresh : Pktstore cfg) (ops : List PktstoreOp) :
    TransmitRecords (pktstoreRun (pktstoreInit fresh) ops).2 := by
  have count_le : (pktstoreRun (pktstoreInit fresh) ops).2.count ≤ cfg.pktstoreCapacity :=
    pktstoreRun_count_le (Nat.zero_le _) ops
  generalize (pktstoreRun (pktstoreInit fresh) ops).2 = store at count_le
  constructor
  · intro burst storeTime rounds enough
    have inBounds : burst.length ≤ 0 + rounds := by omega
    rw [transmitWalk_ok burst storeTime inBounds, transmitTaps_eq, List.drop_zero,
      burstPackets_enough (Nat.le_refl _) enough]
  · intro burst storeTime
    exact ⟨_, burstPackets_pieces burst.length burst, transmitTaps_eq storeTime _ burst store⟩
  · intro enabled idle packets storeTime complete
    rw [transmitTaps_eq, burstPackets_delimited (fun packet member => (complete packet member).1)
      (Nat.le_refl _)]
    apply foldl_pktstoreStore ⟨enabled, idle, count_le⟩
    intro packet member
    have least := (complete packet member).1.least
    exact ⟨by omega, (complete packet member).2⟩

end FswCore
