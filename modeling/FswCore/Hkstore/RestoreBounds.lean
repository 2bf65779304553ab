import FswCore.Hkstore.Model
import FswCore.Library.CheckedLoop

/-!
Contract: `migris_hkstore_deserialize` over the arrays it reads and writes.

Owns:
- `HkMemory`, the store as its memory holds it;
- `hkstoreReadStructChecked` and `hkstoreDeserializeChecked`, with their 16-bit
  counters, where every access and the remaining length are checked;
- whatever the octets, no check fails, the loop ends, and what it leaves is what
  `hkstoreDeserialize` leaves.

Does not own: which octets are restored.
-/

namespace FswCore

open Library Library.BigEndian

variable {cfg : Config}

/-! ### Memory -/

/-- `param_ids` keeps what it held behind `param_count`. -/
structure HkSlot (maxParams : Nat) where
  sid : UInt16
  paramIds : Vector UInt16 maxParams
  paramCount : Nat
  intervalSec : UInt32
  lastEmitSec : UInt32
  enabled : Bool
  inUse : Bool

namespace HkSlot

variable {maxParams : Nat}

def held (slot : HkSlot maxParams) : HkStructure where
  sid := slot.sid
  paramIds := slot.paramIds.toList.take slot.paramCount
  intervalSec := slot.intervalSec
  lastEmitSec := slot.lastEmitSec
  enabled := slot.enabled

/-- A free slot keeps what it held. -/
def view (slot : HkSlot maxParams) : Option HkStructure :=
  if slot.inUse then some slot.held else none

def free (slot : HkSlot maxParams) : HkSlot maxParams := { slot with inUse := false }

end HkSlot

structure HkMemory (cfg : Config) where
  structures : Vector (HkSlot cfg.hkstoreMaxParams) cfg.hkstoreCapacity
  count : Nat
  generation : UInt32

namespace HkMemory

/-- The store the functions see. -/
def hkstore (memory : HkMemory cfg) : Hkstore where
  structures := memory.structures.toList.map HkSlot.view
  count := memory.count
  generation := memory.generation

/-- `migris_hkstore_init` over a store in any state. -/
def init (memory : HkMemory cfg) : HkMemory cfg where
  structures := memory.structures.map HkSlot.free
  count := 0
  generation := 0

theorem init_hkstore (memory : HkMemory cfg) : memory.init.hkstore = hkstoreInit cfg := by
  have views : (HkSlot.view ∘ HkSlot.free : HkSlot cfg.hkstoreMaxParams → _) =
      fun _ => none := rfl
  rw [hkstore, init, hkstoreInit, Vector.toList_map, List.map_map, views, List.map_const',
    Vector.length_toList]

end HkMemory

/-! ### One structure -/

/-- `in` is an address with `in_len` octets there; the slot is written last. -/
def hkstoreReadStructChecked {maxParams : Nat} (slot : HkSlot maxParams) (input : List UInt8)
    (address len : Nat) : Except AccessFault (Except HkstoreStatus (HkSlot maxParams × Nat)) :=
  if len < 8 then pure (.error .errTruncated)
  else do
    let sid ← read16 input address
    let intervalSec ← read32 input (address + 2)
    let enabled ← readAt input (address + 6)
    let octet ← readAt input (address + 7)
    let paramCount := octet.toNat
    if sid < hkstoreSidMin then pure (.error .errBadArg)
    else if paramCount > maxParams then pure (.error .errTooMany)
    else if len < 8 + 2 * paramCount then pure (.error .errTruncated)
    else do
      let paramIds ← fillChecked (fun i => read16 input (address + (8 + 2 * i))) paramCount 0
        slot.paramIds
      let read : HkSlot maxParams :=
        { sid := sid
          paramIds := paramIds
          paramCount := paramCount
          intervalSec := intervalSec
          lastEmitSec := 0
          enabled := enabled != 0
          inUse := true }
      pure (.ok (read, 8 + 2 * paramCount))

/-- What is read is in use, and in front of the end. -/
structure HkReadInside {maxParams : Nat} (len : Nat) (read : HkSlot maxParams × Nat) : Prop where
  inUse : read.1.inUse = true
  inside : read.2 ≤ len

theorem hkstoreReadStructChecked_ends (slot : HkSlot cfg.hkstoreMaxParams) {input : List UInt8}
    {address : Nat} (inside : address ≤ input.length) :
    EndsAs (hkstoreReadStructChecked slot input address (input.length - address))
      (fun read => (read.1.held, read.2)) (HkReadInside (input.length - address))
      (hkstoreReadStruct cfg (input.drop address)) := by
  unfold hkstoreReadStructChecked hkstoreReadStruct
  rw [List.length_drop]
  apply endsAs_guard
  intro short
  rw [read16_ok (by omega), checked_bind, read32_ok (by omega), checked_bind,
    readAt_ok (by omega) 0, checked_bind, readAt_ok (by omega) 0, checked_bind]
  simp only [be16At_drop, be32At_drop, getD_drop, Nat.add_zero]
  apply endsAs_guard
  intro _
  generalize (input.getD (address + 7) 0).toNat = paramCount
  apply endsAs_guard
  intro many
  apply endsAs_guard
  intro cut
  obtain ⟨paramIds, run, filled⟩ := fillChecked_ok
    (fun i => be16At input (address + (8 + 2 * i))) slot.paramIds (Nat.le_of_not_lt many)
    fun i below => read16_ok (by omega)
  rw [Filled, List.length_map, List.length_range] at filled
  rw [run, checked_bind]
  apply endsAs_ok
  · simp only [HkSlot.held, filled]
  · exact ⟨rfl, by omega⟩

/-! ### The image -/

/-- `i` and `off`, and the store. -/
structure HkstoreRestore (cfg : Config) where
  i : UInt16
  off : Nat
  memory : HkMemory cfg

def hkstoreDeserializeRound (input : List UInt8) (count : UInt16) (state : HkstoreRestore cfg) :
    Except AccessFault (HkstoreRestore cfg ⊕ HkstoreStatus × HkMemory cfg) :=
  if ¬state.i < count then pure (.inr (.ok, state.memory))
  else do
    let address ← addressOf input state.off
    let len ← subtract input.length state.off
    let slot ← readAt state.memory.structures.toList state.i.toNat
    let decoded ← hkstoreReadStructChecked slot input address len
    match decoded with
    | .error status => pure (.inr (status, state.memory.init))
    | .ok read => do
        let structures ← writeAt state.memory.structures state.i.toNat read.1
        let duplicate ← anyChecked (fun j => do
          let other ← readAt structures.toList j
          let held ← readAt structures.toList state.i.toNat
          pure (other.sid == held.sid)) (List.range state.i.toNat)
        if duplicate then
          pure (.inr (.errDuplicate, HkMemory.init { state.memory with structures := structures }))
        else
          pure (.inl
            { i := state.i + 1
              off := state.off + read.2
              memory := { state.memory with
                structures := structures
                count := state.memory.count + 1 } })

/-- `migris_hkstore_deserialize`, for a number of rounds of its loop. -/
def hkstoreDeserializeChecked (rounds : Nat) (memory : HkMemory cfg) (input : List UInt8) :
    Except AccessFault (Option (HkstoreStatus × HkMemory cfg)) :=
  if input.length < 2 then pure (some (.errTruncated, memory.init))
  else do
    let count ← read16 input 0
    if count.toNat > cfg.hkstoreCapacity then pure (some (.errFull, memory.init))
    else
      loopChecked (hkstoreDeserializeRound input count) rounds
        { i := 0, off := 2, memory := memory.init }

/-- What the list decoder leaves. -/
def hkstoreRestored (cfg : Config) :
    Except HkstoreStatus (List HkStructure) → HkstoreStatus × Hkstore
  | .error status => (status, hkstoreInit cfg)
  | .ok restored => (.ok,
      { structures := restored.map some ++
          List.replicate (cfg.hkstoreCapacity - restored.length) none
        count := restored.length
        generation := 0 })

/-- The structures so far are in the first slots, one for each round. -/
def HkMemory.restored (memory : HkMemory cfg) : List HkStructure :=
  (memory.structures.toList.take memory.count).map HkSlot.held

/-- The first slots are in use, and the others free. -/
structure HkstoreRestore.Counted (state : HkstoreRestore cfg) (input : List UInt8)
    (count : UInt16) : Prop where
  counted : state.memory.count = state.i.toNat
  within : count.toNat ≤ cfg.hkstoreCapacity
  started : state.i ≤ count
  inside : state.off ≤ input.length
  fresh : state.memory.generation = 0
  used : ∀ slot ∈ state.memory.structures.toList.take state.i.toNat, slot.inUse = true
  free : ∀ slot ∈ state.memory.structures.toList.drop state.i.toNat, slot.inUse = false

def hkstoreRestoreSpec (cfg : Config) (input : List UInt8) (count : UInt16) :
    LoopSpec (HkstoreRestore cfg) (HkstoreStatus × HkMemory cfg) where
  invariant := fun state => state.Counted input count
  variant := fun state => count.toNat - state.i.toNat
  right := fun state result => (result.1, result.2.hkstore) =
    hkstoreRestored cfg (hkstoreDeserializeLoop cfg input (count.toNat - state.i.toNat) state.off
      state.memory.restored)

/-- A round that ends in a failure leaves the store empty. -/
theorem hkstoreRestoreSpec_failed {input : List UInt8} {count : UInt16}
    {state : HkstoreRestore cfg} {status : HkstoreStatus} (memory : HkMemory cfg)
    (failed : hkstoreDeserializeLoop cfg input (count.toNat - state.i.toNat) state.off
      state.memory.restored = .error status) :
    (hkstoreRestoreSpec cfg input count).right state (status, memory.init) := by
  change (status, memory.init.hkstore) = hkstoreRestored cfg _
  rw [failed, HkMemory.init_hkstore]
  rfl

/-- The store as it is after the last round. -/
theorem HkstoreRestore.Counted.hkstore {state : HkstoreRestore cfg} {input : List UInt8}
    {count : UInt16} (counted : state.Counted input count) :
    (HkstoreStatus.ok, state.memory.hkstore) =
      hkstoreRestored cfg (.ok state.memory.restored) := by
  have slots : state.memory.structures.toList.length = cfg.hkstoreCapacity :=
    state.memory.structures.length_toList
  have few : state.memory.count ≤ cfg.hkstoreCapacity := by
    rw [counted.counted]
    exact Nat.le_trans (UInt16.le_iff_toNat_le.mp counted.started) counted.within
  have length : state.memory.restored.length = state.memory.count := by
    rw [HkMemory.restored, List.length_map, List.length_take, slots]
    exact Nat.min_eq_left few
  have front : (state.memory.structures.toList.take state.memory.count).map HkSlot.view =
      state.memory.restored.map some := by
    rw [HkMemory.restored, List.map_map]
    apply List.map_congr_left
    intro slot member
    rw [counted.counted] at member
    exact if_pos (counted.used slot member)
  have back : (state.memory.structures.toList.drop state.memory.count).map HkSlot.view =
      List.replicate (cfg.hkstoreCapacity - state.memory.restored.length) none := by
    rw [List.eq_replicate_iff, List.length_map, List.length_drop, slots, length]
    refine ⟨rfl, ?_⟩
    intro view member
    obtain ⟨slot, isSlot, rfl⟩ := List.mem_map.mp member
    rw [counted.counted] at isSlot
    rw [HkSlot.view, counted.free slot isSlot]
    rfl
  have whole : state.memory.structures.toList.map HkSlot.view =
      state.memory.restored.map some ++
        List.replicate (cfg.hkstoreCapacity - state.memory.restored.length) none := by
    rw [← front, ← back, ← List.map_append, List.take_append_drop]
  rw [hkstoreRestored, HkMemory.hkstore, whole, length, counted.fresh]

/-- One structure behind those there are. -/
theorem HkMemory.restored_next {memory : HkMemory cfg} {index : Nat}
    (behind : memory.count = index) (room : index < cfg.hkstoreCapacity)
    (slot : HkSlot cfg.hkstoreMaxParams) :
    HkMemory.restored { memory with
      structures := memory.structures.set index slot
      count := memory.count + 1 } = memory.restored ++ [slot.held] := by
  simp only [HkMemory.restored, behind]
  rw [Vector.toList_set, take_set_succ (by rw [Vector.length_toList]; exact room), List.map_append,
    List.map_singleton]

theorem HkstoreRestore.Counted.next {state : HkstoreRestore cfg} {input : List UInt8}
    {count : UInt16} (counted : state.Counted input count) (below : state.i < count)
    (room : state.i.toNat < cfg.hkstoreCapacity) {read : HkSlot cfg.hkstoreMaxParams × Nat}
    (inside : HkReadInside (input.length - state.off) read) :
    HkstoreRestore.Counted
      { i := state.i + 1
        off := state.off + read.2
        memory := { state.memory with
          structures := state.memory.structures.set state.i.toNat read.1
          count := state.memory.count + 1 } } input count := by
  have slots : state.i.toNat < state.memory.structures.toList.length := by
    rw [Vector.length_toList]
    exact room
  constructor
  · simp only [counted.counted, counter_next below]
  · exact counted.within
  · exact counter_le below
  · have started := counted.inside
    have consumed := inside.inside
    show state.off + read.2 ≤ input.length
    omega
  · exact counted.fresh
  · simp only [counter_next below, Vector.toList_set, take_set_succ slots]
    exact List.forall_mem_append.mpr
      ⟨counted.used, List.forall_mem_singleton.mpr inside.inUse⟩
  · simp only [counter_next below, Vector.toList_set,
      List.drop_set_of_lt (Nat.lt_succ_self state.i.toNat)]
    intro slot member
    rw [Nat.succ_eq_add_one, ← List.drop_drop] at member
    exact counted.free slot (List.mem_of_mem_drop member)

/-- The scan for the identifier of the structure just read. -/
theorem hkstoreDuplicate_ok {state : HkstoreRestore cfg} {input : List UInt8} {count : UInt16}
    (counted : state.Counted input count) (room : state.i.toNat < cfg.hkstoreCapacity)
    (read : HkSlot cfg.hkstoreMaxParams) :
    anyChecked (fun j => do
        let other ← readAt (state.memory.structures.set state.i.toNat read).toList j
        let held ← readAt (state.memory.structures.set state.i.toNat read).toList state.i.toNat
        pure (other.sid == held.sid)) (List.range state.i.toNat) =
      .ok (state.memory.restored.any fun other => other.sid == read.held.sid) := by
  have length : (state.memory.structures.toList.take state.i.toNat).length = state.i.toNat := by
    rw [List.length_take, Vector.length_toList]
    exact Nat.min_eq_left (Nat.le_of_lt room)
  rw [HkMemory.restored, counted.counted, List.any_map]
  rw [← congrArg List.range length]
  apply anyChecked_range
  intro index below
  have earlier : index < state.i.toNat := by
    rw [length] at below
    exact below
  rw [readAt_set_ne room read (by omega), ← readAt_take earlier, readAt_get below, checked_bind,
    readAt_set_self room, checked_bind]
  rfl

theorem hkstoreDeserializeRound_right (input : List UInt8) (count : UInt16)
    {state : HkstoreRestore cfg} (counted : state.Counted input count) :
    RoundRight (hkstoreRestoreSpec cfg input count) state
      (hkstoreDeserializeRound input count state) := by
  unfold hkstoreDeserializeRound
  apply roundRight_guard
  · intro stopped
    change (HkstoreStatus.ok, state.memory.hkstore) = hkstoreRestored cfg _
    rw [counter_done stopped, hkstoreDeserializeLoop]
    exact counted.hkstore
  intro running
  have below := not_not.mp running
  have left := counter_left below
  have room : state.i.toNat < cfg.hkstoreCapacity :=
    Nat.lt_of_lt_of_le (UInt16.lt_iff_toNat_lt.mp below) counted.within
  have slotInside : state.i.toNat < state.memory.structures.toList.length := by
    rw [Vector.length_toList]
    exact room
  rw [addressOf_ok counted.inside, checked_bind, subtract_ok counted.inside, checked_bind,
    readAt_get slotInside, checked_bind]
  generalize state.memory.structures.toList.get ⟨state.i.toNat, slotInside⟩ = slot
  obtain ⟨decoded, run, isRead, has⟩ := hkstoreReadStructChecked_ends slot counted.inside
  rw [run, checked_bind]
  cases decoded with
  | error status =>
      apply RoundRight.ends
      apply hkstoreRestoreSpec_failed
      rw [left, hkstoreDeserializeLoop, ← isRead]
      rfl
  | ok read =>
      have inside := has read rfl
      simp only [writeAt_ok room, checked_bind, hkstoreDuplicate_ok counted room]
      have listed : hkstoreReadStruct cfg (input.drop state.off) = .ok (read.1.held, read.2) :=
        isRead.symm
      apply roundRight_guard
      · intro duplicate
        apply hkstoreRestoreSpec_failed
        simp only [left, hkstoreDeserializeLoop, listed, if_pos duplicate]
      intro fresh
      apply RoundRight.continues
      · exact counted.next below room inside
      · exact counter_closer below
      · intro result isRight
        simp only [hkstoreRestoreSpec, HkMemory.restored_next counted.counted room] at isRight
        simp only [hkstoreRestoreSpec, left, hkstoreDeserializeLoop, listed, if_neg fresh]
        exact isRight

/-- For any octets, and any store they are restored into. -/
theorem hkstoreDeserializeChecked_right (memory : HkMemory cfg) (input : List UInt8)
    {rounds : Nat} (enough : 65536 ≤ rounds) :
    EndsRight (hkstoreDeserializeChecked rounds memory input) fun result =>
      (result.1, result.2.hkstore) = hkstoreDeserialize cfg input := by
  unfold hkstoreDeserializeChecked hkstoreDeserialize
  by_cases short : input.length < 2
  · simp only [if_pos short]
    exact ⟨_, rfl, congrArg (Prod.mk _) memory.init_hkstore⟩
  simp only [if_neg short]
  rw [read16_ok (by omega), checked_bind]
  generalize be16At input 0 = count
  by_cases many : count.toNat > cfg.hkstoreCapacity
  · simp only [if_pos many]
    exact ⟨_, rfl, congrArg (Prod.mk _) memory.init_hkstore⟩
  simp only [if_neg many]
  have start : (hkstoreRestoreSpec cfg input count).invariant ⟨0, 2, memory.init⟩ := by
    constructor
    · rfl
    · exact Nat.le_of_not_lt many
    · rw [UInt16.le_iff_toNat_le]
      exact Nat.zero_le _
    · exact Nat.le_of_not_lt short
    · rfl
    · intro slot member
      contradiction
    · intro slot member
      simp only [HkMemory.init, Vector.toList_map] at member
      obtain ⟨before, _, rfl⟩ := List.mem_map.mp (List.mem_of_mem_drop member)
      rfl
  obtain ⟨result, run, isRight⟩ :=
    loopChecked_ends (fun _ counted => hkstoreDeserializeRound_right input count counted) start
      (counter_few enough count)
  refine ⟨result, run, isRight.trans ?_⟩
  change hkstoreRestored cfg (hkstoreDeserializeLoop cfg input count.toNat 2 []) = _
  cases hkstoreDeserializeLoop cfg input count.toNat 2 [] with
  | error status => rfl
  | ok restored => rfl

end FswCore
