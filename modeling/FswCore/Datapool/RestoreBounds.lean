import FswCore.Datapool.Model
import FswCore.Library.CheckedLoop

/-!
Contract: the decoders of `datapool.c` over the arrays they read and write.

Owns:
- `DatapoolMemory`, the pool as its memory holds it;
- `datapoolDeserializeChecked`, with its 16-bit counter, where every access is checked;
- whatever the octets, no check fails, the loop ends, and what it leaves is what
  `datapoolDeserialize` leaves.

Does not own: what a restore means to the values.
-/

namespace FswCore

open Library Library.BigEndian

variable {cfg : Config}

/-! ### A value -/

/-- `migris_dp_value_decode` at an address, with `len` octets there. -/
def dpValueDecodeChecked (app : List UInt8) (type : DpType) (address len : Nat) :
    Except AccessFault (Except DatapoolStatus (DpValue × Nat)) :=
  let width := dpTypeWidth type
  if len < width then pure (.error .errBufTooSmall)
  else do
    let bits ← (List.range width).foldlM (fun (bits : UInt32) index => do
      let octet ← readAt app (address + index)
      pure ((bits <<< 8) ||| octet.toUInt32)) 0
    pure (.ok (dpValueFromBits type bits, width))

theorem dpValueDecodeChecked_ok (app : List UInt8) (type : DpType) (address : Nat) :
    dpValueDecodeChecked app type address (app.length - address) =
      .ok (dpValueDecode type (app.drop address)) := by
  simp only [dpValueDecodeChecked, dpValueDecode, List.length_drop]
  by_cases short : app.length - address < dpTypeWidth type
  · rw [if_pos short, if_pos short]
    rfl
  have positive : 0 < dpTypeWidth type := by cases type <;> decide
  rw [if_neg short, if_neg short, foldlM_ok
    (fun (bits : UInt32) index => (bits <<< 8) ||| (app.getD (address + index) 0).toUInt32)]
  · simp only [getD_drop]
    rfl
  · intro bits index listed
    have below := List.mem_range.mp listed
    rw [readAt_ok (by omega) 0]
    rfl

/-! ### Memory -/

/-- The slots behind `count` keep what they held. -/
structure DatapoolMemory (cfg : Config) where
  params : Vector DpParam cfg.datapoolCapacity
  count : Nat
  count_le : count ≤ cfg.datapoolCapacity
  generation : UInt32

/-- The pool the functions see. -/
def DatapoolMemory.datapool (memory : DatapoolMemory cfg) : Datapool :=
  { params := memory.params.toList.take memory.count, generation := memory.generation }

/-! ### One record -/

/-- The search for the parameter a record is for, over `remaining` slots. -/
def dpRestoreChecked {size : Nat} (id : UInt16) (value : DpValue) :
    Nat → Nat → Vector DpParam size → Except AccessFault (Vector DpParam size)
  | 0, _, params => pure params
  | remaining + 1, index, params => do
      let param ← readAt params.toList index
      if param.id = id ∧ param.value.type = value.type then
        writeAt params index { param with value := value }
      else dpRestoreChecked id value remaining (index + 1) params

theorem dpRestoreChecked_ok {size : Nat} (id : UInt16) (value : DpValue) {remaining index : Nat}
    (params : Vector DpParam size) (inside : index + remaining ≤ size) :
    ∃ after, dpRestoreChecked id value remaining index params = .ok after ∧
      after.toList.take (index + remaining) = params.toList.take index ++
        dpRestore id value (window params.toList index remaining) := by
  induction remaining generalizing index with
  | zero => exact ⟨params, rfl, by simp [window, dpRestore]⟩
  | succ remaining inductionHypothesis =>
      have below : index < params.toList.length := by
        rw [Vector.length_toList]
        omega
      have total : index + (remaining + 1) = index + 1 + remaining := by omega
      have front : params.toList.take (index + 1) =
          params.toList.take index ++ [params.toList.get ⟨index, below⟩] :=
        List.take_succ_eq_append_getElem below
      rw [dpRestoreChecked, readAt_get below, checked_bind, window_succ below, dpRestore, total]
      generalize params.toList.get ⟨index, below⟩ = param at front
      by_cases matched : param.id = id ∧ param.value.type = value.type
      · rw [if_pos matched, if_pos matched]
        have room : index < size := by omega
        refine ⟨params.set index { param with value := value }, dif_pos room, ?_⟩
        rw [Vector.toList_set, List.take_add, take_set_succ below,
          List.drop_set_of_lt (Nat.lt_succ_self index), List.append_assoc, List.singleton_append]
        rfl
      · rw [if_neg matched, if_neg matched]
        have later : index + 1 + remaining ≤ size := by omega
        obtain ⟨after, run, kept⟩ := inductionHypothesis later
        refine ⟨after, run, ?_⟩
        rw [kept, front, List.append_assoc, List.singleton_append]

/-- Over the parameters of a pool. -/
theorem dpRestoreChecked_pool (id : UInt16) (value : DpValue) (memory : DatapoolMemory cfg) :
    ∃ after, dpRestoreChecked id value memory.count 0 memory.params = .ok after ∧
      after.toList.take memory.count = dpRestore id value memory.datapool.params := by
  have inside : 0 + memory.count ≤ cfg.datapoolCapacity := by
    rw [Nat.zero_add]
    exact memory.count_le
  obtain ⟨after, run, kept⟩ := dpRestoreChecked_ok id value memory.params inside
  rw [Nat.zero_add, List.take_zero, List.nil_append, window_zero] at kept
  exact ⟨after, run, kept⟩

/-! ### The image -/

/-- `i` and `off`, and the pool. -/
structure DatapoolRestore (cfg : Config) where
  i : UInt16
  off : Nat
  memory : DatapoolMemory cfg

def datapoolDeserializeRound (input : List UInt8) (count : UInt16) (state : DatapoolRestore cfg) :
    Except AccessFault (DatapoolRestore cfg ⊕ DatapoolStatus × DatapoolMemory cfg) :=
  if ¬state.i < count then pure (.inr (.ok, state.memory))
  else if state.off + 3 > input.length then pure (.inr (.errBufTooSmall, state.memory))
  else do
    let id ← read16 input state.off
    let typeCode ← readAt input (state.off + 2)
    match dpTypeOfCode typeCode with
    | none => pure (.inr (.errType, state.memory))
    | some type =>
        if state.off + 3 + dpTypeWidth type > input.length then
          pure (.inr (.errBufTooSmall, state.memory))
        else do
          let address ← addressOf input (state.off + 3)
          let len ← subtract input.length (state.off + 3)
          let decoded ← dpValueDecodeChecked input type address len
          match decoded with
          | .error status => pure (.inr (status, state.memory))
          | .ok value => do
              let params ← dpRestoreChecked id value.1 state.memory.count 0 state.memory.params
              pure (.inl
                { i := state.i + 1
                  off := state.off + 3 + value.2
                  memory := { state.memory with params := params } })

/-- `migris_datapool_deserialize`, for a number of rounds of its loop. -/
def datapoolDeserializeChecked (rounds : Nat) (memory : DatapoolMemory cfg)
    (input : List UInt8) : Except AccessFault (Option (DatapoolStatus × DatapoolMemory cfg)) :=
  if input.length < 2 then pure (some (.errBufTooSmall, memory))
  else do
    let count ← read16 input 0
    loopChecked (datapoolDeserializeRound input count) rounds
      { i := 0, off := 2, memory := memory }

/-- The rounds go over what is left of the records, as the list decoder does. -/
def datapoolRestoreSpec (cfg : Config) (input : List UInt8) (count : UInt16) :
    LoopSpec (DatapoolRestore cfg) (DatapoolStatus × DatapoolMemory cfg) where
  invariant := fun _ => True
  variant := fun state => count.toNat - state.i.toNat
  right := fun state result =>
    let restored := datapoolDeserializeLoop input (count.toNat - state.i.toNat) state.off
      state.memory.datapool.params
    result.1 = restored.1 ∧ result.2.datapool = { state.memory.datapool with params := restored.2 }

/-- A round that ends the loop leaves the pool alone. -/
theorem datapoolRestoreSpec_ended {input : List UInt8} {count : UInt16}
    {state : DatapoolRestore cfg} {status : DatapoolStatus}
    (ended : datapoolDeserializeLoop input (count.toNat - state.i.toNat) state.off
      state.memory.datapool.params = (status, state.memory.datapool.params)) :
    (datapoolRestoreSpec cfg input count).right state (status, state.memory) := by
  simp only [datapoolRestoreSpec, ended]
  trivial

theorem datapoolDeserializeRound_right (input : List UInt8) (count : UInt16)
    (state : DatapoolRestore cfg) :
    RoundRight (datapoolRestoreSpec cfg input count) state
      (datapoolDeserializeRound input count state) := by
  unfold datapoolDeserializeRound
  apply roundRight_guard
  · intro stopped
    apply datapoolRestoreSpec_ended
    rw [counter_done stopped, datapoolDeserializeLoop]
  intro running
  have below := not_not.mp running
  have left := counter_left below
  apply roundRight_guard
  · intro short
    apply datapoolRestoreSpec_ended
    rw [left, datapoolDeserializeLoop, if_pos short]
  intro header
  rw [read16_ok (by omega), checked_bind, readAt_ok (by omega) 0, checked_bind]
  cases typed : dpTypeOfCode (input.getD (state.off + 2) 0) with
  | none =>
      apply RoundRight.ends
      apply datapoolRestoreSpec_ended
      simp only [left, datapoolDeserializeLoop, if_neg header, typed]
  | some type =>
      apply roundRight_guard
      · intro cut
        apply datapoolRestoreSpec_ended
        simp only [left, datapoolDeserializeLoop, if_neg header, typed, if_pos cut]
      intro whole
      rw [addressOf_ok (by omega), checked_bind, subtract_ok (by omega), checked_bind,
        dpValueDecodeChecked_ok, checked_bind]
      cases decoded : dpValueDecode type (input.drop (state.off + 3)) with
      | error status =>
          apply RoundRight.ends
          apply datapoolRestoreSpec_ended
          simp only [left, datapoolDeserializeLoop, if_neg header, typed, if_neg whole, decoded]
      | ok value =>
          obtain ⟨params, run, restored⟩ :=
            dpRestoreChecked_pool (be16At input state.off) value.1 state.memory
          simp only [run, checked_bind]
          apply RoundRight.continues
          · trivial
          · exact counter_closer below
          · intro result isRight
            simp only [datapoolRestoreSpec, DatapoolMemory.datapool, restored] at isRight
            simp only [datapoolRestoreSpec, DatapoolMemory.datapool, left,
              datapoolDeserializeLoop, if_neg header, typed, if_neg whole, decoded]
            exact isRight

/-- For any octets, and any pool they are restored into. -/
theorem datapoolDeserializeChecked_right (memory : DatapoolMemory cfg) (input : List UInt8)
    {rounds : Nat} (enough : 65536 ≤ rounds) :
    EndsRight (datapoolDeserializeChecked rounds memory input) fun result =>
      (result.1, result.2.datapool) = datapoolDeserialize memory.datapool input := by
  unfold datapoolDeserializeChecked datapoolDeserialize
  by_cases short : input.length < 2
  · rw [if_pos short, if_pos short]
    exact ⟨_, rfl, rfl⟩
  rw [if_neg short, if_neg short, read16_ok (by omega), checked_bind]
  generalize be16At input 0 = count
  have start : (datapoolRestoreSpec cfg input count).invariant ⟨0, 2, memory⟩ := trivial
  obtain ⟨result, run, isStatus, isPool⟩ :=
    loopChecked_ends (fun state _ => datapoolDeserializeRound_right input count state) start
      (counter_few enough count)
  exact ⟨result, run, Prod.ext isStatus isPool⟩

end FswCore
