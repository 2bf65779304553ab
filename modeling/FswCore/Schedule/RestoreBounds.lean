import FswCore.Library.CheckedLoop
import FswCore.Schedule.Model

/-!
Contract: `migris_schedule_deserialize` over the arrays it reads and writes.

Owns:
- `ScheduleMemory`, the schedule as its memory holds it;
- `scheduleDeserializeChecked`, with its 16-bit counter, where every access is checked;
- whatever the octets, no check fails, the loop ends, and what it leaves is what
  `scheduleDeserialize` leaves.

Does not own: which octets are restored.
-/

namespace FswCore

open Library Library.BigEndian

variable {cfg : Config}

/-! ### Memory -/

/-- `tc` keeps what it held behind `tc_len`. -/
structure ScheduleSlot (tcMax : Nat) where
  releaseTime : UInt32
  tc : Vector UInt8 tcMax
  tcLen : Nat

def ScheduleSlot.activity {tcMax : Nat} (slot : ScheduleSlot tcMax) : ScheduleActivity :=
  { releaseTime := slot.releaseTime, tc := slot.tc.toList.take slot.tcLen }

/-- The slots behind `count` keep what they held. -/
structure ScheduleMemory (cfg : Config) where
  activities : Vector (ScheduleSlot cfg.scheduleTcMax) cfg.scheduleCapacity
  count : Nat
  enabled : Bool
  generation : UInt32

/-- The schedule the functions see. -/
def ScheduleMemory.schedule (memory : ScheduleMemory cfg) : Schedule :=
  { activities := (memory.activities.toList.take memory.count).map ScheduleSlot.activity
    enabled := memory.enabled
    generation := memory.generation }

def ScheduleMemory.clear (memory : ScheduleMemory cfg) : ScheduleMemory cfg :=
  { memory with count := 0 }

/-! ### The image -/

/-- `i` and `off`, and the schedule. -/
structure ScheduleRestore (cfg : Config) where
  i : UInt16
  off : Nat
  memory : ScheduleMemory cfg

def scheduleDeserializeRound (input : List UInt8) (count : UInt16) (enabled : Bool)
    (state : ScheduleRestore cfg) :
    Except AccessFault (ScheduleRestore cfg ⊕ ScheduleStatus × ScheduleMemory cfg) :=
  if ¬state.i < count then pure (.inr (.ok, { state.memory with enabled := enabled }))
  else if state.off + 6 > input.length then pure (.inr (.errTruncated, state.memory.clear))
  else do
    let releaseTime ← read32 input state.off
    let tcLen ← read16 input (state.off + 4)
    if tcLen.toNat > cfg.scheduleTcMax ∨ tcLen.toNat < scheduleRequestIdSize then
      pure (.inr (.errTcTooLarge, state.memory.clear))
    else if state.off + 6 + tcLen.toNat > input.length then
      pure (.inr (.errTruncated, state.memory.clear))
    else do
      let slot ← readAt state.memory.activities.toList state.i.toNat
      let tc ← fillChecked (fun j => readAt input (state.off + 6 + j)) tcLen.toNat 0 slot.tc
      let activities ← writeAt state.memory.activities state.i.toNat
        { releaseTime := releaseTime, tc := tc, tcLen := tcLen.toNat }
      pure (.inl
        { i := state.i + 1
          off := state.off + 6 + tcLen.toNat
          memory := { state.memory with
            activities := activities
            count := state.memory.count + 1 } })

/-- `migris_schedule_deserialize`, for a number of rounds of its loop. -/
def scheduleDeserializeChecked (rounds : Nat) (memory : ScheduleMemory cfg)
    (input : List UInt8) : Except AccessFault (Option (ScheduleStatus × ScheduleMemory cfg)) :=
  let cleared : ScheduleMemory cfg := { memory with count := 0, enabled := false }
  if input.length < 3 then pure (some (.errTruncated, cleared))
  else do
    let count ← read16 input 0
    let enabled ← readAt input 2
    if count.toNat > cfg.scheduleCapacity then pure (some (.errFull, cleared))
    else
      loopChecked (scheduleDeserializeRound input count (enabled != 0)) rounds
        { i := 0, off := 3, memory := cleared }

/-- What the list decoder leaves. -/
def scheduleRestored (generation : UInt32) (enabled : Bool) :
    Except ScheduleStatus (List ScheduleActivity) → ScheduleStatus × Schedule
  | .error status => (status, { activities := [], enabled := false, generation := generation })
  | .ok restored =>
      (.ok, { activities := restored, enabled := enabled, generation := generation })

/-- The activities so far are in the first slots, one for each round. -/
structure ScheduleRestore.Counted (state : ScheduleRestore cfg) (count : UInt16) : Prop where
  counted : state.memory.count = state.i.toNat
  disabled : state.memory.enabled = false
  within : count.toNat ≤ cfg.scheduleCapacity

def scheduleRestoreSpec (cfg : Config) (input : List UInt8) (count : UInt16) (enabled : Bool) :
    LoopSpec (ScheduleRestore cfg) (ScheduleStatus × ScheduleMemory cfg) where
  invariant := fun state => state.Counted count
  variant := fun state => count.toNat - state.i.toNat
  right := fun state result => (result.1, result.2.schedule) =
    scheduleRestored state.memory.generation enabled
      (scheduleDeserializeLoop cfg input (count.toNat - state.i.toNat) state.off
        state.memory.schedule.activities)

/-- A round that ends in a failure leaves the schedule empty. -/
theorem scheduleRestoreSpec_failed {input : List UInt8} {count : UInt16} {enabled : Bool}
    {state : ScheduleRestore cfg} (counted : state.Counted count) {status : ScheduleStatus}
    (failed : scheduleDeserializeLoop cfg input (count.toNat - state.i.toNat) state.off
      state.memory.schedule.activities = .error status) :
    (scheduleRestoreSpec cfg input count enabled).right state (status, state.memory.clear) := by
  have empty : state.memory.clear.schedule =
      { activities := [], enabled := false, generation := state.memory.generation } := by
    simp only [ScheduleMemory.schedule, ScheduleMemory.clear, counted.disabled, List.take_zero,
      List.map_nil]
  change (status, state.memory.clear.schedule) = scheduleRestored _ _ _
  rw [failed, empty]
  rfl

/-- One activity behind those there are. -/
theorem ScheduleMemory.schedule_next {memory : ScheduleMemory cfg} {index : Nat}
    (behind : memory.count = index) (room : index < cfg.scheduleCapacity)
    (slot : ScheduleSlot cfg.scheduleTcMax) :
    (ScheduleMemory.schedule { memory with
      activities := memory.activities.set index slot
      count := memory.count + 1 }).activities = memory.schedule.activities ++ [slot.activity] := by
  simp only [ScheduleMemory.schedule, behind]
  rw [Vector.toList_set, take_set_succ (by rw [Vector.length_toList]; exact room), List.map_append,
    List.map_singleton]

theorem scheduleDeserializeRound_right (input : List UInt8) (count : UInt16) (enabled : Bool)
    {state : ScheduleRestore cfg} (counted : state.Counted count) :
    RoundRight (scheduleRestoreSpec cfg input count enabled) state
      (scheduleDeserializeRound input count enabled state) := by
  unfold scheduleDeserializeRound
  apply roundRight_guard
  · intro stopped
    simp only [scheduleRestoreSpec, counter_done stopped, scheduleDeserializeLoop,
      scheduleRestored, ScheduleMemory.schedule]
  intro running
  have below := not_not.mp running
  have left := counter_left below
  apply roundRight_guard
  · intro short
    apply scheduleRestoreSpec_failed counted
    rw [left, scheduleDeserializeLoop, if_pos short]
  intro header
  rw [read32_ok (by omega), checked_bind, read16_ok (by omega), checked_bind]
  apply roundRight_guard
  · intro refused
    apply scheduleRestoreSpec_failed counted
    simp only [left, scheduleDeserializeLoop, if_neg header, if_pos refused]
  intro admitted
  apply roundRight_guard
  · intro cut
    apply scheduleRestoreSpec_failed counted
    simp only [left, scheduleDeserializeLoop, if_neg header, if_neg admitted, if_pos cut]
  intro whole
  have room : state.i.toNat < cfg.scheduleCapacity :=
    Nat.lt_of_lt_of_le (UInt16.lt_iff_toNat_lt.mp below) counted.within
  have inside : state.i.toNat < state.memory.activities.toList.length := by
    rw [Vector.length_toList]
    exact room
  rw [readAt_get inside, checked_bind]
  generalize state.memory.activities.toList.get ⟨state.i.toNat, inside⟩ = slot
  generalize sized : (be16At input (state.off + 4)).toNat = tcLen at admitted whole
  obtain ⟨tc, copied, filled⟩ := fillChecked_ok (fun j => input.getD (state.off + 6 + j) 0) slot.tc
    (show tcLen ≤ cfg.scheduleTcMax by omega) fun j below => readAt_ok (by omega) 0
  rw [Filled, List.length_map, List.length_range, map_getD_window (by omega)] at filled
  rw [copied, checked_bind, writeAt_ok room, checked_bind]
  apply RoundRight.continues
  · constructor
    · show state.memory.count + 1 = (state.i + 1).toNat
      rw [counter_next below, counted.counted]
    · exact counted.disabled
    · exact counted.within
  · exact counter_closer below
  · intro result isRight
    have activity : ScheduleSlot.activity ⟨be32At input state.off, tc, tcLen⟩ =
        { releaseTime := be32At input state.off, tc := window input (state.off + 6) tcLen } := by
      rw [ScheduleSlot.activity, filled]
    simp only [scheduleRestoreSpec, ScheduleMemory.schedule_next counted.counted room,
      activity] at isRight
    simp only [scheduleRestoreSpec, left, scheduleDeserializeLoop, if_neg header, sized,
      if_neg admitted, if_neg whole]
    exact isRight

/-- For any octets, and any schedule they are restored into. -/
theorem scheduleDeserializeChecked_right (memory : ScheduleMemory cfg) (input : List UInt8)
    {rounds : Nat} (enough : 65536 ≤ rounds) :
    EndsRight (scheduleDeserializeChecked rounds memory input) fun result =>
      (result.1, result.2.schedule) = scheduleDeserialize cfg memory.schedule input := by
  have cleared : ScheduleMemory.schedule { memory with count := 0, enabled := false } =
      { memory.schedule with activities := [], enabled := false } := by
    simp only [ScheduleMemory.schedule, List.take_zero, List.map_nil]
  unfold scheduleDeserializeChecked scheduleDeserialize
  by_cases short : input.length < 3
  · simp only [if_pos short]
    exact ⟨_, rfl, congrArg (Prod.mk _) cleared⟩
  simp only [if_neg short]
  rw [read16_ok (by omega), checked_bind, readAt_ok (by omega) 0, checked_bind]
  generalize be16At input 0 = count
  by_cases many : count.toNat > cfg.scheduleCapacity
  · simp only [if_pos many]
    exact ⟨_, rfl, congrArg (Prod.mk _) cleared⟩
  simp only [if_neg many]
  have start : (scheduleRestoreSpec cfg input count (input.getD 2 0 != 0)).invariant
      ⟨0, 3, { memory with count := 0, enabled := false }⟩ := by
    constructor
    · rfl
    · rfl
    · exact Nat.le_of_not_lt many
  obtain ⟨result, run, isRight⟩ :=
    loopChecked_ends (fun _ counted => scheduleDeserializeRound_right input count _ counted) start
      (counter_few enough count)
  refine ⟨result, run, isRight.trans ?_⟩
  rw [cleared]
  change scheduleRestored _ _ (scheduleDeserializeLoop cfg input count.toNat 3 []) = _
  cases scheduleDeserializeLoop cfg input count.toNat 3 [] with
  | error status => rfl
  | ok restored => rfl

end FswCore
