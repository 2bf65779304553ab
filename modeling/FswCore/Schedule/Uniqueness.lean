import FswCore.Schedule.Codec

/-!
Contract: the schedule invariant over whole runs, restores included.

Owns:
- `ScheduleOp` and `scheduleApply`, one call of a mutator and its reply;
- `ScheduleEvent`, a mutator call or a restore from arbitrary bytes;
- when a run keeps the invariant: exactly when no accepted image in it repeats a
  request identifier;
- what is restored from the serialised form of a schedule a run reaches.

The restore path rebuilds the entries without going through insert, so it checks
every bound insert checks but not the uniqueness of the identifiers.
-/

namespace FswCore

open Library Library.BigEndian

inductive ScheduleOp where
  | insert (releaseTime : UInt32) (tc : List UInt8)
  | delete (requestId : List UInt8)
  | reset
  | setEnabled (enabled : Bool)
  | popDue (nowSeconds : UInt32) (outCap : Nat)
deriving DecidableEq, Repr

/-- What a call hands back to its caller. -/
inductive ScheduleReply where
  | status (status : ScheduleStatus)
  | popped (result : Except ScheduleStatus (Option (List UInt8)))
  | done

def scheduleApply (cfg : Config) (sched : Schedule) : ScheduleOp → ScheduleReply × Schedule
  | .insert releaseTime tc =>
      let (status, after) := scheduleInsert cfg sched releaseTime tc
      (.status status, after)
  | .delete requestId =>
      let (status, after) := scheduleDelete sched requestId
      (.status status, after)
  | .reset => (.done, scheduleReset sched)
  | .setEnabled enabled => (.done, scheduleSetEnabled sched enabled)
  | .popDue nowSeconds outCap =>
      let (result, after) := schedulePopDue sched nowSeconds outCap
      (.popped result, after)

inductive ScheduleEvent where
  | call (op : ScheduleOp)
  | restore (image : List UInt8)
deriving DecidableEq, Repr

def scheduleEvent (cfg : Config) (sched : Schedule) : ScheduleEvent → Schedule
  | .call op => (scheduleApply cfg sched op).2
  | .restore image => (scheduleDeserialize cfg sched image).2

/-- The schedule after a run from initialisation. -/
def scheduleRun (cfg : Config) (events : List ScheduleEvent) : Schedule :=
  events.foldl (scheduleEvent cfg) scheduleInit

/-- Whatever activities the decoder would restore from `image`, their request
identifiers are distinct. -/
def ImageIdsDistinct (cfg : Config) (image : List UInt8) : Prop :=
  ∀ flag activities, StartsWithImage cfg image flag activities → RequestIdsDistinct activities

theorem scheduleApply_wellFormed {cfg : Config} {sched : Schedule}
    (wellFormed : sched.WellFormed cfg) (op : ScheduleOp) :
    (scheduleApply cfg sched op).2.WellFormed cfg := by
  cases op with
  | insert releaseTime tc => exact wellFormed.insert releaseTime tc
  | delete requestId => exact wellFormed.delete requestId
  | reset => exact scheduleReset_wellFormed cfg sched
  | setEnabled enabled => exact wellFormed.setEnabled enabled
  | popDue nowSeconds outCap => exact wellFormed.popDue nowSeconds outCap

/-! ### Bounds -/

/-- A restore checks every bound. -/
theorem scheduleDeserialize_bounded (cfg : Config) (sched : Schedule) (image : List UInt8) :
    (scheduleDeserialize cfg sched image).2.Bounded cfg := by
  by_cases accepted : (scheduleDeserialize cfg sched image).1 = .ok
  · obtain ⟨flag, activities, stands, result⟩ := scheduleDeserialize_sound accepted
    rw [result]
    exact ⟨stands.count_le, fun activity member =>
      ⟨(stands.bounded activity member).idPresent, (stands.bounded activity member).fits⟩⟩
  · rw [scheduleDeserialize_failed accepted]
    exact scheduleBounded_nil rfl

theorem scheduleEvent_bounded {cfg : Config} {sched : Schedule} (bounded : sched.Bounded cfg)
    (event : ScheduleEvent) : (scheduleEvent cfg sched event).Bounded cfg := by
  cases event with
  | call op =>
      cases op with
      | insert releaseTime tc => exact bounded.insert releaseTime tc
      | delete requestId => exact bounded.delete requestId
      | reset => exact scheduleBounded_nil rfl
      | setEnabled enabled => exact bounded.of_activities (scheduleSetEnabled_activities ..)
      | popDue nowSeconds outCap => exact bounded.popDue nowSeconds outCap
  | restore image => exact scheduleDeserialize_bounded cfg sched image

/-- Every state of a run keeps the bounds, whatever is restored in it. -/
theorem scheduleRun_bounded (cfg : Config) (events : List ScheduleEvent) :
    (scheduleRun cfg events).Bounded cfg := by
  apply List.foldlRecOn events _ (scheduleBounded_nil rfl)
  intro sched bounded event _
  exact scheduleEvent_bounded bounded event

/-! ### Uniqueness -/

/-- A restore yields a well-formed schedule from any schedule, unless the image
it accepts repeats a request identifier. -/
theorem scheduleDeserialize_wellFormed_iff (cfg : Config) (sched : Schedule)
    (image : List UInt8) :
    (scheduleDeserialize cfg sched image).2.WellFormed cfg ↔ ImageIdsDistinct cfg image := by
  constructor
  · intro wellFormed flag activities stands
    rw [scheduleDeserialize_complete sched stands] at wellFormed
    exact wellFormed.distinct
  · intro distinct
    by_cases accepted : (scheduleDeserialize cfg sched image).1 = .ok
    · obtain ⟨flag, activities, stands, result⟩ := scheduleDeserialize_sound accepted
      have bounded := scheduleDeserialize_bounded cfg sched image
      rw [result] at bounded ⊢
      exact ⟨bounded, distinct flag activities stands⟩
    · rw [scheduleDeserialize_failed accepted]
      exact (scheduleInit_wellFormed cfg).of_activities rfl

theorem scheduleEvent_wellFormed {cfg : Config} {sched : Schedule} {event : ScheduleEvent}
    (wellFormed : sched.WellFormed cfg)
    (distinct : ∀ image, event = .restore image → ImageIdsDistinct cfg image) :
    (scheduleEvent cfg sched event).WellFormed cfg := by
  cases event with
  | call op => exact scheduleApply_wellFormed wellFormed op
  | restore image =>
      exact (scheduleDeserialize_wellFormed_iff cfg sched image).mpr (distinct image rfl)

/-- Every state of a run is well-formed exactly when no restore of the run
accepts an image with a repeated request identifier. -/
theorem scheduleRun_wellFormed_iff (cfg : Config) (events : List ScheduleEvent) :
    (∀ reached, reached <+: events → (scheduleRun cfg reached).WellFormed cfg) ↔
      ∀ image, ScheduleEvent.restore image ∈ events → ImageIdsDistinct cfg image := by
  constructor
  · intro always image member
    obtain ⟨before, after, rfl⟩ := List.append_of_mem member
    have reached := always (before ++ [.restore image]) ⟨after, by simp⟩
    rw [scheduleRun, List.foldl_append] at reached
    exact (scheduleDeserialize_wellFormed_iff cfg _ image).mp reached
  · intro distinct reached isPrefix
    apply List.foldlRecOn reached _ (scheduleInit_wellFormed cfg)
    intro sched wellFormed event member
    apply scheduleEvent_wellFormed wellFormed
    intro image isRestore
    exact distinct image (isRestore ▸ isPrefix.subset member)

/-- An image of two activities with one request identifier is accepted. -/
theorem scheduleRun_restore_duplicate :
    ¬ (scheduleRun {} [.restore [0, 2, 1, 0, 0, 0, 10, 0, 4, 0x19, 0x00, 0xC0, 0x01,
      0, 0, 0, 20, 0, 4, 0x19, 0x00, 0xC0, 0x01]]).WellFormed {} := by
  intro wellFormed
  have distinct := wellFormed.distinct
  revert distinct
  decide

/-! ### What a reached schedule restores -/

theorem scheduleImage_length (flag : UInt8) (activities : List ScheduleActivity) :
    (scheduleImage flag activities).length =
      3 + (activities.map fun activity => 6 + activity.tc.length).sum := by
  have body : (activities.flatMap scheduleActivityImage).length =
      (activities.map fun activity => 6 + activity.tc.length).sum := by
    rw [List.length_flatMap]
    congr 1
    apply List.map_congr_left
    intro activity _
    exact scheduleActivityImage_length activity
  rw [scheduleImage, List.length_append, List.length_append, put16_length,
    List.length_singleton, body]

/-- A save takes exactly the space of its records, restores the schedule it was
taken from, and an image that is not one restores nothing. -/
structure ScheduleCodecExact (cfg : Config) (saved : Schedule) : Prop where
  space : ∀ outCap, (∃ image, scheduleSerialize saved outCap = .ok image) ↔
    3 + (saved.activities.map fun activity => 6 + activity.tc.length).sum ≤ outCap
  restores : ∀ outCap image, scheduleSerialize saved outCap = .ok image → ∀ fresh,
    (scheduleDeserialize cfg fresh image).1 = .ok ∧
      (scheduleDeserialize cfg fresh image).2.activities = saved.activities ∧
      (scheduleDeserialize cfg fresh image).2.enabled = saved.enabled
  rejects : ∀ input fresh, (scheduleDeserialize cfg fresh input).1 ≠ .ok →
    (scheduleDeserialize cfg fresh input).2.activities = [] ∧
      (scheduleDeserialize cfg fresh input).2.enabled = false

theorem Schedule.Bounded.codecExact {cfg : Config} {saved : Schedule}
    (bounded : saved.Bounded cfg) (slots : cfg.scheduleCapacity < 65536)
    (octets : cfg.scheduleTcMax < 65536) : ScheduleCodecExact cfg saved where
  space outCap := by
    rw [scheduleSerialize_eq, ← scheduleImage_length (if saved.enabled then 1 else 0)]
    exact handedOut_iff
  restores outCap image written fresh := by
    rw [scheduleSerialize_eq] at written
    by_cases fits : (scheduleImage (if saved.enabled then 1 else 0) saved.activities).length ≤
        outCap
    · rw [if_pos fits] at written
      rw [← Except.ok.inj written, scheduleDeserialize_restores bounded slots octets fresh]
      exact ⟨rfl, rfl, rfl⟩
    · rw [if_neg fits] at written
      contradiction
  rejects input fresh rejected := by
    rw [scheduleDeserialize_failed rejected]
    exact ⟨rfl, rfl⟩

/-- Any run of mutators and restores; the count and the length field hold two
octets each. -/
theorem scheduleRun_codecExact {cfg : Config} (slots : cfg.scheduleCapacity < 65536)
    (octets : cfg.scheduleTcMax < 65536) (events : List ScheduleEvent) :
    ScheduleCodecExact cfg (scheduleRun cfg events) :=
  (scheduleRun_bounded cfg events).codecExact slots octets

/-- Two insertions, a deletion that moves the second one, and an enabled
schedule. -/
theorem scheduleRun_codecExact_moved :
    ScheduleCodecExact defaultConfig (scheduleRun defaultConfig
      [.call (.insert 10 [0x19, 0x00, 0xC0, 0x01, 7]), .call (.insert 20 [0x19, 0x00, 0xC0, 0x02]),
        .call (.delete [0x19, 0x00, 0xC0, 0x01]), .call (.setEnabled true)]) :=
  scheduleRun_codecExact (by decide) (by decide) _

end FswCore
