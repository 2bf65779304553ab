import FswCore.Schedule.Model
import Mathlib.Data.List.Nodup

/-!
Contract: what every schedule operation does, and the invariant it keeps.

Owns:
- one inversion lemma for each operation;
- `Schedule.WellFormed`: bounded count, bounded telecommands, distinct request
  identifiers;
- its preservation by every mutator.

Does not own: the restore path, which is in `FswCore.Schedule.Codec`.
-/

namespace FswCore

open Library

/-- The request identifier of a telecommand: its first four bytes. -/
def requestIdOf (tc : List UInt8) : List UInt8 :=
  (List.range scheduleRequestIdSize).map fun index => tc.getD index 0

theorem schedRequestIdEq_iff (left right : List UInt8) :
    schedRequestIdEq left right = true ↔ requestIdOf left = requestIdOf right := by
  simp [schedRequestIdEq, requestIdOf, List.all_eq_true]

def RequestIdsDistinct (activities : List ScheduleActivity) : Prop :=
  (activities.map fun activity => requestIdOf activity.tc).Nodup

instance (activities : List ScheduleActivity) : Decidable (RequestIdsDistinct activities) :=
  inferInstanceAs (Decidable (List.Nodup _))

theorem RequestIdsDistinct.perm {left right : List ScheduleActivity}
    (distinct : RequestIdsDistinct left) (permutation : left.Perm right) :
    RequestIdsDistinct right :=
  (permutation.map _).nodup_iff.mp distinct

/-- The bounds every stored activity keeps, however it came in. -/
structure Schedule.Bounded (cfg : Config) (sched : Schedule) : Prop where
  count_le : scheduleCount sched ≤ cfg.scheduleCapacity
  tc_bounds : ∀ activity ∈ sched.activities,
    scheduleRequestIdSize ≤ activity.tc.length ∧ activity.tc.length ≤ cfg.scheduleTcMax

structure Schedule.WellFormed (cfg : Config) (sched : Schedule) : Prop
    extends Schedule.Bounded cfg sched where
  distinct : RequestIdsDistinct sched.activities

/-! ### Lookup -/

theorem schedIndexOf_some {sched : Schedule} {requestId : List UInt8} {index : Nat}
    (found : schedIndexOf sched requestId = some index) :
    ∃ activity, sched.activities[index]? = some activity ∧
      requestIdOf activity.tc = requestIdOf requestId := by
  obtain ⟨below, same, _⟩ := List.findIdx?_eq_some_iff_getElem.mp found
  exact ⟨_, List.getElem?_eq_getElem below, (schedRequestIdEq_iff _ _).mp same⟩

theorem schedIndexOf_none {sched : Schedule} {requestId : List UInt8}
    (missing : schedIndexOf sched requestId = none) :
    ∀ activity ∈ sched.activities, requestIdOf activity.tc ≠ requestIdOf requestId := by
  intro activity member same
  have differs := List.findIdx?_eq_none_iff.mp missing activity member
  rw [(schedRequestIdEq_iff _ _).mpr same] at differs
  contradiction

theorem schedIndexOf_isSome_iff (sched : Schedule) (requestId : List UInt8) :
    (schedIndexOf sched requestId).isSome = true ↔
      ∃ activity ∈ sched.activities, requestIdOf activity.tc = requestIdOf requestId := by
  cases found : schedIndexOf sched requestId with
  | none =>
      have missing := schedIndexOf_none found
      simp only [Option.isSome_none, Bool.false_eq_true, false_iff]
      rintro ⟨activity, member, same⟩
      exact missing activity member same
  | some index =>
      obtain ⟨activity, stored, same⟩ := schedIndexOf_some found
      simp only [Option.isSome_some, true_iff]
      exact ⟨activity, List.mem_of_getElem? stored, same⟩

theorem scheduleFind_isSome (sched : Schedule) (requestId : List UInt8) :
    (scheduleFind sched requestId).isSome = (schedIndexOf sched requestId).isSome := by
  unfold scheduleFind
  cases found : schedIndexOf sched requestId with
  | none => rfl
  | some index =>
      obtain ⟨activity, stored, _⟩ := schedIndexOf_some found
      simp [stored]

/-! ### What each operation does -/

/-- The guards of an insert are all it needs to succeed. -/
theorem scheduleInsert_ok {cfg : Config} {sched : Schedule} {releaseTime : UInt32}
    {tc : List UInt8} (idPresent : scheduleRequestIdSize ≤ tc.length)
    (fits : tc.length ≤ cfg.scheduleTcMax)
    (fresh : ∀ activity ∈ sched.activities, requestIdOf activity.tc ≠ requestIdOf tc)
    (room : scheduleCount sched < cfg.scheduleCapacity) :
    scheduleInsert cfg sched releaseTime tc = (.ok, { sched with
      activities := sched.activities ++ [{ releaseTime := releaseTime, tc := tc }]
      generation := sched.generation + 1 }) := by
  have notDuplicate : ¬ (schedIndexOf sched tc).isSome = true := by
    intro duplicate
    obtain ⟨activity, member, same⟩ := (schedIndexOf_isSome_iff sched tc).mp duplicate
    exact fresh activity member same
  rw [scheduleInsert, if_neg (Nat.not_lt.mpr idPresent), if_neg (Nat.not_lt.mpr fits),
    if_neg notDuplicate, if_neg (Nat.not_le.mpr room)]

/-- A successful insert appends one activity that passed every check. -/
structure InsertOk (cfg : Config) (sched : Schedule) (releaseTime : UInt32)
    (tc : List UInt8) : Prop where
  idPresent : scheduleRequestIdSize ≤ tc.length
  fits : tc.length ≤ cfg.scheduleTcMax
  fresh : ∀ activity ∈ sched.activities, requestIdOf activity.tc ≠ requestIdOf tc
  room : scheduleCount sched < cfg.scheduleCapacity
  result : scheduleInsert cfg sched releaseTime tc = (.ok, { sched with
    activities := sched.activities ++ [{ releaseTime := releaseTime, tc := tc }]
    generation := sched.generation + 1 })

theorem scheduleInsert_cases (cfg : Config) (sched : Schedule) (releaseTime : UInt32)
    (tc : List UInt8) :
    ((scheduleInsert cfg sched releaseTime tc).1 ≠ .ok ∧
        (scheduleInsert cfg sched releaseTime tc).2 = sched) ∨
      InsertOk cfg sched releaseTime tc := by
  by_cases short : tc.length < scheduleRequestIdSize
  · left; simp [scheduleInsert, short]
  by_cases large : tc.length > cfg.scheduleTcMax
  · left; simp [scheduleInsert, short, large]
  by_cases duplicate : (schedIndexOf sched tc).isSome = true
  · left; simp [scheduleInsert, short, large, duplicate]
  by_cases full : scheduleCount sched ≥ cfg.scheduleCapacity
  · left; simp [scheduleInsert, short, large, duplicate, full]
  right
  have fresh : ∀ activity ∈ sched.activities, requestIdOf activity.tc ≠ requestIdOf tc := by
    intro activity member same
    exact duplicate ((schedIndexOf_isSome_iff sched tc).mpr ⟨activity, member, same⟩)
  have idPresent := Nat.le_of_not_lt short
  have fits := Nat.le_of_not_lt large
  have room := Nat.lt_of_not_le full
  exact ⟨idPresent, fits, fresh, room, scheduleInsert_ok idPresent fits fresh room⟩

theorem scheduleDelete_cases (sched : Schedule) (requestId : List UInt8) :
    ((scheduleDelete sched requestId).1 = .errNotFound ∧
        (scheduleDelete sched requestId).2 = sched ∧
        ∀ activity ∈ sched.activities, requestIdOf activity.tc ≠ requestIdOf requestId) ∨
      ∃ (index : Nat) (activity : ScheduleActivity),
        sched.activities[index]? = some activity ∧
        requestIdOf activity.tc = requestIdOf requestId ∧
        scheduleDelete sched requestId = (.ok, { sched with
          activities := swapRemove sched.activities index
          generation := sched.generation + 1 }) := by
  cases found : schedIndexOf sched requestId with
  | none =>
      left
      simp only [scheduleDelete, found, true_and]
      exact schedIndexOf_none found
  | some index =>
      right
      obtain ⟨activity, stored, same⟩ := schedIndexOf_some found
      exact ⟨index, activity, stored, same, by simp only [scheduleDelete, found]⟩

/-- The due activity a release removes: no due activity has an earlier release
time. -/
structure EarliestDue (sched : Schedule) (nowSeconds : UInt32) (index : Nat)
    (activity : ScheduleActivity) : Prop where
  stored : sched.activities[index]? = some activity
  due : activity.releaseTime ≤ nowSeconds
  earliest : ∀ other ∈ sched.activities, other.releaseTime ≤ nowSeconds →
    activity.releaseTime ≤ other.releaseTime

theorem scheduleBestDue_some {sched : Schedule} {nowSeconds : UInt32} {index : Nat}
    (found : scheduleBestDue sched nowSeconds = some index) :
    ∃ activity, EarliestDue sched nowSeconds index activity := by
  obtain ⟨activity, best⟩ := bestIndex_some found
  refine ⟨activity, best.found, ?_, ?_⟩
  · simpa using best.isEligible
  · intro other member due
    obtain ⟨position, bound, rfl⟩ := List.mem_iff_getElem.mp member
    exact best.least position _ (List.getElem?_eq_getElem bound) bound (by simpa using due)

theorem scheduleBestDue_none {sched : Schedule} {nowSeconds : UInt32}
    (nothing : scheduleBestDue sched nowSeconds = none) :
    ∀ activity ∈ sched.activities, nowSeconds < activity.releaseTime := by
  intro activity member
  simpa using bestIndex_none nothing activity member

/-- What a pop does: nothing is released, or the earliest due activity is. -/
inductive PopDueCase (sched : Schedule) (nowSeconds : UInt32) (outCap : Nat) : Prop where
  | disabled (off : sched.enabled = false)
      (result : schedulePopDue sched nowSeconds outCap = (.ok none, sched))
  | noneDue (on : sched.enabled = true)
      (later : ∀ activity ∈ sched.activities, nowSeconds < activity.releaseTime)
      (result : schedulePopDue sched nowSeconds outCap = (.ok none, sched))
  | tooSmall (index : Nat) (activity : ScheduleActivity)
      (best : EarliestDue sched nowSeconds index activity) (on : sched.enabled = true)
      (small : outCap < activity.tc.length)
      (result : schedulePopDue sched nowSeconds outCap = (.error .errBufTooSmall, sched))
  | released (index : Nat) (activity : ScheduleActivity)
      (best : EarliestDue sched nowSeconds index activity) (on : sched.enabled = true)
      (fits : activity.tc.length ≤ outCap)
      (result : schedulePopDue sched nowSeconds outCap = (.ok (some activity.tc), { sched with
        activities := swapRemove sched.activities index
        generation := sched.generation + 1 }))

theorem schedulePopDue_cases (sched : Schedule) (nowSeconds : UInt32) (outCap : Nat) :
    PopDueCase sched nowSeconds outCap := by
  cases on : sched.enabled with
  | false => exact .disabled on (by simp [schedulePopDue, on])
  | true =>
      cases found : scheduleBestDue sched nowSeconds with
      | none => exact .noneDue on (scheduleBestDue_none found) (by simp [schedulePopDue, on, found])
      | some index =>
          obtain ⟨activity, best⟩ := scheduleBestDue_some found
          by_cases small : outCap < activity.tc.length
          · refine .tooSmall index activity best on small ?_
            simp [schedulePopDue, on, found, best.stored, small]
          · refine .released index activity best on (Nat.le_of_not_lt small) ?_
            simp only [schedulePopDue, on, found, best.stored, small, if_false,
              Bool.true_eq_false]

/-! ### The invariant -/

theorem scheduleBounded_nil {cfg : Config} {sched : Schedule} (empty : sched.activities = []) :
    sched.Bounded cfg where
  count_le := by simp [scheduleCount, empty]
  tc_bounds := by simp [empty]

theorem scheduleInit_wellFormed (cfg : Config) : scheduleInit.WellFormed cfg where
  toBounded := scheduleBounded_nil rfl
  distinct := by simp [scheduleInit, RequestIdsDistinct]

theorem scheduleReset_wellFormed (cfg : Config) (sched : Schedule) :
    (scheduleReset sched).WellFormed cfg where
  toBounded := scheduleBounded_nil rfl
  distinct := by simp [scheduleReset, RequestIdsDistinct]

theorem scheduleSetEnabled_activities (sched : Schedule) (enabled : Bool) :
    (scheduleSetEnabled sched enabled).activities = sched.activities := by
  unfold scheduleSetEnabled
  split <;> rfl

namespace Schedule.Bounded

variable {cfg : Config} {sched : Schedule}

theorem of_activities (bounded : sched.Bounded cfg) {other : Schedule}
    (same : other.activities = sched.activities) : other.Bounded cfg where
  count_le := by rw [scheduleCount, same]; exact bounded.count_le
  tc_bounds := by rw [same]; exact bounded.tc_bounds

theorem insert (bounded : sched.Bounded cfg) (releaseTime : UInt32) (tc : List UInt8) :
    (scheduleInsert cfg sched releaseTime tc).2.Bounded cfg := by
  rcases scheduleInsert_cases cfg sched releaseTime tc with ⟨_, unchanged⟩ | inserted
  · rw [unchanged]; exact bounded
  · rw [inserted.result]
    refine ⟨?_, ?_⟩
    · have room := inserted.room
      simp only [scheduleCount, List.length_append, List.length_singleton] at room ⊢
      omega
    · intro activity member
      rcases List.mem_append.mp member with old | new
      · exact bounded.tc_bounds activity old
      · rw [List.mem_singleton.mp new]
        exact ⟨inserted.idPresent, inserted.fits⟩

theorem swapRemove (bounded : sched.Bounded cfg) {index : Nat}
    {activity : ScheduleActivity} (stored : sched.activities[index]? = some activity)
    (generation : UInt32) :
    ({ sched with
      activities := Library.swapRemove sched.activities index
      generation := generation } : Schedule).Bounded cfg where
  count_le := by
    have removed := swapRemove_length stored
    have bound := bounded.count_le
    simp only [scheduleCount] at bound ⊢
    omega
  tc_bounds other member := bounded.tc_bounds other (mem_of_mem_swapRemove stored member)

theorem delete (bounded : sched.Bounded cfg) (requestId : List UInt8) :
    (scheduleDelete sched requestId).2.Bounded cfg := by
  rcases scheduleDelete_cases sched requestId with
    ⟨_, unchanged, _⟩ | ⟨index, activity, stored, _, removed⟩
  · rw [unchanged]; exact bounded
  · rw [removed]; exact bounded.swapRemove stored _

theorem popDue (bounded : sched.Bounded cfg) (nowSeconds : UInt32) (outCap : Nat) :
    (schedulePopDue sched nowSeconds outCap).2.Bounded cfg := by
  cases schedulePopDue_cases sched nowSeconds outCap with
  | disabled _ result => rw [result]; exact bounded
  | noneDue _ _ result => rw [result]; exact bounded
  | tooSmall _ _ _ _ _ result => rw [result]; exact bounded
  | released index activity best _ _ result =>
      rw [result]
      exact bounded.swapRemove best.stored _

end Schedule.Bounded

namespace Schedule.WellFormed

variable {cfg : Config} {sched : Schedule}

/-- The invariant reads the activities only. -/
theorem of_activities (wellFormed : sched.WellFormed cfg) {other : Schedule}
    (same : other.activities = sched.activities) : other.WellFormed cfg where
  toBounded := wellFormed.toBounded.of_activities same
  distinct := by rw [same]; exact wellFormed.distinct

theorem setEnabled (wellFormed : sched.WellFormed cfg) (enabled : Bool) :
    (scheduleSetEnabled sched enabled).WellFormed cfg :=
  wellFormed.of_activities (scheduleSetEnabled_activities sched enabled)

theorem insert (wellFormed : sched.WellFormed cfg) (releaseTime : UInt32) (tc : List UInt8) :
    (scheduleInsert cfg sched releaseTime tc).2.WellFormed cfg where
  toBounded := wellFormed.toBounded.insert releaseTime tc
  distinct := by
    rcases scheduleInsert_cases cfg sched releaseTime tc with ⟨_, unchanged⟩ | inserted
    · rw [unchanged]; exact wellFormed.distinct
    · rw [inserted.result]
      simp only [RequestIdsDistinct, List.map_append, List.map_cons, List.map_nil]
      apply List.Nodup.append wellFormed.distinct (List.nodup_singleton _)
      simp only [List.disjoint_singleton, List.mem_map, not_exists, not_and]
      exact inserted.fresh

theorem swapRemove (wellFormed : sched.WellFormed cfg) {index : Nat}
    {activity : ScheduleActivity} (stored : sched.activities[index]? = some activity)
    (generation : UInt32) :
    ({ sched with
      activities := Library.swapRemove sched.activities index
      generation := generation } : Schedule).WellFormed cfg where
  toBounded := wellFormed.toBounded.swapRemove stored generation
  distinct := by
    have distinct := wellFormed.distinct.perm (perm_cons_swapRemove stored)
    exact (List.nodup_cons.mp distinct).2

theorem delete (wellFormed : sched.WellFormed cfg) (requestId : List UInt8) :
    (scheduleDelete sched requestId).2.WellFormed cfg := by
  rcases scheduleDelete_cases sched requestId with
    ⟨_, unchanged, _⟩ | ⟨index, activity, stored, _, removed⟩
  · rw [unchanged]; exact wellFormed
  · rw [removed]; exact wellFormed.swapRemove stored _

theorem popDue (wellFormed : sched.WellFormed cfg) (nowSeconds : UInt32) (outCap : Nat) :
    (schedulePopDue sched nowSeconds outCap).2.WellFormed cfg := by
  cases schedulePopDue_cases sched nowSeconds outCap with
  | disabled _ result => rw [result]; exact wellFormed
  | noneDue _ _ result => rw [result]; exact wellFormed
  | tooSmall _ _ _ _ _ result => rw [result]; exact wellFormed
  | released index activity best _ _ result =>
      rw [result]
      exact wellFormed.swapRemove best.stored _

end Schedule.WellFormed

end FswCore
