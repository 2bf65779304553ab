import FswCore.Schedule.Invariant

/-!
Contract: the persisted image of a schedule.

Owns:
- `scheduleImage`, the byte layout: count, enable flag, then each activity;
- serialisation writes exactly that image or reports a short buffer;
- the space the image of a bounded schedule takes;
- deserialisation accepts exactly the strings that start with an image of
  bounded activities, and restores those activities.

Does not own: the uniqueness of request identifiers. An image may repeat one and
is accepted all the same; `FswCore.Schedule.Uniqueness` says what follows.
-/

namespace FswCore

open Library Library.BigEndian

/-- The layout a serialised schedule has, for any flag byte. -/
def scheduleImage (flag : UInt8) (activities : List ScheduleActivity) : List UInt8 :=
  put16 (UInt16.ofNat activities.length) ++ [flag] ++ activities.flatMap scheduleActivityImage

@[simp] theorem scheduleActivityImage_length (activity : ScheduleActivity) :
    (scheduleActivityImage activity).length = 6 + activity.tc.length := by
  simp [scheduleActivityImage]
  omega

/-! ### Serialisation -/

theorem scheduleSerializeLoop_eq (outCap : Nat) (activities : List ScheduleActivity)
    (out : List UInt8) (within : out.length ≤ outCap) :
    scheduleSerializeLoop outCap activities out =
      if (out ++ activities.flatMap scheduleActivityImage).length ≤ outCap then
        .ok (out ++ activities.flatMap scheduleActivityImage)
      else .error .errBufTooSmall := by
  induction activities generalizing out with
  | nil => simp [scheduleSerializeLoop, within]
  | cons activity rest inductionHypothesis =>
      simp only [scheduleSerializeLoop, List.flatMap_cons]
      by_cases short : outCap - out.length < 4 + 2 + activity.tc.length
      · rw [if_pos short, if_neg (by
          simp only [List.length_append, scheduleActivityImage_length]
          omega)]
      · rw [if_neg short, inductionHypothesis _ (by simp; omega), List.append_assoc]

/-- Serialisation writes the image, or reports that it does not fit. -/
theorem scheduleSerialize_eq (sched : Schedule) (outCap : Nat) :
    scheduleSerialize sched outCap =
      if (scheduleImage (if sched.enabled then 1 else 0) sched.activities).length ≤ outCap then
        .ok (scheduleImage (if sched.enabled then 1 else 0) sched.activities)
      else .error .errBufTooSmall := by
  unfold scheduleSerialize
  by_cases short : outCap < 3
  · rw [if_pos short, if_neg (by simp [scheduleImage]; omega)]
  · rw [if_neg short, scheduleSerializeLoop_eq _ _ _ (by simp; omega)]
    rfl

theorem scheduleImage_length_le {cfg : Config} {sched : Schedule} (bounded : sched.Bounded cfg)
    (flag : UInt8) :
    (scheduleImage flag sched.activities).length ≤
      3 + (6 + cfg.scheduleTcMax) * sched.activities.length := by
  have body : (sched.activities.flatMap scheduleActivityImage).length ≤
      (6 + cfg.scheduleTcMax) * sched.activities.length := by
    apply length_flatMap_le
    intro activity member
    rw [scheduleActivityImage_length]
    exact Nat.add_le_add_left (bounded.tc_bounds activity member).2 6
  simp only [scheduleImage, List.length_append, put16_length, List.length_singleton]
  omega

/-! ### Deserialisation -/

/-- What the decoder requires of one activity; the last bound is the width of
its length field. -/
structure ActivityBounded (cfg : Config) (activity : ScheduleActivity) : Prop where
  idPresent : scheduleRequestIdSize ≤ activity.tc.length
  fits : activity.tc.length ≤ cfg.scheduleTcMax
  encodable : activity.tc.length < 65536

/-- What a successful decode of `remaining` activities at `off` found there. -/
theorem scheduleDeserializeLoop_sound (cfg : Config) (input : List UInt8) :
    ∀ (remaining off : Nat) (restored result : List ScheduleActivity), off ≤ input.length →
      scheduleDeserializeLoop cfg input remaining off restored = .ok result →
      ∃ (activities : List ScheduleActivity) (tail : List UInt8),
        result = restored ++ activities ∧ activities.length = remaining ∧
        (∀ activity ∈ activities, ActivityBounded cfg activity) ∧
        input.drop off = activities.flatMap scheduleActivityImage ++ tail := by
  intro remaining
  induction remaining with
  | zero =>
      intro off restored result _ decoded
      simp only [scheduleDeserializeLoop, Except.ok.injEq] at decoded
      exact ⟨[], input.drop off, by simp [decoded], rfl, by simp, by simp⟩
  | succ remaining inductionHypothesis =>
      intro off restored result _ decoded
      simp only [scheduleDeserializeLoop] at decoded
      split at decoded
      · contradiction
      rename_i header
      split at decoded
      · contradiction
      rename_i bounded
      split at decoded
      · contradiction
      rename_i body
      rw [Nat.not_lt] at header body
      obtain ⟨activities, tail, result_eq, count, bounds, found⟩ :=
        inductionHypothesis _ _ _ (by omega) decoded
      have tcLength := window_length input body
      refine ⟨_ :: activities, tail, by rw [result_eq, List.append_assoc]; rfl,
        by rw [List.length_cons, count], ?_, ?_⟩
      · intro activity member
        rcases List.mem_cons.mp member with rfl | old
        · have encodable := (be16At input (off + 4)).toNat_lt
          constructor <;> rw [tcLength] <;> omega
        · exact bounds activity old
      · have tcThenRest := window_append_drop input (off + 6) (be16At input (off + 4)).toNat
        rw [List.flatMap_cons, List.append_assoc, ← found, drop_eq_put32 input off (by omega),
          drop_eq_put16 input (off + 4) (by omega)]
        simp only [scheduleActivityImage, tcLength, UInt16.ofNat_toNat, List.append_assoc,
          tcThenRest]

/-- The loop never fails with the success code. -/
theorem scheduleDeserializeLoop_ne_ok (cfg : Config) (input : List UInt8) :
    ∀ (remaining off : Nat) (restored : List ScheduleActivity),
      scheduleDeserializeLoop cfg input remaining off restored ≠ .error .ok := by
  intro remaining
  induction remaining with
  | zero => simp [scheduleDeserializeLoop]
  | succ remaining inductionHypothesis =>
      intro off restored
      simp only [scheduleDeserializeLoop]
      split
      · simp
      split
      · simp
      split
      · simp
      exact inductionHypothesis _ _

/-- The activities standing at `off` are decoded. -/
theorem scheduleDeserializeLoop_complete (cfg : Config) (activities : List ScheduleActivity) :
    ∀ (before tail : List UInt8) (restored : List ScheduleActivity),
      (∀ activity ∈ activities, ActivityBounded cfg activity) →
      scheduleDeserializeLoop cfg
          (before ++ activities.flatMap scheduleActivityImage ++ tail) activities.length
          before.length restored = .ok (restored ++ activities) := by
  induction activities with
  | nil => intro before tail restored _; simp [scheduleDeserializeLoop]
  | cons activity rest inductionHypothesis =>
      intro before tail restored bounded
      have head := bounded activity (by simp)
      have reassociated : before ++ (activity :: rest).flatMap scheduleActivityImage ++ tail =
          (before ++ scheduleActivityImage activity) ++ rest.flatMap scheduleActivityImage ++
            tail := by simp
      have releaseTime : be32At (before ++ (activity :: rest).flatMap scheduleActivityImage ++ tail)
          before.length = activity.releaseTime := by
        have read := be32At_append before (put16 (UInt16.ofNat activity.tc.length) ++
          activity.tc ++ rest.flatMap scheduleActivityImage ++ tail) activity.releaseTime
        simpa [scheduleActivityImage] using read
      have tcLen : (be16At (before ++ (activity :: rest).flatMap scheduleActivityImage ++ tail)
          (before.length + 4)).toNat = activity.tc.length := by
        have read := be16At_append (before ++ put32 activity.releaseTime)
          (activity.tc ++ rest.flatMap scheduleActivityImage ++ tail)
          (UInt16.ofNat activity.tc.length)
        simp only [List.length_append, put32_length] at read
        rw [show before ++ (activity :: rest).flatMap scheduleActivityImage ++ tail =
            before ++ put32 activity.releaseTime ++ put16 (UInt16.ofNat activity.tc.length) ++
              (activity.tc ++ rest.flatMap scheduleActivityImage ++ tail) by
          simp [scheduleActivityImage], read, UInt16.toNat_ofNat']
        exact Nat.mod_eq_of_lt head.encodable
      have tc : window (before ++ (activity :: rest).flatMap scheduleActivityImage ++ tail)
          (before.length + 6) activity.tc.length = activity.tc := by
        have read := window_append (before ++ put32 activity.releaseTime ++
          put16 (UInt16.ofNat activity.tc.length)) activity.tc
          (rest.flatMap scheduleActivityImage ++ tail)
        simpa [scheduleActivityImage] using read
      have room : before.length + 6 + activity.tc.length ≤
          (before ++ (activity :: rest).flatMap scheduleActivityImage ++ tail).length := by
        simp
        omega
      have idPresent := head.idPresent
      have fits := head.fits
      simp only [List.length_cons, scheduleDeserializeLoop]
      rw [tcLen, if_neg (by omega), if_neg (by omega), if_neg (by omega), releaseTime, tc]
      have next := inductionHypothesis (before ++ scheduleActivityImage activity) tail
        (restored ++ [activity]) fun other member => bounded other (List.mem_cons_of_mem _ member)
      rw [reassociated]
      simp only [List.length_append, scheduleActivityImage_length, ← Nat.add_assoc] at next
      rw [next, List.append_assoc]
      rfl

/-- `input` starts with the image of `activities`, all of which the decoder has
room for. -/
structure StartsWithImage (cfg : Config) (input : List UInt8) (flag : UInt8)
    (activities : List ScheduleActivity) : Prop where
  layout : ∃ tail, input = scheduleImage flag activities ++ tail
  count_le : activities.length ≤ cfg.scheduleCapacity
  encodable : activities.length < 65536
  bounded : ∀ activity ∈ activities, ActivityBounded cfg activity

theorem scheduleDeserialize_complete {cfg : Config} {input : List UInt8} {flag : UInt8}
    {activities : List ScheduleActivity} (sched : Schedule)
    (image : StartsWithImage cfg input flag activities) :
    scheduleDeserialize cfg sched input =
      (.ok, { sched with activities := activities, enabled := flag != 0 }) := by
  obtain ⟨tail, rfl⟩ := image.layout
  have count : (be16At (scheduleImage flag activities ++ tail) 0).toNat = activities.length := by
    have read := be16At_append [] ([flag] ++ activities.flatMap scheduleActivityImage ++ tail)
      (UInt16.ofNat activities.length)
    rw [show scheduleImage flag activities ++ tail =
        [] ++ put16 (UInt16.ofNat activities.length) ++
          ([flag] ++ activities.flatMap scheduleActivityImage ++ tail) by simp [scheduleImage]]
    rw [List.length_nil] at read
    rw [read, UInt16.toNat_ofNat']
    exact Nat.mod_eq_of_lt image.encodable
  have flagByte : (scheduleImage flag activities ++ tail).getD 2 0 = flag := rfl
  have decoded := scheduleDeserializeLoop_complete cfg activities
    (put16 (UInt16.ofNat activities.length) ++ [flag]) tail [] image.bounded
  rw [scheduleDeserialize, if_neg (by simp [scheduleImage]; omega)]
  simp only [count, flagByte]
  rw [if_neg (Nat.not_lt.mpr image.count_le)]
  simp only [List.length_append, put16_length, List.length_singleton, List.nil_append] at decoded
  rw [scheduleImage, decoded]

/-- A bounded schedule's own image restores its activities and its flag. -/
theorem scheduleDeserialize_restores {cfg : Config} {saved : Schedule}
    (bounded : saved.Bounded cfg) (slots : cfg.scheduleCapacity < 65536)
    (octets : cfg.scheduleTcMax < 65536) (fresh : Schedule) :
    scheduleDeserialize cfg fresh
        (scheduleImage (if saved.enabled then 1 else 0) saved.activities) =
      (.ok, { fresh with activities := saved.activities, enabled := saved.enabled }) := by
  have image : StartsWithImage cfg
      (scheduleImage (if saved.enabled then 1 else 0) saved.activities)
      (if saved.enabled then 1 else 0) saved.activities := by
    refine ⟨⟨[], (List.append_nil _).symm⟩, bounded.count_le,
      Nat.lt_of_le_of_lt bounded.count_le slots, fun activity member => ?_⟩
    obtain ⟨idPresent, fits⟩ := bounded.tc_bounds activity member
    exact ⟨idPresent, fits, Nat.lt_of_le_of_lt fits octets⟩
  have flag : ((if saved.enabled then (1 : UInt8) else 0) != 0) = saved.enabled := by
    cases saved.enabled <;> rfl
  rw [scheduleDeserialize_complete fresh image, flag]

/-- A decode that reports success restored an image that stands in the input. -/
theorem scheduleDeserialize_sound {cfg : Config} {sched : Schedule} {input : List UInt8}
    (accepted : (scheduleDeserialize cfg sched input).1 = .ok) :
    ∃ flag activities, StartsWithImage cfg input flag activities ∧
      scheduleDeserialize cfg sched input =
        (.ok, { sched with activities := activities, enabled := flag != 0 }) := by
  unfold scheduleDeserialize at accepted
  by_cases short : input.length < 3
  · simp [short] at accepted
  simp only [short, if_false] at accepted
  by_cases tooMany : (be16At input 0).toNat > cfg.scheduleCapacity
  · simp [tooMany] at accepted
  simp only [tooMany, if_false] at accepted
  cases decoded : scheduleDeserializeLoop cfg input (be16At input 0).toNat 3 [] with
  | error status =>
      simp only [decoded] at accepted
      subst accepted
      exact absurd decoded (scheduleDeserializeLoop_ne_ok cfg input _ _ _)
  | ok restored =>
      obtain ⟨activities, tail, result_eq, length, bounded, found⟩ :=
        scheduleDeserializeLoop_sound cfg input _ 3 [] restored (by omega) decoded
      have image : StartsWithImage cfg input (input.getD 2 0) activities := by
        refine ⟨⟨tail, ?_⟩, by omega, by have := (be16At input 0).toNat_lt; omega, bounded⟩
        have start := drop_eq_put16 input 0 (by omega)
        have flag : input.drop 2 = input.getD 2 0 :: input.drop 3 := by
          rw [List.drop_eq_getElem_cons (by omega), List.getD_eq_getElem?_getD,
            List.getElem?_eq_getElem (by omega), Option.getD_some]
        rw [List.drop_zero, Nat.zero_add, flag, found] at start
        rw [scheduleImage, length, UInt16.ofNat_toNat, List.append_assoc, List.append_assoc]
        exact start
      exact ⟨_, activities, image, scheduleDeserialize_complete sched image⟩

/-- A decode that reports an error leaves the schedule empty and disabled. -/
theorem scheduleDeserialize_failed {cfg : Config} {sched : Schedule} {input : List UInt8}
    (rejected : (scheduleDeserialize cfg sched input).1 ≠ .ok) :
    (scheduleDeserialize cfg sched input).2 =
      { sched with activities := [], enabled := false } := by
  unfold scheduleDeserialize at rejected ⊢
  split
  · rfl
  rename_i long
  simp only [long, if_false] at rejected ⊢
  split
  · rfl
  rename_i inCapacity
  simp only [inCapacity, if_false] at rejected
  split
  · rfl
  · rename_i restored decoded
    simp only [decoded] at rejected
    contradiction

theorem scheduleDeserialize_generation (cfg : Config) (sched : Schedule) (input : List UInt8) :
    (scheduleDeserialize cfg sched input).2.generation = sched.generation := by
  by_cases accepted : (scheduleDeserialize cfg sched input).1 = .ok
  · obtain ⟨_, _, _, result⟩ := scheduleDeserialize_sound accepted
    rw [result]
  · rw [scheduleDeserialize_failed accepted]

end FswCore
