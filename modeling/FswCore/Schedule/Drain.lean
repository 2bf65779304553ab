import FswCore.Schedule.Ledger

/-!
Contract: the order in which due activities are released.

Owns:
- `schedulePops`, repeated pops at one time;
- `Drains`: they hand out the due activities, each once, earliest first, then
  report that none is due;
- the conservation law of the whole schedule, over every run.
-/

namespace FswCore

open Library

open scoped List

/-- Pops at one time, one for each output capacity, and the schedule left. -/
def schedulePops (nowSeconds : UInt32) :
    Schedule → List Nat → List (Except ScheduleStatus (Option (List UInt8))) × Schedule
  | sched, [] => ([], sched)
  | sched, outCap :: rest =>
      let (result, after) := schedulePopDue sched nowSeconds outCap
      let (results, final) := schedulePops nowSeconds after rest
      (result :: results, final)

def isDue (nowSeconds : UInt32) (activity : ScheduleActivity) : Bool :=
  decide (activity.releaseTime ≤ nowSeconds)

/-- However many pops are made, with capacities that hold any stored telecommand,
they hand out `released` from its front and then nothing. -/
structure DrainsAs (sched : Schedule) (nowSeconds : UInt32) (released : List ScheduleActivity) :
    Prop where
  dueOnce : released ~ sched.activities.filter (isDue nowSeconds)
  ordered : released.Pairwise fun earlier later => earlier.releaseTime ≤ later.releaseTime
  results : ∀ caps : List Nat,
    (∀ outCap ∈ caps, ∀ activity ∈ sched.activities, activity.tc.length ≤ outCap) →
    (schedulePops nowSeconds sched caps).1 =
      (released.take caps.length).map (fun activity => .ok (some activity.tc)) ++
        List.replicate (caps.length - released.length) (.ok none)
  remaining : ∀ caps : List Nat,
    (∀ outCap ∈ caps, ∀ activity ∈ sched.activities, activity.tc.length ≤ outCap) →
    (schedulePops nowSeconds sched caps).2.activities ~
      released.drop caps.length ++ sched.activities.filter fun activity =>
        !isDue nowSeconds activity

theorem schedulePops_noneDue {sched : Schedule} {nowSeconds : UInt32}
    (nothing : scheduleBestDue sched nowSeconds = none) (caps : List Nat) :
    schedulePops nowSeconds sched caps = (List.replicate caps.length (.ok none), sched) := by
  induction caps with
  | nil => rfl
  | cons outCap rest inductionHypothesis =>
      have result : schedulePopDue sched nowSeconds outCap = (.ok none, sched) := by
        simp [schedulePopDue, nothing]
      simp only [schedulePops, result, inductionHypothesis, List.length_cons,
        List.replicate_succ]

theorem drainsAs_nil {sched : Schedule} {nowSeconds : UInt32}
    (nothing : scheduleBestDue sched nowSeconds = none) : DrainsAs sched nowSeconds [] := by
  have later := scheduleBestDue_none nothing
  have noneDue : sched.activities.filter (isDue nowSeconds) = [] := by
    simpa [List.filter_eq_nil_iff, isDue] using later
  have allLater : sched.activities.filter (fun activity => !isDue nowSeconds activity) =
      sched.activities := by
    simpa [List.filter_eq_self, isDue] using later
  refine ⟨by rw [noneDue], .nil, fun caps _ => ?_, fun caps _ => ?_⟩
  · simp [schedulePops_noneDue nothing]
  · simp [schedulePops_noneDue nothing, allLater]

theorem drainsAs_cons {sched : Schedule} {nowSeconds : UInt32} {index : Nat}
    (on : sched.enabled = true) (found : scheduleBestDue sched nowSeconds = some index)
    {activity : ScheduleActivity} (best : EarliestDue sched nowSeconds index activity)
    {released : List ScheduleActivity}
    (drains : DrainsAs { sched with
      activities := swapRemove sched.activities index
      generation := sched.generation + 1 } nowSeconds released) :
    DrainsAs sched nowSeconds (activity :: released) := by
  have removed := perm_cons_swapRemove best.stored
  have due : isDue nowSeconds activity = true := by simpa [isDue] using best.due
  have releasedMember {other : ScheduleActivity} (member : other ∈ released) :
      other ∈ sched.activities ∧ other.releaseTime ≤ nowSeconds := by
    have inFilter := List.mem_filter.mp (drains.dueOnce.mem_iff.mp member)
    exact ⟨mem_of_mem_swapRemove best.stored inFilter.1, by simpa [isDue] using inFilter.2⟩
  have dueSplit : sched.activities.filter (isDue nowSeconds) ~
      activity :: (swapRemove sched.activities index).filter (isDue nowSeconds) := by
    simpa [due] using removed.filter (isDue nowSeconds)
  have laterSplit : sched.activities.filter (fun other => !isDue nowSeconds other) ~
      (swapRemove sched.activities index).filter fun other => !isDue nowSeconds other := by
    simpa [due] using removed.filter fun other => !isDue nowSeconds other
  have pop {outCap : Nat} (fits : activity.tc.length ≤ outCap) :
      schedulePopDue sched nowSeconds outCap = (.ok (some activity.tc), { sched with
        activities := swapRemove sched.activities index
        generation := sched.generation + 1 }) := by
    simp [schedulePopDue, on, found, best.stored, Nat.not_lt.mpr fits]
  refine ⟨(drains.dueOnce.cons activity).trans dueSplit.symm, ?_, ?_, ?_⟩
  · refine List.pairwise_cons.mpr ⟨fun other member => ?_, drains.ordered⟩
    exact best.earliest other (releasedMember member).1 (releasedMember member).2
  · intro caps sufficient
    cases caps with
    | nil => simp [schedulePops]
    | cons outCap rest =>
        have fits := sufficient outCap (by simp) activity (List.mem_of_getElem? best.stored)
        have next := drains.results rest fun cap member other stored =>
          sufficient cap (List.mem_cons_of_mem _ member) other
            (mem_of_mem_swapRemove best.stored stored)
        simp only [schedulePops, pop fits, next, List.length_cons, List.take_succ_cons,
          List.map_cons, List.cons_append, Nat.add_sub_add_right]
  · intro caps sufficient
    cases caps with
    | nil =>
        have none := drains.remaining [] (by simp)
        simp only [schedulePops, List.length_nil, List.drop_zero] at none ⊢
        exact removed.trans ((none.trans (laterSplit.symm.append_left _)).cons activity)
    | cons outCap rest =>
        have fits := sufficient outCap (by simp) activity (List.mem_of_getElem? best.stored)
        have next := drains.remaining rest fun cap member other stored =>
          sufficient cap (List.mem_cons_of_mem _ member) other
            (mem_of_mem_swapRemove best.stored stored)
        simp only [schedulePops, pop fits, List.length_cons, List.drop_succ_cons]
        exact next.trans (laterSplit.symm.append_left _)

/-- Every enabled schedule drains: by induction on the number of activities, one
release at a time. -/
theorem schedule_drains (nowSeconds : UInt32) (sched : Schedule) (on : sched.enabled = true) :
    ∃ released, DrainsAs sched nowSeconds released := by
  induction size : sched.activities.length generalizing sched with
  | zero =>
      refine ⟨[], drainsAs_nil ?_⟩
      simp [scheduleBestDue, bestIndex, size]
  | succ count inductionHypothesis =>
      cases found : scheduleBestDue sched nowSeconds with
      | none => exact ⟨[], drainsAs_nil found⟩
      | some index =>
          obtain ⟨activity, best⟩ := scheduleBestDue_some found
          have shorter := swapRemove_length best.stored
          obtain ⟨released, drains⟩ := inductionHypothesis { sched with
            activities := swapRemove sched.activities index
            generation := sched.generation + 1 } on (by simp only; omega)
          exact ⟨activity :: released, drainsAs_cons on found best drains⟩

/-- A pop removes nothing unless it hands out a telecommand that fits. -/
theorem schedulePopDue_fits_or_unchanged (sched : Schedule) (nowSeconds : UInt32)
    (outCap : Nat) :
    (∃ tc, (schedulePopDue sched nowSeconds outCap).1 = .ok (some tc) ∧ tc.length ≤ outCap) ∨
      (schedulePopDue sched nowSeconds outCap).2 = sched := by
  cases schedulePopDue_cases sched nowSeconds outCap with
  | disabled _ result => right; rw [result]
  | noneDue _ _ result => right; rw [result]
  | tooSmall _ _ _ _ _ result => right; rw [result]
  | released _ activity _ _ fits result => exact .inl ⟨activity.tc, by rw [result], fits⟩

/-- Release conservation. After any run the ledger accounts for every accepted
insert, every later state extends it, a pop into too small a buffer removes
nothing, and an enabled schedule drains in release order. -/
theorem scheduleRelease_conserved (cfg : Config) (ops : List ScheduleOp) :
    (historyRun cfg ops).ledger.Accounts (historyRun cfg ops).sched (historyRun cfg ops).trace ∧
    (∀ later, (historyRun cfg ops).ledger.Extends (historyRun cfg (ops ++ later)).ledger) ∧
    (∀ nowSeconds outCap,
      (∃ tc, (schedulePopDue (historyRun cfg ops).sched nowSeconds outCap).1 = .ok (some tc) ∧
        tc.length ≤ outCap) ∨
      (schedulePopDue (historyRun cfg ops).sched nowSeconds outCap).2 =
        (historyRun cfg ops).sched) ∧
    ∀ nowSeconds, (historyRun cfg ops).sched.enabled = true →
      ∃ released, DrainsAs (historyRun cfg ops).sched nowSeconds released :=
  ⟨(historyRun_conserves cfg ops).accounts, historyRun_extends cfg ops,
    schedulePopDue_fits_or_unchanged _, fun nowSeconds on => schedule_drains nowSeconds _ on⟩

end FswCore
