import FswCore.Schedule.Uniqueness

/-!
Contract: what becomes of every accepted activity.

Owns:
- `Ledger`, one entry for each accepted insert with the fate observed for it; it
  is kept from the calls and their replies alone and never looks into the store;
- `LedgerState.Conserves`: the store holds exactly the entries not yet settled;
- that one call settles at most the entry it names, and a settled entry stays so.

Does not own: the order of releases, which is in `FswCore.Schedule.Drain`.
-/

namespace FswCore

open Library

open scoped List

/-- What has become of an accepted activity. -/
inductive Fate where
  | stored
  | deleted (requestId : List UInt8)
  | cleared
  | released (nowSeconds : UInt32) (delivered : List UInt8) (whileEnabled : Bool)
deriving DecidableEq, Repr

structure LedgerEntry where
  activity : ScheduleActivity
  fate : Fate
deriving DecidableEq, Repr

structure Ledger where
  entries : List LedgerEntry
  enabled : Bool
deriving DecidableEq, Repr

/-- Record `fate` if the entry is still stored under `requestId`. -/
def LedgerEntry.settle (requestId : List UInt8) (fate : Fate) (entry : LedgerEntry) :
    LedgerEntry :=
  if entry.fate = .stored ∧ requestIdOf entry.activity.tc = requestIdOf requestId then
    { entry with fate := fate }
  else entry

def LedgerEntry.clear (entry : LedgerEntry) : LedgerEntry :=
  if entry.fate = .stored then { entry with fate := .cleared } else entry

/-- The ledger after a call and its reply. -/
def Ledger.record (ledger : Ledger) : ScheduleOp → ScheduleReply → Ledger
  | .insert releaseTime tc, .status .ok =>
      { ledger with entries := ledger.entries ++ [⟨⟨releaseTime, tc⟩, .stored⟩] }
  | .delete requestId, .status .ok =>
      { ledger with entries := ledger.entries.map (.settle requestId (.deleted requestId)) }
  | .reset, _ => { ledger with entries := ledger.entries.map .clear }
  | .setEnabled enabled, _ => { ledger with enabled := enabled }
  | .popDue nowSeconds _, .popped (.ok (some tc)) =>
      { ledger with
        entries := ledger.entries.map (.settle tc (.released nowSeconds tc ledger.enabled)) }
  | _, _ => ledger

/-- The calls of a run, each with its reply. -/
abbrev ScheduleTrace := List (ScheduleOp × ScheduleReply)

def ledgerOf (trace : ScheduleTrace) : Ledger :=
  trace.foldl (fun ledger call => ledger.record call.1 call.2) { entries := [], enabled := false }

@[simp] theorem ledgerOf_concat (trace : ScheduleTrace) (op : ScheduleOp) (reply : ScheduleReply) :
    ledgerOf (trace ++ [(op, reply)]) = (ledgerOf trace).record op reply := by
  simp [ledgerOf]

def acceptedInsert : ScheduleOp × ScheduleReply → Option ScheduleActivity
  | (.insert releaseTime tc, .status .ok) => some ⟨releaseTime, tc⟩
  | _ => none

def successfulDelete : ScheduleOp × ScheduleReply → Option (List UInt8)
  | (.delete requestId, .status .ok) => some requestId
  | _ => none

def delivery : ScheduleOp × ScheduleReply → Option (UInt32 × List UInt8)
  | (.popDue nowSeconds _, .popped (.ok (some tc))) => some (nowSeconds, tc)
  | _ => none

structure ScheduleHistory where
  sched : Schedule
  trace : ScheduleTrace

def ScheduleHistory.ledger (history : ScheduleHistory) : Ledger := ledgerOf history.trace

def historyStep (cfg : Config) (history : ScheduleHistory) (op : ScheduleOp) : ScheduleHistory :=
  let (reply, after) := scheduleApply cfg history.sched op
  { sched := after, trace := history.trace ++ [(op, reply)] }

/-- The schedule after a run of calls from initialisation, with their trace. -/
def historyRun (cfg : Config) (ops : List ScheduleOp) : ScheduleHistory :=
  ops.foldl (historyStep cfg) { sched := scheduleInit, trace := [] }

def storedActivities (entries : List LedgerEntry) : List ScheduleActivity :=
  (entries.filter fun entry => entry.fate = .stored).map (·.activity)

@[simp] theorem storedActivities_append (left right : List LedgerEntry) :
    storedActivities (left ++ right) = storedActivities left ++ storedActivities right := by
  simp [storedActivities]

@[simp] theorem storedActivities_cons_stored (activity : ScheduleActivity)
    (rest : List LedgerEntry) :
    storedActivities (⟨activity, .stored⟩ :: rest) = activity :: storedActivities rest := by
  simp [storedActivities]

theorem storedActivities_cons_settled {entry : LedgerEntry} (settled : entry.fate ≠ .stored)
    (rest : List LedgerEntry) : storedActivities (entry :: rest) = storedActivities rest := by
  simp [storedActivities, settled]

theorem mem_storedActivities {entries : List LedgerEntry} {activity : ScheduleActivity} :
    activity ∈ storedActivities entries ↔ ⟨activity, .stored⟩ ∈ entries := by
  simp only [storedActivities, List.mem_map, List.mem_filter, decide_eq_true_eq]
  constructor
  · rintro ⟨⟨_, _⟩, ⟨member, rfl⟩, rfl⟩
    exact member
  · intro member
    exact ⟨_, ⟨member, rfl⟩, rfl⟩

/-! ### One entry is settled -/

/-- Exactly one stored entry gets a fate and all others keep theirs. -/
def SettlesOne (before after : List LedgerEntry) (activity : ScheduleActivity)
    (fate : Fate) : Prop :=
  ∃ front back, before = front ++ ⟨activity, .stored⟩ :: back ∧
    after = front ++ ⟨activity, fate⟩ :: back

theorem map_settle_eq_self {entries : List LedgerEntry} {requestId : List UInt8} (fate : Fate)
    (other : ∀ activity ∈ storedActivities entries,
      requestIdOf activity.tc ≠ requestIdOf requestId) :
    entries.map (.settle requestId fate) = entries := by
  refine (List.map_congr_left ?_).trans (List.map_id entries)
  rintro ⟨activity, current⟩ member
  apply if_neg
  rintro ⟨rfl, same⟩
  exact other activity (mem_storedActivities.mpr member) same

/-- Settling by request identifier settles one entry: the identifiers of the
stored ones are distinct. -/
theorem map_settle_settlesOne {entries : List LedgerEntry}
    (distinct : RequestIdsDistinct (storedActivities entries)) {activity : ScheduleActivity}
    (member : activity ∈ storedActivities entries) {requestId : List UInt8}
    (same : requestIdOf activity.tc = requestIdOf requestId) (fate : Fate) :
    SettlesOne entries (entries.map (.settle requestId fate)) activity fate := by
  obtain ⟨front, back, rfl⟩ := List.append_of_mem (mem_storedActivities.mp member)
  refine ⟨front, back, rfl, ?_⟩
  simp only [storedActivities_append, storedActivities_cons_stored, RequestIdsDistinct,
    List.map_append, List.map_cons, List.nodup_append, List.nodup_cons, List.mem_map,
    List.mem_cons, not_exists, not_and] at distinct
  have inFront : front.map (.settle requestId fate) = front :=
    map_settle_eq_self fate fun other stored equal =>
      distinct.2.2 _ ⟨other, stored, rfl⟩ _ (Or.inl rfl) (equal.trans same.symm)
  have inBack : back.map (.settle requestId fate) = back :=
    map_settle_eq_self fate fun other stored equal =>
      distinct.2.1.1 other stored (equal.trans same.symm)
  rw [List.map_append, List.map_cons, inFront, inBack, LedgerEntry.settle, if_pos ⟨rfl, same⟩]

/-- The settled activity leaves the stored ones. -/
theorem SettlesOne.perm_cons {before after : List LedgerEntry} {activity : ScheduleActivity}
    {fate : Fate} (one : SettlesOne before after activity fate) (settled : fate ≠ .stored) :
    storedActivities before ~ activity :: storedActivities after := by
  obtain ⟨front, back, rfl, rfl⟩ := one
  rw [storedActivities_append, storedActivities_append, storedActivities_cons_stored,
    storedActivities_cons_settled settled]
  exact List.perm_middle

theorem SettlesOne.map_activity {before after : List LedgerEntry} {activity : ScheduleActivity}
    {fate : Fate} (one : SettlesOne before after activity fate) :
    after.map (·.activity) = before.map (·.activity) := by
  obtain ⟨front, back, rfl, rfl⟩ := one
  simp

/-- What the fates show, once one more of them is settled. -/
theorem SettlesOne.filterMap_perm {β : Type} {before after : List LedgerEntry}
    {activity : ScheduleActivity} {fate : Fate} (one : SettlesOne before after activity fate)
    (shown : Fate → Option β) (nothing : shown .stored = none) :
    after.filterMap (fun entry => shown entry.fate) ~
      before.filterMap (fun entry => shown entry.fate) ++ (shown fate).toList := by
  obtain ⟨front, back, rfl, rfl⟩ := one
  cases found : shown fate with
  | none => simp [nothing, found]
  | some value =>
      simp only [List.filterMap_append, List.filterMap_cons, nothing, found, Option.toList_some,
        List.append_assoc]
      exact List.Perm.append_left _ (List.perm_append_singleton value _).symm

/-! ### Conservation -/

/-- What a fate says about its activity. -/
def LedgerEntry.Justified (entry : LedgerEntry) : Prop :=
  match entry.fate with
  | .stored => True
  | .cleared => True
  | .deleted requestId => requestIdOf entry.activity.tc = requestIdOf requestId
  | .released nowSeconds delivered whileEnabled =>
      delivered = entry.activity.tc ∧ entry.activity.releaseTime ≤ nowSeconds ∧
        whileEnabled = true

theorem SettlesOne.justified {before after : List LedgerEntry} {activity : ScheduleActivity}
    {fate : Fate} (one : SettlesOne before after activity fate)
    (old : ∀ entry ∈ before, entry.Justified)
    (new : LedgerEntry.Justified ⟨activity, fate⟩) : ∀ entry ∈ after, entry.Justified := by
  obtain ⟨front, back, rfl, rfl⟩ := one
  intro entry member
  rcases List.mem_append.mp member with inFront | inBack
  · exact old entry (List.mem_append_left _ inFront)
  rcases List.mem_cons.mp inBack with rfl | inBack
  · exact new
  · exact old entry (List.mem_append_right _ (List.mem_cons_of_mem _ inBack))

def Fate.deletedId : Fate → Option (List UInt8)
  | .deleted requestId => some requestId
  | _ => none

def Fate.delivery : Fate → Option (UInt32 × List UInt8)
  | .released nowSeconds delivered _ => some (nowSeconds, delivered)
  | _ => none

private theorem filterMap_singleton {α β : Type} (shown : α → Option β) (item : α) :
    [item].filterMap shown = (shown item).toList := by
  cases found : shown item <;> simp [found]

/-- The ledger accounts for the store and for every call that had an effect. -/
structure Ledger.Accounts (ledger : Ledger) (sched : Schedule) (trace : ScheduleTrace) :
    Prop where
  inserts : ledger.entries.map (·.activity) = trace.filterMap acceptedInsert
  stored : storedActivities ledger.entries ~ sched.activities
  deletes : ledger.entries.filterMap (·.fate.deletedId) ~ trace.filterMap successfulDelete
  releases : ledger.entries.filterMap (·.fate.delivery) ~ trace.filterMap delivery
  enabled : ledger.enabled = sched.enabled
  justified : ∀ entry ∈ ledger.entries, entry.Justified

namespace Ledger.Accounts

variable {ledger : Ledger} {sched : Schedule} {trace : ScheduleTrace}

/-- A call that adds to each account what it showed keeps the accounts. -/
theorem step (accounts : ledger.Accounts sched trace) {next : Ledger} {after : Schedule}
    {call : ScheduleOp × ScheduleReply}
    (inserts : next.entries.map (·.activity) =
      ledger.entries.map (·.activity) ++ (acceptedInsert call).toList)
    (stored : storedActivities next.entries ~ after.activities)
    (deletes : next.entries.filterMap (·.fate.deletedId) ~
      ledger.entries.filterMap (·.fate.deletedId) ++ (successfulDelete call).toList)
    (releases : next.entries.filterMap (·.fate.delivery) ~
      ledger.entries.filterMap (·.fate.delivery) ++ (delivery call).toList)
    (enabled : next.enabled = after.enabled)
    (justified : ∀ entry ∈ next.entries, entry.Justified) :
    next.Accounts after (trace ++ [call]) where
  inserts := by rw [inserts, accounts.inserts, List.filterMap_append, filterMap_singleton]
  stored := stored
  deletes := by
    rw [List.filterMap_append, filterMap_singleton]
    exact deletes.trans (accounts.deletes.append_right _)
  releases := by
    rw [List.filterMap_append, filterMap_singleton]
    exact releases.trans (accounts.releases.append_right _)
  enabled := enabled
  justified := justified

/-- A call that shows no effect leaves no mark. -/
theorem unchanged (accounts : ledger.Accounts sched trace) {call : ScheduleOp × ScheduleReply}
    (noInsert : acceptedInsert call = none) (noDelete : successfulDelete call = none)
    (noDelivery : delivery call = none) : ledger.Accounts sched (trace ++ [call]) :=
  accounts.step (by simp [noInsert]) accounts.stored (by simp [noDelete]) (by simp [noDelivery])
    accounts.enabled accounts.justified

/-- A call that settles one stored activity, which leaves the schedule. -/
theorem settled (accounts : ledger.Accounts sched trace) {next : Ledger} {after : Schedule}
    {call : ScheduleOp × ScheduleReply} {activity : ScheduleActivity} {fate : Fate}
    (one : SettlesOne ledger.entries next.entries activity fate) (isSettled : fate ≠ .stored)
    (removed : sched.activities ~ activity :: after.activities)
    (sameFlags : next.enabled = ledger.enabled ∧ after.enabled = sched.enabled)
    (new : LedgerEntry.Justified ⟨activity, fate⟩) (noInsert : acceptedInsert call = none)
    (deletes : fate.deletedId = successfulDelete call)
    (releases : fate.delivery = delivery call) : next.Accounts after (trace ++ [call]) := by
  refine accounts.step ?_ ?_ ?_ ?_ ?_ (one.justified accounts.justified new)
  · rw [one.map_activity, noInsert, Option.toList_none, List.append_nil]
  · exact (((one.perm_cons isSettled).symm.trans accounts.stored).trans removed).cons_inv
  · rw [← deletes]
    exact one.filterMap_perm Fate.deletedId rfl
  · rw [← releases]
    exact one.filterMap_perm Fate.delivery rfl
  · rw [sameFlags.1, sameFlags.2, accounts.enabled]

theorem insert {cfg : Config} (accounts : ledger.Accounts sched trace) (releaseTime : UInt32)
    (tc : List UInt8) :
    (ledger.record (.insert releaseTime tc)
        (.status (scheduleInsert cfg sched releaseTime tc).1)).Accounts
      (scheduleInsert cfg sched releaseTime tc).2
      (trace ++
        [(.insert releaseTime tc, .status (scheduleInsert cfg sched releaseTime tc).1)]) := by
  rcases scheduleInsert_cases cfg sched releaseTime tc with ⟨failed, same⟩ | inserted
  · rw [same]
    cases status : (scheduleInsert cfg sched releaseTime tc).1 with
    | ok => contradiction
    | _ => exact accounts.unchanged rfl rfl rfl
  · rw [inserted.result]
    refine accounts.step ?_ ?_ ?_ ?_ accounts.enabled ?_
    · simp [Ledger.record, acceptedInsert]
    · rw [Ledger.record, storedActivities_append]
      exact accounts.stored.append_right _
    · simp [Ledger.record, Fate.deletedId, successfulDelete]
    · simp [Ledger.record, Fate.delivery, FswCore.delivery]
    · intro entry member
      rcases List.mem_append.mp member with old | new
      · exact accounts.justified entry old
      · rw [List.mem_singleton.mp new]
        trivial

/-- The stored activity with the identifier of `requestId` is settled. -/
theorem settlesOne (accounts : ledger.Accounts sched trace)
    (distinct : RequestIdsDistinct sched.activities) {activity : ScheduleActivity}
    (member : activity ∈ sched.activities) {requestId : List UInt8}
    (same : requestIdOf activity.tc = requestIdOf requestId) (fate : Fate) :
    SettlesOne ledger.entries (ledger.entries.map (.settle requestId fate)) activity fate :=
  map_settle_settlesOne (distinct.perm accounts.stored.symm)
    (accounts.stored.mem_iff.mpr member) same fate

theorem delete (accounts : ledger.Accounts sched trace)
    (distinct : RequestIdsDistinct sched.activities) (requestId : List UInt8) :
    (ledger.record (.delete requestId) (.status (scheduleDelete sched requestId).1)).Accounts
      (scheduleDelete sched requestId).2
      (trace ++ [(.delete requestId, .status (scheduleDelete sched requestId).1)]) := by
  rcases scheduleDelete_cases sched requestId with
    ⟨failed, same, _⟩ | ⟨index, activity, stored, same, removed⟩
  · rw [same, failed]
    exact accounts.unchanged rfl rfl rfl
  · rw [removed]
    have one := accounts.settlesOne distinct (List.mem_of_getElem? stored) same
      (.deleted requestId)
    exact accounts.settled one (by simp) (perm_cons_swapRemove stored) ⟨rfl, rfl⟩ same rfl rfl rfl

theorem popDue (accounts : ledger.Accounts sched trace)
    (distinct : RequestIdsDistinct sched.activities) (nowSeconds : UInt32) (outCap : Nat) :
    (ledger.record (.popDue nowSeconds outCap)
        (.popped (schedulePopDue sched nowSeconds outCap).1)).Accounts
      (schedulePopDue sched nowSeconds outCap).2
      (trace ++ [(.popDue nowSeconds outCap,
        .popped (schedulePopDue sched nowSeconds outCap).1)]) := by
  cases schedulePopDue_cases sched nowSeconds outCap with
  | disabled _ result => rw [result]; exact accounts.unchanged rfl rfl rfl
  | noneDue _ _ result => rw [result]; exact accounts.unchanged rfl rfl rfl
  | tooSmall _ _ _ _ _ result => rw [result]; exact accounts.unchanged rfl rfl rfl
  | released index activity best on _ result =>
      rw [result]
      have one := accounts.settlesOne distinct (List.mem_of_getElem? best.stored) rfl
        (.released nowSeconds activity.tc ledger.enabled)
      exact accounts.settled one (by simp) (perm_cons_swapRemove best.stored) ⟨rfl, rfl⟩
        ⟨rfl, best.due, accounts.enabled.trans on⟩ rfl rfl rfl

theorem reset (accounts : ledger.Accounts sched trace) :
    (ledger.record .reset .done).Accounts (scheduleReset sched) (trace ++ [(.reset, .done)]) := by
  have keeps {β : Type} (shown : Fate → Option β) (same : shown .cleared = shown .stored) :
      (ledger.entries.map LedgerEntry.clear).filterMap (fun entry => shown entry.fate) =
        ledger.entries.filterMap fun entry => shown entry.fate := by
    rw [List.filterMap_map]
    apply List.filterMap_congr
    intro entry _
    simp only [Function.comp_apply, LedgerEntry.clear]
    split
    · rename_i stored
      rw [stored, same]
    · rfl
  refine accounts.step ?_ ?_ ?_ ?_ accounts.enabled ?_
  · simp only [Ledger.record, List.map_map]
    refine (List.map_congr_left fun entry _ => ?_).trans (List.append_nil _).symm
    simp only [Function.comp_apply, LedgerEntry.clear]
    split <;> rfl
  · have cleared : storedActivities (ledger.entries.map .clear) = [] := by
      simp only [storedActivities, List.map_eq_nil_iff, List.filter_eq_nil_iff, List.mem_map,
        decide_eq_true_eq]
      rintro _ ⟨entry, _, rfl⟩
      unfold LedgerEntry.clear
      split
      · simp
      · assumption
    rw [Ledger.record, cleared]
    exact .refl _
  · rw [Ledger.record, keeps Fate.deletedId rfl]
    simp [successfulDelete]
  · rw [Ledger.record, keeps Fate.delivery rfl]
    simp [FswCore.delivery]
  · intro entry member
    obtain ⟨old, oldMember, rfl⟩ := List.mem_map.mp member
    unfold LedgerEntry.clear
    split
    · trivial
    · exact accounts.justified old oldMember

theorem setEnabled (accounts : ledger.Accounts sched trace) (enabled : Bool) :
    (ledger.record (.setEnabled enabled) .done).Accounts (scheduleSetEnabled sched enabled)
      (trace ++ [(.setEnabled enabled, .done)]) := by
  have flag : (scheduleSetEnabled sched enabled).enabled = enabled := by
    unfold scheduleSetEnabled
    split
    · assumption
    · rfl
  refine accounts.step ?_ ?_ ?_ ?_ flag.symm accounts.justified
  · simp [Ledger.record, acceptedInsert]
  · rw [scheduleSetEnabled_activities]
    exact accounts.stored
  · simp [Ledger.record, successfulDelete]
  · simp [Ledger.record, FswCore.delivery]

end Ledger.Accounts

/-! ### Runs -/

structure ScheduleHistory.Conserves (cfg : Config) (history : ScheduleHistory) : Prop where
  wellFormed : history.sched.WellFormed cfg
  accounts : history.ledger.Accounts history.sched history.trace

theorem historyStep_conserves {cfg : Config} {history : ScheduleHistory}
    (conserves : history.Conserves cfg) (op : ScheduleOp) :
    (historyStep cfg history op).Conserves cfg := by
  refine ⟨scheduleApply_wellFormed conserves.wellFormed op, ?_⟩
  have accounts := conserves.accounts
  have distinct := conserves.wellFormed.distinct
  simp only [historyStep, ScheduleHistory.ledger, ledgerOf_concat]
  cases op with
  | insert releaseTime tc => exact accounts.insert releaseTime tc
  | delete requestId => exact accounts.delete distinct requestId
  | reset => exact accounts.reset
  | setEnabled enabled => exact accounts.setEnabled enabled
  | popDue nowSeconds outCap => exact accounts.popDue distinct nowSeconds outCap

theorem historyRun_conserves (cfg : Config) (ops : List ScheduleOp) :
    (historyRun cfg ops).Conserves cfg := by
  refine List.foldlRecOn ops _ ⟨scheduleInit_wellFormed cfg, ?_⟩ fun history conserves op _ =>
    historyStep_conserves conserves op
  exact ⟨rfl, .refl _, .refl _, .refl _, rfl, by simp [ScheduleHistory.ledger, ledgerOf]⟩

/-! ### Fates are permanent -/

/-- Every entry keeps its place and its activity, and its fate once it has one. -/
def Ledger.Extends (early late : Ledger) : Prop :=
  ∀ (index : Nat) (entry : LedgerEntry), early.entries[index]? = some entry →
    ∃ fate, late.entries[index]? = some ⟨entry.activity, fate⟩ ∧
      (entry.fate ≠ .stored → fate = entry.fate)

theorem Ledger.Extends.refl (ledger : Ledger) : ledger.Extends ledger :=
  fun _ entry found => ⟨entry.fate, found, fun _ => rfl⟩

theorem Ledger.Extends.trans {first second third : Ledger} (left : first.Extends second)
    (right : second.Extends third) : first.Extends third := by
  intro index entry found
  obtain ⟨middle, foundMiddle, keptMiddle⟩ := left index entry found
  obtain ⟨fate, foundLast, keptLast⟩ := right index _ foundMiddle
  refine ⟨fate, foundLast, fun settled => ?_⟩
  have same := keptMiddle settled
  subst same
  exact keptLast settled

theorem Ledger.extends_map (ledger : Ledger) (update : LedgerEntry → LedgerEntry) (enabled : Bool)
    (sameActivity : ∀ entry, (update entry).activity = entry.activity)
    (permanent : ∀ entry, entry.fate ≠ .stored → (update entry).fate = entry.fate) :
    ledger.Extends { entries := ledger.entries.map update, enabled := enabled } := by
  intro index entry found
  refine ⟨(update entry).fate, ?_, permanent entry⟩
  rw [List.getElem?_map, found, ← sameActivity entry]
  rfl

theorem Ledger.record_extends (ledger : Ledger) (op : ScheduleOp) (reply : ScheduleReply) :
    ledger.Extends (ledger.record op reply) := by
  have settles (requestId : List UInt8) (fate : Fate) :
      ledger.Extends { ledger with entries := ledger.entries.map (.settle requestId fate) } := by
    refine ledger.extends_map _ _ ?_ ?_
    · intro entry
      unfold LedgerEntry.settle
      split <;> rfl
    · intro entry settled
      simp [LedgerEntry.settle, settled]
  unfold Ledger.record
  split
  · intro index entry found
    refine ⟨entry.fate, ?_, fun _ => rfl⟩
    rw [List.getElem?_append_left (List.getElem?_eq_some_iff.mp found).1]
    exact found
  · exact settles _ _
  · refine ledger.extends_map _ _ ?_ ?_
    · intro entry
      unfold LedgerEntry.clear
      split <;> rfl
    · intro entry settled
      simp [LedgerEntry.clear, settled]
  · exact .refl _
  · exact settles _ _
  · exact .refl _

theorem historyStep_extends (cfg : Config) (history : ScheduleHistory) (op : ScheduleOp) :
    history.ledger.Extends (historyStep cfg history op).ledger := by
  simp only [historyStep, ScheduleHistory.ledger, ledgerOf_concat]
  exact Ledger.record_extends _ op _

theorem historyRun_extends (cfg : Config) (ops later : List ScheduleOp) :
    (historyRun cfg ops).ledger.Extends (historyRun cfg (ops ++ later)).ledger := by
  rw [historyRun, historyRun, List.foldl_append]
  generalize ops.foldl (historyStep cfg) _ = start
  induction later generalizing start with
  | nil => exact .refl _
  | cons op rest inductionHypothesis =>
      exact (historyStep_extends cfg start op).trans (inductionHypothesis _)

end FswCore
