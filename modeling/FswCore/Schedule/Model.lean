import FswCore.Config
import FswCore.Library.BigEndian
import FswCore.Library.Bytes
import FswCore.Library.Scan
import FswCore.Library.SwapRemove

/-!
Contract: `lib/schedule/src/schedule.c`, function by function.

The `activities` array with its `count` is the list of the stored activities in
slot order; an activity's `tc` with its `tc_len` is the list of its bytes. A
status code is returned next to the schedule the call leaves behind. The NULL
checks have no counterpart: every pointer is a value here.
-/

namespace FswCore

open Library Library.BigEndian

/-- `MIGRIS_SCHEDULE_REQUEST_ID_SIZE`. -/
def scheduleRequestIdSize : Nat := 4

structure ScheduleActivity where
  releaseTime : UInt32
  tc : List UInt8
deriving DecidableEq, Repr

structure Schedule where
  activities : List ScheduleActivity
  enabled : Bool
  generation : UInt32
deriving DecidableEq, Repr

inductive ScheduleStatus where
  | ok
  | errBadArg
  | errFull
  | errTcTooLarge
  | errDuplicate
  | errNotFound
  | errBufTooSmall
  | errTruncated
deriving DecidableEq, Repr

def scheduleInit : Schedule :=
  { activities := [], enabled := false, generation := 0 }

def scheduleReset (sched : Schedule) : Schedule :=
  { sched with activities := [], generation := sched.generation + 1 }

/-- An unchanged value does not bump the generation. -/
def scheduleSetEnabled (sched : Schedule) (enabled : Bool) : Schedule :=
  if sched.enabled = enabled then sched
  else { sched with enabled := enabled, generation := sched.generation + 1 }

def scheduleCount (sched : Schedule) : Nat := sched.activities.length

def schedRequestIdEq (left right : List UInt8) : Bool :=
  (List.range scheduleRequestIdSize).all fun index => left.getD index 0 == right.getD index 0

def schedIndexOf (sched : Schedule) (requestId : List UInt8) : Option Nat :=
  sched.activities.findIdx? fun activity => schedRequestIdEq activity.tc requestId

def scheduleInsert (cfg : Config) (sched : Schedule) (releaseTime : UInt32)
    (tc : List UInt8) : ScheduleStatus × Schedule :=
  if tc.length < scheduleRequestIdSize then (.errBadArg, sched)
  else if tc.length > cfg.scheduleTcMax then (.errTcTooLarge, sched)
  else if (schedIndexOf sched tc).isSome then (.errDuplicate, sched)
  else if scheduleCount sched ≥ cfg.scheduleCapacity then (.errFull, sched)
  else (.ok, { sched with
    activities := sched.activities ++ [{ releaseTime := releaseTime, tc := tc }]
    generation := sched.generation + 1 })

/-- The gap is filled with the last entry. -/
def scheduleDelete (sched : Schedule) (requestId : List UInt8) : ScheduleStatus × Schedule :=
  match schedIndexOf sched requestId with
  | none => (.errNotFound, sched)
  | some index => (.ok, { sched with
      activities := swapRemove sched.activities index
      generation := sched.generation + 1 })

def scheduleFind (sched : Schedule) (requestId : List UInt8) : Option ScheduleActivity :=
  match schedIndexOf sched requestId with
  | none => none
  | some index => sched.activities[index]?

/-- Slot of the due activity with the earliest release time. -/
def scheduleBestDue (sched : Schedule) (nowSeconds : UInt32) : Option Nat :=
  bestIndex (fun activity => !decide (activity.releaseTime > nowSeconds))
    (fun activity => activity.releaseTime.toNat) sched.activities

/-- `.ok (some tc)` is the return value 1 with `tc` copied out, `.ok none` is 0. -/
def schedulePopDue (sched : Schedule) (nowSeconds : UInt32) (outCap : Nat) :
    Except ScheduleStatus (Option (List UInt8)) × Schedule :=
  if sched.enabled = false then (.ok none, sched)
  else
    match scheduleBestDue sched nowSeconds with
    | none => (.ok none, sched)
    | some best =>
        match sched.activities[best]? with
        | none => (.ok none, sched)
        | some due =>
            if outCap < due.tc.length then (.error .errBufTooSmall, sched)
            else (.ok (some due.tc), { sched with
              activities := swapRemove sched.activities best
              generation := sched.generation + 1 })

/-! ### Serialisation -/

/-- The image of one activity: release time, TC length, TC. -/
def scheduleActivityImage (activity : ScheduleActivity) : List UInt8 :=
  put32 activity.releaseTime ++ put16 (UInt16.ofNat activity.tc.length) ++ activity.tc

def scheduleSerializeLoop (outCap : Nat) :
    List ScheduleActivity → List UInt8 → Except ScheduleStatus (List UInt8)
  | [], out => .ok out
  | activity :: rest, out =>
      if outCap - out.length < 4 + 2 + activity.tc.length then .error .errBufTooSmall
      else scheduleSerializeLoop outCap rest (out ++ scheduleActivityImage activity)

def scheduleSerialize (sched : Schedule) (outCap : Nat) : Except ScheduleStatus (List UInt8) :=
  if outCap < 3 then .error .errBufTooSmall
  else scheduleSerializeLoop outCap sched.activities
    (put16 (UInt16.ofNat (scheduleCount sched)) ++ [if sched.enabled then 1 else 0])

def scheduleDeserializeLoop (cfg : Config) (input : List UInt8) :
    Nat → Nat → List ScheduleActivity → Except ScheduleStatus (List ScheduleActivity)
  | 0, _, restored => .ok restored
  | remaining + 1, off, restored =>
      if off + 6 > input.length then .error .errTruncated
      else
        let releaseTime := be32At input off
        let tcLen := (be16At input (off + 4)).toNat
        if tcLen > cfg.scheduleTcMax ∨ tcLen < scheduleRequestIdSize then .error .errTcTooLarge
        else if off + 6 + tcLen > input.length then .error .errTruncated
        else scheduleDeserializeLoop cfg input remaining (off + 6 + tcLen)
          (restored ++ [{ releaseTime := releaseTime, tc := window input (off + 6) tcLen }])

/-- A failed decode leaves the schedule empty and disabled; the generation is
never touched. -/
def scheduleDeserialize (cfg : Config) (sched : Schedule) (input : List UInt8) :
    ScheduleStatus × Schedule :=
  let cleared := { sched with activities := [], enabled := false }
  if input.length < 3 then (.errTruncated, cleared)
  else
    let count := (be16At input 0).toNat
    let enabled := input.getD 2 0 != 0
    if count > cfg.scheduleCapacity then (.errFull, cleared)
    else
      match scheduleDeserializeLoop cfg input count 3 [] with
      | .error status => (status, cleared)
      | .ok restored => (.ok, { cleared with activities := restored, enabled := enabled })

end FswCore
