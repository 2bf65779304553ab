import FswCore.Config
import FswCore.EventSink

/-!
Contract: `lib/mode/src/mode.c`, function by function.

The definition table with its `count` is a list. A reported event is returned
next to the manager; a sink that is not wired reports nothing. The NULL checks
have no counterpart.
-/

namespace FswCore

/-- `MIGRIS_MODE_ID_MAX`. -/
def modeIdMax : UInt8 := 32

structure ModeDef where
  id : UInt8
  allowedTargets : UInt32
deriving DecidableEq, Repr

structure ModeManager where
  defs : List ModeDef
  current : UInt8
  sinkWired : Bool
  generation : UInt32
deriving DecidableEq, Repr

/-- A `MODE_CHANGED` report: the time, and the previous and the new mode. -/
structure ModeChanged where
  nowSeconds : UInt32
  fromMode : UInt8
  toMode : UInt8
deriving DecidableEq, Repr

/-- The call of the sink that announces a change. -/
def ModeChanged.report (changed : ModeChanged) : SinkReport :=
  { nowSeconds := changed.nowSeconds
    severity := pus5SevInfo
    eventId := pus5EvtModeChanged
    aux := [changed.fromMode, changed.toMode] }

inductive ModeStatus where
  | ok
  | errBadArg
  | errCapacity
  | errDuplicate
  | errRange
  | errNotFound
  | errForbidden
  | errBufTooSmall
  | errTruncated
deriving DecidableEq, Repr

def modeIndexOf (defs : List ModeDef) (id : UInt8) : Option Nat :=
  defs.findIdx? fun mode => mode.id == id

/-- Every mode a definition names as a target is declared. -/
def modeTargetsDeclared (defs : List ModeDef) (mode : ModeDef) : Bool :=
  (List.range modeIdMax.toNat).all fun target =>
    (mode.allowedTargets >>> UInt32.ofNat target) &&& 1 == 0 ||
      (modeIndexOf defs (UInt8.ofNat target)).isSome

def modeValidateIds (seen : List ModeDef) : List ModeDef → ModeStatus
  | [] => .ok
  | mode :: rest =>
      if mode.id ≥ modeIdMax then .errRange
      else if (modeIndexOf seen mode.id).isSome then .errDuplicate
      else modeValidateIds (seen ++ [mode]) rest

def modeValidate (defs : List ModeDef) : ModeStatus :=
  match modeValidateIds [] defs with
  | .ok => if defs.all (modeTargetsDeclared defs) then .ok else .errRange
  | status => status

/-- A failed initialisation leaves the manager empty. -/
def modeInit (cfg : Config) (defs : List ModeDef) (initial : UInt8) (sinkWired : Bool) :
    ModeStatus × ModeManager :=
  let empty := { defs := [], current := 0, sinkWired := false, generation := 0 }
  if defs.length > cfg.modeCapacity then (.errCapacity, empty)
  else
    match modeValidate defs with
    | .ok =>
        if (modeIndexOf defs initial).isNone then (.errNotFound, empty)
        else (.ok, { defs := defs, current := initial, sinkWired := sinkWired, generation := 0 })
    | status => (status, empty)

def modeIsAllowed (mgr : ModeManager) (target : UInt8) : Bool :=
  if target ≥ modeIdMax then false
  else
    match modeIndexOf mgr.defs mgr.current with
    | none => false
    | some index =>
        match mgr.defs[index]? with
        | none => false
        | some mode => (mode.allowedTargets >>> target.toUInt32) &&& 1 == 1

def modeRequest (mgr : ModeManager) (target : UInt8) (nowSeconds : UInt32) :
    ModeStatus × ModeManager × Option ModeChanged :=
  if target ≥ modeIdMax ∨ (modeIndexOf mgr.defs target).isNone then (.errNotFound, mgr, none)
  else if modeIsAllowed mgr target = false then (.errForbidden, mgr, none)
  else (.ok, { mgr with current := target, generation := mgr.generation + 1 },
    if mgr.sinkWired then
      some { nowSeconds := nowSeconds, fromMode := mgr.current, toMode := target }
    else none)

/-! ### Serialisation -/

def modeSerialize (mgr : ModeManager) (outCap : Nat) : Except ModeStatus (List UInt8) :=
  if outCap < 1 then .error .errBufTooSmall else .ok [mgr.current]

/-- A mode the table does not declare is ignored; no event, no new generation. -/
def modeDeserializeCurrent (mgr : ModeManager) (input : List UInt8) : ModeStatus × ModeManager :=
  if input.length < 1 then (.errTruncated, mgr)
  else
    let restored := input.getD 0 0
    if restored ≥ modeIdMax then (.ok, mgr)
    else if (modeIndexOf mgr.defs restored).isNone then (.ok, mgr)
    else (.ok, { mgr with current := restored })

end FswCore
