import FswCore.Config
import FswCore.Library.BigEndian
import FswCore.Library.Bytes
import FswCore.Library.Scan

/-!
Contract: `lib/hkstore/src/hkstore.c`, function by function.

The slot array is a list; a free slot, `in_use` cleared, is `none`, since no
function reads another field of one. The `param_ids` array with its
`param_count` is the list of the valid identifiers. The NULL checks have no
counterpart.
-/

namespace FswCore

open Library Library.BigEndian

/-- `MIGRIS_HKSTORE_SID_MIN`. -/
def hkstoreSidMin : UInt16 := 0x0100

structure HkStructure where
  sid : UInt16
  paramIds : List UInt16
  intervalSec : UInt32
  lastEmitSec : UInt32
  enabled : Bool
deriving DecidableEq, Repr

structure Hkstore where
  structures : List (Option HkStructure)
  count : Nat
  generation : UInt32
deriving DecidableEq, Repr

inductive HkstoreStatus where
  | ok
  | errBadArg
  | errFull
  | errTooMany
  | errDuplicate
  | errNotFound
  | errTruncated
  | errBufTooSmall
deriving DecidableEq, Repr

def hkstoreInit (cfg : Config) : Hkstore :=
  { structures := List.replicate cfg.hkstoreCapacity none, count := 0, generation := 0 }

def hkstoreCount (store : Hkstore) : Nat := store.count

def hkstoreIndexOf (store : Hkstore) (sid : UInt16) : Option Nat :=
  store.structures.findIdx? fun
    | none => false
    | some held => held.sid == sid

def hkstoreCreate (cfg : Config) (store : Hkstore) (sid : UInt16) (paramIds : List UInt16)
    (intervalSec : UInt32) : HkstoreStatus × Hkstore :=
  if paramIds.length = 0 ∨ sid < hkstoreSidMin then (.errBadArg, store)
  else if paramIds.length > cfg.hkstoreMaxParams then (.errTooMany, store)
  else if (hkstoreIndexOf store sid).isSome then (.errDuplicate, store)
  else
    match store.structures.findIdx? Option.isNone with
    | none => (.errFull, store)
    | some slot => (.ok,
        { structures := store.structures.set slot (some
            { sid := sid
              paramIds := paramIds
              intervalSec := intervalSec
              lastEmitSec := 0
              enabled := false })
          count := store.count + 1
          generation := store.generation + 1 })

/-- The slot is freed and not compacted. -/
def hkstoreDelete (store : Hkstore) (sid : UInt16) : HkstoreStatus × Hkstore :=
  match hkstoreIndexOf store sid with
  | none => (.errNotFound, store)
  | some index => (.ok,
      { structures := store.structures.set index none
        count := store.count - 1
        generation := store.generation + 1 })

/-- An unchanged value does not bump the generation. -/
def hkstoreSetEnabled (store : Hkstore) (sid : UInt16) (enabled : Bool) :
    HkstoreStatus × Hkstore :=
  match hkstoreIndexOf store sid with
  | none => (.errNotFound, store)
  | some index =>
      match store.structures[index]? with
      | some (some held) =>
          if held.enabled = enabled then (.ok, store)
          else (.ok, { store with
            structures := store.structures.set index (some { held with enabled := enabled })
            generation := store.generation + 1 })
      | _ => (.errNotFound, store)

def hkstoreFind (store : Hkstore) (sid : UInt16) : Option HkStructure :=
  match hkstoreIndexOf store sid with
  | none => none
  | some index =>
      match store.structures[index]? with
      | some (some held) => some held
      | _ => none

/-- The structure due for the longest time, marked as emitted now. -/
def hkstoreDue (store : Hkstore) (nowSeconds : UInt32) : Option HkStructure × Hkstore :=
  let due : Option HkStructure → Bool
    | none => false
    | some held => held.enabled && held.intervalSec != 0 &&
        !decide (nowSeconds - held.lastEmitSec < held.intervalSec)
  let age : Option HkStructure → Nat
    | none => 0
    | some held => held.lastEmitSec.toNat
  match bestIndex due age store.structures with
  | none => (none, store)
  | some best =>
      match store.structures[best]? with
      | some (some held) =>
          let emitted := { held with lastEmitSec := nowSeconds }
          (some emitted, { store with structures := store.structures.set best (some emitted) })
      | _ => (none, store)

/-! ### Serialisation -/

def hkStructureImage (held : HkStructure) : List UInt8 :=
  put16 held.sid ++ put32 held.intervalSec ++ [if held.enabled then 1 else 0] ++
    [UInt8.ofNat held.paramIds.length] ++ held.paramIds.flatMap put16

def hkstoreWriteStruct (held : HkStructure) (cap : Nat) : Except HkstoreStatus (List UInt8) :=
  if cap < 2 + 4 + 1 + 1 + 2 * held.paramIds.length then .error .errBufTooSmall
  else .ok (hkStructureImage held)

def hkstoreSerializeLoop (outCap : Nat) :
    List (Option HkStructure) → List UInt8 → Except HkstoreStatus (List UInt8)
  | [], out => .ok out
  | none :: rest, out => hkstoreSerializeLoop outCap rest out
  | some held :: rest, out =>
      match hkstoreWriteStruct held (outCap - out.length) with
      | .error status => .error status
      | .ok bytes => hkstoreSerializeLoop outCap rest (out ++ bytes)

def hkstoreSerialize (store : Hkstore) (outCap : Nat) : Except HkstoreStatus (List UInt8) :=
  if outCap < 2 then .error .errBufTooSmall
  else hkstoreSerializeLoop outCap store.structures (put16 (UInt16.ofNat store.count))

/-- The structure and the bytes consumed; it is re-armed from now. -/
def hkstoreReadStruct (cfg : Config) (input : List UInt8) :
    Except HkstoreStatus (HkStructure × Nat) :=
  if input.length < 8 then .error .errTruncated
  else
    let sid := be16At input 0
    let paramCount := (input.getD 7 0).toNat
    if sid < hkstoreSidMin then .error .errBadArg
    else if paramCount > cfg.hkstoreMaxParams then .error .errTooMany
    else if input.length < 8 + 2 * paramCount then .error .errTruncated
    else .ok (
      { sid := sid
        paramIds := (List.range paramCount).map fun index => be16At input (8 + 2 * index)
        intervalSec := be32At input 2
        lastEmitSec := 0
        enabled := input.getD 6 0 != 0 }, 8 + 2 * paramCount)

def hkstoreDeserializeLoop (cfg : Config) (input : List UInt8) :
    Nat → Nat → List HkStructure → Except HkstoreStatus (List HkStructure)
  | 0, _, restored => .ok restored
  | remaining + 1, off, restored =>
      match hkstoreReadStruct cfg (input.drop off) with
      | .error status => .error status
      | .ok (held, consumed) =>
          if restored.any fun other => other.sid == held.sid then .error .errDuplicate
          else hkstoreDeserializeLoop cfg input remaining (off + consumed) (restored ++ [held])

/-- The restored structures take the low slots; a failed decode leaves the store
empty. -/
def hkstoreDeserialize (cfg : Config) (input : List UInt8) : HkstoreStatus × Hkstore :=
  if input.length < 2 then (.errTruncated, hkstoreInit cfg)
  else
    let count := (be16At input 0).toNat
    if count > cfg.hkstoreCapacity then (.errFull, hkstoreInit cfg)
    else
      match hkstoreDeserializeLoop cfg input count 2 [] with
      | .error status => (status, hkstoreInit cfg)
      | .ok restored => (.ok,
          { structures := restored.map some ++
              List.replicate (cfg.hkstoreCapacity - restored.length) none
            count := restored.length
            generation := 0 })

end FswCore
