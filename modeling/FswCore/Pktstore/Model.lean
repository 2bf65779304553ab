import FswCore.Config
import FswCore.Library.RingView

/-!
Contract: `lib/pktstore/src/pktstore.c`, function by function.

The `entries` array is a vector of the configured capacity and `head` an index
into it; an entry's `packet` with its `packet_len` is the list of its bytes. A
status code is returned next to the store the call leaves behind. The NULL
checks have no counterpart: every pointer is a value here.
-/

namespace FswCore

open Library

structure PktstoreEntry where
  storageTime : UInt32
  packet : List UInt8
deriving DecidableEq, Repr

structure Pktstore (cfg : Config) where
  entries : Vector PktstoreEntry cfg.pktstoreCapacity
  head : Fin cfg.pktstoreCapacity
  count : Nat
  enabled : Bool
  retrievalActive : Bool
  retrievalEnd : UInt32
  retrievalCursor : Nat
deriving DecidableEq, Repr

/-- A packet store as the start-up code finds it, before initialisation. -/
def emptyMemory (cfg : Config) : Pktstore cfg where
  entries := Vector.replicate cfg.pktstoreCapacity { storageTime := 0, packet := [] }
  head := ⟨0, cfg.pktstoreCapacity_pos⟩
  count := 0
  enabled := false
  retrievalActive := false
  retrievalEnd := 0
  retrievalCursor := 0

inductive PktstoreStatus where
  | ok
  | errBadArg
  | errPacketTooLarge
  | errRetrievalActive
  | errBufTooSmall
deriving DecidableEq, Repr

variable {cfg : Config}

/-- The entries themselves keep whatever the memory held. -/
def pktstoreInit (store : Pktstore cfg) : Pktstore cfg :=
  { store with
    head := ⟨0, cfg.pktstoreCapacity_pos⟩
    count := 0
    enabled := true
    retrievalActive := false
    retrievalEnd := 0
    retrievalCursor := 0 }

def pktstoreSetEnabled (store : Pktstore cfg) (enabled : Bool) : Pktstore cfg :=
  { store with enabled := enabled }

def pktstoreIsEnabled (store : Pktstore cfg) : Bool := store.enabled

def pktstoreCount (store : Pktstore cfg) : Nat := store.count

def pktstoreRetrievalActive (store : Pktstore cfg) : Bool := store.retrievalActive

/-- `.ok true` is the return value 1, `.ok false` the return value 0. -/
def pktstoreStore (store : Pktstore cfg) (packet : List UInt8) (storageTime : UInt32) :
    Except PktstoreStatus Bool × Pktstore cfg :=
  if packet.length = 0 then (.error .errBadArg, store)
  else if packet.length > cfg.pktstorePacketMax then (.error .errPacketTooLarge, store)
  else if store.enabled = false ∨ store.retrievalActive = true then (.ok false, store)
  else
    -- circular: a full store gives up its oldest packet
    let full := store.count ≥ cfg.pktstoreCapacity
    let head := if full then ringIndex store.head 1 else store.head
    let count := if full then store.count - 1 else store.count
    let tail := ringIndex head count
    (.ok true, { store with
      entries := store.entries.set tail { storageTime := storageTime, packet := packet }
      head := head
      count := count + 1 })

/-- The deletion loop: new head, new count and the number deleted. -/
def pktstoreDeleteLoop (entries : Vector PktstoreEntry cfg.pktstoreCapacity)
    (timeSeconds : UInt32) :
    Nat → Fin cfg.pktstoreCapacity → Nat → Fin cfg.pktstoreCapacity × Nat × Nat
  | 0, head, deleted => (head, 0, deleted)
  | count + 1, head, deleted =>
      if entries[head].storageTime ≤ timeSeconds then
        pktstoreDeleteLoop entries timeSeconds count (ringIndex head 1) (deleted + 1)
      else (head, count + 1, deleted)

def pktstoreDeleteUpTo (store : Pktstore cfg) (timeSeconds : UInt32) :
    Except PktstoreStatus Nat × Pktstore cfg :=
  if store.retrievalActive = true then (.error .errRetrievalActive, store)
  else
    let (head, count, deleted) :=
      pktstoreDeleteLoop store.entries timeSeconds store.count store.head 0
    (.ok deleted, { store with head := head, count := count })

/-- Offset from the head of the first of the last `remaining` entries at or after
`fromTime`. -/
def pktstoreCursorLoop (store : Pktstore cfg) (fromTime : UInt32) : Nat → Nat → Nat
  | 0, cursor => cursor
  | remaining + 1, cursor =>
      if store.entries[ringIndex store.head cursor].storageTime ≥ fromTime then cursor
      else pktstoreCursorLoop store fromTime remaining (cursor + 1)

def pktstoreArmRetrieval (store : Pktstore cfg) (fromTime toTime : UInt32) :
    PktstoreStatus × Pktstore cfg :=
  if fromTime > toTime then (.errBadArg, store)
  else if store.retrievalActive = true then (.errRetrievalActive, store)
  else (.ok, { store with
    retrievalCursor := pktstoreCursorLoop store fromTime store.count 0
    retrievalEnd := toTime
    retrievalActive := true })

/-- `.ok (some packet)` is the return value 1 with the packet copied out,
`.ok none` is 0. -/
def pktstoreRetrieveNext (store : Pktstore cfg) (outCap : Nat) :
    Except PktstoreStatus (Option (List UInt8)) × Pktstore cfg :=
  if store.retrievalActive = false then (.ok none, store)
  else if store.retrievalCursor ≥ store.count then
    (.ok none, { store with retrievalActive := false })
  else
    let entry := store.entries[ringIndex store.head store.retrievalCursor]
    if entry.storageTime > store.retrievalEnd then
      (.ok none, { store with retrievalActive := false })
    else if outCap < entry.packet.length then (.error .errBufTooSmall, store)
    else (.ok (some entry.packet), { store with retrievalCursor := store.retrievalCursor + 1 })

/-- Oldest and newest storage time. -/
def pktstoreSpan (store : Pktstore cfg) : Option (UInt32 × UInt32) :=
  if store.count = 0 then none
  else some (store.entries[store.head].storageTime,
    store.entries[ringIndex store.head (store.count - 1)].storageTime)

/-! ### Calls -/

inductive PktstoreOp where
  | store (packet : List UInt8) (storageTime : UInt32)
  | deleteUpTo (timeSeconds : UInt32)
  | setEnabled (enabled : Bool)
  | armRetrieval (fromTime toTime : UInt32)
  | retrieveNext (outCap : Nat)
  | count
  | span
deriving DecidableEq, Repr

/-- What a call hands back to its caller. -/
inductive PktstoreReply where
  | stored (result : Except PktstoreStatus Bool)
  | deleted (result : Except PktstoreStatus Nat)
  | done
  | armed (status : PktstoreStatus)
  | retrieved (result : Except PktstoreStatus (Option (List UInt8)))
  | counted (count : Nat)
  | spanned (times : Option (UInt32 × UInt32))

def pktstoreApply (store : Pktstore cfg) : PktstoreOp → PktstoreReply × Pktstore cfg
  | .store packet storageTime =>
      let (result, after) := pktstoreStore store packet storageTime
      (.stored result, after)
  | .deleteUpTo timeSeconds =>
      let (result, after) := pktstoreDeleteUpTo store timeSeconds
      (.deleted result, after)
  | .setEnabled enabled => (.done, pktstoreSetEnabled store enabled)
  | .armRetrieval fromTime toTime =>
      let (status, after) := pktstoreArmRetrieval store fromTime toTime
      (.armed status, after)
  | .retrieveNext outCap =>
      let (result, after) := pktstoreRetrieveNext store outCap
      (.retrieved result, after)
  | .count => (.counted (pktstoreCount store), store)
  | .span => (.spanned (pktstoreSpan store), store)

/-- A run of calls: the replies in order and the store left behind. -/
def pktstoreRun (store : Pktstore cfg) : List PktstoreOp → List PktstoreReply × Pktstore cfg
  | [] => ([], store)
  | op :: rest =>
      let (reply, after) := pktstoreApply store op
      let (replies, final) := pktstoreRun after rest
      (reply :: replies, final)

/-- The times the stores of a run are called with. -/
def storageTimes (ops : List PktstoreOp) : List UInt32 :=
  ops.filterMap fun
    | .store _ storageTime => some storageTime
    | _ => none

end FswCore
