import FswCore.Pus.Ccsds

/-!
Contract: `lib/nvstore/src/nvstore.c`, function by function.

The backend's function pointers act on a device state `σ` that is passed along;
a read that fails is `none`, a write or an erase that fails is `false`. The
`payload` buffer keeps its full size and its stale bytes behind `payloadLen`.
Offsets and lengths inside it are below `nvstorePayloadMax`, so their 16-bit
arithmetic is that of the naturals. The NULL checks have no counterpart.
-/

namespace FswCore

open Library Library.BigEndian

/-- `MIGRIS_NVSTORE_PAYLOAD_MAX`. -/
def nvstorePayloadMax : Nat := 1536

/-- `MIGRIS_NVSTORE_FORMAT_VERSION`. -/
def nvstoreFormatVersion : UInt16 := 1

/-- `MIGRIS_NVSTORE_HEADER_SIZE`. -/
def nvstoreHeaderSize : Nat := 12

/-- `MIGRIS_NVSTORE_RECORD_OVERHEAD`. -/
def nvstoreRecordOverhead : Nat := 3

def nvstoreWriteBlockMax : UInt32 := 64

def nvstoreMagic : List UInt8 := [0x4D, 0x4E, 0x56, 0x31]

structure NvGeometry where
  sectorSize : UInt32
  sectorCount : UInt32
  writeBlock : UInt32
deriving DecidableEq, Repr

structure NvBackend (σ : Type) where
  geometry : NvGeometry
  read : σ → UInt32 → Nat → Nat → Option (List UInt8)
  write : σ → UInt32 → Nat → List UInt8 → Bool × σ
  erase : σ → UInt32 → Bool × σ

structure Nvstore where
  payload : List UInt8
  payloadLen : Nat
  loadedSeq : UInt32
  loadedSector : UInt32
  loaded : Bool
deriving DecidableEq, Repr

/-- A zero-initialised store, as static memory holds it at start-up. -/
def nvstoreZero : Nvstore where
  payload := List.replicate nvstorePayloadMax 0
  payloadLen := 0
  loadedSeq := 0
  loadedSector := 0
  loaded := false

inductive NvstoreStatus where
  | ok
  | errBadArg
  | errNotFound
  | errFull
  | errBackend
  | errNoValidImage
  | errGeometry
deriving DecidableEq, Repr

def magicMatches (header : List UInt8) : Bool :=
  (List.range 4).all fun index => header.getD index 0 == nvstoreMagic.getD index 0

/-- Both sectors exist, the write block is usable and the largest image fits. -/
def backendOk (geometry : NvGeometry) : Bool :=
  if geometry.sectorCount < 2 ∨ geometry.writeBlock = 0 ∨
      geometry.writeBlock > nvstoreWriteBlockMax then false
  else
    let imageMax := UInt32.ofNat (nvstoreHeaderSize + nvstorePayloadMax + 2) + geometry.writeBlock
    if geometry.sectorSize < imageMax then false else true

/-- The payload bytes stay as the memory held them. -/
def nvstoreInit (store : Nvstore) : Nvstore :=
  { store with payloadLen := 0, loadedSeq := 0, loadedSector := 0, loaded := false }

section Backend

variable {σ : Type} (backend : NvBackend σ)

/-- The sector's sequence number and payload length, with its payload read into
the buffer; on failure the buffer holds whatever was read. -/
def nvstoreTryLoadSector (device : σ) (store : Nvstore) (sector : UInt32) :
    Option (UInt32 × Nat) × Nvstore :=
  match backend.read device sector 0 nvstoreHeaderSize with
  | none => (none, store)
  | some header =>
      if magicMatches header = false then (none, store)
      else if be16At header 4 ≠ nvstoreFormatVersion then (none, store)
      else
        let seq := be32At header 6
        let payloadLen := (be16At header 10).toNat
        if payloadLen > nvstorePayloadMax then (none, store)
        else
          match (if payloadLen > 0 then
              backend.read device sector nvstoreHeaderSize payloadLen else some []) with
          | none => (none, store)
          | some bytes =>
              let store := { store with payload := patch store.payload 0 bytes }
              match backend.read device sector (nvstoreHeaderSize + payloadLen) 2 with
              | none => (none, store)
              | some crcBuf =>
                  let combined := header ++ store.payload.take payloadLen
                  if crc16CcittFalse combined ≠ be16At crcBuf 0 then (none, store)
                  else (some (seq, payloadLen), store)

/-- Header-only validation: the sequence number of a sector that passes. -/
def nvstoreHeaderSeq (device : σ) (sector : UInt32) : Option UInt32 :=
  match backend.read device sector 0 nvstoreHeaderSize with
  | none => none
  | some header =>
      if magicMatches header = false then none
      else if be16At header 4 ≠ nvstoreFormatVersion then none
      else if (be16At header 10).toNat > nvstorePayloadMax then none
      else some (be32At header 6)

/-- The attempts in order; a sector whose header failed is passed over. -/
def nvstoreLoadPasses (device : σ) : List UInt32 → Nvstore → NvstoreStatus × Nvstore
  | [], store => (.errNoValidImage,
      { store with payloadLen := 0, loadedSeq := 0, loadedSector := 0, loaded := false })
  | sector :: rest, store =>
      if (nvstoreHeaderSeq backend device sector).isNone then nvstoreLoadPasses device rest store
      else
        match nvstoreTryLoadSector backend device store sector with
        | (none, store) => nvstoreLoadPasses device rest store
        | (some (seq, payloadLen), store) => (.ok, { store with
            payloadLen := payloadLen
            loadedSeq := seq
            loadedSector := sector
            loaded := true })

/-- Sector 1 is tried first if only it has a header or its sequence is higher. -/
def nvstoreSecondFirst (first second : Option UInt32) : Bool :=
  match second, first with
  | none, _ => false
  | some _, none => true
  | some secondSeq, some firstSeq => decide (secondSeq > firstSeq)

def nvstoreLoad (device : σ) (store : Nvstore) : NvstoreStatus × Nvstore :=
  if backendOk backend.geometry = false then (.errGeometry, store)
  else
    let order := if nvstoreSecondFirst (nvstoreHeaderSeq backend device 0)
      (nvstoreHeaderSeq backend device 1) then [1, 0] else [0, 1]
    nvstoreLoadPasses backend device order store

end Backend

/-! ### Records -/

inductive NvLocated where
  | found (off total : Nat)
  | missing
  | corrupt
deriving DecidableEq, Repr

/-- The record walk from `off`; the fuel bounds the number of records. -/
def nvstoreLocateLoop (store : Nvstore) (recordType : UInt8) : Nat → Nat → NvLocated
  | 0, _ => .missing
  | fuel + 1, off =>
      if off + nvstoreRecordOverhead ≤ store.payloadLen then
        let type := store.payload.getD off 0
        let len := (be16At store.payload (off + 1)).toNat
        let total := nvstoreRecordOverhead + len
        if off + total > store.payloadLen then .corrupt
        else if type = recordType then .found off total
        else nvstoreLocateLoop store recordType fuel (off + total)
      else .missing

/-- A record takes three bytes at least, so `payloadLen` records are enough. -/
def nvstoreLocate (store : Nvstore) (recordType : UInt8) : NvLocated :=
  nvstoreLocateLoop store recordType store.payloadLen 0

def nvstoreGet (store : Nvstore) (recordType : UInt8) : Except NvstoreStatus (List UInt8) :=
  match nvstoreLocate store recordType with
  | .found off total =>
      .ok (window store.payload (off + nvstoreRecordOverhead) (total - nvstoreRecordOverhead))
  | _ => .error .errNotFound

/-- Drop the record of this type, if there is one. -/
def nvstoreDrop (store : Nvstore) (recordType : UInt8) : Nvstore :=
  match nvstoreLocate store recordType with
  | .found off total =>
      { store with
        payload := copyDown store.payload off (off + total) (store.payloadLen - off - total)
        payloadLen := store.payloadLen - total }
  | _ => store

/-- A record that does not fit is refused after the old one has been dropped. -/
def nvstorePut (store : Nvstore) (recordType : UInt8) (bytes : List UInt8) :
    NvstoreStatus × Nvstore :=
  let dropped := nvstoreDrop store recordType
  let newTotal := dropped.payloadLen + nvstoreRecordOverhead + bytes.length
  if newTotal > nvstorePayloadMax then (.errFull, dropped)
  else (.ok, { dropped with
    payload := patch dropped.payload dropped.payloadLen
      (recordType :: put16 (UInt16.ofNat bytes.length) ++ bytes)
    payloadLen := newTotal })

/-! ### Saving -/

def nvstoreHeader (seq : UInt32) (payloadLen : Nat) : List UInt8 :=
  nvstoreMagic ++ put16 nvstoreFormatVersion ++ put32 seq ++ put16 (UInt16.ofNat payloadLen)

/-- The image of a payload: header, payload, checksum. -/
def nvstoreImage (seq : UInt32) (payload : List UInt8) : List UInt8 :=
  nvstoreHeader seq payload.length ++ payload ++
    put16 (crc16CcittFalse (nvstoreHeader seq payload.length ++ payload))

/-- The image padded with `0xFF` to a multiple of the write block. -/
def nvstorePadded (writeBlock : UInt32) (image : List UInt8) : List UInt8 :=
  let paddedSize :=
    ((image.length + writeBlock.toNat - 1) / writeBlock.toNat) * writeBlock.toNat
  image ++ List.replicate (paddedSize - image.length) 0xFF

def nvstoreTarget (geometry : NvGeometry) (store : Nvstore) : UInt32 :=
  if store.loaded then (store.loadedSector + 1) % geometry.sectorCount else 0

def nvstoreSave {σ : Type} (backend : NvBackend σ) (device : σ) (store : Nvstore) :
    NvstoreStatus × Nvstore × σ :=
  if backendOk backend.geometry = false then (.errGeometry, store, device)
  else
    let target := nvstoreTarget backend.geometry store
    let newSeq := store.loadedSeq + 1
    let image := nvstorePadded backend.geometry.writeBlock
      (nvstoreImage newSeq (store.payload.take store.payloadLen))
    match backend.erase device target with
    | (false, device) => (.errBackend, store, device)
    | (true, device) =>
        match backend.write device target 0 image with
        | (false, device) => (.errBackend, store, device)
        | (true, device) =>
            (.ok, { store with loadedSeq := newSeq, loadedSector := target, loaded := true },
              device)

end FswCore
