import FswCore.Nvstore.Model
import Mathlib.Logic.Function.Basic

/-!
Contract: a flash device behind the backend seam.

Owns:
- `Flash`, the content of every sector at a given geometry;
- `FlashFault`, an erase or a write that stops half way and leaves a residue;
- `flashBackend`, the read, write and erase of such a device. A call that would
  reach outside the sector fails.
-/

namespace FswCore

open Library

/-- A sector holds exactly its size. -/
@[ext]
structure Sector (size : Nat) where
  bytes : List UInt8
  size_eq : bytes.length = size

abbrev Flash (geometry : NvGeometry) := UInt32 → Sector geometry.sectorSize.toNat

def erasedSector (size : Nat) : Sector size :=
  ⟨List.replicate size 0xFF, List.length_replicate⟩

def erasedFlash (geometry : NvGeometry) : Flash geometry := fun _ => erasedSector _

/-- What stops the next erase or write, and the content it leaves in the sector. -/
inductive FlashFault (geometry : NvGeometry) where
  | none
  | duringErase (residue : Sector geometry.sectorSize.toNat)
  | duringWrite (residue : Sector geometry.sectorSize.toNat)

variable {geometry : NvGeometry}

def flashRead (flash : Flash geometry) (sector : UInt32) (off len : Nat) : Option (List UInt8) :=
  if sector < geometry.sectorCount ∧ off + len ≤ geometry.sectorSize.toNat then
    some (window (flash sector).bytes off len)
  else none

def flashErase (fault : FlashFault geometry) (flash : Flash geometry) (sector : UInt32) :
    Bool × Flash geometry :=
  if sector < geometry.sectorCount then
    match fault with
    | .duringErase residue => (false, Function.update flash sector residue)
    | _ => (true, Function.update flash sector (erasedSector _))
  else (false, flash)

def flashWrite (fault : FlashFault geometry) (flash : Flash geometry) (sector : UInt32)
    (off : Nat) (bytes : List UInt8) : Bool × Flash geometry :=
  if inside : sector < geometry.sectorCount ∧
      off + bytes.length ≤ (flash sector).bytes.length then
    match fault with
    | .duringWrite residue => (false, Function.update flash sector residue)
    | _ => (true, Function.update flash sector
        ⟨patch (flash sector).bytes off bytes,
          (patch_length _ inside.2).trans (flash sector).size_eq⟩)
  else (false, flash)

def flashBackend (geometry : NvGeometry) (fault : FlashFault geometry) :
    NvBackend (Flash geometry) where
  geometry := geometry
  read := flashRead
  write := flashWrite fault
  erase := flashErase fault

end FswCore
