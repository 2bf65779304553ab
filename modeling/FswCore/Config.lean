/-!
Contract: the compile-time limits every store and service is sized by.

Owns:
- `Config`, one field for each overridable `MIGRIS_*` limit, with the library
  default as its default value;
- `Config.KconfigAdmitted`, the ranges the flight build may choose from.

A ring of capacity zero is not a value of the type: the C array would be empty
and its index arithmetic a division by zero. The limits of a large data transfer
have no entry in the menu.
-/

namespace FswCore

structure Config where
  scheduleCapacity : Nat := 16
  scheduleTcMax : Nat := 64
  pktstoreCapacity : Nat := 32
  pktstorePacketMax : Nat := 128
  hkstoreCapacity : Nat := 8
  hkstoreMaxParams : Nat := 8
  datapoolCapacity : Nat := 16
  modeCapacity : Nat := 8
  pus11MaxPerTc : Nat := 8
  pus20MaxParamsPerTc : Nat := 8
  fdirEventFifoCapacity : Nat := 16
  largedataUnitMax : Nat := 4096
  pus13PartSize : Nat := 64
  pktstoreCapacity_pos : 0 < pktstoreCapacity := by decide
  fdirEventFifoCapacity_pos : 0 < fdirEventFifoCapacity := by decide

/-- The library's own limits. -/
abbrev defaultConfig : Config := {}

namespace Config

/-- The ranges of the flight build's configuration menu. -/
structure KconfigAdmitted (cfg : Config) : Prop where
  scheduleCapacity : 1 ≤ cfg.scheduleCapacity ∧ cfg.scheduleCapacity ≤ 256
  scheduleTcMax : 16 ≤ cfg.scheduleTcMax ∧ cfg.scheduleTcMax ≤ 256
  pktstoreCapacity : 4 ≤ cfg.pktstoreCapacity ∧ cfg.pktstoreCapacity ≤ 256
  pktstorePacketMax : 80 ≤ cfg.pktstorePacketMax ∧ cfg.pktstorePacketMax ≤ 128
  hkstoreCapacity : 1 ≤ cfg.hkstoreCapacity ∧ cfg.hkstoreCapacity ≤ 256
  hkstoreMaxParams : 1 ≤ cfg.hkstoreMaxParams ∧ cfg.hkstoreMaxParams ≤ 16
  datapoolCapacity : 1 ≤ cfg.datapoolCapacity ∧ cfg.datapoolCapacity ≤ 256
  modeCapacity : 2 ≤ cfg.modeCapacity ∧ cfg.modeCapacity ≤ 32
  pus11MaxPerTc : 1 ≤ cfg.pus11MaxPerTc ∧ cfg.pus11MaxPerTc ≤ 8
  pus20MaxParamsPerTc : 1 ≤ cfg.pus20MaxParamsPerTc ∧ cfg.pus20MaxParamsPerTc ≤ 8
  fdirEventFifoCapacity : 4 ≤ cfg.fdirEventFifoCapacity ∧ cfg.fdirEventFifoCapacity ≤ 256

theorem default_kconfigAdmitted : KconfigAdmitted defaultConfig := by
  constructor <;> decide

end Config

end FswCore
