/-!
Contract: the event-sink seam of `lib/fsw`, and the framework events of `pus5.h`
that are reported through it.

A sink is a call; a producer that reports returns its calls.
-/

namespace FswCore

/-- The `MIGRIS_PUS5_SEV_*` values. -/
def pus5SevInfo : UInt8 := 0
def pus5SevLow : UInt8 := 1
def pus5SevMedium : UInt8 := 2
def pus5SevHigh : UInt8 := 3

/-- The `MIGRIS_PUS5_EVT_*` identifiers. -/
def pus5EvtFswBoot : UInt16 := 0x0001
def pus5EvtTcRejected : UInt16 := 0x0002
def pus5EvtRxOverflow : UInt16 := 0x0003
def pus5EvtModeChanged : UInt16 := 0x0004
def pus5EvtFdirRecovery : UInt16 := 0x0005

/-- One call of the event sink. -/
structure SinkReport where
  nowSeconds : UInt32
  severity : UInt8
  eventId : UInt16
  aux : List UInt8
deriving DecidableEq, Repr

end FswCore
