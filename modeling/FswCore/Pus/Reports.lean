import FswCore.Pus.Packet

/-!
Contract: `lib/pus/src/pus1.c` and `lib/pus/src/pus17.c`, function by function:
the two services that keep no store.

Owns:
- the verification reports and their failure codes;
- the are-you-alive response;
- that each is built and reads back whenever its octets fit.

Does not own: when a verification report is due.
-/

namespace FswCore

open Library Library.BigEndian

/-- `MIGRIS_PUS1_REQUEST_ID_SIZE`. -/
def pus1RequestIdSize : Nat := 4

inductive Pus1FailureCode where
  | none
  | badPrimary
  | illegalApid
  | lengthError
  | crcFailure
  | badPusVersion
  | unknownService
  | unknownSubtype
  | execFailure
deriving DecidableEq, Repr

/-- The enumerator of a failure code. -/
def Pus1FailureCode.code : Pus1FailureCode → UInt8
  | .none => 0
  | .badPrimary => 1
  | .illegalApid => 2
  | .lengthError => 3
  | .crcFailure => 4
  | .badPusVersion => 5
  | .unknownService => 6
  | .unknownSubtype => 7
  | .execFailure => 8

/-- `MIGRIS_PUS17_SUBTYPE_ARE_YOU_ALIVE_TC`. -/
def pus17SubtypeAreYouAliveTc : UInt8 := 1

/-- `MIGRIS_PUS17_TM_PACKET_SIZE`. -/
def pus17TmPacketSize : Nat := 18

inductive Pus17Status where
  | errBufTooSmall
  | errNotPus17Tc
deriving DecidableEq, Repr

/-! ### PUS-1 -/

/-- A success report carries the request identifier, a failure report the failure
code behind it. -/
def pus1Source (requestId : List UInt8) (fc : Pus1FailureCode) : List UInt8 :=
  requestId.take pus1RequestIdSize ++ if fc = .none then [] else [fc.code]

def buildReport (request : TmRequest) (counters : PusCounters) (requestId : List UInt8)
    (fc : Pus1FailureCode) (kindSuccess kindFailure : TmKind) : Option TmOut :=
  buildTm request counters (if fc = .none then kindSuccess else kindFailure)
    (pus1RequestIdSize + if fc = .none then 0 else 1) (some (pus1Source requestId fc))

def pus1BuildAcceptance (request : TmRequest) (counters : PusCounters)
    (requestId : List UInt8) (fc : Pus1FailureCode) : Option TmOut :=
  buildReport request counters requestId fc .acceptanceSuccess .acceptanceFailure

def pus1BuildCompletion (request : TmRequest) (counters : PusCounters)
    (requestId : List UInt8) (fc : Pus1FailureCode) : Option TmOut :=
  buildReport request counters requestId fc .completionSuccess .completionFailure

/-! ### PUS-17 -/

/-- The capacity is checked before the subtype. -/
def pus17Execute (request : TmRequest) (counters : PusCounters) (serviceSubtype : UInt8) :
    Except Pus17Status TmOut :=
  if request.outCap < pus17TmPacketSize then .error .errBufTooSmall
  else if serviceSubtype ≠ pus17SubtypeAreYouAliveTc then .error .errNotPus17Tc
  else
    match buildTm request counters .areYouAlive 0 (some []) with
    | none => .error .errBufTooSmall
    | some out => .ok out

/-! ### Reports as they read -/

theorem buildReport_reports {request : TmRequest} {counters : PusCounters}
    {requestId : List UInt8} (identified : requestId.length = pus1RequestIdSize)
    (fc : Pus1FailureCode) (kindSuccess kindFailure : TmKind)
    (serves : request.Serves counters (22 + if fc = .none then 0 else 1)) :
    ∃ out, buildReport request counters requestId fc kindSuccess kindFailure = some out ∧
      out.Reports request counters (if fc = .none then kindSuccess else kindFailure)
        (pus1Source requestId fc) (22 + if fc = .none then 0 else 1) := by
  have sized : (pus1Source requestId fc).length =
      pus1RequestIdSize + if fc = .none then 0 else 1 := by
    rw [pus1Source, List.length_append, List.length_take, identified, Nat.min_self]
    split <;> rfl
  exact buildTm_reports _ serves sized (by simp only [pus1RequestIdSize]; omega)
    (by split <;> decide)

theorem pus17Execute_within {request : TmRequest} {counters : PusCounters}
    (serves : request.Serves counters pus17TmPacketSize) (serviceSubtype : UInt8) :
    ReturnsWithin ((pus17Execute request counters serviceSubtype).map some) .errBufTooSmall
      request counters .areYouAlive pus17TmPacketSize := by
  have room : ¬request.outCap < pus17TmPacketSize := Nat.not_lt.mpr serves.room
  obtain ⟨out, built, reports⟩ :=
    buildTm_reports .areYouAlive serves (show ([] : List UInt8).length = 0 from rfl)
      (Nat.le_refl _) (by decide)
  rw [pus17Execute, if_neg room]
  split
  · simp [Except.map, ReturnsWithin]
  · simp only [built]
    exact ⟨_, reports⟩

end FswCore
