import FswCore.Library.Bytes
import FswCore.Pus.LargeData

/-!
Contract: `lib/largedata/src/largedata.c`, function by function.

The borrowed unit is the list of its octets: the caller keeps them unchanged
while a transfer lasts.
-/

namespace FswCore

open Library

inductive LargedataState where
  | idle
  | active
deriving DecidableEq, Repr

inductive LargedataStatus where
  | ok
  | errBadArg
  | errBusy
  | errUnitTooLarge
  | errBufTooSmall
deriving DecidableEq, Repr

structure LargedataSession where
  state : LargedataState
  unit : List UInt8
  cursor : Nat
  transactionId : UInt16
  nextPart : UInt16
  totalParts : UInt16
  pus13 : Pus13Ctx
deriving DecidableEq, Repr

def largedataInit : LargedataSession where
  state := .idle
  unit := []
  cursor := 0
  transactionId := 0
  nextPart := 0
  totalParts := 0
  pus13 := { msgCounter := Vector.replicate 3 0 }

def largedataStart (cfg : Config) (session : LargedataSession) (transactionId : UInt16)
    (unit : List UInt8) : LargedataStatus × LargedataSession :=
  if unit.length = 0 then (.errBadArg, session)
  else if session.state ≠ .idle then (.errBusy, session)
  else if unit.length > cfg.largedataUnitMax then (.errUnitTooLarge, session)
  else
    (.ok, { session with
      -- rounded up: the last part may be shorter
      totalParts := UInt16.ofNat ((unit.length + cfg.pus13PartSize - 1) / cfg.pus13PartSize)
      unit := unit
      cursor := 0
      transactionId := transactionId
      nextPart := 0
      state := .active })

/-- `.ok (some packet)` is a positive return, `.ok none` is 0; the sequence count is
the reference argument as the call leaves it. -/
structure NextPartReply where
  result : Except LargedataStatus (Option (List UInt8))
  session : LargedataSession
  tmSeqCount : UInt16

def largedataNextPart (cfg : Config) (session : LargedataSession) (tmSeqCount : UInt16)
    (request : TmRequest) : NextPartReply :=
  if session.state ≠ .active then
    { result := .ok none, session := session, tmSeqCount := tmSeqCount }
  else
    let remainder := session.unit.length - session.cursor
    let chunk := if remainder > cfg.pus13PartSize then cfg.pus13PartSize else remainder
    let built := pus13BuildPart cfg session.pus13 tmSeqCount request session.transactionId
      session.nextPart session.totalParts (window session.unit session.cursor chunk)
    let driven := { session with pus13 := built.ctx }
    match built.result with
    | .error .errBufTooSmall =>
        { result := .error .errBufTooSmall, session := driven, tmSeqCount := built.tmSeqCount }
    | .error .errBadArg =>
        { result := .error .errBadArg, session := driven, tmSeqCount := built.tmSeqCount }
    | .ok packet =>
        let nextPart := session.nextPart + 1
        { result := .ok (some packet)
          session :=
            { driven with
              cursor := session.cursor + chunk
              nextPart := nextPart
              state := if nextPart ≥ session.totalParts then .idle else session.state }
          tmSeqCount := built.tmSeqCount }

end FswCore
