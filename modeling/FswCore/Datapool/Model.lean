import FswCore.Config
import FswCore.Library.BigEndian
import FswCore.Library.Bytes

/-!
Contract: `lib/datapool/src/datapool.c`, function by function.

A typed value is one constructor for each type tag, with the union member that
tag selects; a float is held as its bit pattern. A type outside the enumeration
cannot be built, so the width-zero branches have no counterpart, and neither
have the NULL checks. The `params` array with its `count` is a list.
-/

namespace FswCore

open Library Library.BigEndian

inductive DpType where
  | u8
  | u16
  | u32
  | i8
  | i16
  | i32
  | f32
deriving DecidableEq, Repr

inductive DpValue where
  | u8 (value : UInt8)
  | u16 (value : UInt16)
  | u32 (value : UInt32)
  | i8 (value : Int8)
  | i16 (value : Int16)
  | i32 (value : Int32)
  | f32 (bits : UInt32)
deriving DecidableEq

inductive DpAccess where
  | readOnly
  | readWrite
deriving DecidableEq, Repr

structure DpParam where
  id : UInt16
  access : DpAccess
  value : DpValue
deriving DecidableEq

structure Datapool where
  params : List DpParam
  generation : UInt32
deriving DecidableEq

inductive DatapoolStatus where
  | ok
  | errBadArg
  | errCapacity
  | errDuplicate
  | errType
  | errNotFound
  | errReadOnly
  | errBufTooSmall
deriving DecidableEq, Repr

/-- The enumerator of a type. -/
def DpType.code : DpType → UInt8
  | .u8 => 0
  | .u16 => 1
  | .u32 => 2
  | .i8 => 3
  | .i16 => 4
  | .i32 => 5
  | .f32 => 6

/-- The range check and the cast of a type code. -/
def dpTypeOfCode (code : UInt8) : Option DpType :=
  match code with
  | 0 => some .u8
  | 1 => some .u16
  | 2 => some .u32
  | 3 => some .i8
  | 4 => some .i16
  | 5 => some .i32
  | 6 => some .f32
  | _ => none

def dpTypeWidth : DpType → Nat
  | .u8 | .i8 => 1
  | .u16 | .i16 => 2
  | .u32 | .i32 | .f32 => 4

def DpValue.type : DpValue → DpType
  | .u8 _ => .u8
  | .u16 _ => .u16
  | .u32 _ => .u32
  | .i8 _ => .i8
  | .i16 _ => .i16
  | .i32 _ => .i32
  | .f32 _ => .f32

/-! ### Value codec -/

def dpValueBits : DpValue → UInt32
  | .u8 value => value.toUInt32
  | .u16 value => value.toUInt32
  | .u32 value => value
  | .i8 value => value.toUInt8.toUInt32
  | .i16 value => value.toUInt16.toUInt32
  | .i32 value => value.toUInt32
  | .f32 bits => bits

def dpValueFromBits (type : DpType) (bits : UInt32) : DpValue :=
  match type with
  | .u8 => .u8 bits.toUInt8
  | .u16 => .u16 bits.toUInt16
  | .u32 => .u32 bits
  | .i8 => .i8 bits.toUInt8.toInt8
  | .i16 => .i16 bits.toUInt16.toInt16
  | .i32 => .i32 bits.toInt32
  | .f32 => .f32 bits

def dpValueEncode (value : DpValue) (outCap : Nat) : Except DatapoolStatus (List UInt8) :=
  let width := dpTypeWidth value.type
  if outCap < width then .error .errBufTooSmall
  else .ok ((List.range width).map fun index =>
    ((dpValueBits value >>> UInt32.ofNat (8 * (width - 1 - index))) &&& 0xFF).toUInt8)

/-- The value and the bytes consumed. -/
def dpValueDecode (type : DpType) (input : List UInt8) : Except DatapoolStatus (DpValue × Nat) :=
  let width := dpTypeWidth type
  if input.length < width then .error .errBufTooSmall
  else
    let bits := (List.range width).foldl
      (fun (bits : UInt32) index => (bits <<< 8) ||| (input.getD index 0).toUInt32) 0
    .ok (dpValueFromBits type bits, width)

/-! ### Store -/

def dpIdSeen (params : List DpParam) (id : UInt16) : Bool :=
  params.any fun param => param.id == id

def dpValidateLoop (seen : List DpParam) : List DpParam → DatapoolStatus
  | [] => .ok
  | param :: rest =>
      if dpIdSeen seen param.id then .errDuplicate
      else dpValidateLoop (seen ++ [param]) rest

def dpValidate (params : List DpParam) : DatapoolStatus := dpValidateLoop [] params

/-- A failed initialisation leaves the pool empty. -/
def datapoolInit (cfg : Config) (params : List DpParam) : DatapoolStatus × Datapool :=
  if params.length > cfg.datapoolCapacity then (.errCapacity, { params := [], generation := 0 })
  else
    match dpValidate params with
    | .ok => (.ok, { params := params, generation := 0 })
    | status => (status, { params := [], generation := 0 })

def datapoolFind (dp : Datapool) (id : UInt16) : Option DpParam :=
  dp.params.find? fun param => param.id == id

def datapoolGet (dp : Datapool) (id : UInt16) : Except DatapoolStatus DpValue :=
  match datapoolFind dp id with
  | none => .error .errNotFound
  | some param => .ok param.value

def datapoolSetLoop (id : UInt16) (value : DpValue) :
    List DpParam → Except DatapoolStatus (List DpParam)
  | [] => .error .errNotFound
  | param :: rest =>
      if param.id ≠ id then
        match datapoolSetLoop id value rest with
        | .error status => .error status
        | .ok changed => .ok (param :: changed)
      else if value.type ≠ param.value.type then .error .errType
      else if param.access ≠ .readWrite then .error .errReadOnly
      else .ok ({ param with value := value } :: rest)

def datapoolSet (dp : Datapool) (id : UInt16) (value : DpValue) : DatapoolStatus × Datapool :=
  match datapoolSetLoop id value dp.params with
  | .error status => (status, dp)
  | .ok params => (.ok, { params := params, generation := dp.generation + 1 })

/-! ### Serialisation -/

def datapoolSerializeLoop (outCap : Nat) :
    List DpParam → List UInt8 → Except DatapoolStatus (List UInt8)
  | [], out => .ok out
  | param :: rest, out =>
      if outCap - out.length < 3 then .error .errBufTooSmall
      else
        match dpValueEncode param.value (outCap - (out.length + 3)) with
        | .error status => .error status
        | .ok bytes => datapoolSerializeLoop outCap rest
            (out ++ put16 param.id ++ [param.value.type.code] ++ bytes)

def datapoolSerialize (dp : Datapool) (outCap : Nat) : Except DatapoolStatus (List UInt8) :=
  if outCap < 2 then .error .errBufTooSmall
  else datapoolSerializeLoop outCap dp.params (put16 (UInt16.ofNat dp.params.length))

/-- Restore by identifier and type; a parameter that is not there is skipped. -/
def dpRestore (id : UInt16) (value : DpValue) : List DpParam → List DpParam
  | [] => []
  | param :: rest =>
      if param.id = id ∧ param.value.type = value.type then { param with value := value } :: rest
      else param :: dpRestore id value rest

def datapoolDeserializeLoop (input : List UInt8) :
    Nat → Nat → List DpParam → DatapoolStatus × List DpParam
  | 0, _, params => (.ok, params)
  | remaining + 1, off, params =>
      if off + 3 > input.length then (.errBufTooSmall, params)
      else
        let id := be16At input off
        match dpTypeOfCode (input.getD (off + 2) 0) with
        | none => (.errType, params)
        | some type =>
            if off + 3 + dpTypeWidth type > input.length then (.errBufTooSmall, params)
            else
              match dpValueDecode type (input.drop (off + 3)) with
              | .error status => (status, params)
              | .ok (value, consumed) =>
                  datapoolDeserializeLoop input remaining (off + 3 + consumed)
                    (dpRestore id value params)

/-- Values restored before an error stay restored; the generation is never
touched. -/
def datapoolDeserialize (dp : Datapool) (input : List UInt8) : DatapoolStatus × Datapool :=
  if input.length < 2 then (.errBufTooSmall, dp)
  else
    let (status, params) := datapoolDeserializeLoop input (be16At input 0).toNat 2 dp.params
    (status, { dp with params := params })

end FswCore
