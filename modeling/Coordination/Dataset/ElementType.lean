/-
Coordination.Dataset.ElementType — the types of detector elements.
-/
import Coordination.Json.Record

namespace Coordination

/-- The numeric type of the elements of a dataset. -/
inductive ElementType where
  | uint8 | uint16 | uint32 | uint64
  | int8 | int16 | int32 | int64
  | float32 | float64
  | complex64 | complex128
  deriving DecidableEq, Repr

namespace ElementType

/-- Bytes per element. -/
def size : ElementType → Nat
  | uint8 | int8 => 1
  | uint16 | int16 => 2
  | uint32 | int32 | float32 => 4
  | uint64 | int64 | float64 | complex64 => 8
  | complex128 => 16

def name : ElementType → String
  | uint8 => "uint8"
  | uint16 => "uint16"
  | uint32 => "uint32"
  | uint64 => "uint64"
  | int8 => "int8"
  | int16 => "int16"
  | int32 => "int32"
  | int64 => "int64"
  | float32 => "float32"
  | float64 => "float64"
  | complex64 => "complex64"
  | complex128 => "complex128"

def ofName? : String → Option ElementType
  | "uint8" => some uint8
  | "uint16" => some uint16
  | "uint32" => some uint32
  | "uint64" => some uint64
  | "int8" => some int8
  | "int16" => some int16
  | "int32" => some int32
  | "int64" => some int64
  | "float32" => some float32
  | "float64" => some float64
  | "complex64" => some complex64
  | "complex128" => some complex128
  | _ => none

def toJson (type : ElementType) : Json := .str type.name

def ofJson? (place : Json.Place) (json : Json) : Option ElementType :=
  (Json.word? place json).bind ofName?

end ElementType

end Coordination
