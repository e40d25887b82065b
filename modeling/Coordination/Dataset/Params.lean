/-
Coordination.Dataset.Params — datasets and their parameters.

A dataset is a stack of detector frames over a scan grid: in a headerless
file, or made up in memory. A client describes it by parameters; the
registered record repeats them unchanged and adds the shape of the whole.
-/
import Coordination.Dataset.ElementType

namespace Coordination

namespace Dataset

/-- A headerless file of frames. -/
structure RawParams where
  path : String
  dtype : ElementType
  detectorSize : List Nat
  scanSize : List Nat
  enableDirect : Bool
  deriving DecidableEq, Repr

/-- Synthetic frames without a file. -/
structure MemoryParams where
  dtype : ElementType
  detectorSize : List Nat
  scanSize : List Nat
  deriving DecidableEq, Repr

/-- A dataset as a client describes it. -/
inductive Params where
  | raw (params : RawParams)
  | memory (params : MemoryParams)
  deriving DecidableEq, Repr

namespace Params

def typeName : Params → String
  | raw _ => "RAW"
  | memory _ => "MEMORY"

def dtype : Params → ElementType
  | raw p => p.dtype
  | memory p => p.dtype

def scanSize : Params → List Nat
  | raw p => p.scanSize
  | memory p => p.scanSize

def detectorSize : Params → List Nat
  | raw p => p.detectorSize
  | memory p => p.detectorSize

/-- The file behind the dataset. -/
def path? : Params → Option String
  | raw p => some p.path
  | memory _ => none

/-- The fields on the wire, the tag first. -/
def toFields : Params → List (String × Json)
  | raw p => [("type", .str "RAW"), ("path", .str p.path), ("dtype", p.dtype.toJson),
      ("detector_size", .ofList .ofNat p.detectorSize), ("scan_size", .ofList .ofNat p.scanSize),
      ("enable_direct", .bool p.enableDirect)]
  | memory p => [("type", .str "MEMORY"), ("dtype", p.dtype.toJson),
      ("detector_size", .ofList .ofNat p.detectorSize), ("scan_size", .ofList .ofNat p.scanSize)]

def toJson (params : Params) : Json := .obj params.toFields

/-- Sizes are lists of counts. -/
def sizes? : Json → Option (List Nat) := Json.list? Json.nat?

def ofJson? (place : Json.Place) (json : Json) : Option Params := do
  match ← json.choice? place "type" [["RAW"], ["MEMORY"]] with
  | (0, body) =>
    match ← body.fields? ["path", "dtype", "detector_size", "scan_size", "enable_direct"] with
    | [some path, some dtype, some detector, some scan, direct] =>
      return raw {
        path := ← path.string?
        dtype := ← ElementType.ofJson? .enclosed dtype
        detectorSize := ← sizes? detector
        scanSize := ← sizes? scan
        enableDirect := ← match direct with
          | some flag => flag.bool?
          | none => some false }
    | _ => none
  | (1, body) => match ← body.fields? ["dtype", "detector_size", "scan_size"] with
    | [some dtype, some detector, some scan] =>
      return memory {
        dtype := ← ElementType.ofJson? .enclosed dtype
        detectorSize := ← sizes? detector
        scanSize := ← sizes? scan }
    | _ => none
  | _ => none

end Params

/-- The parameters of a registered dataset and the shape they give. -/
structure Details where
  params : Params
  shape : List Nat
  deriving DecidableEq, Repr

namespace Details

/-- The shape is one more field beside those of the parameters. -/
def toJson (details : Details) : Json :=
  .obj (details.params.toFields ++ [("shape", .ofList .ofNat details.shape)])

/-- Only an object is read, since the parameters have no fixed place beside the shape. -/
def ofJson? : Json → Option Details
  | .obj fields => do
    let shape ← Params.sizes? (← Json.lookup "shape" fields)
    let params ← Params.ofJson? .enclosed (.obj fields)
    return ⟨params, shape⟩
  | _ => none

end Details

end Dataset

/-- A registered dataset. -/
structure Dataset where
  id : DatasetId
  details : Dataset.Details
  deriving DecidableEq, Repr

namespace Dataset

def shape (dataset : Dataset) : List Nat := dataset.details.shape

def scanSize (dataset : Dataset) : List Nat := dataset.details.params.scanSize

def detectorSize (dataset : Dataset) : List Nat := dataset.details.params.detectorSize

def toJson (dataset : Dataset) : Json :=
  .obj [("id", dataset.id.toJson), ("params", dataset.details.toJson)]

def ofJson? (json : Json) : Option Dataset := do
  match ← json.fields? ["id", "params"] with
  | [some id, some params] => return ⟨← Ident.ofJson? id, ← Details.ofJson? params⟩
  | _ => none

end Dataset

end Coordination
