/-
Coordination.Core.Command — what clients ask for.
-/
import Coordination.Analysis.Record
import Coordination.Connection.Spec
import Coordination.Dataset.Params

namespace Coordination

inductive Command where
  | getConfig
  | getConnection
  | connect (spec : Connection.Spec)
  | disconnect
  | registerDataset (id : DatasetId) (params : Dataset.Params)
  | removeDataset (id : DatasetId)
  | getDataset (id : DatasetId)
  | listDatasets
  | putCompound (id : CompoundId) (dataset : DatasetId) (details : Compound.Details)
  | removeCompound (id : CompoundId)
  | putAnalysis (id : AnalysisId) (compound : CompoundId) (details : Analysis.Details)
  | removeAnalysis (id : AnalysisId)
  | runAnalysis (id : AnalysisId)
  | cancelJob (id : JobId)
  deriving Repr

namespace Command

/-- The name of the operation. -/
def op : Command → String
  | getConfig => "getConfig"
  | getConnection => "getConnection"
  | connect _ => "connect"
  | disconnect => "disconnect"
  | registerDataset _ _ => "registerDataset"
  | removeDataset _ => "removeDataset"
  | getDataset _ => "getDataset"
  | listDatasets => "listDatasets"
  | putCompound _ _ _ => "createOrUpdateCompoundAnalysis"
  | removeCompound _ => "removeCompoundAnalysis"
  | putAnalysis _ _ _ => "createOrUpdateAnalysis"
  | removeAnalysis _ => "removeAnalysis"
  | runAnalysis _ => "runAnalysis"
  | cancelJob _ => "cancelJob"

/-- The tag that a command has on the wire. -/
def tag : Command → String
  | getConfig => "getConfig"
  | getConnection => "getConnection"
  | connect _ => "connect"
  | disconnect => "disconnect"
  | registerDataset _ _ => "registerDataset"
  | removeDataset _ => "removeDataset"
  | getDataset _ => "getDataset"
  | listDatasets => "listDatasets"
  | putCompound _ _ _ => "createOrUpdateCompoundAnalysis"
  | removeCompound _ => "removeCompoundAnalysis"
  | putAnalysis _ _ _ => "createOrUpdateAnalysis"
  | removeAnalysis _ => "removeAnalysis"
  | runAnalysis _ => "runAnalysis"
  | cancelJob _ => "cancelJob"

/-- A command is tagged with the name of its operation. -/
theorem tag_eq_op (command : Command) : command.tag = command.op := by cases command <;> rfl

/-- The tags that are read. -/
def ops : List String :=
  ["getConfig", "getConnection", "connect", "disconnect", "registerDataset", "removeDataset",
    "getDataset", "listDatasets", "createOrUpdateCompoundAnalysis", "removeCompoundAnalysis",
    "createOrUpdateAnalysis", "removeAnalysis", "runAnalysis", "cancelJob"]

/-- The fields besides the tag. -/
def arguments : Command → List (String × Json)
  | getConfig | getConnection | disconnect | listDatasets => []
  | connect spec => [("connection", spec.toJson)]
  | registerDataset id params => [("id", id.toJson), ("params", params.toJson)]
  | removeDataset id | getDataset id => [("id", id.toJson)]
  | putCompound id dataset details =>
    [("id", id.toJson), ("dataset", dataset.toJson), ("details", details.toJson)]
  | removeCompound id => [("id", id.toJson)]
  | putAnalysis id compound details =>
    [("id", id.toJson), ("compoundAnalysis", compound.toJson), ("details", details.toJson)]
  | removeAnalysis id | runAnalysis id => [("id", id.toJson)]
  | cancelJob id => [("id", id.toJson)]

def toJson (command : Command) : Json := .obj (("op", .str command.tag) :: command.arguments)

/-! ## Reading -/

/-- Reads a record with an identifier and nothing else. -/
def id? {kind : EntityKind} (body : Json) : Option (Ident kind) := do
  match ← body.fields? ["id"] with
  | [some id] => Ident.ofJson? id
  | _ => none

def ofJson? (json : Json) : Option Command := do
  match ← json.variant? .alone "op" ops with
  | ("getConfig", body) => (body.fields? []).map fun _ => getConfig
  | ("getConnection", body) => (body.fields? []).map fun _ => getConnection
  | ("connect", body) => match ← body.fields? ["connection"] with
    | [some spec] => return connect (← Connection.Spec.ofJson? .enclosed spec)
    | _ => none
  | ("disconnect", body) => (body.fields? []).map fun _ => disconnect
  | ("registerDataset", body) => match ← body.fields? ["id", "params"] with
    | [some id, some params] =>
      return registerDataset (← Ident.ofJson? id) (← Dataset.Params.ofJson? .enclosed params)
    | _ => none
  | ("removeDataset", body) => return removeDataset (← id? body)
  | ("getDataset", body) => return getDataset (← id? body)
  | ("listDatasets", body) => (body.fields? []).map fun _ => listDatasets
  | ("createOrUpdateCompoundAnalysis", body) =>
    match ← body.fields? ["id", "dataset", "details"] with
    | [some id, some dataset, some details] =>
      return putCompound (← Ident.ofJson? id) (← Ident.ofJson? dataset)
        (← Compound.Details.ofJson? .enclosed details)
    | _ => none
  | ("removeCompoundAnalysis", body) => return removeCompound (← id? body)
  | ("createOrUpdateAnalysis", body) =>
    match ← body.fields? ["id", "compoundAnalysis", "details"] with
    | [some id, some compound, some details] =>
      return putAnalysis (← Ident.ofJson? id) (← Ident.ofJson? compound)
        (← Analysis.Details.ofJson? .enclosed details)
    | _ => none
  | ("removeAnalysis", body) => return removeAnalysis (← id? body)
  | ("runAnalysis", body) => return runAnalysis (← id? body)
  | ("cancelJob", body) => return cancelJob (← id? body)
  | _ => none

end Command

end Coordination
