/-
Coordination.Analysis.Record — analyses and compound analyses.

A compound analysis groups analyses over one dataset and lists them in
the order that clients show. An analysis belongs to one compound
analysis; its parameters are kept exactly as the client gave them.

  §1 Analyses           — `Analysis`, `Analysis.Details.check`.
  §2 Compound analyses  — `Compound`.
-/
import Coordination.Analysis.Kind

namespace Coordination

/-! ## §1 Analyses -/

namespace Analysis

/-- Why an analysis or compound analysis cannot be stored or removed. -/
inductive Problem where
  /-- A compound analysis refers to this dataset, which is not registered. -/
  | datasetNotFound (id : DatasetId)
  /-- An analysis refers to this compound analysis, which does not exist. -/
  | parentNotFound (id : CompoundId)
  /-- The compound analysis to remove does not exist. -/
  | compoundNotFound (id : CompoundId)
  /-- The analysis to remove does not exist. -/
  | analysisNotFound (id : AnalysisId)
  | invalidDetails (reason : String)
  deriving DecidableEq, Repr

def Problem.text : Problem → String
  | datasetNotFound id => "dataset " ++ id.toString ++ " not found"
  | parentNotFound id => "compound analysis " ++ id.toString ++ " not found"
  | compoundNotFound id => "compound analysis " ++ id.toString ++ " does not exist"
  | analysisNotFound id => "analysis " ++ id.toString ++ " does not exist"
  | invalidDetails reason => reason

/-- What to compute. -/
structure Details where
  kind : Kind
  parameters : Json
  deriving Repr

namespace Details

/-- Parameters have to be an object. -/
def check (details : Details) : Except Problem Unit :=
  if details.parameters.isObject then .ok ()
  else .error (.invalidDetails ("parameters for " ++ details.kind.name ++ " must be an object"))

def toJson (details : Details) : Json :=
  .obj [("analysisType", details.kind.toJson), ("parameters", details.parameters)]

/-- Any value is read as parameters; if there are none, they are an empty object. -/
def ofJson? (place : Json.Place) (json : Json) : Option Details := do
  match ← json.fields? ["analysisType", "parameters"] with
  | [some kind, parameters] =>
    return ⟨← Kind.ofJson? place kind, parameters.getD .empty⟩
  | _ => none

end Details

end Analysis

/-- One computation on a dataset. -/
structure Analysis where
  id : AnalysisId
  dataset : DatasetId
  compound : CompoundId
  details : Analysis.Details
  deriving Repr

namespace Analysis

def toJson (analysis : Analysis) : Json :=
  .obj [("id", analysis.id.toJson), ("dataset", analysis.dataset.toJson),
    ("compoundAnalysis", analysis.compound.toJson), ("details", analysis.details.toJson)]

def ofJson? (json : Json) : Option Analysis := do
  match ← json.fields? ["id", "dataset", "compoundAnalysis", "details"] with
  | [some id, some dataset, some compound, some details] =>
    return ⟨← Ident.ofJson? id, ← Ident.ofJson? dataset, ← Ident.ofJson? compound,
      ← Details.ofJson? .alone details⟩
  | _ => none

end Analysis

/-! ## §2 Compound analyses -/

namespace Compound

/-- The kind of a compound analysis and the order of its analyses. -/
structure Details where
  mainKind : Analysis.Kind
  order : List AnalysisId
  deriving DecidableEq, Repr

namespace Details

def toJson (details : Details) : Json :=
  .obj [("mainType", details.mainKind.toJson), ("analyses", .ofList Ident.toJson details.order)]

/-- The order is empty if it is left out. -/
def ofJson? (place : Json.Place) (json : Json) : Option Details := do
  match ← json.fields? ["mainType", "analyses"] with
  | [some kind, order] =>
    let mainKind ← Analysis.Kind.ofJson? place kind
    let order ← match order with
      | some list => list.list? Ident.ofJson?
      | none => some []
    return ⟨mainKind, order⟩
  | _ => none

end Details

end Compound

/-- A group of analyses over one dataset. -/
structure Compound where
  id : CompoundId
  dataset : DatasetId
  details : Compound.Details
  deriving DecidableEq, Repr

namespace Compound

def toJson (compound : Compound) : Json :=
  .obj [("id", compound.id.toJson), ("dataset", compound.dataset.toJson),
    ("details", compound.details.toJson)]

def ofJson? (json : Json) : Option Compound := do
  match ← json.fields? ["id", "dataset", "details"] with
  | [some id, some dataset, some details] =>
    return ⟨← Ident.ofJson? id, ← Ident.ofJson? dataset, ← Details.ofJson? .alone details⟩
  | _ => none

/-- The compound analysis with its analyses in another order. -/
def withOrder (compound : Compound) (order : List AnalysisId) : Compound :=
  { compound with details := { compound.details with order := order } }

end Compound

end Coordination
