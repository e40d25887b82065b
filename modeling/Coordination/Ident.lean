/-
Coordination.Ident — identifiers by kind of entity.

Datasets, compound analyses, analyses and jobs are each named by a UUID.
The kind is part of the type, so that a dataset's identifier cannot stand
where an analysis is expected.
-/
import Coordination.Uuid

namespace Coordination

/-- The kinds of entities that have identifiers. -/
inductive EntityKind where
  | dataset
  | compoundAnalysis
  | analysis
  | job
  deriving DecidableEq, Repr

namespace EntityKind

/-- The kind in a sentence. -/
def text : EntityKind → String
  | dataset => "dataset"
  | compoundAnalysis => "compound analysis"
  | analysis => "analysis"
  | job => "job"

/-- The kind on the wire. -/
def name : EntityKind → String
  | dataset => "dataset"
  | compoundAnalysis => "compoundAnalysis"
  | analysis => "analysis"
  | job => "job"

def ofName? : String → Option EntityKind
  | "dataset" => some dataset
  | "compoundAnalysis" => some compoundAnalysis
  | "analysis" => some analysis
  | "job" => some job
  | _ => none

/-- The name of the kind's identifiers. -/
def idName : EntityKind → String
  | dataset => "DatasetId"
  | compoundAnalysis => "CompoundAnalysisId"
  | analysis => "AnalysisId"
  | job => "JobId"

end EntityKind

/-- The identifier of an entity of the given kind. -/
structure Ident (kind : EntityKind) where
  uuid : Uuid
  deriving DecidableEq, Repr

abbrev DatasetId := Ident .dataset
abbrev CompoundId := Ident .compoundAnalysis
abbrev AnalysisId := Ident .analysis
abbrev JobId := Ident .job

namespace Ident

variable {kind : EntityKind}

def ofNat (n : Nat) : Ident kind := ⟨Uuid.ofNat n⟩

protected def toString (id : Ident kind) : String := id.uuid.toString

instance : ToString (Ident kind) := ⟨Ident.toString⟩

def ofString? (s : String) : Option (Ident kind) := (Uuid.ofString? s).map Ident.mk

/-- The identifier with the name of its kind. -/
def describe (id : Ident kind) : String :=
  kind.idName ++ "(" ++ id.toString ++ ")"

end Ident

end Coordination
