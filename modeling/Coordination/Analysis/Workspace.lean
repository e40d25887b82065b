/-
Coordination.Analysis.Workspace — the compound analyses and analyses of a server.

A compound analysis always refers to a registered dataset, and an
analysis to an existing compound analysis. Both are listed in the order
in which they were created; storing one again keeps its place. Every
operation checks before it changes anything. Jobs are not known here: the
results say which analyses were changed, moved or removed, and their jobs
are ended elsewhere.

  §1 Storing   — `putCompound`, `putAnalysis`.
  §2 Removing  — `removeAnalysis`, `removeCompound`, `removeOver`, `clear`.
-/
import Coordination.Analysis.Index
import Coordination.Analysis.Record
import Coordination.Dataset.Registry

namespace Coordination

instance : Keyed Analysis AnalysisId := ⟨Analysis.id⟩

instance : Keyed Compound CompoundId := ⟨Compound.id⟩

namespace Analysis

structure Workspace where
  compounds : List Compound := []
  analyses : List Analysis := []
  index : Index := {}
  deriving Repr

namespace Workspace

def analysis? (workspace : Workspace) (id : AnalysisId) : Option Analysis :=
  Roster.find? id workspace.analyses

def compound? (workspace : Workspace) (id : CompoundId) : Option Compound :=
  Roster.find? id workspace.compounds

def isEmpty (workspace : Workspace) : Bool :=
  workspace.compounds.isEmpty && workspace.analyses.isEmpty

/-! ## §1 Storing -/

/-- A stored compound analysis. -/
structure CompoundStored where
  compound : Compound
  created : Bool
  /-- Its analyses, if they are now over another dataset. -/
  retargeted : List Analysis

/-- A stored analysis. -/
structure AnalysisStored where
  analysis : Analysis
  created : Bool
  /-- The compound analyses whose order changed. -/
  reordered : List Compound

/-- The first occurrences in a list, in order, of what is allowed and not seen before. -/
def firsts (allowed seen : List AnalysisId) : List AnalysisId → List AnalysisId
  | [] => []
  | id :: rest =>
    if id ∈ allowed ∧ id ∉ seen then id :: firsts allowed (id :: seen) rest
    else firsts allowed seen rest

/-- The requested children in the requested order, then the others in link order. -/
def arrange (requested children : List AnalysisId) : List AnalysisId :=
  firsts children [] (requested ++ children)

/-- The workspace with a compound analysis over a dataset that is not the one it was over. -/
def retarget (workspace : Workspace) (id : CompoundId) (old new : DatasetId) :
    Workspace × List Analysis :=
  let index := (workspace.index.unlinkCompound old id).linkCompound new id
  let children := index.analysesOf id
  let moved (analysis : Analysis) := { analysis with dataset := new }
  ({ workspace with
      index := index
      analyses := workspace.analyses.map fun a => if a.id ∈ children then moved a else a },
    children.filterMap fun child => (workspace.analysis? child).map moved)

/-- Stores a compound analysis over a registered dataset. -/
def putCompound (workspace : Workspace) (datasets : Dataset.Registry) (id : CompoundId)
    (dataset : DatasetId) (details : Compound.Details) :
    Except Problem (Workspace × CompoundStored) :=
  if datasets.contains dataset then
    let (linked, retargeted) := match workspace.compound? id with
      | some old =>
        if old.dataset = dataset then (workspace, []) else workspace.retarget id old.dataset dataset
      | none => ({ workspace with index := workspace.index.linkCompound dataset id }, [])
    let compound : Compound :=
      ⟨id, dataset, { details with order := arrange details.order (linked.index.analysesOf id) }⟩
    .ok ({ linked with compounds := Roster.set compound linked.compounds },
      { compound := compound
        created := (workspace.compound? id).isNone
        retargeted := retargeted })
  else .error (.datasetNotFound dataset)

/-- Takes an analysis out of the order of a compound analysis; also gives the compound analysis
if its order changed. -/
def detach (workspace : Workspace) (compound : CompoundId) (analysis : AnalysisId) :
    Workspace × Option Compound :=
  match workspace.compound? compound with
  | some old =>
    if analysis ∈ old.details.order then
      let new := old.withOrder (old.details.order.filter (· ≠ analysis))
      ({ workspace with compounds := Roster.replace new workspace.compounds }, some new)
    else (workspace, none)
  | none => (workspace, none)

/-- Puts an analysis last in the order of a compound analysis, unless it is in it; also gives the
compound analysis if its order changed. -/
def attach (workspace : Workspace) (compound : CompoundId) (analysis : AnalysisId) :
    Workspace × Option Compound :=
  match workspace.compound? compound with
  | some old =>
    if analysis ∈ old.details.order then (workspace, none)
    else
      let new := old.withOrder (old.details.order ++ [analysis])
      ({ workspace with compounds := Roster.replace new workspace.compounds }, some new)
  | none => (workspace, none)

/-- Takes an analysis away from a compound analysis. -/
def leave (workspace : Workspace) (compound : CompoundId) (analysis : AnalysisId) :
    Workspace × Option Compound :=
  { workspace with index := workspace.index.unlinkAnalysis compound analysis }.detach compound
    analysis

/-- Gives an analysis to a compound analysis. -/
def enter (workspace : Workspace) (compound : CompoundId) (analysis : AnalysisId) :
    Workspace × Option Compound :=
  { workspace with index := workspace.index.linkAnalysis compound analysis }.attach compound
    analysis

/-- Stores an analysis under an existing compound analysis. -/
def putAnalysis (workspace : Workspace) (id : AnalysisId) (compound : CompoundId)
    (details : Details) : Except Problem (Workspace × AnalysisStored) := do
  details.check
  match workspace.compound? compound with
  | none => .error (.parentNotFound compound)
  | some parent =>
    let (left, former) := match workspace.analysis? id with
      | some old => if old.compound = compound then (workspace, none) else workspace.leave old.compound id
      | none => (workspace, none)
    let (entered, current) := left.enter compound id
    let analysis : Analysis := ⟨id, parent.dataset, compound, details⟩
    return ({ entered with analyses := Roster.set analysis entered.analyses },
      { analysis := analysis
        created := (workspace.analysis? id).isNone
        reordered := former.toList ++ current.toList })

/-! ## §2 Removing -/

/-- A compound analysis that was removed together with its analyses. -/
structure Removed where
  compound : Compound
  analyses : List Analysis

/-- Removes an analysis; also gives its compound analysis if the order there changed. -/
def removeAnalysis (workspace : Workspace) (id : AnalysisId) :
    Except Problem (Workspace × Analysis × Option Compound) :=
  match workspace.analysis? id with
  | some analysis =>
    let (left, parent) :=
      { workspace with analyses := Roster.erase id workspace.analyses }.leave analysis.compound id
    .ok (left, analysis, parent)
  | none => .error (.analysisNotFound id)

/-- Removes a compound analysis and its analyses. -/
def removeCompound (workspace : Workspace) (id : CompoundId) :
    Except Problem (Workspace × Removed) :=
  match workspace.compound? id with
  | some compound =>
    let (index, children) := workspace.index.dropCompound compound.dataset id
    .ok ({ compounds := Roster.erase id workspace.compounds
           analyses := workspace.analyses.filter (·.id ∉ children)
           index := index },
      { compound := compound
        analyses := children.filterMap workspace.analysis? })
  | none => .error (.compoundNotFound id)

/-- Removes the compound analyses of a list, one after the other. -/
def removeEach (workspace : Workspace) : List CompoundId → Workspace × List Removed
  | [] => (workspace, [])
  | id :: rest => match workspace.removeCompound id with
    | .ok (next, removed) =>
      let (last, more) := next.removeEach rest
      (last, removed :: more)
    | .error _ => workspace.removeEach rest

/-- Removes everything that depends on a dataset. -/
def removeOver (workspace : Workspace) (dataset : DatasetId) : Workspace × List Removed :=
  workspace.removeEach (workspace.index.compoundsOf dataset)

/-- Removes everything, compound analyses in the order of their creation. -/
def clear (workspace : Workspace) : Workspace × List Removed :=
  let (last, removed) := workspace.removeEach (workspace.compounds.map (·.id))
  ({ last with index := {} }, removed)

end Workspace

end Analysis

end Coordination
