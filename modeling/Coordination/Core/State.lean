/-
Coordination.Core.State — the authoritative state and the rules for changing it.

Every operation checks before it changes anything: it either fails, or
gives the new state together with its effects in the order in which they
take place. What observers must hear is among the effects.

  §1 State       — `Core`, `Effect`, `Change`.
  §2 Ending jobs — `Job.Table.retire`, `withdraw`.
  §3 Connection  — `connect`, `disconnect`, `teardown`.
  §4 Datasets    — `registerDataset`, `removeDataset`.
  §5 Analyses    — `putCompound`, `removeCompound`, `putAnalysis`, `removeAnalysis`.
  §6 Jobs        — `runAnalysis`, `cancelJob`, `applyReport`.
-/
import Coordination.Analysis.Workspace
import Coordination.Broadcast.Message
import Coordination.Job.Table
import Coordination.Rejection

namespace Coordination

/-! ## §1 State -/

structure Core where
  connection : Connection := .disconnected
  datasets : Dataset.Registry := {}
  workspace : Analysis.Workspace := {}
  jobs : Job.Table := {}
  deriving Repr

/-- What a command brings about outside the state. -/
inductive Effect where
  /-- Something is to answer at an address. -/
  | probe (address : Connection.Address)
  /-- The engine is to run a job. -/
  | start (request : Job.Request)
  /-- The engine is to stop a job. -/
  | cancel (job : JobId)
  /-- Observers are to hear a message. -/
  | publish (message : Message)
  deriving Repr

/-- The messages among some effects. -/
def Effect.messages : List Effect → List Message
  | [] => []
  | publish message :: rest => message :: messages rest
  | _ :: rest => messages rest

/-- A new state, the effects of the change, and what it gives. -/
structure Change (α : Type) where
  core : Core
  effects : List Effect
  value : α

namespace Core

def snapshot (core : Core) : Snapshot :=
  { connection := core.connection
    datasets := core.datasets.datasets
    compounds := core.workspace.compounds
    analyses := core.workspace.analyses
    jobs := core.jobs.records }

def requireConnected (core : Core) : Except Rejection Unit :=
  if core.connection.isConnected then .ok () else .error .notConnected

end Core

/-! ## §2 Ending jobs -/

namespace Job.Table

/-- Drops the job of an analysis. A live one is canceled. -/
def retire (table : Table) (analysis : AnalysisId) : Table × List Effect :=
  match table.removeFor analysis with
  | (rest, some record) =>
    (rest, if record.status.isFinal then []
      else [.cancel record.id, .publish (.jobCanceled ⟨record.id, analysis⟩)])
  | (rest, none) => (rest, [])

/-- Drops the jobs of analyses that were removed, and announces each removal. -/
def withdrawAnalyses (table : Table) : List Analysis → Table × List Effect
  | [] => (table, [])
  | analysis :: others =>
    let (one, retired) := table.retire analysis.id
    let (all, rest) := one.withdrawAnalyses others
    (all, retired ++ .publish (.analysisRemoved analysis.id) :: rest)

/-- Announces that compound analyses were removed with their analyses, and drops the jobs of
those. -/
def withdraw (table : Table) : List Analysis.Workspace.Removed → Table × List Effect
  | [] => (table, [])
  | removed :: others =>
    let (one, children) := table.withdrawAnalyses removed.analyses
    let (all, rest) := one.withdraw others
    (all, children ++ .publish (.compoundRemoved removed.compound.id) :: rest)

/-- Drops the jobs of some analyses. -/
def retireEach (table : Table) : List AnalysisId → Table × List Effect
  | [] => (table, [])
  | analysis :: others =>
    let (one, retired) := table.retire analysis
    let (all, rest) := one.retireEach others
    (all, retired ++ rest)

/-- Drops the jobs of analyses that were changed, and announces each change. -/
def refresh (table : Table) : List Analysis → Table × List Effect
  | [] => (table, [])
  | analysis :: others =>
    let (one, retired) := table.retire analysis.id
    let (all, rest) := one.refresh others
    (all, retired ++ .publish (.analysisStored false analysis) :: rest)

end Job.Table

/-! ## §3 Connection -/

/-- Removes datasets one by one, and announces each that was there. -/
def Dataset.Registry.removeEach (registry : Registry) : List DatasetId → Registry × List Effect
  | [] => (registry, [])
  | id :: others => match registry.remove id with
    | .ok (one, _) =>
      let (all, rest) := one.removeEach others
      (all, .publish (.datasetDeleted id) :: rest)
    | .error _ => registry.removeEach others

namespace Core

/-- Removes every entity: compound analyses with their analyses and jobs, then datasets, then what
jobs are left. -/
def teardown (core : Core) : Core × List Effect :=
  let (workspace, removed) := core.workspace.clear
  let (jobs, withdrawn) := core.jobs.withdraw removed
  let (datasets, deleted) := core.datasets.removeEach core.datasets.ids
  let (_, retired) := jobs.retireEach (jobs.records.map (·.analysis))
  ({ core with workspace := workspace, datasets := datasets, jobs := {} },
    withdrawn ++ deleted ++ retired)

/-- Attaches to a checked spec. What was registered under an earlier connection goes with it. -/
def connect (core : Core) (spec : Connection.Spec) : Change Unit :=
  let (cleared, effects) := if core.connection.isConnected then core.teardown else (core, [])
  { core := { cleared with connection := .connected spec }
    effects := effects ++ [.publish (.connected spec)]
    value := () }

/-- Detaches and removes everything. -/
def disconnect (core : Core) : Change Unit :=
  let (cleared, effects) := core.teardown
  { core := { cleared with connection := .disconnected }
    effects :=
      if core.connection.isConnected then effects ++ [.publish .disconnected] else effects
    value := () }

/-! ## §4 Datasets -/

/-- Removes what depends on a dataset. -/
def removeDependents (core : Core) (dataset : DatasetId) : Core × List Effect :=
  let (workspace, removed) := core.workspace.removeOver dataset
  let (jobs, effects) := core.jobs.withdraw removed
  ({ core with workspace := workspace, jobs := jobs }, effects)

/-- Stores a prepared dataset. If its identifier is taken, what depended on the old dataset is
removed. -/
def registerDataset (core : Core) (dataset : Dataset) : Except Rejection (Change Dataset) := do
  core.requireConnected
  let (cleared, effects) :=
    if core.datasets.contains dataset.id then core.removeDependents dataset.id else (core, [])
  return {
    core := { cleared with datasets := (cleared.datasets.insert dataset).1 }
    effects := effects ++ [.publish (.datasetCreated dataset.id dataset)]
    value := dataset }

/-- Removes a dataset and what depends on it. -/
def removeDataset (core : Core) (id : DatasetId) : Except Rejection (Change Dataset) := do
  core.requireConnected
  let (registry, dataset) ← (core.datasets.remove id).mapError Dataset.Problem.rejection
  let (cleared, effects) := core.removeDependents id
  return {
    core := { cleared with datasets := registry }
    effects := effects ++ [.publish (.datasetDeleted id)]
    value := dataset }

/-! ## §5 Analyses -/

/-- A stored record, and whether it is a new one. -/
structure Stored (α : Type) where
  value : α
  created : Bool

/-- Stores a compound analysis. If it is over another dataset now, the jobs of its analyses are
dropped. -/
def putCompound (core : Core) (id : CompoundId) (dataset : DatasetId)
    (details : Compound.Details) : Except Rejection (Change (Stored Compound)) := do
  core.requireConnected
  let (workspace, stored) ←
    (core.workspace.putCompound core.datasets id dataset details).mapError
      Analysis.Problem.rejection
  let (jobs, effects) := core.jobs.refresh stored.retargeted
  return {
    core := { core with workspace := workspace, jobs := jobs }
    effects := .publish (.compoundStored stored.created stored.compound) :: effects
    value := ⟨stored.compound, stored.created⟩ }

/-- Removes a compound analysis and its analyses. -/
def removeCompound (core : Core) (id : CompoundId) : Except Rejection (Change Compound) := do
  core.requireConnected
  let (workspace, removed) ←
    (core.workspace.removeCompound id).mapError Analysis.Problem.rejection
  let (jobs, effects) := core.jobs.withdraw [removed]
  return {
    core := { core with workspace := workspace, jobs := jobs }
    effects := effects
    value := removed.compound }

/-- Stores an analysis. If it was there before, its job is dropped, since its results are stale. -/
def putAnalysis (core : Core) (id : AnalysisId) (compound : CompoundId)
    (details : Analysis.Details) : Except Rejection (Change (Stored Analysis)) := do
  core.requireConnected
  let (workspace, stored) ←
    (core.workspace.putAnalysis id compound details).mapError Analysis.Problem.rejection
  let (jobs, effects) := if stored.created then (core.jobs, []) else core.jobs.retire id
  return {
    core := { core with workspace := workspace, jobs := jobs }
    effects := effects ++ .publish (.analysisStored stored.created stored.analysis) ::
      stored.reordered.map fun parent => .publish (.compoundStored false parent)
    value := ⟨stored.analysis, stored.created⟩ }

/-- Removes an analysis and its job. -/
def removeAnalysis (core : Core) (id : AnalysisId) : Except Rejection (Change Analysis) := do
  core.requireConnected
  let (workspace, analysis, parent) ←
    (core.workspace.removeAnalysis id).mapError Analysis.Problem.rejection
  let (jobs, effects) := core.jobs.retire id
  return {
    core := { core with workspace := workspace, jobs := jobs }
    effects := effects ++ .publish (.analysisRemoved id) ::
      parent.toList.map fun parent => .publish (.compoundStored false parent)
    value := analysis }

/-! ## §6 Jobs -/

/-- The answer of an engine that is asked to run a job: nothing, or why it refuses. -/
abbrev EngineAnswer := Job.Request → Option Job.Problem

/-- Starts a new job for an analysis and drops the one before. If the engine refuses, the command
is accepted all the same, and the job has failed. -/
def runAnalysis (core : Core) (fresh : JobId) (answer : EngineAnswer) (id : AnalysisId) :
    Except Rejection (Change Job.Handle) := do
  core.requireConnected
  let some analysis := core.workspace.analysis? id | .error (.missing id)
  let some dataset := core.datasets.get? analysis.dataset
    | .error (.datasetNotFound analysis.dataset)
  let (retired, effects) := core.jobs.retire id
  let request : Job.Request := ⟨fresh, id, dataset, analysis.details⟩
  let (inserted, _) := retired.insert request.handle
  match answer request with
  | none =>
    return {
      core := { core with jobs := inserted }
      effects := effects ++ [.start request]
      value := request.handle }
  | some problem =>
    let failure := problem.rejection
    return {
      core := { core with jobs := (inserted.setStatus fresh .error).1 }
      effects := effects ++
        [.start request, .publish (.jobFailed request.handle failure.code failure.text)]
      value := request.handle }

/-- Cancels a job. Nothing happens if it has ended. -/
def cancelJob (core : Core) (id : JobId) : Except Rejection (Change Job.Handle) := do
  core.requireConnected
  let some record := core.jobs.get? id | .error (.missing id)
  if record.status.isFinal then return ⟨core, [], record.handle⟩
  else
    return {
      core := { core with jobs := (core.jobs.setStatus id .canceled).1 }
      effects := [.cancel id, .publish (.jobCanceled record.handle)]
      value := record.handle }

/-- Takes in a report of the engine. A report on a job that is not current or has ended counts for
nothing. -/
def applyReport (core : Core) (report : Job.Report) : Change Unit :=
  match core.jobs.apply report with
  | (jobs, some record) =>
    { core := { core with jobs := jobs }
      effects := [.publish (.ofPhase record.handle report.phase)]
      value := () }
  | (_, none) => ⟨core, [], ()⟩

end Core

end Coordination
