/-
Coordination.Job.Status — the life of a job.

A job is one run of an analysis. The engine that runs it reports phases;
each phase puts the job in a status, and three of the statuses are final.

  §1 Status   — `Status`, `Status.isFinal`.
  §2 Phases   — `Phase`, `Report`.
  §3 Records  — `Handle`, `Record`, `Request`, `Problem`.
-/
import Coordination.Analysis.Record
import Coordination.Dataset.Params

namespace Coordination.Job

/-! ## §1 Status -/

inductive Status where
  /-- Handed to the engine; nothing was reported yet. -/
  | created
  | running
  | finished
  | canceled
  | error
  deriving DecidableEq, Repr

namespace Status

/-- Whether no further report counts. -/
def isFinal : Status → Bool
  | finished | canceled | error => true
  | created | running => false

def name : Status → String
  | created => "created"
  | running => "running"
  | finished => "finished"
  | canceled => "canceled"
  | error => "error"

def ofName? : String → Option Status
  | "created" => some created
  | "running" => some running
  | "finished" => some finished
  | "canceled" => some canceled
  | "error" => some error
  | _ => none

def toJson (status : Status) : Json := .str status.name

def ofJson? (place : Json.Place) (json : Json) : Option Status :=
  (Json.word? place json).bind ofName?

end Status

/-! ## §2 Phases -/

/-- What an engine reports of a job. -/
inductive Phase where
  | started
  | progress (done total : Nat)
  | finished (result : Json)
  | errored (message : String)
  | canceled
  deriving Repr

/-- The status of a live job after a phase. -/
def Phase.status : Phase → Status
  | started | progress _ _ => .running
  | finished _ => .finished
  | errored _ => .error
  | canceled => .canceled

structure Report where
  job : JobId
  phase : Phase
  deriving Repr

/-! ## §3 Records -/

/-- A job and the analysis that it runs. -/
structure Handle where
  job : JobId
  analysis : AnalysisId
  deriving DecidableEq, Repr

namespace Handle

def toFields (handle : Handle) : List (String × Json) :=
  [("job", handle.job.toJson), ("analysis", handle.analysis.toJson)]

def toJson (handle : Handle) : Json := .obj handle.toFields

def ofJson? (json : Json) : Option Handle := do
  match ← json.fields? ["job", "analysis"] with
  | [some job, some analysis] => return ⟨← Ident.ofJson? job, ← Ident.ofJson? analysis⟩
  | _ => none

end Handle

/-- A job as it is listed. -/
structure Record where
  id : JobId
  analysis : AnalysisId
  status : Status
  deriving DecidableEq, Repr

namespace Record

def handle (record : Record) : Handle := ⟨record.id, record.analysis⟩

def toJson (record : Record) : Json :=
  .obj [("id", record.id.toJson), ("analysis", record.analysis.toJson),
    ("status", record.status.toJson)]

def ofJson? (json : Json) : Option Record := do
  match ← json.fields? ["id", "analysis", "status"] with
  | [some id, some analysis, some status] =>
    return ⟨← Ident.ofJson? id, ← Ident.ofJson? analysis, ← Status.ofJson? .alone status⟩
  | _ => none

end Record

/-- All that an engine is told of a job. -/
structure Request where
  job : JobId
  analysis : AnalysisId
  dataset : Dataset
  details : Analysis.Details
  deriving Repr

def Request.handle (request : Request) : Handle := ⟨request.job, request.analysis⟩

/-- Why a job is not run. -/
inductive Problem where
  | rejected (reason : String)
  | invalidRegion (reason : String)
  /-- The engine takes no more work. -/
  | shutDown
  deriving DecidableEq, Repr

def Problem.text : Problem → String
  | rejected reason => "job rejected: " ++ reason
  | invalidRegion reason => "invalid roi: " ++ reason
  | shutDown => "executor is shut down"

end Coordination.Job
