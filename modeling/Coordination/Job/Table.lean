/-
Coordination.Job.Table — the current job of every analysis.

Only the latest job of an analysis has a record. Recording a new job drops
the record of the one before, so that a report on that one meets nothing
and is ignored, as are reports on jobs whose status is final.

  §1 Table     — records and who is current.
  §2 Changes   — `insert`, `setStatus`, `apply`, `removeFor`.
-/
import Coordination.Job.Status
import Coordination.Roster

namespace Coordination

instance : Keyed Job.Record JobId := ⟨Job.Record.id⟩

namespace Job

/-! ## §1 Table -/

/-- Which job is an analysis's current one. -/
structure Current where
  analysis : AnalysisId
  job : JobId
  deriving DecidableEq, Repr

instance : Keyed Current AnalysisId := ⟨Current.analysis⟩

/-- The records in the order in which the jobs were started, and the current job of each analysis
that has one. -/
structure Table where
  records : List Record := []
  current : List Current := []
  deriving DecidableEq, Repr

namespace Table

def get? (table : Table) (id : JobId) : Option Record := Roster.find? id table.records

def currentFor (table : Table) (analysis : AnalysisId) : Option Record :=
  (Roster.find? analysis table.current).bind fun entry => table.get? entry.job

/-! ## §2 Changes -/

/-- Drops the current job of an analysis and gives its record. -/
def removeFor (table : Table) (analysis : AnalysisId) : Table × Option Record :=
  match Roster.find? analysis table.current with
  | some entry =>
    (⟨Roster.erase entry.job table.records, Roster.erase analysis table.current⟩,
      table.get? entry.job)
  | none => (table, none)

/-- Records a new job; also gives the record that it supersedes. -/
def insert (table : Table) (handle : Handle) : Table × Option Record :=
  let (cleared, superseded) := table.removeFor handle.analysis
  (⟨Roster.renew ⟨handle.job, handle.analysis, .created⟩ cleared.records,
    cleared.current ++ [⟨handle.analysis, handle.job⟩]⟩, superseded)

/-- Moves a live job to a status; gives the new record, or nothing if the job is unknown or its
status is final. -/
def setStatus (table : Table) (id : JobId) (status : Status) : Table × Option Record :=
  match table.get? id with
  | some record =>
    if record.status.isFinal then (table, none)
    else
      let updated := { record with status := status }
      ({ table with records := Roster.replace updated table.records }, some updated)
  | none => (table, none)

/-- Moves a job to the status of a reported phase. -/
def apply (table : Table) (report : Report) : Table × Option Record :=
  table.setStatus report.job report.phase.status

end Table

end Job

end Coordination
