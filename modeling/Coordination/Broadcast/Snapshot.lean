/-
Coordination.Broadcast.Snapshot — the whole state as observers see it.
-/
import Coordination.Analysis.Record
import Coordination.Connection.Spec
import Coordination.Job.Status

namespace Coordination

/-- All that a new observer needs to know. The lists are in the order of creation. -/
structure Snapshot where
  connection : Connection
  datasets : List Dataset
  compounds : List Compound
  analyses : List Analysis
  jobs : List Job.Record
  deriving Repr

namespace Snapshot

/-- Whether there are no entities; there may be a connection. -/
def isEmpty (snapshot : Snapshot) : Bool :=
  snapshot.datasets.isEmpty && snapshot.compounds.isEmpty && snapshot.analyses.isEmpty &&
    snapshot.jobs.isEmpty

def toFields (snapshot : Snapshot) : List (String × Json) :=
  [("connection", snapshot.connection.body),
    ("datasets", .ofList Dataset.toJson snapshot.datasets),
    ("compoundAnalyses", .ofList Compound.toJson snapshot.compounds),
    ("analyses", .ofList Analysis.toJson snapshot.analyses),
    ("jobs", .ofList Job.Record.toJson snapshot.jobs)]

def toJson (snapshot : Snapshot) : Json := .obj snapshot.toFields

end Snapshot

end Coordination
