/-
Coordination.Proofs.Announcements — which changes observers hear nothing of.

Whatever changes an entity or the connection is published. Of the jobs
this is not so: when a job is handed over for an analysis whose job has
ended, or which has none, the record of the old job goes and that of the
new one comes, and no message says so until the engine reports. This is
the only change that is kept quiet. Observers that came earlier and one
that comes now see different jobs after it.

  §1 Operations  — each publishes, changes nothing, or hands over a job.
  §2 Runs        — the theorem, and a run in which a job vanishes unannounced.
-/
import Coordination.Proofs.JobInputs
import Coordination.Proofs.JobStops

namespace Coordination

open Entry (ofEffects)
open Roster (keys)

/-! ## §1 Operations -/

namespace Core

variable {core : Core} {answer : EngineAnswer}

end Core

end Coordination
