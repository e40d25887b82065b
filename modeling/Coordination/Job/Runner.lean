/-
Coordination.Job.Runner — the built-in engine.

There is no numerical engine behind it: a job checks its region, reports a
fixed number of steps with a pause before each, and finishes with the
shape of its result. Time is counted in milliseconds and moves only when
the runner is told so; all that is due by then is reported with the time
at which it fell due.

A canceled job stops at its next pause. If it has none left, it finishes.

A job is entered when it is accepted, and counts as running as long as it is
entered. It takes its entry out itself, after it has reported its end, so
that there is a moment at which a job has ended and still counts. When the
clock moves, all that have ended have taken their entries out.

  §1 Tasks   — one job: `Task.run`.
  §2 Runner  — all jobs: `accept`, `cancel`, `shutDown`, `leave`, `runUntil`, `advance`.
-/
import Coordination.Job.Region

namespace Coordination.Job

namespace Runner

/-- The number of steps of each job and the pause before each step. -/
structure Pace where
  steps : Nat := 4
  delay : Nat := 25
  deriving DecidableEq, Repr

/-- The pace of the jobs, and the words for regions that cannot be read. -/
structure Settings extends Pace where
  wording : Wording := {}

/-! ## §1 Tasks -/

inductive Stage where
  /-- Accepted at a time, and not yet started. -/
  | fresh (since : Nat)
  /-- Pausing since a time, with some steps left. -/
  | pausing (since : Nat) (left : Nat)
  deriving DecidableEq, Repr

/-- A job that has not ended. -/
structure Task where
  request : Request
  stage : Stage
  canceled : Bool
  deriving Repr

/-- A phase and the time of its report. -/
structure Timed where
  time : Nat
  phase : Phase
  deriving Repr

/-- The shape of the result: a frame, or one value per scan position. -/
def resultShape (request : Request) : List Nat :=
  if request.details.kind.givesFrame then request.dataset.detectorSize
  else request.dataset.scanSize

def result (request : Request) : Json :=
  .obj [("analysisType", request.details.kind.toJson),
    ("shape", .ofList .ofNat (resultShape request))]

/-- Goes on from a time with some steps left, until a later time. It gives what is reported and,
if the job pauses, the stage it is in then. -/
def proceed (settings : Settings) (task : Task) (now limit : Nat) :
    (left since : Nat) → List Timed × Option Stage
  | 0, since => ([⟨since, .finished (result task.request)⟩], none)
  | left + 1, since =>
    if task.canceled then ([⟨now, .canceled⟩], none)
    else if since + settings.delay ≤ limit then
      let (more, stage) := proceed settings task now limit left (since + settings.delay)
      (⟨since + settings.delay, .progress (settings.steps - left) settings.steps⟩ :: more, stage)
    else ([], some (.pausing since (left + 1)))

/-- Runs a task until a time. -/
def Task.run (settings : Settings) (now limit : Nat) (task : Task) : List Timed × Option Stage :=
  match task.stage with
  | .fresh since =>
    match regionOf task.request.details task.request.dataset settings.wording with
    | .error problem => ([⟨since, .started⟩, ⟨since, .errored problem.text⟩], none)
    | .ok _ =>
      let (more, stage) := proceed settings task now limit settings.steps since
      (⟨since, .started⟩ :: more, stage)
  | .pausing since left => proceed settings task now limit left since

end Runner

/-! ## §2 Runner -/

structure Runner where
  settings : Runner.Settings := {}
  /-- The jobs that have not ended, in the order in which they were accepted. -/
  tasks : List Runner.Task := []
  /-- The jobs that have not taken their entries out. -/
  entries : List JobId := []
  now : Nat := 0
  closed : Bool := false

namespace Runner

/-- Enters a job, once only. -/
def enter (job : JobId) (entries : List JobId) : List JobId :=
  if entries.contains job then entries else entries ++ [job]

/-- Takes a job, unless the runner was shut down. -/
def accept (runner : Runner) (request : Request) : Except Problem Runner :=
  if runner.closed then .error .shutDown
  else .ok { runner with
    tasks := runner.tasks ++ [⟨request, .fresh runner.now, false⟩]
    entries := enter request.job runner.entries }

/-- Asks a job to stop. -/
def cancel (runner : Runner) (job : JobId) : Runner :=
  { runner with
      tasks := runner.tasks.map fun task =>
        if task.request.job = job then { task with canceled := true } else task }

/-- Asks every job to stop and takes no more. -/
def shutDown (runner : Runner) : Runner :=
  { runner with
      closed := true
      tasks := runner.tasks.map fun task => { task with canceled := true } }

/-- Whether a job has not ended. -/
def hasTask (runner : Runner) (job : JobId) : Bool := runner.tasks.any (·.request.job = job)

/-- A job takes its entry out, if it has ended. -/
def leave (runner : Runner) (job : JobId) : Runner :=
  if runner.hasTask job then runner
  else { runner with entries := runner.entries.filter (· ≠ job) }

/-- All jobs that have ended take their entries out. -/
def leaveAll (runner : Runner) : Runner :=
  { runner with entries := runner.entries.filter runner.hasTask }

/-- The number of jobs that are entered. -/
def running (runner : Runner) : Nat := runner.entries.length

/-- A report with its time. -/
structure TimedReport where
  time : Nat
  report : Report
  deriving Repr

/-- Puts a report after those that are not later. -/
def insertReport (entry : TimedReport) : List TimedReport → List TimedReport
  | [] => [entry]
  | other :: rest =>
    if entry.time ≤ other.time then entry :: other :: rest else other :: insertReport entry rest

/-- Orders reports by time; those of one time keep their order. -/
def sortReports (entries : List TimedReport) : List TimedReport := entries.foldr insertReport []

/-- Runs each of the tasks until a time. -/
def runTasks (settings : Settings) (now limit : Nat) : List Task → List TimedReport × List Task
  | [] => ([], [])
  | task :: rest =>
    let (phases, stage) := task.run settings now limit
    let (reports, others) := runTasks settings now limit rest
    (phases.map (fun timed => ⟨timed.time, ⟨task.request.job, timed.phase⟩⟩) ++ reports,
      (stage.map fun next => { task with stage := next }).toList ++ others)

/-- Lets the clock go on to a time; also gives what is reported meanwhile, in the order of time. -/
def runUntil (runner : Runner) (limit : Nat) : Runner × List Report :=
  let (reports, tasks) := runTasks runner.settings runner.now limit runner.tasks
  ({ runner with tasks := tasks, now := limit }.leaveAll, (sortReports reports).map (·.report))

/-- Lets some milliseconds pass. -/
def advance (runner : Runner) (ms : Nat) : Runner × List Report :=
  runner.runUntil (runner.now + ms)

end Runner

end Coordination.Job
