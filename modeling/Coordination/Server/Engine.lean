/-
Coordination.Server.Engine — what runs the jobs of a server.

Jobs run either in the built-in runner or somewhere else; in the latter
case reports come in from there. An engine may have a standing reason to
refuse all jobs.
-/
import Coordination.Job.Runner

namespace Coordination

structure Engine where
  /-- The built-in runner, unless jobs run elsewhere. -/
  runner : Option Job.Runner
  /-- The reason why every job is refused, if there is one. -/
  refusal : Option Job.Problem := none

namespace Engine

/-- The built-in engine. -/
def builtIn (pace : Job.Runner.Pace) (wording : Wording := {}) : Engine :=
  ⟨some { settings := { pace with wording := wording } }, none⟩

/-- An engine elsewhere. -/
def external : Engine := ⟨none, none⟩

/-- What the engine answers when it is asked to run a job. -/
def answer (engine : Engine) (request : Job.Request) : Option Job.Problem :=
  match engine.refusal, engine.runner with
  | some problem, _ => some problem
  | none, some runner => match runner.accept request with
    | .ok _ => none
    | .error problem => some problem
  | none, none => none

/-- The engine after it was asked to run a job. -/
def start (engine : Engine) (request : Job.Request) : Engine :=
  match engine.refusal, engine.runner with
  | none, some runner => match runner.accept request with
    | .ok accepted => { engine with runner := some accepted }
    | .error _ => engine
  | _, _ => engine

def cancel (engine : Engine) (job : JobId) : Engine :=
  { engine with runner := engine.runner.map (·.cancel job) }

def shutDown (engine : Engine) : Engine := { engine with runner := engine.runner.map (·.shutDown) }

/-- Lets some milliseconds pass; also gives what is reported meanwhile. -/
def advance (engine : Engine) (ms : Nat) : Engine × List Job.Report :=
  match engine.runner with
  | some runner =>
    let (next, reports) := runner.advance ms
    ({ engine with runner := some next }, reports)
  | none => (engine, [])

end Engine

end Coordination
