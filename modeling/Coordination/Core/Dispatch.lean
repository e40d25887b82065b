/-
Coordination.Core.Dispatch — commands in, replies out.

A command is carried out as a whole or rejected as a whole. It needs to
be told some things that the state does not know: what is found at the
file or the address that it names, the identifier of the next job, and
what the engine answers. These are its `Context`.

  §1 Replies   — `Reply`.
  §2 Dispatch  — `Core.perform`, `Core.dispatch`, `Core.dispatchValue`.
-/
import Coordination.Config.Capabilities
import Coordination.Core.Command
import Coordination.Core.State
import Coordination.Wording

namespace Coordination

/-! ## §1 Replies -/

/-- What an accepted command is answered with. -/
inductive Reply where
  | capabilities (capabilities : Capabilities)
  | connection (connection : Connection)
  | dataset (dataset : Dataset)
  | datasets (datasets : List Dataset)
  /-- The change, in the words in which observers hear of it. -/
  | changed (message : Message)
  | running (handle : Job.Handle)
  | canceled (handle : Job.Handle)
  deriving Repr

namespace Reply

def toJson : Reply → Json
  | capabilities c => Message.envelope false "CONFIG" [("config", c.toJson)]
  | connection c => c.status
  | dataset d => Message.envelope false "DATASET" [("dataset", d.id.toJson), ("details", d.toJson)]
  | datasets ds => Message.envelope false "DATASETS" [("datasets", .ofList Dataset.toJson ds)]
  | changed message => message.toJson
  | running handle => Message.envelope false "RUN_ANALYSIS" handle.toFields
  | canceled handle => Message.envelope false "CANCEL_JOB" handle.toFields

end Reply

/-! ## §2 Dispatch -/

/-- What a command finds outside. -/
structure Facts where
  /-- The file that the command names. -/
  file : Dataset.FileStatus := .irregular
  /-- Why nobody answers at the address that the command names. -/
  unreachable : Option String := none

/-- What a command is told. -/
structure Context where
  capabilities : Capabilities
  facts : Facts
  nextJob : JobId
  answer : Core.EngineAnswer
  wording : Wording := {}

/-- The rejection of a value that is no command. -/
def Context.unreadable (context : Context) (request : Json) : Rejection :=
  .invalidParameters (context.wording.command request)

/-- An outcome in which the state may have changed, or not. -/
structure Outcome where
  core : Core
  effects : List Effect
  reply : Except Rejection Reply

namespace Core

/-- An answer that changes nothing. -/
def answerOnly (core : Core) (reply : Reply) : Change Reply := ⟨core, [], reply⟩

/-- A change that is answered. -/
def answering {α : Type} (change : Change α) (reply : α → Reply) : Change Reply :=
  ⟨change.core, change.effects, reply change.value⟩

/-- The change that a command makes, or why it is rejected. -/
def perform (core : Core) (context : Context) : Command → Except Rejection (Change Reply)
  | .getConfig => .ok (core.answerOnly (.capabilities context.capabilities))
  | .getConnection => .ok (core.answerOnly (.connection core.connection))
  | .connect spec => do
    (Connection.verify spec context.facts.unreachable).mapError Connection.Problem.rejection
    return answering (core.connect spec) fun _ => .connection (.connected spec)
  | .disconnect => .ok (answering core.disconnect fun _ => .changed .disconnected)
  | .registerDataset id params => do
    core.requireConnected
    let dataset ←
      (Dataset.prepare id params context.facts.file).mapError Dataset.Problem.rejection
    let change ← core.registerDataset dataset
    return answering change fun dataset => .changed (.datasetCreated id dataset)
  | .removeDataset id => do
    return answering (← core.removeDataset id) fun _ => .changed (.datasetDeleted id)
  | .getDataset id => match core.datasets.get? id with
    | some dataset => .ok (core.answerOnly (.dataset dataset))
    | none => .error (.missing id)
  | .listDatasets => .ok (core.answerOnly (.datasets core.datasets.datasets))
  | .putCompound id dataset details => do
    return answering (← core.putCompound id dataset details) fun stored =>
      .changed (.compoundStored stored.created stored.value)
  | .removeCompound id => do
    return answering (← core.removeCompound id) fun _ => .changed (.compoundRemoved id)
  | .putAnalysis id compound details => do
    return answering (← core.putAnalysis id compound details) fun stored =>
      .changed (.analysisStored stored.created stored.value)
  | .removeAnalysis id => do
    return answering (← core.removeAnalysis id) fun _ => .changed (.analysisRemoved id)
  | .runAnalysis id => do
    return answering (← core.runAnalysis context.nextJob context.answer id) .running
  | .cancelJob id => do
    return answering (← core.cancelJob id) .canceled

/-- Where a command knocks before anything else happens. -/
def knocks : Command → List Effect
  | .connect spec => match spec.target with
    | .ok (some address) => [.probe address]
    | _ => []
  | _ => []

/-- Carries out a command. If it is rejected, the state stays as it is. -/
def dispatch (core : Core) (context : Context) (command : Command) : Outcome :=
  match core.perform context command with
  | .ok change => ⟨change.core, knocks command ++ change.effects, .ok change.value⟩
  | .error rejection => ⟨core, knocks command, .error rejection⟩

/-- Carries out any value that is read as a command. -/
def dispatchValue (core : Core) (context : Context) (request : Json) : Outcome :=
  match Command.ofJson? request with
  | some command => core.dispatch context command
  | none => ⟨core, [], .error (context.unreadable request)⟩

end Core

/-- The reply on the wire. -/
def Outcome.toJson (outcome : Outcome) : Json :=
  match outcome.reply with
  | .ok reply => reply.toJson
  | .error rejection => rejection.toJson

end Coordination
