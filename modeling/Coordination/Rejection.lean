/-
Coordination.Rejection — why a command is rejected.

The parts of the server have problems of their own; to a client they all
become rejections with one of the stable codes. A rejected command has
changed nothing.
-/
import Coordination.Analysis.Record
import Coordination.Connection.Verify
import Coordination.Dataset.Prepare
import Coordination.ErrorCode
import Coordination.Job.Status

namespace Coordination

inductive Rejection where
  | notConnected
  | clusterUnreachable (address reason : String)
  | invalidParameters (reason : String)
  /-- The entity that the command is about does not exist. -/
  | notFound (kind : EntityKind) (id : String)
  /-- A compound analysis refers to a dataset that is not registered. -/
  | datasetNotFound (id : DatasetId)
  /-- An analysis refers to a compound analysis that does not exist. -/
  | compoundNotFound (id : CompoundId)
  | jobFailed (reason : String)
  deriving DecidableEq, Repr

namespace Rejection

/-- An entity that does not exist, by its identifier. -/
def missing {kind : EntityKind} (id : Ident kind) : Rejection := notFound kind id.toString

def code : Rejection → ErrorCode
  | notConnected => .notConnected
  | clusterUnreachable _ _ => .clusterConnection
  | invalidParameters _ => .invalidParameters
  | notFound _ _ => .notFound
  | datasetNotFound _ => .datasetNotFound
  | compoundNotFound _ => .compoundAnalysisNotFound
  | jobFailed _ => .jobExecution

def text : Rejection → String
  | notConnected => "not connected to a compute resource"
  | clusterUnreachable address reason =>
    "could not connect to cluster at " ++ address ++ ": " ++ reason
  | invalidParameters reason => "invalid parameters: " ++ reason
  | notFound kind id => kind.text ++ " " ++ id ++ " not found"
  | datasetNotFound id => "dataset " ++ id.toString ++ " not found"
  | compoundNotFound id => "compound analysis " ++ id.toString ++ " not found"
  | jobFailed reason => "job execution failed: " ++ reason

/-- The reply to the client. -/
def toJson (rejection : Rejection) : Json :=
  .obj [("status", .str "error"), ("messageType", rejection.code.toJson),
    ("msg", .str rejection.text)]

end Rejection

/-! ## Problems of the parts -/

def Connection.Problem.rejection : Connection.Problem → Rejection
  | invalidSpec reason => .invalidParameters reason
  | unreachable address reason => .clusterUnreachable address reason

def Dataset.Problem.rejection : Dataset.Problem → Rejection
  | notFound id => .missing id
  | problem => .invalidParameters problem.text

def Analysis.Problem.rejection : Analysis.Problem → Rejection
  | datasetNotFound id => .datasetNotFound id
  | parentNotFound id => .compoundNotFound id
  | compoundNotFound id => .missing id
  | analysisNotFound id => .missing id
  | invalidDetails reason => .invalidParameters reason

def Job.Problem.rejection (problem : Job.Problem) : Rejection := .jobFailed problem.text

end Coordination
