/-
Coordination.ErrorCode — the stable codes of errors.

A client tells errors apart by their code and never by their text. The
code is also the message type of an error reply.
-/
import Coordination.Json.Record

namespace Coordination

inductive ErrorCode where
  | notConnected
  | clusterConnection
  | invalidParameters
  | notFound
  | datasetNotFound
  | compoundAnalysisNotFound
  | jobExecution
  deriving DecidableEq, Repr

namespace ErrorCode

def name : ErrorCode → String
  | notConnected => "NOT_CONNECTED"
  | clusterConnection => "CLUSTER_CONN_ERROR"
  | invalidParameters => "INVALID_PARAMETERS"
  | notFound => "NOT_FOUND"
  | datasetNotFound => "DATASET_NOT_FOUND"
  | compoundAnalysisNotFound => "COMPOUND_ANALYSIS_NOT_FOUND"
  | jobExecution => "JOB_EXECUTION_ERROR"

def ofName? : String → Option ErrorCode
  | "NOT_CONNECTED" => some notConnected
  | "CLUSTER_CONN_ERROR" => some clusterConnection
  | "INVALID_PARAMETERS" => some invalidParameters
  | "NOT_FOUND" => some notFound
  | "DATASET_NOT_FOUND" => some datasetNotFound
  | "COMPOUND_ANALYSIS_NOT_FOUND" => some compoundAnalysisNotFound
  | "JOB_EXECUTION_ERROR" => some jobExecution
  | _ => none

def toJson (code : ErrorCode) : Json := .str code.name

def ofJson? (place : Json.Place) (json : Json) : Option ErrorCode :=
  (Json.word? place json).bind ofName?

end ErrorCode

namespace EntityKind

def toJson (kind : EntityKind) : Json := .str kind.name

def ofJson? (place : Json.Place) (json : Json) : Option EntityKind :=
  (Json.word? place json).bind ofName?

end EntityKind

end Coordination
