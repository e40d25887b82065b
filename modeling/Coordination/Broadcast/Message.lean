/-
Coordination.Broadcast.Message — what observers are told.

On the wire a message is an object with a status, which is an error only
for a failed job, a message type, and the fields of the message.
-/
import Coordination.Broadcast.Snapshot
import Coordination.ErrorCode

namespace Coordination

inductive Message where
  | initialState (snapshot : Snapshot)
  | connected (spec : Connection.Spec)
  | disconnected
  | datasetCreated (id : DatasetId) (dataset : Dataset)
  | datasetDeleted (id : DatasetId)
  | compoundCreated (id : CompoundId) (dataset : DatasetId) (details : Compound.Details)
  | compoundUpdated (id : CompoundId) (dataset : DatasetId) (details : Compound.Details)
  | compoundRemoved (id : CompoundId)
  | analysisCreated (id : AnalysisId) (compound : CompoundId) (dataset : DatasetId)
      (details : Analysis.Details)
  | analysisUpdated (id : AnalysisId) (compound : CompoundId) (dataset : DatasetId)
      (details : Analysis.Details)
  | analysisRemoved (id : AnalysisId)
  | jobStarted (handle : Job.Handle)
  /-- So many of all steps of a job are done. -/
  | taskResult (handle : Job.Handle) (done total : Nat)
  | jobFinished (handle : Job.Handle) (result : Json)
  | jobCanceled (handle : Job.Handle)
  | jobFailed (handle : Job.Handle) (code : ErrorCode) (reason : String)
  deriving Repr

namespace Message

/-- The message that a compound analysis was created or updated. -/
def compoundStored (created : Bool) (compound : Compound) : Message :=
  if created then compoundCreated compound.id compound.dataset compound.details
  else compoundUpdated compound.id compound.dataset compound.details

/-- The message that an analysis was created or updated. -/
def analysisStored (created : Bool) (analysis : Analysis) : Message :=
  if created then analysisCreated analysis.id analysis.compound analysis.dataset analysis.details
  else analysisUpdated analysis.id analysis.compound analysis.dataset analysis.details

/-- The message that goes out for a phase of a live job. -/
def ofPhase (handle : Job.Handle) : Job.Phase → Message
  | .started => jobStarted handle
  | .progress done total => taskResult handle done total
  | .finished result => jobFinished handle result
  | .errored reason => jobFailed handle .jobExecution reason
  | .canceled => jobCanceled handle

/-! ## Wire form -/

def isError : Message → Bool
  | jobFailed _ _ _ => true
  | _ => false

/-- The name of the message's type. -/
def typeName : Message → String
  | initialState _ => "INITIAL_STATE"
  | connected _ => "CONNECT"
  | disconnected => "DISCONNECT"
  | datasetCreated _ _ => "CREATE_DATASET"
  | datasetDeleted _ => "DELETE_DATASET"
  | compoundCreated _ _ _ => "COMPOUND_ANALYSIS_CREATED"
  | compoundUpdated _ _ _ => "COMPOUND_ANALYSIS_UPDATED"
  | compoundRemoved _ => "COMPOUND_ANALYSIS_REMOVED"
  | analysisCreated _ _ _ _ => "ANALYSIS_CREATED"
  | analysisUpdated _ _ _ _ => "ANALYSIS_UPDATED"
  | analysisRemoved _ => "ANALYSIS_REMOVED"
  | jobStarted _ => "JOB_STARTED"
  | taskResult _ _ _ => "TASK_RESULT"
  | jobFinished _ _ => "FINISH_JOB"
  | jobCanceled _ => "CANCEL_JOB_DONE"
  | jobFailed _ _ _ => "JOB_ERROR"

/-- The tag that a message has on the wire. -/
def tag : Message → String
  | initialState _ => "INITIAL_STATE"
  | connected _ => "CONNECT"
  | disconnected => "DISCONNECT"
  | datasetCreated _ _ => "CREATE_DATASET"
  | datasetDeleted _ => "DELETE_DATASET"
  | compoundCreated _ _ _ => "COMPOUND_ANALYSIS_CREATED"
  | compoundUpdated _ _ _ => "COMPOUND_ANALYSIS_UPDATED"
  | compoundRemoved _ => "COMPOUND_ANALYSIS_REMOVED"
  | analysisCreated _ _ _ _ => "ANALYSIS_CREATED"
  | analysisUpdated _ _ _ _ => "ANALYSIS_UPDATED"
  | analysisRemoved _ => "ANALYSIS_REMOVED"
  | jobStarted _ => "JOB_STARTED"
  | taskResult _ _ _ => "TASK_RESULT"
  | jobFinished _ _ => "FINISH_JOB"
  | jobCanceled _ => "CANCEL_JOB_DONE"
  | jobFailed _ _ _ => "JOB_ERROR"

/-- A message is tagged with the name of its type. -/
theorem tag_eq_typeName (message : Message) : message.tag = message.typeName := by
  cases message <;> rfl

/-- The fields besides the status and the tag. -/
def payload : Message → List (String × Json)
  | initialState snapshot => snapshot.toFields
  | connected spec => [("connection", spec.toJson)]
  | disconnected => []
  | datasetCreated id dataset => [("dataset", id.toJson), ("details", dataset.toJson)]
  | datasetDeleted id => [("dataset", id.toJson)]
  | compoundCreated id dataset details | compoundUpdated id dataset details =>
    [("compoundAnalysis", id.toJson), ("dataset", dataset.toJson), ("details", details.toJson)]
  | compoundRemoved id => [("compoundAnalysis", id.toJson)]
  | analysisCreated id compound dataset details | analysisUpdated id compound dataset details =>
    [("analysis", id.toJson), ("compoundAnalysis", compound.toJson), ("dataset", dataset.toJson),
      ("details", details.toJson)]
  | analysisRemoved id => [("analysis", id.toJson)]
  | jobStarted handle | jobCanceled handle => handle.toFields
  | taskResult handle done total =>
    handle.toFields ++ [("done", .ofNat done), ("total", .ofNat total)]
  | jobFinished handle result => handle.toFields ++ [("result", result)]
  | jobFailed handle code reason =>
    handle.toFields ++ [("code", code.toJson), ("msg", .str reason)]

/-- An object with a status and a tag. -/
def envelope (isError : Bool) (tag : String) (fields : List (String × Json)) : Json :=
  .obj (("status", .str (if isError then "error" else "ok")) ::
    ("messageType", .str tag) :: fields)

def toJson (message : Message) : Json :=
  envelope message.isError message.tag message.payload

end Message

end Coordination
