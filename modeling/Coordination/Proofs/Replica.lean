/-
Coordination.Proofs.Replica — the entities as an observer knows them.

An observer starts from the snapshot in its first message and makes of
every later message the change that the message tells of. `hear` is that
change; messages about jobs tell of no entity.
-/
import Coordination.Broadcast.Message
import Coordination.Analysis.Workspace
import Coordination.Proofs.Roster

namespace Coordination

structure Replica where
  connection : Connection := .disconnected
  datasets : List Dataset := []
  compounds : List Compound := []
  analyses : List Analysis := []
  deriving Repr

namespace Replica

/-- The entities of a snapshot. -/
def ofSnapshot (snapshot : Snapshot) : Replica :=
  ⟨snapshot.connection, snapshot.datasets, snapshot.compounds, snapshot.analyses⟩

/-- What an observer knows after a message. -/
def hear (replica : Replica) : Message → Replica
  | .initialState snapshot => ofSnapshot snapshot
  | .connected spec => { replica with connection := .connected spec }
  | .disconnected => { replica with connection := .disconnected }
  | .datasetCreated id dataset =>
    { replica with datasets := Roster.erase id replica.datasets ++ [dataset] }
  | .datasetDeleted id => { replica with datasets := Roster.erase id replica.datasets }
  | .compoundCreated id dataset details =>
    { replica with compounds := replica.compounds ++ [⟨id, dataset, details⟩] }
  | .compoundUpdated id dataset details =>
    { replica with compounds := Roster.replace ⟨id, dataset, details⟩ replica.compounds }
  | .compoundRemoved id => { replica with compounds := Roster.erase id replica.compounds }
  | .analysisCreated id compound dataset details =>
    { replica with analyses := replica.analyses ++ [⟨id, dataset, compound, details⟩] }
  | .analysisUpdated id compound dataset details =>
    { replica with analyses := Roster.replace ⟨id, dataset, compound, details⟩ replica.analyses }
  | .analysisRemoved id => { replica with analyses := Roster.erase id replica.analyses }
  | .jobStarted _ | .taskResult _ _ _ | .jobFinished _ _ | .jobCanceled _ | .jobFailed _ _ _ =>
    replica

/-- What an observer knows after several messages. -/
def hearAll (replica : Replica) (messages : List Message) : Replica := messages.foldl hear replica

theorem hearAll_append (replica : Replica) (before after : List Message) :
    replica.hearAll (before ++ after) = (replica.hearAll before).hearAll after :=
  List.foldl_append

/-- A phase of a job is no news of an entity. -/
theorem hear_ofPhase (replica : Replica) (handle : Job.Handle) (phase : Job.Phase) :
    replica.hear (.ofPhase handle phase) = replica := by
  cases phase <;> rfl

/-- A stored compound analysis is heard of as it is stored. -/
theorem hear_compoundStored {replica : Replica} {compound : Compound} {created : Bool}
    (h : created = (Roster.find? compound.id replica.compounds).isNone) :
    replica.hear (.compoundStored created compound) =
      { replica with compounds := Roster.set compound replica.compounds } := by
  cases found : Roster.find? compound.id replica.compounds with
  | none =>
    rw [h, found, Roster.set_of_not_mem (Roster.find?_eq_none_iff.1 found)]
    rfl
  | some old =>
    rw [h, found, Roster.set_of_mem (Roster.mem_keys_of_find? found)]
    rfl

theorem hear_analysisStored {replica : Replica} {analysis : Analysis} {created : Bool}
    (h : created = (Roster.find? analysis.id replica.analyses).isNone) :
    replica.hear (.analysisStored created analysis) =
      { replica with analyses := Roster.set analysis replica.analyses } := by
  cases found : Roster.find? analysis.id replica.analyses with
  | none =>
    rw [h, found, Roster.set_of_not_mem (Roster.find?_eq_none_iff.1 found)]
    rfl
  | some old =>
    rw [h, found, Roster.set_of_mem (Roster.mem_keys_of_find? found)]
    rfl

end Replica

end Coordination
