/-
Coordination.Proofs.Operations — what an operation of the core does where it is accepted.

An operation asks for a connection, then changes one of the stores, and
then drops the jobs and tells of the change. Its checks may fail one after
the other. Where none of them fails, all that the operation does is said
here, once for each operation, so that no other module has to take one
apart to learn it.

The lemmas say what a store gives, and not what that means. What becomes
of the records is said beside each store (`Workspace.putCompound_spec` and
others).

  §1 Datasets — `Dataset.prepare`, `registerDataset`, `removeDataset`.
  §2 Analyses — storing and removing, in both kinds.
  §3 Jobs     — `runAnalysis`, `cancelJob`.
  §4 Replies  — `answering_accepted`.
-/
import Coordination.Core.Dispatch
import Coordination.Dataset.Prepare
import Coordination.Proofs.Checks
import Coordination.Proofs.Roster

namespace Coordination

namespace Dataset.Registry

/-- Where datasets are removed one by one, all that comes of it is that some are told of. -/
theorem removeEach_snd (registry : Registry) (ids : List DatasetId) :
    ∃ gone : List DatasetId, (registry.removeEach ids).2 =
      gone.map fun id => Effect.publish (.datasetDeleted id) := by
  induction ids generalizing registry with
  | nil => exact ⟨[], rfl⟩
  | cons id others ih =>
    rw [removeEach]
    split
    · next one _ _ =>
      obtain ⟨gone, same⟩ := ih one
      exact ⟨id :: gone, congrArg (Effect.publish (.datasetDeleted id) :: ·) same⟩
    · exact ih registry

/-- Where all are removed in turn, each is told of and none is left. -/
theorem removeEach_ids (registry : Registry) (apart : registry.ids.Nodup) :
    registry.removeEach registry.ids =
      ({}, registry.ids.map fun id => .publish (.datasetDeleted id)) := by
  obtain ⟨datasets⟩ := registry
  induction datasets with
  | nil => rfl
  | cons dataset others ih =>
    obtain ⟨first, rest⟩ := List.nodup_cons.1 apart
    have erased : Roster.erase dataset.id (dataset :: others) = others := by
      rw [Roster.erase, List.filter_cons, if_neg (by simp [Keyed.key])]
      exact Roster.erase_eq_self first
    have removed : (Registry.mk (dataset :: others)).remove dataset.id =
        .ok (⟨others⟩, dataset) := by
      simp [remove, get?, Roster.find?, Keyed.key, erased]
    have ids : (Registry.mk (dataset :: others)).ids =
        dataset.id :: (Registry.mk others).ids := rfl
    rw [ids, removeEach, removed]
    simp only [ih rest, List.map_cons]

end Dataset.Registry

namespace Core

variable {core : Core}

/-- A core is connected where an operation goes through that needs a connection. -/
theorem isConnected_of_require {u : Unit} (h : core.requireConnected = .ok u) :
    core.connection.isConnected = true := by
  unfold requireConnected at h
  split at h
  · assumption
  · exact nomatch h

/-! ## §1 Datasets -/

/-- The file may stop a dataset from being prepared, but does not change it. -/
theorem prepare_accepted {id : DatasetId} {params : Dataset.Params} {file : Dataset.FileStatus}
    {dataset : Dataset} (hok : Dataset.prepare id params file = .ok dataset) :
    ∃ shape, params.geometry? = .ok shape ∧ dataset = ⟨id, params, shape⟩ := by
  unfold Dataset.prepare at hok
  obtain ⟨shape, shaped, hok⟩ := bind_eq_ok.1 hok
  refine ⟨shape, shaped, ?_⟩
  split at hok
  · obtain ⟨_, -, hok⟩ := bind_eq_ok.1 hok
    obtain ⟨_, -, hok⟩ := bind_eq_ok.1 hok
    exact (Except.ok.inj hok).symm
  · exact (Except.ok.inj hok).symm

theorem registerDataset_accepted {dataset : Dataset} {change : Change Dataset}
    (hok : core.registerDataset dataset = .ok change) :
    let cleared := core.removeDependents dataset.id
    let created := Effect.publish (.datasetCreated dataset.id dataset)
    core.connection.isConnected = true ∧
      (core.datasets.contains dataset.id = true ∧
          change = ⟨{ cleared.1 with datasets := (core.datasets.insert dataset).1 },
            cleared.2 ++ [created], dataset⟩ ∨
        core.datasets.contains dataset.id = false ∧
          change = ⟨{ core with datasets := (core.datasets.insert dataset).1 },
            [created], dataset⟩) := by
  unfold registerDataset at hok
  obtain ⟨_, connected, hok⟩ := bind_eq_ok.1 hok
  refine ⟨isConnected_of_require connected, ?_⟩
  cases listed : core.datasets.contains dataset.id with
  | true =>
    rw [if_pos listed] at hok
    exact .inl ⟨rfl, (Except.ok.inj hok).symm⟩
  | false =>
    rw [listed] at hok
    exact .inr ⟨rfl, (Except.ok.inj hok).symm⟩

theorem removeDataset_accepted {id : DatasetId} {change : Change Dataset}
    (hok : core.removeDataset id = .ok change) :
    let cleared := core.removeDependents id
    ∃ dataset, core.datasets.get? id = some dataset ∧
      change = ⟨{ cleared.1 with datasets := ⟨Roster.erase id core.datasets.datasets⟩ },
        cleared.2 ++ [.publish (.datasetDeleted id)], dataset⟩ := by
  unfold removeDataset at hok
  obtain ⟨-, -, hok⟩ := bind_eq_ok.1 hok
  obtain ⟨⟨registry, dataset⟩, hr, hok⟩ := bind_eq_ok.1 hok
  have removed := mapError_eq_ok.1 hr
  unfold Dataset.Registry.remove at removed
  split at removed
  · rename_i found
    obtain ⟨rfl, rfl⟩ := Prod.mk.inj (Except.ok.inj removed)
    exact ⟨_, found, (Except.ok.inj hok).symm⟩
  · cases removed

/-! ## §2 Analyses -/

theorem putCompound_accepted {id : CompoundId} {dataset : DatasetId} {details : Compound.Details}
    {change : Change (Stored Compound)} (hok : core.putCompound id dataset details = .ok change) :
    ∃ workspace stored,
      core.workspace.putCompound core.datasets id dataset details = .ok (workspace, stored) ∧
      core.connection.isConnected = true ∧
      let refreshed := core.jobs.refresh stored.retargeted
      change = ⟨{ core with workspace := workspace, jobs := refreshed.1 },
        .publish (.compoundStored stored.created stored.compound) :: refreshed.2,
        ⟨stored.compound, stored.created⟩⟩ := by
  unfold putCompound at hok
  obtain ⟨_, connected, hok⟩ := bind_eq_ok.1 hok
  obtain ⟨⟨workspace, stored⟩, put, hok⟩ := bind_eq_ok.1 hok
  exact ⟨workspace, stored, mapError_eq_ok.1 put, isConnected_of_require connected,
    (Except.ok.inj hok).symm⟩

theorem removeCompound_accepted {id : CompoundId} {change : Change Compound}
    (hok : core.removeCompound id = .ok change) :
    ∃ workspace removed, core.workspace.removeCompound id = .ok (workspace, removed) ∧
      let withdrawn := core.jobs.withdraw [removed]
      change = ⟨{ core with workspace := workspace, jobs := withdrawn.1 }, withdrawn.2,
        removed.compound⟩ := by
  unfold removeCompound at hok
  obtain ⟨-, -, hok⟩ := bind_eq_ok.1 hok
  obtain ⟨⟨workspace, removed⟩, gone, hok⟩ := bind_eq_ok.1 hok
  exact ⟨workspace, removed, mapError_eq_ok.1 gone, (Except.ok.inj hok).symm⟩

theorem putAnalysis_accepted {id : AnalysisId} {compound : CompoundId}
    {details : Analysis.Details} {change : Change (Stored Analysis)}
    (hok : core.putAnalysis id compound details = .ok change) :
    ∃ workspace stored, core.workspace.putAnalysis id compound details = .ok (workspace, stored) ∧
      core.connection.isConnected = true ∧
      let retired := core.jobs.retire id
      let announced := Effect.publish (.analysisStored stored.created stored.analysis) ::
        stored.reordered.map fun parent => .publish (.compoundStored false parent)
      (stored.created = true ∧
          change = ⟨{ core with workspace := workspace }, announced,
            ⟨stored.analysis, stored.created⟩⟩ ∨
        stored.created = false ∧
          change = ⟨{ core with workspace := workspace, jobs := retired.1 },
            retired.2 ++ announced, ⟨stored.analysis, stored.created⟩⟩) := by
  unfold putAnalysis at hok
  obtain ⟨_, connected, hok⟩ := bind_eq_ok.1 hok
  obtain ⟨⟨workspace, stored⟩, put, hok⟩ := bind_eq_ok.1 hok
  refine ⟨workspace, stored, mapError_eq_ok.1 put, isConnected_of_require connected, ?_⟩
  cases created : stored.created with
  | true =>
    simp only [created, if_true] at hok
    exact .inl ⟨rfl, (Except.ok.inj hok).symm⟩
  | false =>
    simp only [created, Bool.false_eq_true, if_false] at hok
    exact .inr ⟨rfl, (Except.ok.inj hok).symm⟩

theorem removeAnalysis_accepted {id : AnalysisId} {change : Change Analysis}
    (hok : core.removeAnalysis id = .ok change) :
    ∃ workspace analysis parent,
      core.workspace.removeAnalysis id = .ok (workspace, analysis, parent) ∧
      let retired := core.jobs.retire id
      change = ⟨{ core with workspace := workspace, jobs := retired.1 },
        retired.2 ++ .publish (.analysisRemoved id) ::
          parent.toList.map fun parent => .publish (.compoundStored false parent),
        analysis⟩ := by
  unfold removeAnalysis at hok
  obtain ⟨-, -, hok⟩ := bind_eq_ok.1 hok
  obtain ⟨⟨workspace, analysis, parent⟩, gone, hok⟩ := bind_eq_ok.1 hok
  exact ⟨workspace, analysis, parent, mapError_eq_ok.1 gone, (Except.ok.inj hok).symm⟩

/-! ## §3 Jobs -/

theorem runAnalysis_accepted {fresh : JobId} {answer : EngineAnswer} {id : AnalysisId}
    {change : Change Job.Handle} (hok : core.runAnalysis fresh answer id = .ok change) :
    ∃ analysis dataset, core.workspace.analysis? id = some analysis ∧
      core.datasets.get? analysis.dataset = some dataset ∧
      let request : Job.Request := ⟨fresh, id, dataset, analysis.details⟩
      let retired := core.jobs.retire id
      let inserted := (retired.1.insert request.handle).1
      (answer request = none ∧
          change = ⟨{ core with jobs := inserted }, retired.2 ++ [.start request],
            request.handle⟩ ∨
        ∃ problem, answer request = some problem ∧
          change = ⟨{ core with jobs := (inserted.setStatus fresh .error).1 },
            retired.2 ++ [.start request, .publish (.jobFailed request.handle
              problem.rejection.code problem.rejection.text)],
            request.handle⟩) := by
  unfold runAnalysis at hok
  obtain ⟨-, -, hok⟩ := bind_eq_ok.1 hok
  split at hok
  · rename_i analysis found
    split at hok
    · rename_i dataset registered
      refine ⟨analysis, dataset, found, registered, ?_⟩
      dsimp only at hok
      split at hok
      · rename_i accepted
        exact .inl ⟨accepted, (Except.ok.inj hok).symm⟩
      · rename_i problem refused
        exact .inr ⟨problem, refused, (Except.ok.inj hok).symm⟩
    · cases hok
  · cases hok

theorem cancelJob_accepted {id : JobId} {change : Change Job.Handle}
    (hok : core.cancelJob id = .ok change) :
    ∃ record, core.jobs.get? id = some record ∧
      (record.status.isFinal = true ∧ change = ⟨core, [], record.handle⟩ ∨
        record.status.isFinal = false ∧
          change = ⟨{ core with jobs := (core.jobs.setStatus id .canceled).1 },
            [.cancel id, .publish (.jobCanceled record.handle)], record.handle⟩) := by
  unfold cancelJob at hok
  obtain ⟨-, -, hok⟩ := bind_eq_ok.1 hok
  split at hok
  · rename_i record found
    refine ⟨record, found, ?_⟩
    split at hok
    · rename_i final
      exact .inl ⟨final, (Except.ok.inj hok).symm⟩
    · rename_i going
      exact .inr ⟨eq_false_of_ne_true going, (Except.ok.inj hok).symm⟩
  · cases hok

/-! ## §4 Replies -/

/-- A command that answers what an operation gives is accepted where the operation is. -/
theorem answering_accepted {α : Type} {x : Except Rejection (Change α)} {reply : α → Reply}
    {change : Change Reply} (hok : (x >>= fun made => pure (answering made reply)) = .ok change) :
    ∃ made, x = .ok made ∧ change = answering made reply := by
  obtain ⟨made, hm, hok⟩ := bind_eq_ok.1 hok
  exact ⟨made, hm, (Except.ok.inj hok).symm⟩

end Core

end Coordination
