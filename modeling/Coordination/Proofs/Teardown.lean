/-
Coordination.Proofs.Teardown — what is left when the connection goes.

A client that disconnects, or connects anew, loses everything that was
registered under the connection. Nothing of it stays behind, neither in
the stores nor in the index, and observers hear of every entity once that
it is gone: first the compound analyses in the order of their creation,
each after its analyses in the order of linking, then the datasets in the
order of registration. After that they hear of the connection itself.

The workspace is emptied by removing its compound analyses one by one, so
an analysis goes only because it belongs to one of them, and a job only
because it is one of an analysis. That all of them go is the invariant of
the stores (`Core.Sound`, `Job.Table.Sound`).

  §1 Entities  — `Core.entities`, `Core.farewells`.
  §2 Commands  — what `disconnect` and `connect` leave and publish.
-/
import Coordination.Proofs.Cascade

namespace Coordination

open Analysis (Workspace)
open Roster (keys)

namespace Core

/-! ## §1 Entities -/

/-- All that clients refer to. -/
def entities (core : Core) : List Entity :=
  (keys core.workspace.compounds).map .compound ++ (keys core.workspace.analyses).map .analysis ++
    core.datasets.ids.map .dataset

/-- What is published when all entities go. -/
def farewells (core : Core) : List Message :=
  core.jobs.farewell core.workspace.index.analysesOf (keys core.workspace.compounds) ++
    core.datasets.ids.map .datasetDeleted

variable {core : Core}

theorem nodup_entities (h : core.Sound) : core.entities.Nodup := by
  have compounds := h.workspace.compounds_nodup.map
    (f := Entity.compound) fun _ _ => Entity.compound.inj
  have analyses := h.workspace.analyses_nodup.map
    (f := Entity.analysis) fun _ _ => Entity.analysis.inj
  have datasets := h.standing.datasets_nodup.map
    (f := Entity.dataset) fun _ _ => Entity.dataset.inj
  refine List.nodup_append.2 ⟨List.nodup_append.2 ⟨compounds, analyses, ?_⟩, datasets, ?_⟩
  · simp
  · simp only [List.mem_append, List.mem_map]
    rintro _ (⟨_, -, rfl⟩ | ⟨_, -, rfl⟩) _ ⟨_, -, rfl⟩ <;> exact nofun

/-- Every analysis is linked to some compound analysis that is listed. -/
theorem perm_children (h : core.Sound) :
    ((keys core.workspace.compounds).flatMap core.workspace.index.analysesOf).Perm
      (keys core.workspace.analyses) := by
  refine (List.perm_ext_iff_of_nodup
    (Workspace.nodup_flatMap_children h.workspace h.workspace.compounds_nodup)
    h.workspace.analyses_nodup).2 fun a => ?_
  rw [List.mem_flatMap]
  constructor
  · rintro ⟨c, -, child⟩
    exact Workspace.mem_keys_of_mem_children h.workspace child
  · intro ha
    obtain ⟨x, hx, rfl⟩ := Roster.mem_keys.1 ha
    exact ⟨x.compound, Workspace.compound_mem_keys h.workspace hx,
      (Workspace.mem_children_iff_compound h.workspace hx).2 rfl⟩

/-- Every entity is announced to be gone, once. -/
theorem removed_farewells (h : core.Sound) :
    (core.farewells.filterMap Message.removed?).Perm core.entities := by
  have deleted : ∀ ids : List DatasetId,
      (ids.map Message.datasetDeleted).filterMap Message.removed? = ids.map .dataset := by
    intro ids
    simp [List.filterMap_map, Function.comp_def, Message.removed?]
  rw [farewells, List.filterMap_append, deleted, entities]
  refine .append_right _ ((core.jobs.removed_farewell _ _).trans (.append_left _ ?_))
  exact (perm_children h).map _

theorem messages_teardown (h : core.Sound) (table : core.jobs.Sound) :
    Effect.messages core.teardown.2 = core.farewells := by
  rw [teardown_snd h table, Effect.messages_append, Effect.messages_publish, farewells]
  exact congrArg (· ++ _)
    (Workspace.messages_removeEach h.workspace table h.workspace.compounds_nodup fun _ => id)

/-! ## §2 Commands -/

theorem dispatch_disconnect (h : core.Sound) (table : core.jobs.Sound) (context : Context) :
    let outcome := core.dispatch context .disconnect
    outcome.reply = .ok (.changed .disconnected) ∧ outcome.core = {} ∧
      Effect.messages outcome.effects =
        core.farewells ++ (if core.connection.isConnected then [.disconnected] else []) := by
  refine ⟨rfl, ?_, ?_⟩
  · show Core.mk _ core.teardown.1.datasets core.teardown.1.workspace core.teardown.1.jobs = _
    rw [teardown_fst h]
  · show Effect.messages (if core.connection.isConnected then
      core.teardown.2 ++ [.publish .disconnected] else core.teardown.2) = _
    rw [← messages_teardown h table]
    split
    · exact Effect.messages_append _ _
    · exact (List.append_nil _).symm

theorem dispatch_reconnect (h : core.Sound) (table : core.jobs.Sound) {context : Context}
    {spec : Connection.Spec} (connected : core.connection.isConnected = true)
    (verified : Connection.verify spec context.facts.unreachable = .ok ()) :
    let outcome := core.dispatch context (.connect spec)
    outcome.reply = .ok (.connection (.connected spec)) ∧
      outcome.core = { connection := .connected spec } ∧
      Effect.messages outcome.effects = core.farewells ++ [.connected spec] := by
  have change : core.connect spec = ⟨{ core.teardown.1 with connection := .connected spec },
      core.teardown.2 ++ [.publish (.connected spec)], ()⟩ := by
    rw [connect, if_pos connected]
  rw [dispatch_connect_verified verified, change]
  refine ⟨rfl, ?_, ?_⟩
  · show Core.mk _ core.teardown.1.datasets core.teardown.1.workspace core.teardown.1.jobs = _
    rw [teardown_fst h]
  · rw [Effect.messages_append, Effect.messages_knocks, Effect.messages_append,
      messages_teardown h table]
    rfl

/-- Whatever a run led to, nothing is left of it after the client disconnects, or connects anew; the
batch names the compound analyses in the order in which they are listed, each after its children in
link order, then the datasets, and so every entity once. -/
theorem teardown_is_complete {occurrences : List Occurrence} (fresh : Fresh (run {} occurrences).2)
    (context : Context) :
    let core := (run {} occurrences).1
    let closing := core.dispatch context .disconnect
    (closing.reply = .ok (.changed .disconnected) ∧ closing.core = {} ∧
      Effect.messages closing.effects =
        core.farewells ++ (if core.connection.isConnected then [.disconnected] else [])) ∧
    (∀ spec, core.connection.isConnected = true →
      Connection.verify spec context.facts.unreachable = .ok () →
      let outcome := core.dispatch context (.connect spec)
      outcome.reply = .ok (.connection (.connected spec)) ∧
        outcome.core = { connection := .connected spec } ∧
        Effect.messages outcome.effects = core.farewells ++ [.connected spec] ∧
        ∀ later, (outcome.core.dispatch later .getConnection).reply =
          .ok (.connection (.connected spec))) ∧
    (∀ c, (core.workspace.index.analysesOf c).Perm (core.workspace.analysesUnder c)) ∧
    (core.farewells.filterMap Message.removed?).Perm core.entities ∧ core.entities.Nodup := by
  have h := sound_run occurrences
  have table := (accounted_run occurrences fresh).table
  refine ⟨dispatch_disconnect h table context, ?_, Workspace.perm_analysesUnder h.workspace,
    removed_farewells h, nodup_entities h⟩
  intro spec connected verified
  obtain ⟨reply, next, batch⟩ := dispatch_reconnect h table connected verified
  refine ⟨reply, next, batch, fun later => ?_⟩
  rw [next]
  rfl

/-- The dataset that nothing is over any more goes last, like the other one. -/
theorem teardown_is_complete_gathered :
    let core := (run {} Occurrence.gathered).1
    let context : Context := ⟨⟨"", "", 0, "", "", []⟩, {}, .ofNat 2, accepting, {}⟩
    let closing := core.dispatch context .disconnect
    let opening := core.dispatch context (.connect (.pool 3))
    Fresh (run {} Occurrence.gathered).2 ∧
      Effect.messages closing.effects =
        [.jobCanceled ⟨.ofNat 1, .ofNat 1⟩, .analysisRemoved (.ofNat 1),
          .compoundRemoved (.ofNat 1), .analysisRemoved (.ofNat 2), .compoundRemoved (.ofNat 2),
          .datasetDeleted (.ofNat 1), .datasetDeleted (.ofNat 2), .disconnected] ∧
      closing.core = {} ∧
      opening.core = { connection := .connected (.pool 3) } ∧
      Effect.messages opening.effects =
        (Effect.messages closing.effects).dropLast ++ [.connected (.pool 3)] := by
  have fresh : Fresh (run {} Occurrence.gathered).2 := by decide
  obtain ⟨closing, opening, -⟩ := teardown_is_complete fresh
    ⟨⟨"", "", 0, "", "", []⟩, {}, .ofNat 2, accepting, {}⟩
  exact ⟨fresh, rfl, closing.2.1, (opening (.pool 3) rfl rfl).2.1, rfl⟩

end Core

end Coordination
