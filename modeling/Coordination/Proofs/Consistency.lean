/-
Coordination.Proofs.Consistency — what every core keeps to.

`Core.Consistent` is the invariant as a client would state it, on the four
stores alone. It does not mention the index that the workspace keeps
beside its stores, and it is not inductive without it: `Workspace.Sound`
and `Standing.Accounted` are.

The part on jobs needs identifiers that are not used twice. A job that
comes under the identifier of another one takes over its record.
-/
import Coordination.Proofs.JobTable

namespace Coordination

open Roster (keys)

namespace Core

/-- The stores agree with each other. -/
structure Consistent (core : Core) : Prop where
  /-- Without a connection there is nothing. -/
  vacant : core.connection = .disconnected →
    core.datasets.datasets = [] ∧ core.workspace.compounds = [] ∧ core.workspace.analyses = [] ∧
      core.jobs.records = []
  /-- A compound analysis is over a registered dataset. -/
  registered : ∀ c ∈ core.workspace.compounds, c.dataset ∈ core.datasets.ids
  /-- An analysis belongs to a compound analysis and is over the same dataset. -/
  parent : ∀ a ∈ core.workspace.analyses,
    ∃ c ∈ core.workspace.compounds, c.id = a.compound ∧ c.dataset = a.dataset
  /-- The order of a compound analysis lists its analyses, each once. -/
  order : ∀ c ∈ core.workspace.compounds, c.details.order.Nodup ∧
    c.details.order.Perm ((core.workspace.analyses.filter fun a => a.compound = c.id).map (·.id))
  /-- A job is one of an analysis. -/
  analysis : ∀ r ∈ core.jobs.records, ∃ a ∈ core.workspace.analyses, a.id = r.analysis
  /-- No two jobs are of one analysis. -/
  one_job : (core.jobs.records.map (·.analysis)).Nodup

variable {core : Core}

theorem Sound.parent (h : core.Sound) {a : Analysis} (ha : a ∈ core.workspace.analyses) :
    ∃ c ∈ core.workspace.compounds, c.id = a.compound ∧ c.dataset = a.dataset := by
  obtain ⟨c, hc, hd⟩ := Option.map_eq_some_iff.1 (h.workspace.parent a ha)
  exact ⟨c, Roster.mem_of_find?_eq_some hc, Roster.key_of_find?_eq_some hc, hd⟩

/-- The linked analyses of a compound analysis are those that say they belong to it. -/
theorem Sound.perm_order (h : core.Sound) {c : Compound} (hc : c ∈ core.workspace.compounds) :
    c.details.order.Perm
      ((core.workspace.analyses.filter fun a => a.compound = c.id).map (·.id)) :=
  (h.workspace.order c hc).trans (Analysis.Workspace.perm_analysesUnder h.workspace c.id)

theorem Sound.nodup_order (h : core.Sound) {c : Compound} (hc : c ∈ core.workspace.compounds) :
    c.details.order.Nodup :=
  (h.workspace.order c hc).nodup_iff.2 (h.workspace.children_nodup c.id)

/-- A listed job is of an analysis that exists. -/
theorem Sound.analysis (h : core.Sound) (table : core.jobs.Sound) {r : Job.Record}
    (hr : r ∈ core.jobs.records) : ∃ a ∈ core.workspace.analyses, a.id = r.analysis :=
  Roster.mem_keys.1 (h.standing.tracked r.analysis (table.mem_keys_current hr))

/-- A core is consistent after every run in which no two jobs have one identifier. -/
theorem consistent_run (occurrences : List Occurrence) (fresh : Fresh (run {} occurrences).2) :
    (run {} occurrences).1.Consistent := by
  have h := sound_run occurrences
  have table := (accounted_run occurrences fresh).table
  generalize (run {} occurrences).1 = core at h table
  refine ⟨?_, h.standing.registered, fun a => h.parent,
    fun c hc => ⟨h.nodup_order hc, h.perm_order hc⟩, fun r => h.analysis table, ?_⟩
  · intro hd
    obtain ⟨datasets, compounds, analyses⟩ := h.standing.vacant (congrArg Connection.isConnected hd)
    refine ⟨datasets, compounds, analyses, List.eq_nil_iff_forall_not_mem.2 ?_⟩
    intro r hr
    obtain ⟨a, ha, -⟩ := h.analysis table hr
    exact nomatch (analyses ▸ ha : a ∈ [])
  · have apart := table.analyses_nodup
    rw [table.current, keys, List.map_map] at apart
    exact apart

theorem consistent_rerun :
    (run {} Occurrence.rerun).1.jobs.records = [⟨.ofNat 2, .ofNat 1, .running⟩] ∧
      (run {} Occurrence.rerun).1.Consistent :=
  ⟨by decide, consistent_run _ (by decide)⟩

end Core

end Coordination
