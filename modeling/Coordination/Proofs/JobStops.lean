/-
Coordination.Proofs.JobStops — which jobs a command stops.

The core tells the engine to stop a job when it ends the job itself: by a
command that cancels it, starts another job for its analysis, changes or
removes that analysis, or takes away what the analysis depends on. A job
whose record is final is dropped without a word.

Every operation drops the jobs of some analyses, one after the other, and
which analyses these are follows from what it does to the workspace. So
the cancellations among its effects are those of the live jobs of these
analyses (`Table.Cancels`).

  §1 Tables      — `Table.Cancels`, `Table.Drops`: dropping the jobs of some analyses.
  §2 Removals    — which analyses go with some compound analyses, or are changed with one.
  §3 Operations  — `Core.EndsUpon`, and that it says which jobs are stopped.
-/
import Coordination.Proofs.JobTable

namespace Coordination

open Analysis (Workspace)
open Entry (ofEffects)
open Roster (keys)

/-! ## §1 Tables -/

namespace Job.Table

/-- Among the effects are the cancellations of the live jobs with a property, and no others. -/
def Cancels (table : Table) (effects : List Effect) (p : Record → Prop) : Prop :=
  ∀ job, .cancel job ∈ effects ↔
    ∃ r ∈ table.records, r.id = job ∧ r.status.isFinal = false ∧ p r

/-- What dropping the jobs of some analyses does. -/
structure Drops (table : Table) (analyses : List AnalysisId) (result : Table × List Effect) :
    Prop where
  sound : result.1.Sound
  records : result.1.records = table.records.filter fun r => r.analysis ∉ analyses
  canceled : table.Cancels result.2 fun r => r.analysis ∈ analyses

variable {table next : Table} {effects : List Effect}

theorem Cancels.congr {p q : Record → Prop} (h : table.Cancels effects p)
    (same : ∀ r ∈ table.records, r.status.isFinal = false → (p r ↔ q r)) :
    table.Cancels effects q := by
  intro job
  rw [h job]
  constructor
  · rintro ⟨r, hr, hid, live, hp⟩
    exact ⟨r, hr, hid, live, (same r hr live).1 hp⟩
  · rintro ⟨r, hr, hid, live, hq⟩
    exact ⟨r, hr, hid, live, (same r hr live).2 hq⟩

/-- Other effects do not matter. -/
theorem Cancels.of_mem {more : List Effect} {p : Record → Prop} (h : table.Cancels effects p)
    (same : ∀ job, .cancel job ∈ more ↔ .cancel job ∈ effects) : table.Cancels more p :=
  fun job => (same job).trans (h job)

theorem Cancels.append {more : List Effect} {p : Record → Prop} (h : table.Cancels effects p)
    (silent : ∀ job, .cancel job ∉ more) : table.Cancels (effects ++ more) p :=
  h.of_mem (by simp [silent])

theorem cancels_none {p : Record → Prop} (silent : ∀ job, .cancel job ∉ effects)
    (never : ∀ r ∈ table.records, ¬p r) : table.Cancels effects p := by
  intro job
  refine iff_of_false (silent job) ?_
  rintro ⟨r, hr, -, -, hp⟩
  exact never r hr hp

/-- A record that is listed is the current one of its analysis. -/
theorem Sound.currentFor (h : table.Sound) {record : Record} (hr : record ∈ table.records) :
    table.currentFor record.analysis = some record := by
  have found : Roster.find? record.analysis table.current = some record.toCurrent :=
    Roster.find?_key h.analyses_nodup (h.current ▸ List.mem_map_of_mem hr)
  rw [Table.currentFor, found]
  exact Roster.find?_key h.ids_nodup hr

theorem Sound.drops_nil (h : table.Sound) : table.Drops [] (table, []) where
  sound := h
  records := (List.filter_eq_self.2 (by simp)).symm
  canceled := cancels_none (by simp) (by simp)

theorem Sound.drops_retire (h : table.Sound) (analysis : AnalysisId) :
    table.Drops [analysis] (table.retire analysis) := by
  by_cases hb : analysis ∈ keys table.current
  · obtain ⟨record, hr, rfl⟩ := h.exists_of_mem_keys hb
    rw [h.retire hr]
    refine ⟨h.erase hr, ?_, ?_⟩
    · refine List.filter_congr ?_
      intro q hq
      have same : q.id = record.id ↔ q.analysis = record.analysis := by
        constructor
        · intro e
          rw [Roster.eq_of_key h.ids_nodup hq hr e]
        · intro e
          rw [h.eq_of_analysis hq hr e]
      simp [Keyed.key, same]
    · intro job
      constructor
      · intro hm
        by_cases hf : record.status.isFinal = true
        · simp [hf] at hm
        · have hid : job = record.id := by simpa [hf] using hm
          exact ⟨record, hr, hid.symm, eq_false_of_ne_true hf, List.mem_singleton.2 rfl⟩
      · rintro ⟨r, hm, rfl, live, same⟩
        obtain rfl := h.eq_of_analysis hm hr (List.mem_singleton.1 same)
        simp [live]
  · have none : ∀ r ∈ table.records, r.analysis ≠ analysis := by
      intro r hr e
      exact hb (e ▸ h.mem_keys_current hr)
    rw [retire_of_idle hb]
    refine ⟨h, (List.filter_eq_self.2 ?_).symm, cancels_none (by simp) ?_⟩
    · intro r hr
      simpa using none r hr
    · intro r hr
      simpa using none r hr

/-- Some jobs are dropped, then others. What is published in between does not matter. -/
theorem Drops.append {one others : List AnalysisId} {t u : Table} {e f all : List Effect}
    (h : table.Drops one (t, e)) (k : t.Drops others (u, f))
    (same : ∀ job, .cancel job ∈ all ↔ .cancel job ∈ e ∨ .cancel job ∈ f) :
    table.Drops (one ++ others) (u, all) where
  sound := k.sound
  records := by
    rw [k.records, h.records, List.filter_filter]
    refine List.filter_congr ?_
    intro r _
    simp [not_or, Bool.and_comm]
  canceled := by
    intro job
    have kept : t.records = table.records.filter fun r => r.analysis ∉ one := h.records
    rw [same, h.canceled job, k.canceled job]
    simp only [kept, List.mem_filter, decide_eq_true_eq, List.mem_append]
    constructor
    · rintro (⟨r, hr, hid, live, hm⟩ | ⟨r, ⟨hr, -⟩, hid, live, hm⟩)
      · exact ⟨r, hr, hid, live, .inl hm⟩
      · exact ⟨r, hr, hid, live, .inr hm⟩
    · rintro ⟨r, hr, hid, live, hm⟩
      by_cases first : r.analysis ∈ one
      · exact .inl ⟨r, hr, hid, live, first⟩
      · exact .inr ⟨r, ⟨hr, first⟩, hid, live, hm.resolve_left first⟩

theorem Sound.drops_withdrawAnalyses (h : table.Sound) (gone : List Analysis) :
    table.Drops (keys gone) (table.withdrawAnalyses gone) := by
  induction gone generalizing table with
  | nil => exact h.drops_nil
  | cons a rest ih =>
    have first := h.drops_retire a.id
    exact first.append (ih first.sound) (by simp)

theorem Sound.drops_withdraw (h : table.Sound) (gone : List Workspace.Removed) :
    table.Drops (gone.flatMap fun removed => keys removed.analyses) (table.withdraw gone) := by
  induction gone generalizing table with
  | nil => exact h.drops_nil
  | cons removed rest ih =>
    have first := h.drops_withdrawAnalyses removed.analyses
    exact first.append (ih first.sound) (by simp)

theorem Sound.drops_refresh (h : table.Sound) (changed : List Analysis) :
    table.Drops (keys changed) (table.refresh changed) := by
  induction changed generalizing table with
  | nil => exact h.drops_nil
  | cons a rest ih =>
    have first := h.drops_retire a.id
    exact first.append (ih first.sound) (by simp)

end Job.Table

/-! ## §2 Removals -/

namespace Analysis.Workspace

variable {w : Workspace}

/-- The compound analysis that an analysis belongs to is there. -/
theorem mem_keys_of_parentOf (h : w.Sound) {a : AnalysisId} {c : CompoundId}
    (hp : w.parentOf a = some c) : c ∈ keys w.compounds := by
  obtain ⟨x, hx, rfl⟩ := Option.map_eq_some_iff.1 hp
  exact compound_mem_keys h (Roster.mem_of_find?_eq_some hx)

/-- With compound analyses go the analyses that belong to them. -/
theorem mem_removed_iff (h : w.Sound) (ids : List CompoundId) (a : AnalysisId) :
    a ∈ (w.removeEach ids).2.flatMap (fun removed => keys removed.analyses) ↔
      ∃ c ∈ ids, w.parentOf a = some c := by
  induction ids generalizing w with
  | nil => simp [removeEach]
  | cons id rest ih =>
    cases hc : w.compound? id with
    | none =>
      have absent : w.parentOf a ≠ some id := by
        intro hp
        exact Roster.find?_eq_none_iff.1 hc (mem_keys_of_parentOf h hp)
      rw [removeEach_of_missing hc, ih h]
      simp [absent]
    | some c =>
      obtain ⟨next, gone, hok⟩ := removeCompound_of_found hc
      have g := removeCompound_spec h hok
      have children : keys gone.analyses = w.index.analysesOf id := g.removed ▸ keys_children h id
      rw [removeEach_of_found hok, List.flatMap_cons, List.mem_append, ih (g.sound h), children,
        h.mem_children]
      simp only [g.parentOf_eq_some_iff h, List.mem_cons]
      constructor
      · rintro (hp | ⟨c, hc, hp, -⟩)
        · exact ⟨id, .inl rfl, hp⟩
        · exact ⟨c, .inr hc, hp⟩
      · rintro ⟨c, rfl | hc, hp⟩
        · exact .inl hp
        · by_cases same : c = id
          · exact .inl (same ▸ hp)
          · exact .inr ⟨c, hc, hp, same⟩

/-- The analyses that go over to another dataset with their compound analysis are those that were
over a different one. -/
theorem CompoundPut.mem_keys_retargeted (h : w.Sound) {w' : Workspace}
    {datasets : Dataset.Registry} {id : CompoundId} {dataset : DatasetId}
    {details : Compound.Details} {stored : CompoundStored}
    (p : CompoundPut w datasets id dataset details w' stored) {a : AnalysisId} :
    a ∈ keys stored.retargeted ↔
      ∃ x, w.analysis? a = some x ∧ x.compound = id ∧ x.dataset ≠ dataset := by
  have agrees : ∀ x, w.analysis? a = some x → x.compound = id → w.datasetOf id = some x.dataset := by
    rintro x hx rfl
    exact h.parent x (Roster.mem_of_find?_eq_some hx)
  rw [p.retargeted]
  split
  · rename_i still
    refine iff_of_false (by simp [keys]) ?_
    rintro ⟨x, hx, hc, other⟩
    rw [agrees x hx hc] at still
    rcases still with still | still
    · cases still
    · exact other (Option.some.inj still)
  · rename_i moved
    let changed (x : Analysis) := { x with dataset := dataset }
    have keeps : ∀ x : Analysis, Keyed.key (changed x) = Keyed.key x := fun _ => rfl
    have children : keys ((w.index.analysesOf id).filterMap fun child =>
        (w.analysis? child).map changed) = w.index.analysesOf id := by
      rw [← List.map_filterMap, Roster.keys_map keeps, keys_children h]
    rw [children, h.mem_children, Workspace.parentOf, Option.map_eq_some_iff]
    constructor
    · rintro ⟨x, hx, hc⟩
      refine ⟨x, hx, hc, ?_⟩
      intro same
      exact moved (.inr (same ▸ agrees x hx hc))
    · rintro ⟨x, hx, hc, -⟩
      exact ⟨x, hx, hc⟩

end Analysis.Workspace

/-! ## §3 Operations -/

namespace Core

/-- Whether a command that is accepted takes away what a job needs, or ends it outright. -/
def Ends (core : Core) (record : Job.Record) : Command → Prop
  | .cancelJob id => id = record.id
  | .runAnalysis id | .putAnalysis id _ _ | .removeAnalysis id => id = record.analysis
  | .putCompound id dataset _ => ∃ a, core.workspace.analysis? record.analysis = some a ∧
    a.compound = id ∧ a.dataset ≠ dataset
  | .removeCompound id => ∃ a, core.workspace.analysis? record.analysis = some a ∧ a.compound = id
  | .registerDataset id _ | .removeDataset id =>
    ∃ a, core.workspace.analysis? record.analysis = some a ∧ a.dataset = id
  | .connect _ | .disconnect => True
  | .getConfig | .getConnection | .getDataset _ | .listDatasets => False

variable {core : Core} {job : JobId}

/-- A job that is listed is the job of an analysis. -/
theorem Sound.analysis_of_record (h : core.Sound) (table : core.jobs.Sound) {record : Job.Record}
    (hr : record ∈ core.jobs.records) :
    ∃ a, core.workspace.analysis? record.analysis = some a := by
  have there := h.standing.tracked record.analysis (table.mem_keys_current hr)
  cases found : core.workspace.analysis? record.analysis with
  | none => exact absurd there (Roster.find?_eq_none_iff.1 found)
  | some a => exact ⟨a, rfl⟩

/-- Where there is a job there is a connection. -/
theorem Sound.isConnected_of_record (h : core.Sound) (table : core.jobs.Sound)
    {record : Job.Record} (hr : record ∈ core.jobs.records) :
    core.connection.isConnected = true := by
  obtain ⟨a, ha⟩ := h.analysis_of_record table hr
  cases connected : core.connection.isConnected with
  | true => rfl
  | false =>
    have none : core.workspace.analyses = [] := (h.standing.vacant connected).2.2
    simp [Workspace.analysis?, none, Roster.find?] at ha

/-- With all compound analyses go the analyses of all jobs. -/
theorem mem_cleared_of_record (h : core.Sound) (table : core.jobs.Sound) {record : Job.Record}
    (hr : record ∈ core.jobs.records) :
    record.analysis ∈ core.workspace.clear.2.flatMap fun gone => keys gone.analyses := by
  obtain ⟨a, ha⟩ := h.analysis_of_record table hr
  have parent : core.workspace.parentOf record.analysis = some a.compound := by
    rw [Workspace.parentOf, ha]
    rfl
  exact (Workspace.mem_removed_iff h.workspace _ _).2
    ⟨a.compound, Workspace.mem_keys_of_parentOf h.workspace parent, parent⟩

/-- After the analyses were withdrawn no job is left over. -/
theorem records_withdraw_clear (h : core.Sound) (table : core.jobs.Sound) :
    (core.jobs.withdraw core.workspace.clear.2).1.records = [] := by
  rw [(table.drops_withdraw _).records, List.filter_eq_nil_iff]
  intro r hr
  simp [mem_cleared_of_record h table hr]

/-- All datasets are told of, and there is no job to be ended any more. -/
theorem teardown_snd (h : core.Sound) (table : core.jobs.Sound) :
    core.teardown.2 = (core.jobs.withdraw core.workspace.clear.2).2 ++
      core.datasets.ids.map fun id => .publish (.datasetDeleted id) := by
  show _ ++ (core.datasets.removeEach core.datasets.ids).2 ++
    (Job.Table.retireEach _ ((core.jobs.withdraw core.workspace.clear.2).1.records.map
      (·.analysis))).2 = _
  rw [records_withdraw_clear h table,
    Dataset.Registry.removeEach_ids core.datasets h.standing.datasets_nodup]
  exact List.append_nil _

theorem cancels_teardown (h : core.Sound) (table : core.jobs.Sound) :
    core.jobs.Cancels core.teardown.2 fun _ => True := by
  rw [teardown_snd h table]
  refine .append ((table.drops_withdraw _).canceled.congr ?_) (by simp)
  intro r hr _
  exact iff_true_intro (mem_cleared_of_record h table hr)

theorem cancels_connect (h : core.Sound) (table : core.jobs.Sound) (spec : Connection.Spec) :
    core.jobs.Cancels (core.connect spec).effects fun _ => True := by
  cases connected : core.connection.isConnected with
  | true => exact (cancels_teardown h table).of_mem (by simp [connect, connected])
  | false =>
    refine Job.Table.cancels_none (by simp [connect, connected]) ?_
    intro r hr
    exact absurd (h.isConnected_of_record table hr) (by simp [connected])

theorem cancels_disconnect (h : core.Sound) (table : core.jobs.Sound) :
    core.jobs.Cancels core.disconnect.effects fun _ => True := by
  refine (cancels_teardown h table).of_mem ?_
  intro job
  cases connected : core.connection.isConnected <;> simp [disconnect, connected]

/-- With a dataset go the jobs of the analyses that are over it. -/
theorem cancels_removeDependents (h : core.Sound) (table : core.jobs.Sound)
    (dataset : DatasetId) :
    core.jobs.Cancels (core.removeDependents dataset).2 fun r =>
      ∃ a, core.workspace.analysis? r.analysis = some a ∧ a.dataset = dataset := by
  let removed := (core.workspace.removeOver dataset).2
  have drops := table.drops_withdraw removed
  refine drops.canceled.congr ?_
  intro r _ _
  refine (Workspace.mem_removed_iff h.workspace _ _).trans ?_
  simp only [h.workspace.mem_over, Workspace.parentOf, Option.map_eq_some_iff]
  constructor
  · rintro ⟨c, based, a, found, rfl⟩
    have same := h.workspace.parent a (Roster.mem_of_find?_eq_some found)
    exact ⟨a, found, Option.some.inj (same.symm.trans based)⟩
  · rintro ⟨a, found, rfl⟩
    exact ⟨a.compound, h.workspace.parent a (Roster.mem_of_find?_eq_some found), a, found, rfl⟩

theorem cancels_registerDataset (h : core.Sound) (table : core.jobs.Sound) {dataset : Dataset}
    {change : Change Dataset} (hok : core.registerDataset dataset = .ok change) :
    core.jobs.Cancels change.effects fun r =>
      ∃ a, core.workspace.analysis? r.analysis = some a ∧ a.dataset = dataset.id := by
  obtain ⟨-, ⟨-, rfl⟩ | ⟨new, rfl⟩⟩ := registerDataset_accepted hok
  · exact (cancels_removeDependents h table dataset.id).append (by simp)
  · refine Job.Table.cancels_none (by simp) ?_
    rintro r - ⟨a, found, same⟩
    have unused := unused_of_not_mem h (mt Roster.contains_iff.2 (ne_true_of_eq_false new))
    exact unused.2 a (Roster.mem_of_find?_eq_some found) same

theorem cancels_removeDataset (h : core.Sound) (table : core.jobs.Sound) {id : DatasetId}
    {change : Change Dataset} (hok : core.removeDataset id = .ok change) :
    core.jobs.Cancels change.effects fun r =>
      ∃ a, core.workspace.analysis? r.analysis = some a ∧ a.dataset = id := by
  obtain ⟨dataset, -, rfl⟩ := removeDataset_accepted hok
  exact (cancels_removeDependents h table id).append (by simp)

theorem cancels_putCompound (h : core.Sound) (table : core.jobs.Sound) {id : CompoundId}
    {dataset : DatasetId} {details : Compound.Details} {change : Change (Stored Compound)}
    (hok : core.putCompound id dataset details = .ok change) :
    core.jobs.Cancels change.effects fun r => ∃ a,
      core.workspace.analysis? r.analysis = some a ∧ a.compound = id ∧ a.dataset ≠ dataset := by
  obtain ⟨workspace, stored, put, -, rfl⟩ := putCompound_accepted hok
  have p := Workspace.putCompound_spec h.workspace put
  refine ((table.drops_refresh stored.retargeted).canceled.congr ?_).of_mem (by simp)
  intro r _ _
  exact p.mem_keys_retargeted h.workspace

theorem cancels_removeCompound (h : core.Sound) (table : core.jobs.Sound) {id : CompoundId}
    {change : Change Compound} (hok : core.removeCompound id = .ok change) :
    core.jobs.Cancels change.effects fun r =>
      ∃ a, core.workspace.analysis? r.analysis = some a ∧ a.compound = id := by
  obtain ⟨workspace, gone, removed, rfl⟩ := removeCompound_accepted hok
  have g := Workspace.removeCompound_spec h.workspace removed
  refine (table.drops_withdraw [gone]).canceled.congr ?_
  intro r _ _
  have children : keys gone.analyses = core.workspace.index.analysesOf id :=
    g.removed ▸ Workspace.keys_children h.workspace id
  simp only [List.flatMap_cons, List.flatMap_nil, List.append_nil, children,
    h.workspace.mem_children, Workspace.parentOf, Option.map_eq_some_iff]

theorem cancels_putAnalysis (h : core.Sound) (table : core.jobs.Sound) {id : AnalysisId}
    {compound : CompoundId} {details : Analysis.Details} {change : Change (Stored Analysis)}
    (hok : core.putAnalysis id compound details = .ok change) :
    core.jobs.Cancels change.effects fun r => id = r.analysis := by
  obtain ⟨workspace, stored, put, -, ⟨new, rfl⟩ | ⟨-, rfl⟩⟩ := putAnalysis_accepted hok
  · have p := Workspace.putAnalysis_spec h.workspace put
    refine Job.Table.cancels_none (by simp) ?_
    rintro r hr rfl
    obtain ⟨a, found⟩ := h.analysis_of_record table hr
    have absent := p.created
    rw [new, found] at absent
    cases absent
  · refine ((table.drops_retire id).canceled.congr ?_).append (by simp)
    intro r _ _
    simp [eq_comm]

theorem cancels_removeAnalysis (table : core.jobs.Sound) {id : AnalysisId}
    {change : Change Analysis} (hok : core.removeAnalysis id = .ok change) :
    core.jobs.Cancels change.effects fun r => id = r.analysis := by
  obtain ⟨workspace, analysis, parent, -, rfl⟩ := removeAnalysis_accepted hok
  refine ((table.drops_retire id).canceled.congr ?_).append (by simp)
  intro r _ _
  simp [eq_comm]

theorem cancels_runAnalysis (table : core.jobs.Sound) {fresh : JobId} {answer : EngineAnswer}
    {id : AnalysisId} {change : Change Job.Handle}
    (hok : core.runAnalysis fresh answer id = .ok change) :
    core.jobs.Cancels change.effects fun r => id = r.analysis := by
  have retired : core.jobs.Cancels (core.jobs.retire id).2 fun r => id = r.analysis := by
    refine (table.drops_retire id).canceled.congr ?_
    intro r _ _
    simp [eq_comm]
  obtain ⟨analysis, dataset, -, -, ⟨-, rfl⟩ | ⟨problem, -, rfl⟩⟩ := runAnalysis_accepted hok
  · exact retired.append (by simp)
  · exact retired.append (by simp)

theorem cancels_cancelJob (table : core.jobs.Sound) {id : JobId} {change : Change Job.Handle}
    (hok : core.cancelJob id = .ok change) :
    core.jobs.Cancels change.effects fun r => id = r.id := by
  obtain ⟨record, found, outcome⟩ := cancelJob_accepted hok
  obtain rfl : record.id = id := Roster.key_of_find?_eq_some found
  have listed := Roster.mem_of_find?_eq_some found
  intro job
  rcases outcome with ⟨final, rfl⟩ | ⟨going, rfl⟩
  · refine iff_of_false (by simp) ?_
    rintro ⟨r, hm, -, live, same⟩
    obtain rfl := Roster.eq_of_key table.ids_nodup listed hm same
    simp [final] at live
  · constructor
    · intro hm
      have same : job = record.id := by simpa using hm
      exact ⟨record, listed, same.symm, going, rfl⟩
    · rintro ⟨r, -, rfl, -, same⟩
      simp [same]

/-- A dataset is prepared under the identifier that was asked for. -/
theorem id_of_prepare {id : DatasetId} {params : Dataset.Params} {file : Dataset.FileStatus}
    {dataset : Dataset} (hok : Dataset.prepare id params file = .ok dataset) : dataset.id = id := by
  obtain ⟨shape, -, rfl⟩ := prepare_accepted hok
  rfl

theorem cancels_answering {α : Type} {x : Except Rejection (Change α)} {reply : α → Reply}
    {change : Change Reply} {p : Job.Record → Prop}
    (canceled : ∀ made, x = .ok made → core.jobs.Cancels made.effects p)
    (hok : (x >>= fun made => pure (answering made reply)) = .ok change) :
    core.jobs.Cancels change.effects p := by
  obtain ⟨made, hm, hok⟩ := bind_eq_ok.1 hok
  obtain rfl := Except.ok.inj hok
  exact canceled made hm

/-- A command that is accepted stops the live jobs that it ends. -/
theorem cancels_perform (h : core.Sound) (table : core.jobs.Sound) {context : Context}
    {command : Command} {change : Change Reply} (hok : core.perform context command = .ok change) :
    core.jobs.Cancels change.effects fun r => core.Ends r command := by
  cases command with
  | getConfig | getConnection | listDatasets =>
    obtain rfl : _ = change := Except.ok.inj hok
    exact Job.Table.cancels_none (by simp [answerOnly]) fun _ _ never => never
  | getDataset id =>
    unfold perform at hok
    cases hg : core.datasets.get? id with
    | none => simp only [hg] at hok; exact nomatch hok
    | some dataset =>
      simp only [hg] at hok
      obtain rfl : _ = change := Except.ok.inj hok
      exact Job.Table.cancels_none (by simp [answerOnly]) fun _ _ never => never
  | connect spec =>
    obtain ⟨_, -, hok⟩ := bind_eq_ok.1 hok
    obtain rfl : _ = change := Except.ok.inj hok
    exact cancels_connect h table spec
  | disconnect =>
    obtain rfl : _ = change := Except.ok.inj hok
    exact cancels_disconnect h table
  | registerDataset id params =>
    obtain ⟨_, -, hok⟩ := bind_eq_ok.1 hok
    obtain ⟨dataset, prepared, hok⟩ := bind_eq_ok.1 hok
    obtain rfl := id_of_prepare (mapError_eq_ok.1 prepared)
    exact cancels_answering (fun _ => cancels_registerDataset h table) hok
  | removeDataset id => exact cancels_answering (fun _ => cancels_removeDataset h table) hok
  | putCompound id dataset details =>
    exact cancels_answering (fun _ => cancels_putCompound h table) hok
  | removeCompound id => exact cancels_answering (fun _ => cancels_removeCompound h table) hok
  | putAnalysis id compound details =>
    exact cancels_answering (fun _ => cancels_putAnalysis h table) hok
  | removeAnalysis id => exact cancels_answering (fun _ => cancels_removeAnalysis table) hok
  | runAnalysis id => exact cancels_answering (fun _ => cancels_runAnalysis table) hok
  | cancelJob id => exact cancels_answering (fun _ => cancels_cancelJob table) hok

/-- A cancellation in the journal is one among the effects. -/
theorem cancel_mem_ofEffects {answer : EngineAnswer} {effects : List Effect} :
    .cancel job ∈ ofEffects answer effects ↔ .cancel job ∈ effects := by
  rw [ofEffects, List.mem_map]
  constructor
  · rintro ⟨effect, hm, he⟩
    cases effect with
    | cancel other => exact Entry.cancel.inj he ▸ hm
    | probe | start | publish => cases he
  · exact fun hm => ⟨_, hm, rfl⟩

/-- Whether something that happens takes away what a job needs, or ends it outright. What the engine
reports by itself does not count. -/
def EndsUpon (core : Core) (record : Job.Record) : Occurrence → Prop
  | .command context command =>
    (∃ change, core.perform context command = .ok change) ∧ core.Ends record command
  | .connect _ => True
  | .register dataset =>
    ∃ a, core.workspace.analysis? record.analysis = some a ∧ a.dataset = dataset.id
  | .report _ => False

/-- Whatever happens, the engine is told to stop the live jobs that end by it. -/
theorem cancel_mem_occur (h : core.Sound) (table : core.jobs.Sound) (occurrence : Occurrence)
    (job : JobId) :
    .cancel job ∈ (core.occur occurrence).2 ↔ ∃ record ∈ core.jobs.records,
      record.id = job ∧ record.status.isFinal = false ∧ core.EndsUpon record occurrence := by
  cases occurrence with
  | command context command =>
    refine cancel_mem_ofEffects.trans ?_
    have knock : .cancel job ∉ knocks command := by
      unfold knocks
      split
      · split <;> simp
      · simp
    cases hp : core.perform context command with
    | error rejection => simp [dispatch, hp, knock, EndsUpon]
    | ok change =>
      have canceled := cancels_perform h table hp job
      simpa [dispatch, hp, knock, EndsUpon] using canceled
  | connect spec => exact cancel_mem_ofEffects.trans (cancels_connect h table spec job)
  | register dataset =>
    cases hr : core.registerDataset dataset with
    | ok change =>
      simp only [occur, hr]
      exact cancel_mem_ofEffects.trans (cancels_registerDataset h table hr job)
    | error rejection =>
      simp only [occur, hr]
      refine iff_of_false (by simp) ?_
      rintro ⟨record, listed, -⟩
      have connected := h.isConnected_of_record table listed
      simp [registerDataset, requireConnected, connected, bind, Except.bind, pure, Except.pure] at hr
  | report report =>
    refine iff_of_false ?_ (by simp [EndsUpon])
    simp only [occur, List.mem_cons, reduceCtorEq, false_or, cancel_mem_ofEffects, applyReport]
    split <;> simp

end Core

end Coordination
