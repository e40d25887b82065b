/-
Coordination.Proofs.Cascade — what a removal takes along.

A compound analysis goes with its analyses and their jobs. A dataset that
is removed, or replaced under its identifier, goes with all that is over
it. The core finds what has to go by following its index, which every
earlier command had to keep up to date. `Core.Sweep` says what becomes of
the core in terms of its stores alone: what goes is what a scan of them
selects, what stays is listed as before, and the batch tells of everything
that goes once, children before parents.

The index may list compound analyses and analyses in another order than
the stores do, since it is in the order of linking. So the batch follows a
permutation of what the scan selects.

  §1 Messages    — `Table.parting`, `Table.farewell`: the messages of a removal.
  §2 Removals    — which messages and jobs go with some compound analyses.
  §3 Operations  — `Core.Sweep`, and the three commands that cascade.
-/
import Coordination.Proofs.JobStops
import Mathlib.Data.List.Basic
import Mathlib.Data.List.Nodup
import Mathlib.Data.List.Perm.Basic

namespace Coordination

open Analysis (Workspace)
open Roster (keys)

/-! ## §1 Messages -/

/-- An entity that clients refer to. -/
inductive Entity where
  | dataset (id : DatasetId)
  | compound (id : CompoundId)
  | analysis (id : AnalysisId)
  deriving DecidableEq, Repr

/-- The entity that a message says is gone. -/
def Message.removed? : Message → Option Entity
  | .datasetDeleted id => some (.dataset id)
  | .compoundRemoved id => some (.compound id)
  | .analysisRemoved id => some (.analysis id)
  | _ => none

namespace Job.Table

/-- The live jobs of an analysis. -/
def liveOf (table : Table) (analysis : AnalysisId) : List Record :=
  table.records.filter fun r => r.analysis = analysis ∧ r.status.isFinal = false

/-- What is published when an analysis goes: that its job is canceled, if it is live, and that the
analysis is removed. -/
def parting (table : Table) (analysis : AnalysisId) : List Message :=
  (table.liveOf analysis).map (fun r => .jobCanceled r.handle) ++ [.analysisRemoved analysis]

/-- What is published when compound analyses go, each after its children. -/
def farewell (table : Table) (children : CompoundId → List AnalysisId)
    (compounds : List CompoundId) : List Message :=
  compounds.flatMap fun c => (children c).flatMap table.parting ++ [.compoundRemoved c]

variable {table : Table}

/-- A live job is canceled when it is dropped, and there is one at most. -/
theorem Sound.messages_retire (h : table.Sound) (analysis : AnalysisId) :
    Effect.messages (table.retire analysis).2 =
      (table.liveOf analysis).map fun r => .jobCanceled r.handle := by
  by_cases hb : analysis ∈ keys table.current
  · obtain ⟨record, hr, rfl⟩ := h.exists_of_mem_keys hb
    have one : (table.records.filter fun r => r.analysis = record.analysis) = [record] := by
      rw [← Roster.filter_key h.ids_nodup hr]
      refine List.filter_congr fun q hq => decide_eq_decide.2 ⟨?_, ?_⟩
      · exact fun e => congrArg Record.id (h.eq_of_analysis hq hr e)
      · exact fun e => congrArg Record.analysis (Roster.eq_of_key h.ids_nodup hq hr e)
    have live : table.liveOf record.analysis = [record].filter (·.status.isFinal = false) := by
      rw [← one, List.filter_filter]
      exact List.filter_congr fun q _ => by simp [Bool.and_comm]
    rw [h.retire hr, live]
    cases hf : record.status.isFinal <;> simp [hf, Effect.messages]
  · have none : table.liveOf analysis = [] := by
      refine List.filter_eq_nil_iff.2 fun r hr hp => hb ?_
      exact (of_decide_eq_true hp).1 ▸ h.mem_keys_current hr
    rw [retire_of_idle hb, none]
    rfl

/-- The jobs of an analysis stay as they are when those of others are dropped. -/
theorem Drops.liveOf_eq {gone : List AnalysisId} {next : Table} {effects : List Effect}
    (d : table.Drops gone (next, effects)) {analysis : AnalysisId} (stays : analysis ∉ gone) :
    next.liveOf analysis = table.liveOf analysis := by
  have records : next.records = table.records.filter fun r => r.analysis ∉ gone := d.records
  rw [liveOf, records, List.filter_filter]
  refine List.filter_congr fun r _ => ?_
  by_cases same : r.analysis = analysis <;> simp [same, stays]

/-- What is published of an analysis does not depend on the jobs of others. -/
theorem Drops.parting_eq {gone : List AnalysisId} {next : Table} {effects : List Effect}
    (d : table.Drops gone (next, effects)) {analysis : AnalysisId} (stays : analysis ∉ gone) :
    next.parting analysis = table.parting analysis := by
  rw [parting, d.liveOf_eq stays, parting]

theorem Sound.messages_withdrawAnalyses (h : table.Sound) {gone : List Analysis}
    (apart : (keys gone).Nodup) :
    Effect.messages (table.withdrawAnalyses gone).2 = (keys gone).flatMap table.parting := by
  induction gone generalizing table with
  | nil => rfl
  | cons a rest ih =>
    obtain ⟨ha, hrest⟩ := List.nodup_cons.1 apart
    have first := h.drops_retire a.id
    have others : (keys rest).flatMap (table.retire a.id).1.parting =
        (keys rest).flatMap table.parting := by
      refine List.flatMap_congr fun b hb => first.parting_eq ?_
      intro hm
      obtain rfl := List.mem_singleton.1 hm
      exact ha hb
    show Effect.messages ((table.retire a.id).2 ++ .publish (.analysisRemoved a.id) ::
      ((table.retire a.id).1.withdrawAnalyses rest).2) = table.parting a.id ++ _
    rw [Effect.messages_append, h.messages_retire, parting, List.append_assoc]
    exact congrArg (_ ++ .analysisRemoved a.id :: ·) ((ih first.sound hrest).trans others)

theorem Sound.messages_withdraw (h : table.Sound) {gone : List Workspace.Removed}
    (apart : (gone.flatMap fun removed => keys removed.analyses).Nodup) :
    Effect.messages (table.withdraw gone).2 = gone.flatMap fun removed =>
      (keys removed.analyses).flatMap table.parting ++ [.compoundRemoved removed.compound.id] := by
  induction gone generalizing table with
  | nil => rfl
  | cons removed rest ih =>
    rw [List.flatMap_cons, List.nodup_append] at apart
    obtain ⟨one, others, disjoint⟩ := apart
    have first := h.drops_withdrawAnalyses removed.analyses
    have kept : ∀ g ∈ rest, (keys g.analyses).flatMap
        (table.withdrawAnalyses removed.analyses).1.parting =
        (keys g.analyses).flatMap table.parting := by
      intro g hg
      refine List.flatMap_congr fun a ha => first.parting_eq ?_
      intro hm
      exact disjoint a hm a (List.mem_flatMap.2 ⟨g, hg, ha⟩) rfl
    show Effect.messages ((table.withdrawAnalyses removed.analyses).2 ++
      .publish (.compoundRemoved removed.compound.id) ::
        ((table.withdrawAnalyses removed.analyses).1.withdraw rest).2) = _
    rw [Effect.messages_append, h.messages_withdrawAnalyses one, List.flatMap_cons,
      List.append_assoc]
    refine congrArg (_ ++ Message.compoundRemoved removed.compound.id :: ·) ?_
    refine (ih first.sound others).trans (List.flatMap_congr fun g hg => ?_)
    rw [kept g hg]

/-- A farewell names the compound analyses and their children, each as often as it is given. -/
theorem removed_farewell (table : Table) (children : CompoundId → List AnalysisId)
    (compounds : List CompoundId) :
    ((table.farewell children compounds).filterMap Message.removed?).Perm
      (compounds.map .compound ++ (compounds.flatMap children).map .analysis) := by
  have parted : ∀ analyses : List AnalysisId,
      (analyses.flatMap table.parting).filterMap Message.removed? = analyses.map .analysis := by
    intro analyses
    induction analyses with
    | nil => rfl
    | cons a rest ih =>
      have silent : ((table.liveOf a).map fun r => Message.jobCanceled r.handle).filterMap
          Message.removed? = [] := by
        simp [List.filterMap_map, Function.comp_def, Message.removed?]
      rw [List.flatMap_cons, List.filterMap_append, ih, parting, List.filterMap_append, silent]
      rfl
  induction compounds with
  | nil => exact .refl _
  | cons c rest ih =>
    have split : (table.farewell children (c :: rest)).filterMap Message.removed? =
        (children c).map .analysis ++ .compound c ::
          (table.farewell children rest).filterMap Message.removed? := by
      rw [farewell, List.flatMap_cons, List.filterMap_append, List.filterMap_append, parted,
        List.append_assoc]
      rfl
    rw [split, List.flatMap_cons, List.map_append]
    refine List.perm_middle.trans (.cons _ ?_)
    exact (ih.append_left _).trans (List.perm_append_comm_assoc ..)

end Job.Table

/-! ## §2 Removals -/

namespace Analysis.Workspace

variable {w : Workspace}

/-- Each of some compound analyses is removed with the analyses that are linked to it. -/
theorem removeEach_snd (h : w.Sound) {ids : List CompoundId} (apart : ids.Nodup)
    (there : ∀ id ∈ ids, id ∈ keys w.compounds) :
    (w.removeEach ids).2.map (fun gone => (gone.compound.id, keys gone.analyses)) =
      ids.map fun id => (id, w.index.analysesOf id) := by
  induction ids generalizing w with
  | nil => rfl
  | cons id rest ih =>
    obtain ⟨hid, hrest⟩ := List.nodup_cons.1 apart
    obtain ⟨c, hc⟩ := Roster.mem_keys_iff_find?.1 (there id List.mem_cons_self)
    obtain ⟨next, gone, hok⟩ := removeCompound_of_found hc
    have g := removeCompound_spec h hok
    have found : gone.compound.id = id := Roster.key_of_find?_eq_some g.found
    have children : keys gone.analyses = w.index.analysesOf id := g.removed ▸ keys_children h id
    have others : ∀ other ∈ rest, other ≠ id := fun other ho e => hid (e ▸ ho)
    have left : ∀ other ∈ rest, other ∈ keys next.compounds := by
      intro other ho
      rw [g.compounds, Roster.keys_erase]
      simp [there other (List.mem_cons_of_mem id ho), others other ho]
    rw [removeEach_of_found hok, List.map_cons, List.map_cons, found, children,
      ih (g.sound h) hrest left]
    refine congrArg _ (List.map_congr_left fun other ho => ?_)
    rw [g.children, if_neg (others other ho)]

/-- An analysis is linked to one compound analysis at most. -/
theorem nodup_flatMap_children (h : w.Sound) {ids : List CompoundId} (apart : ids.Nodup) :
    (ids.flatMap w.index.analysesOf).Nodup := by
  refine List.nodup_flatMap.2 ⟨fun id _ => h.children_nodup id, apart.imp ?_⟩
  intro one other hne a ha hb
  have first := (h.mem_children a one).1 ha
  have second := (h.mem_children a other).1 hb
  exact hne (Option.some.inj (first.symm.trans second))

section Jobs

variable {jobs : Job.Table} {ids : List CompoundId}

theorem messages_removeEach (h : w.Sound) (table : jobs.Sound) (apart : ids.Nodup)
    (there : ∀ id ∈ ids, id ∈ keys w.compounds) :
    Effect.messages (jobs.withdraw (w.removeEach ids).2).2 =
      jobs.farewell w.index.analysesOf ids := by
  have pairs := removeEach_snd h apart there
  have analyses : ((w.removeEach ids).2.flatMap fun gone => keys gone.analyses) =
      ids.flatMap w.index.analysesOf := by
    have second := congrArg (List.flatMap Prod.snd) pairs
    simpa only [List.flatMap_map] using second
  rw [table.messages_withdraw (analyses ▸ nodup_flatMap_children h apart)]
  have told := congrArg (List.flatMap fun pair : CompoundId × List AnalysisId =>
    pair.2.flatMap jobs.parting ++ [.compoundRemoved pair.1]) pairs
  simpa only [List.flatMap_map, Job.Table.farewell] using told

/-- The jobs that are left are those of analyses that no scan selects. -/
theorem records_removeEach (h : w.Sound) (table : jobs.Sound) (ids : List CompoundId) :
    (jobs.withdraw (w.removeEach ids).2).1.records =
      jobs.records.filter fun r => r.analysis ∉ ids.flatMap w.analysesUnder := by
  rw [(table.drops_withdraw _).records]
  refine List.filter_congr fun r _ => decide_eq_decide.2 (not_congr ?_)
  rw [mem_removed_iff h, List.mem_flatMap]
  simp only [mem_analysesUnder h]

end Jobs

end Analysis.Workspace

/-! ## §3 Operations -/

namespace Core

/-- What a cascade does that takes some compound analyses: they go with their analyses and the jobs
of those, and all else stays as it is. The batch ends with the given messages. -/
structure Sweep (core : Core) (gone : List CompoundId) (last : List Message) (next : Core)
    (messages : List Message) : Prop where
  compounds : next.workspace.compounds = core.workspace.compounds.filter fun c => c.id ∉ gone
  analyses : next.workspace.analyses = core.workspace.analyses.filter fun a => a.compound ∉ gone
  jobs : next.jobs.records =
    core.jobs.records.filter fun r => r.analysis ∉ gone.flatMap core.workspace.analysesUnder
  /-- Every compound analysis that goes is announced after its analyses, and each of these right
  after its job was canceled. -/
  batch : ∃ compounds children, compounds.Perm gone ∧
    (∀ c, (children c).Perm (core.workspace.analysesUnder c)) ∧
    messages = core.jobs.farewell children compounds ++ last
  /-- Every entity that goes is announced once. -/
  removed : (messages.filterMap Message.removed?).Perm
    (gone.map .compound ++ (gone.flatMap core.workspace.analysesUnder).map .analysis ++
      last.filterMap Message.removed?)

variable {core next : Core}

/-- Removing compound analyses one after the other is a cascade. -/
theorem sweep_removeEach (h : core.Sound) (table : core.jobs.Sound) {ids gone : List CompoundId}
    (same : ids.Perm gone) (apart : ids.Nodup)
    (there : ∀ id ∈ ids, id ∈ keys core.workspace.compounds)
    (workspace : next.workspace = (core.workspace.removeEach ids).1)
    (jobs : next.jobs = (core.jobs.withdraw (core.workspace.removeEach ids).2).1)
    (last : List Message) :
    Sweep core gone last next
      (Effect.messages (core.jobs.withdraw (core.workspace.removeEach ids).2).2 ++ last) := by
  have cleared := Workspace.cleared_removeEach h.workspace ids
  have links := Workspace.perm_analysesUnder h.workspace
  rw [Workspace.messages_removeEach h.workspace table apart there]
  refine ⟨?_, ?_, ?_, ⟨ids, _, same, links, rfl⟩, ?_⟩
  · rw [workspace, cleared.compounds]
    exact List.filter_congr fun c _ => decide_eq_decide.2 (not_congr same.mem_iff)
  · rw [workspace, cleared.analyses]
    exact List.filter_congr fun a _ => decide_eq_decide.2 (not_congr same.mem_iff)
  · rw [jobs, Workspace.records_removeEach h.workspace table]
    exact List.filter_congr fun r _ =>
      decide_eq_decide.2 (not_congr (same.flatMap_right _).mem_iff)
  · rw [List.filterMap_append]
    refine .append_right _ ((core.jobs.removed_farewell _ ids).trans ?_)
    refine (same.map _).append (.map _ ?_)
    exact same.flatMap fun c _ => links c

/-- Where a dataset is registered, there is a connection. -/
theorem Sound.isConnected_of_dataset (h : core.Sound) {id : DatasetId}
    (registered : id ∈ core.datasets.ids) : core.connection.isConnected = true := by
  cases connected : core.connection.isConnected with
  | true => rfl
  | false => exact absurd (h.standing.vacant connected).1 (Roster.ne_nil_of_mem_keys registered)

theorem Sound.isConnected_of_compound (h : core.Sound) {id : CompoundId}
    (there : id ∈ keys core.workspace.compounds) : core.connection.isConnected = true := by
  cases connected : core.connection.isConnected with
  | true => rfl
  | false => exact absurd (h.standing.vacant connected).2.1 (Roster.ne_nil_of_mem_keys there)

/-- What depends on a dataset is what a scan finds over it. -/
theorem sweep_removeDependents (h : core.Sound) (table : core.jobs.Sound) (id : DatasetId)
    (workspace : next.workspace = (core.removeDependents id).1.workspace)
    (jobs : next.jobs = (core.removeDependents id).1.jobs) (last : List Message) :
    Sweep core (core.workspace.compoundsOver id) last next
      (Effect.messages (core.removeDependents id).2 ++ last) := by
  refine sweep_removeEach h table (Workspace.perm_compoundsOver h.workspace id)
    (h.workspace.over_nodup id) ?_ workspace jobs last
  intro c hc
  obtain ⟨x, hx, -⟩ := Option.map_eq_some_iff.1 ((h.workspace.mem_over c id).1 hc)
  exact Roster.mem_keys_of_find? hx

theorem dispatch_removeDataset (h : core.Sound) (table : core.jobs.Sound) (context : Context)
    {id : DatasetId} (registered : id ∈ core.datasets.ids) :
    let outcome := core.dispatch context (.removeDataset id)
    outcome.reply = .ok (.changed (.datasetDeleted id)) ∧
      outcome.core.connection = core.connection ∧
      outcome.core.datasets.datasets = core.datasets.datasets.filter (fun d => d.id ≠ id) ∧
      Sweep core (core.workspace.compoundsOver id) [.datasetDeleted id] outcome.core
        (Effect.messages outcome.effects) := by
  obtain ⟨dataset, found⟩ := Roster.mem_keys_iff_find?.1 registered
  have removed : core.removeDataset id = .ok
      { core := { (core.removeDependents id).1 with
          datasets := ⟨Roster.erase id core.datasets.datasets⟩ }
        effects := (core.removeDependents id).2 ++ [.publish (.datasetDeleted id)]
        value := dataset } := by
    rw [removeDataset, requireConnected, if_pos (h.isConnected_of_dataset registered),
      Dataset.Registry.remove, Dataset.Registry.get?, found]
    rfl
  simp only [dispatch, perform, removed, answering, bind, Except.bind, pure, Except.pure, knocks,
    List.nil_append, Effect.messages_append, true_and]
  exact ⟨rfl, rfl, sweep_removeDependents h table id (by rfl) (by rfl) [.datasetDeleted id]⟩

theorem dispatch_registerDataset (h : core.Sound) (table : core.jobs.Sound) {context : Context}
    {id : DatasetId} (registered : id ∈ core.datasets.ids) {params : Dataset.Params}
    {dataset : Dataset} (prepared : Dataset.prepare id params context.facts.file = .ok dataset) :
    let outcome := core.dispatch context (.registerDataset id params)
    outcome.reply = .ok (.changed (.datasetCreated id dataset)) ∧
      outcome.core.connection = core.connection ∧
      outcome.core.datasets.datasets =
        core.datasets.datasets.filter (fun d => d.id ≠ id) ++ [dataset] ∧
      Sweep core (core.workspace.compoundsOver id) [.datasetCreated id dataset] outcome.core
        (Effect.messages outcome.effects) := by
  obtain rfl := id_of_prepare prepared
  have stored : core.registerDataset dataset = .ok
      { core := { (core.removeDependents dataset.id).1 with
          datasets := ⟨Roster.renew dataset core.datasets.datasets⟩ }
        effects := (core.removeDependents dataset.id).2 ++
          [.publish (.datasetCreated dataset.id dataset)]
        value := dataset } := by
    have taken : core.datasets.contains dataset.id = true := Roster.contains_iff.2 registered
    rw [registerDataset, requireConnected, if_pos (h.isConnected_of_dataset registered),
      if_pos taken]
    rfl
  rw [dispatch_register_prepared core context prepared, stored]
  simp only [Effect.messages_append, true_and]
  exact ⟨rfl, rfl,
    sweep_removeDependents h table dataset.id (by rfl) (by rfl) [.datasetCreated dataset.id dataset]⟩

theorem dispatch_removeCompound (h : core.Sound) (table : core.jobs.Sound) (context : Context)
    {id : CompoundId} (there : id ∈ keys core.workspace.compounds) :
    let outcome := core.dispatch context (.removeCompound id)
    outcome.reply = .ok (.changed (.compoundRemoved id)) ∧
      outcome.core.connection = core.connection ∧
      outcome.core.datasets = core.datasets ∧
      Sweep core [id] [] outcome.core (Effect.messages outcome.effects) := by
  obtain ⟨c, hc⟩ := Roster.mem_keys_iff_find?.1 there
  obtain ⟨next, gone, hok⟩ := Workspace.removeCompound_of_found hc
  have one : core.workspace.removeEach [id] = (next, [gone]) :=
    Workspace.removeEach_of_found hok []
  have removed : core.removeCompound id = .ok
      { core := { core with workspace := next, jobs := (core.jobs.withdraw [gone]).1 }
        effects := (core.jobs.withdraw [gone]).2
        value := gone.compound } := by
    rw [removeCompound, requireConnected, if_pos (h.isConnected_of_compound there), hok]
    rfl
  simp only [dispatch, perform, removed, answering, bind, Except.bind, pure, Except.pure, knocks,
    List.nil_append, true_and]
  have sweep : Sweep core [id] []
      { core with workspace := next, jobs := (core.jobs.withdraw [gone]).1 } _ :=
    sweep_removeEach h table (.refl [id]) (List.nodup_singleton id)
      (List.forall_mem_singleton.2 there) (by rw [one]) (by rw [one]) []
  rw [one, List.append_nil] at sweep
  exact sweep

/-- In every core that a run leads to, a command that removes a registered dataset, or stores
another one in its place, takes exactly what a scan finds over the dataset, and one that removes a
compound analysis takes exactly that one. Such a command is always accepted. -/
theorem cascades_take_dependents {occurrences : List Occurrence}
    (fresh : Fresh (run {} occurrences).2) (context : Context) :
    let core := (run {} occurrences).1
    (∀ id ∈ core.datasets.ids,
      let outcome := core.dispatch context (.removeDataset id)
      outcome.reply = .ok (.changed (.datasetDeleted id)) ∧
        outcome.core.connection = core.connection ∧
        outcome.core.datasets.datasets = core.datasets.datasets.filter (fun d => d.id ≠ id) ∧
        Sweep core (core.workspace.compoundsOver id) [.datasetDeleted id] outcome.core
          (Effect.messages outcome.effects)) ∧
    (∀ id ∈ core.datasets.ids, ∀ params dataset,
      Dataset.prepare id params context.facts.file = .ok dataset →
      let outcome := core.dispatch context (.registerDataset id params)
      outcome.reply = .ok (.changed (.datasetCreated id dataset)) ∧
        outcome.core.connection = core.connection ∧
        outcome.core.datasets.datasets =
          core.datasets.datasets.filter (fun d => d.id ≠ id) ++ [dataset] ∧
        Sweep core (core.workspace.compoundsOver id) [.datasetCreated id dataset] outcome.core
          (Effect.messages outcome.effects)) ∧
    ∀ id ∈ keys core.workspace.compounds,
      let outcome := core.dispatch context (.removeCompound id)
      outcome.reply = .ok (.changed (.compoundRemoved id)) ∧
        outcome.core.connection = core.connection ∧
        outcome.core.datasets = core.datasets ∧
        Sweep core [id] [] outcome.core (Effect.messages outcome.effects) := by
  have h := sound_run occurrences
  have table := (accounted_run occurrences fresh).table
  refine ⟨?_, ?_, ?_⟩
  · intro id registered
    exact dispatch_removeDataset h table context registered
  · intro id registered params dataset prepared
    exact dispatch_registerDataset h table registered prepared
  · intro id there
    exact dispatch_removeCompound h table context there

end Core

/-- Two compound analyses over one dataset. The one that was created first came over from another
dataset later, and a job is running for its analysis. -/
def Occurrence.gathered : List Occurrence :=
  [plain 0 (.connect (.pool 2)),
    plain 0 (.registerDataset (.ofNat 1) (.memory ⟨.uint8, [8, 8], [4, 4]⟩)),
    plain 0 (.registerDataset (.ofNat 2) (.memory ⟨.uint8, [8, 8], [4, 4]⟩)),
    plain 0 (.putCompound (.ofNat 1) (.ofNat 2) ⟨.sumFrames, []⟩),
    plain 0 (.putCompound (.ofNat 2) (.ofNat 1) ⟨.sumFrames, []⟩),
    plain 0 (.putAnalysis (.ofNat 1) (.ofNat 1) ⟨.sumFrames, .empty⟩),
    plain 0 (.putAnalysis (.ofNat 2) (.ofNat 2) ⟨.sumFrames, .empty⟩),
    plain 0 (.putCompound (.ofNat 1) (.ofNat 1) ⟨.sumFrames, []⟩),
    plain 1 (.runAnalysis (.ofNat 1))]

namespace Core

/-- Both compound analyses go, the one that was linked first before the one that was created
first. -/
theorem cascades_take_dependents_gathered :
    let core := (run {} Occurrence.gathered).1
    let context : Context := ⟨⟨"", "", 0, "", "", []⟩, {}, .ofNat 2, accepting, {}⟩
    let outcome := core.dispatch context (.removeDataset (.ofNat 1))
    Fresh (run {} Occurrence.gathered).2 ∧
      core.workspace.compoundsOver (.ofNat 1) = [.ofNat 1, .ofNat 2] ∧
      Effect.messages outcome.effects =
        [.analysisRemoved (.ofNat 2), .compoundRemoved (.ofNat 2),
          .jobCanceled ⟨.ofNat 1, .ofNat 1⟩, .analysisRemoved (.ofNat 1),
          .compoundRemoved (.ofNat 1), .datasetDeleted (.ofNat 1)] ∧
      Sweep core [.ofNat 1, .ofNat 2] [.datasetDeleted (.ofNat 1)] outcome.core
        (Effect.messages outcome.effects) := by
  have fresh : Fresh (run {} Occurrence.gathered).2 := by decide
  refine ⟨fresh, by decide, rfl, ?_⟩
  exact ((cascades_take_dependents fresh _).1 (.ofNat 1) (by decide)).2.2.2

end Core

end Coordination
