/-
Coordination.Proofs.Batch — every change of a core is a sequence of strides.

A command changes the stores at once and announces the parts of the change
one after the other. Here it is shown of every operation that its effects,
as they stand in the journal, are the entries of strides that lead from
where the core stood to where it stands. That is all that most later modules
know of the operations, and many of them only that the strides are moves.

The order of the effects is what the proofs are about. An analysis may be
announced as changed or removed only when its job is gone, and a compound
analysis as removed only when its analyses are. Where a job is dropped,
one of these announcements or another job follows at once.

  §1 Effects      — strides for effects that stand one after the other.
  §2 Several      — `withdraw`, `refresh`, and the datasets of a teardown.
  §3 Operations   — one lemma for each operation of the core.
  §4 Runs         — `Core.Sound`, `moves_run`, `sound_run`.
-/
import Coordination.Proofs.Operations
import Coordination.Proofs.Stride
import Coordination.Proofs.Compounds

namespace Coordination

open Analysis (Workspace)
open Entry (ofEffects)
open Roster (keys)

/-! ## §1 Effects -/

theorem Entry.ofEffects_append (answer : Core.EngineAnswer) (effects more : List Effect) :
    ofEffects answer (effects ++ more) = ofEffects answer effects ++ ofEffects answer more :=
  List.map_append

/-- No job is handed over where one is dropped, so it does not matter what the engine would say. -/
theorem Entry.ofEffects_retire (answer : Core.EngineAnswer) (table : Job.Table)
    (analysis : AnalysisId) :
    ofEffects answer (table.retire analysis).2 =
      ofEffects Core.accepting (table.retire analysis).2 := by
  rw [Job.Table.retire_snd]
  split
  · split <;> rfl
  · rfl

namespace Strides

variable {answer : Core.EngineAnswer} {s t u : Standing} {effects more : List Effect}

theorem append (before : Strides s (ofEffects answer effects) t)
    (after : Strides t (ofEffects answer more) u) :
    Strides s (ofEffects answer (effects ++ more)) u := by
  rw [Entry.ofEffects_append]
  exact before.trans after

theorem tell {message : Message} (fits : s.Fits message)
    (rest : Strides { s with replica := s.replica.hear message } (ofEffects answer effects) t) :
    Strides s (ofEffects answer (.publish message :: effects)) t :=
  .step (.keep (.tell s message fits) fun _ => id) rest

theorem revise {analysis : AnalysisId} {message : Message}
    (revised : message.revised? = some analysis)
    (fits : Standing.Fits { s with jobs := (s.jobs.retire analysis).1 } message)
    (rest : Strides ⟨s.replica.hear message, (s.jobs.retire analysis).1⟩
      (ofEffects answer effects) t) :
    Strides s (ofEffects answer ((s.jobs.retire analysis).2 ++ .publish message :: effects)) t := by
  have stride := Strides.step (.revise s analysis message revised fits) rest
  rw [List.append_assoc] at stride
  rw [Entry.ofEffects_append, Entry.ofEffects_retire]
  exact stride

end Strides

/-! ## §2 Several -/

namespace Job.Table

theorem withdraw_cons (table : Table) (gone : Workspace.Removed) (rest : List Workspace.Removed) :
    table.withdraw (gone :: rest) =
      (((table.withdraw [gone]).1.withdraw rest).1,
        (table.withdraw [gone]).2 ++ ((table.withdraw [gone]).1.withdraw rest).2) := by
  simp [withdraw]

/-- Where no analysis has a current job, there is none to drop. -/
theorem retireEach_of_current_eq_nil {table : Table} (h : table.current = [])
    (analyses : List AnalysisId) : (table.retireEach analyses).2 = [] := by
  induction analyses generalizing table with
  | nil => rfl
  | cons analysis rest ih =>
    have nothing : table.retire analysis = (table, []) := by
      rw [retire, removeFor, h]
      rfl
    rw [retireEach, nothing]
    exact ih h

end Job.Table

section Several

variable {answer : Core.EngineAnswer} {connection : Connection} {datasets : List Dataset}
  {compounds : List Compound} {analyses : List Analysis} {jobs : Job.Table}

/-- Analyses are announced as removed one by one, each after its job was dropped. -/
theorem Strides.withdrawAnalyses {gone : List Analysis} (apart : (keys gone).Nodup)
    (there : ∀ a ∈ gone, a.id ∈ keys analyses) :
    Strides ⟨⟨connection, datasets, compounds, analyses⟩, jobs⟩
      (ofEffects answer (jobs.withdrawAnalyses gone).2)
      ⟨⟨connection, datasets, compounds, analyses.filter fun a => a.id ∉ keys gone⟩,
        (jobs.withdrawAnalyses gone).1⟩ := by
  induction gone generalizing analyses jobs with
  | nil =>
    rw [List.filter_eq_self.2 (by simp [keys])]
    exact .refl _
  | cons a rest ih =>
    obtain ⟨ha, hrest⟩ := List.nodup_cons.1 apart
    have dropped : (Roster.erase a.id analyses).filter (fun b => b.id ∉ keys rest) =
        analyses.filter fun b => b.id ∉ keys (a :: rest) :=
      Roster.filter_erase a.id (keys rest) analyses
    rw [← dropped]
    refine .revise rfl ⟨there a List.mem_cons_self, Job.Table.not_mem_current_retire _ _⟩ ?_
    refine ih hrest ?_
    intro b hb
    have other : b.id ≠ a.id := fun e => ha (List.mem_map.2 ⟨b, hb, e⟩)
    simp [Roster.keys_erase, there b (List.mem_cons_of_mem a hb), other]

/-- A compound analysis is announced as removed after its analyses were. -/
theorem Strides.withdraw {w w' : Workspace} (h : w.Sound) {id : CompoundId}
    {gone : Workspace.Removed} (g : Workspace.CompoundGone w id w' gone) :
    Strides ⟨⟨connection, datasets, w.compounds, w.analyses⟩, jobs⟩
      (ofEffects answer (jobs.withdraw [gone]).2)
      ⟨⟨connection, datasets, w'.compounds, w'.analyses⟩, (jobs.withdraw [gone]).1⟩ := by
  have hid : gone.compound.id = id := Roster.key_of_find?_eq_some g.found
  have children : keys gone.analyses = w.index.analysesOf id :=
    g.removed ▸ Workspace.keys_children h id
  have others : w.analyses.filter (fun a => a.id ∉ keys gone.analyses) = w'.analyses := by
    rw [g.analyses, children]
    refine List.filter_congr fun a ha => decide_eq_decide.2 (not_congr ?_)
    exact Workspace.mem_children_iff_compound h ha
  refine .append (.withdrawAnalyses ?_ ?_) (.tell ⟨?_, ?_⟩ ?_)
  · rw [children]
    exact h.children_nodup id
  · intro a ha
    have child : a.id ∈ w.index.analysesOf id := by
      rw [← children]
      exact Roster.key_mem_keys ha
    exact Workspace.mem_keys_of_mem_children h child
  · rw [hid]
    exact Roster.mem_keys_of_find? g.found
  · intro a ha
    rw [others, g.analyses, List.mem_filter, decide_eq_true_eq] at ha
    rw [hid]
    exact ha.2
  · rw [others, g.compounds, ← hid]
    exact .refl _

theorem Strides.withdrawEach {w : Workspace} (h : w.Sound) (ids : List CompoundId) :
    Strides ⟨⟨connection, datasets, w.compounds, w.analyses⟩, jobs⟩
      (ofEffects answer (jobs.withdraw (w.removeEach ids).2).2)
      ⟨⟨connection, datasets, (w.removeEach ids).1.compounds, (w.removeEach ids).1.analyses⟩,
        (jobs.withdraw (w.removeEach ids).2).1⟩ := by
  induction ids generalizing w jobs with
  | nil => exact .refl _
  | cons id rest ih =>
    cases hc : w.compound? id with
    | none =>
      rw [Workspace.removeEach_of_missing hc]
      exact ih h
    | some c =>
      obtain ⟨next, gone, hok⟩ := Workspace.removeCompound_of_found hc
      have g := Workspace.removeCompound_spec h hok
      rw [Workspace.removeEach_of_found hok, Job.Table.withdraw_cons]
      exact (Strides.withdraw h g).append (ih (g.sound h))

/-- Analyses are announced as changed one by one, each after its job was dropped. -/
theorem Strides.refresh {changed : List Analysis}
    (fits : ∀ a ∈ changed, a.id ∈ keys analyses ∧ a.compound ∈ keys compounds ∧
      a.dataset ∈ keys datasets) :
    Strides ⟨⟨connection, datasets, compounds, analyses⟩, jobs⟩
      (ofEffects answer (jobs.refresh changed).2)
      ⟨⟨connection, datasets, compounds, changed.foldl (fun xs a => Roster.replace a xs) analyses⟩,
        (jobs.refresh changed).1⟩ := by
  induction changed generalizing analyses jobs with
  | nil => exact .refl _
  | cons a rest ih =>
    obtain ⟨there, parent, registered⟩ := fits a List.mem_cons_self
    refine .revise rfl ⟨there, parent, registered, Job.Table.not_mem_current_retire _ _⟩ ?_
    refine ih ?_
    intro b hb
    rw [Roster.keys_replace]
    exact fits b (List.mem_cons_of_mem a hb)

/-- Compound analyses are announced as changed one by one. -/
theorem Strides.reorder {changed : List Compound}
    (fits : ∀ c ∈ changed, c.id ∈ keys compounds ∧ c.dataset ∈ keys datasets) :
    Strides ⟨⟨connection, datasets, compounds, analyses⟩, jobs⟩
      (ofEffects answer (changed.map fun c => .publish (.compoundStored false c)))
      ⟨⟨connection, datasets, changed.foldl (fun xs c => Roster.replace c xs) compounds, analyses⟩,
        jobs⟩ := by
  induction changed generalizing compounds with
  | nil => exact .refl _
  | cons c rest ih =>
    refine .tell (fits c List.mem_cons_self) (ih ?_)
    intro d hd
    rw [Roster.keys_replace]
    exact fits d (List.mem_cons_of_mem c hd)

/-- Where there are no analyses, all datasets may go. -/
theorem Strides.deleteAll (apart : (keys datasets).Nodup) :
    Strides ⟨⟨connection, datasets, [], []⟩, jobs⟩
      (ofEffects answer ((keys datasets).map fun id => .publish (.datasetDeleted id)))
      ⟨⟨connection, [], [], []⟩, jobs⟩ := by
  induction datasets with
  | nil => exact .refl _
  | cons d rest ih =>
    obtain ⟨hd, hrest⟩ := List.nodup_cons.1 apart
    have others : Roster.erase d.id (d :: rest) = rest := by
      rw [Roster.erase, List.filter_cons, if_neg (by simp [Keyed.key])]
      exact Roster.erase_eq_self hd
    refine .tell ⟨List.mem_cons_self, List.forall_mem_nil _, List.forall_mem_nil _⟩ ?_
    show Strides ⟨⟨_, Roster.erase d.id (d :: rest), [], []⟩, _⟩ _ _
    rw [others]
    exact ih hrest

end Several

/-! ## §3 Operations -/

namespace Core

/-- What a core keeps to when no change is under way. -/
structure Sound (core : Core) : Prop where
  workspace : core.workspace.Sound
  standing : core.standing.Sound

/-- A change that is a sequence of strides and leaves the workspace sound. -/
structure Moved (core : Core) (entries : List Entry) (next : Core) : Prop where
  workspace : next.workspace.Sound
  strides : Strides core.standing entries next.standing

variable {core next : Core} {answer : EngineAnswer}

theorem Moved.moves {entries : List Entry} (m : Moved core entries next) :
    Moves core.standing entries next.standing :=
  m.strides.moves

theorem Moved.sound {entries : List Entry} (h : core.Sound) (m : Moved core entries next) :
    next.Sound :=
  ⟨m.workspace, m.moves.sound h.standing⟩

theorem Moved.refl (h : core.Sound) : Moved core [] core := ⟨h.workspace, .refl _⟩

/-- An operation whose change is answered makes the change. -/
theorem moved_answering {α : Type} {x : Except Rejection (Change α)} {reply : α → Reply}
    {change : Change Reply}
    (moved : ∀ made, x = .ok made → Moved core (ofEffects answer made.effects) made.core)
    (hok : (x >>= fun made => pure (answering made reply)) = .ok change) :
    Moved core (ofEffects answer change.effects) change.core := by
  obtain ⟨made, hm, hok⟩ := bind_eq_ok.1 hok
  obtain rfl := Except.ok.inj hok
  exact moved made hm

theorem teardown_fst (h : core.Sound) :
    core.teardown.1 = { core with workspace := {}, datasets := {}, jobs := {} } := by
  show Core.mk _ (core.datasets.removeEach core.datasets.ids).1 core.workspace.clear.1 _ = _
  rw [Workspace.clear_fst h.workspace,
    Dataset.Registry.removeEach_ids core.datasets h.standing.datasets_nodup]

theorem strides_teardown (h : core.Sound) :
    Strides core.standing (ofEffects answer core.teardown.2) core.teardown.1.standing := by
  let jobs := (core.jobs.withdraw core.workspace.clear.2).1
  have withdrawn : Strides core.standing
      (ofEffects answer (core.jobs.withdraw core.workspace.clear.2).2)
      ⟨⟨core.connection, core.datasets.datasets, core.workspace.clear.1.compounds,
        core.workspace.clear.1.analyses⟩, jobs⟩ :=
    Strides.withdrawEach h.workspace (core.workspace.compounds.map (·.id))
  rw [Workspace.clear_fst h.workspace] at withdrawn
  have idle : jobs.current = [] := List.eq_nil_iff_forall_not_mem.2 fun entry he =>
    nomatch (withdrawn.moves.sound h.standing).tracked entry.analysis (Roster.key_mem_keys he)
  have nothing := jobs.retireEach_of_current_eq_nil idle (jobs.records.map (·.analysis))
  rw [teardown_fst h]
  show Strides _ (ofEffects answer (_ ++ (core.datasets.removeEach core.datasets.ids).2 ++
    (jobs.retireEach (jobs.records.map (·.analysis))).2)) _
  rw [nothing, Dataset.Registry.removeEach_ids core.datasets h.standing.datasets_nodup]
  refine (withdrawn.append (.deleteAll h.standing.datasets_nodup)).append ?_
  refine .single (.keep (.forget _ idle) ?_)
  intro a ha
  exact nomatch (idle ▸ ha : a ∈ keys [])

theorem moved_connect (h : core.Sound) (spec : Connection.Spec) :
    Moved core (ofEffects answer (core.connect spec).effects) (core.connect spec).core := by
  by_cases hc : core.connection.isConnected = true
  · have change : core.connect spec = ⟨{ core.teardown.1 with connection := .connected spec },
        core.teardown.2 ++ [.publish (.connected spec)], ()⟩ := by
      rw [connect, if_pos hc]
    rw [change]
    refine ⟨?_, (strides_teardown h).append (.tell ?_ (.refl _))⟩
    · rw [teardown_fst h]
      exact Workspace.sound_empty
    · rw [teardown_fst h]
      exact ⟨rfl, rfl, rfl⟩
  · have change : core.connect spec = ⟨{ core with connection := .connected spec },
        [.publish (.connected spec)], ()⟩ := by
      rw [connect, if_neg hc]
      rfl
    rw [change]
    have bare := h.standing.vacant (eq_false_of_ne_true hc)
    exact ⟨h.workspace, .tell bare (.refl _)⟩

theorem moved_disconnect (h : core.Sound) :
    Moved core (ofEffects answer core.disconnect.effects) core.disconnect.core := by
  have gone : core.disconnect.core = {} := by
    show Core.mk _ core.teardown.1.datasets core.teardown.1.workspace core.teardown.1.jobs = _
    rw [teardown_fst h]
  have strides : Strides core.standing (ofEffects answer core.teardown.2) _ := strides_teardown h
  rw [teardown_fst h] at strides
  rw [gone]
  refine ⟨Workspace.sound_empty, ?_⟩
  show Strides _ (ofEffects answer (if core.connection.isConnected then
    core.teardown.2 ++ [.publish .disconnected] else core.teardown.2)) _
  split
  · exact strides.append (.tell ⟨rfl, rfl, rfl⟩ (.refl _))
  · rename_i hc
    have detached : core.connection = .disconnected := by
      cases hn : core.connection with
      | disconnected => rfl
      | connected spec => exact absurd (congrArg Connection.isConnected hn) hc
    rwa [detached] at strides

/-- What depends on a dataset is removed with it. -/
theorem moved_removeDependents (h : core.Sound) (dataset : DatasetId) :
    Moved core (ofEffects answer (core.removeDependents dataset).2)
      (core.removeDependents dataset).1 where
  workspace := (Workspace.cleared_removeEach h.workspace _).sound
  strides := Strides.withdrawEach h.workspace _

/-- A dataset that is not registered has nothing over it. -/
theorem unused_of_not_mem (h : core.Sound) {dataset : DatasetId}
    (absent : dataset ∉ keys core.datasets.datasets) : core.standing.Unused dataset := by
  have none : ∀ c ∈ core.workspace.compounds, c.dataset ≠ dataset := fun c hc e =>
    absent (e ▸ h.standing.registered c hc)
  refine ⟨none, ?_⟩
  intro a ha e
  obtain ⟨c, hc, hd⟩ := Option.map_eq_some_iff.1 (h.workspace.parent a ha)
  exact none c (Roster.mem_of_find?_eq_some hc) (hd.trans e)

theorem moved_registerDataset (h : core.Sound) {dataset : Dataset} {change : Change Dataset}
    (hok : core.registerDataset dataset = .ok change) :
    Moved core (ofEffects answer change.effects) change.core := by
  obtain ⟨connected, ⟨-, rfl⟩ | ⟨new, rfl⟩⟩ := registerDataset_accepted hok
  · have m : Moved core (ofEffects answer _) _ := moved_removeDependents h dataset.id
    refine ⟨m.workspace, m.strides.append (.tell ?_ (.refl _))⟩
    exact ⟨connected, rfl, Workspace.not_over_removeOver h.workspace dataset.id⟩
  · have absent : dataset.id ∉ keys core.datasets.datasets :=
      mt Roster.contains_iff.2 (ne_true_of_eq_false new)
    exact ⟨h.workspace, .tell ⟨connected, rfl, unused_of_not_mem h absent⟩ (.refl _)⟩

theorem moved_removeDataset (h : core.Sound) {id : DatasetId} {change : Change Dataset}
    (hok : core.removeDataset id = .ok change) :
    Moved core (ofEffects answer change.effects) change.core := by
  obtain ⟨dataset, found, rfl⟩ := removeDataset_accepted hok
  have m : Moved core (ofEffects answer _) _ := moved_removeDependents h id
  refine ⟨m.workspace, m.strides.append (.tell ?_ (.refl _))⟩
  exact ⟨Roster.mem_keys_of_find? found, Workspace.not_over_removeOver h.workspace id⟩

theorem moved_putCompound (h : core.Sound) {id : CompoundId} {dataset : DatasetId}
    {details : Compound.Details} {change : Change (Stored Compound)}
    (hok : core.putCompound id dataset details = .ok change) :
    Moved core (ofEffects answer change.effects) change.core := by
  obtain ⟨workspace, stored, put, connected, rfl⟩ := putCompound_accepted hok
  have p := Workspace.putCompound_spec h.workspace put
  have registered : dataset ∈ keys core.datasets.datasets := Roster.contains_iff.1 p.registered
  have hid : stored.compound.id = id := by rw [p.compound]
  have created : stored.created =
      (Roster.find? stored.compound.id core.workspace.compounds).isNone := hid ▸ p.created
  refine ⟨p.sound h.workspace, .tell (Standing.fits_compoundStored connected created ?_) ?_⟩
  · exact (congrArg Compound.dataset p.compound) ▸ registered
  · show Strides ⟨core.standing.replica.hear _, _⟩ _
      ⟨⟨core.connection, core.datasets.datasets, workspace.compounds, workspace.analyses⟩, _⟩
    rw [Replica.hear_compoundStored created, ← p.reported h.workspace, p.compounds]
    refine .refresh ?_
    intro a ha
    obtain ⟨there, parent, hd⟩ := p.mem_retargeted h.workspace ha
    refine ⟨there, ?_, hd ▸ registered⟩
    rw [parent, ← hid]
    exact Roster.key_mem_keys_set stored.compound _

theorem moved_removeCompound (h : core.Sound) {id : CompoundId} {change : Change Compound}
    (hok : core.removeCompound id = .ok change) :
    Moved core (ofEffects answer change.effects) change.core := by
  obtain ⟨workspace, removed, gone, rfl⟩ := removeCompound_accepted hok
  have g := Workspace.removeCompound_spec h.workspace gone
  exact ⟨g.sound h.workspace, .withdraw h.workspace g⟩

/-- The compound analysis that is over a dataset is listed, and so is the dataset. -/
theorem listed_of_datasetOf (h : core.Sound) {c : CompoundId} {dataset : DatasetId}
    (hd : core.workspace.datasetOf c = some dataset) :
    c ∈ keys core.workspace.compounds ∧ dataset ∈ keys core.datasets.datasets := by
  obtain ⟨x, hx, rfl⟩ := Option.map_eq_some_iff.1 hd
  exact ⟨Roster.mem_keys_of_find? hx, h.standing.registered x (Roster.mem_of_find?_eq_some hx)⟩

theorem moved_putAnalysis (h : core.Sound) {id : AnalysisId} {compound : CompoundId}
    {details : Analysis.Details} {change : Change (Stored Analysis)}
    (hok : core.putAnalysis id compound details = .ok change) :
    Moved core (ofEffects answer change.effects) change.core := by
  obtain ⟨workspace, stored, put, connected, outcome⟩ := putAnalysis_accepted hok
  have p := Workspace.putAnalysis_spec h.workspace put
  have created : stored.created =
      (Roster.find? stored.analysis.id core.workspace.analyses).isNone := p.id_eq ▸ p.created
  obtain ⟨parent, registered⟩ := listed_of_datasetOf h p.dataset_eq
  have fits : ∀ jobs : Job.Table,
      (stored.created = false → stored.analysis.id ∉ keys jobs.current) →
      Standing.Fits ⟨core.standing.replica, jobs⟩
        (.analysisStored stored.created stored.analysis) := by
    intro jobs idle
    refine Standing.fits_analysisStored connected created ?_ registered idle
    exact p.compound_eq ▸ parent
  have announced : ∀ jobs : Job.Table,
      Strides ⟨core.standing.replica.hear (.analysisStored stored.created stored.analysis), jobs⟩
        (ofEffects answer
          (stored.reordered.map fun parent => .publish (.compoundStored false parent)))
        ⟨⟨core.connection, core.datasets.datasets, workspace.compounds, workspace.analyses⟩,
          jobs⟩ := by
    intro jobs
    rw [Replica.hear_analysisStored created, ← p.reported, p.analyses]
    exact .reorder fun c hc => listed_of_datasetOf h (p.same_dataset c hc)
  rcases outcome with ⟨new, rfl⟩ | ⟨old, rfl⟩
  · rw [new] at fits announced ⊢
    exact ⟨p.sound h.workspace, .tell (fits core.jobs nofun) (announced core.jobs)⟩
  · rw [old] at fits announced ⊢
    have idle : stored.analysis.id ∉ keys (core.jobs.retire id).1.current :=
      p.id_eq ▸ Job.Table.not_mem_current_retire _ _
    refine ⟨p.sound h.workspace, .revise ?_ (fits _ fun _ => idle) (announced _)⟩
    exact congrArg some p.id_eq

theorem moved_removeAnalysis (h : core.Sound) {id : AnalysisId} {change : Change Analysis}
    (hok : core.removeAnalysis id = .ok change) :
    Moved core (ofEffects answer change.effects) change.core := by
  obtain ⟨workspace, analysis, parent, gone, rfl⟩ := removeAnalysis_accepted hok
  have g := Workspace.removeAnalysis_spec h.workspace gone
  refine ⟨g.sound h.workspace, .revise rfl ⟨?_, Job.Table.not_mem_current_retire _ _⟩ ?_⟩
  · exact Roster.mem_keys_of_find? g.found
  · show Strides _ _
      ⟨⟨core.connection, core.datasets.datasets, workspace.compounds, workspace.analyses⟩, _⟩
    rw [← g.reported, g.analyses]
    exact .reorder fun c hc => listed_of_datasetOf h (g.same_dataset c hc)

theorem moved_runAnalysis (h : core.Sound) {fresh : JobId} {id : AnalysisId}
    {change : Change Job.Handle} (hok : core.runAnalysis fresh answer id = .ok change) :
    Moved core (ofEffects answer change.effects) change.core := by
  obtain ⟨analysis, dataset, found, registered, outcome⟩ := runAnalysis_accepted hok
  let request : Job.Request := ⟨fresh, id, dataset, analysis.details⟩
  have feeds : core.standing.Feeds request := ⟨analysis, found, rfl, registered⟩
  have stride := Stride.restart core.standing request (answer request) feeds
  rcases outcome with ⟨accepted, rfl⟩ | ⟨problem, refused, rfl⟩
  · refine ⟨h.workspace, ?_⟩
    show Strides _ (ofEffects answer ((core.jobs.retire id).2 ++ [.start request])) _
    rw [Entry.ofEffects_append, Entry.ofEffects_retire]
    show Strides _ (_ ++ [.start request (answer request)]) _
    rw [show answer request = none from accepted] at stride ⊢
    exact .single stride
  · refine ⟨h.workspace, ?_⟩
    show Strides _ (ofEffects answer ((core.jobs.retire id).2 ++ [.start request, .publish _])) _
    rw [Entry.ofEffects_append, Entry.ofEffects_retire]
    show Strides _ (_ ++ [.start request (answer request), .publish _]) _
    rw [show answer request = some problem from refused] at stride ⊢
    exact .single stride

theorem moved_cancelJob (h : core.Sound) {id : JobId} {change : Change Job.Handle}
    (hok : core.cancelJob id = .ok change) :
    Moved core (ofEffects answer change.effects) change.core := by
  obtain ⟨record, found, ⟨-, rfl⟩ | ⟨going, rfl⟩⟩ := cancelJob_accepted hok
  · exact .refl h
  · obtain rfl : record.id = id := Roster.key_of_find?_eq_some found
    exact ⟨h.workspace, .single (.cancel core.standing found going)⟩

theorem moved_applyReport (h : core.Sound) (report : Job.Report) :
    Moved core (.report report :: ofEffects answer (core.applyReport report).effects)
      (core.applyReport report).core := by
  have stride := Stride.report core.standing report
  unfold applyReport
  cases ha : core.jobs.apply report with
  | mk jobs found =>
    rw [show core.standing.jobs.apply report = _ from ha] at stride
    cases found with
    | none =>
      obtain rfl := Job.Table.eq_of_setStatus_none _ ha
      exact ⟨h.workspace, .single stride⟩
    | some record => exact ⟨h.workspace, .single stride⟩

/-! ## §4 Runs -/

theorem Moved.trans {middle : Core} {entries more : List Entry} (before : Moved core entries middle)
    (after : Moved middle more next) : Moved core (entries ++ more) next :=
  ⟨after.workspace, before.strides.trans after.strides⟩

/-- A command that is accepted does what its operation does. -/
theorem moved_perform (h : core.Sound) {context : Context} {command : Command}
    {change : Change Reply} (hok : core.perform context command = .ok change) :
    Moved core (ofEffects context.answer change.effects) change.core := by
  cases command with
  | getConfig | getConnection | listDatasets =>
    obtain rfl : _ = change := Except.ok.inj hok
    exact .refl h
  | getDataset id =>
    unfold perform at hok
    cases hg : core.datasets.get? id with
    | none => simp only [hg] at hok; exact nomatch hok
    | some dataset =>
      simp only [hg] at hok
      obtain rfl : _ = change := Except.ok.inj hok
      exact .refl h
  | connect spec =>
    obtain ⟨_, -, hok⟩ := bind_eq_ok.1 hok
    obtain rfl : _ = change := Except.ok.inj hok
    exact moved_connect h spec
  | disconnect =>
    obtain rfl : _ = change := Except.ok.inj hok
    exact moved_disconnect h
  | registerDataset id params =>
    obtain ⟨_, -, hok⟩ := bind_eq_ok.1 hok
    obtain ⟨dataset, -, hok⟩ := bind_eq_ok.1 hok
    exact moved_answering (fun _ => moved_registerDataset h) hok
  | removeDataset id => exact moved_answering (fun _ => moved_removeDataset h) hok
  | putCompound id dataset details => exact moved_answering (fun _ => moved_putCompound h) hok
  | removeCompound id => exact moved_answering (fun _ => moved_removeCompound h) hok
  | putAnalysis id compound details => exact moved_answering (fun _ => moved_putAnalysis h) hok
  | removeAnalysis id => exact moved_answering (fun _ => moved_removeAnalysis h) hok
  | runAnalysis id => exact moved_answering (fun _ => moved_runAnalysis h) hok
  | cancelJob id => exact moved_answering (fun _ => moved_cancelJob h) hok

/-- Looking at an address changes nothing, whether or not the command is accepted. -/
theorem moved_knocks (h : core.Sound) (command : Command) :
    Moved core (ofEffects answer (knocks command)) core := by
  unfold knocks
  split
  · split
    · exact ⟨h.workspace, .single (.keep (.probe _ _) fun _ => id)⟩
    · exact .refl h
  · exact .refl h

theorem moved_dispatch (h : core.Sound) (context : Context) (command : Command) :
    Moved core (ofEffects context.answer (core.dispatch context command).effects)
      (core.dispatch context command).core := by
  unfold dispatch
  cases hp : core.perform context command with
  | error rejection => exact moved_knocks h command
  | ok change =>
    simp only [Entry.ofEffects_append]
    exact (moved_knocks h command).trans (moved_perform h hp)

/-- All that can happen to a core is a sequence of strides. -/
theorem moved_occur (h : core.Sound) (occurrence : Occurrence) :
    Moved core (core.occur occurrence).2 (core.occur occurrence).1 := by
  cases occurrence with
  | command context command => exact moved_dispatch h context command
  | connect spec => exact moved_connect h spec
  | register dataset =>
    cases hr : core.registerDataset dataset with
    | ok change =>
      simp only [occur, hr]
      exact moved_registerDataset h hr
    | error rejection =>
      simp only [occur, hr]
      exact .refl h
  | report report => exact moved_applyReport h report

theorem moved_run (h : core.Sound) (occurrences : List Occurrence) :
    Moved core (core.run occurrences).2 (core.run occurrences).1 := by
  induction occurrences generalizing core with
  | nil => exact .refl h
  | cons occurrence rest ih =>
    have first := moved_occur h occurrence
    exact first.trans (ih (first.sound h))

theorem sound_empty : ({} : Core).Sound where
  workspace := Workspace.sound_empty
  standing := ⟨List.nodup_nil, nofun, fun _ => ⟨rfl, rfl, rfl⟩, nofun⟩

/-- What a core keeps to holds after every run. -/
theorem sound_run (occurrences : List Occurrence) : (run {} occurrences).1.Sound :=
  (moved_run sound_empty occurrences).sound sound_empty

end Core

end Coordination
