/-
Coordination.Proofs.Retractions — commands that take something back.

Two clients may at the same time remove entities and cancel jobs, and what
one of them removes may take along what the other one names. Whose command
comes first decides what each is answered, for the second may find nothing
there any more. It decides nothing else.

A retraction costs a core what it names and what depends on that
(`Retraction.loss`), and a core that has lost something already loses the
rest of it. So a sequence of retractions is one loss, and the loss does not
depend on the order.

  §1 Retractions  — `Retraction`, `Retraction.loss`.
  §2 Losses       — what several retractions cost.
  §3 Cores        — `Core.Settled`, and that a retraction is its loss.
  §4 Runs         — `Core.retractions_commute`.
-/
import Coordination.Proofs.Losses
import Coordination.Proofs.RejectionCodes
import Coordination.Proofs.Retries

namespace Coordination

open Analysis (Workspace)
open Roster (keys)

/-! ## §1 Retractions -/

/-- What a client takes back: an entity or a job, by its identifier. -/
inductive Retraction where
  | dataset (id : DatasetId)
  | compound (id : CompoundId)
  | analysis (id : AnalysisId)
  | job (id : JobId)
  deriving DecidableEq, Repr

/-- The analyses over a dataset, in the order of their creation. -/
def Analysis.Workspace.analysesOver (w : Workspace) (dataset : DatasetId) : List AnalysisId :=
  (w.analyses.filter fun a => a.dataset = dataset).map (·.id)

namespace Retraction

def command : Retraction → Command
  | dataset id => .removeDataset id
  | compound id => .removeCompound id
  | analysis id => .removeAnalysis id
  | job id => .cancelJob id

/-- What is named, and what goes with it. -/
def loss (w : Workspace) : Retraction → Loss
  | dataset id => ⟨[id], w.compoundsOver id, w.analysesOver id, []⟩
  | compound id => ⟨[], [id], w.analysesUnder id, []⟩
  | analysis id => ⟨[], [], [id], []⟩
  | job id => ⟨[], [], [], [id]⟩

/-- Whether what is named is there. -/
def listed (core : Core) : Retraction → Bool
  | dataset id => core.datasets.contains id
  | compound id => Roster.contains id core.workspace.compounds
  | analysis id => Roster.contains id core.workspace.analyses
  | job id => Roster.contains id core.jobs.records

/-- All that may speak against a retraction is that there is no connection, or nothing to take
back. -/
theorem objections_command (core : Core) (facts : Facts) (r : Retraction) :
    core.objections facts r.command =
      [(!core.connection.isConnected, .notConnected), (!r.listed core, .notFound)] := by
  cases r <;> rfl

/-- The command for a retraction comes in. -/
def occurrence (request : Context × Retraction) : Occurrence :=
  .command request.1 request.2.command

end Retraction

/-! ## §2 Losses -/

namespace Analysis.Workspace

variable {w : Workspace} {compounds : List CompoundId} {analyses : List AnalysisId}

/-- What several retractions cost. -/
def loss (w : Workspace) (retractions : List Retraction) : Loss where
  datasets := retractions.flatMap fun r => (r.loss w).datasets
  compounds := retractions.flatMap fun r => (r.loss w).compounds
  analyses := retractions.flatMap fun r => (r.loss w).analyses
  jobs := retractions.flatMap fun r => (r.loss w).jobs

/-- In which order things are taken back does not matter for the cost. -/
theorem same_loss_of_perm (w : Workspace) {retractions others : List Retraction}
    (perm : retractions.Perm others) : (w.loss retractions).Same (w.loss others) where
  datasets _ := (perm.flatMap_right _).mem_iff
  compounds _ := (perm.flatMap_right _).mem_iff
  analyses _ := (perm.flatMap_right _).mem_iff
  jobs _ := (perm.flatMap_right _).mem_iff

/-- A scan of what is left finds what it found before, less what is lost. -/
theorem scan_filter {α κ : Type} [DecidableEq κ] (xs : List α) (id : α → κ) (gone : List κ)
    (p : α → Bool) : ((xs.filter fun x => spared gone (id x)).filter p).map id =
      ((xs.filter p).map id).filter (spared gone) := by
  rw [List.filter_map, List.filter_filter, List.filter_filter]
  exact congrArg (List.map id) (List.filter_congr fun x _ => Bool.and_comm _ _)

theorem compoundsOver_without (d : DatasetId) :
    (w.without compounds analyses).compoundsOver d =
      (w.compoundsOver d).filter (spared compounds) := by
  rw [compoundsOver, without, List.filter_map, List.map_map]
  exact scan_filter w.compounds (·.id) compounds fun c => c.dataset = d

theorem analysesUnder_without (c : CompoundId) :
    (w.without compounds analyses).analysesUnder c =
      (w.analysesUnder c).filter (spared analyses) :=
  scan_filter w.analyses (·.id) analyses fun a => a.compound = c

theorem analysesOver_without (d : DatasetId) :
    (w.without compounds analyses).analysesOver d =
      (w.analysesOver d).filter (spared analyses) :=
  scan_filter w.analyses (·.id) analyses fun a => a.dataset = d

/-- After a loss a retraction costs what it would have cost before, less what is lost already. -/
theorem same_loss_without (w : Workspace) (l : Loss) (r : Retraction) :
    (l ++ r.loss (w.without l.compounds l.analyses)).Same (l ++ r.loss w) := by
  cases r with
  | dataset id =>
    refine ⟨fun _ => .rfl, fun c => ?_, fun a => ?_, fun _ => .rfl⟩
    · simp [Retraction.loss, compoundsOver_without, or_and_left, Classical.em]
    · simp [Retraction.loss, analysesOver_without, or_and_left, Classical.em]
  | compound id =>
    refine ⟨fun _ => .rfl, fun _ => .rfl, fun a => ?_, fun _ => .rfl⟩
    simp [Retraction.loss, analysesUnder_without, or_and_left, Classical.em]
  | analysis id => exact ⟨fun _ => .rfl, fun _ => .rfl, fun _ => .rfl, fun _ => .rfl⟩
  | job id => exact ⟨fun _ => .rfl, fun _ => .rfl, fun _ => .rfl, fun _ => .rfl⟩

/-- The same of several retractions. -/
theorem same_losses_without (w : Workspace) (l : Loss) (retractions : List Retraction) :
    (l ++ (w.without l.compounds l.analyses).loss retractions).Same (l ++ w.loss retractions) := by
  have each : ∀ {α : Type} {gone : List α} {x : α} {f g : Retraction → List α},
      (∀ r, x ∈ gone ++ f r ↔ x ∈ gone ++ g r) →
        (x ∈ gone ++ retractions.flatMap f ↔ x ∈ gone ++ retractions.flatMap g) := by
    intro α gone x f g same
    by_cases first : x ∈ gone
    · simp [first]
    · simp only [List.mem_append, first, false_or, List.mem_flatMap] at same ⊢
      simp only [same]
  exact {
    datasets := fun d => each fun r => (same_loss_without w l r).datasets d
    compounds := fun c => each fun r => (same_loss_without w l r).compounds c
    analyses := fun a => each fun r => (same_loss_without w l r).analyses a
    jobs := fun j => each fun r => (same_loss_without w l r).jobs j }

theorem mem_analysesOver (h : w.Sound) {a : AnalysisId} {d : DatasetId} :
    a ∈ w.analysesOver d ↔ ∃ c, w.datasetOf c = some d ∧ w.parentOf a = some c := by
  simp only [analysesOver, List.mem_map, List.mem_filter, decide_eq_true_eq]
  constructor
  · rintro ⟨x, ⟨listed, rfl⟩, rfl⟩
    exact ⟨x.compound, h.parent x listed, parentOf_of_mem h listed⟩
  · rintro ⟨c, upper, parent⟩
    obtain ⟨x, listed, rfl, rfl⟩ := (parentOf_eq_some_iff h.analyses_nodup).1 parent
    exact ⟨x, ⟨listed, Option.some.inj ((h.parent x listed).symm.trans upper)⟩, rfl⟩

end Analysis.Workspace

/-! ## §3 Cores -/

namespace Job.Table

variable {table : Table}

theorem apart_empty : ({} : Table).Apart := ⟨List.nodup_nil, List.nodup_nil⟩

theorem Apart.setStatus (h : table.Apart) (job : JobId) (status : Status) :
    (table.setStatus job status).1.Apart := by
  refine ⟨?_, ?_⟩
  · rw [current_setStatus]
    exact h.analyses
  · rw [keys_setStatus]
    exact h.jobs

theorem Apart.insert (h : table.Apart) {handle : Handle}
    (idle : handle.analysis ∉ keys table.current) : (table.insert handle).1.Apart := by
  rw [Table.insert, removeFor_of_idle idle]
  exact ⟨Roster.nodup_keys_concat h.analyses idle, Roster.nodup_keys_renew h.jobs _⟩

end Job.Table

theorem Move.apart {s t : Standing} {entries : List Entry} (move : Move s entries t)
    (h : s.jobs.Apart) : t.jobs.Apart := by
  cases move with
  | probe => exact h
  | tell => exact h
  | retire analysis => exact (h.loses_retire analysis).left ▸ h.without _ _
  | start request refusal feeds idle =>
    have inserted : (s.jobs.insert request.handle).1.Apart := h.insert idle
    cases refusal with
    | none => exact inserted
    | some problem => exact inserted.setStatus _ _
  | cancel => exact h.setStatus _ _
  | report report => exact h.setStatus _ _
  | forget => exact Job.Table.apart_empty

namespace Core

/-- What every core keeps to that a run leads to, also if several jobs have one identifier. -/
structure Settled (core : Core) : Prop where
  sound : core.Sound
  tidy : core.workspace.Tidy
  apart : core.jobs.Apart
  anchored : core.jobs.Anchored

variable {core : Core}

theorem settled_empty : ({} : Core).Settled :=
  ⟨sound_empty, Analysis.Index.tidy_empty, Job.Table.apart_empty, Job.Table.anchored_empty⟩

theorem Settled.run (h : core.Settled) (occurrences : List Occurrence) :
    (core.run occurrences).1.Settled := by
  have moved := moved_run h.sound occurrences
  refine ⟨moved.sound h.sound, tidy_run h.tidy occurrences, ?_, ?_⟩
  · exact Moves.invariant (P := fun s _ => s.jobs.Apart) (fun h move => move.apart h) [] h.apart
      moved.moves
  · exact Moves.invariant (P := fun s _ => s.jobs.Anchored) (fun h move => move.anchored h) []
      h.anchored moved.moves

/-- A retraction is rejected only if there is nothing to take back. -/
theorem Settled.missing_of_rejected (h : core.Settled) {context : Context} {r : Retraction}
    {rejection : Rejection} (rejected : core.perform context r.command = .error rejection) :
    r.listed core = false := by
  have objections := h.sound.rejectedBy_perform context r.command
  rw [rejected, r.objections_command] at objections
  cases connected : core.connection.isConnected with
  | true =>
    cases there : r.listed core with
    | false => rfl
    | true =>
      rw [connected, there] at objections
      exact nomatch objections
  | false =>
    obtain ⟨datasets, compounds, analyses⟩ := h.sound.standing.vacant connected
    cases r with
    | dataset id => exact congrArg (Roster.contains id) datasets
    | compound id => exact congrArg (Roster.contains id) compounds
    | analysis id => exact congrArg (Roster.contains id) analyses
    | job id =>
      exact congrArg (Roster.contains id) (records_eq_nil h.sound h.anchored connected)

/-- A change of a core is a loss, and the engine is told to stop the jobs that this stops. -/
structure Loses (core : Core) (loss : Loss) (next : Core) (effects : List Effect) : Prop where
  left : next = core.without loss
  canceled : ∀ job, .cancel job ∈ effects ↔ core.Stops loss job

theorem Loses.congr {l m : Loss} {next : Core} {effects : List Effect}
    (h : core.Loses l next effects) (same : l.Same m) : core.Loses m next effects :=
  ⟨h.left.trans (without_congr same), fun job => (h.canceled job).trans (stops_congr same)⟩

/-- What is not there costs nothing. -/
theorem Settled.loses_missing (h : core.Settled) {r : Retraction}
    (missing : r.listed core = false) : core.Loses (r.loss core.workspace) core [] := by
  have none : ∀ {loss : Loss}, (core.without loss = core ∧ ∀ job, ¬ core.Stops loss job) →
      core.Loses loss core [] := fun lost =>
    ⟨lost.1.symm, fun job => iff_of_false List.not_mem_nil (lost.2 job)⟩
  refine none ?_
  cases r with
  | dataset id =>
    have absent := mt Roster.contains_iff.2 (ne_true_of_eq_false missing)
    obtain ⟨apart, apart'⟩ := unused_of_not_mem h.sound absent
    have compounds : core.workspace.compoundsOver id = [] :=
      congrArg _ (List.filter_eq_nil_iff.2 fun c listed => by simpa using apart c listed)
    have analyses : core.workspace.analysesOver id = [] :=
      congrArg _ (List.filter_eq_nil_iff.2 fun a listed => by simpa using apart' a listed)
    rw [Retraction.loss, compounds, analyses]
    exact without_of_missing h.sound h.tidy (List.forall_mem_singleton.2 absent)
      (List.forall_mem_nil _) (List.forall_mem_nil _) (List.forall_mem_nil _)
  | compound id =>
    have absent := mt Roster.contains_iff.2 (ne_true_of_eq_false missing)
    have analyses : core.workspace.analysesUnder id = [] := by
      refine congrArg _ (List.filter_eq_nil_iff.2 fun a listed belongs => absent ?_)
      exact of_decide_eq_true belongs ▸ Workspace.compound_mem_keys h.sound.workspace listed
    rw [Retraction.loss, analyses]
    exact without_of_missing h.sound h.tidy (List.forall_mem_nil _)
      (List.forall_mem_singleton.2 absent) (List.forall_mem_nil _) (List.forall_mem_nil _)
  | analysis id =>
    have absent := mt Roster.contains_iff.2 (ne_true_of_eq_false missing)
    exact without_of_missing h.sound h.tidy (List.forall_mem_nil _) (List.forall_mem_nil _)
      (List.forall_mem_singleton.2 absent) (List.forall_mem_nil _)
  | job id =>
    have absent := mt Roster.contains_iff.2 (ne_true_of_eq_false missing)
    exact without_of_missing h.sound h.tidy (List.forall_mem_nil _) (List.forall_mem_nil _)
      (List.forall_mem_nil _) (List.forall_mem_singleton.2 absent)

/-- A store of datasets of which none goes is as it was. -/
theorem filter_datasets (core : Core) :
    (⟨core.datasets.datasets.filter fun d => spared [] d.id⟩ : Dataset.Registry) =
      core.datasets :=
  congrArg Dataset.Registry.mk (List.filter_eq_self.2 (by simp))

theorem Settled.loses_removeDataset (h : core.Settled) {id : DatasetId} {change : Change Dataset}
    (hok : core.removeDataset id = .ok change) :
    core.Loses (Retraction.loss core.workspace (.dataset id)) change.core change.effects := by
  obtain ⟨dataset, -, rfl⟩ := removeDataset_accepted hok
  let ids := core.workspace.index.compoundsOf id
  let gone := (core.workspace.removeEach ids).2
  let lost := gone.flatMap fun removed => keys removed.analyses
  have workspace := Workspace.removeEach_left h.sound.workspace h.tidy ids
  have jobs := h.apart.loses_withdraw gone
  refine Loses.congr (l := ⟨[id], ids, lost, []⟩)
    ⟨(Core.mk.injEq ..).mpr ⟨rfl, ?_, workspace, jobs.left⟩, fun job => ?_⟩ ?_
  · exact congrArg Dataset.Registry.mk (List.filter_congr fun d _ => by simp [Keyed.key])
  · refine Iff.trans ?_ (jobs.canceled job)
    simp [removeDependents, Workspace.removeOver, gone, ids]
  · refine ⟨fun _ => .rfl, fun c => ?_, fun a => ?_, fun _ => .rfl⟩
    · exact (Workspace.perm_compoundsOver h.sound.workspace id).mem_iff
    · rw [Workspace.mem_removed_iff h.sound.workspace, Retraction.loss,
        Workspace.mem_analysesOver h.sound.workspace]
      simp only [ids, h.sound.workspace.mem_over]

theorem Settled.loses_removeCompound (h : core.Settled) {id : CompoundId}
    {change : Change Compound} (hok : core.removeCompound id = .ok change) :
    core.Loses (Retraction.loss core.workspace (.compound id)) change.core change.effects := by
  obtain ⟨next, gone, removed, rfl⟩ := removeCompound_accepted hok
  have workspace := Workspace.removeCompound_left h.sound.workspace h.tidy removed
  have g := Workspace.removeCompound_spec h.sound.workspace removed
  have children : keys gone.analyses = core.workspace.index.analysesOf id :=
    g.removed ▸ Workspace.keys_children h.sound.workspace id
  have jobs : core.jobs.Loses (keys gone.analyses) [] (core.jobs.withdraw [gone]) := by
    simpa using h.apart.loses_withdraw [gone]
  refine Loses.congr (l := ⟨[], [id], keys gone.analyses, []⟩)
    ⟨(Core.mk.injEq ..).mpr ⟨rfl, core.filter_datasets.symm, workspace, jobs.left⟩,
      jobs.canceled⟩ ?_
  refine ⟨fun _ => .rfl, fun _ => .rfl, fun a => ?_, fun _ => .rfl⟩
  rw [children]
  exact (Workspace.perm_analysesUnder h.sound.workspace id).mem_iff

theorem Settled.loses_removeAnalysis (h : core.Settled) {id : AnalysisId}
    {change : Change Analysis} (hok : core.removeAnalysis id = .ok change) :
    core.Loses (Retraction.loss core.workspace (.analysis id)) change.core change.effects := by
  obtain ⟨next, analysis, parent, removed, rfl⟩ := removeAnalysis_accepted hok
  have workspace := Workspace.removeAnalysis_left h.sound.workspace h.tidy removed
  have jobs := h.apart.loses_retire id
  refine ⟨(Core.mk.injEq ..).mpr ⟨rfl, core.filter_datasets.symm, workspace, jobs.left⟩,
    fun job => Iff.trans ?_ (jobs.canceled job)⟩
  simp

theorem Settled.loses_cancelJob (h : core.Settled) {id : JobId} {change : Change Job.Handle}
    (hok : core.cancelJob id = .ok change) :
    core.Loses (Retraction.loss core.workspace (.job id)) change.core change.effects := by
  obtain ⟨record, found, outcome⟩ := cancelJob_accepted hok
  obtain rfl : record.id = id := Roster.key_of_find?_eq_some found
  have workspace : core.workspace = core.workspace.without [] [] :=
    (Workspace.without_of_missing h.sound.workspace h.tidy (List.forall_mem_nil _)
      (List.forall_mem_nil _)).symm
  rcases outcome with ⟨final, rfl⟩ | ⟨live, rfl⟩
  · have jobs := h.apart.loses_ended found final
    exact ⟨(Core.mk.injEq ..).mpr ⟨rfl, core.filter_datasets.symm, workspace, jobs.left⟩,
      jobs.canceled⟩
  · have jobs := h.apart.loses_cancel found live (.jobCanceled record.handle)
    exact ⟨(Core.mk.injEq ..).mpr ⟨rfl, core.filter_datasets.symm, workspace, jobs.left⟩,
      jobs.canceled⟩

/-- A retraction that is accepted is its loss. -/
theorem Settled.loses_perform (h : core.Settled) {context : Context} {r : Retraction}
    {change : Change Reply} (accepted : core.perform context r.command = .ok change) :
    core.Loses (r.loss core.workspace) change.core change.effects := by
  cases r with
  | dataset id =>
    obtain ⟨_, made, rfl⟩ := answering_accepted accepted
    exact h.loses_removeDataset made
  | compound id =>
    obtain ⟨_, made, rfl⟩ := answering_accepted accepted
    exact h.loses_removeCompound made
  | analysis id =>
    obtain ⟨_, made, rfl⟩ := answering_accepted accepted
    exact h.loses_removeAnalysis made
  | job id =>
    obtain ⟨_, made, rfl⟩ := answering_accepted accepted
    exact h.loses_cancelJob made

/-- A retraction is its loss, whether it is accepted or rejected. -/
theorem Settled.loses_dispatch (h : core.Settled) (context : Context) (r : Retraction) :
    let outcome := core.dispatch context r.command
    core.Loses (r.loss core.workspace) outcome.core outcome.effects := by
  have silent : knocks r.command = [] := by cases r <;> rfl
  unfold dispatch
  cases performed : core.perform context r.command with
  | ok change => simpa only [silent, List.nil_append] using h.loses_perform performed
  | error rejection => simpa only [silent] using h.loses_missing (h.missing_of_rejected performed)

/-! ## §4 Runs -/

/-- Several retractions leave a core without what they cost, and the engine is told to stop the jobs
that this stops. -/
theorem Settled.run_retractions (h : core.Settled) (requests : List (Context × Retraction)) :
    let outcome := core.run (requests.map Retraction.occurrence)
    let loss := core.workspace.loss (requests.map Prod.snd)
    outcome.1 = core.without loss ∧ ∀ job, .cancel job ∈ outcome.2 ↔ core.Stops loss job := by
  induction requests generalizing core with
  | nil =>
    obtain ⟨same, silent⟩ : core.without (core.workspace.loss []) = core ∧ _ :=
      without_of_missing h.sound h.tidy (List.forall_mem_nil _) (List.forall_mem_nil _)
        (List.forall_mem_nil _) (List.forall_mem_nil _)
    exact ⟨same.symm, fun job => iff_of_false List.not_mem_nil (silent job)⟩
  | cons request rest ih =>
    have first := h.loses_dispatch request.1 request.2
    have settled : (core.dispatch request.1 request.2.command).core.Settled := by
      have next := h.run [Retraction.occurrence request]
      rwa [run_single] at next
    obtain ⟨last, more⟩ := ih settled
    have same := core.workspace.same_losses_without (request.2.loss core.workspace)
      (rest.map Prod.snd)
    constructor
    · show ((core.dispatch request.1 request.2.command).core.run _).1 = _
      rw [last, first.left, without_without]
      exact without_congr same
    · intro job
      show .cancel job ∈ Entry.ofEffects request.1.answer _ ++ _ ↔ _
      rw [List.mem_append, cancel_mem_ofEffects, first.canceled, more, first.left, ← stops_append]
      exact stops_congr same

/-- In which order things are taken back does not matter for what is left. -/
theorem Settled.run_perm (h : core.Settled) {requests permuted : List (Context × Retraction)}
    (perm : (requests.map Prod.snd).Perm (permuted.map Prod.snd)) :
    let outcome := core.run (requests.map Retraction.occurrence)
    let other := core.run (permuted.map Retraction.occurrence)
    outcome.1 = other.1 ∧ ∀ job, .cancel job ∈ outcome.2 ↔ .cancel job ∈ other.2 := by
  obtain ⟨left, stopped⟩ := h.run_retractions requests
  obtain ⟨left', stopped'⟩ := h.run_retractions permuted
  have same := core.workspace.same_loss_of_perm perm
  exact ⟨left.trans ((without_congr same).trans left'.symm),
    fun job => (stopped job).trans ((stops_congr same).trans (stopped' job).symm)⟩

/-- Whatever a run led to, what is taken back after it can be taken back in any order: the core that
is left is the same, and so are the jobs that the engine is told to stop. It holds of two commands,
of which the second may find nothing there any more, and so of any number of them. -/
theorem retractions_commute (occurrences : List Occurrence) :
    let core := (run {} occurrences).1
    (∀ (one other : Retraction) (a b c d : Context),
      let first := core.dispatch a one.command
      let second := first.core.dispatch b other.command
      let early := core.dispatch c other.command
      let late := early.core.dispatch d one.command
      second.core = late.core ∧ second.core.snapshot = late.core.snapshot ∧
        ∀ job, .cancel job ∈ first.effects ++ second.effects ↔
          .cancel job ∈ early.effects ++ late.effects) ∧
    ∀ requests permuted : List (Context × Retraction),
      (requests.map Prod.snd).Perm (permuted.map Prod.snd) →
      let outcome := core.run (requests.map Retraction.occurrence)
      let other := core.run (permuted.map Retraction.occurrence)
      outcome.1 = other.1 ∧ ∀ job, .cancel job ∈ outcome.2 ↔ .cancel job ∈ other.2 := by
  intro core
  have settled : core.Settled := settled_empty.run occurrences
  refine ⟨fun one other a b c d => ?_, fun requests permuted perm => settled.run_perm perm⟩
  have swapped : ([(a, one), (b, other)].map Prod.snd).Perm ([(c, other), (d, one)].map Prod.snd) :=
    .swap ..
  obtain ⟨same, stopped⟩ := settled.run_perm swapped
  refine ⟨same, congrArg snapshot same, fun job => ?_⟩
  simpa [run, occur, Retraction.occurrence, cancel_mem_ofEffects] using stopped job

/-- A job, its analysis and the dataset of this are taken back, and a compound analysis that never
was. If the dataset goes first, nothing else is there any more. -/
theorem retractions_commute_gathered :
    let core := (run {} Occurrence.gathered).1
    let context : Context := ⟨⟨"", "", 0, "", "", []⟩, {}, .ofNat 2, accepting, {}⟩
    let requests : List (Context × Retraction) :=
      [(context, .job (.ofNat 1)), (context, .compound (.ofNat 9)), (context, .analysis (.ofNat 1)),
        (context, .dataset (.ofNat 1))]
    let removed := core.dispatch context (.removeDataset (.ofNat 1))
    (core.dispatch context (.cancelJob (.ofNat 1))).reply =
        .ok (.canceled ⟨.ofNat 1, .ofNat 1⟩) ∧
      (removed.core.dispatch context (.cancelJob (.ofNat 1))).reply =
        .error (.missing (.ofNat 1 : JobId)) ∧
      (requests.map Prod.snd).Perm (requests.reverse.map Prod.snd) ∧
      (core.run (requests.map Retraction.occurrence)).1 =
        (core.run (requests.reverse.map Retraction.occurrence)).1 ∧
      .cancel (.ofNat 1) ∈ (core.run (requests.map Retraction.occurrence)).2 ∧
      .cancel (.ofNat 1) ∈ (core.run (requests.reverse.map Retraction.occurrence)).2 := by
  intro core context requests removed
  have perm : (requests.map Prod.snd).Perm (requests.reverse.map Prod.snd) :=
    ((List.reverse_perm requests).map Prod.snd).symm
  obtain ⟨same, stopped⟩ := (retractions_commute Occurrence.gathered).2 requests _ perm
  have canceled : .cancel (.ofNat 1) ∈ (core.run (requests.map Retraction.occurrence)).2 :=
    .head _
  exact ⟨rfl, rfl, perm, same, canceled, (stopped _).1 canceled⟩

end Core

end Coordination
