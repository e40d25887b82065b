/-
Coordination.Proofs.Retries — a command that is carried out twice.

A client that does not know whether a command came through sends it again.
Apart from a command that starts a job, this is harmless: nothing of what a
snapshot lists is other than after the first time, be it a record or a place
in an order.

Storing cascades and moves things the first time, and the second time it
must find nothing left to do. A command that removes something is rejected
the second time. It is not asked that the outside is as before: if a command
was accepted once, then it does no harm even if the file or the server that
it names have changed meanwhile (`Unchanging`).

Nothing is assumed about the identifiers of jobs. So it has to be shown here
that also without it there are no jobs where there is no connection
(`Table.Anchored`), or a client that connects twice could lose some.

  §1 Rosters     — storing a record that is stored.
  §2 Jobs        — `Table.Anchored`.
  §3 Operations  — `Core.Unchanging`: each operation after it went through.
  §4 Commands    — the theorem.
-/
import Coordination.Proofs.Upserts

namespace Coordination

open Analysis (Workspace)
open Roster (keys)

/-! ## §1 Rosters -/

namespace Roster

variable {α κ : Type} [DecidableEq κ] [Keyed α κ] {x : α} {xs : List α}

theorem set_eq_self (h : (keys xs).Nodup) (hx : find? (Keyed.key x) xs = some x) :
    set x xs = xs := by
  rw [set_of_mem (mem_keys_of_find? hx)]
  refine map_eq_self fun y hy => ?_
  split
  · rename_i same
    exact (eq_of_find? h hy same hx).symm
  · rfl

theorem renew_renew (x : α) (xs : List α) : renew x (renew x xs) = renew x xs := by
  have gone : erase (Keyed.key x) (renew x xs) = erase (Keyed.key x) xs := by
    simp [renew, erase]
  rw [renew, gone, renew]

end Roster

/-! ## §2 Jobs -/

namespace Job.Table

/-- Every record is that of the current job of an analysis. -/
structure Anchored (table : Table) : Prop where
  apart : (keys table.current).Nodup
  held : ∀ r ∈ table.records, ∃ entry ∈ table.current, entry.job = r.id

variable {table : Table}

theorem Anchored.retire (h : table.Anchored) (analysis : AnalysisId) :
    (table.retire analysis).1.Anchored := by
  rw [retire_fst, removeFor]
  cases hf : Roster.find? analysis table.current with
  | none => exact h
  | some current =>
    refine ⟨Roster.nodup_keys_erase h.apart analysis, ?_⟩
    intro r hr
    obtain ⟨hr, other⟩ := List.mem_filter.1 hr
    obtain ⟨entry, he, held⟩ := h.held r hr
    refine ⟨entry, List.mem_filter.2 ⟨he, decide_eq_true ?_⟩, held⟩
    -- The job that is dropped is the one of this entry, and `r` is another one.
    intro same
    obtain rfl := Roster.eq_of_find? h.apart he same hf
    exact of_decide_eq_true other held.symm

theorem Anchored.insert (h : table.Anchored) {handle : Handle}
    (idle : handle.analysis ∉ keys table.current) : (table.insert handle).1.Anchored := by
  rw [Table.insert, removeFor_of_idle idle]
  refine ⟨Roster.nodup_keys_concat h.apart idle, ?_⟩
  intro r hr
  rcases List.mem_append.1 hr with hr | hr
  · obtain ⟨entry, he, held⟩ := h.held r (List.mem_filter.1 hr).1
    exact ⟨entry, List.mem_append_left _ he, held⟩
  · obtain rfl := List.mem_singleton.1 hr
    exact ⟨⟨handle.analysis, handle.job⟩, List.mem_append_right _ (List.mem_singleton.2 rfl), rfl⟩

theorem keys_setStatus (table : Table) (job : JobId) (status : Status) :
    keys (table.setStatus job status).1.records = keys table.records := by
  unfold Table.setStatus
  split
  · split
    · rfl
    · exact Roster.keys_replace _ _
  · rfl

theorem Anchored.setStatus (h : table.Anchored) (job : JobId) (status : Status) :
    (table.setStatus job status).1.Anchored := by
  refine ⟨?_, ?_⟩
  · rw [current_setStatus]
    exact h.apart
  · intro r hr
    rw [current_setStatus]
    obtain ⟨q, hq, same⟩ := Roster.mem_keys.1 (keys_setStatus table job status ▸
      Roster.key_mem_keys hr)
    obtain ⟨entry, he, held⟩ := h.held q hq
    exact ⟨entry, he, held.trans same⟩

end Job.Table

theorem Move.anchored {s t : Standing} {entries : List Entry} (move : Move s entries t)
    (h : s.jobs.Anchored) : t.jobs.Anchored := by
  cases move with
  | probe => exact h
  | tell => exact h
  | retire analysis => exact h.retire analysis
  | start request refusal feeds idle =>
    have inserted : (s.jobs.insert request.handle).1.Anchored := h.insert idle
    cases refusal with
    | none => exact inserted
    | some problem => exact inserted.setStatus _ _
  | cancel => exact h.setStatus _ _
  | report report => exact h.setStatus _ _
  | forget => exact ⟨List.nodup_nil, List.forall_mem_nil _⟩

theorem Job.Table.anchored_empty : ({} : Table).Anchored :=
  ⟨List.nodup_nil, List.forall_mem_nil _⟩

namespace Core

variable {core : Core}

theorem anchored_run (occurrences : List Occurrence) : (run {} occurrences).1.jobs.Anchored :=
  Moves.invariant (P := fun s _ => s.jobs.Anchored) (fun h move => move.anchored h) []
    Job.Table.anchored_empty (moved_run sound_empty occurrences).moves

/-- Where there is no connection there are no jobs. -/
theorem records_eq_nil (h : core.Sound) (anchored : core.jobs.Anchored)
    (detached : core.connection.isConnected = false) : core.jobs.records = [] := by
  refine List.eq_nil_iff_forall_not_mem.2 ?_
  intro r hr
  obtain ⟨entry, he, -⟩ := anchored.held r hr
  have there := h.standing.tracked entry.analysis (Roster.key_mem_keys he)
  exact absurd (h.standing.vacant detached).2.2 (Roster.ne_nil_of_mem_keys there)

/-! ## §3 Operations -/

/-- If the operation goes through, all that is listed stays as it is. -/
def Unchanging {α : Type} (core : Core) (result : Except Rejection (Change α)) : Prop :=
  ∀ change, result = .ok change → change.core.snapshot = core.snapshot

theorem unchanging_answering {α : Type} {x : Except Rejection (Change α)} {reply : α → Reply}
    (h : core.Unchanging x) :
    core.Unchanging (x >>= fun made => pure (answering made reply)) := by
  intro change hok
  obtain ⟨made, hm, hok⟩ := bind_eq_ok.1 hok
  obtain rfl := Except.ok.inj hok
  exact h made hm

/-- An operation that changes nothing after it went through once is no other when it is answered. -/
theorem unchanging_twice {α : Type} {x : Core → Except Rejection (Change α)} {reply : α → Reply}
    {change : Change Reply} (h : ∀ made, x core = .ok made → made.core.Unchanging (x made.core))
    (hok : (x core >>= fun made => pure (answering made reply)) = .ok change) :
    change.core.Unchanging (x change.core >>= fun made => pure (answering made reply)) := by
  obtain ⟨made, hm, hok⟩ := bind_eq_ok.1 hok
  obtain rfl := Except.ok.inj hok
  exact unchanging_answering (h made hm)

/-- A connection is all that there is after a client has connected. -/
theorem snapshot_connect (h : core.Sound) (anchored : core.jobs.Anchored)
    (spec : Connection.Spec) :
    (core.connect spec).core.snapshot = ⟨.connected spec, [], [], [], []⟩ := by
  cases hc : core.connection.isConnected with
  | true =>
    have next : (core.connect spec).core =
        { core.teardown.1 with connection := .connected spec } := by
      rw [connect, if_pos hc]
    rw [next, teardown_fst h]
    rfl
  | false =>
    have next : (core.connect spec).core = { core with connection := .connected spec } := by
      rw [connect, hc]
      rfl
    have datasets : core.datasets.datasets = [] := (h.standing.vacant hc).1
    have compounds : core.workspace.compounds = [] := (h.standing.vacant hc).2.1
    have analyses : core.workspace.analyses = [] := (h.standing.vacant hc).2.2
    rw [next]
    simp [snapshot, datasets, compounds, analyses, records_eq_nil h anchored hc]

theorem anchored_connect (anchored : core.jobs.Anchored) (spec : Connection.Spec) :
    (core.connect spec).core.jobs.Anchored := by
  cases hc : core.connection.isConnected with
  | true =>
    rw [connect, if_pos hc]
    exact Job.Table.anchored_empty
  | false =>
    rw [connect, hc]
    exact anchored

theorem unchanging_connect (h : core.Sound) (anchored : core.jobs.Anchored)
    (spec : Connection.Spec) :
    ((core.connect spec).core.connect spec).core.snapshot = (core.connect spec).core.snapshot := by
  have moved : Moved core (Entry.ofEffects accepting _) _ := moved_connect h spec
  rw [snapshot_connect (moved.sound h) (anchored_connect anchored spec),
    snapshot_connect h anchored]

theorem core_disconnect (h : core.Sound) : core.disconnect.core = {} := by
  show Core.mk _ core.teardown.1.datasets core.teardown.1.workspace core.teardown.1.jobs = _
  rw [teardown_fst h]

theorem unchanging_removeCompound (h : core.Sound) {id : CompoundId} {change : Change Compound}
    (hok : core.removeCompound id = .ok change) :
    change.core.Unchanging (change.core.removeCompound id) := by
  intro second again
  obtain ⟨workspace, removed, gone, rfl⟩ := removeCompound_accepted hok
  obtain ⟨_, _, twice, -⟩ := removeCompound_accepted again
  have g := Workspace.removeCompound_spec h.workspace gone
  have found := (Workspace.removeCompound_spec (g.sound h.workspace) twice).found
  rw [Workspace.compound?, g.compounds, Roster.find?_erase, if_pos rfl] at found
  cases found

theorem unchanging_removeAnalysis (h : core.Sound) {id : AnalysisId} {change : Change Analysis}
    (hok : core.removeAnalysis id = .ok change) :
    change.core.Unchanging (change.core.removeAnalysis id) := by
  intro second again
  obtain ⟨workspace, analysis, parent, gone, rfl⟩ := removeAnalysis_accepted hok
  obtain ⟨_, _, _, twice, -⟩ := removeAnalysis_accepted again
  have g := Workspace.removeAnalysis_spec h.workspace gone
  have found := (Workspace.removeAnalysis_spec (g.sound h.workspace) twice).found
  rw [Workspace.analysis?, g.analyses, Roster.find?_erase, if_pos rfl] at found
  cases found

theorem unchanging_removeDataset {id : DatasetId} {change : Change Dataset}
    (hok : core.removeDataset id = .ok change) :
    change.core.Unchanging (change.core.removeDataset id) := by
  intro second again
  obtain ⟨_, -, rfl⟩ := removeDataset_accepted hok
  obtain ⟨_, there, -⟩ := removeDataset_accepted again
  rw [Dataset.Registry.get?, Roster.find?_erase, if_pos rfl] at there
  cases there

/-- A job that has ended is not canceled. -/
theorem unchanging_of_final {id : JobId} {record : Job.Record}
    (found : core.jobs.get? id = some record) (final : record.status.isFinal = true) :
    core.Unchanging (core.cancelJob id) := by
  intro change hok
  obtain ⟨other, there, ⟨-, rfl⟩ | ⟨going, -⟩⟩ := cancelJob_accepted hok
  · rfl
  · obtain rfl := Option.some.inj (found.symm.trans there)
    exact absurd final (ne_true_of_eq_false going)

theorem unchanging_cancelJob {id : JobId} {change : Change Job.Handle}
    (hok : core.cancelJob id = .ok change) :
    change.core.Unchanging (change.core.cancelJob id) := by
  obtain ⟨record, found, ⟨final, rfl⟩ | ⟨going, rfl⟩⟩ := cancelJob_accepted hok
  · exact unchanging_of_final found final
  · have canceled : (core.jobs.setStatus id .canceled).1.get? id =
        some { record with status := .canceled } := by
      obtain rfl : record.id = id := Roster.key_of_find?_eq_some found
      rw [Job.Table.setStatus_of_live found going, Job.Table.get?, Roster.find?_replace]
      exact (if_pos rfl).trans (Option.map_eq_some_iff.2 ⟨record, found, rfl⟩)
    exact unchanging_of_final canceled rfl

theorem eq_of_prepare {id : DatasetId} {params : Dataset.Params} {file later : Dataset.FileStatus}
    {dataset other : Dataset} (first : Dataset.prepare id params file = .ok dataset)
    (second : Dataset.prepare id params later = .ok other) : other = dataset := by
  obtain ⟨shape, hs, rfl⟩ := prepare_accepted first
  obtain ⟨shape', hs', rfl⟩ := prepare_accepted second
  rw [Except.ok.inj (hs.symm.trans hs')]

theorem removeDependents_of_unused (h : core.Sound) {id : DatasetId}
    (unused : ∀ c ∈ core.workspace.compounds, c.dataset ≠ id) :
    core.removeDependents id = (core, []) := by
  have none : core.workspace.index.compoundsOf id = [] := by
    refine List.eq_nil_iff_forall_not_mem.2 ?_
    intro c hc
    obtain ⟨x, hx, linked⟩ := Option.map_eq_some_iff.1 ((h.workspace.mem_over c id).1 hc)
    exact unused x (Roster.mem_of_find?_eq_some hx) linked
  rw [removeDependents, Workspace.removeOver, none]
  rfl

/-- The dataset is listed last, and nothing is over it. -/
theorem registerDataset_spec (h : core.Sound) {dataset : Dataset} {change : Change Dataset}
    (hok : core.registerDataset dataset = .ok change) :
    change.core.datasets = ⟨Roster.renew dataset core.datasets.datasets⟩ ∧
      ∀ c ∈ change.core.workspace.compounds, c.dataset ≠ dataset.id := by
  obtain ⟨-, ⟨-, rfl⟩ | ⟨new, rfl⟩⟩ := registerDataset_accepted hok
  · exact ⟨rfl, (Workspace.not_over_removeOver h.workspace dataset.id).1⟩
  · have absent := mt Roster.contains_iff.2 (ne_true_of_eq_false new)
    exact ⟨rfl, (unused_of_not_mem h absent).1⟩

theorem unchanging_registerDataset (h : core.Sound) {dataset : Dataset} {change : Change Dataset}
    (hok : core.registerDataset dataset = .ok change) :
    change.core.Unchanging (change.core.registerDataset dataset) := by
  intro second again
  have moved : Moved core (Entry.ofEffects accepting _) _ := moved_registerDataset h hok
  obtain ⟨datasets, unused⟩ := registerDataset_spec h hok
  have same : (change.core.datasets.insert dataset).1 = change.core.datasets := by
    rw [datasets]
    exact congrArg Dataset.Registry.mk (Roster.renew_renew dataset _)
  have none := removeDependents_of_unused (moved.sound h) unused
  obtain ⟨-, ⟨-, rfl⟩ | ⟨-, rfl⟩⟩ := registerDataset_accepted again
  · rw [none, same]
  · rw [same]

/-- A compound analysis that is stored as it is stays as it is, and so do its analyses. -/
theorem putCompound_same {w w' : Workspace} (h : w.Sound) {datasets : Dataset.Registry}
    {id : CompoundId} {dataset : DatasetId} {details : Compound.Details}
    {stored : Workspace.CompoundStored}
    (p : Workspace.CompoundPut w datasets id dataset details w' stored)
    (found : w.compound? id = some stored.compound) :
    w'.compounds = w.compounds ∧ w'.analyses = w.analyses ∧ stored.retargeted = [] := by
  have own : stored.compound.id = id := Roster.key_of_find?_eq_some found
  have linked : w.datasetOf id = some dataset := by
    rw [Workspace.datasetOf, found, p.compound]
    rfl
  refine ⟨?_, ?_, ?_⟩
  · rw [p.compounds]
    refine Roster.set_eq_self h.compounds_nodup ?_
    rw [show Keyed.key stored.compound = id from own]
    exact found
  · rw [p.analyses]
    refine Workspace.map_dataset_eq_self h ?_
    intro d hd
    simpa [linked] using Ne.symm hd
  · rw [p.retargeted, if_pos (.inr linked)]

theorem unchanging_putCompound (h : core.Sound) {id : CompoundId} {dataset : DatasetId}
    {details : Compound.Details} {change : Change (Stored Compound)}
    (hok : core.putCompound id dataset details = .ok change) :
    change.core.Unchanging (change.core.putCompound id dataset details) := by
  intro second again
  obtain ⟨w, stored, put, -, rfl⟩ := putCompound_accepted hok
  obtain ⟨v, restored, twice, -, rfl⟩ := putCompound_accepted again
  have p := Workspace.putCompound_spec h.workspace put
  have q := Workspace.putCompound_spec (p.sound h.workspace) twice
  have same : restored.compound = stored.compound := by
    rw [q.compound, p.compound, p.children]
  have found : w.compound? id = some restored.compound := by
    rw [same, Workspace.compound?, p.compounds, Roster.find?_set, p.compound]
    exact if_pos rfl
  obtain ⟨compounds, analyses, none⟩ := putCompound_same (p.sound h.workspace) q found
  show Snapshot.mk _ _ v.compounds v.analyses
    (Job.Table.refresh _ restored.retargeted).1.records = _
  rw [compounds, analyses, none]
  rfl

/-- An analysis that is stored as it is stays as it is, and so do the orders. -/
theorem putAnalysis_same {w w' : Workspace} (h : w.Sound) {id : AnalysisId} {compound : CompoundId}
    {details : Analysis.Details} {stored : Workspace.AnalysisStored}
    (p : Workspace.AnalysisPut w id compound details w' stored)
    (found : w.analysis? id = some stored.analysis) :
    w'.compounds = w.compounds ∧ w'.analyses = w.analyses ∧ stored.created = false := by
  have own : w.parentOf id = some compound := by
    rw [Workspace.parentOf, found]
    exact congrArg some p.compound_eq
  refine ⟨?_, ?_, ?_⟩
  · rw [p.compounds]
    refine Roster.map_eq_self fun c hc => ?_
    have settled : c.id ∉ w.reordered id compound := by
      rw [Workspace.reordered, if_pos own]
      exact List.not_mem_nil
    rw [Workspace.mem_reordered_iff h hc, not_not] at settled
    rw [settled]
    rfl
  · rw [p.analyses]
    refine Roster.set_eq_self h.analyses_nodup ?_
    rw [show Keyed.key stored.analysis = id from p.id_eq]
    exact found
  · rw [p.created, found]
    rfl

/-- After an analysis was stored there is no job for it. -/
theorem idle_putAnalysis (h : core.Sound) {id : AnalysisId} {compound : CompoundId}
    {details : Analysis.Details} {change : Change (Stored Analysis)}
    (hok : core.putAnalysis id compound details = .ok change) :
    id ∉ keys change.core.jobs.current := by
  obtain ⟨w, stored, put, -, ⟨new, rfl⟩ | ⟨-, rfl⟩⟩ := putAnalysis_accepted hok
  · have absent : core.workspace.analysis? id = none := by
      simpa [new] using (Workspace.putAnalysis_spec h.workspace put).created
    exact mt (h.standing.tracked id) (Roster.find?_eq_none_iff.1 absent)
  · exact Job.Table.not_mem_current_retire core.jobs id

theorem unchanging_putAnalysis (h : core.Sound) {id : AnalysisId} {compound : CompoundId}
    {details : Analysis.Details} {change : Change (Stored Analysis)}
    (hok : core.putAnalysis id compound details = .ok change) :
    change.core.Unchanging (change.core.putAnalysis id compound details) := by
  intro second again
  have idle := idle_putAnalysis h hok
  obtain ⟨w, stored, put, -, first⟩ := putAnalysis_accepted hok
  obtain rfl : change.core.workspace = w := by
    rcases first with ⟨-, rfl⟩ | ⟨-, rfl⟩
    · rfl
    · rfl
  obtain ⟨v, restored, twice, -, outcome⟩ := putAnalysis_accepted again
  have p := Workspace.putAnalysis_spec h.workspace put
  have q := Workspace.putAnalysis_spec (p.sound h.workspace) twice
  have linked : change.core.workspace.datasetOf compound = some stored.analysis.dataset := by
    rw [Workspace.datasetOf_map p.compounds (fun _ => rfl) (fun _ => rfl)]
    exact p.dataset_eq
  have same : restored.analysis = stored.analysis := by
    rw [q.analysis_eq linked, ← p.analysis_eq p.dataset_eq]
  have found : change.core.workspace.analysis? id = some restored.analysis := by
    rw [p.analysis?, if_pos rfl, same]
  obtain ⟨compounds, analyses, old⟩ := putAnalysis_same (p.sound h.workspace) q found
  rcases outcome with ⟨new, -⟩ | ⟨-, rfl⟩
  · exact absurd new (ne_true_of_eq_false old)
  · show Snapshot.mk _ _ v.compounds v.analyses (change.core.jobs.retire id).1.records = _
    rw [compounds, analyses, Job.Table.retire_of_idle idle]
    rfl

/-! ## §4 Commands -/

/-- A command that was rejected is rejected again if what it finds outside is the same. -/
theorem perform_again {context again : Context} {command : Command} {rejection : Rejection}
    (other : ∀ id, command ≠ .runAnalysis id) (same : again.facts = context.facts)
    (h : core.perform context command = .error rejection) :
    core.perform again command = .error rejection := by
  cases command with
  | getConfig => cases h
  | runAnalysis id => exact absurd rfl (other id)
  | connect | registerDataset => simpa only [perform, same] using h
  | _ => exact h

/-- A command that was accepted changes nothing the second time, whatever it finds then. -/
theorem unchanging_perform (h : core.Sound) (anchored : core.jobs.Anchored)
    {context again : Context} {command : Command} (other : ∀ id, command ≠ .runAnalysis id)
    {change : Change Reply} (hok : core.perform context command = .ok change) :
    change.core.Unchanging (change.core.perform again command) := by
  cases command with
  | runAnalysis id => exact absurd rfl (other id)
  | getConfig | getConnection | listDatasets =>
    intro second again
    obtain rfl : _ = second := Except.ok.inj again
    rfl
  | getDataset id =>
    intro second again
    cases hg : change.core.datasets.get? id with
    | none =>
      simp only [perform, hg] at again
      cases again
    | some dataset =>
      simp only [perform, hg] at again
      obtain rfl : _ = second := Except.ok.inj again
      rfl
  | connect spec =>
    obtain ⟨_, -, hok⟩ := bind_eq_ok.1 hok
    obtain rfl : _ = change := Except.ok.inj hok
    intro second again
    obtain ⟨_, -, again⟩ := bind_eq_ok.1 again
    obtain rfl : _ = second := Except.ok.inj again
    exact unchanging_connect h anchored spec
  | disconnect =>
    obtain rfl : _ = change := Except.ok.inj hok
    intro second again
    obtain rfl : _ = second := Except.ok.inj again
    show core.disconnect.core.disconnect.core.snapshot = core.disconnect.core.snapshot
    rw [core_disconnect h, core_disconnect sound_empty]
  | registerDataset id params =>
    obtain ⟨_, -, hok⟩ := bind_eq_ok.1 hok
    obtain ⟨dataset, prepared, hok⟩ := bind_eq_ok.1 hok
    obtain ⟨made, hm, hok⟩ := bind_eq_ok.1 hok
    obtain rfl : _ = change := Except.ok.inj hok
    intro second again
    obtain ⟨_, -, again⟩ := bind_eq_ok.1 again
    obtain ⟨_, prepared', again⟩ := bind_eq_ok.1 again
    obtain rfl := eq_of_prepare (mapError_eq_ok.1 prepared) (mapError_eq_ok.1 prepared')
    exact unchanging_answering (unchanging_registerDataset h hm) second again
  | removeDataset id =>
    exact unchanging_twice (x := (·.removeDataset id)) (fun _ => unchanging_removeDataset) hok
  | putCompound id dataset details =>
    exact unchanging_twice (x := (·.putCompound id dataset details))
      (fun _ => unchanging_putCompound h) hok
  | removeCompound id =>
    exact unchanging_twice (x := (·.removeCompound id)) (fun _ => unchanging_removeCompound h) hok
  | putAnalysis id compound details =>
    exact unchanging_twice (x := (·.putAnalysis id compound details))
      (fun _ => unchanging_putAnalysis h) hok
  | removeAnalysis id =>
    exact unchanging_twice (x := (·.removeAnalysis id)) (fun _ => unchanging_removeAnalysis h) hok
  | cancelJob id =>
    exact unchanging_twice (x := (·.cancelJob id)) (fun _ => unchanging_cancelJob) hok

theorem snapshot_dispatch {context : Context} {command : Command}
    (h : core.Unchanging (core.perform context command)) :
    (core.dispatch context command).core.snapshot = core.snapshot := by
  unfold dispatch
  cases hp : core.perform context command with
  | error rejection => rfl
  | ok change => exact h change hp

/-- A compound analysis that is given its own dataset and details is accepted and stays as it is. -/
theorem dispatch_putCompound_same (h : core.Sound) (context : Context) {c : Compound}
    (hc : c ∈ core.workspace.compounds) :
    let outcome := core.dispatch context (.putCompound c.id c.dataset c.details)
    outcome.reply = .ok (.changed (.compoundStored false c)) ∧
      outcome.core.snapshot = core.snapshot := by
  have found : core.workspace.compound? c.id = some c :=
    Roster.find?_key h.workspace.compounds_nodup hc
  have known : core.datasets.contains c.dataset = true :=
    Roster.contains_iff.2 (h.standing.registered c hc)
  obtain ⟨⟨w, stored⟩, put⟩ : ∃ result,
      core.workspace.putCompound core.datasets c.id c.dataset c.details = .ok result :=
    ⟨_, Workspace.putCompound_eq c.details known⟩
  have p := Workspace.putCompound_spec h.workspace put
  have same : stored.compound = c := by
    have apart := h.workspace.children_nodup c.id
    rw [p.compound, Workspace.arrange_eq _ apart,
      Workspace.settled_of_perm (h.workspace.order c hc) apart]
  have old : stored.created = false := by
    rw [p.created, found]
    rfl
  obtain ⟨compounds, analyses, none⟩ := putCompound_same h.workspace p (same ▸ found)
  have connected := h.isConnected_of_compound (Roster.key_mem_keys hc)
  rw [dispatch_putCompound_of_ok context connected put, same, old, none]
  refine ⟨rfl, ?_⟩
  show Snapshot.mk _ _ w.compounds w.analyses _ = _
  rw [compounds, analyses]
  rfl

/-- In every core that a run leads to, a command that starts no job may be carried out twice: if it
finds the same outside, or if it was accepted the first time, then what is listed is the same as
after the first time. And a compound analysis may be given the dataset and the details that it
has. -/
theorem retries_change_nothing (occurrences : List Occurrence) :
    let core := (run {} occurrences).1
    (∀ context again command, (∀ id, command ≠ .runAnalysis id) →
      let first := core.dispatch context command
      (again.facts = context.facts ∨ ∃ reply, first.reply = .ok reply) →
      (first.core.dispatch again command).core.snapshot = first.core.snapshot) ∧
    ∀ context, ∀ c ∈ core.workspace.compounds,
      let outcome := core.dispatch context (.putCompound c.id c.dataset c.details)
      outcome.reply = .ok (.changed (.compoundStored false c)) ∧
        outcome.core.snapshot = core.snapshot := by
  have h := sound_run occurrences
  refine ⟨?_, fun context c => dispatch_putCompound_same h context⟩
  intro context again command other first same
  cases hp : (run {} occurrences).1.perform context command with
  | error rejection =>
    have outcome : first = ⟨(run {} occurrences).1, knocks command, .error rejection⟩ := by
      simp only [first, dispatch, hp]
    have facts : again.facts = context.facts := by simpa [outcome] using same
    rw [outcome, dispatch, perform_again other facts hp]
  | ok change =>
    have outcome : first = ⟨change.core, knocks command ++ change.effects, .ok change.value⟩ := by
      simp only [first, dispatch, hp]
    rw [outcome]
    exact snapshot_dispatch (unchanging_perform h (anchored_run occurrences) other hp)

/-- A compound analysis goes over to another dataset, which ends a job, and the second time nothing
more happens. After that its own order is given back to it, while the files are gone. -/
theorem retries_change_nothing_grouped :
    let core := (run {} Occurrence.grouped).1
    let context : Context := ⟨⟨"", "", 0, "", "", []⟩, {}, .ofNat 3, accepting, {}⟩
    let asked : List AnalysisId := [.ofNat 3, .ofNat 9, .ofNat 3, .ofNat 2]
    let command : Command := .putCompound (.ofNat 1) (.ofNat 2) ⟨.sumFrames, asked⟩
    let first := core.dispatch context command
    let own : Compound := ⟨.ofNat 1, .ofNat 1, ⟨.sumFrames, [.ofNat 1, .ofNat 2, .ofNat 3]⟩⟩
    (∀ id, command ≠ .runAnalysis id) ∧ (∃ reply, first.reply = .ok reply) ∧
      first.core.snapshot ≠ core.snapshot ∧
      (first.core.dispatch context command).core.snapshot = first.core.snapshot ∧
      own ∈ core.workspace.compounds ∧
      (core.dispatch context (.putCompound own.id own.dataset own.details)).core.snapshot =
        core.snapshot := by
  intro core context asked command first own
  have other : ∀ id, command ≠ .runAnalysis id := by
    intro id
    exact Command.noConfusion
  have accepted : ∃ reply, first.reply = .ok reply := ⟨_, rfl⟩
  have there : own ∈ core.workspace.compounds := by decide
  have changed : first.core.snapshot ≠ core.snapshot := by
    intro same
    exact absurd (congrArg (·.jobs.length) same) (by decide)
  obtain ⟨twice, again⟩ := retries_change_nothing Occurrence.grouped
  exact ⟨other, accepted, changed, twice context context command other (.inr accepted), there,
    (again context own there).2⟩

end Core

end Coordination
