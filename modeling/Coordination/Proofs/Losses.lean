/-
Coordination.Proofs.Losses — what is left when some entities go.

A removal is carried out step by step: it follows the index, takes records
out of the stores one after the other, and drops the jobs of each analysis
on the way. What it leaves can be said without any of this. Each store is
as before, less what goes, and in the same order; of the jobs, those of
the analyses that go are no longer listed, and those that were canceled
are marked.

Said in this way, losses that follow on each other are one loss, and all
that counts of a loss is what is in it, not in which order or how often.

  §1 Jobs        — `Table.without`, `Table.Stops`.
  §2 Links       — `Links.spare`.
  §3 Workspaces  — `Workspace.without`, and the removals that come to it.
  §4 Cores       — `Loss`, `Core.without`, `Core.Stops`.
-/
import Coordination.Proofs.JobStops
import Coordination.Proofs.Links

namespace Coordination

open Analysis (Index Links Workspace)
open Roster (keys)

section Spared

variable {κ : Type} [DecidableEq κ]

/-- Whether something is not among what goes. -/
def spared (gone : List κ) (k : κ) : Bool := !gone.contains k

@[simp] theorem spared_iff {gone : List κ} {k : κ} : spared gone k = true ↔ k ∉ gone := by
  simp [spared]

@[simp] theorem spared_nil (k : κ) : spared [] k = true := rfl

@[simp] theorem spared_singleton (gone k : κ) : spared [gone] k = decide (k ≠ gone) := by
  simp [spared]

@[simp] theorem spared_append (gone more : List κ) (k : κ) :
    spared (gone ++ more) k = (spared more k && spared gone k) := by
  simp [spared, Bool.and_comm]

/-- What is left after two losses is what is left after both at once. -/
theorem filter_spared {α : Type} (xs : List α) (id : α → κ) (gone more : List κ) :
    (xs.filter fun x => spared gone (id x)).filter (fun x => spared more (id x)) =
      xs.filter fun x => spared (gone ++ more) (id x) := by
  simp only [List.filter_filter, spared_append]

theorem spared_congr {gone more : List κ} (same : ∀ k, k ∈ gone ↔ k ∈ more) :
    spared gone = spared more :=
  funext fun k => Bool.eq_iff_iff.2 (by simp [same])

end Spared

/-- A list whose entries are picked and changed twice might as well be gone through once. -/
theorem filter_map_twice {α : Type} {xs : List α} {p q r : α → Bool} {f g h : α → α}
    (picked : ∀ x ∈ xs, (q (f x) && p x) = r x) (changed : ∀ x, g (f x) = h x) :
    (((xs.filter p).map f).filter q).map g = (xs.filter r).map h := by
  rw [List.filter_map, List.filter_filter, List.map_map]
  refine (congrArg _ (List.filter_congr picked)).trans ?_
  exact List.map_congr_left fun x _ => changed x

/-! ## §1 Jobs -/

namespace Job

/-- The record after some jobs were canceled, which does nothing to a job that has ended. -/
def Record.after (record : Record) (canceled : List JobId) : Record :=
  if record.id ∈ canceled ∧ record.status.isFinal = false then { record with status := .canceled }
  else record

@[simp] theorem Record.id_after (record : Record) (canceled : List JobId) :
    (record.after canceled).id = record.id := by
  unfold after
  split <;> rfl

@[simp] theorem Record.after_nil (record : Record) : record.after [] = record := by simp [after]

/-- A job is live after some were canceled if it was, and is none of these. -/
theorem Record.live_after {record : Record} {canceled : List JobId} :
    (record.after canceled).status.isFinal = false ↔
      record.status.isFinal = false ∧ record.id ∉ canceled := by
  unfold after
  split
  · rename_i stopped
    exact iff_of_false nofun fun stays => stays.2 stopped.1
  · rename_i going
    exact ⟨fun live => ⟨live, fun canceled => going ⟨canceled, live⟩⟩, And.left⟩

theorem Record.after_congr {canceled more : List JobId} (same : ∀ job, job ∈ canceled ↔ job ∈ more)
    (record : Record) : record.after canceled = record.after more := by
  simp only [after, same]

theorem Record.after_after (record : Record) (canceled more : List JobId) :
    (record.after canceled).after more = record.after (canceled ++ more) := by
  have ended : Status.canceled.isFinal = true := rfl
  cases final : record.status.isFinal with
  | true => simp [after, final]
  | false => by_cases first : record.id ∈ canceled <;> simp [after, final, first, ended]

namespace Table

/-- The jobs that go with some analyses. -/
def jobsOf (table : Table) (analyses : List AnalysisId) : List JobId :=
  (table.current.filter fun entry => analyses.contains entry.analysis).map (·.job)

/-- What is left when some analyses go and some jobs are canceled. -/
def without (table : Table) (analyses : List AnalysisId) (jobs : List JobId) : Table where
  records := (table.records.filter fun r => spared (table.jobsOf analyses) r.id).map (·.after jobs)
  current := table.current.filter fun entry => spared analyses entry.analysis

/-- A job is live, and it goes with some analyses or is one of those that are canceled. -/
def Stops (table : Table) (analyses : List AnalysisId) (jobs : List JobId) (job : JobId) : Prop :=
  (∃ r ∈ table.records, r.id = job ∧ r.status.isFinal = false) ∧
    (job ∈ table.jobsOf analyses ∨ job ∈ jobs)

/-- No analysis has two current jobs, and no two records are of one job. -/
structure Apart (table : Table) : Prop where
  analyses : (keys table.current).Nodup
  jobs : (keys table.records).Nodup

variable {table : Table} {analyses more : List AnalysisId} {jobs others : List JobId} {job : JobId}

theorem mem_jobsOf : job ∈ table.jobsOf analyses ↔
    ∃ entry ∈ table.current, entry.analysis ∈ analyses ∧ entry.job = job := by
  simp [jobsOf, and_assoc]

theorem jobsOf_congr (same : ∀ a, a ∈ analyses ↔ a ∈ more) :
    table.jobsOf analyses = table.jobsOf more :=
  congrArg (List.map _) (List.filter_congr fun entry _ => by simp [same])

theorem mem_jobsOf_append (jobs : List JobId) : job ∈ table.jobsOf (analyses ++ more) ↔
    job ∈ table.jobsOf analyses ∨ job ∈ (table.without analyses jobs).jobsOf more := by
  simp only [mem_jobsOf, without, List.mem_filter, List.mem_append, spared_iff]
  constructor
  · rintro ⟨entry, listed, goes, rfl⟩
    by_cases first : entry.analysis ∈ analyses
    · exact .inl ⟨entry, listed, first, rfl⟩
    · exact .inr ⟨entry, ⟨listed, first⟩, goes.resolve_left first, rfl⟩
  · rintro (⟨entry, listed, goes, rfl⟩ | ⟨entry, ⟨listed, -⟩, goes, rfl⟩)
    · exact ⟨entry, listed, .inl goes, rfl⟩
    · exact ⟨entry, listed, .inr goes, rfl⟩

theorem without_without : (table.without analyses jobs).without more others =
    table.without (analyses ++ more) (jobs ++ others) := by
  refine (Table.mk.injEq ..).mpr ⟨filter_map_twice ?_ fun r => r.after_after jobs others, ?_⟩
  · intro r _
    rw [Record.id_after, Bool.eq_iff_iff, Bool.and_eq_true, spared_iff, spared_iff, spared_iff,
      mem_jobsOf_append jobs, not_or, and_comm]
  · exact filter_spared table.current (·.analysis) analyses more

/-- The jobs that are live after a loss are those that were live and that it did not stop. -/
theorem live_without :
    (∃ r ∈ (table.without analyses jobs).records, r.id = job ∧ r.status.isFinal = false) ↔
      (∃ r ∈ table.records, r.id = job ∧ r.status.isFinal = false) ∧
        ¬ (job ∈ table.jobsOf analyses ∨ job ∈ jobs) := by
  simp only [without, List.mem_map, List.mem_filter, spared_iff]
  constructor
  · rintro ⟨_, ⟨r, ⟨hr, stays⟩, rfl⟩, rfl, live⟩
    rw [Record.live_after] at live
    rw [Record.id_after]
    exact ⟨⟨r, hr, rfl, live.1⟩, not_or.2 ⟨stays, live.2⟩⟩
  · rintro ⟨⟨r, hr, rfl, live⟩, stays⟩
    obtain ⟨stays, going⟩ := not_or.1 stays
    exact ⟨_, ⟨r, ⟨hr, stays⟩, rfl⟩, r.id_after jobs, Record.live_after.2 ⟨live, going⟩⟩

theorem stops_append : table.Stops (analyses ++ more) (jobs ++ others) job ↔
    table.Stops analyses jobs job ∨ (table.without analyses jobs).Stops more others job := by
  rw [Stops, Stops, Stops, live_without, mem_jobsOf_append jobs, List.mem_append]
  by_cases first : job ∈ table.jobsOf analyses ∨ job ∈ jobs
  · grind
  · grind

/-- Nothing goes with analyses that have no job, and only a job that is listed is canceled. -/
theorem without_of_missing (idle : ∀ a ∈ analyses, a ∉ keys table.current)
    (missing : ∀ job ∈ jobs, job ∉ keys table.records) :
    table.without analyses jobs = table ∧ ∀ job, ¬ table.Stops analyses jobs job := by
  have stays : ∀ entry ∈ table.current, entry.analysis ∉ analyses := fun entry listed goes =>
    idle _ goes (Roster.key_mem_keys listed)
  have none : table.jobsOf analyses = [] := by
    rw [jobsOf, List.filter_eq_nil_iff.2 fun entry listed => by simpa using stays entry listed]
    rfl
  have going : ∀ record ∈ table.records, record.id ∉ jobs := fun record listed canceled =>
    missing _ canceled (Roster.key_mem_keys listed)
  constructor
  · refine (Table.mk.injEq ..).mpr ⟨?_, ?_⟩
    · rw [none, List.filter_eq_self.2 (by simp)]
      refine Roster.map_eq_self fun record listed => if_neg ?_
      exact fun canceled => going record listed canceled.1
    · exact List.filter_eq_self.2 fun entry listed => by simpa using stays entry listed
  · rintro job ⟨⟨record, listed, rfl, -⟩, goes | canceled⟩
    · exact absurd (none ▸ goes) List.not_mem_nil
    · exact going record listed canceled

theorem Apart.without (h : table.Apart) (analyses : List AnalysisId) (jobs : List JobId) :
    (table.without analyses jobs).Apart := by
  refine ⟨Roster.nodup_keys_filter h.analyses _, ?_⟩
  show (keys ((table.records.filter _).map _)).Nodup
  rw [Roster.keys_map fun r => r.id_after jobs]
  exact Roster.nodup_keys_filter h.jobs _

/-- Dropping the jobs of some analyses leaves what is left without them, and the engine is told to
stop the jobs that are stopped. -/
structure Loses (table : Table) (analyses : List AnalysisId) (jobs : List JobId)
    (result : Table × List Effect) : Prop where
  left : result.1 = table.without analyses jobs
  canceled : ∀ job, .cancel job ∈ result.2 ↔ table.Stops analyses jobs job

theorem Loses.append {t u : Table} {e f all : List Effect}
    (first : table.Loses analyses jobs (t, e)) (second : t.Loses more others (u, f))
    (same : ∀ job, .cancel job ∈ all ↔ .cancel job ∈ e ∨ .cancel job ∈ f) :
    table.Loses (analyses ++ more) (jobs ++ others) (u, all) := by
  obtain rfl : t = _ := first.left
  refine ⟨second.left.trans without_without, fun job => ?_⟩
  rw [same, first.canceled, second.canceled, stops_append]

theorem loses_none (table : Table) : table.Loses [] [] (table, []) := by
  obtain ⟨same, silent⟩ : table.without [] [] = table ∧ _ :=
    without_of_missing (List.forall_mem_nil _) (List.forall_mem_nil _)
  exact ⟨same.symm, fun job => iff_of_false List.not_mem_nil (silent job)⟩

/-- The record of a job tells whether the job is live. -/
theorem Apart.live_iff (h : table.Apart) :
    (∃ r ∈ table.records, r.id = job ∧ r.status.isFinal = false) ↔
      ∃ r, table.get? job = some r ∧ r.status.isFinal = false := by
  simp only [get?, Roster.find?_eq_some_iff h.jobs, and_assoc]
  rfl

/-- An analysis that has a current job goes with this job alone. -/
theorem Apart.jobsOf_current (h : table.Apart) {entry : Current}
    (found : Roster.find? entry.analysis table.current = some entry) :
    table.jobsOf [entry.analysis] = [entry.job] := by
  have one := Roster.filter_key h.analyses (Roster.mem_of_find?_eq_some found)
  have same : (table.current.filter fun other => [entry.analysis].contains other.analysis) =
      [entry] := (List.filter_congr fun other _ => by simp [Keyed.key]).trans one
  rw [jobsOf, same, List.map_singleton]

theorem Apart.loses_retire (h : table.Apart) (analysis : AnalysisId) :
    table.Loses [analysis] [] (table.retire analysis) := by
  cases found : Roster.find? analysis table.current with
  | none =>
    have idle := Roster.find?_eq_none_iff.1 found
    obtain ⟨same, silent⟩ : table.without [analysis] [] = table ∧ _ :=
      without_of_missing (List.forall_mem_singleton.2 idle) (List.forall_mem_nil _)
    rw [retire_of_idle idle]
    exact ⟨same.symm, fun job => iff_of_false List.not_mem_nil (silent job)⟩
  | some entry =>
    obtain rfl : entry.analysis = analysis := Roster.key_of_find?_eq_some found
    have goes := h.jobsOf_current found
    have removed : table.removeFor entry.analysis =
        (⟨Roster.erase entry.job table.records, Roster.erase entry.analysis table.current⟩,
          table.get? entry.job) := by
      rw [removeFor, found]
    constructor
    · rw [retire_fst, removed]
      refine (Table.mk.injEq ..).mpr ⟨?_, List.filter_congr fun other _ => by simp [Keyed.key]⟩
      rw [goes, funext Record.after_nil, List.map_id']
      exact List.filter_congr fun record _ => by simp [Keyed.key]
    · intro job
      rw [retire_snd, removed, Stops, h.live_iff, goes]
      -- Only the current job can be told to stop, and it is if it is live.
      cases current : table.get? entry.job with
      | none =>
        refine iff_of_false List.not_mem_nil ?_
        rintro ⟨⟨record, found, -⟩, stopped⟩
        obtain rfl : job = entry.job := by simpa using stopped
        exact Option.some_ne_none record (found.symm.trans current)
      | some record =>
        have own : record.id = entry.job := Roster.key_of_find?_eq_some current
        cases final : record.status.isFinal with
        | true =>
          refine iff_of_false (by simp [final]) ?_
          rintro ⟨⟨other, found, live⟩, stopped⟩
          obtain rfl : job = entry.job := by simpa using stopped
          rw [Option.some.inj (found.symm.trans current), final] at live
          cases live
        | false =>
          constructor
          · intro canceled
            obtain rfl : job = entry.job := by simpa [final, own] using canceled
            exact ⟨⟨record, current, final⟩, by simp⟩
          · rintro ⟨-, stopped⟩
            obtain rfl : job = entry.job := by simpa using stopped
            simp [final, own]

theorem without_job (table : Table) (job : JobId) : table.without [] [job] =
    { table with records := table.records.map (·.after [job]) } :=
  (Table.mk.injEq ..).mpr ⟨congrArg _ (List.filter_eq_self.2 (by simp [jobsOf])),
    List.filter_eq_self.2 (by simp)⟩

/-- A job that has ended is not canceled any more. -/
theorem Apart.loses_ended (h : table.Apart) {record : Record}
    (found : table.get? record.id = some record) (final : record.status.isFinal = true) :
    table.Loses [] [record.id] (table, []) := by
  have ended : ¬ ∃ r ∈ table.records, r.id = record.id ∧ r.status.isFinal = false := by
    rw [h.live_iff]
    rintro ⟨other, there, live⟩
    rw [Option.some.inj (there.symm.trans found), final] at live
    cases live
  constructor
  · rw [without_job]
    refine congrArg (Table.mk · table.current) (Roster.map_eq_self fun other listed => ?_).symm
    refine if_neg ?_
    rintro ⟨canceled, live⟩
    exact ended ⟨other, listed, List.mem_singleton.1 canceled, live⟩
  · intro job
    refine iff_of_false List.not_mem_nil ?_
    rintro ⟨live, goes⟩
    obtain rfl : job = record.id := by simpa [jobsOf] using goes
    exact ended live

theorem Apart.loses_cancel (h : table.Apart) {record : Record}
    (found : table.get? record.id = some record) (live : record.status.isFinal = false)
    (message : Message) :
    table.Loses [] [record.id]
      ((table.setStatus record.id .canceled).1, [.cancel record.id, .publish message]) := by
  have listed := Roster.mem_of_find?_eq_some found
  have set : (table.setStatus record.id .canceled).1 =
      { table with
        records := Roster.replace { record with status := .canceled } table.records } := by
    simp only [setStatus, found, live]
    rfl
  constructor
  · rw [set, without_job]
    refine congrArg (Table.mk · table.current) (List.map_congr_left fun other there => ?_)
    by_cases same : other.id = record.id
    · obtain rfl := Roster.eq_of_key h.jobs there listed same
      simp [Record.after, Keyed.key, live]
    · simp [Record.after, Keyed.key, same]
  · intro job
    constructor
    · intro canceled
      obtain rfl : job = record.id := by simpa using canceled
      exact ⟨⟨record, listed, rfl, live⟩, .inr List.mem_cons_self⟩
    · rintro ⟨-, goes⟩
      simpa [jobsOf] using goes

theorem Apart.loses_withdrawAnalyses (h : table.Apart) (gone : List Analysis) :
    table.Loses (keys gone) [] (table.withdrawAnalyses gone) := by
  induction gone generalizing table with
  | nil => exact table.loses_none
  | cons a rest ih =>
    have first := h.loses_retire a.id
    have apart : (table.retire a.id).1.Apart := first.left ▸ h.without _ _
    exact first.append (ih apart) (by simp)

theorem Apart.loses_withdraw (h : table.Apart) (gone : List Workspace.Removed) :
    table.Loses (gone.flatMap fun removed => keys removed.analyses) [] (table.withdraw gone) := by
  induction gone generalizing table with
  | nil => exact table.loses_none
  | cons removed rest ih =>
    have first := h.loses_withdrawAnalyses removed.analyses
    have apart : (table.withdrawAnalyses removed.analyses).1.Apart := first.left ▸ h.without _ _
    exact first.append (ih apart) (by simp)

end Table

end Job

/-! ## §2 Links -/

namespace Analysis.Links

variable {π κ : Type} [DecidableEq κ]

/-- What is left of an entry when some children go. -/
def spare (gone : List κ) (entry : π × List κ) : π × List κ :=
  (entry.1, entry.2.filter (spared gone))

theorem spare_spare (gone more : List κ) (entry : π × List κ) :
    spare more (spare gone entry) = spare (gone ++ more) entry :=
  Prod.ext rfl (filter_spared entry.2 (fun child => child) gone more)

theorem spare_of_missing {gone : List κ} {entry : π × List κ} (h : ∀ x ∈ entry.2, x ∉ gone) :
    spare gone entry = entry :=
  Prod.ext rfl (List.filter_eq_self.2 fun x hx => spared_iff.2 (h x hx))

theorem spare_congr {gone more : List κ} (same : ∀ child, child ∈ gone ↔ child ∈ more) :
    (spare gone : π × List κ → π × List κ) = spare more := by
  funext entry
  rw [spare, spare, spared_congr same]

/-- A child of one parent alone goes when it is unlinked from that parent. -/
theorem unlink_eq_map [DecidableEq π] {links : Links π κ} {parent : π} {child : κ}
    (h : ∀ entry ∈ links, entry.1 ≠ parent → child ∉ entry.2) :
    links.unlink parent child = links.map (spare [child]) := by
  refine List.map_congr_left fun entry listed => ?_
  by_cases same : entry.1 = parent
  · have kept : entry.2.filter (· ≠ child) = entry.2.filter (spared [child]) :=
      List.filter_congr fun x _ => (spared_singleton child x).symm
    simp only [same, if_true, spare, kept]
  · have stays : spare [child] entry = entry :=
      spare_of_missing fun x hx e => h entry listed same (List.mem_singleton.1 e ▸ hx)
    simp [same, stays]

end Analysis.Links

/-! ## §3 Workspaces -/

namespace Analysis.Workspace

variable {w w' : Workspace} {compounds more : List CompoundId} {analyses others : List AnalysisId}

/-- What is left when some compound analyses and some analyses go: the stores, the orders and the
links without them. A dataset with no compound analyses is not listed in the index. -/
def without (w : Workspace) (compounds : List CompoundId) (analyses : List AnalysisId) :
    Workspace where
  compounds := (w.compounds.filter fun c => spared compounds c.id).map fun c =>
    c.withOrder (c.details.order.filter (spared analyses))
  analyses := w.analyses.filter fun a => spared analyses a.id
  index :=
    { compounds := (w.index.compounds.filter fun entry =>
        !(Links.spare compounds entry).2.isEmpty).map (Links.spare compounds)
      analyses := (w.index.analyses.filter fun entry => spared compounds entry.1).map
        (Links.spare analyses) }

theorem ext_stores (compounds : w.compounds = w'.compounds) (analyses : w.analyses = w'.analyses)
    (above : w.index.compounds = w'.index.compounds)
    (below : w.index.analyses = w'.index.analyses) : w = w' := by
  obtain ⟨_, _, _, _⟩ := w
  obtain ⟨_, _, _, _⟩ := w'
  simp_all

theorem without_without : (w.without compounds analyses).without more others =
    w.without (compounds ++ more) (analyses ++ others) := by
  refine ext_stores (filter_map_twice ?_ ?_) ?_ (filter_map_twice ?_ ?_) (filter_map_twice ?_ ?_)
  · exact fun c _ => (spared_append ..).symm
  · exact fun c => congrArg c.withOrder (filter_spared c.details.order (fun a => a) analyses others)
  · exact filter_spared w.analyses (·.id) analyses others
  · intro entry _
    rw [← Links.spare_spare]
    -- What is without children after the first loss is so after the second.
    generalize Links.spare compounds entry = left
    obtain ⟨dataset, _ | _⟩ := left <;> simp [Links.spare]
  · exact Links.spare_spare compounds more
  · exact fun entry _ => (spared_append ..).symm
  · exact Links.spare_spare analyses others

/-- The compound analyses that are linked to a dataset are over it. -/
theorem datasetOf_of_linked (h : w.Sound) (tidy : w.Tidy) {entry : DatasetId × List CompoundId}
    (listed : entry ∈ w.index.compounds) {c : CompoundId} (child : c ∈ entry.2) :
    w.datasetOf c = some entry.1 := by
  rw [← h.mem_over, Index.compoundsOf, Links.childrenOf_of_mem tidy.datasets_nodup listed]
  exact child

/-- The analyses that are linked to a compound analysis belong to it. -/
theorem parentOf_of_linked (h : w.Sound) (tidy : w.Tidy) {entry : CompoundId × List AnalysisId}
    (listed : entry ∈ w.index.analyses) {a : AnalysisId} (child : a ∈ entry.2) :
    w.parentOf a = some entry.1 := by
  rw [← h.mem_children, Index.analysesOf, Links.childrenOf_of_mem tidy.compounds_nodup listed]
  exact child

theorem mem_keys_of_datasetOf {c : CompoundId} {d : DatasetId} (h : w.datasetOf c = some d) :
    c ∈ keys w.compounds := by
  obtain ⟨x, found, -⟩ := Option.map_eq_some_iff.1 h
  exact Roster.mem_keys_of_find? found

theorem mem_analyses_of_parentOf {a : AnalysisId} {c : CompoundId} (h : w.parentOf a = some c) :
    a ∈ keys w.analyses := by
  obtain ⟨x, found, -⟩ := Option.map_eq_some_iff.1 h
  exact Roster.mem_keys_of_find? found

/-- An order loses nothing when none of its analyses goes. -/
theorem withOrder_filter (h : w.Sound) {c : Compound} (listed : c ∈ w.compounds)
    (stays : ∀ a, w.parentOf a = some c.id → a ∉ analyses) :
    c.withOrder (c.details.order.filter (spared analyses)) = c := by
  rw [List.filter_eq_self.2 fun a ha => spared_iff.2 (stays a ((mem_order_iff h listed).1 ha))]
  rfl

/-- What is listed with a dataset stays listed if none of its compound analyses goes. -/
theorem filter_compounds (tidy : w.Tidy)
    (stays : ∀ entry ∈ w.index.compounds, ∀ c ∈ entry.2, c ∉ compounds) :
    (w.index.compounds.filter fun entry => !(Links.spare compounds entry).2.isEmpty).map
      (Links.spare compounds) = w.index.compounds := by
  have same : ∀ entry ∈ w.index.compounds, Links.spare compounds entry = entry :=
    fun entry listed => Links.spare_of_missing (stays entry listed)
  rw [List.filter_eq_self.2 fun entry listed => ?_]
  · exact Roster.map_eq_self same
  · rw [same entry listed]
    simpa using tidy.occupied entry listed

theorem without_of_missing (h : w.Sound) (tidy : w.Tidy)
    (absent : ∀ c ∈ compounds, c ∉ keys w.compounds)
    (missing : ∀ a ∈ analyses, a ∉ keys w.analyses) : w.without compounds analyses = w := by
  refine ext_stores ?_ ?_ (filter_compounds tidy ?_) ?_
  · refine (congrArg _ (List.filter_eq_self.2 fun c listed => ?_)).trans
      (Roster.map_eq_self fun c listed => ?_)
    · exact spared_iff.2 fun goes => absent _ goes (Roster.key_mem_keys listed)
    · exact withOrder_filter h listed fun a child goes =>
        missing a goes (mem_analyses_of_parentOf child)
  · exact List.filter_eq_self.2 fun a listed =>
      spared_iff.2 fun goes => missing _ goes (Roster.key_mem_keys listed)
  · intro entry listed c child goes
    exact absent c goes (mem_keys_of_datasetOf (datasetOf_of_linked h tidy listed child))
  · refine (congrArg _ (List.filter_eq_self.2 fun entry listed => ?_)).trans
      (Roster.map_eq_self fun entry listed => ?_)
    · exact spared_iff.2 fun goes =>
        absent _ goes (tidy.existing _ (List.mem_map_of_mem listed))
    · exact Links.spare_of_missing fun a child goes =>
        missing a goes (mem_analyses_of_parentOf (parentOf_of_linked h tidy listed child))

theorem removeAnalysis_left (h : w.Sound) (tidy : w.Tidy) {id : AnalysisId}
    {gone : Analysis × Option Compound} (hok : w.removeAnalysis id = .ok (w', gone)) :
    w' = w.without [] [id] := by
  unfold removeAnalysis at hok
  split at hok
  · rename_i analysis found
    have parent : w.parentOf id = some analysis.compound := by rw [parentOf, found]; rfl
    have l := left_leave h parent (Roster.erase id w.analyses)
    have unlinked : ({ w with analyses := Roster.erase id w.analyses }.leave analysis.compound
        id).1.index = w.index.unlinkAnalysis analysis.compound id := (detach_index _ _ _).1
    generalize { w with analyses := Roster.erase id w.analyses }.leave analysis.compound id = left
      at hok l unlinked
    obtain ⟨rfl, -⟩ := Prod.mk.inj (Except.ok.inj hok)
    refine ext_stores ?_ ?_ ?_ ?_
    · rw [l.compounds, without, List.filter_eq_self.2 (by simp)]
      exact List.map_congr_left fun c _ =>
        congrArg c.withOrder (List.filter_congr fun a _ => by simp)
    · rw [l.analyses]
      exact List.filter_congr fun a _ => by simp [Keyed.key]
    · rw [l.links]
      exact (filter_compounds tidy (by simp)).symm
    · have apart : ∀ entry ∈ w.index.analyses, entry.1 ≠ analysis.compound → id ∉ entry.2 := by
        intro entry listed other child
        have same := parentOf_of_linked h tidy listed child
        exact other (Option.some.inj (same.symm.trans parent))
      rw [unlinked]
      show w.index.analyses.unlink analysis.compound id = (w.index.analyses.filter _).map _
      rw [Links.unlink_eq_map apart, List.filter_eq_self.2 (by simp)]
  · cases hok

theorem removeCompound_left (h : w.Sound) (tidy : w.Tidy) {id : CompoundId} {gone : Removed}
    (hok : w.removeCompound id = .ok (w', gone)) : w' = w.without [id] (keys gone.analyses) := by
  have g := removeCompound_spec h hok
  have children : keys gone.analyses = w.index.analysesOf id := g.removed ▸ keys_children h id
  -- The analyses that go belong to no other compound analysis.
  have stays : ∀ {c a}, w.parentOf a = some c → c ≠ id → a ∉ keys gone.analyses := by
    intro c a parent other goes
    rw [children, h.mem_children, parent] at goes
    exact other (Option.some.inj goes)
  have upper : w.datasetOf id = some gone.compound.dataset := by rw [datasetOf, g.found]; rfl
  have elsewhere : ∀ entry ∈ w.index.compounds, entry.1 ≠ gone.compound.dataset →
      id ∉ entry.2 := by
    intro entry listed other child
    have same := datasetOf_of_linked h tidy listed child
    exact other (Option.some.inj (same.symm.trans upper))
  unfold removeCompound at hok
  rw [g.found] at hok
  obtain ⟨rfl, -⟩ := Prod.mk.inj (Except.ok.inj hok)
  refine ext_stores ?_ ?_ ?_ ?_
  · have kept : Roster.erase id w.compounds = w.compounds.filter fun c => spared [id] c.id :=
      List.filter_congr fun c _ => by simp [Keyed.key]
    refine kept.trans (Roster.map_eq_self fun c listed => ?_).symm
    obtain ⟨listed, other⟩ := List.mem_filter.1 listed
    exact withOrder_filter h listed fun a parent => stays parent (by simpa using other)
  · show w.analyses.filter (fun a => a.id ∉ w.index.analysesOf id) = w.analyses.filter _
    rw [children]
    exact List.filter_congr fun a _ => by simp [spared]
  · have unlinked : w.index.compounds.unlink gone.compound.dataset id =
        w.index.compounds.map (Links.spare [id]) := Links.unlink_eq_map elsewhere
    have apart : (Links.parents (w.index.compounds.map (Links.spare [id]))).Nodup := by
      rw [← unlinked, Links.parents_unlink]
      exact tidy.datasets_nodup
    show (w.index.compounds.unlink gone.compound.dataset id).prune gone.compound.dataset = _
    rw [unlinked, Links.prune_eq_filter apart]
    · exact List.filter_map
    · intro entry listed other
      obtain ⟨old, there, rfl⟩ := List.mem_map.1 listed
      have same : Links.spare [id] old = old := Links.spare_of_missing fun c child goes =>
        elsewhere old there other (List.mem_singleton.1 goes ▸ child)
      rw [same]
      exact tidy.occupied old there
  · have kept : w.index.analyses.drop id =
        w.index.analyses.filter fun entry => spared [id] entry.1 :=
      List.filter_congr fun entry _ => by simp
    refine kept.trans (Roster.map_eq_self fun entry listed => ?_).symm
    obtain ⟨listed, other⟩ := List.mem_filter.1 listed
    exact Links.spare_of_missing fun a child =>
      stays (parentOf_of_linked h tidy listed child) (by simpa using other)

theorem removeEach_left (h : w.Sound) (tidy : w.Tidy) (ids : List CompoundId) :
    (w.removeEach ids).1 =
      w.without ids ((w.removeEach ids).2.flatMap fun gone => keys gone.analyses) := by
  induction ids generalizing w with
  | nil => exact (without_of_missing h tidy (List.forall_mem_nil _) (List.forall_mem_nil _)).symm
  | cons id rest ih =>
    cases found : w.compound? id with
    | none =>
      have same : w.without [id] [] = w := without_of_missing h tidy
        (List.forall_mem_singleton.2 (Roster.find?_eq_none_iff.1 found)) (List.forall_mem_nil _)
      rw [removeEach_of_missing found, ih h tidy]
      exact (congrArg (Workspace.without · rest _) same.symm).trans without_without
    | some c =>
      obtain ⟨next, gone, hok⟩ := removeCompound_of_found found
      have left := removeCompound_left h tidy hok
      have sound := (removeCompound_spec h hok).sound h
      rw [removeEach_of_found hok, ih sound (tidy.removeCompound hok)]
      exact (congrArg (Workspace.without · rest _) left).trans without_without

end Analysis.Workspace

/-! ## §4 Cores -/

/-- Entities that go, and jobs that are canceled. -/
structure Loss where
  datasets : List DatasetId
  compounds : List CompoundId
  analyses : List AnalysisId
  jobs : List JobId

namespace Loss

instance : Append Loss where
  append l m := ⟨l.datasets ++ m.datasets, l.compounds ++ m.compounds, l.analyses ++ m.analyses,
    l.jobs ++ m.jobs⟩

@[simp] theorem datasets_append (l m : Loss) :
    (l ++ m).datasets = l.datasets ++ m.datasets := rfl

@[simp] theorem compounds_append (l m : Loss) :
    (l ++ m).compounds = l.compounds ++ m.compounds := rfl

@[simp] theorem analyses_append (l m : Loss) :
    (l ++ m).analyses = l.analyses ++ m.analyses := rfl

@[simp] theorem jobs_append (l m : Loss) : (l ++ m).jobs = l.jobs ++ m.jobs := rfl

/-- The same is in two losses. -/
structure Same (l m : Loss) : Prop where
  datasets : ∀ d, d ∈ l.datasets ↔ d ∈ m.datasets
  compounds : ∀ c, c ∈ l.compounds ↔ c ∈ m.compounds
  analyses : ∀ a, a ∈ l.analyses ↔ a ∈ m.analyses
  jobs : ∀ j, j ∈ l.jobs ↔ j ∈ m.jobs

end Loss

namespace Core

variable {core : Core} {l m : Loss} {job : JobId}

/-- What is left of a core after a loss. -/
def without (core : Core) (loss : Loss) : Core where
  connection := core.connection
  datasets := ⟨core.datasets.datasets.filter fun d => spared loss.datasets d.id⟩
  workspace := core.workspace.without loss.compounds loss.analyses
  jobs := core.jobs.without loss.analyses loss.jobs

/-- A loss ends a live job. -/
def Stops (core : Core) (loss : Loss) (job : JobId) : Prop :=
  core.jobs.Stops loss.analyses loss.jobs job

/-- A loss after another one is no more than both at once. -/
theorem without_without : (core.without l).without m = core.without (l ++ m) := by
  exact (Core.mk.injEq ..).mpr ⟨rfl,
    congrArg Dataset.Registry.mk
      (filter_spared core.datasets.datasets (·.id) l.datasets m.datasets),
    Workspace.without_without, Job.Table.without_without⟩

theorem stops_append : core.Stops (l ++ m) job ↔
    core.Stops l job ∨ (core.without l).Stops m job :=
  Job.Table.stops_append

/-- Only what is in a loss counts. -/
theorem without_congr (same : l.Same m) : core.without l = core.without m := by
  have workspace : core.workspace.without l.compounds l.analyses =
      core.workspace.without m.compounds m.analyses := by
    simp only [Workspace.without, Links.spare_congr same.compounds,
      Links.spare_congr same.analyses, spared_congr same.compounds, spared_congr same.analyses]
  have jobs : core.jobs.without l.analyses l.jobs = core.jobs.without m.analyses m.jobs := by
    simp only [Job.Table.without, Job.Table.jobsOf_congr same.analyses,
      Job.Record.after_congr same.jobs, spared_congr same.analyses]
  simp only [without, workspace, jobs, spared_congr same.datasets]

theorem stops_congr (same : l.Same m) : core.Stops l job ↔ core.Stops m job := by
  simp only [Stops, Job.Table.Stops, Job.Table.jobsOf_congr same.analyses, same.jobs]

/-- Where nothing of a loss is there, nothing is lost. -/
theorem without_of_missing (h : core.Sound) (tidy : core.workspace.Tidy)
    (datasets : ∀ d ∈ l.datasets, d ∉ core.datasets.ids)
    (compounds : ∀ c ∈ l.compounds, c ∉ keys core.workspace.compounds)
    (analyses : ∀ a ∈ l.analyses, a ∉ keys core.workspace.analyses)
    (jobs : ∀ j ∈ l.jobs, j ∉ keys core.jobs.records) :
    core.without l = core ∧ ∀ job, ¬ core.Stops l job := by
  obtain ⟨same, silent⟩ := core.jobs.without_of_missing
    (fun a goes busy => analyses a goes (h.standing.tracked a busy)) jobs
  refine ⟨(Core.mk.injEq ..).mpr ⟨rfl, congrArg _ ?_, ?_, same⟩, silent⟩
  · exact List.filter_eq_self.2 fun d listed =>
      spared_iff.2 fun goes => datasets _ goes (Roster.key_mem_keys listed)
  · exact Workspace.without_of_missing h.workspace tidy compounds analyses

end Core

end Coordination
