/-
Coordination.Proofs.JobTable — the jobs that a core holds.

The table keeps the records and, beside them, which job is the current one
of each analysis. As long as no two jobs come under one identifier, the
second list says nothing that the first does not say: every record is the
current job of its analysis (`Table.Sound`). Without that assumption a new
job may take the record of another one and the lists drift apart.

`Standing.Accounted` goes further and says where the records come from:
each is of a job that was handed over, and what was handed over with it is
still what the analysis asks for.

  §1 Table      — `Table.Sound`, and each operation on a sound table.
  §2 Accounted  — `Standing.Accounted`.
  §3 Moves      — kept by every move, hence by every run.
-/
import Coordination.Proofs.Batch

namespace Coordination

open Roster (keys)

/-! ## §1 Table -/

namespace Job

/-- The entry that makes a record the current one of its analysis. -/
def Record.toCurrent (record : Record) : Current := ⟨record.analysis, record.id⟩

namespace Table

/-- Every record is the current job of its analysis. -/
structure Sound (table : Table) : Prop where
  current : table.current = table.records.map Record.toCurrent
  ids_nodup : (keys table.records).Nodup
  analyses_nodup : (keys table.current).Nodup

variable {table : Table}

theorem sound_empty : ({} : Table).Sound := ⟨rfl, List.nodup_nil, List.nodup_nil⟩

theorem Sound.mem_keys_current (h : table.Sound) {record : Record} (hr : record ∈ table.records) :
    record.analysis ∈ keys table.current := by
  rw [h.current]
  exact Roster.mem_keys.2 ⟨record.toCurrent, List.mem_map_of_mem hr, rfl⟩

theorem Sound.exists_of_mem_keys (h : table.Sound) {analysis : AnalysisId}
    (ha : analysis ∈ keys table.current) : ∃ record ∈ table.records, record.analysis = analysis := by
  rw [h.current] at ha
  obtain ⟨entry, he, rfl⟩ := Roster.mem_keys.1 ha
  obtain ⟨record, hr, rfl⟩ := List.mem_map.1 he
  exact ⟨record, hr, rfl⟩

theorem Sound.eq_of_analysis (h : table.Sound) {r q : Record} (hr : r ∈ table.records)
    (hq : q ∈ table.records) (same : r.analysis = q.analysis) : r = q := by
  have entries : r.toCurrent = q.toCurrent :=
    Roster.eq_of_key h.analyses_nodup (h.current ▸ List.mem_map_of_mem hr)
      (h.current ▸ List.mem_map_of_mem hq) same
  exact Roster.eq_of_key h.ids_nodup hr hq (congrArg Current.job entries)

/-- Dropping the job of an analysis drops its record and nothing else. -/
theorem Sound.removeFor (h : table.Sound) {record : Record} (hr : record ∈ table.records) :
    table.removeFor record.analysis =
      (⟨Roster.erase record.id table.records, Roster.erase record.analysis table.current⟩,
        some record) := by
  have found : Roster.find? record.analysis table.current = some record.toCurrent :=
    Roster.find?_key h.analyses_nodup (h.current ▸ List.mem_map_of_mem hr)
  unfold Table.removeFor
  rw [found]
  exact congrArg (Prod.mk _) (Roster.find?_key h.ids_nodup hr)

theorem Sound.retire (h : table.Sound) {record : Record} (hr : record ∈ table.records) :
    table.retire record.analysis =
      (⟨Roster.erase record.id table.records, Roster.erase record.analysis table.current⟩,
        if record.status.isFinal then []
        else [.cancel record.id, .publish (.jobCanceled record.handle)]) := by
  unfold Table.retire
  rw [h.removeFor hr]
  rfl

/-- Nothing is dropped for an analysis that has no job. -/
theorem removeFor_of_idle {analysis : AnalysisId} (idle : analysis ∉ keys table.current) :
    table.removeFor analysis = (table, none) := by
  rw [Table.removeFor, Roster.find?_eq_none_iff.2 idle]

theorem retire_of_idle {analysis : AnalysisId} (idle : analysis ∉ keys table.current) :
    table.retire analysis = (table, []) := by
  rw [Table.retire, removeFor_of_idle idle]

theorem Sound.erase (h : table.Sound) {record : Record} (hr : record ∈ table.records) :
    Sound ⟨Roster.erase record.id table.records, Roster.erase record.analysis table.current⟩ where
  current := by
    show Roster.erase record.analysis table.current = _
    rw [h.current, Roster.erase, List.filter_map]
    refine congrArg (List.map _) (List.filter_congr ?_)
    intro q hq
    refine decide_eq_decide.2 (not_congr ⟨?_, ?_⟩)
    · intro e
      exact congrArg Record.id (h.eq_of_analysis hq hr e)
    · intro e
      exact congrArg Record.analysis (Roster.eq_of_key h.ids_nodup hq hr e)
  ids_nodup := Roster.nodup_keys_erase h.ids_nodup _
  analyses_nodup := Roster.nodup_keys_erase h.analyses_nodup _

/-- A job with a new identifier, for an analysis that has none, is listed last. -/
theorem insert_of_idle {handle : Handle} (idle : handle.analysis ∉ keys table.current)
    (fresh : handle.job ∉ keys table.records) :
    (table.insert handle).1 =
      ⟨table.records ++ [⟨handle.job, handle.analysis, .created⟩],
        table.current ++ [⟨handle.analysis, handle.job⟩]⟩ := by
  rw [Table.insert, removeFor_of_idle idle]
  exact congrArg (Table.mk · _) (congrArg (· ++ _) (Roster.erase_eq_self fresh))

theorem Sound.insert (h : table.Sound) {handle : Handle}
    (idle : handle.analysis ∉ keys table.current) (fresh : handle.job ∉ keys table.records) :
    (table.insert handle).1.Sound := by
  rw [insert_of_idle idle fresh]
  refine ⟨?_, Roster.nodup_keys_concat h.ids_nodup fresh,
    Roster.nodup_keys_concat h.analyses_nodup idle⟩
  rw [List.map_append, ← h.current]
  rfl

/-- A live job goes to a status. -/
theorem setStatus_of_live {record : Record} (found : table.get? record.id = some record)
    (live : record.status.isFinal = false) (status : Status) :
    table.setStatus record.id status =
      ({ table with records := Roster.replace { record with status := status } table.records },
        some { record with status := status }) := by
  rw [Table.setStatus, found]
  exact if_neg (ne_true_of_eq_false live)

/-- A job that is unknown or has ended stays as it is. -/
theorem setStatus_of_not_live {job : JobId}
    (ended : ∀ record, table.get? job = some record → record.status.isFinal = true)
    (status : Status) : table.setStatus job status = (table, none) := by
  unfold Table.setStatus
  cases hg : table.get? job with
  | none => rfl
  | some record => exact if_pos (ended record hg)

theorem Sound.replace (h : table.Sound) {record : Record} (hr : record ∈ table.records)
    (status : Status) :
    Sound { table with
      records := Roster.replace { record with status := status } table.records } where
  current := by
    rw [h.current]
    exact (Roster.map_replace h.ids_nodup hr { record with status := status } rfl rfl).symm
  ids_nodup := Roster.nodup_keys_replace h.ids_nodup _
  analyses_nodup := h.analyses_nodup

theorem Sound.setStatus (h : table.Sound) (job : JobId) (status : Status) :
    (table.setStatus job status).1.Sound := by
  unfold Table.setStatus
  cases hg : table.get? job with
  | none => exact h
  | some record =>
    dsimp only
    split
    · exact h
    · exact h.replace (Roster.mem_of_find?_eq_some hg) status

/-- A change of status leaves it as it was which job runs which analysis. -/
theorem handles_setStatus (h : table.Sound) (job : JobId) (status : Status) :
    (table.setStatus job status).1.records.map Record.handle =
      table.records.map Record.handle := by
  unfold Table.setStatus
  cases hg : table.get? job with
  | none => rfl
  | some record =>
    dsimp only
    split
    · rfl
    · have hr := Roster.mem_of_find?_eq_some hg
      exact Roster.map_replace h.ids_nodup hr { record with status := status } rfl rfl

theorem id_of_setStatus {job : JobId} {status : Status} {record : Record}
    (h : (table.setStatus job status).2 = some record) : record.id = job := by
  unfold Table.setStatus at h
  cases hg : table.get? job with
  | none => simp [hg] at h
  | some old =>
    simp only [hg] at h
    split at h
    · cases h
    · obtain rfl := Option.some.inj h
      exact Roster.key_of_find?_eq_some hg

/-- A record that changed its status is listed. -/
theorem mem_of_setStatus {next : Table} {job : JobId} {status : Status} {record : Record}
    (h : table.setStatus job status = (next, some record)) : record ∈ next.records := by
  unfold Table.setStatus at h
  cases hg : table.get? job with
  | none => simp only [hg] at h; exact nomatch (Prod.mk.inj h).2
  | some old =>
    simp only [hg] at h
    split at h
    · exact nomatch (Prod.mk.inj h).2
    · obtain ⟨rfl, hr⟩ := Prod.mk.inj h
      obtain rfl := Option.some.inj hr
      refine List.mem_map.2 ⟨old, Roster.mem_of_find?_eq_some hg, ?_⟩
      exact if_pos rfl

end Table

end Job

/-! ## §2 Accounted -/

namespace Standing

/-- A job was handed over, with what its analysis asks for now. -/
def Supplied (s : Standing) (journal : List Entry) (handle : Job.Handle) : Prop :=
  ∃ request ∈ Entry.starts journal, request.handle = handle ∧ s.Feeds request

/-- The jobs that are held are sound, and all are supplied. -/
structure Accounted (s : Standing) (journal : List Entry) : Prop where
  table : s.jobs.Sound
  supplied : ∀ record ∈ s.jobs.records, s.Supplied journal record.handle

variable {s : Standing} {journal : List Entry}

/-- A message that may go out does not concern what a current job was started with. -/
theorem Feeds.hear {request : Job.Request} (feeds : s.Feeds request) {message : Message}
    (fits : s.Fits message) (busy : request.analysis ∈ keys s.jobs.current) :
    Feeds { s with replica := s.replica.hear message } request := by
  obtain ⟨analysis, found, details, data⟩ := feeds
  have there := Roster.mem_of_find?_eq_some found
  cases message with
  | initialState | jobStarted | taskResult | jobFinished | jobCanceled | jobFailed => exact fits.elim
  | connected | disconnected | compoundCreated | compoundUpdated | compoundRemoved =>
    exact ⟨analysis, found, details, data⟩
  | datasetCreated id dataset =>
    obtain ⟨-, rfl, -, unused⟩ := fits
    refine ⟨analysis, found, details, (Roster.find?_renew _ dataset _).trans ?_⟩
    exact (if_neg (unused analysis there)).trans data
  | datasetDeleted id =>
    obtain ⟨-, -, unused⟩ := fits
    refine ⟨analysis, found, details, (Roster.find?_erase _ id _).trans ?_⟩
    exact (if_neg (unused analysis there)).trans data
  | analysisCreated id compound dataset new =>
    refine ⟨analysis, (Roster.find?_append _ _ _).trans ?_, details, data⟩
    rw [found]
    rfl
  | analysisUpdated id compound dataset new =>
    obtain ⟨-, -, -, idle⟩ := fits
    have other : request.analysis ≠ id := fun e => idle (e ▸ busy)
    refine ⟨analysis, (Roster.find?_replace _ _ _).trans ?_, details, data⟩
    exact (if_neg other).trans found
  | analysisRemoved id =>
    obtain ⟨-, idle⟩ := fits
    have other : request.analysis ≠ id := fun e => idle (e ▸ busy)
    refine ⟨analysis, (Roster.find?_erase _ id _).trans ?_, details, data⟩
    exact (if_neg other).trans found

theorem Supplied.append {handle : Job.Handle} (h : s.Supplied journal handle)
    (more : List Entry) : s.Supplied (journal ++ more) handle := by
  obtain ⟨request, hr, same, feeds⟩ := h
  refine ⟨request, ?_, same, feeds⟩
  rw [Entry.starts_append]
  exact List.mem_append_left _ hr

/-- Jobs that are held under an earlier handle are still supplied. -/
theorem Accounted.of_jobs (h : s.Accounted journal) {jobs : Job.Table} (table : jobs.Sound)
    (handles : ∀ record ∈ jobs.records, record.handle ∈ s.jobs.records.map Job.Record.handle)
    (more : List Entry) : Accounted { s with jobs := jobs } (journal ++ more) where
  table := table
  supplied record hr := by
    obtain ⟨old, hold, same⟩ := List.mem_map.1 (handles record hr)
    exact same ▸ (h.supplied old hold).append more

theorem Accounted.setStatus (h : s.Accounted journal) (job : JobId) (status : Job.Status)
    (more : List Entry) :
    Accounted { s with jobs := (s.jobs.setStatus job status).1 } (journal ++ more) := by
  refine h.of_jobs (h.table.setStatus job status) ?_ more
  intro record hr
  rw [← Job.Table.handles_setStatus h.table job status]
  exact List.mem_map_of_mem hr

end Standing

/-! ## §3 Moves -/

theorem Job.Table.Sound.handOver {table : Table} (h : table.Sound) {handle : Handle}
    (idle : handle.analysis ∉ keys table.current) (fresh : handle.job ∉ keys table.records)
    (refusal : Option Problem) : (table.handOver handle refusal).Sound := by
  cases refusal with
  | none => exact h.insert idle fresh
  | some problem => exact (h.insert idle fresh).setStatus handle.job .error

/-- A job that was handed over is listed last, also if the engine refused it. -/
theorem Job.Table.Sound.handles_handOver {table : Table} (h : table.Sound) {handle : Handle}
    (idle : handle.analysis ∉ keys table.current) (fresh : handle.job ∉ keys table.records)
    (refusal : Option Problem) : (table.handOver handle refusal).records.map Record.handle =
      table.records.map Record.handle ++ [handle] := by
  have inserted : (table.insert handle).1.records.map Record.handle =
      table.records.map Record.handle ++ [handle] := by
    rw [insert_of_idle idle fresh, List.map_append]
    rfl
  cases refusal with
  | none => exact inserted
  | some problem => exact (handles_setStatus (h.insert idle fresh) handle.job .error).trans inserted

/-- A new identifier is not listed, since every listed job was handed over before. -/
theorem Standing.Accounted.unlisted {s : Standing} {journal entries : List Entry}
    (h : s.Accounted journal) (fresh : Fresh (journal ++ entries)) :
    ∀ request ∈ Entry.starts entries, request.job ∉ keys s.jobs.records := by
  intro request hq hm
  obtain ⟨record, hr, same⟩ := Roster.mem_keys.1 hm
  obtain ⟨earlier, he, handle, -⟩ := h.supplied record hr
  exact fresh.job_ne earlier he request hq ((congrArg Job.Handle.job handle).trans same)

theorem Move.accounted {s t : Standing} {entries journal : List Entry} (move : Move s entries t)
    (h : s.Accounted journal) (fresh : Fresh (journal ++ entries)) :
    t.Accounted (journal ++ entries) := by
  cases move with
  | probe address => exact h.of_jobs h.table (fun record hr => List.mem_map_of_mem hr) _
  | tell message fits =>
    refine ⟨h.table, ?_⟩
    intro record hr
    obtain ⟨request, hm, same, feeds⟩ := h.supplied record hr
    have busy : request.analysis ∈ keys s.jobs.current := by
      rw [show request.analysis = record.analysis from congrArg Job.Handle.analysis same]
      exact h.table.mem_keys_current hr
    exact .append ⟨request, hm, same, feeds.hear fits busy⟩ _
  | retire analysis =>
    by_cases hb : analysis ∈ keys s.jobs.current
    · obtain ⟨record, hr, rfl⟩ := h.table.exists_of_mem_keys hb
      rw [h.table.retire hr]
      refine h.of_jobs (h.table.erase hr) ?_ _
      intro q hq
      exact List.mem_map_of_mem (List.mem_filter.1 hq).1
    · rw [Job.Table.retire_of_idle hb]
      exact h.of_jobs h.table (fun record hr => List.mem_map_of_mem hr) _
  | start request refusal feeds idle =>
    have unlisted := h.unlisted fresh request List.mem_cons_self
    have handles : _ = s.jobs.records.map Job.Record.handle ++ [request.handle] :=
      h.table.handles_handOver idle unlisted refusal
    refine ⟨h.table.handOver idle unlisted refusal, ?_⟩
    intro record hr
    have hm : record.handle ∈ s.jobs.records.map Job.Record.handle ++ [request.handle] :=
      handles ▸ List.mem_map_of_mem hr
    rcases List.mem_append.1 hm with hm | hm
    · obtain ⟨old, hold, same⟩ := List.mem_map.1 hm
      exact same ▸ (h.supplied old hold).append _
    · refine ⟨request, ?_, (List.mem_singleton.1 hm).symm, feeds⟩
      rw [Entry.starts_append]
      exact List.mem_append_right _ List.mem_cons_self
  | cancel => exact h.setStatus _ _ _
  | report report => exact h.setStatus _ _ _
  | forget => exact ⟨Job.Table.sound_empty, nofun⟩

theorem Moves.accounted {s t : Standing} {entries : List Entry} (moves : Moves s entries t)
    {journal : List Entry} (h : s.Accounted journal) (fresh : Fresh (journal ++ entries)) :
    t.Accounted (journal ++ entries) :=
  invariant (P := fun s journal => Fresh journal → s.Accounted journal)
    (fun h move fresh => move.accounted (h fresh.of_append) fresh) journal (fun _ => h) moves fresh

/-- The jobs of a core are accounted for after every run whose jobs have identifiers of their
own. -/
theorem Core.accounted_run (occurrences : List Occurrence)
    (fresh : Fresh (Core.run {} occurrences).2) :
    (Core.run {} occurrences).1.standing.Accounted (Core.run {} occurrences).2 := by
  have start : (Core.standing {}).Accounted [] := ⟨Job.Table.sound_empty, nofun⟩
  exact (moved_run sound_empty occurrences).moves.accounted start fresh

end Coordination
