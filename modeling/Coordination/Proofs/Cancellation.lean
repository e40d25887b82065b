/-
Coordination.Proofs.Cancellation — no job is orphaned, and none is stopped twice.

`Proofs/JobStops` says which jobs are stopped when something happens. Over
a whole run this means that the engine is told to stop a job at most once:
the job had a live record then, so it had been accepted, and afterwards it
has none. Nor is a job left behind: what was accepted and has neither been
stopped nor reported its end still has a live record, and a record is the
current job of an analysis that exists.

  §1 Journals  — what stands before and after a cancellation.
  §2 Runs      — `StopsWhenEnded`, `EndReported`, and the theorem.
-/
import Coordination.Proofs.JobInputs
import Coordination.Proofs.JobLife
import Coordination.Proofs.JobStops

namespace Coordination

open Entry (ofEffects)
open Roster (keys)

/-! ## §1 Journals -/

namespace Entry

/-- The jobs that the engine is told to stop, in order. -/
def cancels (journal : List Entry) : List JobId :=
  journal.filterMap fun
    | cancel job => some job
    | _ => none

theorem mem_cancels {journal : List Entry} {job : JobId} :
    job ∈ cancels journal ↔ .cancel job ∈ journal := by
  rw [cancels, List.mem_filterMap]
  constructor
  · rintro ⟨entry, he, hm⟩
    cases entry with
    | cancel other => exact Option.some.inj hm ▸ he
    | _ => cases hm
  · exact fun hm => ⟨_, hm, rfl⟩

theorem mem_starts {journal : List Entry} {request : Job.Request} :
    request ∈ starts journal ↔ ∃ refusal, .start request refusal ∈ journal := by
  rw [starts, List.mem_filterMap]
  constructor
  · rintro ⟨entry, he, hm⟩
    cases entry with
    | start other refusal => exact ⟨refusal, Option.some.inj hm ▸ he⟩
    | _ => cases hm
  · rintro ⟨refusal, hm⟩
    exact ⟨_, hm, rfl⟩

theorem nodup_cancels {journal : List Entry}
    (once : ∀ before job after, journal = before ++ .cancel job :: after → .cancel job ∉ after) :
    (cancels journal).Nodup := by
  induction journal with
  | nil => exact List.nodup_nil
  | cons entry rest ih =>
    have later : (cancels rest).Nodup := by
      refine ih ?_
      intro before job after h
      exact once (entry :: before) job after (by rw [h]; rfl)
    cases entry with
    | cancel job =>
      have first := once [] job rest rfl
      exact List.nodup_cons.2 ⟨fun hm => first (mem_cancels.1 hm), later⟩
    | _ => exact later

/-- The cancellation in a pair of entries that stop a job. -/
theorem of_stop {handle : Job.Handle} {before after : List Entry} {job : JobId}
    (h : stop handle = before ++ .cancel job :: after) :
    before = [] ∧ handle.job = job ∧ after = [.publish (.jobCanceled handle)] := by
  cases before with
  | nil =>
    obtain ⟨first, rest⟩ := List.cons.inj h
    exact ⟨rfl, Entry.cancel.inj first, rest.symm⟩
  | cons entry others =>
    have hm : .cancel job ∈ [Entry.publish (.jobCanceled handle)] := by
      rw [(List.cons.inj h).2]
      simp
    simp at hm

end Entry

section Moves

variable {s t : Standing} {entries journal : List Entry}

/-- A move that stops a job does nothing else. -/
theorem Move.of_cancel (move : Move s entries t) (table : s.jobs.Sound)
    {before after : List Entry} {job : JobId} (h : entries = before ++ .cancel job :: after) :
    ∃ record ∈ s.jobs.records, record.id = job ∧ record.status.isFinal = false ∧
      before = [] ∧ after = [.publish (.jobCanceled record.handle)] ∧ t.jobs.Idle job := by
  have hm : .cancel job ∈ entries := by simp [h]
  cases move with
  | probe | tell | forget => simp at hm
  | report report => simp at hm
  | start request refusal => cases refusal <;> simp [Entry.failure] at hm
  | retire analysis =>
    by_cases hb : analysis ∈ keys s.jobs.current
    · obtain ⟨record, hr, rfl⟩ := table.exists_of_mem_keys hb
      rw [table.retire hr] at h hm ⊢
      by_cases hf : record.status.isFinal = true
      · simp [hf, ofEffects] at hm
      · rw [if_neg hf] at h
        have h : Entry.stop record.handle = before ++ .cancel job :: after := h
        obtain ⟨rfl, rfl, rfl⟩ := Entry.of_stop h
        exact ⟨record, hr, rfl, eq_false_of_ne_true hf, rfl, rfl, Job.Table.idle_erase _ _ _⟩
    · simp [Job.Table.retire_of_idle hb, ofEffects] at hm
  | @cancel record found live =>
    have h : Entry.stop record.handle = before ++ .cancel job :: after := h
    obtain ⟨rfl, rfl, rfl⟩ := Entry.of_stop h
    refine ⟨record, Roster.mem_of_find?_eq_some found, rfl, live, rfl, rfl, ?_⟩
    rw [show record.handle.job = record.id from rfl, Job.Table.setStatus_of_live found live]
    exact Job.Table.idle_replace _ rfl

/-- The moves before a job is stopped, and those after. -/
theorem Moves.of_cancel (moves : Moves s entries t) (h : s.Accounted journal)
    (fresh : Fresh (journal ++ entries)) {before after : List Entry} {job : JobId}
    (he : entries = before ++ .cancel job :: after) :
    ∃ u v rest, ∃ record ∈ u.jobs.records, Moves s before u ∧ record.id = job ∧
      record.status.isFinal = false ∧ after = .publish (.jobCanceled record.handle) :: rest ∧
      v.Accounted (journal ++ before ++ Entry.stop record.handle) ∧ v.jobs.Idle job ∧
      Moves v rest t := by
  induction moves generalizing journal before with
  | refl s => simp at he
  | @step s t w entries more move others ih =>
    rw [← List.append_assoc] at fresh
    have accounted := move.accounted h fresh.of_append
    rcases List.append_eq_append_iff.1 he with ⟨middle, rfl, hm⟩ | ⟨middle, hs, hm⟩
    · obtain ⟨u, v, rest, record, hr, first, found⟩ := ih accounted fresh hm
      refine ⟨u, v, rest, record, hr, .step move first, ?_⟩
      rw [← List.append_assoc]
      exact found
    · cases middle with
      | nil =>
        have hnext : more = [] ++ .cancel job :: after := hm.symm
        obtain ⟨u, v, rest, record, hr, first, found⟩ := ih accounted fresh hnext
        rw [List.append_nil] at hs
        refine ⟨u, v, rest, record, hr, ?_, ?_⟩
        · have together := Moves.step move first
          rwa [List.append_nil, hs] at together
        · rwa [List.append_nil, hs] at found
      | cons entry tail =>
        obtain ⟨rfl, rfl⟩ := List.cons.inj hm
        obtain ⟨record, hr, hid, live, rfl, rfl, stopped⟩ := move.of_cancel h.table hs
        refine ⟨s, t, more, record, hr, .refl s, hid, live, rfl, ?_, stopped, others⟩
        rw [List.append_nil]
        have same : entries = Entry.stop record.handle := by
          rw [hs, ← hid]
          rfl
        rwa [same] at accounted

theorem Core.accounted_empty : (Core.standing {}).Accounted [] := ⟨Job.Table.sound_empty, nofun⟩

/-- A job that was refused does not go on. -/
theorem Moves.idle_of_refused (moves : Moves s entries t) (h : s.Accounted journal)
    (fresh : Fresh (journal ++ entries)) {request : Job.Request} {problem : Job.Problem}
    (refused : .start request (some problem) ∈ entries) : t.jobs.Idle request.job := by
  obtain ⟨before, after, rfl⟩ := List.append_of_mem refused
  obtain ⟨u, rest, first, feeds, idle, rfl, last⟩ := moves.of_start rfl
  rw [← List.append_assoc] at fresh
  have accounted := first.accounted h fresh.of_append
  have unlisted := accounted.unlisted fresh request List.mem_cons_self
  have ended : (u.jobs.handOver request.handle (some problem)).Idle request.job :=
    Job.Table.idle_handOver idle unlisted problem
  rw [← List.cons_append, ← List.append_assoc] at fresh
  have started := (Move.start u request _ feeds idle).accounted accounted fresh.of_append
  have later : ∀ other ∈ Entry.starts rest, other.job ≠ request.job := fun other ho =>
    Ne.symm (fresh.job_ne request (by simp [Entry.starts]) other ho)
  exact (last.idle started fresh later ended).2

/-- A job that goes on was accepted. -/
theorem Moves.accepted (moves : Moves (Core.standing {}) entries t) (fresh : Fresh entries)
    {record : Job.Record} (hr : record ∈ t.jobs.records) (live : record.status.isFinal = false) :
    ∃ request, .start request none ∈ entries ∧ request.handle = record.handle := by
  obtain ⟨request, hm, same, -⟩ := (moves.accounted Core.accounted_empty fresh).supplied record hr
  obtain ⟨refusal, hm⟩ := Entry.mem_starts.1 hm
  cases refusal with
  | none => exact ⟨request, hm, same⟩
  | some problem =>
    have idle := moves.idle_of_refused Core.accounted_empty fresh hm
    have ended := idle record hr (congrArg Job.Handle.job same).symm
    simp [live] at ended

/-- Observers are told that a job is canceled when the engine is told to stop it, or when it
reports. -/
theorem Move.canceled (move : Move s entries t) {handle : Job.Handle}
    (hm : .publish (.jobCanceled handle) ∈ entries) :
    .cancel handle.job ∈ entries ∨ ∃ report, .report report ∈ entries := by
  cases move with
  | probe | forget => simp at hm
  | tell message fits =>
    obtain rfl := Entry.publish.inj (List.mem_singleton.1 hm)
    exact fits.elim
  | retire analysis =>
    rw [Job.Table.retire_snd] at hm ⊢
    split at hm
    · split at hm
      · simp [ofEffects] at hm
      · rename_i record _ live
        obtain rfl : handle = ⟨record.id, analysis⟩ := by
          simpa [ofEffects, Entry.ofEffect, live] using hm
        simp [ofEffects, Entry.ofEffect, live]
    · simp [ofEffects] at hm
  | start request refusal => cases refusal <;> simp [Entry.failure] at hm
  | @cancel record =>
    have same : handle = record.handle := by simpa using hm
    exact .inl (by simp [same, Job.Record.handle])
  | report report => exact .inr ⟨report, List.mem_cons_self⟩

theorem Moves.canceled (moves : Moves s entries t) {handle : Job.Handle}
    (hm : .publish (.jobCanceled handle) ∈ entries) :
    .cancel handle.job ∈ entries ∨ ∃ report, .report report ∈ entries := by
  induction moves with
  | refl s => simp at hm
  | step move rest ih =>
    rcases List.mem_append.1 hm with hm | hm
    · exact (move.canceled hm).imp (List.mem_append_left _)
        fun ⟨report, hr⟩ => ⟨report, List.mem_append_left _ hr⟩
    · exact (ih hm).imp (List.mem_append_right _)
        fun ⟨report, hr⟩ => ⟨report, List.mem_append_right _ hr⟩

end Moves

/-! ## §2 Runs -/

/-- A report on a live job counts. -/
theorem Job.Table.Sound.isSome_apply {table : Table} (h : table.Sound) {report : Report}
    (live : table.isLive report.job = true) : (table.apply report).2.isSome = true := by
  obtain ⟨record, hr, hl⟩ := List.any_eq_true.1 live
  obtain ⟨same, live⟩ : record.id = report.job ∧ record.status.isFinal = false := by
    simpa using hl
  have found : table.get? record.id = some record := Roster.find?_key h.ids_nodup hr
  rw [Table.apply, ← same, setStatus_of_live found live]
  rfl

namespace Core

variable {occurrences : List Occurrence} {job : JobId}

/-- A report is what came in. -/
theorem occur_of_report {core : Core} {occurrence : Occurrence} {before after : List Entry}
    {report : Job.Report} (h : (core.occur occurrence).2 = before ++ .report report :: after) :
    occurrence = .report report ∧ before = [] := by
  have hm : .report report ∈ (core.occur occurrence).2 := by simp [h]
  cases occurrence with
  | command context command => exact absurd hm (Entry.report_not_mem_ofEffects _ _ _)
  | connect spec => exact absurd hm (Entry.report_not_mem_ofEffects _ _ _)
  | register dataset =>
    simp only [occur] at hm
    split at hm
    · exact absurd hm (Entry.report_not_mem_ofEffects _ _ _)
    · simp at hm
  | report other =>
    cases before with
    | nil =>
      have first := (List.cons.inj h).1
      exact ⟨congrArg Occurrence.report (Entry.report.inj first), rfl⟩
    | cons entry rest =>
      have later : .report report ∈ ofEffects accepting (core.applyReport other).effects := by
        rw [(List.cons.inj h).2]
        simp
      exact absurd later (Entry.report_not_mem_ofEffects _ _ _)

theorem report_mem_occur {core : Core} {occurrence : Occurrence} {report : Job.Report}
    (hm : .report report ∈ (core.occur occurrence).2) : occurrence = .report report := by
  obtain ⟨before, after, h⟩ := List.append_of_mem hm
  exact (occur_of_report h).1

/-- A report stands in the journal where it came in. -/
theorem run_of_report {core : Core} {before after : List Entry} {report : Job.Report}
    (h : (core.run occurrences).2 = before ++ .report report :: after) :
    ∃ earlier later, occurrences = earlier ++ .report report :: later ∧
      (core.run earlier).2 = before := by
  induction occurrences generalizing core before with
  | nil => simp [run] at h
  | cons occurrence rest ih =>
    have h : (core.occur occurrence).2 ++ ((core.occur occurrence).1.run rest).2 =
        before ++ .report report :: after := h
    rcases List.append_eq_append_iff.1 h with ⟨middle, rfl, hm⟩ | ⟨middle, hs, hm⟩
    · obtain ⟨earlier, later, rfl, same⟩ := ih hm
      exact ⟨occurrence :: earlier, later, rfl, congrArg _ same⟩
    · cases middle with
      | nil =>
        have hnext : ((core.occur occurrence).1.run rest).2 = [] ++ .report report :: after :=
          hm.symm
        obtain ⟨earlier, later, rfl, same⟩ := ih hnext
        refine ⟨occurrence :: earlier, later, rfl, ?_⟩
        show (core.occur occurrence).2 ++ ((core.occur occurrence).1.run earlier).2 = before
        rw [same, hs, List.append_nil, List.append_nil]
      | cons entry tail =>
        obtain ⟨rfl, -⟩ := List.cons.inj hm
        obtain ⟨rfl, rfl⟩ := occur_of_report hs
        exact ⟨[], rest, rfl, rfl⟩

/-- A job that was stopped had been accepted, and it is stopped once. -/
theorem run_of_cancel (fresh : Fresh (run {} occurrences).2) {before after : List Entry}
    (h : (run {} occurrences).2 = before ++ .cancel job :: after) :
    (∃ request rest, .start request none ∈ before ∧ request.job = job ∧
      after = .publish (.jobCanceled request.handle) :: rest) ∧ .cancel job ∉ after := by
  have moves := (moved_run sound_empty occurrences).moves
  obtain ⟨u, v, rest, record, hr, first, rfl, live, rfl, accounted, idle, last⟩ :=
    moves.of_cancel accounted_empty fresh h
  rw [h] at fresh
  obtain ⟨request, accepted, same⟩ := first.accepted fresh.of_append hr live
  have hid : request.job = record.id := congrArg Job.Handle.job same
  refine ⟨⟨request, rest, accepted, hid, by rw [same]⟩, ?_⟩
  intro hm
  have hm : .cancel record.id ∈ rest := by simpa using hm
  obtain ⟨middle, others, rfl⟩ := List.append_of_mem hm
  have fresh : Fresh (before ++ Entry.stop record.handle ++
      (middle ++ .cancel record.id :: others)) := by
    simpa [Entry.stop, Job.Record.handle] using fresh
  obtain ⟨w, -, -, again, hw, meantime, hsame, lives, -⟩ := last.of_cancel accounted fresh rfl
  have later : ∀ other ∈ Entry.starts middle, other.job ≠ record.id := by
    intro other ho same
    have started : request ∈ Entry.starts (before ++ Entry.stop record.handle) := by
      rw [Entry.starts_append]
      exact List.mem_append_left _ (Entry.mem_starts.2 ⟨none, accepted⟩)
    rw [← List.append_assoc] at fresh
    exact fresh.of_append.job_ne request started other ho (hid.trans same.symm)
  rw [← List.append_assoc] at fresh
  have ended := (meantime.idle accounted fresh.of_append later idle).2 again hw hsame
  simp [lives] at ended

/-- When something happens, the engine is told to stop a job exactly if the core itself ends it. -/
structure StopsWhenEnded (core : Core) (occurrence : Occurrence) (job : JobId) : Prop where
  /-- The job was live, and what happens takes away what it needs or ends it outright. -/
  caused : .cancel job ∈ (core.occur occurrence).2 ↔ ∃ record ∈ core.jobs.records,
    record.id = job ∧ record.status.isFinal = false ∧ core.EndsUpon record occurrence
  /-- The job was live and no longer is, and this was not reported. -/
  ended : .cancel job ∈ (core.occur occurrence).2 ↔ core.jobs.isLive job = true ∧
    (core.occur occurrence).1.jobs.isLive job = false ∧
    ∀ report, occurrence ≠ .report report
  /-- Observers are told that it is canceled, and this was not reported. -/
  told : .cancel job ∈ (core.occur occurrence).2 ↔
    (∃ analysis, .jobCanceled ⟨job, analysis⟩ ∈ Entry.messages (core.occur occurrence).2) ∧
    ∀ report, occurrence ≠ .report report

section Step

variable {core : Core} {journal : List Entry} {occurrence : Occurrence}

/-- A report by itself stops no job. -/
theorem not_report_of_cancel (sound : core.Sound) (table : core.jobs.Sound)
    (hm : .cancel job ∈ (core.occur occurrence).2) : ∀ report, occurrence ≠ .report report := by
  rintro report rfl
  obtain ⟨record, -, -, -, upon⟩ := (cancel_mem_occur sound table _ job).1 hm
  exact upon

/-- A job that is listed is not handed over again. -/
theorem not_started_of_listed (accounted : core.standing.Accounted journal)
    (fresh : Fresh (journal ++ (core.occur occurrence).2)) {record : Job.Record}
    (hr : record ∈ core.jobs.records) :
    ∀ request ∈ Entry.starts (core.occur occurrence).2, request.job ≠ record.id := by
  intro request hq same
  exact accounted.unlisted fresh request hq (same ▸ Roster.key_mem_keys hr)

/-- A job that is stopped was live and no longer is. -/
theorem ended_of_cancel (sound : core.Sound) (accounted : core.standing.Accounted journal)
    (fresh : Fresh (journal ++ (core.occur occurrence).2))
    (hm : .cancel job ∈ (core.occur occurrence).2) :
    core.jobs.isLive job = true ∧ (core.occur occurrence).1.jobs.isLive job = false := by
  have moves := (moved_occur sound occurrence).moves
  obtain ⟨record, hr, rfl, live, -⟩ := (cancel_mem_occur sound accounted.table _ job).1 hm
  refine ⟨Job.Table.Live.isLive ⟨record, hr, rfl, live⟩, ?_⟩
  obtain ⟨first, after, h⟩ := List.append_of_mem hm
  obtain ⟨-, v, rest, stopped, -, -, hid, -, rfl, settled, idle, last⟩ :=
    moves.of_cancel accounted fresh h
  have together : (core.occur occurrence).2 = first ++ Entry.stop stopped.handle ++ rest := by
    rw [h, ← hid]
    simp [Entry.stop, Job.Record.handle]
  have later : ∀ request ∈ Entry.starts rest, request.job ≠ record.id := by
    intro request hq
    have among : request ∈ Entry.starts (core.occur occurrence).2 := by
      rw [together, Entry.starts_append]
      exact List.mem_append_right _ hq
    exact not_started_of_listed accounted fresh hr request among
  rw [together, ← List.append_assoc, ← List.append_assoc] at fresh
  exact (last.idle settled fresh later idle).2.isLive

/-- A job that goes on no longer was stopped, unless this was reported. -/
theorem cancel_of_ended (sound : core.Sound) (accounted : core.standing.Accounted journal)
    (fresh : Fresh (journal ++ (core.occur occurrence).2)) (lives : core.jobs.isLive job = true)
    (gone : (core.occur occurrence).1.jobs.isLive job = false)
    (silent : ∀ report, occurrence ≠ .report report) :
    .cancel job ∈ (core.occur occurrence).2 := by
  have moves := (moved_occur sound occurrence).moves
  obtain ⟨record, hr, hl⟩ := List.any_eq_true.1 lives
  obtain ⟨rfl, live⟩ : record.id = job ∧ record.status.isFinal = false := by simpa using hl
  have follows := (moves.live accounted fresh (not_started_of_listed accounted fresh hr)
    ⟨record, hr, rfl, live⟩).2
  unfold Job.Table.Follows at follows
  split at follows
  · rename_i ended
    obtain ⟨entry, he, ends⟩ := List.any_eq_true.1 ended
    cases entry with
    | report report => exact absurd (report_mem_occur he) (silent report)
    | cancel other =>
      obtain rfl : other = record.id := of_decide_eq_true ends
      exact he
    | probe | start | publish => simp [Entry.ends] at ends
  · have still : (core.occur occurrence).1.jobs.isLive record.id = true := follows.isLive
    simp [still] at gone

/-- Observers are told of a job that is stopped. -/
theorem told_of_cancel (sound : core.Sound) (accounted : core.standing.Accounted journal)
    (fresh : Fresh (journal ++ (core.occur occurrence).2))
    (hm : .cancel job ∈ (core.occur occurrence).2) :
    ∃ analysis, .jobCanceled ⟨job, analysis⟩ ∈ Entry.messages (core.occur occurrence).2 := by
  have moves := (moved_occur sound occurrence).moves
  obtain ⟨first, after, h⟩ := List.append_of_mem hm
  obtain ⟨u, v, rest, record, hr, -, rfl, live, rfl, -⟩ := moves.of_cancel accounted fresh h
  refine ⟨record.analysis, Entry.mem_messages.2 ?_⟩
  rw [h]
  simp [Job.Record.handle]

end Step

theorem stops_when_ended {before : List Occurrence} {occurrence : Occurrence}
    (fresh : Fresh (run {} (before ++ [occurrence])).2) (job : JobId) :
    (run {} before).1.StopsWhenEnded occurrence job := by
  rw [run_concat] at fresh
  have sound := sound_run before
  have accounted := accounted_run before fresh.of_append
  refine ⟨cancel_mem_occur sound accounted.table occurrence job, ⟨?_, ?_⟩, ⟨?_, ?_⟩⟩
  · intro hm
    obtain ⟨lives, gone⟩ := ended_of_cancel sound accounted fresh hm
    exact ⟨lives, gone, not_report_of_cancel sound accounted.table hm⟩
  · rintro ⟨lives, gone, silent⟩
    exact cancel_of_ended sound accounted fresh lives gone silent
  · intro hm
    exact ⟨told_of_cancel sound accounted fresh hm, not_report_of_cancel sound accounted.table hm⟩
  · rintro ⟨⟨analysis, hm⟩, silent⟩
    have moves := (moved_occur sound occurrence).moves
    rcases moves.canceled (Entry.mem_messages.1 hm) with canceled | ⟨report, reported⟩
    · exact canceled
    · exact absurd (report_mem_occur reported) (silent report)

/-- A report on the end of a job came in and counted. -/
def EndReported (occurrences : List Occurrence) (job : JobId) : Prop :=
  ∃ before report after, occurrences = before ++ .report report :: after ∧ report.job = job ∧
    report.phase.status.isFinal = true ∧ ((run {} before).1.jobs.apply report).2.isSome = true

/-- The first report on the end of an accepted job counts, if nothing ended the job before. -/
theorem endReported_of_first (fresh : Fresh (run {} occurrences).2) {request : Job.Request}
    {before earliest others : List Entry} {report : Job.Report}
    (h : (run {} occurrences).2 =
      before ++ .start request none :: (earliest ++ .report report :: others))
    (going : ∀ entry ∈ earliest, Entry.ends request.job entry = false)
    (same : report.job = request.job) (final : report.phase.status.isFinal = true) :
    EndReported occurrences request.job := by
  have split : (run {} occurrences).2 =
      (before ++ .start request none :: earliest) ++ .report report :: others := by
    rw [h, List.append_assoc]
    rfl
  obtain ⟨earlier, later, rfl, journal⟩ := run_of_report split
  have fresh : Fresh (run {} earlier).2 := by
    rw [run_append] at fresh
    exact fresh.of_append
  have silent : earliest.find? (Entry.ends request.job) = none := by
    refine List.find?_eq_none.2 ?_
    intro entry he
    simp [going entry he]
  have live : (run {} earlier).1.jobs.isLive request.job = true := by
    rw [(about_of_start earlier fresh journal).2]
    simp [Entry.lifeClosing, Entry.closing, Job.Request.handle, silent]
  have table := (accounted_run earlier fresh).table
  exact ⟨earlier, report, later, rfl, same, final, table.isSome_apply (same ▸ live)⟩

/-- A job that was accepted, was not stopped and did not report its end goes on. -/
theorem isLive_of_accepted (fresh : Fresh (run {} occurrences).2) {request : Job.Request}
    (accepted : .start request none ∈ (run {} occurrences).2)
    (kept : request.job ∉ Entry.cancels (run {} occurrences).2)
    (unreported : ¬EndReported occurrences request.job) :
    (run {} occurrences).1.jobs.isLive request.job = true := by
  obtain ⟨before, after, h⟩ := List.append_of_mem accepted
  rw [(about_of_start occurrences fresh h).2]
  show (Entry.closing request.handle after).isNone = true
  cases ended : after.find? (Entry.ends request.job) with
  | none => simp [Entry.closing, Job.Request.handle, ended]
  | some entry =>
    -- the first entry that ends the job would be a cancellation or a report that counted
    obtain ⟨ends, earliest, others, rfl, going⟩ := List.find?_eq_some_iff_append.1 ended
    have going : ∀ entry ∈ earliest, Entry.ends request.job entry = false := by
      simpa using going
    cases entry with
    | cancel other =>
      obtain rfl : other = request.job := of_decide_eq_true ends
      exact absurd (Entry.mem_cancels.2 (by simp [h])) kept
    | report report =>
      obtain ⟨same, final⟩ : report.job = request.job ∧ report.phase.status.isFinal = true := by
        simpa [Entry.ends] using ends
      exact absurd (endReported_of_first fresh h going same final) unreported
    | probe | start | publish => simp [Entry.ends] at ends

/-- A job that goes on is the current job of an analysis that exists. -/
theorem current_of_isLive (fresh : Fresh (run {} occurrences).2) {request : Job.Request}
    (accepted : .start request none ∈ (run {} occurrences).2)
    (live : (run {} occurrences).1.jobs.isLive request.job = true) :
    (∃ analysis, (run {} occurrences).1.workspace.analysis? request.analysis = some analysis) ∧
      ∃ record, (run {} occurrences).1.jobs.currentFor request.analysis = some record ∧
        record.handle = request.handle ∧ record.status.isFinal = false := by
  have accounted := accounted_run occurrences fresh
  obtain ⟨record, hr, hl⟩ := List.any_eq_true.1 live
  obtain ⟨same, ongoing⟩ : record.id = request.job ∧ record.status.isFinal = false := by
    simpa using hl
  obtain ⟨other, hm, handle, -⟩ := accounted.supplied record hr
  obtain rfl : other = request :=
    Roster.eq_of_key fresh hm (Entry.mem_starts.2 ⟨none, accepted⟩)
      ((congrArg Job.Handle.job handle).trans same)
  have analysis : record.analysis = other.analysis := congrArg Job.Handle.analysis handle.symm
  rw [← analysis]
  exact ⟨(sound_run occurrences).analysis_of_record accounted.table hr, record,
    accounted.table.currentFor hr, handle.symm, ongoing⟩

/-- In a run in which no two jobs have one identifier, the engine is told to stop a job at most once,
only after it was accepted, and exactly when the core itself ends it. A job that was accepted, was
not stopped and did not report its end is the current job of an analysis that exists. -/
theorem jobs_stopped_when_ended (occurrences : List Occurrence)
    (fresh : Fresh (run {} occurrences).2) :
    (Entry.cancels (run {} occurrences).2).Nodup ∧
    (∀ before job after, (run {} occurrences).2 = before ++ .cancel job :: after →
      ∃ request rest, .start request none ∈ before ∧ request.job = job ∧
        after = .publish (.jobCanceled request.handle) :: rest) ∧
    (∀ before occurrence after, occurrences = before ++ occurrence :: after →
      ∀ job, (run {} before).1.StopsWhenEnded occurrence job) ∧
    ∀ request, .start request none ∈ (run {} occurrences).2 →
      request.job ∉ Entry.cancels (run {} occurrences).2 →
      ¬EndReported occurrences request.job →
      (∃ analysis, (run {} occurrences).1.workspace.analysis? request.analysis = some analysis) ∧
      ∃ record, (run {} occurrences).1.jobs.currentFor request.analysis = some record ∧
        record.handle = request.handle ∧ record.status.isFinal = false := by
  refine ⟨Entry.nodup_cancels fun _ _ _ h => (run_of_cancel fresh h).2,
    fun _ _ _ h => (run_of_cancel fresh h).1, ?_, ?_⟩
  · rintro before occurrence after rfl job
    refine stops_when_ended ?_ job
    rw [← List.singleton_append, ← List.append_assoc, run_append] at fresh
    exact fresh.of_append
  · intro request accepted kept unreported
    exact current_of_isLive fresh accepted (isLive_of_accepted fresh accepted kept unreported)

/-- In `rerun` the second start stops the first job, and the second job goes on. -/
theorem jobs_stopped_when_ended_rerun :
    let again := Occurrence.plain 2 (.runAnalysis (.ofNat 1))
    let start := (run {} (Occurrence.rerun.take 6)).1
    Fresh (run {} Occurrence.rerun).2 ∧
      Entry.cancels (run {} Occurrence.rerun).2 = [.ofNat 1] ∧
      start.StopsWhenEnded again (.ofNat 1) ∧ .cancel (.ofNat 1) ∈ (start.occur again).2 ∧
      ∃ record, (run {} Occurrence.rerun).1.jobs.currentFor (.ofNat 1) = some record ∧
        record.handle = ⟨.ofNat 2, .ofNat 1⟩ ∧ record.status.isFinal = false := by
  have fresh : Fresh (run {} Occurrence.rerun).2 := by decide
  obtain ⟨-, -, stops, current⟩ := jobs_stopped_when_ended Occurrence.rerun fresh
  let request : Job.Request := ⟨.ofNat 2, .ofNat 1,
    ⟨.ofNat 1, .memory ⟨.uint8, [8, 8], [4, 4]⟩, [4, 4, 8, 8]⟩, ⟨.sumFrames, .empty⟩⟩
  have unreported : ¬EndReported Occurrence.rerun request.job := by
    rintro ⟨before, report, after, h, same, final, -⟩
    have hm : .report report ∈ Occurrence.rerun := by simp [h]
    simp only [Occurrence.rerun, Occurrence.plain, List.mem_cons, reduceCtorEq, false_or,
      Occurrence.report.injEq, List.not_mem_nil, or_false] at hm
    rcases hm with rfl | rfl | rfl
    · cases final
    · exact absurd same (by decide)
    · cases final
  have tenth : (run {} Occurrence.rerun).2[10]? = some (.start request none) := rfl
  have accepted := List.mem_of_getElem? tenth
  refine ⟨fresh, rfl, stops _ _ (Occurrence.rerun.drop 7) rfl (.ofNat 1), List.mem_cons_self, ?_⟩
  exact (current request accepted (by decide) unreported).2

end Core

end Coordination
