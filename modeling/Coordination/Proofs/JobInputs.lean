/-
Coordination.Proofs.JobInputs — no job runs on stale inputs.

A job gets its inputs when it is handed over and never again: the
parameters of its analysis and the dataset. Five kinds of commands change
inputs, and each drops the jobs that this makes stale. So the inputs of
every job that is still listed are the current ones, and since reports
count for listed jobs only, so are the inputs of every job whose progress
or result is published.

  §1 Progress  — progress is published on reports only, and on listed jobs only.
  §2 Inputs    — `Core.RunsOnCurrent`, for listed jobs and for published progress.
-/
import Coordination.Proofs.JobTable

namespace Coordination

open Entry (ofEffects)

instance : Keyed Job.Request JobId := ⟨Job.Request.job⟩

/-! ## §1 Progress -/

/-- The job that a message says has started, gone on or finished. -/
def Message.progressOf? : Message → Option Job.Handle
  | .jobStarted handle => some handle
  | .taskResult handle _ _ => some handle
  | .jobFinished handle _ => some handle
  | _ => none

theorem Message.progressOf?_ofPhase {handle other : Job.Handle} {phase : Job.Phase}
    (h : (ofPhase handle phase).progressOf? = some other) : handle = other := by
  cases phase with
  | started | progress | finished => exact Option.some.inj h
  | errored | canceled => exact nomatch h

/-- A message about an entity is not about a job. -/
theorem Standing.Fits.progressOf? {s : Standing} {message : Message} (fits : s.Fits message) :
    message.progressOf? = none := by
  cases message with
  | jobStarted | taskResult | jobFinished => exact fits.elim
  | _ => rfl

namespace Entry

theorem mem_messages {journal : List Entry} {message : Message} :
    message ∈ messages journal ↔ .publish message ∈ journal := by
  rw [messages, List.mem_filterMap]
  constructor
  · rintro ⟨entry, he, hm⟩
    cases entry with
    | publish other => exact Option.some.inj hm ▸ he
    | _ => exact nomatch hm
  · exact fun hm => ⟨_, hm, rfl⟩

theorem report_not_mem_ofEffects (answer : Core.EngineAnswer) (effects : List Effect)
    (report : Job.Report) : .report report ∉ ofEffects answer effects := by
  intro hm
  obtain ⟨effect, -, he⟩ := List.mem_map.1 hm
  cases effect <;> exact nomatch he

/-- Where a job is stopped, no progress is published. -/
theorem progressOf?_of_mem_stop {message : Message} {job : JobId} {handle : Job.Handle}
    (hm : .publish message ∈ [cancel job, publish (.jobCanceled handle)]) :
    message.progressOf? = none := by
  simp only [List.mem_cons, reduceCtorEq, Entry.publish.injEq, List.not_mem_nil, false_or,
    or_false] at hm
  rw [hm]
  rfl

end Entry

/-- Progress is published when the engine reports. -/
theorem Move.reported {s t : Standing} {entries : List Entry} (move : Move s entries t)
    {message : Message} (hm : .publish message ∈ entries) {handle : Job.Handle}
    (progress : message.progressOf? = some handle) : ∃ report, .report report ∈ entries := by
  cases move with
  | probe => simp at hm
  | tell other fits =>
    obtain rfl := Entry.publish.inj (List.mem_singleton.1 hm)
    exact absurd (fits.progressOf?.symm.trans progress) nofun
  | retire analysis =>
    rw [Job.Table.retire_snd] at hm
    split at hm
    · split at hm
      · exact nomatch hm
      · cases (Entry.progressOf?_of_mem_stop hm).symm.trans progress
    · exact nomatch hm
  | start request refusal =>
    rcases List.mem_cons.1 hm with hm | hm
    · exact nomatch hm
    · cases refusal with
      | none => exact nomatch hm
      | some problem =>
        obtain rfl := Entry.publish.inj (List.mem_singleton.1 hm)
        exact nomatch progress
  | cancel =>
    cases (Entry.progressOf?_of_mem_stop hm).symm.trans progress
  | report report => exact ⟨report, List.mem_cons_self⟩
  | forget => exact nomatch hm

theorem Moves.reported {s t : Standing} {entries : List Entry} (moves : Moves s entries t)
    {message : Message} (hm : .publish message ∈ entries) {handle : Job.Handle}
    (progress : message.progressOf? = some handle) : ∃ report, .report report ∈ entries := by
  induction moves with
  | refl s => exact nomatch hm
  | step move rest ih =>
    rcases List.mem_append.1 hm with hm | hm
    · obtain ⟨report, hr⟩ := move.reported hm progress
      exact ⟨report, List.mem_append_left _ hr⟩
    · obtain ⟨report, hr⟩ := ih hm
      exact ⟨report, List.mem_append_right _ hr⟩

namespace Core

variable {core : Core}

/-- Progress of a job is published when something is reported, and the job is listed then, before
and after. -/
theorem Sound.listed_of_progress (h : core.Sound) (table : core.jobs.Sound)
    {occurrence : Occurrence} {message : Message}
    (hm : message ∈ Entry.messages (core.occur occurrence).2) {handle : Job.Handle}
    (progress : message.progressOf? = some handle) :
    (∃ r ∈ core.jobs.records, r.handle = handle) ∧
      ∃ r ∈ (core.occur occurrence).1.jobs.records, r.handle = handle := by
  have hm := Entry.mem_messages.1 hm
  have unreported : (∃ answer effects, (core.occur occurrence).2 = ofEffects answer effects) →
      False := by
    rintro ⟨answer, effects, he⟩
    obtain ⟨report, hr⟩ := (moved_occur h occurrence).moves.reported hm progress
    exact Entry.report_not_mem_ofEffects answer effects report (he ▸ hr)
  cases occurrence with
  | command context command => exact (unreported ⟨_, _, rfl⟩).elim
  | connect spec => exact (unreported ⟨_, _, rfl⟩).elim
  | register dataset =>
    refine (unreported ?_).elim
    simp only [occur]
    split
    · exact ⟨_, _, rfl⟩
    · exact ⟨accepting, [], rfl⟩
  | report report =>
    have handles := Job.Table.handles_setStatus table report.job report.phase.status
    cases ha : core.jobs.apply report with
    | mk jobs found =>
      rw [show core.jobs.setStatus _ _ = _ from ha] at handles
      cases found with
      | none => simp [occur, applyReport, ha, ofEffects] at hm
      | some record =>
        have listed := Job.Table.mem_of_setStatus ha
        simp only [occur, applyReport, ha, ofEffects, List.map, Entry.ofEffect, List.mem_cons,
          reduceCtorEq, false_or, List.not_mem_nil, or_false, Entry.publish.injEq] at hm ⊢
        obtain rfl := Message.progressOf?_ofPhase (hm ▸ progress)
        have before : record.handle ∈ core.jobs.records.map Job.Record.handle :=
          handles ▸ List.mem_map_of_mem listed
        exact ⟨List.mem_map.1 before, record, listed, rfl⟩

/-! ## §2 Inputs -/

/-- A job was handed over once, with the parameters that its analysis has and the dataset that is
registered under the identifier that its analysis refers to. -/
def RunsOnCurrent (core : Core) (journal : List Entry) (handle : Job.Handle) : Prop :=
  ∃ request analysis, ((Entry.starts journal).filter fun r => r.job = handle.job) = [request] ∧
    request.analysis = handle.analysis ∧
    core.workspace.analysis? handle.analysis = some analysis ∧
    analysis.details = request.details ∧
    core.datasets.get? analysis.dataset = some request.dataset

/-- A job that is supplied runs on current inputs, if no job has its identifier besides. -/
theorem runsOnCurrent_of_supplied {journal : List Entry} (fresh : Fresh journal)
    {handle : Job.Handle} (h : core.standing.Supplied journal handle) :
    core.RunsOnCurrent journal handle := by
  obtain ⟨request, hm, rfl, analysis, found, details, data⟩ := h
  exact ⟨request, analysis, Roster.filter_key fresh hm, rfl, found, details, data⟩

theorem runsOnCurrent_of_listed {occurrences : List Occurrence}
    (fresh : Fresh (run {} occurrences).2) {record : Job.Record}
    (hr : record ∈ (run {} occurrences).1.jobs.records) :
    (run {} occurrences).1.RunsOnCurrent (run {} occurrences).2 record.handle :=
  runsOnCurrent_of_supplied fresh ((accounted_run occurrences fresh).supplied record hr)

/-- In a run in which no two jobs have one identifier, every job that is listed runs on current
inputs, and so does every job whose progress or result is published, both before and after what it
is published upon. -/
theorem jobs_run_on_current_inputs (occurrences : List Occurrence)
    (fresh : Fresh (run {} occurrences).2) :
    (∀ record ∈ (run {} occurrences).1.jobs.records,
      (run {} occurrences).1.RunsOnCurrent (run {} occurrences).2 record.handle) ∧
    ∀ before occurrence after, occurrences = before ++ occurrence :: after →
      ∀ message ∈ Entry.messages ((run {} before).1.occur occurrence).2,
      ∀ handle, message.progressOf? = some handle →
        (run {} before).1.RunsOnCurrent (run {} before).2 handle ∧
        (run {} (before ++ [occurrence])).1.RunsOnCurrent (run {} (before ++ [occurrence])).2
          handle := by
  refine ⟨fun record => runsOnCurrent_of_listed fresh, ?_⟩
  rintro before occurrence after rfl message hm handle progress
  have now : Fresh (run {} (before ++ [occurrence])).2 := by
    rw [← List.singleton_append, ← List.append_assoc, run_append] at fresh
    exact fresh.of_append
  have then' : Fresh (run {} before).2 := by
    rw [run_append] at now
    exact now.of_append
  have table := (accounted_run before then').table
  obtain ⟨⟨old, hold, same⟩, record, hr, rfl⟩ :=
    (sound_run before).listed_of_progress table hm progress
  refine ⟨same ▸ runsOnCurrent_of_listed then' hold, runsOnCurrent_of_listed now ?_⟩
  rw [run_concat]
  exact hr

/-- The job that is listed at the end of `rerun` runs on current inputs, and did so when its start
was published. -/
theorem jobs_run_on_current_inputs_rerun :
    Fresh (run {} Occurrence.rerun).2 ∧
      (run {} Occurrence.rerun).1.RunsOnCurrent (run {} Occurrence.rerun).2 ⟨.ofNat 2, .ofNat 1⟩ ∧
      (run {} (Occurrence.rerun.take 8)).1.RunsOnCurrent (run {} (Occurrence.rerun.take 8)).2
        ⟨.ofNat 2, .ofNat 1⟩ := by
  have fresh : Fresh (run {} Occurrence.rerun).2 := by decide
  obtain ⟨listed, published⟩ := jobs_run_on_current_inputs Occurrence.rerun fresh
  have told : .jobStarted ⟨.ofNat 2, .ofNat 1⟩ ∈ Entry.messages
      ((run {} (Occurrence.rerun.take 8)).1.occur (.report ⟨.ofNat 2, .started⟩)).2 :=
    List.mem_cons_self
  refine ⟨fresh, listed ⟨.ofNat 2, .ofNat 1, .running⟩ (by decide), ?_⟩
  exact (published (Occurrence.rerun.take 8) _ [] rfl _ told _ rfl).1

end Core

end Coordination
