/-
Coordination.Proofs.JobViews — observers keep up with the jobs.

An observer that follows the jobs keeps one entry for each analysis: the
last job that it heard of and the status that this went to. It strikes the
entry out when it hears that the analysis was changed or removed. Nothing
else tells it that a job was dropped: a job that had ended is dropped
without a message of its own, and one that was live leaves a cancellation
behind, which is also what it hears of a canceled job that stays listed.

Two things make the entries right. Every change of a status is published
with the status that it leads to, so the entry of a listed job is right
after every move (`Moves.present`). And no job is dropped but for another
one or with a message on its analysis, so there is no entry for an analysis
without a job after every stride (`Strides.absent`). A new job is not
announced, and until it starts the entry may be the one of the job before.

  §1 Views      — `JobView`, what each message does to an entry.
  §2 Listed     — `JobView.Present`, kept by every move.
  §3 Dropped    — `JobView.Absent`, kept by every stride.
  §4 Observers  — what registered observers know of the jobs.
-/
import Coordination.Proofs.Observers
import Coordination.Proofs.Stream
import Mathlib.Logic.Function.Basic

namespace Coordination

open Roster (keys)

/-! ## §1 Views -/

/-- For each analysis the last job that was heard of, with its status. -/
abbrev JobView := AnalysisId → Option (JobId × Job.Status)

namespace JobView

/-- The entries for some jobs. -/
def ofRecords (records : List Job.Record) : JobView := fun analysis =>
  (records.find? (·.analysis = analysis)).map fun record => (record.id, record.status)

/-- A job was heard of. -/
def note (view : JobView) (handle : Job.Handle) (status : Job.Status) : JobView :=
  Function.update view handle.analysis (some (handle.job, status))

/-- An analysis was heard of. -/
def strike (view : JobView) (analysis : AnalysisId) : JobView :=
  Function.update view analysis none

/-- The entries after a message. -/
def hear (view : JobView) : Message → JobView
  | .initialState snapshot => ofRecords snapshot.jobs
  | .jobStarted handle | .taskResult handle _ _ => view.note handle .running
  | .jobFinished handle _ => view.note handle .finished
  | .jobFailed handle _ _ => view.note handle .error
  | .jobCanceled handle => view.note handle .canceled
  | .analysisUpdated id _ _ _ | .analysisRemoved id => view.strike id
  | .connected _ | .disconnected | .datasetCreated _ _ | .datasetDeleted _
  | .compoundCreated _ _ _ | .compoundUpdated _ _ _ | .compoundRemoved _
  | .analysisCreated _ _ _ _ => view

def hearAll (view : JobView) (messages : List Message) : JobView := messages.foldl hear view

theorem hearAll_append (view : JobView) (before after : List Message) :
    view.hearAll (before ++ after) = (view.hearAll before).hearAll after :=
  List.foldl_append

/-- The entries agree with the jobs that are listed. Of a job that was only handed over, nothing
was published. -/
structure Agrees (view : JobView) (records : List Job.Record) : Prop where
  absent : ∀ analysis, (∀ record ∈ records, record.analysis ≠ analysis) → view analysis = none
  present : ∀ record ∈ records, record.status ≠ .created →
    view record.analysis = some (record.id, record.status)

variable {view : JobView} {analysis : AnalysisId}

@[simp] theorem note_self (view : JobView) (handle : Job.Handle) (status : Job.Status) :
    view.note handle status handle.analysis = some (handle.job, status) :=
  Function.update_self _ _ _

theorem note_other (view : JobView) {handle : Job.Handle} (other : analysis ≠ handle.analysis)
    (status : Job.Status) : view.note handle status analysis = view analysis :=
  Function.update_of_ne other _ _

@[simp] theorem strike_self (view : JobView) (analysis : AnalysisId) :
    view.strike analysis analysis = none :=
  Function.update_self _ _ _

theorem strike_other (view : JobView) {other : AnalysisId} (distinct : analysis ≠ other) :
    view.strike other analysis = view analysis :=
  Function.update_of_ne distinct _ _

/-- A phase is published with the status that it leads to. -/
theorem hear_ofPhase (view : JobView) (handle : Job.Handle) (phase : Job.Phase) :
    view.hear (.ofPhase handle phase) = view.note handle phase.status := by
  cases phase <;> rfl

/-- A message about an entity strikes out the entry of the analysis that it revises. -/
theorem hear_of_fits {s : Standing} {message : Message} (fits : s.Fits message) (view : JobView) :
    view.hear message = (message.revised?.map view.strike).getD view := by
  cases message with
  | initialState | jobStarted | taskResult | jobFinished | jobCanceled | jobFailed => exact fits.elim
  | _ => rfl

theorem hear_of_absent {s : Standing} {message : Message} (fits : s.Fits message)
    (h : view analysis = none) : view.hear message analysis = none := by
  rw [hear_of_fits fits]
  cases hr : message.revised? with
  | none => exact h
  | some other =>
    by_cases same : analysis = other
    · exact same ▸ view.strike_self analysis
    · exact (view.strike_other same).trans h

/-- A message about a job leaves the entries of other analyses as they are. -/
theorem hear_of_job_other {message : Message} {handle : Job.Handle}
    (about : message.job? = some handle) (other : analysis ≠ handle.analysis) (view : JobView) :
    view.hear message analysis = view analysis := by
  cases message with
  | jobStarted | taskResult | jobFinished | jobCanceled | jobFailed =>
    obtain rfl := Option.some.inj about
    exact note_other view other _
  | _ => exact nomatch about

end JobView

/-! ## §2 Listed -/

/-- A message may not revise an analysis that has a current job. -/
theorem Standing.Fits.idle {s : Standing} {message : Message} (fits : s.Fits message)
    {analysis : AnalysisId} (revised : message.revised? = some analysis) :
    analysis ∉ keys s.jobs.current := by
  cases message with
  | analysisUpdated id compound dataset details =>
    obtain rfl := Option.some.inj revised
    exact fits.2.2.2
  | analysisRemoved id =>
    obtain rfl := Option.some.inj revised
    exact fits.2
  | _ => exact nomatch revised

/-- A message that may go out leaves the entry of an analysis with a current job as it is. -/
theorem JobView.hear_of_busy {s : Standing} {message : Message} (fits : s.Fits message)
    {analysis : AnalysisId} (busy : analysis ∈ keys s.jobs.current) (view : JobView) :
    view.hear message analysis = view analysis := by
  rw [hear_of_fits fits]
  cases hr : message.revised? with
  | none => rfl
  | some other =>
    have distinct : analysis ≠ other := by
      rintro rfl
      exact fits.idle hr busy
    exact view.strike_other distinct

namespace JobView

/-- The entries of the jobs that are listed and have been heard of are right. -/
def Present (view : JobView) (records : List Job.Record) : Prop :=
  ∀ record ∈ records, record.status ≠ .created →
    view record.analysis = some (record.id, record.status)

variable {view : JobView} {table : Job.Table} {record : Job.Record}

/-- The entry for a job that changed its status is renewed. -/
theorem Present.replace (h : view.Present table.records) (sound : table.Sound)
    (listed : record ∈ table.records) (status : Job.Status) :
    (view.note record.handle status).Present
      (Roster.replace { record with status := status } table.records) := by
  intro r hr heard
  rcases Roster.mem_replace hr with rfl | ⟨hr, distinct⟩
  · exact view.note_self record.handle status
  · have other : r.analysis ≠ record.handle.analysis := by
      intro same
      obtain rfl := sound.eq_of_analysis hr listed same
      exact distinct rfl
    rw [view.note_other other]
    exact h r hr heard

/-- Nothing that is said of the job of one analysis matters when this job is dropped. -/
theorem Present.erase (h : view.Present table.records) (sound : table.Sound)
    (listed : record ∈ table.records) {view' : JobView}
    (others : ∀ analysis, analysis ≠ record.analysis → view' analysis = view analysis) :
    view'.Present (Roster.erase record.id table.records) := by
  intro r hr heard
  obtain ⟨hr, distinct⟩ := List.mem_filter.1 hr
  have other : r.analysis ≠ record.analysis := by
    intro same
    obtain rfl := sound.eq_of_analysis hr listed same
    exact of_decide_eq_true distinct rfl
  rw [others r.analysis other]
  exact h r hr heard

end JobView

/-- A job that changed its status was listed, and its record is replaced. -/
theorem Job.Table.replaced_of_setStatus {table next : Table} {job : JobId} {status : Status}
    {changed : Record} (h : table.setStatus job status = (next, some changed)) :
    ∃ record ∈ table.records, changed = { record with status := status } ∧
      next = { table with records := Roster.replace changed table.records } := by
  unfold setStatus at h
  cases hg : table.get? job with
  | none =>
    simp only [hg] at h
    exact nomatch (Prod.mk.inj h).2
  | some record =>
    simp only [hg] at h
    split at h
    · exact nomatch (Prod.mk.inj h).2
    · obtain ⟨rfl, hc⟩ := Prod.mk.inj h
      obtain rfl := Option.some.inj hc
      exact ⟨record, Roster.mem_of_find?_eq_some hg, rfl, rfl⟩

section Moves

variable {s t : Standing} {entries journal : List Entry} {view : JobView}

theorem Move.present (move : Move s entries t) (table : s.jobs.Sound)
    (fresh : ∀ request ∈ Entry.starts entries, request.job ∉ keys s.jobs.records)
    (h : view.Present s.jobs.records) :
    (view.hearAll (Entry.messages entries)).Present t.jobs.records := by
  cases move with
  | probe => exact h
  | tell message fits =>
    intro r hr heard
    refine (JobView.hear_of_busy fits (table.mem_keys_current hr) view).trans ?_
    exact h r hr heard
  | retire analysis =>
    by_cases busy : analysis ∈ keys s.jobs.current
    · obtain ⟨record, hr, rfl⟩ := table.exists_of_mem_keys busy
      rw [table.retire hr]
      split
      · exact h.erase table hr fun _ _ => rfl
      · exact h.erase table hr fun _ other => view.note_other other _
    · rw [Job.Table.retire_of_idle busy]
      exact h
  | start request refusal feeds idle =>
    have unlisted := fresh request List.mem_cons_self
    let record : Job.Record := ⟨request.job, request.analysis, .created⟩
    have inserted : (s.jobs.insert request.handle).1 = _ :=
      Job.Table.insert_of_idle idle unlisted
    have listed : view.Present (s.jobs.insert request.handle).1.records := by
      rw [inserted]
      intro r hr heard
      rcases List.mem_append.1 hr with hr | hr
      · exact h r hr heard
      · obtain rfl := List.mem_singleton.1 hr
        exact absurd rfl heard
    cases refusal with
    | none => exact listed
    | some problem =>
      have sound : (s.jobs.insert request.handle).1.Sound := table.insert idle unlisted
      have hr : record ∈ (s.jobs.insert request.handle).1.records := by
        rw [inserted]
        exact List.mem_append_right _ List.mem_cons_self
      have found : (s.jobs.insert request.handle).1.get? record.id = some record :=
        Roster.find?_key sound.ids_nodup hr
      show JobView.Present _ ((s.jobs.insert request.handle).1.setStatus record.id .error).1.records
      rw [Job.Table.setStatus_of_live found rfl]
      exact listed.replace sound hr .error
  | @cancel record found live =>
    rw [Job.Table.setStatus_of_live found live]
    exact h.replace table (Roster.mem_of_find?_eq_some found) .canceled
  | report report =>
    cases ha : s.jobs.apply report with
    | mk jobs changed =>
      cases changed with
      | none =>
        obtain rfl := Job.Table.eq_of_setStatus_none _ ha
        exact h
      | some record =>
        obtain ⟨old, hr, rfl, rfl⟩ := Job.Table.replaced_of_setStatus ha
        show (view.hear (.ofPhase old.handle report.phase)).Present _
        rw [JobView.hear_ofPhase]
        exact h.replace table hr report.phase.status
  | forget =>
    intro r hr
    cases hr

theorem Moves.present (moves : Moves s entries t) (accounted : s.Accounted journal)
    (fresh : Fresh (journal ++ entries)) (h : view.Present s.jobs.records) :
    (view.hearAll (Entry.messages entries)).Present t.jobs.records := by
  induction moves generalizing journal view with
  | refl s => exact h
  | step move _ ih =>
    rw [← List.append_assoc] at fresh
    rw [Entry.messages_append, JobView.hearAll_append]
    have first := move.present accounted.table (accounted.unlisted fresh.of_append) h
    exact ih (move.accounted accounted fresh.of_append) fresh first

/-! ## §3 Dropped -/

/-- There is no entry for an analysis that has no current job. -/
def JobView.Absent (view : JobView) (table : Job.Table) : Prop :=
  ∀ analysis, analysis ∉ keys table.current → view analysis = none

/-- An analysis that has a current job neither before nor after a move gets no entry by it. -/
theorem Move.absent (move : Move s entries t) (table : s.jobs.Sound) {analysis : AnalysisId}
    (before : analysis ∉ keys s.jobs.current) (after : analysis ∉ keys t.jobs.current)
    (h : view analysis = none) : view.hearAll (Entry.messages entries) analysis = none := by
  rcases move.messages_eq with silent | ⟨message, told⟩
  · rw [silent]
    exact h
  · have hm : message ∈ Entry.messages entries := told ▸ List.mem_singleton_self message
    rw [told]
    show view.hear message analysis = none
    rcases move.fits_or_busy table hm with fits | ⟨handle, about, busy⟩
    · exact JobView.hear_of_absent fits h
    · have other : analysis ≠ handle.analysis := by
        rintro rfl
        exact busy.elim before after
      exact (JobView.hear_of_job_other about other view).trans h

theorem Stride.absent (stride : Stride s entries t) (accounted : s.Accounted journal)
    (fresh : Fresh (journal ++ entries)) (h : view.Absent s.jobs) :
    (view.hearAll (Entry.messages entries)).Absent t.jobs := by
  intro analysis after
  cases stride with
  | keep move kept =>
    have before : analysis ∉ keys s.jobs.current := mt (kept analysis) after
    exact move.absent accounted.table before after (h analysis before)
  | revise dropped message revised fits =>
    rw [Entry.messages_append, JobView.hearAll_append]
    show JobView.hear _ message analysis = none
    by_cases same : analysis = dropped
    · subst same
      rw [JobView.hear_of_fits fits, revised]
      exact JobView.strike_self _ analysis
    · have before : analysis ∉ keys s.jobs.current := fun busy =>
        after ((s.jobs.mem_keys_retire).2 ⟨busy, same⟩)
      refine JobView.hear_of_absent fits ?_
      exact (Move.retire s dropped).absent accounted.table before after (h analysis before)
  | restart request refusal feeds =>
    rw [← List.append_assoc] at fresh
    rw [Entry.messages_append, JobView.hearAll_append]
    obtain ⟨distinct, between⟩ := not_or.1 (mt Job.Table.mem_keys_handOver.2 after)
    have before : analysis ∉ keys s.jobs.current := fun busy =>
      between ((s.jobs.mem_keys_retire).2 ⟨busy, distinct⟩)
    let retired : Standing := { s with jobs := (s.jobs.retire request.analysis).1 }
    have idle := s.jobs.not_mem_current_retire request.analysis
    have dropped : Move s _ retired := .retire s request.analysis
    have started : Move retired _ _ := .start retired request refusal feeds idle
    have table := (dropped.accounted accounted fresh.of_append).table
    refine started.absent table between after ?_
    exact dropped.absent accounted.table before between (h analysis before)

theorem Strides.absent (strides : Strides s entries t) (accounted : s.Accounted journal)
    (fresh : Fresh (journal ++ entries)) (h : view.Absent s.jobs) :
    (view.hearAll (Entry.messages entries)).Absent t.jobs := by
  induction strides generalizing journal view with
  | refl s => exact h
  | step stride _ ih =>
    rw [← List.append_assoc] at fresh
    rw [Entry.messages_append, JobView.hearAll_append]
    have first := stride.absent accounted fresh.of_append h
    exact ih (stride.moves.accounted accounted fresh.of_append) fresh first

end Moves

/-! ## §4 Observers -/

namespace JobView

variable {view : JobView} {table : Job.Table}

theorem agrees_of_absent (sound : table.Sound) (absent : view.Absent table)
    (present : view.Present table.records) : view.Agrees table.records where
  absent analysis free := by
    refine absent analysis ?_
    intro busy
    obtain ⟨record, hr, same⟩ := sound.exists_of_mem_keys busy
    exact free record hr same
  present := present

/-- The entries for some jobs are right. -/
theorem present_ofRecords (sound : table.Sound) : (ofRecords table.records).Present table.records := by
  intro record hr _
  unfold ofRecords
  cases hf : table.records.find? (·.analysis = record.analysis) with
  | none => exact absurd (decide_eq_true rfl) (List.find?_eq_none.1 hf record hr)
  | some found =>
    have same : found.analysis = record.analysis := by simpa using List.find?_some hf
    rw [sound.eq_of_analysis (List.mem_of_find?_eq_some hf) hr same]
    rfl

theorem absent_ofRecords (sound : table.Sound) : (ofRecords table.records).Absent table := by
  intro analysis idle
  have none : table.records.find? (·.analysis = analysis) = none := by
    refine List.find?_eq_none.2 ?_
    intro record hr same
    exact idle (of_decide_eq_true same ▸ sound.mem_keys_current hr)
  rw [ofRecords, none]
  rfl

end JobView

/-- Who heard all messages of a run since a snapshot knows the jobs as they are. -/
theorem Core.jobView_run (before after : List Occurrence)
    (fresh : Fresh (Core.run {} (before ++ after)).2) :
    ((JobView.ofRecords (Core.run {} before).1.jobs.records).hearAll
        (Entry.messages ((Core.run {} before).1.run after).2)).Agrees
      (Core.run {} (before ++ after)).1.jobs.records := by
  rw [Core.run_append] at fresh ⊢
  have accounted := Core.accounted_run before fresh.of_append
  have moved := Core.moved_run (Core.sound_run before) after
  have last := moved.moves.accounted accounted fresh
  refine JobView.agrees_of_absent last.table ?_ ?_
  · exact moved.strides.absent accounted fresh (JobView.absent_ofRecords accounted.table)
  · exact moved.moves.present accounted fresh (JobView.present_ofRecords accounted.table)

theorem Scene.Received.jobView {past : List Occurrence} {told : List Message}
    (h : Received past told) (fresh : Fresh (Core.run {} past).2) :
    ∃ snapshot rest, told = .initialState snapshot :: rest ∧
      ((JobView.ofRecords snapshot.jobs).hearAll rest).Agrees (Core.run {} past).1.jobs.records := by
  obtain ⟨before, after, rfl, rfl⟩ := h
  exact ⟨_, _, rfl, Core.jobView_run before after fresh⟩

/-- If no two jobs of a server have one identifier, an observer that came at any time and is still
registered knows the jobs: what the messages make of the jobs in its first message agrees with the
jobs of the core. -/
theorem job_views_agree (capacity : Nat) (engine : Engine) (capabilities : Capabilities)
    (wording : Wording) (jobIds : Nat → JobId) (events : List Scene.Event)
    (fresh : Fresh
      (Core.run {} ((Scene.opening capacity engine capabilities wording jobIds).history events)).2)
    {id : Nat} {observer : Bus.Observer Message}
    (found : Bus.observer?
      ((Scene.opening capacity engine capabilities wording jobIds).run events).server.bus id =
        some observer) (registered : observer.registered = true) :
    let scene := (Scene.opening capacity engine capabilities wording jobIds).run events
    ∃ snapshot rest, scene.read id ++ observer.queue = .initialState snapshot :: rest ∧
      ((JobView.ofRecords snapshot.jobs).hearAll rest).Agrees scene.server.core.jobs.records := by
  intro scene
  have h := (Scene.sound_opening capacity engine capabilities wording jobIds).run events
  have received := (h.received id observer found registered).jobView fresh
  rw [← h.core] at received
  exact received

/-- A job runs and finishes, and its analysis is then stored anew, which drops the job without a
message about it. An observer comes while the job has not started. -/
def Scene.revision : List Scene.Event :=
  [.connect (.pool 2),
    .register ⟨.ofNat 1, .memory ⟨.uint8, [8, 8], [4, 4]⟩, [4, 4, 8, 8]⟩,
    .request {} (Command.putCompound (.ofNat 1) (.ofNat 1) ⟨.sumFrames, []⟩).toJson,
    .request {} (Command.putAnalysis (.ofNat 1) (.ofNat 1) ⟨.sumFrames, .empty⟩).toJson,
    .request {} (Command.runAnalysis (.ofNat 1)).toJson,
    .subscribe,
    .report ⟨.ofNat 0, .started⟩,
    .report ⟨.ofNat 0, .finished .null⟩,
    .request {} (Command.putAnalysis (.ofNat 1) (.ofNat 1) ⟨.sumFrames, .empty⟩).toJson]

theorem job_views_agree_revision :
    let opened := Scene.opening 8 .external ⟨"", "", 0, "", "", []⟩ {} .ofNat
    let revised := opened.run Scene.revision
    Fresh (Core.run {} (opened.history Scene.revision)).2 ∧
      ∃ observer, revised.server.bus.observer? 1 = some observer ∧ observer.registered = true ∧
        observer.queue.tail = [.jobStarted ⟨.ofNat 0, .ofNat 1⟩,
          .jobFinished ⟨.ofNat 0, .ofNat 1⟩ .null,
          .analysisUpdated (.ofNat 1) (.ofNat 1) (.ofNat 1) ⟨.sumFrames, .empty⟩] ∧
        ∃ snapshot rest, revised.read 1 ++ observer.queue = .initialState snapshot :: rest ∧
          ((JobView.ofRecords snapshot.jobs).hearAll rest).Agrees
            revised.server.core.jobs.records := by
  have fresh : Fresh (Core.run {} ((Scene.opening 8 .external ⟨"", "", 0, "", "", []⟩ {}
    .ofNat).history Scene.revision)).2 := by decide
  refine ⟨fresh, _, rfl, rfl, rfl, ?_⟩
  exact job_views_agree 8 _ _ _ _ Scene.revision fresh rfl rfl

end Coordination
