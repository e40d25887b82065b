/-
Coordination.Proofs.JobLife — each job ends exactly once on the wire.

What observers hear of a job is told by the journal after the job was
handed over, without a look at the messages in it: one message for every
report up to the first entry that ends the job, and one for that entry.
The job ends by a final report, or because the core stops it, or at once
if the engine refuses it. All that comes later about the job, and all that
came before, is unheard.

A job that goes on has a record with a status that is not final
(`Table.Live`); one that has ended has no such record (`Table.Idle`). A move
takes the one to the other exactly if an entry of it ends the job.

  §1 News    — what is said of a job, and what ought to be said (`news`).
  §2 Tables  — which jobs go on after each change of a table.
  §3 Moves   — what every move says of a job, and of one that has ended.
  §4 Lives   — from the start of a job to the end of the run.
-/
import Coordination.Proofs.JobTable

namespace Coordination

open Entry (ofEffects)
open Roster (keys)

/-! ## §1 News -/

namespace Message

/-- The job that a message is about. -/
def job? : Message → Option Job.Handle
  | .jobStarted handle => some handle
  | .taskResult handle _ _ => some handle
  | .jobFinished handle _ => some handle
  | .jobCanceled handle => some handle
  | .jobFailed handle _ _ => some handle
  | _ => none

/-- Whether a message says that a job has ended. -/
def isTerminal : Message → Bool
  | .jobFinished _ _ | .jobCanceled _ | .jobFailed _ _ _ => true
  | _ => false

/-- Whether a message is about a job with an identifier. -/
def concerns (job : JobId) (message : Message) : Bool :=
  message.job?.any (·.job = job)

@[simp] theorem job?_ofPhase (handle : Job.Handle) (phase : Job.Phase) :
    (ofPhase handle phase).job? = some handle := by
  cases phase <;> rfl

theorem isTerminal_ofPhase (handle : Job.Handle) (phase : Job.Phase) :
    (ofPhase handle phase).isTerminal = phase.status.isFinal := by
  cases phase <;> rfl

end Message

namespace Entry

/-- The messages of a journal that are about a job. -/
def about (job : JobId) (journal : List Entry) : List Message :=
  (messages journal).filter (Message.concerns job)

/-- Whether an entry ends a job that goes on: it is a final report, or the core stops the job. -/
def ends (job : JobId) : Entry → Bool
  | .report r => r.job = job && r.phase.status.isFinal
  | .cancel other => other = job
  | _ => false

/-- What an entry reports of a job. -/
def phaseOf? (job : JobId) : Entry → Option Job.Phase
  | .report r => if r.job = job then some r.phase else none
  | _ => none

/-- What is reported of a job until it ends. -/
def phases (job : JobId) (entries : List Entry) : List Job.Phase :=
  (entries.takeWhile fun entry => !entry.ends job).filterMap (phaseOf? job)

/-- What is published when an entry ends a job. -/
def closing? (handle : Job.Handle) : Entry → Option Message
  | .report r => some (.ofPhase handle r.phase)
  | .cancel _ => some (.jobCanceled handle)
  | _ => none

/-- What is published when a job ends, if it ends. -/
def closing (handle : Job.Handle) (entries : List Entry) : Option Message :=
  (entries.find? (ends handle.job)).bind (closing? handle)

/-- What ought to be published of a job that goes on. -/
def news (handle : Job.Handle) (entries : List Entry) : List Message :=
  (phases handle.job entries).map (.ofPhase handle) ++ (closing handle entries).toList

theorem about_append (job : JobId) (entries more : List Entry) :
    about job (entries ++ more) = about job entries ++ about job more := by
  rw [about, messages_append, List.filter_append]
  rfl

variable {handle : Job.Handle} {entries : List Entry}

/-- The news, entry by entry. -/
theorem news_cons (entry : Entry) (rest : List Entry) :
    news handle (entry :: rest) =
      if entry.ends handle.job then (closing? handle entry).toList
      else ((entry.phaseOf? handle.job).map (Message.ofPhase handle)).toList ++ news handle rest := by
  unfold news phases closing
  rw [List.takeWhile_cons, List.find?_cons]
  by_cases he : entry.ends handle.job = true
  · simp [he]
  · cases hp : entry.phaseOf? handle.job <;> simp [he, hp]

/-- Once a job has ended there are no more news of it. -/
theorem news_append_of_ended (h : entries.any (ends handle.job) = true) (more : List Entry) :
    news handle (entries ++ more) = news handle entries := by
  induction entries with
  | nil => exact nomatch h
  | cons entry rest ih =>
    rw [List.cons_append, news_cons, news_cons]
    by_cases he : entry.ends handle.job = true
    · rw [if_pos he, if_pos he]
    · rw [if_neg he, if_neg he, ih (by simpa [he] using h)]

theorem news_append_of_going (h : entries.any (ends handle.job) = false) (more : List Entry) :
    news handle (entries ++ more) = news handle entries ++ news handle more := by
  induction entries with
  | nil => rfl
  | cons entry rest ih =>
    have hboth : ¬ entry.ends handle.job = true ∧ rest.any (ends handle.job) = false := by
      simpa [Bool.or_eq_false_iff] using h
    rw [List.cons_append, news_cons, news_cons, if_neg hboth.1, if_neg hboth.1, ih hboth.2,
      List.append_assoc]

/-- What is reported of a job before it ends does not end it. -/
theorem isFinal_of_mem_phases {job : JobId} {phase : Job.Phase} (h : phase ∈ phases job entries) :
    phase.status.isFinal = false := by
  obtain ⟨entry, he, hp⟩ := List.mem_filterMap.1 h
  have going := List.all_eq_true.1 List.all_takeWhile entry he
  cases entry with
  | report r =>
    by_cases hj : r.job = job
    · simp only [phaseOf?, if_pos hj, Option.some.injEq] at hp
      simpa [ends, hj, hp] using going
    · simp [phaseOf?, hj] at hp
  | probe | start | cancel | publish => exact nomatch hp

/-- An end is announced by a terminal message. -/
theorem closing?_of_ends {entry : Entry} (h : entry.ends handle.job = true) :
    ∃ message, entry.closing? handle = some message ∧ message.isTerminal = true ∧
      message.job? = some handle := by
  cases entry with
  | report r =>
    refine ⟨_, rfl, ?_, Message.job?_ofPhase handle r.phase⟩
    rw [Message.isTerminal_ofPhase]
    exact (Bool.and_eq_true_iff.1 h).2
  | cancel job => exact ⟨_, rfl, rfl, rfl⟩
  | probe | start | publish => exact nomatch h

theorem isTerminal_of_mem_closing {message : Message} (h : closing handle entries = some message) :
    message.isTerminal = true ∧ message.job? = some handle := by
  obtain ⟨entry, he, hm⟩ := Option.bind_eq_some_iff.1 h
  obtain ⟨_, hc, terminal⟩ := closing?_of_ends (List.find?_some he)
  rw [hc] at hm
  exact Option.some.inj hm ▸ terminal

/-- The end of a job is announced if it ends. -/
theorem isSome_closing : (closing handle entries).isSome = entries.any (ends handle.job) := by
  unfold closing
  cases he : entries.find? (ends handle.job) with
  | none =>
    refine (List.any_eq_false.2 ?_).symm
    intro entry hm
    exact List.find?_eq_none.1 he entry hm
  | some entry =>
    obtain ⟨message, hc, -⟩ := closing?_of_ends (List.find?_some he)
    rw [Option.bind_some, hc]
    exact (List.any_eq_true.2 ⟨entry, List.mem_of_find?_eq_some he, List.find?_some he⟩).symm

end Entry

/-! ## §2 Tables -/

namespace Job.Table

/-- A job is listed and goes on. -/
def Live (table : Table) (handle : Handle) : Prop :=
  ∃ r ∈ table.records, r.handle = handle ∧ r.status.isFinal = false

/-- No job with an identifier is listed, or it has ended. -/
def Idle (table : Table) (job : JobId) : Prop :=
  ∀ r ∈ table.records, r.id = job → r.status.isFinal = true

/-- Whether a job with an identifier goes on. -/
def isLive (table : Table) (job : JobId) : Bool :=
  table.records.any fun r => r.id = job && !r.status.isFinal

theorem Live.isLive {table : Table} {handle : Handle} (h : table.Live handle) :
    table.isLive handle.job = true := by
  obtain ⟨r, hr, rfl, live⟩ := h
  exact List.any_eq_true.2 ⟨r, hr, by simp [Record.handle, live]⟩

theorem Idle.isLive {table : Table} {job : JobId} (h : table.Idle job) :
    table.isLive job = false := by
  refine List.any_eq_false.2 ?_
  intro r hr
  by_cases hj : r.id = job
  · simp [hj, h r hr hj]
  · simp [hj]

section Changes

variable {table : Table} {handle : Handle} {job : JobId} {record : Record} {status : Status}

theorem Live.erase (h : table.Live handle) (other : handle.job ≠ record.id) (rest : List Current) :
    Live ⟨Roster.erase record.id table.records, rest⟩ handle := by
  obtain ⟨r, hr, rfl, live⟩ := h
  exact ⟨r, List.mem_filter.2 ⟨hr, decide_eq_true other⟩, rfl, live⟩

theorem Idle.erase (h : table.Idle job) (rest : List Current) :
    Idle ⟨Roster.erase record.id table.records, rest⟩ job :=
  fun r hr => h r (List.mem_filter.1 hr).1

theorem idle_erase (table : Table) (record : Record) (rest : List Current) :
    Idle ⟨Roster.erase record.id table.records, rest⟩ record.id :=
  fun _ hr same => absurd same (of_decide_eq_true (List.mem_filter.1 hr).2)

theorem Live.replace (h : table.Live handle) (other : handle.job ≠ record.id) :
    Live { table with
      records := Roster.replace { record with status := status } table.records } handle := by
  obtain ⟨r, hr, rfl, live⟩ := h
  exact ⟨r, List.mem_map.2 ⟨r, hr, if_neg other⟩, rfl, live⟩

theorem Idle.replace (h : table.Idle job) (other : job ≠ record.id) :
    Idle { table with
      records := Roster.replace { record with status := status } table.records } job := by
  intro r hr same
  rcases Roster.mem_replace hr with rfl | ⟨hr, -⟩
  · exact absurd same.symm other
  · exact h r hr same

theorem live_replace (hr : record ∈ table.records) (live : status.isFinal = false) :
    Live { table with
      records := Roster.replace { record with status := status } table.records } record.handle :=
  ⟨_, List.mem_map.2 ⟨record, hr, if_pos rfl⟩, rfl, live⟩

theorem idle_replace (table : Table) (ended : status.isFinal = true) :
    Idle { table with
      records := Roster.replace { record with status := status } table.records } record.id := by
  intro r hr same
  rcases Roster.mem_replace hr with rfl | ⟨-, other⟩
  · exact ended
  · exact absurd same other

theorem Live.setStatus (h : table.Live handle) (other : handle.job ≠ job) (status : Status) :
    (table.setStatus job status).1.Live handle := by
  unfold Table.setStatus
  cases hg : table.get? job with
  | none => exact h
  | some record =>
    obtain rfl : record.id = job := Roster.key_of_find?_eq_some hg
    dsimp only
    split
    · exact h
    · exact h.replace other

theorem Idle.setStatus {other : JobId} (h : table.Idle job) (distinct : job ≠ other)
    (status : Status) : (table.setStatus other status).1.Idle job := by
  unfold Table.setStatus
  cases hg : table.get? other with
  | none => exact h
  | some record =>
    obtain rfl : record.id = other := Roster.key_of_find?_eq_some hg
    dsimp only
    split
    · exact h
    · exact h.replace distinct

variable {new : Handle} (idle : new.analysis ∉ keys table.current)
  (fresh : new.job ∉ keys table.records)

include idle fresh

theorem Live.insert (h : table.Live handle) : (table.insert new).1.Live handle := by
  rw [insert_of_idle idle fresh]
  obtain ⟨r, hr, rfl, live⟩ := h
  exact ⟨r, List.mem_append_left _ hr, rfl, live⟩

theorem Idle.insert (h : table.Idle job) (distinct : job ≠ new.job) :
    (table.insert new).1.Idle job := by
  rw [insert_of_idle idle fresh]
  intro r hr same
  rcases List.mem_append.1 hr with hr | hr
  · exact h r hr same
  · obtain rfl := List.mem_singleton.1 hr
    exact absurd same.symm distinct

theorem Live.handOver (h : table.Live handle) (distinct : handle.job ≠ new.job)
    (refusal : Option Problem) : (table.handOver new refusal).Live handle := by
  have inserted := h.insert idle fresh
  cases refusal with
  | none => exact inserted
  | some problem => exact inserted.setStatus distinct .error

theorem Idle.handOver (h : table.Idle job) (distinct : job ≠ new.job)
    (refusal : Option Problem) : (table.handOver new refusal).Idle job := by
  have inserted := h.insert idle fresh distinct
  cases refusal with
  | none => exact inserted
  | some problem => exact inserted.setStatus distinct .error

/-- A job that is handed over goes on, unless it is refused. -/
theorem live_handOver : (table.handOver new none).Live new := by
  rw [Table.handOver, insert_of_idle idle fresh]
  exact ⟨_, List.mem_append_right _ List.mem_cons_self, rfl, rfl⟩

theorem idle_handOver (problem : Problem) : (table.handOver new (some problem)).Idle new.job := by
  let record : Record := ⟨new.job, new.analysis, .created⟩
  have found : (table.insert new).1.get? record.id = some record := by
    rw [insert_of_idle idle fresh]
    refine (Roster.find?_append _ _ _).trans ?_
    rw [Roster.find?_eq_none_iff.2 fresh]
    exact if_pos rfl
  show ((table.insert new).1.setStatus record.id .error).1.Idle record.id
  rw [setStatus_of_live found rfl]
  exact idle_replace _ rfl

end Changes

end Job.Table

/-! ## §3 Moves -/

/-- What becomes of a job that went on before some entries. -/
def Job.Table.Follows (table : Table) (handle : Handle) (entries : List Entry) : Prop :=
  if entries.any (Entry.ends handle.job) then table.Idle handle.job else table.Live handle

/-- A job that was followed goes on unless its end was announced. -/
theorem Job.Table.Follows.isLive {table : Table} {handle : Handle} {entries : List Entry}
    (h : table.Follows handle entries) :
    table.isLive handle.job = (Entry.closing handle entries).isNone := by
  rw [← Option.not_isSome, Entry.isSome_closing]
  unfold Follows at h
  split at h
  · rename_i ended
    rw [ended]
    exact Idle.isLive h
  · rename_i going
    rw [eq_false_of_ne_true going]
    exact Live.isLive h

namespace Entry

@[simp] theorem news_nil (handle : Job.Handle) : news handle [] = [] := rfl

theorem about_cons (job : JobId) (entry : Entry) (rest : List Entry) :
    about job (entry :: rest) = about job [entry] ++ about job rest := about_append job [entry] rest

/-- The entries by which the core stops a job. -/
def stop (handle : Job.Handle) : List Entry := [.cancel handle.job, .publish (.jobCanceled handle)]

theorem about_stop (handle : Job.Handle) : about handle.job (stop handle) = news handle (stop handle) := by
  simp [about, messages, stop, Message.concerns, Message.job?, news_cons, ends, closing?]

theorem about_stop_other {handle : Job.Handle} {job : JobId} (other : job ≠ handle.job) :
    about job (stop handle) = [] := by
  simp [about, messages, stop, Message.concerns, Message.job?, Ne.symm other]

theorem news_stop_other {handle new : Job.Handle} (other : handle.job ≠ new.job) :
    news handle (stop new) = [] := by
  simp [stop, news_cons, ends, phaseOf?, Ne.symm other]

end Entry

/-- A job that goes on is stopped by the entries that stop it, and by those alone. -/
theorem Job.Table.follows_stop {table : Table} {handle : Handle} {record : Record}
    (same : handle.job = record.id → handle = record.handle)
    (stopped : table.Idle record.id) (live : handle.job ≠ record.id → table.Live handle) :
    Entry.about handle.job (Entry.stop record.handle) = Entry.news handle (Entry.stop record.handle) ∧
      table.Follows handle (Entry.stop record.handle) := by
  by_cases hj : handle.job = record.id
  · obtain rfl := same hj
    refine ⟨Entry.about_stop _, ?_⟩
    rw [Follows, if_pos (by simp [Entry.stop, Entry.ends])]
    exact stopped
  · refine ⟨(Entry.about_stop_other hj).trans (Entry.news_stop_other hj).symm, ?_⟩
    rw [Follows, if_neg (by simpa [Entry.stop, Entry.ends, Record.handle] using Ne.symm hj)]
    exact live hj

/-- A message about an entity concerns no job. -/
theorem Standing.Fits.concerns {s : Standing} {message : Message} (fits : s.Fits message)
    (job : JobId) : message.concerns job = false := by
  cases message with
  | jobStarted | taskResult | jobFinished | jobCanceled | jobFailed => exact fits.elim
  | _ => rfl

/-- The record of a job that goes on is the one under its identifier. -/
theorem Job.Table.Sound.eq_of_live {table : Table} (h : table.Sound) {handle : Handle}
    (live : table.Live handle) {record : Record} (hr : record ∈ table.records)
    (same : handle.job = record.id) : handle = record.handle ∧ record.status.isFinal = false := by
  obtain ⟨r, hm, rfl, ongoing⟩ := live
  obtain rfl := Roster.eq_of_key h.ids_nodup hm hr same
  exact ⟨rfl, ongoing⟩

/-- A report and the message that it brings about. -/
def Entry.reported (table : Job.Table) (report : Job.Report) : List Entry :=
  .report report :: ((table.apply report).2.toList.map fun record =>
    .publish (.ofPhase record.handle report.phase))

/-- A job that goes on follows a report on it. -/
theorem Job.Table.follows_report {table : Table} (h : table.Sound) {record : Record}
    (hr : record ∈ table.records) (ongoing : record.status.isFinal = false) (phase : Phase) :
    Entry.about record.id (Entry.reported table ⟨record.id, phase⟩) =
        Entry.news record.handle (Entry.reported table ⟨record.id, phase⟩) ∧
      (table.apply ⟨record.id, phase⟩).1.Follows record.handle
        (Entry.reported table ⟨record.id, phase⟩) := by
  have found : table.get? record.id = some record := Roster.find?_key h.ids_nodup hr
  have happly : table.apply ⟨record.id, phase⟩ = _ := setStatus_of_live found ongoing phase.status
  have entries : Entry.reported table ⟨record.id, phase⟩ =
      [.report ⟨record.id, phase⟩, .publish (.ofPhase record.handle phase)] := by
    rw [Entry.reported, happly]
    rfl
  have told : Entry.about record.id (Entry.reported table ⟨record.id, phase⟩) =
      [.ofPhase record.handle phase] := by
    simp [entries, Entry.about, Entry.messages, Message.concerns, Record.handle]
  rw [told, entries, happly]
  by_cases hf : phase.status.isFinal = true
  · refine ⟨?_, ?_⟩
    · simp [Entry.news_cons, Entry.ends, Entry.closing?, Record.handle, hf]
    · rw [Follows, if_pos (by simp [Entry.ends, Record.handle, hf])]
      exact idle_replace table hf
  · refine ⟨?_, ?_⟩
    · simp [Entry.news_cons, Entry.ends, Entry.phaseOf?, Record.handle, hf]
    · rw [Follows, if_neg (by simp [Entry.ends, hf])]
      exact live_replace hr (eq_false_of_ne_true hf)

/-- A report on another job says nothing of this one. -/
theorem Entry.about_reported_other (table : Job.Table) {report : Job.Report} {job : JobId}
    (other : report.job ≠ job) : about job (reported table report) = [] := by
  cases hr : (table.apply report).2 with
  | none =>
    rw [reported, hr]
    rfl
  | some record =>
    have hid : record.handle.job ≠ job := fun e =>
      other ((Job.Table.id_of_setStatus hr).symm.trans e)
    simp [reported, hr, about, messages, Message.concerns, hid]

theorem Entry.news_reported_other (table : Job.Table) {report : Job.Report} {handle : Job.Handle}
    (other : report.job ≠ handle.job) : news handle (reported table report) = [] := by
  cases hr : (table.apply report).2 <;>
    simp [reported, hr, news_cons, ends, phaseOf?, other]

theorem Entry.any_ends_reported_other (table : Job.Table) {report : Job.Report} {job : JobId}
    (other : report.job ≠ job) : (reported table report).any (ends job) = false := by
  simp [reported, ends, other]

section Moves

variable {s t : Standing} {entries : List Entry}

/-- What a move says of a job that goes on is the news of it. -/
theorem Move.live (move : Move s entries t) (h : s.jobs.Sound) {handle : Job.Handle}
    (fresh : ∀ request ∈ Entry.starts entries, request.job ∉ keys s.jobs.records)
    (live : s.jobs.Live handle) :
    Entry.about handle.job entries = Entry.news handle entries ∧ t.jobs.Follows handle entries := by
  cases move with
  | probe address => exact ⟨rfl, live⟩
  | tell message fits =>
    refine ⟨?_, live⟩
    simp [Entry.about, Entry.messages, fits.concerns, Entry.news_cons, Entry.ends, Entry.phaseOf?]
  | retire analysis =>
    by_cases hb : analysis ∈ keys s.jobs.current
    · obtain ⟨record, hr, rfl⟩ := h.exists_of_mem_keys hb
      rw [h.retire hr]
      by_cases hf : record.status.isFinal = true
      · rw [if_pos hf]
        refine ⟨rfl, live.erase ?_ _⟩
        intro same
        exact absurd hf (ne_true_of_eq_false (h.eq_of_live live hr same).2)
      · rw [if_neg hf]
        exact Job.Table.follows_stop (fun same => (h.eq_of_live live hr same).1)
          (Job.Table.idle_erase _ _ _) fun other => live.erase other _
    · rw [Job.Table.retire_of_idle hb]
      exact ⟨rfl, live⟩
  | start request refusal feeds idle =>
    have unlisted := fresh request List.mem_cons_self
    have other : handle.job ≠ request.job := by
      obtain ⟨r, hr, rfl, -⟩ := live
      exact fun same => unlisted (same ▸ Roster.key_mem_keys hr)
    have after : (s.jobs.handOver request.handle refusal).Live handle :=
      live.handOver idle unlisted other refusal
    cases refusal with
    | none => exact ⟨rfl, after⟩
    | some problem =>
      refine ⟨?_, after⟩
      simp [Entry.failure, Entry.about, Entry.messages, Entry.news_cons, Entry.ends, Entry.phaseOf?,
        Message.concerns, Message.job?, Job.Request.handle, Ne.symm other]
  | @cancel record found ongoing =>
    rw [Job.Table.setStatus_of_live found ongoing]
    have hr := Roster.mem_of_find?_eq_some found
    exact Job.Table.follows_stop (fun same => (h.eq_of_live live hr same).1)
      (Job.Table.idle_replace _ rfl) fun other => live.replace other
  | report report =>
    by_cases same : report.job = handle.job
    · obtain ⟨r, hr, rfl, ongoing⟩ := live
      obtain ⟨job, phase⟩ := report
      obtain rfl : job = r.id := same
      exact Job.Table.follows_report h hr ongoing phase
    · refine ⟨(Entry.about_reported_other s.jobs same).trans
        (Entry.news_reported_other s.jobs same).symm, ?_⟩
      show Job.Table.Follows _ handle (Entry.reported s.jobs report)
      rw [Job.Table.Follows, Entry.any_ends_reported_other s.jobs same]
      exact live.setStatus (Ne.symm same) report.phase.status
  | forget none =>
    obtain ⟨r, hr, -⟩ := live
    exact nomatch (none ▸ h.mem_keys_current hr : r.analysis ∈ keys [])

/-- Nothing more is said of a job that has ended or has not begun. -/
theorem Move.idle (move : Move s entries t) (h : s.jobs.Sound) {job : JobId}
    (fresh : ∀ request ∈ Entry.starts entries, request.job ∉ keys s.jobs.records)
    (others : ∀ request ∈ Entry.starts entries, request.job ≠ job) (idle : s.jobs.Idle job) :
    Entry.about job entries = [] ∧ t.jobs.Idle job := by
  cases move with
  | probe address => exact ⟨rfl, idle⟩
  | tell message fits => exact ⟨by simp [Entry.about, Entry.messages, fits.concerns], idle⟩
  | retire analysis =>
    by_cases hb : analysis ∈ keys s.jobs.current
    · obtain ⟨record, hr, rfl⟩ := h.exists_of_mem_keys hb
      rw [h.retire hr]
      refine ⟨?_, idle.erase _⟩
      by_cases hf : record.status.isFinal = true
      · rw [if_pos hf]
        rfl
      · rw [if_neg hf]
        exact Entry.about_stop_other fun same => hf (idle record hr same.symm)
    · rw [Job.Table.retire_of_idle hb]
      exact ⟨rfl, idle⟩
  | start request refusal feeds unused =>
    have unlisted := fresh request List.mem_cons_self
    have other : job ≠ request.job := Ne.symm (others request List.mem_cons_self)
    refine ⟨?_, idle.handOver unused unlisted other refusal⟩
    cases refusal with
    | none => rfl
    | some problem =>
      simp [Entry.failure, Entry.about, Entry.messages, Message.concerns, Message.job?,
        Job.Request.handle, Ne.symm other]
  | @cancel record found ongoing =>
    have other : job ≠ record.id := by
      rintro rfl
      exact absurd ongoing (ne_false_of_eq_true (idle record (Roster.mem_of_find?_eq_some found) rfl))
    exact ⟨Entry.about_stop_other other, idle.setStatus other .canceled⟩
  | report report =>
    by_cases same : report.job = job
    · have nothing : s.jobs.apply report = (s.jobs, none) :=
        Job.Table.setStatus_of_not_live (fun record found =>
          idle record (Roster.mem_of_find?_eq_some found)
            ((Roster.key_of_find?_eq_some found).trans same)) _
      rw [nothing]
      exact ⟨rfl, idle⟩
    · exact ⟨Entry.about_reported_other s.jobs same,
        idle.setStatus (Ne.symm same) report.phase.status⟩
  | forget => exact ⟨rfl, nofun⟩

theorem Moves.idle (moves : Moves s entries t) {journal : List Entry} (h : s.Accounted journal)
    (fresh : Fresh (journal ++ entries)) {job : JobId}
    (others : ∀ request ∈ Entry.starts entries, request.job ≠ job) (idle : s.jobs.Idle job) :
    Entry.about job entries = [] ∧ t.jobs.Idle job := by
  induction moves generalizing journal with
  | refl s => exact ⟨rfl, idle⟩
  | @step s t u entries more move rest ih =>
    rw [← List.append_assoc] at fresh
    simp only [Entry.starts_append, List.mem_append] at others
    obtain ⟨silent, still⟩ := move.idle h.table (h.unlisted fresh.of_append)
      (fun request hm => others request (.inl hm)) idle
    obtain ⟨quiet, last⟩ := ih (move.accounted h fresh.of_append) fresh
      (fun request hm => others request (.inr hm)) still
    exact ⟨by rw [Entry.about_append, silent, quiet]; rfl, last⟩

theorem Moves.live (moves : Moves s entries t) {journal : List Entry} (h : s.Accounted journal)
    (fresh : Fresh (journal ++ entries)) {handle : Job.Handle}
    (others : ∀ request ∈ Entry.starts entries, request.job ≠ handle.job)
    (live : s.jobs.Live handle) :
    Entry.about handle.job entries = Entry.news handle entries ∧ t.jobs.Follows handle entries := by
  induction moves generalizing journal with
  | refl s => exact ⟨rfl, live⟩
  | @step s t u entries more move rest ih =>
    rw [← List.append_assoc] at fresh
    simp only [Entry.starts_append, List.mem_append] at others
    have accounted := move.accounted h fresh.of_append
    have later := fun request hm => others request (.inr hm)
    obtain ⟨told, after⟩ := move.live h.table (h.unlisted fresh.of_append) live
    rw [Entry.about_append, told]
    by_cases ended : entries.any (Entry.ends handle.job) = true
    · rw [Job.Table.Follows, if_pos ended] at after
      obtain ⟨quiet, last⟩ := rest.idle accounted fresh later after
      rw [quiet, Entry.news_append_of_ended ended, List.append_nil]
      refine ⟨rfl, ?_⟩
      rw [Job.Table.Follows, if_pos (by rw [List.any_append, ended]; rfl)]
      exact last
    · have going := eq_false_of_ne_true ended
      rw [Job.Table.Follows, if_neg ended] at after
      obtain ⟨rest_told, last⟩ := ih accounted fresh later after
      rw [rest_told, Entry.news_append_of_going going]
      refine ⟨rfl, ?_⟩
      rwa [Job.Table.Follows, List.any_append, going, Bool.false_or]

/-- A job is handed over by a move of its own. -/
theorem Move.of_start (move : Move s entries t) {before after : List Entry}
    {request : Job.Request} {refusal : Option Job.Problem}
    (h : entries = before ++ .start request refusal :: after) :
    before = [] ∧ s.Feeds request ∧ request.analysis ∉ keys s.jobs.current ∧
      after = Entry.failure request refusal ∧
      t = { s with jobs := s.jobs.handOver request.handle refusal } := by
  have hm : .start request refusal ∈ entries := by
    rw [h]
    exact List.mem_append_right _ List.mem_cons_self
  cases move with
  | probe | tell | cancel | forget => simp at hm
  | retire analysis =>
    rw [Job.Table.retire_snd] at hm
    split at hm
    · split at hm <;> simp [ofEffects, Entry.ofEffect] at hm
    · exact nomatch hm
  | report report => simp at hm
  | start new answer feeds idle =>
    cases before with
    | nil =>
      obtain ⟨hs, rfl⟩ := List.cons.inj h
      obtain ⟨rfl, rfl⟩ := Entry.start.inj hs
      exact ⟨rfl, feeds, idle, rfl, rfl⟩
    | cons first others =>
      have hf : .start request refusal ∈ Entry.failure new answer := by
        rw [(List.cons.inj h).2]
        exact List.mem_append_right _ List.mem_cons_self
      cases answer <;> simp [Entry.failure] at hf

/-- The moves before a job was handed over, and those after. -/
theorem Moves.of_start (moves : Moves s entries t) {before after : List Entry}
    {request : Job.Request} {refusal : Option Job.Problem}
    (h : entries = before ++ .start request refusal :: after) :
    ∃ u rest, Moves s before u ∧ u.Feeds request ∧ request.analysis ∉ keys u.jobs.current ∧
      after = Entry.failure request refusal ++ rest ∧
      Moves { u with jobs := u.jobs.handOver request.handle refusal } rest t := by
  induction moves generalizing before with
  | refl s => simp at h
  | @step s t v entries more move rest ih =>
    rcases List.append_eq_append_iff.1 h with ⟨middle, rfl, hm⟩ | ⟨middle, he, hm⟩
    · obtain ⟨u, last, first, started⟩ := ih hm
      exact ⟨u, last, .step move first, started⟩
    · cases middle with
      | nil =>
        have hnext : more = [] ++ .start request refusal :: after := hm.symm
        obtain ⟨u, last, first, started⟩ := ih hnext
        have together := Moves.step move first
        rw [List.append_nil] at together he
        exact ⟨u, last, he ▸ together, started⟩
      | cons entry others =>
        obtain ⟨rfl, rfl⟩ := List.cons.inj hm
        obtain ⟨rfl, feeds, idle, rfl, rfl⟩ := move.of_start he
        exact ⟨s, more, .refl s, feeds, idle, rfl, rest⟩

end Moves

/-! ## §4 Lives -/

namespace Entry

/-- What is reported of a job from its start until it ends. A job that is refused ends at once. -/
def lifePhases (request : Job.Request) (refusal : Option Job.Problem) (after : List Entry) :
    List Job.Phase :=
  match refusal with
  | some _ => []
  | none => phases request.job after

/-- What is published when a job ends, if it ends. -/
def lifeClosing (request : Job.Request) (refusal : Option Job.Problem) (after : List Entry) :
    Option Message :=
  match refusal with
  | some problem =>
    some (.jobFailed request.handle problem.rejection.code problem.rejection.text)
  | none => closing request.handle after

variable {request : Job.Request} {refusal : Option Job.Problem} {after : List Entry}

theorem isFinal_of_mem_lifePhases {phase : Job.Phase}
    (h : phase ∈ lifePhases request refusal after) : phase.status.isFinal = false := by
  cases refusal with
  | none => exact isFinal_of_mem_phases h
  | some problem => exact nomatch h

theorem isTerminal_of_lifeClosing {message : Message}
    (h : lifeClosing request refusal after = some message) :
    message.isTerminal = true ∧ message.job? = some request.handle := by
  cases refusal with
  | none => exact isTerminal_of_mem_closing h
  | some problem => exact Option.some.inj h ▸ ⟨rfl, rfl⟩

end Entry

namespace Core

/-- The state of a job at the end of a run in which it was handed over, and all that observers heard
of it. -/
structure Told (core : Core) (journal : List Entry) (request : Job.Request)
    (refusal : Option Job.Problem) (after : List Entry) : Prop where
  /-- One message for every report until the end, and one for the end. -/
  told : Entry.about request.job journal =
    (Entry.lifePhases request refusal after).map (.ofPhase request.handle) ++
      (Entry.lifeClosing request refusal after).toList
  /-- The reports before the end are on the start and the progress of the job. -/
  ongoing : ∀ phase ∈ Entry.lifePhases request refusal after, phase.status.isFinal = false
  /-- The message on the end is terminal. -/
  terminal : ∀ message, Entry.lifeClosing request refusal after = some message →
    message.isTerminal = true
  /-- All are about the analysis that the job was started for. -/
  handle : ∀ message ∈ Entry.about request.job journal, message.job? = some request.handle
  /-- There is one terminal message, unless the job goes on. -/
  count : ((Entry.about request.job journal).filter (·.isTerminal)).length =
    if core.jobs.isLive request.job then 0 else 1

/-- What is heard of a job that was handed over, and what becomes of it. -/
theorem about_of_start (occurrences : List Occurrence) (fresh : Fresh (run {} occurrences).2)
    {before after : List Entry} {request : Job.Request} {refusal : Option Job.Problem}
    (h : (run {} occurrences).2 = before ++ .start request refusal :: after) :
    Entry.about request.job (run {} occurrences).2 =
        (Entry.lifePhases request refusal after).map (.ofPhase request.handle) ++
          (Entry.lifeClosing request refusal after).toList ∧
      (run {} occurrences).1.jobs.isLive request.job =
        (Entry.lifeClosing request refusal after).isNone := by
  have moves := (moved_run sound_empty occurrences).moves
  obtain ⟨u, rest, first, feeds, idle, rfl, last⟩ := moves.of_start h
  rw [h] at fresh ⊢
  have empty : (Core.standing {}).Accounted [] := ⟨Job.Table.sound_empty, nofun⟩
  have accounted : u.Accounted before := first.accounted empty fresh.of_append
  have unlisted := accounted.unlisted fresh request List.mem_cons_self
  have earlier : ∀ other ∈ Entry.starts before, other.job ≠ request.job := fun other ho =>
    fresh.job_ne other ho request List.mem_cons_self
  obtain ⟨silent, -⟩ := first.idle empty fresh.of_append earlier nofun
  rw [← List.cons_append, ← List.append_assoc] at fresh
  have started := (Move.start u request refusal feeds idle).accounted accounted fresh.of_append
  have later : ∀ other ∈ Entry.starts rest, other.job ≠ request.job := fun other ho =>
    Ne.symm (fresh.job_ne request (by simp [Entry.starts]) other ho)
  rw [Entry.about_append, silent, Entry.about_cons, Entry.about_append]
  cases refusal with
  | none =>
    have live : (u.jobs.handOver request.handle none).Live request.handle :=
      Job.Table.live_handOver idle unlisted
    obtain ⟨told, follows⟩ := last.live started fresh later live
    exact ⟨told, follows.isLive⟩
  | some problem =>
    have ended : (u.jobs.handOver request.handle (some problem)).Idle request.job :=
      Job.Table.idle_handOver idle unlisted problem
    obtain ⟨quiet, still⟩ := last.idle started fresh later ended
    rw [quiet]
    refine ⟨?_, still.isLive⟩
    simp [Entry.failure, Entry.about, Entry.messages, Entry.lifePhases, Entry.lifeClosing,
      Message.concerns, Message.job?, Job.Request.handle]

/-- In a run in which no two jobs have one identifier, every job that was handed over is announced to
end exactly once, unless it goes on. -/
theorem each_job_ends_once (occurrences : List Occurrence) (fresh : Fresh (run {} occurrences).2)
    {before after : List Entry} {request : Job.Request} {refusal : Option Job.Problem}
    (h : (run {} occurrences).2 = before ++ .start request refusal :: after) :
    Told (run {} occurrences).1 (run {} occurrences).2 request refusal after := by
  obtain ⟨told, live⟩ := about_of_start occurrences fresh h
  refine ⟨told, fun phase => Entry.isFinal_of_mem_lifePhases,
    fun message hm => (Entry.isTerminal_of_lifeClosing hm).1, ?_, ?_⟩
  · intro message hm
    rw [told] at hm
    rcases List.mem_append.1 hm with hm | hm
    · obtain ⟨phase, -, rfl⟩ := List.mem_map.1 hm
      exact Message.job?_ofPhase _ _
    · exact (Entry.isTerminal_of_lifeClosing (Option.mem_toList.1 hm)).2
  · have running : ((Entry.lifePhases request refusal after).map
        (Message.ofPhase request.handle)).filter Message.isTerminal = [] := by
      refine List.filter_eq_nil_iff.2 ?_
      intro message hm
      obtain ⟨phase, hp, rfl⟩ := List.mem_map.1 hm
      rw [Message.isTerminal_ofPhase, Entry.isFinal_of_mem_lifePhases hp]
      exact Bool.false_ne_true
    rw [told, List.filter_append, running, live]
    cases hc : Entry.lifeClosing request refusal after with
    | none => rfl
    | some message => simp [(Entry.isTerminal_of_lifeClosing hc).1]

/-- The first job of `rerun` starts and is canceled. The report that it has finished is not heard. -/
theorem each_job_ends_once_rerun :
    let request : Job.Request := ⟨.ofNat 1, .ofNat 1,
      ⟨.ofNat 1, .memory ⟨.uint8, [8, 8], [4, 4]⟩, [4, 4, 8, 8]⟩, ⟨.sumFrames, .empty⟩⟩
    let journal := (run {} Occurrence.rerun).2
    Told (run {} Occurrence.rerun).1 journal request none (journal.drop 6) ∧
      Entry.about request.job journal = [.jobStarted request.handle, .jobCanceled request.handle] :=
  ⟨@each_job_ends_once Occurrence.rerun (by decide) ((run {} Occurrence.rerun).2.take 5) _ _ _ rfl,
    rfl⟩

end Core

end Coordination
