/-
Coordination.Proofs.Move — the smallest changes that a core makes.

A command may change many records at once, and publishes one message after
the other. A `Standing` is where a core stands in the middle of this: what
observers know so far, and the jobs that the core holds. A `Move` takes one
standing to the next: either a message about an entity goes out, or one job
starts, ends or goes on. `Standing.Fits` says which messages may go out.

`Proofs/Batch` shows that all that ever happens to a core is a sequence of
moves. What every move keeps is therefore kept by every run, and nothing
below this module has to look at a command again.

A message may not change or remove an analysis that has a current job, nor
replace or delete a dataset that an analysis is over. So while a job is
held, its analysis and its dataset stay as they were when it started.

  §1 Jobs       — what each operation on the table does to the current jobs.
  §2 Standings  — `Standing`, `Standing.Fits`, `Standing.Feeds`, `Standing.Sound`.
  §3 Moves      — `Move`, `Moves`.
  §4 Laws       — observers keep up with every move, and every move keeps `Standing.Sound`.
-/
import Coordination.Proofs.Replica
import Coordination.Proofs.Roster
import Coordination.Proofs.Run

namespace Coordination

open Roster (keys)

/-! ## §1 Jobs -/

namespace Job.Table

variable (table : Table)

theorem current_removeFor (analysis : AnalysisId) :
    (table.removeFor analysis).1.current = Roster.erase analysis table.current := by
  unfold removeFor
  cases h : Roster.find? analysis table.current with
  | none => exact (Roster.erase_eq_self (Roster.find?_eq_none_iff.1 h)).symm
  | some entry => rfl

/-- Retiring drops the record whether or not there is something to announce. -/
theorem retire_fst (analysis : AnalysisId) :
    (table.retire analysis).1 = (table.removeFor analysis).1 := by
  unfold retire
  split <;> simp_all

theorem retire_snd (analysis : AnalysisId) :
    (table.retire analysis).2 = match (table.removeFor analysis).2 with
      | some record =>
        if record.status.isFinal then []
        else [.cancel record.id, .publish (.jobCanceled ⟨record.id, analysis⟩)]
      | none => [] := by
  unfold retire
  split <;> simp_all

@[simp] theorem current_retire (analysis : AnalysisId) :
    (table.retire analysis).1.current = Roster.erase analysis table.current := by
  rw [retire_fst, current_removeFor]

theorem not_mem_current_retire (analysis : AnalysisId) :
    analysis ∉ keys (table.retire analysis).1.current := by
  rw [current_retire, Roster.keys_erase]
  simp

theorem mem_keys_retire {analysis other : AnalysisId} :
    other ∈ keys (table.retire analysis).1.current ↔
      other ∈ keys table.current ∧ other ≠ analysis := by
  rw [current_retire, Roster.keys_erase, List.mem_filter, decide_eq_true_eq]

@[simp] theorem current_setStatus (job : JobId) (status : Status) :
    (table.setStatus job status).1.current = table.current := by
  unfold setStatus; split
  · split <;> rfl
  · rfl

theorem eq_of_setStatus_none {rest : Table} {job : JobId} {status : Status}
    (h : table.setStatus job status = (rest, none)) : rest = table := by
  unfold setStatus at h
  split at h
  · split at h
    · exact (Prod.mk.inj h).1.symm
    · cases h
  · exact (Prod.mk.inj h).1.symm

theorem current_insert (handle : Handle) :
    (table.insert handle).1.current =
      Roster.erase handle.analysis table.current ++ [⟨handle.analysis, handle.job⟩] := by
  unfold insert
  exact congrArg (· ++ _) (current_removeFor table handle.analysis)

end Job.Table

/-! ## §2 Standings -/

/-- Where a core stands: what observers know, and the jobs that the core holds. -/
structure Standing where
  replica : Replica := {}
  jobs : Job.Table := {}

/-- Where a core stands when no change is under way. -/
def Core.standing (core : Core) : Standing := ⟨.ofSnapshot core.snapshot, core.jobs⟩

namespace Standing

/-- There are no entities. -/
def Bare (s : Standing) : Prop :=
  s.replica.datasets = [] ∧ s.replica.compounds = [] ∧ s.replica.analyses = []

/-- Nothing is over a dataset. -/
def Unused (s : Standing) (dataset : DatasetId) : Prop :=
  (∀ c ∈ s.replica.compounds, c.dataset ≠ dataset) ∧ ∀ a ∈ s.replica.analyses, a.dataset ≠ dataset

/-- A message about an entity may go out: what it creates is new, what it changes or removes is
there, what it refers to is there, and nothing refers to what it removes. -/
def Fits (s : Standing) : Message → Prop
  | .connected _ | .disconnected => s.Bare
  | .datasetCreated id dataset =>
    s.replica.connection.isConnected ∧ dataset.id = id ∧ s.Unused id
  | .datasetDeleted id => id ∈ keys s.replica.datasets ∧ s.Unused id
  | .compoundCreated id dataset _ =>
    s.replica.connection.isConnected ∧ id ∉ keys s.replica.compounds ∧
      dataset ∈ keys s.replica.datasets
  | .compoundUpdated id dataset _ =>
    id ∈ keys s.replica.compounds ∧ dataset ∈ keys s.replica.datasets
  | .compoundRemoved id =>
    id ∈ keys s.replica.compounds ∧ ∀ a ∈ s.replica.analyses, a.compound ≠ id
  | .analysisCreated id compound dataset _ =>
    s.replica.connection.isConnected ∧ id ∉ keys s.replica.analyses ∧
      compound ∈ keys s.replica.compounds ∧ dataset ∈ keys s.replica.datasets
  | .analysisUpdated id compound dataset _ =>
    id ∈ keys s.replica.analyses ∧ compound ∈ keys s.replica.compounds ∧
      dataset ∈ keys s.replica.datasets ∧ id ∉ keys s.jobs.current
  | .analysisRemoved id => id ∈ keys s.replica.analyses ∧ id ∉ keys s.jobs.current
  | .initialState _ | .jobStarted _ | .taskResult _ _ _ | .jobFinished _ _ | .jobCanceled _
  | .jobFailed _ _ _ => False

/-- A compound analysis may be stored over a registered dataset, whether it is new or not. -/
theorem fits_compoundStored {s : Standing} {compound : Compound} {created : Bool}
    (connected : s.replica.connection.isConnected = true)
    (h : created = (Roster.find? compound.id s.replica.compounds).isNone)
    (registered : compound.dataset ∈ keys s.replica.datasets) :
    s.Fits (.compoundStored created compound) := by
  cases hc : Roster.find? compound.id s.replica.compounds with
  | none =>
    rw [h, hc]
    exact ⟨connected, Roster.find?_eq_none_iff.1 hc, registered⟩
  | some old =>
    rw [h, hc]
    exact ⟨Roster.mem_keys_of_find? hc, registered⟩

theorem fits_analysisStored {s : Standing} {analysis : Analysis} {created : Bool}
    (connected : s.replica.connection.isConnected = true)
    (h : created = (Roster.find? analysis.id s.replica.analyses).isNone)
    (parent : analysis.compound ∈ keys s.replica.compounds)
    (registered : analysis.dataset ∈ keys s.replica.datasets)
    (idle : created = false → analysis.id ∉ keys s.jobs.current) :
    s.Fits (.analysisStored created analysis) := by
  cases ha : Roster.find? analysis.id s.replica.analyses with
  | none =>
    rw [h, ha]
    exact ⟨connected, Roster.find?_eq_none_iff.1 ha, parent, registered⟩
  | some old =>
    rw [ha] at h
    subst h
    exact ⟨Roster.mem_keys_of_find? ha, parent, registered, idle rfl⟩

/-- A request has the details of its analysis and the dataset that this is over. -/
def Feeds (s : Standing) (request : Job.Request) : Prop :=
  ∃ analysis, Roster.find? request.analysis s.replica.analyses = some analysis ∧
    analysis.details = request.details ∧
    Roster.find? analysis.dataset s.replica.datasets = some request.dataset

/-- What holds between any two messages, also while a removal is under way. -/
structure Sound (s : Standing) : Prop where
  datasets_nodup : (keys s.replica.datasets).Nodup
  registered : ∀ c ∈ s.replica.compounds, c.dataset ∈ keys s.replica.datasets
  /-- Without a connection there are no entities. -/
  vacant : s.replica.connection.isConnected = false → s.Bare
  /-- An analysis that has a current job exists. -/
  tracked : ∀ a ∈ keys s.jobs.current, a ∈ keys s.replica.analyses

end Standing

/-! ## §3 Moves -/

/-- What the engine's refusal of a job makes public. -/
def Entry.failure (request : Job.Request) : Option Job.Problem → List Entry
  | some problem =>
    [.publish (.jobFailed request.handle problem.rejection.code problem.rejection.text)]
  | none => []

/-- The table after a job was handed over. -/
def Job.Table.handOver (table : Job.Table) (handle : Job.Handle) :
    Option Job.Problem → Job.Table
  | some _ => ((table.insert handle).1.setStatus handle.job .error).1
  | none => (table.insert handle).1

/-- The smallest changes of a standing, each with its entries in the journal. -/
inductive Move : Standing → List Entry → Standing → Prop
  | probe (s : Standing) (address : Connection.Address) : Move s [.probe address] s
  /-- A message about an entity goes out. -/
  | tell (s : Standing) (message : Message) (fits : s.Fits message) :
    Move s [.publish message] { s with replica := s.replica.hear message }
  /-- The job of an analysis is dropped, and canceled if it is live. -/
  | retire (s : Standing) (analysis : AnalysisId) :
    Move s (Entry.ofEffects Core.accepting (s.jobs.retire analysis).2)
      { s with jobs := (s.jobs.retire analysis).1 }
  /-- A job is handed over for an analysis that has none. -/
  | start (s : Standing) (request : Job.Request) (refusal : Option Job.Problem)
    (feeds : s.Feeds request) (idle : request.analysis ∉ keys s.jobs.current) :
    Move s (.start request refusal :: Entry.failure request refusal)
      { s with jobs := s.jobs.handOver request.handle refusal }
  /-- A live job is canceled and stays listed. -/
  | cancel (s : Standing) {record : Job.Record} (found : s.jobs.get? record.id = some record)
    (live : record.status.isFinal = false) :
    Move s [.cancel record.id, .publish (.jobCanceled record.handle)]
      { s with jobs := (s.jobs.setStatus record.id .canceled).1 }
  /-- A report comes in. -/
  | report (s : Standing) (report : Job.Report) :
    Move s (.report report :: ((s.jobs.apply report).2.toList.map fun record =>
        .publish (.ofPhase record.handle report.phase)))
      { s with jobs := (s.jobs.apply report).1 }
  /-- Records that are nobody's current job are forgotten. -/
  | forget (s : Standing) (none : s.jobs.current = []) : Move s [] { s with jobs := {} }

/-- Moves one after the other. -/
inductive Moves : Standing → List Entry → Standing → Prop
  | refl (s : Standing) : Moves s [] s
  | step {s t u : Standing} {entries more : List Entry} (move : Move s entries t)
    (rest : Moves t more u) : Moves s (entries ++ more) u

namespace Moves

variable {s t u : Standing} {entries more : List Entry}

theorem single (move : Move s entries t) : Moves s entries t :=
  List.append_nil entries ▸ .step move (.refl t)

theorem trans (before : Moves s entries t) (after : Moves t more u) :
    Moves s (entries ++ more) u := by
  induction before with
  | refl s => exact after
  | step move _ ih =>
    rw [List.append_assoc]
    exact .step move (ih after)

/-- What every move keeps is kept by all moves, also if it speaks of the journal. -/
theorem invariant {P : Standing → List Entry → Prop}
    (keeps : ∀ {s t journal entries}, P s journal → Move s entries t → P t (journal ++ entries))
    (journal : List Entry) (start : P s journal) (moves : Moves s entries t) :
    P t (journal ++ entries) := by
  induction moves generalizing journal with
  | refl s => simpa using start
  | step move _ ih =>
    rw [← List.append_assoc]
    exact ih _ (keeps start move)

end Moves

/-! ## §4 Laws -/

/-- The messages about jobs that go with a move say nothing about entities. -/
theorem Move.replica_eq {s t : Standing} {entries : List Entry} (move : Move s entries t) :
    t.replica = s.replica.hearAll (Entry.messages entries) := by
  cases move with
  | probe => rfl
  | tell => rfl
  | retire analysis =>
    rw [Job.Table.retire_snd]
    split
    · split <;> rfl
    · rfl
  | start request refusal =>
    cases refusal <;> rfl
  | cancel => rfl
  | report report =>
    cases (s.jobs.apply report).2 with
    | none => rfl
    | some record => exact (Replica.hear_ofPhase _ _ _).symm
  | forget => rfl

/-- What observers know is what they made of the messages. -/
theorem Moves.replica_eq {s t : Standing} {entries : List Entry} (moves : Moves s entries t) :
    t.replica = s.replica.hearAll (Entry.messages entries) := by
  induction moves with
  | refl s => rfl
  | step move _ ih =>
    rw [ih, move.replica_eq, Entry.messages_append, Replica.hearAll_append]

namespace Standing

variable {s : Standing}

/-- Entities do not depend on jobs. -/
theorem Sound.of_jobs (h : s.Sound) {jobs : Job.Table}
    (tracked : ∀ a ∈ keys jobs.current, a ∈ keys s.jobs.current ∨ a ∈ keys s.replica.analyses) :
    Sound { s with jobs := jobs } where
  datasets_nodup := h.datasets_nodup
  registered := h.registered
  vacant := h.vacant
  tracked a ha := (tracked a ha).elim (h.tracked a) id

/-- What a message tells of may be told. -/
theorem Sound.hear (h : s.Sound) {message : Message} (fits : s.Fits message) :
    Sound { s with replica := s.replica.hear message } := by
  cases message with
  | initialState | jobStarted | taskResult | jobFinished | jobCanceled | jobFailed => exact fits.elim
  | connected | disconnected =>
    exact ⟨h.datasets_nodup, h.registered, fun _ => fits, h.tracked⟩
  | datasetCreated id dataset =>
    obtain ⟨connected, rfl, unused, -⟩ := fits
    refine ⟨Roster.nodup_keys_renew h.datasets_nodup dataset, ?_, ?_, h.tracked⟩
    · intro c hc
      show c.dataset ∈ keys (Roster.renew dataset s.replica.datasets)
      have other : c.dataset ≠ dataset.id := unused c hc
      simp [Roster.keys_renew, h.registered c hc, Keyed.key, other]
    · intro detached
      exact absurd detached (ne_false_of_eq_true connected)
  | datasetDeleted id =>
    obtain ⟨there, unused, -⟩ := fits
    refine ⟨Roster.nodup_keys_erase h.datasets_nodup id, ?_, ?_, h.tracked⟩
    · intro c hc
      show c.dataset ∈ keys (Roster.erase id s.replica.datasets)
      have other : c.dataset ≠ id := unused c hc
      simp [Roster.keys_erase, h.registered c hc, other]
    · intro detached
      exact absurd (h.vacant detached).1 (Roster.ne_nil_of_mem_keys there)
  | compoundCreated id dataset details =>
    obtain ⟨connected, -, there⟩ := fits
    refine ⟨h.datasets_nodup, ?_, ?_, h.tracked⟩
    · intro c hc
      rcases List.mem_append.1 hc with hc | hc
      · exact h.registered c hc
      · obtain rfl := List.mem_singleton.1 hc
        exact there
    · intro detached
      exact absurd detached (ne_false_of_eq_true connected)
  | compoundUpdated id dataset details =>
    obtain ⟨there, registered⟩ := fits
    refine ⟨h.datasets_nodup, ?_, ?_, h.tracked⟩
    · intro c hc
      rcases Roster.mem_replace hc with rfl | ⟨hc, -⟩
      · exact registered
      · exact h.registered c hc
    · intro detached
      exact absurd (h.vacant detached).2.1 (Roster.ne_nil_of_mem_keys there)
  | compoundRemoved id =>
    obtain ⟨there, -⟩ := fits
    refine ⟨h.datasets_nodup, ?_, ?_, h.tracked⟩
    · intro c hc
      exact h.registered c (List.mem_filter.1 hc).1
    · intro detached
      exact absurd (h.vacant detached).2.1 (Roster.ne_nil_of_mem_keys there)
  | analysisCreated id compound dataset details =>
    obtain ⟨connected, -⟩ := fits
    refine ⟨h.datasets_nodup, h.registered, ?_, ?_⟩
    · intro detached
      exact absurd detached (ne_false_of_eq_true connected)
    · intro a ha
      show a ∈ keys (s.replica.analyses ++ _)
      rw [keys, List.map_append]
      exact List.mem_append_left _ (h.tracked a ha)
  | analysisUpdated id compound dataset details =>
    obtain ⟨there, -⟩ := fits
    refine ⟨h.datasets_nodup, h.registered, ?_, ?_⟩
    · intro detached
      exact absurd (h.vacant detached).2.2 (Roster.ne_nil_of_mem_keys there)
    · intro a ha
      show a ∈ keys (Roster.replace _ s.replica.analyses)
      rw [Roster.keys_replace]
      exact h.tracked a ha
  | analysisRemoved id =>
    obtain ⟨there, idle⟩ := fits
    refine ⟨h.datasets_nodup, h.registered, ?_, ?_⟩
    · intro detached
      exact absurd (h.vacant detached).2.2 (Roster.ne_nil_of_mem_keys there)
    · intro a ha
      show a ∈ keys (Roster.erase id s.replica.analyses)
      have other : a ≠ id := by
        rintro rfl
        exact idle ha
      simp [Roster.keys_erase, h.tracked a ha, other]

end Standing

/-- The current jobs after one was handed over. -/
theorem Job.Table.current_handOver (table : Job.Table) (handle : Job.Handle)
    (refusal : Option Job.Problem) :
    (table.handOver handle refusal).current =
      Roster.erase handle.analysis table.current ++ [⟨handle.analysis, handle.job⟩] := by
  cases refusal with
  | none => exact table.current_insert handle
  | some problem => exact (current_setStatus _ _ _).trans (table.current_insert handle)

theorem Job.Table.mem_keys_handOver {table : Job.Table} {handle : Job.Handle}
    {refusal : Option Job.Problem} {analysis : AnalysisId} :
    analysis ∈ keys (table.handOver handle refusal).current ↔
      analysis = handle.analysis ∨ analysis ∈ keys table.current := by
  rw [current_handOver, keys, List.map_append, List.mem_append, ← keys, Roster.keys_erase]
  by_cases same : analysis = handle.analysis <;> simp [same, Keyed.key]

theorem Move.sound {s t : Standing} {entries : List Entry} (move : Move s entries t)
    (h : s.Sound) : t.Sound := by
  cases move with
  | probe => exact h
  | tell message fits => exact h.hear fits
  | retire analysis =>
    refine h.of_jobs fun a ha => .inl ?_
    rw [Job.Table.current_retire, Roster.keys_erase] at ha
    exact (List.mem_filter.1 ha).1
  | start request refusal feeds idle =>
    have kept : Roster.erase request.handle.analysis s.jobs.current = s.jobs.current :=
      Roster.erase_eq_self idle
    refine h.of_jobs ?_
    intro a ha
    rw [Job.Table.current_handOver, kept, keys, List.map_append] at ha
    refine (List.mem_append.1 ha).imp id ?_
    intro ha
    obtain rfl := List.mem_singleton.1 ha
    obtain ⟨analysis, found, -⟩ := feeds
    exact Roster.mem_keys_of_find? found
  | cancel => exact h.of_jobs fun a ha => .inl (Job.Table.current_setStatus _ _ _ ▸ ha)
  | report report => exact h.of_jobs fun a ha => .inl (Job.Table.current_setStatus _ _ _ ▸ ha)
  | forget => exact h.of_jobs (List.forall_mem_nil _)

theorem Moves.sound {s t : Standing} {entries : List Entry} (moves : Moves s entries t)
    (h : s.Sound) : t.Sound :=
  invariant (P := fun s _ => s.Sound) (fun h move => move.sound h) [] h moves

end Coordination
