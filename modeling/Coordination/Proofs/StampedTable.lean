/-
Coordination.Proofs.StampedTable — a job table kept in hash tables.

A server that looks up by hash keeps the records of jobs in one table, each
with a number, and in another one which job is the current one of an
analysis. The two are changed one after the other, and whoever asks for a
list gets the records sorted by number. Here such a table is written out
(`StampedTable`), and it does what the lists of `Job.Table` do (`Agrees`):
after every operation the one shows the other, and the answers are the same.

So what `Proofs/JobHistory` reads off the operations holds of the hash
tables, whatever the hash and in whatever order they give out their entries
(`Tells`).

  §1 Store      — `StampedTable`, operation by operation.
  §2 Agreement  — `Matches`, `Agrees`, for every operation.
  §3 Runs       — `matches_run`, `next_run_le`.
  §4 History    — `Tells`, `table_tells_history`.
-/
import Coordination.Proofs.JobHistory
import Coordination.Proofs.Stamps

namespace Coordination.Job

open Roster (keys)
open Table (Operation entered survivors)

/-! ## §1 Store -/

/-- What a table gives back for an operation: the record that is superseded, updated or dropped. -/
def Table.answer (table : Table) : Operation → Option Record
  | .insert handle => (table.insert handle).2
  | .apply report => (table.apply report).2
  | .setStatus job status => (table.setStatus job status).2
  | .removeFor analysis => (table.removeFor analysis).2
  | .clear => none

/-- A job table in two hash tables. -/
structure StampedTable [Hashable JobId] [Hashable AnalysisId] where
  jobs : Ledger JobId Record := {}
  /-- The current job of each analysis that has one. -/
  current : Std.HashMap AnalysisId JobId := ∅
  /-- The number of the next job. -/
  next : Nat := 0

namespace StampedTable

variable [Hashable JobId] [Hashable AnalysisId]

def get? (store : StampedTable) (id : JobId) : Option Record := store.jobs.find? id

def currentFor (store : StampedTable) (analysis : AnalysisId) : Option Record :=
  store.current[analysis]?.bind store.get?

/-- The records in the order in which the jobs were started. -/
def list (store : StampedTable) : List Record := store.jobs.list

/-- Drops the current job of an analysis and gives its record. -/
def removeFor (store : StampedTable) (analysis : AnalysisId) : StampedTable × Option Record :=
  match store.current[analysis]? with
  | some job =>
    ({ store with jobs := store.jobs.erase job, current := store.current.erase analysis },
      store.get? job)
  | none => (store, none)

/-- Records a new job under the next number; also gives the record that it supersedes. -/
def insert (store : StampedTable) (handle : Handle) : StampedTable × Option Record :=
  let cleared := store.removeFor handle.analysis
  ({ jobs := cleared.1.jobs.enter cleared.1.next ⟨handle.job, handle.analysis, .created⟩
     current := cleared.1.current.insert handle.analysis handle.job
     next := cleared.1.next + 1 }, cleared.2)

/-- Moves a live job to a status; its record keeps the number. -/
def setStatus (store : StampedTable) (id : JobId) (status : Status) :
    StampedTable × Option Record :=
  match store.get? id with
  | some record =>
    if record.status.isFinal then (store, none)
    else
      ({ store with jobs := store.jobs.change id fun r => { r with status := status } },
        some { record with status := status })
  | none => (store, none)

def apply (store : StampedTable) (report : Report) : StampedTable × Option Record :=
  store.setStatus report.job report.phase.status

/-- Drops all jobs. The numbers go on. -/
def clear (store : StampedTable) : StampedTable := { store with jobs := {}, current := ∅ }

def perform (store : StampedTable) : Operation → StampedTable × Option Record
  | .insert handle => store.insert handle
  | .apply report => store.apply report
  | .setStatus job status => store.setStatus job status
  | .removeFor analysis => store.removeFor analysis
  | .clear => (store.clear, none)

def run (store : StampedTable) (operations : List Operation) : StampedTable :=
  operations.foldl (fun store operation => (store.perform operation).1) store

/-! ## §2 Agreement -/

/-- A stamped table shows a table. -/
structure Matches (store : StampedTable) (table : Table) : Prop where
  jobs : store.jobs.Keeps store.next table.records
  current : ∀ analysis,
    store.current[analysis]? = (Roster.find? analysis table.current).map (·.job)

/-- What was made of a stamped table is what was made of a table. -/
structure Agrees (made : StampedTable × Option Record) (result : Table × Option Record) : Prop where
  stores : Matches made.1 result.1
  given : made.2 = result.2

variable {store : StampedTable} {table : Table}

theorem matches_empty (next : Nat) : Matches { next := next } {} :=
  ⟨Ledger.keeps_empty next, fun _ => Std.HashMap.getElem?_empty⟩

theorem Matches.get? (m : Matches store table) (id : JobId) : store.get? id = table.get? id :=
  m.jobs.shows.found id

theorem Matches.currentFor (m : Matches store table) (analysis : AnalysisId) :
    store.currentFor analysis = table.currentFor analysis := by
  rw [StampedTable.currentFor, Table.currentFor, m.current, Option.bind_map]
  exact congrArg _ (funext fun entry => m.get? entry.job)

theorem Matches.removeFor (m : Matches store table) (analysis : AnalysisId) :
    Agrees (store.removeFor analysis) (table.removeFor analysis) := by
  unfold StampedTable.removeFor Table.removeFor
  rw [m.current]
  cases Roster.find? analysis table.current with
  | none => exact ⟨m, rfl⟩
  | some entry =>
    refine ⟨⟨m.jobs.erase entry.job, fun other => ?_⟩, m.get? entry.job⟩
    show (store.current.erase analysis)[other]? = _
    rw [Std.HashMap.getElem?_erase, m.current, Roster.find?_erase]
    by_cases same : other = analysis
    · simp [same]
    · simp [same, Ne.symm same]

theorem Matches.insert (m : Matches store table) (handle : Handle) :
    Agrees (store.insert handle) (table.insert handle) := by
  obtain ⟨cleared, superseded⟩ := m.removeFor handle.analysis
  refine ⟨⟨cleared.jobs.enter _, fun other => ?_⟩, superseded⟩
  show ((store.removeFor handle.analysis).1.current.insert handle.analysis handle.job)[other]? =
    (Roster.find? other ((table.removeFor handle.analysis).1.current ++ [_])).map (·.job)
  rw [Std.HashMap.getElem?_insert, cleared.current, Roster.find?_append]
  by_cases same : other = handle.analysis
  · -- the analysis has had its current job dropped
    have idle := table.not_mem_current_retire handle.analysis
    rw [Table.retire_fst, ← Roster.find?_eq_none_iff] at idle
    subst same
    simp [idle, Roster.find?, Keyed.key]
  · simp [Ne.symm same, Roster.find?, Keyed.key]

theorem Matches.setStatus (m : Matches store table) (id : JobId) (status : Status) :
    Agrees (store.setStatus id status) (table.setStatus id status) := by
  unfold StampedTable.setStatus Table.setStatus
  rw [m.get?]
  cases found : table.get? id with
  | none => exact ⟨m, rfl⟩
  | some record =>
    by_cases ended : record.status.isFinal = true
    · simp only [if_pos ended]
      exact ⟨m, rfl⟩
    · simp only [if_neg ended]
      have own : Keyed.key record = id := Roster.key_of_find?_eq_some found
      have changed := m.jobs.change (k := id) (f := fun r => { r with status := status })
        fun _ same => same
      rw [← Roster.replace_eq_update m.jobs.shows.apart found own] at changed
      exact ⟨⟨changed, m.current⟩, rfl⟩

/-- The stamped table does what the table does. -/
theorem Matches.perform (m : Matches store table) (operation : Operation) :
    Agrees (store.perform operation) (table.step operation, table.answer operation) := by
  cases operation with
  | insert handle => exact m.insert handle
  | apply report => exact m.setStatus report.job report.phase.status
  | setStatus job status => exact m.setStatus job status
  | removeFor analysis => exact m.removeFor analysis
  | clear => exact ⟨matches_empty store.next, rfl⟩

/-! ## §3 Runs -/

theorem Matches.run (m : Matches store table) (operations : List Operation) :
    Matches (store.run operations) (table.run operations) := by
  induction operations generalizing store table with
  | nil => exact m
  | cons operation rest ih => exact ih (m.perform operation).stores

/-- Only a job that is entered uses up a number. -/
theorem next_perform_le (store : StampedTable) (operation : Operation) :
    (store.perform operation).1.next ≤ store.next + 1 := by
  have unused : store.next ≤ store.next + 1 := Nat.le_succ store.next
  have dropped (analysis : AnalysisId) : (store.removeFor analysis).1.next = store.next := by
    unfold removeFor
    split <;> rfl
  have moved (job : JobId) (status : Status) :
      (store.setStatus job status).1.next = store.next := by
    unfold setStatus
    split
    · split <;> rfl
    · rfl
  cases operation with
  | insert handle => exact Nat.le_of_eq (congrArg (· + 1) (dropped handle.analysis))
  | apply report => exact (moved _ _).symm ▸ unused
  | setStatus job status => exact (moved job status).symm ▸ unused
  | removeFor analysis => exact (dropped analysis).symm ▸ unused
  | clear => exact unused

theorem next_run_le (operations : List Operation) :
    (run {} operations).next ≤ operations.length :=
  Nat.le_trans (Ledger.next_foldl_le next_perform_le operations {}) (Nat.le_of_eq (Nat.zero_add _))

/-! ## §4 History -/

/-- What operations on a new job table tell of it. -/
structure Tells (operations : List Operation) (store : StampedTable) : Prop where
  /-- The records that are listed are found under their jobs, -/
  found : ∀ job record, store.get? job = some record ↔ record ∈ store.list ∧ record.id = job
  /-- and the two tables are inverse to each other. -/
  inverse : ∀ analysis job, store.current[analysis]? = some job ↔
    (store.get? job).map (·.analysis) = some analysis
  /-- So an analysis has one record at most, -/
  single : ∀ job record, store.get? job = some record → ∀ other found,
    store.get? other = some found → record.analysis = found.analysis → job = other
  /-- and its current record is the one that is of it. -/
  current : ∀ analysis record, store.currentFor analysis = some record ↔
    store.get? record.id = some record ∧ record.analysis = analysis
  /-- A new job supersedes the record of its analysis, and that is the only one that goes. -/
  superseded : ∀ handle : Handle, handle.job ∉ keys (entered operations) → ∀ record,
    ((store.insert handle).2 = some record ↔
      store.get? record.id = some record ∧ record.analysis = handle.analysis) ∧
    ((store.insert handle).2 = some record ↔
      store.get? record.id = some record ∧ (store.insert handle).1.get? record.id = none)
  /-- A record that has ended stays as it is until the job of its analysis is dropped, and then it
  is gone for good. -/
  ended : ∀ record, store.get? record.id = some record → record.status.isFinal = true → ∀ later,
    (keys (entered (operations ++ later))).Nodup → (store.run later).get? record.id =
      if later.any (Operation.drops record.analysis) then none else some record
  /-- What is listed is what survives, in the order in which it was entered. -/
  listed : ∀ entries, entries.Perm store.jobs.entries →
    Stamped.sorted entries = survivors operations
  /-- A table of lists has the same records, -/
  records : store.list = (Table.run {} operations).records
  /-- and gives the same back for every operation. -/
  answers : ∀ operation, (store.perform operation).2 = (Table.run {} operations).answer operation
  /-- There are no more numbers than operations. -/
  numbers : store.next ≤ operations.length

/-- A job table in hash tables after operations that never enter two jobs under one identifier. -/
theorem table_tells_history (operations : List Operation)
    (fresh : (keys (entered operations)).Nodup) : Tells operations (run {} operations) := by
  have m : Matches (run {} operations) (Table.run {} operations) :=
    (matches_empty 0).run operations
  obtain ⟨sound, survived⟩ := Table.run_spec fresh
  have listed (record : Record) : (Table.run {} operations).get? record.id = some record ↔
      record ∈ (Table.run {} operations).records :=
    (Roster.find?_eq_some_iff sound.ids_nodup).trans (and_iff_left rfl)
  -- what is listed was entered
  have known (handle : Handle) (new : handle.job ∉ keys (entered operations)) :
      handle.job ∉ keys (Table.run {} operations).records := by
    rw [survived]
    exact fun there => new ((Table.keys_survivors_sublist operations).subset there)
  refine ⟨?_, ?_, ?_, ?_, ?_, ?_, ?_, m.jobs.list, fun operation => (m.perform operation).given,
    next_run_le operations⟩
  · intro job record
    rw [m.get?, StampedTable.list, m.jobs.list]
    exact Roster.find?_eq_some_iff sound.ids_nodup
  · intro analysis job
    rw [m.current, m.get?]
    exact sound.current_iff analysis job
  · intro job record found other found' there same
    rw [m.get?] at found there
    have one := sound.eq_of_analysis (Roster.mem_of_find?_eq_some found)
      (Roster.mem_of_find?_eq_some there) same
    exact (Roster.key_of_find?_eq_some found).symm.trans
      ((congrArg Record.id one).trans (Roster.key_of_find?_eq_some there))
  · intro analysis record
    rw [m.currentFor, m.get?, listed]
    exact sound.currentFor_iff
  · intro handle new record
    have inserted := m.insert handle
    obtain ⟨of, gone⟩ := sound.insert_snd_iff (known handle new) record
    rw [inserted.given, inserted.stores.get?, m.get?, listed]
    refine ⟨of, gone.trans (and_congr_right fun there => ?_)⟩
    exact (sound.get?_insert_eq_none_iff (known handle new) there).symm
  · intro record found final later again
    rw [m.get?, listed] at found
    rw [(m.run later).get?]
    exact Table.get?_run_of_final again found final
  · intro entries perm
    rw [← survived]
    exact m.jobs.shows.listed entries perm

end StampedTable

/-- A job that has ended is asked to run again and stays as it is, and the job that was entered
first is superseded, so what it reports later meets nothing. Identifiers are hashed by their last
digits. -/
theorem StampedTable.table_tells_history_superseded :
    let _jobs : Hashable JobId := ⟨fun id => .ofNat id.uuid.toNat⟩
    let _analyses : Hashable AnalysisId := ⟨fun id => .ofNat id.uuid.toNat⟩
    let operations : List Operation := [.insert ⟨.ofNat 1, .ofNat 1⟩, .insert ⟨.ofNat 2, .ofNat 2⟩,
      .setStatus (.ofNat 2) .finished, .insert ⟨.ofNat 3, .ofNat 1⟩, .setStatus (.ofNat 2) .running,
      .apply ⟨.ofNat 1, .canceled⟩, .apply ⟨.ofNat 3, .started⟩, .removeFor (.ofNat 3)]
    let late : List Operation := [.apply ⟨.ofNat 2, .started⟩, .insert ⟨.ofNat 4, .ofNat 1⟩]
    let store := run {} operations
    (keys (entered (operations ++ late))).Nodup ∧ Tells operations store ∧
    store.list = [⟨.ofNat 2, .ofNat 2, .finished⟩, ⟨.ofNat 3, .ofNat 1, .running⟩] ∧
    store.current[(.ofNat 1 : AnalysisId)]? = some (.ofNat 3) ∧
    (store.insert ⟨.ofNat 4, .ofNat 1⟩).2 = some ⟨.ofNat 3, .ofNat 1, .running⟩ ∧
    (store.run late).get? (.ofNat 2) = some ⟨.ofNat 2, .ofNat 2, .finished⟩ ∧
    (store.run (late ++ [.removeFor (.ofNat 2)])).get? (.ofNat 2) = none := by
  intro jobs analyses operations late store
  have fresh : (keys (entered operations)).Nodup := by decide
  have all : (keys (entered (operations ++ late))).Nodup := by decide
  have tells : Tells operations store := table_tells_history operations fresh
  clear_value jobs analyses
  have listed : store.list =
      [⟨.ofNat 2, .ofNat 2, .finished⟩, ⟨.ofNat 3, .ofNat 1, .running⟩] := by
    rw [tells.records]
    decide
  clear_value store
  have finished : store.get? (.ofNat 2) = some ⟨.ofNat 2, .ofNat 2, .finished⟩ := by
    rw [tells.found, listed]
    exact ⟨List.mem_cons_self, rfl⟩
  have running : store.get? (.ofNat 3) = some ⟨.ofNat 3, .ofNat 1, .running⟩ := by
    rw [tells.found, listed]
    exact ⟨List.mem_cons_of_mem _ List.mem_cons_self, rfl⟩
  refine ⟨all, tells, listed, ?_, ?_, ?_, ?_⟩
  · rw [tells.inverse, running]
    rfl
  · have new : (.ofNat 4 : JobId) ∉ keys (entered operations) := by decide
    obtain ⟨of, -⟩ := tells.superseded ⟨.ofNat 4, .ofNat 1⟩ new ⟨.ofNat 3, .ofNat 1, .running⟩
    exact of.2 ⟨running, rfl⟩
  · exact tells.ended ⟨.ofNat 2, .ofNat 2, .finished⟩ finished rfl late all
  · exact tells.ended ⟨.ofNat 2, .ofNat 2, .finished⟩ finished rfl (late ++ [_]) all

end Coordination.Job
