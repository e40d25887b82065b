/-
Coordination.Proofs.JobHistory — what a job table holds after any operations.

A table keeps records by job and, beside them, the current job of each
analysis. Of the two lists each can be had from the other as long as every
job that is entered has an identifier of its own (`Table.Sound`), and then
what is listed can be read off the operations alone: the jobs that were
entered and not dropped since, in the order in which they were entered, each
with the last status that was asked for before it ended (`survivors`).

One equation says what an operation does to the records (`Sound.step`): some
go, the status of others moves, and at most one record comes last. The same
equation holds of the survivors (`survivors_concat`).

  §1 Operations  — `Operation`, `step`, `run`.
  §2 Survivors   — `survivors`, from the operations alone.
  §3 Steps       — what an operation does to a sound table.
  §4 Runs        — `run_spec`, and what follows for the records that are listed.
-/
import Coordination.Proofs.JobStops
import Mathlib.Data.List.Induction

namespace Coordination.Job

open Roster (keys)

/-! ## §1 Operations -/

namespace Table

/-- An operation on a table. -/
inductive Operation where
  | insert (handle : Handle)
  | apply (report : Report)
  | setStatus (job : JobId) (status : Status)
  | removeFor (analysis : AnalysisId)
  | clear
  deriving Repr

def step (table : Table) : Operation → Table
  | .insert handle => (table.insert handle).1
  | .apply report => (table.apply report).1
  | .setStatus job status => (table.setStatus job status).1
  | .removeFor analysis => (table.removeFor analysis).1
  | .clear => {}

def run (table : Table) (operations : List Operation) : Table := operations.foldl step table

/-! ## §2 Survivors -/

namespace Operation

/-- The record that an operation enters. -/
def entered? : Operation → Option Record
  | insert handle => some ⟨handle.job, handle.analysis, .created⟩
  | apply _ | setStatus _ _ | removeFor _ | clear => none

/-- Whether an operation drops the job of an analysis. -/
def drops (analysis : AnalysisId) : Operation → Bool
  | insert handle => handle.analysis = analysis
  | removeFor other => other = analysis
  | clear => true
  | apply _ | setStatus _ _ => false

/-- The status that an operation asks for, if it is about a job. -/
def asked? (job : JobId) : Operation → Option Status
  | apply report => if report.job = job then some report.phase.status else none
  | setStatus other status => if other = job then some status else none
  | insert _ | removeFor _ | clear => none

/-- A record after an operation that does not drop it. A final status stays. -/
def move (operation : Operation) (record : Record) : Record :=
  if record.status.isFinal then record
  else { record with status := (operation.asked? record.id).getD record.status }

end Operation

/-- The records that operations enter, whatever becomes of them. -/
def entered (operations : List Operation) : List Record := operations.filterMap Operation.entered?

/-- A record after operations that do not drop it. -/
def settle (record : Record) (operations : List Operation) : Record :=
  operations.foldl (fun record operation => operation.move record) record

/-- The records that are entered and not dropped later, in the order in which they are entered, as
the operations after that leave them. -/
def survivors : List Operation → List Record
  | [] => []
  | operation :: later => match operation.entered? with
    | none => survivors later
    | some record =>
      if later.any (Operation.drops record.analysis) then survivors later
      else settle record later :: survivors later

section Survivors

variable (record : Record) (operation : Operation) (operations later : List Operation)

theorem handle_move : (operation.move record).handle = record.handle := by
  unfold Operation.move
  split <;> rfl

/-- A record stays as it is under an operation that asks nothing of its job. -/
theorem move_of_not_asked {record : Record} {operation : Operation}
    (h : operation.asked? record.id = none) : operation.move record = record := by
  rw [Operation.move, h]
  exact ite_self _

theorem move_of_final {record : Record} (h : record.status.isFinal = true) :
    operation.move record = record := if_pos h

theorem settle_append :
    settle record (operations ++ later) = settle (settle record operations) later :=
  List.foldl_append

/-- A status may change, but not which job a record is of, and of which analysis. -/
theorem handle_settle : (settle record operations).handle = record.handle := by
  induction operations generalizing record with
  | nil => rfl
  | cons operation rest ih =>
    exact (ih (operation.move record)).trans (handle_move record operation)

@[simp] theorem id_settle : (settle record operations).id = record.id :=
  congrArg Handle.job (handle_settle record operations)

@[simp] theorem analysis_settle : (settle record operations).analysis = record.analysis :=
  congrArg Handle.analysis (handle_settle record operations)

theorem settle_of_final {record : Record} (h : record.status.isFinal = true) :
    settle record operations = record := by
  induction operations with
  | nil => rfl
  | cons operation rest ih =>
    show settle (operation.move record) rest = record
    rw [move_of_final operation h, ih]

/-- Later operations drop some of the survivors, settle the others, and have survivors of their
own. -/
theorem survivors_append : survivors (operations ++ later) =
    (((survivors operations).filter fun r => !later.any (Operation.drops r.analysis)).map
      fun r => settle r later) ++ survivors later := by
  induction operations with
  | nil => rfl
  | cons operation rest ih =>
    rw [List.cons_append, survivors, survivors]
    cases operation.entered? with
    | none => exact ih
    | some record =>
      simp only [List.any_append]
      cases dropped : rest.any (Operation.drops record.analysis) with
      | true => exact ih
      | false =>
        cases next : later.any (Operation.drops record.analysis) with
        | true => simpa [next] using ih
        | false => simp [next, settle_append, ih]

theorem survivors_concat : survivors (operations ++ [operation]) =
    (((survivors operations).filter fun r => !operation.drops r.analysis).map operation.move) ++
      operation.entered?.toList := by
  have last : survivors [operation] = operation.entered?.toList := by
    rw [survivors]
    cases operation.entered? <;> rfl
  simp [survivors_append, last, settle]

/-- Of the jobs that are entered some survive. -/
theorem keys_survivors_sublist :
    (keys (survivors operations)).Sublist (keys (entered operations)) := by
  induction operations with
  | nil => exact .slnil
  | cons operation rest ih =>
    rw [survivors, entered, List.filterMap_cons]
    cases operation.entered? with
    | none => exact ih
    | some record =>
      dsimp only
      split
      · exact ih.cons _
      · have id : Keyed.key (settle record rest) = record.id := id_settle record rest
        rw [keys, List.map_cons, id]
        exact ih.cons_cons _

theorem keys_entered_append :
    keys (entered (operations ++ later)) = keys (entered operations) ++ keys (entered later) := by
  rw [entered, List.filterMap_append, keys, List.map_append]
  rfl

end Survivors

/-! ## §3 Steps -/

variable {table : Table}

/-- A status is asked for and goes to the job that it is for, unless that has ended. -/
theorem Sound.records_setStatus (h : table.Sound) (job : JobId) (status : Status) :
    (table.setStatus job status).1.records =
      table.records.map (Operation.setStatus job status).move := by
  have others : ∀ r ∈ table.records, r.id ≠ job → (Operation.setStatus job status).move r = r :=
    fun r _ other => move_of_not_asked (if_neg (Ne.symm other))
  cases found : table.get? job with
  | none =>
    have absent : ∀ r ∈ table.records, r.id ≠ job := by
      rintro r listed rfl
      exact Roster.find?_eq_none_iff.1 found (Roster.key_mem_keys listed)
    rw [setStatus_of_not_live (by simp [found])]
    exact (Roster.map_eq_self fun r listed => others r listed (absent r listed)).symm
  | some record =>
    obtain rfl : record.id = job := Roster.key_of_find?_eq_some found
    have one : ∀ r ∈ table.records, r.id = record.id → r = record := fun r listed same =>
      Roster.eq_of_find? h.ids_nodup listed same found
    cases ended : record.status.isFinal with
    | true =>
      rw [setStatus_of_not_live (by simp [found, ended])]
      refine (Roster.map_eq_self fun r listed => ?_).symm
      by_cases same : r.id = record.id
      · rw [one r listed same]
        exact move_of_final _ ended
      · exact others r listed same
    | false =>
      rw [setStatus_of_live found ended]
      refine List.map_congr_left fun r listed => ?_
      by_cases same : r.id = record.id
      · have moved : (Operation.setStatus record.id status).move record =
            { record with status := status } := by
          simp [Operation.move, Operation.asked?, ended]
        rw [one r listed same, moved]
        exact if_pos rfl
      · rw [others r listed same]
        exact if_neg same

theorem Sound.removeFor_spec (h : table.Sound) (analysis : AnalysisId) :
    (table.removeFor analysis).1.Sound ∧
      (table.removeFor analysis).1.records = table.records.filter (·.analysis ≠ analysis) := by
  have drops := h.drops_retire analysis
  rw [← retire_fst]
  exact ⟨drops.sound, by simp [drops.records]⟩

/-- A job is entered as if its analysis had had none. -/
theorem insert_removeFor (table : Table) (handle : Handle) :
    ((table.removeFor handle.analysis).1.insert handle).1 = (table.insert handle).1 := by
  have idle := table.not_mem_current_retire handle.analysis
  rw [retire_fst] at idle
  rw [Table.insert, removeFor_of_idle idle]
  rfl

/-- What entering a job does to a table in which no job has its identifier. -/
theorem Sound.insert_spec (h : table.Sound) {handle : Handle}
    (fresh : handle.job ∉ keys table.records) :
    (table.insert handle).1.Sound ∧
      (table.insert handle).1.records = table.records.filter (·.analysis ≠ handle.analysis) ++
        [⟨handle.job, handle.analysis, .created⟩] := by
  obtain ⟨sound, records⟩ := h.removeFor_spec handle.analysis
  have idle := table.not_mem_current_retire handle.analysis
  rw [retire_fst] at idle
  have unlisted : handle.job ∉ keys (table.removeFor handle.analysis).1.records := by
    rw [records]
    intro listed
    obtain ⟨record, there, same⟩ := Roster.mem_keys.1 listed
    exact fresh (Roster.mem_keys.2 ⟨record, (List.mem_filter.1 there).1, same⟩)
  rw [← insert_removeFor]
  refine ⟨sound.insert idle unlisted, ?_⟩
  rw [insert_of_idle idle unlisted, records]

/-- What an operation does: some records go, the status of others moves, and one may come last. -/
theorem Sound.step (h : table.Sound) (operation : Operation)
    (fresh : ∀ record ∈ operation.entered?, record.id ∉ keys table.records) :
    (table.step operation).Sound ∧ (table.step operation).records =
      ((table.records.filter fun r => !operation.drops r.analysis).map operation.move) ++
        operation.entered?.toList := by
  have settled (job : JobId) (status : Status) : (table.setStatus job status).1.Sound ∧
      (table.setStatus job status).1.records =
        ((table.records.filter fun _ => true).map (Operation.setStatus job status).move) ++ [] := by
    have all : (table.records.filter fun _ => true) = table.records :=
      List.filter_eq_self.2 fun _ _ => rfl
    rw [all, List.append_nil]
    exact ⟨h.setStatus job status, h.records_setStatus job status⟩
  have unmoved (records : List Record) (silent : ∀ job, operation.asked? job = none) :
      records.map operation.move = records :=
    Roster.map_eq_self fun r _ => move_of_not_asked (silent r.id)
  cases operation with
  | insert handle =>
    obtain ⟨sound, records⟩ := h.insert_spec (fresh _ rfl)
    refine ⟨sound, ?_⟩
    rw [unmoved _ fun _ => rfl, Table.step, records]
    simp [Operation.drops, Operation.entered?, eq_comm]
  | apply report => exact settled report.job report.phase.status
  | setStatus job status => exact settled job status
  | removeFor analysis =>
    obtain ⟨sound, records⟩ := h.removeFor_spec analysis
    refine ⟨sound, ?_⟩
    rw [unmoved _ fun _ => rfl, Table.step, records]
    simp [Operation.drops, Operation.entered?, eq_comm]
  | clear => exact ⟨sound_empty, by simp [Operation.drops, Operation.entered?, Table.step]⟩

/-! ## §4 Runs -/

theorem run_append (operations later : List Operation) :
    run table (operations ++ later) = run (run table operations) later := List.foldl_append

/-- What is listed after operations is what survives them. -/
theorem run_spec {operations : List Operation} (fresh : (keys (entered operations)).Nodup) :
    (run {} operations).Sound ∧ (run {} operations).records = survivors operations := by
  induction operations using List.reverseRecOn with
  | nil => exact ⟨sound_empty, rfl⟩
  | append_singleton operations operation ih =>
    rw [keys_entered_append, List.nodup_append] at fresh
    obtain ⟨before, -, apart⟩ := fresh
    obtain ⟨sound, records⟩ := ih before
    have new : ∀ record ∈ operation.entered?, record.id ∉ keys (run {} operations).records := by
      intro record enters listed
      rw [records] at listed
      refine apart record.id ((keys_survivors_sublist operations).subset listed) record.id ?_ rfl
      simp [entered, Option.mem_def.1 enters, keys, Keyed.key]
    obtain ⟨next, stepped⟩ := sound.step operation new
    rw [run_append, survivors_concat, ← records]
    exact ⟨next, stepped⟩

/-- A record that has ended stays as it is until it is dropped, and then it does not come back. -/
theorem get?_run_of_final {operations later : List Operation}
    (fresh : (keys (entered (operations ++ later))).Nodup) {record : Record}
    (listed : record ∈ (run {} operations).records) (final : record.status.isFinal = true) :
    (run (run {} operations) later).get? record.id =
      if later.any (Operation.drops record.analysis) then none else some record := by
  obtain ⟨sound, records⟩ := run_spec fresh
  rw [keys_entered_append, List.nodup_append] at fresh
  obtain ⟨before, -, apart⟩ := fresh
  obtain ⟨earlier, listing⟩ := run_spec before
  rw [listing] at listed
  have same : settle record later = record := settle_of_final later final
  rw [survivors_append] at records
  rw [← run_append]
  cases dropped : later.any (Operation.drops record.analysis) with
  | true =>
    refine Roster.find?_eq_none_iff.2 fun there => ?_
    rw [records] at there
    obtain ⟨other, there, id⟩ := Roster.mem_keys.1 there
    rcases List.mem_append.1 there with old | new
    · -- It would be the same record, which is dropped.
      obtain ⟨r, kept, rfl⟩ := List.mem_map.1 old
      obtain ⟨held, spared⟩ := List.mem_filter.1 kept
      have one : r = record := Roster.eq_of_key (listing ▸ earlier.ids_nodup) held listed
        ((id_settle r later).symm.trans id)
      simp [one, dropped] at spared
    · -- It would have been entered again.
      have first := (keys_survivors_sublist operations).subset (Roster.key_mem_keys listed)
      have again := (keys_survivors_sublist later).subset (Roster.key_mem_keys new)
      exact apart _ first _ again id.symm
  | false =>
    refine (Roster.find?_eq_some_iff sound.ids_nodup).2 ⟨?_, rfl⟩
    rw [records]
    refine List.mem_append_left _ (List.mem_map.2 ⟨record, List.mem_filter.2 ⟨listed, ?_⟩, same⟩)
    rw [dropped]
    rfl

/-- Which job is the current one of an analysis, and of which analysis a job is, say the same. -/
theorem Sound.current_iff (h : table.Sound) (analysis : AnalysisId) (job : JobId) :
    (Roster.find? analysis table.current).map (·.job) = some job ↔
      (table.get? job).map (·.analysis) = some analysis := by
  simp only [Option.map_eq_some_iff, Table.get?, Roster.find?_eq_some_iff h.analyses_nodup,
    Roster.find?_eq_some_iff h.ids_nodup]
  constructor
  · rintro ⟨entry, ⟨current, rfl⟩, rfl⟩
    rw [h.current] at current
    obtain ⟨record, listed, rfl⟩ := List.mem_map.1 current
    exact ⟨record, ⟨listed, rfl⟩, rfl⟩
  · rintro ⟨record, ⟨listed, rfl⟩, rfl⟩
    exact ⟨record.toCurrent, ⟨h.current ▸ List.mem_map_of_mem listed, rfl⟩, rfl⟩

theorem Sound.currentFor_iff (h : table.Sound) {analysis : AnalysisId} {record : Record} :
    table.currentFor analysis = some record ↔
      record ∈ table.records ∧ record.analysis = analysis := by
  constructor
  · intro found
    obtain ⟨entry, current, held⟩ := Option.bind_eq_some_iff.1 found
    have job : (table.get? entry.job).map (·.analysis) = some analysis :=
      (h.current_iff analysis entry.job).1 (by rw [current]; rfl)
    rw [held] at job
    exact ⟨Roster.mem_of_find?_eq_some held, Option.some.inj job⟩
  · rintro ⟨listed, rfl⟩
    exact h.currentFor listed

/-- What is dropped for an analysis is the record of its current job. -/
theorem removeFor_snd (table : Table) (analysis : AnalysisId) :
    (table.removeFor analysis).2 = table.currentFor analysis := by
  rw [removeFor, currentFor]
  cases Roster.find? analysis table.current <;> rfl

/-- What is given back when a job is entered is the record of its analysis, and the only one that
goes. -/
theorem Sound.insert_snd_iff (h : table.Sound) {handle : Handle}
    (fresh : handle.job ∉ keys table.records) (record : Record) :
    ((table.insert handle).2 = some record ↔
      record ∈ table.records ∧ record.analysis = handle.analysis) ∧
    ((table.insert handle).2 = some record ↔
      record ∈ table.records ∧ record ∉ (table.insert handle).1.records) := by
  have given : (table.insert handle).2 = some record ↔
      record ∈ table.records ∧ record.analysis = handle.analysis := by
    rw [← h.currentFor_iff, ← removeFor_snd]
    rfl
  refine ⟨given, given.trans (and_congr_right fun listed => ?_)⟩
  have other : record ≠ ⟨handle.job, handle.analysis, .created⟩ := by
    rintro rfl
    exact fresh (Roster.key_mem_keys listed)
  rw [(h.insert_spec fresh).2]
  simp [listed, other]

/-- What is given back is what is not found any more. -/
theorem Sound.get?_insert_eq_none_iff (h : table.Sound) {handle : Handle}
    (fresh : handle.job ∉ keys table.records) {record : Record}
    (listed : record ∈ table.records) :
    (table.insert handle).1.get? record.id = none ↔ record ∉ (table.insert handle).1.records := by
  refine Roster.find?_eq_none_iff.trans (not_congr ⟨fun found => ?_, Roster.key_mem_keys⟩)
  obtain ⟨other, there, same⟩ := Roster.mem_keys.1 found
  rw [(h.insert_spec fresh).2] at there ⊢
  rcases List.mem_append.1 there with kept | new
  · have one := Roster.eq_of_key h.ids_nodup (List.mem_filter.1 kept).1 listed same
    exact List.mem_append_left _ (one ▸ kept)
  · rw [List.mem_singleton.1 new] at same
    have taken : handle.job ∈ keys table.records := Roster.mem_keys.2 ⟨record, listed, same.symm⟩
    exact absurd taken fresh

end Table

end Coordination.Job
