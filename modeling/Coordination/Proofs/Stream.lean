/-
Coordination.Proofs.Stream — the published messages make sense at every point.

A batch of messages tells of one change in several steps, and an observer
may look at any of them. So the order within a batch matters: what a message
refers to has to be known already, and what it removes must not be referred
to any more. `Replica.Closed` says that no reference dangles, and
`Replica.Admits` which messages make sense next.

`Standing.Fits` already says so of messages about entities. What is left are
the references of analyses, and the messages about jobs. A job is spoken of
only while it is the current one of an analysis, and such an analysis is
known.

  §1 Views     — `Replica.Closed`, `Replica.Admits`.
  §2 Moves     — every move publishes at most one message, and one that is admitted.
  §3 Prefixes  — the published messages up to any point.
-/
import Coordination.Proofs.JobLife

namespace Coordination

open Roster (keys)

/-! ## §1 Views -/

namespace Replica

/-- All that is referred to is known. -/
structure Closed (view : Replica) : Prop where
  compounds : ∀ c ∈ view.compounds, c.dataset ∈ keys view.datasets
  analyses : ∀ a ∈ view.analyses,
    a.compound ∈ keys view.compounds ∧ a.dataset ∈ keys view.datasets

/-- A message makes sense to who knows some entities: what it creates is new, what it changes or
removes is known, and so is the analysis whose job it tells of. Entities are created under a
connection only, and no entity outlives one. -/
def Admits (view : Replica) : Message → Prop
  | .initialState _ => False
  | .connected _ | .disconnected =>
    view.datasets = [] ∧ view.compounds = [] ∧ view.analyses = []
  | .datasetCreated id dataset => view.connection.isConnected = true ∧ dataset.id = id
  | .datasetDeleted id => id ∈ keys view.datasets
  | .compoundCreated id _ _ =>
    view.connection.isConnected = true ∧ id ∉ keys view.compounds
  | .compoundUpdated id _ _ | .compoundRemoved id => id ∈ keys view.compounds
  | .analysisCreated id _ _ _ =>
    view.connection.isConnected = true ∧ id ∉ keys view.analyses
  | .analysisUpdated id _ _ _ | .analysisRemoved id => id ∈ keys view.analyses
  | .jobStarted handle | .taskResult handle _ _ | .jobFinished handle _ | .jobCanceled handle
  | .jobFailed handle _ _ => handle.analysis ∈ keys view.analyses

theorem closed_empty : ({} : Replica).Closed := ⟨nofun, nofun⟩

section Jobs

variable {view : Replica} {message : Message} {handle : Job.Handle}

/-- A message about a job makes sense where its analysis is known. -/
theorem admits_of_job (about : message.job? = some handle) :
    view.Admits message ↔ handle.analysis ∈ keys view.analyses := by
  cases message with
  | jobStarted | taskResult | jobFinished | jobCanceled | jobFailed =>
    obtain rfl := Option.some.inj about
    exact Iff.rfl
  | _ => exact nomatch about

/-- A message about a job is no news of an entity. -/
theorem hear_of_job (view : Replica) (about : message.job? = some handle) :
    view.hear message = view := by
  cases message with
  | jobStarted | taskResult | jobFinished | jobCanceled | jobFailed => rfl
  | _ => exact nomatch about

end Jobs

end Replica

namespace Standing

variable {s : Standing} {message : Message}

/-- What may go out makes sense to those who heard all before. -/
theorem Fits.admits (fits : s.Fits message) : s.replica.Admits message := by
  cases message with
  | initialState | jobStarted | taskResult | jobFinished | jobCanceled | jobFailed => exact fits.elim
  | connected | disconnected => exact fits
  | datasetCreated id dataset => exact ⟨fits.1, fits.2.1⟩
  | datasetDeleted id => exact fits.1
  | compoundCreated id dataset details => exact ⟨fits.1, fits.2.1⟩
  | compoundUpdated id dataset details => exact fits.1
  | compoundRemoved id => exact fits.1
  | analysisCreated id compound dataset details => exact ⟨fits.1, fits.2.1⟩
  | analysisUpdated id compound dataset details => exact fits.1
  | analysisRemoved id => exact fits.1

/-- No reference dangles after a message that may go out. -/
theorem Fits.closed (fits : s.Fits message) (sound : s.Sound) (h : s.replica.Closed) :
    (s.replica.hear message).Closed := by
  refine ⟨(sound.hear fits).registered, ?_⟩
  cases message with
  | initialState | jobStarted | taskResult | jobFinished | jobCanceled | jobFailed => exact fits.elim
  | connected | disconnected => exact h.analyses
  | datasetCreated id dataset =>
    obtain ⟨-, rfl, -, unused⟩ := fits
    intro a ha
    refine ⟨(h.analyses a ha).1, ?_⟩
    show a.dataset ∈ keys (Roster.renew dataset s.replica.datasets)
    have other : a.dataset ≠ dataset.id := unused a ha
    simp [Roster.keys_renew, (h.analyses a ha).2, Keyed.key, other]
  | datasetDeleted id =>
    obtain ⟨-, -, unused⟩ := fits
    intro a ha
    refine ⟨(h.analyses a ha).1, ?_⟩
    show a.dataset ∈ keys (Roster.erase id s.replica.datasets)
    simp [Roster.keys_erase, (h.analyses a ha).2, unused a ha]
  | compoundCreated id dataset details =>
    intro a ha
    refine ⟨?_, (h.analyses a ha).2⟩
    show a.compound ∈ keys (s.replica.compounds ++ _)
    rw [keys, List.map_append]
    exact List.mem_append_left _ (h.analyses a ha).1
  | compoundUpdated id dataset details =>
    intro a ha
    refine ⟨?_, (h.analyses a ha).2⟩
    show a.compound ∈ keys (Roster.replace _ s.replica.compounds)
    rw [Roster.keys_replace]
    exact (h.analyses a ha).1
  | compoundRemoved id =>
    obtain ⟨-, childless⟩ := fits
    intro a ha
    refine ⟨?_, (h.analyses a ha).2⟩
    show a.compound ∈ keys (Roster.erase id s.replica.compounds)
    simp [Roster.keys_erase, (h.analyses a ha).1, childless a ha]
  | analysisCreated id compound dataset details =>
    obtain ⟨-, -, parent, registered⟩ := fits
    intro a ha
    rcases List.mem_append.1 ha with ha | ha
    · exact h.analyses a ha
    · obtain rfl := List.mem_singleton.1 ha
      exact ⟨parent, registered⟩
  | analysisUpdated id compound dataset details =>
    obtain ⟨-, parent, registered, -⟩ := fits
    intro a ha
    rcases Roster.mem_replace ha with rfl | ⟨ha, -⟩
    · exact ⟨parent, registered⟩
    · exact h.analyses a ha
  | analysisRemoved id =>
    intro a ha
    exact h.analyses a (List.mem_filter.1 ha).1

end Standing

/-! ## §2 Moves -/

/-- A report is published of a job that is the current one of its analysis. -/
theorem Job.Table.Sound.mem_keys_of_apply {table : Table} (h : table.Sound) {report : Report}
    {record : Record} (found : (table.apply report).2 = some record) :
    record.analysis ∈ keys table.current := by
  have listed : record ∈ (table.apply report).1.records := mem_of_setStatus (Prod.ext rfl found)
  have busy := (h.setStatus report.job report.phase.status).mem_keys_current listed
  rwa [current_setStatus] at busy

section Moves

variable {s t : Standing} {entries : List Entry}

theorem Move.messages_eq (move : Move s entries t) :
    Entry.messages entries = [] ∨ ∃ message, Entry.messages entries = [message] := by
  cases move with
  | probe => exact .inl rfl
  | tell message => exact .inr ⟨message, rfl⟩
  | retire analysis =>
    rw [Job.Table.retire_snd]
    split
    · split
      · exact .inl rfl
      · exact .inr ⟨_, rfl⟩
    · exact .inl rfl
  | start request refusal =>
    cases refusal with
    | none => exact .inl rfl
    | some problem => exact .inr ⟨_, rfl⟩
  | cancel => exact .inr ⟨_, rfl⟩
  | report report =>
    cases hr : (s.jobs.apply report).2 with
    | none => exact .inl rfl
    | some record => exact .inr ⟨_, rfl⟩
  | forget => exact .inl rfl

/-- What a move publishes is about an entity and fits, or it is about a job that is the current one
of its analysis before the move or after it. -/
theorem Move.fits_or_busy (move : Move s entries t) (table : s.jobs.Sound) {message : Message}
    (hm : message ∈ Entry.messages entries) :
    s.Fits message ∨ ∃ handle, message.job? = some handle ∧
      (handle.analysis ∈ keys s.jobs.current ∨ handle.analysis ∈ keys t.jobs.current) := by
  cases move with
  | probe => cases hm
  | tell other fits =>
    obtain rfl := List.mem_singleton.1 hm
    exact .inl fits
  | retire analysis =>
    by_cases busy : analysis ∈ keys s.jobs.current
    · obtain ⟨record, hr, rfl⟩ := table.exists_of_mem_keys busy
      rw [table.retire hr] at hm
      split at hm
      · cases hm
      · obtain rfl := List.mem_singleton.1 hm
        exact .inr ⟨record.handle, rfl, .inl busy⟩
    · rw [Job.Table.retire_of_idle busy] at hm
      cases hm
  | start request refusal =>
    cases refusal with
    | none => cases hm
    | some problem =>
      obtain rfl := List.mem_singleton.1 hm
      exact .inr ⟨request.handle, rfl, .inr (Job.Table.mem_keys_handOver.2 (.inl rfl))⟩
  | @cancel record found =>
    obtain rfl := List.mem_singleton.1 hm
    have hr := Roster.mem_of_find?_eq_some found
    exact .inr ⟨record.handle, rfl, .inl (table.mem_keys_current hr)⟩
  | report report =>
    cases hr : (s.jobs.apply report).2 with
    | none =>
      rw [hr] at hm
      cases hm
    | some record =>
      rw [hr] at hm
      obtain rfl := List.mem_singleton.1 hm
      exact .inr ⟨record.handle, Message.job?_ofPhase _ _, .inl (table.mem_keys_of_apply hr)⟩
  | forget => cases hm

/-- What a move publishes makes sense to those who heard all before. -/
theorem Move.admits (move : Move s entries t) (sound : s.Sound) (table : s.jobs.Sound)
    {message : Message} (told : Entry.messages entries = [message]) :
    s.replica.Admits message := by
  rcases move.fits_or_busy table (told ▸ List.mem_singleton_self message) with
    fits | ⟨handle, about, busy⟩
  · exact fits.admits
  · refine (Replica.admits_of_job about).2 ?_
    have same : t.replica = s.replica := by
      rw [move.replica_eq, told]
      exact Replica.hear_of_job s.replica about
    rcases busy with busy | busy
    · exact sound.tracked handle.analysis busy
    · exact same ▸ (move.sound sound).tracked handle.analysis busy

theorem Move.closed (move : Move s entries t) (sound : s.Sound) (h : s.replica.Closed) :
    t.replica.Closed := by
  cases move with
  | tell message fits => exact fits.closed sound h
  | probe | retire | start | cancel | report | forget => exact h

/-! ## §3 Prefixes -/

/-- Wherever the messages of some moves are cut, no reference dangles there, and the message behind
the cut makes sense. -/
theorem Moves.admits (moves : Moves s entries t) {journal : List Entry} (h : s.Accounted journal)
    (fresh : Fresh (journal ++ entries)) (sound : s.Sound) (closed : s.replica.Closed)
    {before after : List Message} (cut : Entry.messages entries = before ++ after) :
    (s.replica.hearAll before).Closed ∧
      ∀ message ∈ after.head?, (s.replica.hearAll before).Admits message := by
  induction moves generalizing journal before with
  | refl s =>
    obtain ⟨rfl, rfl⟩ := List.append_eq_nil_iff.1 cut.symm
    exact ⟨closed, nofun⟩
  | @step s t u entries more move rest ih =>
    rw [← List.append_assoc] at fresh
    rw [Entry.messages_append] at cut
    have later : ∀ before, Entry.messages more = before ++ after →
        (t.replica.hearAll before).Closed ∧
          ∀ message ∈ after.head?, (t.replica.hearAll before).Admits message := fun _ =>
      ih (move.accounted h fresh.of_append) fresh (move.sound sound) (move.closed sound closed)
    have heard := move.replica_eq
    rcases move.messages_eq with silent | ⟨message, told⟩
    · rw [silent] at cut heard
      rw [show t.replica = s.replica from heard] at later
      exact later before cut
    · rw [told] at cut heard
      cases before with
      | nil =>
        have first : after.head? = some message := by
          rw [← List.nil_append after, ← cut]
          rfl
        refine ⟨closed, ?_⟩
        intro next hn
        obtain rfl := Option.some.inj (first.symm.trans hn)
        exact move.admits sound h.table told
      | cons first others =>
        obtain ⟨rfl, tail⟩ := List.cons.inj cut
        rw [show t.replica = s.replica.hear message from heard] at later
        exact later others tail

end Moves

namespace Core

/-- In a run in which no two jobs have one identifier, cut the published messages anywhere. An
observer who started from nothing and heard all before the cut knows all that is referred to, and
the message behind the cut makes sense to it. -/
theorem stream_well_formed (occurrences : List Occurrence) (fresh : Fresh (run {} occurrences).2)
    {before after : List Message} (cut : Entry.messages (run {} occurrences).2 = before ++ after) :
    (Replica.hearAll {} before).Closed ∧
      ∀ message ∈ after.head?, (Replica.hearAll {} before).Admits message := by
  have empty : (Core.standing {}).Accounted [] := ⟨Job.Table.sound_empty, nofun⟩
  exact (moved_run sound_empty occurrences).moves.admits empty fresh sound_empty.standing
    Replica.closed_empty cut

/-- The dataset of `rerun` is registered anew while a job runs on it. Two messages before the new
dataset is announced, the analysis is gone and its compound analysis is about to go. -/
theorem stream_well_formed_renewal :
    let occurrences := Occurrence.rerun ++
      [.plain 3 (.registerDataset (.ofNat 1) (.memory ⟨.uint8, [4, 4], [2, 2]⟩))]
    let messages := Entry.messages (run {} occurrences).2
    Fresh (run {} occurrences).2 ∧
      messages.drop 8 = [.jobCanceled ⟨.ofNat 2, .ofNat 1⟩, .analysisRemoved (.ofNat 1),
        .compoundRemoved (.ofNat 1),
        .datasetCreated (.ofNat 1) ⟨.ofNat 1, .memory ⟨.uint8, [4, 4], [2, 2]⟩, [2, 2, 4, 4]⟩] ∧
      (Replica.hearAll {} (messages.take 10)).Closed ∧
      ∀ message ∈ (messages.drop 10).head?,
        (Replica.hearAll {} (messages.take 10)).Admits message := by
  intro occurrences messages
  have fresh : Fresh (run {} occurrences).2 := by decide
  exact ⟨fresh, rfl, stream_well_formed occurrences fresh (List.take_append_drop 10 messages).symm⟩

end Core

end Coordination
