/-
Coordination.Proofs.Links — how the index is laid out.

Who asks the index for the children of a parent does not see whether the
parent is listed twice, or listed without children. It matters where two
indices have to be the same, and not only to give the same answers.

`Index.Tidy` says that the index lists no more than it has to: no parent
twice, a dataset only while something is over it, and a compound analysis
only while it exists. Every operation on a workspace keeps this up.

  §1 Links       — what each change of a list of links does to its entries.
  §2 Index       — `Index.Tidy`, and that every change of the index keeps it.
  §3 Workspaces  — `Workspace.Tidy`, and that every operation keeps it.
  §4 Runs        — `Core.tidy_run`.
-/
import Coordination.Proofs.Batch

namespace Coordination

open Analysis (Index Workspace)
open Roster (keys)

/-! ## §1 Links -/

namespace Analysis.Links

variable {π κ : Type} [DecidableEq π] {links : Links π κ} {parent : π}

/-- Every parent that is listed has children. -/
def Occupied (links : Links π κ) : Prop := ∀ entry ∈ links, entry.2 ≠ []

theorem parents_change (f : List κ → List κ) :
    (links.change parent f).parents = links.parents := by
  rw [parents, change, List.map_map]
  refine List.map_congr_left fun entry _ => ?_
  by_cases same : entry.1 = parent <;> simp [same]

theorem parents_link [DecidableEq κ] (child : κ) :
    (links.link parent child).parents = (links.ensure parent).parents := parents_change _

theorem parents_unlink [DecidableEq κ] (child : κ) :
    (links.unlink parent child).parents = links.parents := parents_change _

theorem mem_parents_ensure_iff {other : π} :
    other ∈ (links.ensure parent).parents ↔ other = parent ∨ other ∈ links.parents := by
  unfold ensure
  split
  · rename_i listed
    exact ⟨.inr, fun h => h.elim (fun same => same ▸ listed) fun there => there⟩
  · simp [parents, or_comm]

theorem nodup_ensure (apart : links.parents.Nodup) : (links.ensure parent).parents.Nodup := by
  unfold ensure
  split
  · exact apart
  · rename_i new
    rw [parents, List.map_append]
    refine List.nodup_append.2 ⟨apart, by simp, ?_⟩
    intro other listed added he same
    obtain rfl := List.mem_singleton.1 he
    exact new (same ▸ listed)

theorem parents_drop : (links.drop parent).parents = links.parents.filter (· ≠ parent) := by
  rw [parents, drop, parents, List.filter_map]
  rfl

theorem nodup_prune (apart : links.parents.Nodup) : (links.prune parent).parents.Nodup := by
  unfold prune
  split
  · rw [parents_drop]
    exact apart.filter _
  · exact apart

/-- A parent that is listed once has the children that it is listed with. -/
theorem childrenOf_of_mem (apart : links.parents.Nodup) {entry : π × List κ}
    (listed : entry ∈ links) : links.childrenOf entry.1 = entry.2 := by
  induction links with
  | nil => cases listed
  | cons first rest ih =>
    obtain ⟨other, children⟩ := first
    obtain ⟨absent, apart⟩ := List.nodup_cons.1 apart
    rcases List.mem_cons.1 listed with rfl | listed
    · simp [childrenOf]
    · have different : other ≠ entry.1 := by
        intro same
        exact absent (same ▸ (List.mem_map_of_mem listed : entry.1 ∈ parents rest))
      rw [childrenOf, if_neg different]
      exact ih apart listed

theorem occupied_link [DecidableEq κ] (h : links.Occupied) (child : κ) :
    (links.link parent child).Occupied := by
  intro entry listed
  obtain ⟨⟨other, children⟩, ensured, rfl⟩ := List.mem_map.1 listed
  by_cases same : other = parent
  · simp only [same, if_true]
    split
    · rename_i there
      exact List.ne_nil_of_mem there
    · simp
  · simp only [same, if_false]
    -- Only the parent can have been listed just now, without children.
    unfold ensure at ensured
    split at ensured
    · exact h _ ensured
    · rcases List.mem_append.1 ensured with there | new
      · exact h _ there
      · exact absurd (congrArg Prod.fst (List.mem_singleton.1 new)) same

/-- If only the parent that is pruned may be without children, pruning strikes off what is without
children. -/
theorem prune_eq_filter (apart : links.parents.Nodup)
    (h : ∀ entry ∈ links, entry.1 ≠ parent → entry.2 ≠ []) :
    links.prune parent = links.filter fun entry => !entry.2.isEmpty := by
  have same : ∀ entry ∈ links, entry.1 = parent → links.childrenOf parent = entry.2 := by
    rintro entry listed rfl
    exact childrenOf_of_mem apart listed
  unfold prune
  split
  · rename_i none
    refine List.filter_congr fun entry listed => ?_
    by_cases pruned : entry.1 = parent
    · rw [same entry listed pruned] at none
      simp [pruned, none]
    · simpa [pruned] using h entry listed pruned
  · rename_i some
    refine (List.filter_eq_self.2 fun entry listed => ?_).symm
    by_cases kept : entry.1 = parent
    · rw [same entry listed kept] at some
      simpa using some
    · simpa using h entry listed kept

end Analysis.Links

/-! ## §2 Index -/

namespace Analysis.Index

/-- The index lists no more than it has to, given the compound analyses that exist. -/
structure Tidy (index : Index) (existing : List CompoundId) : Prop where
  datasets_nodup : index.compounds.parents.Nodup
  compounds_nodup : index.analyses.parents.Nodup
  occupied : index.compounds.Occupied
  existing : ∀ c ∈ index.analyses.parents, c ∈ existing

variable {index : Index} {existing : List CompoundId}

theorem tidy_empty : ({} : Index).Tidy existing :=
  ⟨List.nodup_nil, List.nodup_nil, List.forall_mem_nil _, List.forall_mem_nil _⟩

theorem Tidy.mono (h : index.Tidy existing) {more : List CompoundId}
    (still : ∀ c ∈ existing, c ∈ more) : index.Tidy more :=
  ⟨h.datasets_nodup, h.compounds_nodup, h.occupied, fun c hc => still c (h.existing c hc)⟩

theorem Tidy.linkCompound (h : index.Tidy existing) (dataset : DatasetId) {compound : CompoundId}
    (there : compound ∈ existing) : (index.linkCompound dataset compound).Tidy existing where
  datasets_nodup := by
    rw [Index.linkCompound, Links.parents_link]
    exact Links.nodup_ensure h.datasets_nodup
  compounds_nodup := Links.nodup_ensure h.compounds_nodup
  occupied := Links.occupied_link h.occupied compound
  existing c hc := by
    rcases Links.mem_parents_ensure_iff.1 hc with rfl | listed
    · exact there
    · exact h.existing c listed

theorem Tidy.unlinkCompound (h : index.Tidy existing) (dataset : DatasetId)
    (compound : CompoundId) : (index.unlinkCompound dataset compound).Tidy existing := by
  have apart : (index.compounds.unlink dataset compound).parents.Nodup := by
    rw [Links.parents_unlink]
    exact h.datasets_nodup
  refine ⟨Links.nodup_prune apart, h.compounds_nodup, ?_, h.existing⟩
  rw [Index.unlinkCompound, Links.prune_eq_filter apart]
  · intro entry listed
    simpa using (List.mem_filter.1 listed).2
  intro entry listed other
  obtain ⟨old, there, rfl⟩ := List.mem_map.1 listed
  by_cases same : old.1 = dataset
  · simp [same] at other
  · simpa [same] using h.occupied old there

theorem Tidy.dropCompound (h : index.Tidy existing) (dataset : DatasetId)
    (compound : CompoundId) :
    (index.dropCompound dataset compound).1.Tidy (existing.filter (· ≠ compound)) := by
  have unlinked := h.unlinkCompound dataset compound
  refine ⟨unlinked.datasets_nodup, ?_, unlinked.occupied, ?_⟩
  · show (index.analyses.drop compound).parents.Nodup
    rw [Links.parents_drop]
    exact h.compounds_nodup.filter _
  · intro c hc
    rw [Index.dropCompound, Links.parents_drop, List.mem_filter] at hc
    exact List.mem_filter.2 ⟨h.existing c hc.1, hc.2⟩

theorem Tidy.linkAnalysis (h : index.Tidy existing) {compound : CompoundId}
    (there : compound ∈ existing) (analysis : AnalysisId) :
    (index.linkAnalysis compound analysis).Tidy existing := by
  have parents : (index.linkAnalysis compound analysis).analyses.parents =
      (index.analyses.ensure compound).parents := Links.parents_link _
  refine ⟨h.datasets_nodup, ?_, h.occupied, ?_⟩
  · rw [parents]
    exact Links.nodup_ensure h.compounds_nodup
  · intro c hc
    rw [parents] at hc
    rcases Links.mem_parents_ensure_iff.1 hc with rfl | listed
    · exact there
    · exact h.existing c listed

theorem Tidy.unlinkAnalysis (h : index.Tidy existing) (compound : CompoundId)
    (analysis : AnalysisId) : (index.unlinkAnalysis compound analysis).Tidy existing := by
  have parents : (index.unlinkAnalysis compound analysis).analyses.parents =
      index.analyses.parents := Links.parents_unlink _
  exact ⟨h.datasets_nodup, parents ▸ h.compounds_nodup, h.occupied, parents ▸ h.existing⟩

end Analysis.Index

/-! ## §3 Workspaces -/

namespace Analysis.Workspace

/-- The index lists no more than it has to. -/
def Tidy (w : Workspace) : Prop := w.index.Tidy (keys w.compounds)

variable {w w' : Workspace} {id : AnalysisId} {compound : CompoundId}

theorem detach_index (w : Workspace) (compound : CompoundId) (id : AnalysisId) :
    (w.detach compound id).1.index = w.index ∧
      keys (w.detach compound id).1.compounds = keys w.compounds := by
  unfold detach
  split
  · split
    · exact ⟨rfl, Roster.keys_replace _ _⟩
    · exact ⟨rfl, rfl⟩
  · exact ⟨rfl, rfl⟩

theorem attach_index (w : Workspace) (compound : CompoundId) (id : AnalysisId) :
    (w.attach compound id).1.index = w.index ∧
      keys (w.attach compound id).1.compounds = keys w.compounds := by
  unfold attach
  split
  · split
    · exact ⟨rfl, rfl⟩
    · exact ⟨rfl, Roster.keys_replace _ _⟩
  · exact ⟨rfl, rfl⟩

theorem keys_leave (w : Workspace) (compound : CompoundId) (id : AnalysisId) :
    keys (w.leave compound id).1.compounds = keys w.compounds :=
  (detach_index _ compound id).2

theorem Tidy.leave (h : w.Tidy) (compound : CompoundId) (id : AnalysisId) :
    (w.leave compound id).1.Tidy := by
  obtain ⟨index, compounds⟩ :=
    detach_index { w with index := w.index.unlinkAnalysis compound id } compound id
  rw [Tidy, Workspace.leave, index, compounds]
  exact Index.Tidy.unlinkAnalysis h compound id

theorem Tidy.enter (h : w.Tidy) (there : compound ∈ keys w.compounds) (id : AnalysisId) :
    (w.enter compound id).1.Tidy := by
  obtain ⟨index, compounds⟩ :=
    attach_index { w with index := w.index.linkAnalysis compound id } compound id
  rw [Tidy, Workspace.enter, index, compounds]
  exact Index.Tidy.linkAnalysis h there id

theorem Tidy.vacate (h : w.Tidy) (id : AnalysisId) (compound : CompoundId) :
    (w.vacate id compound).1.Tidy ∧
      keys (w.vacate id compound).1.compounds = keys w.compounds := by
  unfold Workspace.vacate
  split
  · split
    · exact ⟨h, rfl⟩
    · exact ⟨h.leave _ id, keys_leave w _ id⟩
  · exact ⟨h, rfl⟩

theorem Tidy.putAnalysis (h : w.Tidy) {details : Details} {stored : AnalysisStored}
    (hok : w.putAnalysis id compound details = .ok (w', stored)) : w'.Tidy := by
  obtain ⟨hd, parent, hc⟩ := putAnalysis_checked hok
  rw [putAnalysis_eq hd hc] at hok
  obtain ⟨rfl, -⟩ := Prod.mk.inj (Except.ok.inj hok)
  obtain ⟨left, kept⟩ := h.vacate id compound
  exact left.enter (kept ▸ Roster.mem_keys_of_find? hc) id

theorem Tidy.removeAnalysis (h : w.Tidy) {gone : Analysis × Option Compound}
    (hok : w.removeAnalysis id = .ok (w', gone)) : w'.Tidy := by
  unfold Workspace.removeAnalysis at hok
  split at hok
  · rename_i analysis _
    obtain ⟨rfl, -⟩ := Prod.mk.inj (Except.ok.inj hok)
    exact Tidy.leave (w := { w with analyses := Roster.erase id w.analyses }) h analysis.compound id
  · cases hok

theorem Tidy.removeCompound (h : w.Tidy) {gone : Removed}
    (hok : w.removeCompound compound = .ok (w', gone)) : w'.Tidy := by
  unfold Workspace.removeCompound at hok
  split at hok
  · obtain ⟨rfl, -⟩ := Prod.mk.inj (Except.ok.inj hok)
    rw [Tidy, Roster.keys_erase]
    exact Index.Tidy.dropCompound h _ compound
  · cases hok

theorem Tidy.removeEach (h : w.Tidy) (ids : List CompoundId) : (w.removeEach ids).1.Tidy := by
  induction ids generalizing w with
  | nil => exact h
  | cons id rest ih =>
    rw [Workspace.removeEach]
    split
    · rename_i next gone hok
      exact ih (h.removeCompound hok)
    · exact ih h

theorem Tidy.relink (h : w.Tidy) (id : CompoundId) (dataset : DatasetId)
    {existing : List CompoundId} (there : id ∈ existing)
    (still : ∀ c ∈ keys w.compounds, c ∈ existing) :
    (w.relink id dataset).1.index.Tidy existing ∧
      (w.relink id dataset).1.compounds = w.compounds := by
  have old : w.index.Tidy existing := Index.Tidy.mono h still
  unfold Workspace.relink
  split
  · split
    · exact ⟨old, rfl⟩
    · exact ⟨(old.unlinkCompound _ id).linkCompound dataset there, rfl⟩
  · exact ⟨old.linkCompound dataset there, rfl⟩

theorem Tidy.putCompound (h : w.Tidy) {datasets : Dataset.Registry} {dataset : DatasetId}
    {details : Compound.Details} {stored : CompoundStored}
    (hok : w.putCompound datasets compound dataset details = .ok (w', stored)) : w'.Tidy := by
  have registered : datasets.contains dataset = true := by
    by_cases hr : datasets.contains dataset = true
    · exact hr
    · rw [Workspace.putCompound, if_neg hr] at hok
      cases hok
  rw [putCompound_eq details registered] at hok
  obtain ⟨rfl, -⟩ := Prod.mk.inj (Except.ok.inj hok)
  have compounds : (w.relink compound dataset).1.compounds = w.compounds :=
    (h.relink compound dataset List.mem_cons_self fun _ => List.mem_cons_of_mem compound).2
  refine (h.relink compound dataset (Roster.key_mem_keys_set _ _) ?_).1
  intro c hc
  rw [compounds, Roster.keys_set]
  split
  · exact hc
  · exact List.mem_append_left _ hc

theorem tidy_clear (w : Workspace) : w.clear.1.Tidy := Index.tidy_empty

end Analysis.Workspace

/-! ## §4 Runs -/

namespace Core

variable {core : Core}

theorem tidy_teardown (core : Core) : core.teardown.1.workspace.Tidy :=
  core.workspace.tidy_clear

theorem tidy_connect (h : core.workspace.Tidy) (spec : Connection.Spec) :
    (core.connect spec).core.workspace.Tidy := by
  cases connected : core.connection.isConnected with
  | true =>
    rw [connect, if_pos connected]
    exact core.tidy_teardown
  | false =>
    rw [connect, connected]
    exact h

theorem tidy_registerDataset (h : core.workspace.Tidy) {dataset : Dataset}
    {change : Change Dataset} (hok : core.registerDataset dataset = .ok change) :
    change.core.workspace.Tidy := by
  obtain ⟨-, ⟨-, rfl⟩ | ⟨-, rfl⟩⟩ := registerDataset_accepted hok
  · exact h.removeEach _
  · exact h

theorem tidy_perform (h : core.workspace.Tidy) {context : Context} {command : Command}
    {change : Change Reply} (hok : core.perform context command = .ok change) :
    change.core.workspace.Tidy := by
  cases command with
  | getConfig | getConnection | listDatasets =>
    obtain rfl : _ = change := Except.ok.inj hok
    exact h
  | getDataset id =>
    unfold perform at hok
    cases found : core.datasets.get? id with
    | none => simp only [found] at hok; exact nomatch hok
    | some dataset =>
      simp only [found] at hok
      obtain rfl : _ = change := Except.ok.inj hok
      exact h
  | connect spec =>
    obtain ⟨_, -, hok⟩ := bind_eq_ok.1 hok
    obtain rfl : _ = change := Except.ok.inj hok
    exact tidy_connect h spec
  | disconnect =>
    obtain rfl : _ = change := Except.ok.inj hok
    exact core.tidy_teardown
  | registerDataset id params =>
    obtain ⟨_, -, hok⟩ := bind_eq_ok.1 hok
    obtain ⟨_, -, hok⟩ := bind_eq_ok.1 hok
    obtain ⟨made, hm, rfl⟩ := answering_accepted hok
    exact tidy_registerDataset h hm
  | removeDataset id =>
    obtain ⟨made, hm, rfl⟩ := answering_accepted hok
    obtain ⟨_, -, rfl⟩ := removeDataset_accepted hm
    exact h.removeEach _
  | putCompound id dataset details =>
    obtain ⟨made, hm, rfl⟩ := answering_accepted hok
    obtain ⟨_, _, put, -, rfl⟩ := putCompound_accepted hm
    exact h.putCompound put
  | removeCompound id =>
    obtain ⟨made, hm, rfl⟩ := answering_accepted hok
    obtain ⟨_, _, removed, rfl⟩ := removeCompound_accepted hm
    exact h.removeCompound removed
  | putAnalysis id compound details =>
    obtain ⟨made, hm, rfl⟩ := answering_accepted hok
    obtain ⟨_, _, put, -, ⟨-, rfl⟩ | ⟨-, rfl⟩⟩ := putAnalysis_accepted hm
    all_goals exact h.putAnalysis put
  | removeAnalysis id =>
    obtain ⟨made, hm, rfl⟩ := answering_accepted hok
    obtain ⟨_, _, _, removed, rfl⟩ := removeAnalysis_accepted hm
    exact h.removeAnalysis removed
  | runAnalysis id =>
    obtain ⟨made, hm, rfl⟩ := answering_accepted hok
    obtain ⟨_, _, -, -, ⟨-, rfl⟩ | ⟨_, -, rfl⟩⟩ := runAnalysis_accepted hm
    all_goals exact h
  | cancelJob id =>
    obtain ⟨made, hm, rfl⟩ := answering_accepted hok
    obtain ⟨_, -, ⟨-, rfl⟩ | ⟨-, rfl⟩⟩ := cancelJob_accepted hm
    all_goals exact h

theorem tidy_occur (h : core.workspace.Tidy) (occurrence : Occurrence) :
    (core.occur occurrence).1.workspace.Tidy := by
  cases occurrence with
  | command context command =>
    show (core.dispatch context command).core.workspace.Tidy
    unfold dispatch
    split
    · rename_i change performed
      exact tidy_perform h performed
    · exact h
  | connect spec => exact tidy_connect h spec
  | register dataset =>
    cases stored : core.registerDataset dataset with
    | ok change =>
      simp only [occur, stored]
      exact tidy_registerDataset h stored
    | error rejection =>
      simp only [occur, stored]
      exact h
  | report report =>
    show (core.applyReport report).core.workspace.Tidy
    unfold applyReport
    split <;> exact h

/-- The index lists no more than it has to after every run. -/
theorem tidy_run (h : core.workspace.Tidy) (occurrences : List Occurrence) :
    (core.run occurrences).1.workspace.Tidy := by
  induction occurrences generalizing core with
  | nil => exact h
  | cons occurrence rest ih => exact ih (tidy_occur h occurrence)

end Core

end Coordination
