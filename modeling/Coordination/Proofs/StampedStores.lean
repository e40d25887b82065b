/-
Coordination.Proofs.StampedStores — registries and workspaces kept in hash tables.

The registry and the workspace are lists, and their order is part of what
they are. A server that looks up by hash has no such lists. It numbers the
entries and sorts by number when somebody asks for a list: a dataset gets a
new number whenever it is registered, a compound analysis or an analysis
only when it is created, and these two draw from one counter.

Here both stores are written out in that manner (`StampedRegistry`,
`StampedWorkspace`), with one table changed after the other, and they do
what the lists do (`Agrees`): after every operation the tables show the
lists, and the answers are the same. For this the records that one
operation changes or erases in turn have to be different ones, which is so
in a sound workspace.

  §1 Registry    — `StampedRegistry`, operation by operation.
  §2 Workspace   — `StampedWorkspace`, operation by operation.
  §3 Numbers     — an operation uses up one number at most.
  §4 Agreement   — `Matches`, `Agrees`, for every operation.
  §5 Runs        — `keeps_run`, `matches_run`.
-/
import Coordination.Proofs.IndexScan
import Coordination.Proofs.Stamps

namespace Coordination

open Keyed (key)
open Roster (keys)

/-! ## §1 Registry -/

namespace Dataset

namespace Registry

/-- An operation that changes a registry. -/
inductive Operation where
  | insert (dataset : Dataset)
  | remove (id : DatasetId)
  deriving Repr

/-- What a registry answers to an operation. -/
inductive Answer where
  | inserted (replaced : Option Dataset)
  | removed (dataset : Dataset)
  | refused (problem : Problem)
  deriving Repr

def Answer.ofRemoval : Except Problem Dataset → Answer
  | .ok dataset => removed dataset
  | .error problem => refused problem

/-- The registry that an operation gives, or the old one if the operation is refused. -/
def step (registry : Registry) : Operation → Registry
  | .insert dataset => (registry.insert dataset).1
  | .remove id => match registry.remove id with
    | .ok (next, _) => next
    | .error _ => registry

def answer (registry : Registry) : Operation → Answer
  | .insert dataset => .inserted (registry.insert dataset).2
  | .remove id => .ofRemoval ((registry.remove id).map Prod.snd)

/-- The registry after operations on an empty one. -/
def run (operations : List Operation) : Registry := operations.foldl step {}

/-- Nothing is lost if a removal is refused, since then there is nothing to remove. -/
theorem datasets_step_remove (registry : Registry) (id : DatasetId) :
    (registry.step (.remove id)).datasets = Roster.erase id registry.datasets := by
  unfold step
  dsimp only
  unfold remove
  cases listed : registry.get? id with
  | none => exact (Roster.erase_eq_self (Roster.find?_eq_none_iff.1 listed)).symm
  | some dataset => rfl

theorem answer_remove (registry : Registry) (id : DatasetId) :
    registry.answer (.remove id) = match registry.get? id with
      | some dataset => .removed dataset
      | none => .refused (.notFound id) := by
  unfold answer
  dsimp only
  unfold remove
  cases registry.get? id <;> rfl

end Registry

/-- A registry in a hash table. -/
structure StampedRegistry [Hashable DatasetId] where
  datasets : Ledger DatasetId Dataset := {}
  /-- The number of the next registration. -/
  next : Nat := 0

namespace StampedRegistry

variable [Hashable DatasetId]

def get? (store : StampedRegistry) (id : DatasetId) : Option Dataset := store.datasets.find? id

def list (store : StampedRegistry) : List Dataset := store.datasets.list

def ids (store : StampedRegistry) : List DatasetId := store.list.map (·.id)

/-- Registers a dataset under a new number; also gives the one it replaces. -/
def insert (store : StampedRegistry) (dataset : Dataset) : StampedRegistry × Option Dataset :=
  (⟨store.datasets.enter store.next dataset, store.next + 1⟩, store.get? dataset.id)

def remove (store : StampedRegistry) (id : DatasetId) : StampedRegistry × Except Problem Dataset :=
  ({ store with datasets := store.datasets.erase id },
    match store.get? id with
    | some dataset => .ok dataset
    | none => .error (.notFound id))

def perform (store : StampedRegistry) : Registry.Operation → StampedRegistry × Registry.Answer
  | .insert dataset => ((store.insert dataset).1, .inserted (store.insert dataset).2)
  | .remove id => ((store.remove id).1, .ofRemoval (store.remove id).2)

/-- The store after operations on an empty one. -/
def run (operations : List Registry.Operation) : StampedRegistry :=
  operations.foldl (fun store operation => (store.perform operation).1) {}

end StampedRegistry

end Dataset

/-! ## §2 Workspace -/

namespace Analysis

namespace Workspace

/-- What a workspace answers to an operation. -/
inductive Answer where
  | compoundStored (stored : CompoundStored)
  | analysisStored (stored : AnalysisStored)
  | analysisRemoved (analysis : Analysis) (parent : Option Compound)
  | compoundsRemoved (removed : List Removed)
  | refused (problem : Problem)

/-- The answer of an operation that may be refused. -/
def Answer.of {α : Type} (f : α → Answer) : Except Problem α → Answer
  | .ok made => f made
  | .error problem => refused problem

def answer (w : Workspace) : Operation → Answer
  | .putCompound datasets id dataset details =>
    .of .compoundStored ((w.putCompound datasets id dataset details).map Prod.snd)
  | .putAnalysis id compound details =>
    .of .analysisStored ((w.putAnalysis id compound details).map Prod.snd)
  | .removeAnalysis id =>
    .of (fun gone => .analysisRemoved gone.1 gone.2) ((w.removeAnalysis id).map Prod.snd)
  | .removeCompound id =>
    .of (fun gone => .compoundsRemoved [gone]) ((w.removeCompound id).map Prod.snd)
  | .removeOver dataset => .compoundsRemoved (w.removeOver dataset).2
  | .clear => .compoundsRemoved w.clear.2

theorem putAnalysis_of_invalid {details : Details} {problem : Problem}
    (invalid : details.check = .error problem) (w : Workspace) (id : AnalysisId)
    (compound : CompoundId) : w.putAnalysis id compound details = .error problem := by
  rw [putAnalysis, invalid]
  rfl

theorem putAnalysis_of_missing {w : Workspace} {compound : CompoundId} {details : Details}
    (valid : details.check = .ok ()) (missing : w.compound? compound = none) (id : AnalysisId) :
    w.putAnalysis id compound details = .error (.parentNotFound compound) := by
  rw [putAnalysis, valid, missing]
  rfl

end Workspace

open Workspace (CompoundStored AnalysisStored Removed Operation Answer)

/-- A workspace in two hash tables, beside the index. -/
structure StampedWorkspace [Hashable CompoundId] [Hashable AnalysisId] where
  compounds : Ledger CompoundId Compound := {}
  analyses : Ledger AnalysisId Analysis := {}
  index : Index := {}
  /-- The number of the next entity, be it a compound analysis or an analysis. -/
  next : Nat := 0

namespace StampedWorkspace

variable [Hashable CompoundId] [Hashable AnalysisId]

/-- Links a compound analysis to its dataset; its analyses go there with it. -/
def relink (store : StampedWorkspace) (id : CompoundId) (dataset : DatasetId) :
    StampedWorkspace × List Analysis :=
  match store.compounds.find? id with
  | some old =>
    if old.dataset = dataset then (store, [])
    else
      let index := (store.index.unlinkCompound old.dataset id).linkCompound dataset id
      let moved :=
        store.analyses.changeEach (fun a => { a with dataset := dataset }) (index.analysesOf id)
      ({ store with analyses := moved.1, index := index }, moved.2)
  | none => ({ store with index := store.index.linkCompound dataset id }, [])

/-- Stores a compound analysis, which uses up a number if it is new. -/
def storeCompound (store : StampedWorkspace) (compound : Compound) : StampedWorkspace :=
  let put := store.compounds.put store.next compound
  { store with compounds := put.1, next := put.2 }

/-- Stores an analysis, which uses up a number if it is new. -/
def storeAnalysis (store : StampedWorkspace) (analysis : Analysis) : StampedWorkspace :=
  let put := store.analyses.put store.next analysis
  { store with analyses := put.1, next := put.2 }

def putCompound (store : StampedWorkspace) (datasets : Dataset.Registry) (id : CompoundId)
    (dataset : DatasetId) (details : Compound.Details) :
    StampedWorkspace × Except Problem CompoundStored :=
  if datasets.contains dataset then
    let linked := store.relink id dataset
    let compound : Compound := ⟨id, dataset,
      { details with order := Workspace.arrange details.order (linked.1.index.analysesOf id) }⟩
    (linked.1.storeCompound compound, .ok ⟨compound, !linked.1.compounds.contains id, linked.2⟩)
  else (store, .error (.datasetNotFound dataset))

/-- Takes an analysis out of the order of a compound analysis, which is written back even if the
analysis was not in it; also gives the compound analysis if its order got shorter. -/
def detach (store : StampedWorkspace) (compound : CompoundId) (analysis : AnalysisId) :
    StampedWorkspace × Option Compound :=
  match store.compounds.find? compound with
  | some old =>
    let new := old.withOrder (old.details.order.filter (· ≠ analysis))
    ({ store with compounds := store.compounds.change compound fun _ => new },
      if new.details.order.length = old.details.order.length then none else some new)
  | none => (store, none)

/-- Puts an analysis last in the order of a compound analysis, unless it is in it; also gives the
compound analysis if its order changed. -/
def attach (store : StampedWorkspace) (compound : CompoundId) (analysis : AnalysisId) :
    StampedWorkspace × Option Compound :=
  match store.compounds.find? compound with
  | some old =>
    if old.details.order.contains analysis then (store, none)
    else
      let new := old.withOrder (old.details.order ++ [analysis])
      ({ store with compounds := store.compounds.change compound fun _ => new }, some new)
  | none => (store, none)

def leave (store : StampedWorkspace) (compound : CompoundId) (analysis : AnalysisId) :
    StampedWorkspace × Option Compound :=
  { store with index := store.index.unlinkAnalysis compound analysis }.detach compound analysis

def enter (store : StampedWorkspace) (compound : CompoundId) (analysis : AnalysisId) :
    StampedWorkspace × Option Compound :=
  { store with index := store.index.linkAnalysis compound analysis }.attach compound analysis

/-- An analysis that moves leaves the compound analysis that it was in. -/
def vacate (store : StampedWorkspace) (id : AnalysisId) (compound : CompoundId) :
    StampedWorkspace × Option Compound :=
  match store.analyses.find? id with
  | some old => if old.compound = compound then (store, none) else store.leave old.compound id
  | none => (store, none)

def putAnalysis (store : StampedWorkspace) (id : AnalysisId) (compound : CompoundId)
    (details : Details) : StampedWorkspace × Except Problem AnalysisStored :=
  match details.check with
  | .error problem => (store, .error problem)
  | .ok _ => match store.compounds.find? compound with
    | none => (store, .error (.parentNotFound compound))
    | some parent =>
      let left := store.vacate id compound
      let entered := left.1.enter compound id
      let analysis : Analysis := ⟨id, parent.dataset, compound, details⟩
      (entered.1.storeAnalysis analysis,
        .ok ⟨analysis, !entered.1.analyses.contains id, left.2.toList ++ entered.2.toList⟩)

/-- Erases an analysis before it is known whether there was one. -/
def removeAnalysis (store : StampedWorkspace) (id : AnalysisId) :
    StampedWorkspace × Except Problem (Analysis × Option Compound) :=
  let erased := { store with analyses := store.analyses.erase id }
  match store.analyses.find? id with
  | some analysis =>
    let left := erased.leave analysis.compound id
    (left.1, .ok (analysis, left.2))
  | none => (erased, .error (.analysisNotFound id))

/-- Erases a compound analysis before it is known whether there was one, and then its analyses. -/
def removeCompound (store : StampedWorkspace) (id : CompoundId) :
    StampedWorkspace × Except Problem Removed :=
  let erased := { store with compounds := store.compounds.erase id }
  match store.compounds.find? id with
  | some compound =>
    let dropped := store.index.dropCompound compound.dataset id
    let gone := store.analyses.eraseEach dropped.2
    ({ erased with analyses := gone.1, index := dropped.1 }, .ok ⟨compound, gone.2⟩)
  | none => (erased, .error (.compoundNotFound id))

def removeEach (store : StampedWorkspace) : List CompoundId → StampedWorkspace × List Removed
  | [] => (store, [])
  | id :: rest =>
    let removed := store.removeCompound id
    let last := removed.1.removeEach rest
    (last.1, removed.2.toOption.toList ++ last.2)

def removeOver (store : StampedWorkspace) (dataset : DatasetId) :
    StampedWorkspace × List Removed :=
  store.removeEach (store.index.compoundsOf dataset)

/-- Removes everything in the order in which the compound analyses are listed. -/
def clear (store : StampedWorkspace) : StampedWorkspace × List Removed :=
  let last := store.removeEach (store.compounds.list.map (·.id))
  ({ last.1 with index := {} }, last.2)

/-- The answer with which a result is given. -/
def answering {α : Type} (f : α → Answer) (made : StampedWorkspace × α) :
    StampedWorkspace × Answer :=
  (made.1, f made.2)

def perform (store : StampedWorkspace) : Operation → StampedWorkspace × Answer
  | .putCompound datasets id dataset details =>
    answering (.of .compoundStored) (store.putCompound datasets id dataset details)
  | .putAnalysis id compound details =>
    answering (.of .analysisStored) (store.putAnalysis id compound details)
  | .removeAnalysis id =>
    answering (.of fun gone => .analysisRemoved gone.1 gone.2) (store.removeAnalysis id)
  | .removeCompound id =>
    answering (.of fun gone => .compoundsRemoved [gone]) (store.removeCompound id)
  | .removeOver dataset => answering .compoundsRemoved (store.removeOver dataset)
  | .clear => answering .compoundsRemoved store.clear

/-- The store after operations on an empty one. -/
def run (operations : List Operation) : StampedWorkspace :=
  operations.foldl (fun store operation => (store.perform operation).1) {}

/-! ## §3 Numbers -/

section Numbers

variable (store : StampedWorkspace) (id : AnalysisId) (compound : CompoundId) (dataset : DatasetId)

theorem next_storeCompound_le (new : Compound) :
    (store.storeCompound new).next ≤ store.next + 1 := Ledger.put_le _ _ _

theorem next_storeAnalysis_le (new : Analysis) :
    (store.storeAnalysis new).next ≤ store.next + 1 := Ledger.put_le _ _ _

@[simp] theorem next_relink : (store.relink compound dataset).1.next = store.next := by
  unfold relink
  split
  · split <;> rfl
  · rfl

@[simp] theorem next_leave : (store.leave compound id).1.next = store.next := by
  unfold leave detach
  split <;> rfl

@[simp] theorem next_enter : (store.enter compound id).1.next = store.next := by
  unfold enter attach
  split
  · split <;> rfl
  · rfl

@[simp] theorem next_vacate : (store.vacate id compound).1.next = store.next := by
  unfold vacate
  split
  · split
    · rfl
    · exact next_leave store id _
  · rfl

@[simp] theorem next_removeCompound : (store.removeCompound compound).1.next = store.next := by
  unfold removeCompound
  split <;> rfl

@[simp] theorem next_removeEach (ids : List CompoundId) :
    (store.removeEach ids).1.next = store.next := by
  induction ids generalizing store with
  | nil => rfl
  | cons compound rest ih => exact (ih _).trans (next_removeCompound store compound)

theorem next_perform_le (operation : Operation) :
    (store.perform operation).1.next ≤ store.next + 1 := by
  have unused : store.next ≤ store.next + 1 := Nat.le_succ store.next
  cases operation with
  | putCompound datasets id dataset details =>
    show (store.putCompound datasets id dataset details).1.next ≤ _
    unfold putCompound
    split
    · have one := next_storeCompound_le (store.relink id dataset).1
      rw [next_relink] at one
      exact one _
    · exact unused
  | putAnalysis id compound details =>
    show (store.putAnalysis id compound details).1.next ≤ _
    unfold putAnalysis
    split
    · exact unused
    · split
      · exact unused
      · have one := next_storeAnalysis_le ((store.vacate id compound).1.enter compound id).1
        rw [next_enter, next_vacate] at one
        exact one _
  | removeAnalysis id =>
    show (store.removeAnalysis id).1.next ≤ _
    unfold removeAnalysis
    split
    · rw [next_leave]
      exact unused
    · exact unused
  | removeCompound id =>
    show (store.removeCompound id).1.next ≤ _
    rw [next_removeCompound]
    exact unused
  | removeOver dataset =>
    show (store.removeEach _).1.next ≤ _
    rw [next_removeEach]
    exact unused
  | clear =>
    show (store.removeEach _).1.next ≤ _
    rw [next_removeEach]
    exact unused

end Numbers

/-! ## §4 Agreement -/

/-- A stamped workspace shows a workspace: the tables its lists, with one counter for both. -/
structure Matches (store : StampedWorkspace) (w : Workspace) : Prop where
  compounds : store.compounds.Keeps store.next w.compounds
  analyses : store.analyses.Keeps store.next w.analyses
  index : store.index = w.index

/-- What was made of a stamped workspace is what was made of a workspace. -/
structure Agrees {α : Type} (made : StampedWorkspace × α) (result : Workspace × α) : Prop where
  stores : Matches made.1 result.1
  given : made.2 = result.2

/-- What an operation leaves and gives, also if it is refused. -/
def outcome {α : Type} (w : Workspace) (result : Except Problem (Workspace × α)) :
    Workspace × Except Problem α :=
  (w.accept result, result.map Prod.snd)

variable {store : StampedWorkspace} {w : Workspace}

theorem matches_empty : Matches ({} : StampedWorkspace) {} :=
  ⟨Ledger.keeps_empty 0, Ledger.keeps_empty 0, rfl⟩

theorem Matches.compound? (m : Matches store w) (id : CompoundId) :
    store.compounds.find? id = w.compound? id := m.compounds.shows.found id

theorem Matches.analysis? (m : Matches store w) (id : AnalysisId) :
    store.analyses.find? id = w.analysis? id := m.analyses.shows.found id

theorem Matches.created_compound (m : Matches store w) (id : CompoundId) :
    (!store.compounds.contains id) = (w.compound? id).isNone := by
  rw [m.compounds.contains]
  exact Option.not_isSome _

theorem Matches.created_analysis (m : Matches store w) (id : AnalysisId) :
    (!store.analyses.contains id) = (w.analysis? id).isNone := by
  rw [m.analyses.contains]
  exact Option.not_isSome _

theorem Matches.storeCompound (m : Matches store w) (compound : Compound) :
    Matches (store.storeCompound compound)
      { w with compounds := Roster.set compound w.compounds } :=
  ⟨m.compounds.put compound, m.analyses.mono (Ledger.le_put _ _ _), m.index⟩

theorem Matches.storeAnalysis (m : Matches store w) (analysis : Analysis) :
    Matches (store.storeAnalysis analysis)
      { w with analyses := Roster.set analysis w.analyses } :=
  ⟨m.compounds.mono (Ledger.le_put _ _ _), m.analyses.put analysis, m.index⟩

theorem Matches.withIndex (m : Matches store w) {index index' : Index} (same : index = index') :
    Matches { store with index := index } { w with index := index' } :=
  ⟨m.compounds, m.analyses, same⟩

/-! ### Storing -/

theorem Matches.relink (m : Matches store w) (h : w.Sound) (id : CompoundId)
    (dataset : DatasetId) : Agrees (store.relink id dataset) (w.relink id dataset) := by
  unfold StampedWorkspace.relink Workspace.relink
  rw [m.compound?, m.index]
  cases w.compound? id with
  | none => exact ⟨m.withIndex rfl, rfl⟩
  | some old =>
    by_cases same : old.dataset = dataset
    · simp only [if_pos same]
      exact ⟨m, rfl⟩
    · simp only [if_neg same]
      have children : ((w.index.unlinkCompound old.dataset id).linkCompound dataset id).analysesOf
          id = w.index.analysesOf id := Index.analysesOf_linkCompound _ _ _ id
      -- a sound index links no analysis twice, so that none is changed and reported twice
      obtain ⟨analyses, moved⟩ := m.analyses.changeEach (children ▸ h.children_nodup id)
        (f := fun a : Analysis => { a with dataset := dataset }) fun _ => rfl
      exact ⟨⟨m.compounds, analyses, rfl⟩, moved⟩

theorem Matches.putCompound (m : Matches store w) (h : w.Sound) (datasets : Dataset.Registry)
    (id : CompoundId) (dataset : DatasetId) (details : Compound.Details) :
    Agrees (store.putCompound datasets id dataset details)
      (outcome w (w.putCompound datasets id dataset details)) := by
  unfold StampedWorkspace.putCompound
  by_cases registered : datasets.contains dataset = true
  · rw [Workspace.putCompound_eq details registered, if_pos registered]
    obtain ⟨linked, moved⟩ := m.relink h id dataset
    have created := linked.created_compound id
    rw [Workspace.compound?_relink] at created
    dsimp only
    rw [linked.index, moved, created]
    exact ⟨linked.storeCompound _, rfl⟩
  · rw [Workspace.putCompound, if_neg registered, if_neg registered]
    exact ⟨m, rfl⟩

/-- A compound analysis is written back. -/
theorem Matches.write (m : Matches store w) {old : Compound} {compound : CompoundId}
    (found : w.compound? compound = some old) (order : List AnalysisId) :
    Matches { store with compounds := store.compounds.change compound fun _ => old.withOrder order }
      { w with compounds := Roster.replace (old.withOrder order) w.compounds } := by
  have own : old.id = compound := Roster.key_of_find?_eq_some found
  have written := m.compounds.change (k := compound) (f := fun _ => old.withOrder order)
    fun _ _ => own
  refine ⟨?_, m.analyses, m.index⟩
  rw [Roster.replace_eq_update (f := fun _ => old.withOrder order) m.compounds.shows.apart found
    own]
  exact written

/-- Writing back the same order changes nothing, and an order got shorter if the analysis was in
it. -/
theorem Matches.detach (m : Matches store w) (compound : CompoundId) (analysis : AnalysisId) :
    Agrees (store.detach compound analysis) (w.detach compound analysis) := by
  unfold StampedWorkspace.detach Workspace.detach
  rw [m.compound?]
  cases found : w.compound? compound with
  | none => exact ⟨m, rfl⟩
  | some old =>
    have written := m.write found (old.details.order.filter (· ≠ analysis))
    by_cases listed : analysis ∈ old.details.order
    · have shorter : (old.details.order.filter (· ≠ analysis)).length ≠
          old.details.order.length := by
        rw [Ne, List.length_filter_eq_length_iff]
        exact fun kept => by simpa using kept analysis listed
      simp only [if_pos listed]
      exact ⟨written, if_neg shorter⟩
    · have same : old.details.order.filter (· ≠ analysis) = old.details.order :=
        List.filter_eq_self.2 fun a there => by
          simpa using fun e : a = analysis => listed (e ▸ there)
      have kept : Roster.replace (old.withOrder old.details.order) w.compounds = w.compounds := by
        have own : Keyed.key old = compound := Roster.key_of_find?_eq_some found
        exact (Roster.replace_eq_update (f := fun _ => old) m.compounds.shows.apart found own).trans
          (Roster.update_eq_self m.compounds.shows.apart found rfl)
      rw [same, kept] at written
      simp only [if_neg listed, same]
      exact ⟨written, if_pos rfl⟩

theorem Matches.attach (m : Matches store w) (compound : CompoundId) (analysis : AnalysisId) :
    Agrees (store.attach compound analysis) (w.attach compound analysis) := by
  unfold StampedWorkspace.attach Workspace.attach
  rw [m.compound?]
  cases found : w.compound? compound with
  | none => exact ⟨m, rfl⟩
  | some old =>
    dsimp only
    rw [List.contains_eq_mem]
    by_cases listed : analysis ∈ old.details.order
    · simp only [listed, decide_true, if_true]
      exact ⟨m, rfl⟩
    · simp only [listed, decide_false, Bool.false_eq_true, if_false]
      exact ⟨m.write found _, rfl⟩

theorem Matches.leave (m : Matches store w) (compound : CompoundId) (analysis : AnalysisId) :
    Agrees (store.leave compound analysis) (w.leave compound analysis) := by
  have unlinked := congrArg (Index.unlinkAnalysis · compound analysis) m.index
  exact (m.withIndex unlinked).detach compound analysis

theorem Matches.enter (m : Matches store w) (compound : CompoundId) (analysis : AnalysisId) :
    Agrees (store.enter compound analysis) (w.enter compound analysis) := by
  have linked := congrArg (Index.linkAnalysis · compound analysis) m.index
  exact (m.withIndex linked).attach compound analysis

theorem Matches.vacate (m : Matches store w) (id : AnalysisId) (compound : CompoundId) :
    Agrees (store.vacate id compound) (w.vacate id compound) := by
  unfold StampedWorkspace.vacate Workspace.vacate
  rw [m.analysis?]
  cases w.analysis? id with
  | none => exact ⟨m, rfl⟩
  | some old =>
    by_cases same : old.compound = compound
    · simp only [if_pos same]
      exact ⟨m, rfl⟩
    · simp only [if_neg same]
      exact m.leave old.compound id

theorem Matches.putAnalysis (m : Matches store w) (id : AnalysisId) (compound : CompoundId)
    (details : Details) : Agrees (store.putAnalysis id compound details)
      (outcome w (w.putAnalysis id compound details)) := by
  unfold StampedWorkspace.putAnalysis
  rw [m.compound?]
  cases checked : details.check with
  | error problem =>
    rw [Workspace.putAnalysis_of_invalid checked]
    exact ⟨m, rfl⟩
  | ok _ =>
    cases found : w.compound? compound with
    | none =>
      rw [Workspace.putAnalysis_of_missing checked found]
      exact ⟨m, rfl⟩
    | some parent =>
      rw [Workspace.putAnalysis_eq checked found]
      obtain ⟨left, former⟩ := m.vacate id compound
      obtain ⟨entered, current⟩ := left.enter compound id
      have created := entered.created_analysis id
      rw [Workspace.analysis?_enter, Workspace.analysis?_vacate] at created
      dsimp only
      rw [former, current, created]
      exact ⟨entered.storeAnalysis _, rfl⟩

/-! ### Removing -/

theorem Matches.removeAnalysis (m : Matches store w) (id : AnalysisId) :
    Agrees (store.removeAnalysis id) (outcome w (w.removeAnalysis id)) := by
  have erased : Matches { store with analyses := store.analyses.erase id }
      { w with analyses := Roster.erase id w.analyses } :=
    ⟨m.compounds, m.analyses.erase id, m.index⟩
  unfold StampedWorkspace.removeAnalysis Workspace.removeAnalysis
  rw [m.analysis?]
  cases found : w.analysis? id with
  | none =>
    rw [Roster.erase_eq_self (Roster.find?_eq_none_iff.1 found)] at erased
    exact ⟨erased, rfl⟩
  | some analysis =>
    obtain ⟨left, parent⟩ := erased.leave analysis.compound id
    dsimp only
    rw [parent]
    exact ⟨left, rfl⟩

theorem Matches.removeCompound (m : Matches store w) (h : w.Sound) (id : CompoundId) :
    Agrees (store.removeCompound id) (outcome w (w.removeCompound id)) := by
  have erased := m.compounds.erase id
  unfold StampedWorkspace.removeCompound Workspace.removeCompound
  rw [m.compound?, m.index]
  cases found : w.compound? id with
  | none =>
    rw [Roster.erase_eq_self (Roster.find?_eq_none_iff.1 found)] at erased
    exact ⟨⟨erased, m.analyses, rfl⟩, rfl⟩
  | some compound =>
    obtain ⟨left, gone⟩ := m.analyses.eraseEach (h.children_nodup id)
    exact ⟨⟨erased, left, rfl⟩, congrArg (fun gone => Except.ok (Removed.mk compound gone)) gone⟩

theorem Matches.removeEach (m : Matches store w) (h : w.Sound) (ids : List CompoundId) :
    Agrees (store.removeEach ids) (w.removeEach ids) := by
  induction ids generalizing store w with
  | nil => exact ⟨m, rfl⟩
  | cons id rest ih =>
    obtain ⟨next, result⟩ := m.removeCompound h id
    unfold StampedWorkspace.removeEach Workspace.removeEach
    cases removed : w.removeCompound id with
    | error problem =>
      rw [removed] at next result
      obtain ⟨last, more⟩ := ih next h
      refine ⟨last, ?_⟩
      show _ ++ _ = _
      rw [result, more]
      rfl
    | ok made =>
      rw [removed] at next result
      obtain ⟨last, more⟩ := ih next ((Workspace.removeCompound_spec h removed).sound h)
      refine ⟨last, ?_⟩
      show _ ++ _ = _ :: _
      rw [result, more]
      rfl

theorem Matches.clear (m : Matches store w) (h : w.Sound) : Agrees store.clear w.clear := by
  obtain ⟨last, removed⟩ := m.removeEach h (w.compounds.map (·.id))
  unfold StampedWorkspace.clear Workspace.clear
  rw [m.compounds.list]
  exact ⟨last.withIndex rfl, removed⟩

/-! ### Operations -/

theorem Agrees.answering {α : Type} {made : StampedWorkspace × α} {result : Workspace × α}
    (agrees : Agrees made result) (f : α → Answer) :
    Agrees (answering f made) (result.1, f result.2) :=
  ⟨agrees.stores, congrArg f agrees.given⟩

/-- The stamped workspace does what the workspace does. -/
theorem Matches.perform (m : Matches store w) (h : w.Sound) (operation : Operation) :
    Agrees (store.perform operation) (w.step operation, w.answer operation) := by
  cases operation with
  | putCompound datasets id dataset details =>
    exact (m.putCompound h datasets id dataset details).answering _
  | putAnalysis id compound details => exact (m.putAnalysis id compound details).answering _
  | removeAnalysis id => exact (m.removeAnalysis id).answering _
  | removeCompound id => exact (m.removeCompound h id).answering _
  | removeOver dataset =>
    show Agrees (answering .compoundsRemoved (store.removeEach (store.index.compoundsOf dataset))) _
    rw [m.index]
    exact (m.removeEach h _).answering _
  | clear => exact (m.clear h).answering _

/-! ## §5 Runs -/

theorem run_concat (operations : List Operation) (operation : Operation) :
    run (operations ++ [operation]) = ((run operations).perform operation).1 := List.foldl_append

theorem matches_run (operations : List Operation) :
    Matches (run operations) (Workspace.run operations) := by
  induction operations using List.reverseRecOn with
  | nil => exact matches_empty
  | append_singleton operations operation ih =>
    rw [run_concat, Workspace.run_concat]
    exact (ih.perform (Workspace.ordered_run operations).sound operation).stores

theorem next_run_le (operations : List Operation) : (run operations).next ≤ operations.length :=
  Nat.le_trans (Ledger.next_foldl_le next_perform_le operations {}) (Nat.le_of_eq (Nat.zero_add _))

end StampedWorkspace

end Analysis

namespace Dataset.StampedRegistry

variable [Hashable DatasetId]

theorem next_perform_le (store : StampedRegistry) (operation : Registry.Operation) :
    (store.perform operation).1.next ≤ store.next + 1 := by
  cases operation with
  | insert dataset => exact Nat.le_refl (store.next + 1)
  | remove id => exact Nat.le_succ store.next

/-- The stamped registry does what the registry does. -/
theorem keeps_perform {store : StampedRegistry} {registry : Registry}
    (h : store.datasets.Keeps store.next registry.datasets) (operation : Registry.Operation) :
    (store.perform operation).1.datasets.Keeps (store.perform operation).1.next
        (registry.step operation).datasets ∧
      (store.perform operation).2 = registry.answer operation := by
  have found (id : DatasetId) : store.get? id = registry.get? id := h.shows.found id
  cases operation with
  | insert dataset => exact ⟨h.enter dataset, congrArg Registry.Answer.inserted (found dataset.id)⟩
  | remove id =>
    refine ⟨Registry.datasets_step_remove registry id ▸ h.erase id, ?_⟩
    rw [Registry.answer_remove, ← found]
    unfold perform remove
    dsimp only
    cases store.get? id <;> rfl

theorem run_concat (operations : List Registry.Operation) (operation : Registry.Operation) :
    run (operations ++ [operation]) = ((run operations).perform operation).1 := List.foldl_append

theorem keeps_run (operations : List Registry.Operation) :
    (run operations).datasets.Keeps (run operations).next (Registry.run operations).datasets := by
  induction operations using List.reverseRecOn with
  | nil => exact Ledger.keeps_empty 0
  | append_singleton operations operation ih =>
    rw [run_concat, Registry.run, List.foldl_append]
    exact (keeps_perform ih operation).1

theorem next_run_le (operations : List Registry.Operation) :
    (run operations).next ≤ operations.length :=
  Nat.le_trans (Ledger.next_foldl_le next_perform_le operations {}) (Nat.le_of_eq (Nat.zero_add _))

end Dataset.StampedRegistry

end Coordination
