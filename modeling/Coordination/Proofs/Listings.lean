/-
Coordination.Proofs.Listings — what operations do to the lists of the stores.

Clients see datasets, compound analyses and analyses as lists. Beside the
stores, which change by lookups and links, this module says in terms of
the lists alone what an operation may do to them, given what it answers
(`Lists`): in the registry what is stored comes last, in the workspace
only what is new does, and an update is written in the place of what it
updates, as is all that changes along with it. So the order of what is not
added or removed is the same before and after (`Steady`).

The stores in hash tables behave in the same way, whatever the hash and
the order in which the tables give out their entries.

  §1 Order       — `Steady`.
  §2 Registry    — `Registry.Lists`, for every operation.
  §3 Workspace   — `Workspace.Lists`, for every operation.
  §4 Runs        — `stamped_stores_refine_lists`.
-/
import Coordination.Proofs.StampedStores
import Coordination.Proofs.Upserts

namespace Coordination

open Keyed (key)
open Roster (keys)

/-! ## §1 Order -/

/-- What is listed before and after is so in the same order, and what is new comes last. -/
def Steady {κ : Type} [DecidableEq κ] (old new : List κ) : Prop :=
  new = (old.filter fun k => k ∈ new) ++ new.filter fun k => k ∉ old

section Steady

variable {κ : Type} [DecidableEq κ] {old new : List κ}

theorem steady_of_sublist (apart : old.Nodup) (sublist : new.Sublist old) : Steady old new := by
  have none : (new.filter fun k => k ∉ old) = [] :=
    List.filter_eq_nil_iff.2 fun k listed => by simpa using sublist.subset listed
  have all : (new.filter fun k => k ∈ new) = new :=
    List.filter_eq_self.2 fun k listed => by simpa using listed
  have kept := sublist.filter fun k => k ∈ new
  rw [all] at kept
  have same : new.Perm (old.filter fun k => k ∈ new) := by
    refine (List.perm_ext_iff_of_nodup (apart.sublist sublist) (apart.filter _)).2 fun k => ?_
    simpa using fun listed => sublist.subset listed
  rw [Steady, none, List.append_nil]
  exact kept.eq_of_length same.length_eq

theorem steady_concat {k : κ} (absent : k ∉ old) : Steady old (old ++ [k]) := by
  have kept : (old.filter fun j => j ∈ old ++ [k]) = old :=
    List.filter_eq_self.2 fun j listed => by simp [listed]
  have none : (old.filter fun j => j ∉ old) = [] :=
    List.filter_eq_nil_iff.2 fun j listed => by simpa using listed
  rw [Steady, kept, List.filter_append, none]
  simp [absent]

variable {α : Type} [Keyed α κ] {roster : List α}

theorem steady_filter (apart : (keys roster).Nodup) (p : α → Bool) :
    Steady (keys roster) (keys (roster.filter p)) :=
  steady_of_sublist apart (List.filter_sublist.map key)

theorem steady_map (apart : (keys roster).Nodup) {f : α → α} (keeps : ∀ x, key (f x) = key x) :
    Steady (keys roster) (keys (roster.map f)) := by
  rw [Roster.keys_map keeps]
  exact steady_of_sublist apart (.refl _)

theorem steady_update (apart : (keys roster).Nodup) {k : κ} {f : α → α}
    (keeps : ∀ x, key x = k → key (f x) = k) :
    Steady (keys roster) (keys (Roster.update k f roster)) := by
  rw [Roster.keys_update keeps]
  exact steady_of_sublist apart (.refl _)

theorem steady_append {x : α} (absent : key x ∉ keys roster) :
    Steady (keys roster) (keys (roster ++ [x])) := by
  have last : keys (roster ++ [x]) = keys roster ++ [key x] := List.map_append
  rw [last]
  exact steady_concat absent

end Steady

/-! ## §2 Registry -/

namespace Dataset.Registry

/-- What an operation does to the list of datasets. -/
inductive Lists (datasets : List Dataset) : Operation → Answer → List Dataset → Prop where
  | inserted {dataset : Dataset} {replaced : Option Dataset}
      (deleted : ∀ old, replaced = some old ↔ old ∈ datasets ∧ old.id = dataset.id) :
      Lists datasets (.insert dataset) (.inserted replaced)
        (datasets.filter (·.id ≠ dataset.id) ++ [dataset])
  | removed {dataset : Dataset} (listed : dataset ∈ datasets) :
      Lists datasets (.remove dataset.id) (.removed dataset)
        (datasets.filter (·.id ≠ dataset.id))
  | missing {id : DatasetId} (absent : id ∉ datasets.map (·.id)) :
      Lists datasets (.remove id) (.refused (.notFound id)) datasets

theorem lists_step {registry : Registry} (apart : (keys registry.datasets).Nodup)
    (operation : Operation) :
    Lists registry.datasets operation (registry.answer operation)
      (registry.step operation).datasets := by
  cases operation with
  | insert dataset => exact .inserted fun old => Roster.find?_eq_some_iff apart
  | remove id =>
    rw [datasets_step_remove, answer_remove]
    cases found : registry.get? id with
    | none =>
      have absent := Roster.find?_eq_none_iff.1 found
      rw [Roster.erase_eq_self absent]
      exact .missing absent
    | some dataset =>
      obtain rfl : dataset.id = id := Roster.key_of_find?_eq_some found
      exact .removed (Roster.mem_of_find?_eq_some found)

/-- The identifier that an operation is about. -/
def Operation.id : Operation → DatasetId
  | insert dataset => dataset.id
  | remove id => id

/-- An operation leaves the datasets with other identifiers as they are. -/
theorem Lists.others {datasets after : List Dataset} {operation : Operation} {answer : Answer}
    (h : Lists datasets operation answer after) :
    after.filter (·.id ≠ operation.id) = datasets.filter (·.id ≠ operation.id) := by
  have twice (id : DatasetId) : (datasets.filter (·.id ≠ id)).filter (·.id ≠ id) =
      datasets.filter (·.id ≠ id) := by
    rw [List.filter_filter]
    simp only [Bool.and_self]
  cases h with
  | @inserted dataset replaced deleted =>
    have dropped : [dataset].filter (·.id ≠ dataset.id) = [] := by simp
    have spared : (datasets.filter (·.id ≠ dataset.id) ++ [dataset]).filter (·.id ≠ dataset.id) =
        datasets.filter (·.id ≠ dataset.id) := by
      rw [List.filter_append, twice, dropped, List.append_nil]
    exact spared
  | @removed dataset listed => exact twice dataset.id
  | missing => rfl

end Dataset.Registry

/-! ## §3 Workspace -/

namespace Analysis.Workspace

/-- What an operation does to the lists of compound analyses and of analyses. -/
inductive Lists (compounds : List Compound) (analyses : List Analysis) :
    Operation → Answer → List Compound → List Analysis → Prop where
  | compoundCreated {datasets : Dataset.Registry} {id : CompoundId} {dataset : DatasetId}
      {details : Compound.Details} (registered : datasets.contains dataset = true)
      (absent : id ∉ compounds.map (·.id)) :
      Lists compounds analyses (.putCompound datasets id dataset details)
        (.compoundStored ⟨⟨id, dataset, { details with order := [] }⟩, true, []⟩)
        (compounds ++ [⟨id, dataset, { details with order := [] }⟩]) analyses
  /-- The analyses of a compound analysis go to its dataset with it. -/
  | compoundUpdated {datasets : Dataset.Registry} {old : Compound} {dataset : DatasetId}
      {details : Compound.Details} {order : List AnalysisId} {retargeted : List Analysis}
      (registered : datasets.contains dataset = true) (listed : old ∈ compounds)
      (children : order.Perm ((analyses.filter (·.compound = old.id)).map (·.id)))
      (moved : retargeted.Perm (if old.dataset = dataset then [] else
        (analyses.filter (·.compound = old.id)).map fun a => { a with dataset := dataset })) :
      Lists compounds analyses (.putCompound datasets old.id dataset details)
        (.compoundStored ⟨⟨old.id, dataset, { details with order := order }⟩, false, retargeted⟩)
        (compounds.map fun c =>
          if c.id = old.id then ⟨old.id, dataset, { details with order := order }⟩ else c)
        (analyses.map fun a => if a.compound = old.id then { a with dataset := dataset } else a)
  | compoundRefused {datasets : Dataset.Registry} {id : CompoundId} {dataset : DatasetId}
      {details : Compound.Details} (unregistered : datasets.contains dataset = false) :
      Lists compounds analyses (.putCompound datasets id dataset details)
        (.refused (.datasetNotFound dataset)) compounds analyses
  | analysisCreated {id : AnalysisId} {parent : Compound} {details : Details}
      {reordered : List Compound} (valid : details.check = .ok ()) (there : parent ∈ compounds)
      (absent : id ∉ analyses.map (·.id)) :
      Lists compounds analyses (.putAnalysis id parent.id details)
        (.analysisStored ⟨⟨id, parent.dataset, parent.id, details⟩, true, reordered⟩)
        (compounds.map fun c => c.withOrder (placed parent.id id c.id c.details.order))
        (analyses ++ [⟨id, parent.dataset, parent.id, details⟩])
  /-- An analysis keeps its place also if it moves to another compound analysis. -/
  | analysisUpdated {id : AnalysisId} {parent : Compound} {details : Details}
      {reordered : List Compound} (valid : details.check = .ok ()) (there : parent ∈ compounds)
      (listed : id ∈ analyses.map (·.id)) :
      Lists compounds analyses (.putAnalysis id parent.id details)
        (.analysisStored ⟨⟨id, parent.dataset, parent.id, details⟩, false, reordered⟩)
        (compounds.map fun c => c.withOrder (placed parent.id id c.id c.details.order))
        (analyses.map fun a => if a.id = id then ⟨id, parent.dataset, parent.id, details⟩ else a)
  | analysisInvalid {id : AnalysisId} {compound : CompoundId} {details : Details}
      {problem : Problem} (invalid : details.check = .error problem) :
      Lists compounds analyses (.putAnalysis id compound details) (.refused problem) compounds
        analyses
  | analysisRefused {id : AnalysisId} {compound : CompoundId} {details : Details}
      (valid : details.check = .ok ()) (missing : compound ∉ compounds.map (·.id)) :
      Lists compounds analyses (.putAnalysis id compound details)
        (.refused (.parentNotFound compound)) compounds analyses
  | analysisRemoved {gone : Analysis} {parent : Option Compound} (listed : gone ∈ analyses) :
      Lists compounds analyses (.removeAnalysis gone.id) (.analysisRemoved gone parent)
        (compounds.map fun c => c.withOrder (c.details.order.filter (· ≠ gone.id)))
        (analyses.filter (·.id ≠ gone.id))
  | analysisMissing {id : AnalysisId} (absent : id ∉ analyses.map (·.id)) :
      Lists compounds analyses (.removeAnalysis id) (.refused (.analysisNotFound id)) compounds
        analyses
  | compoundRemoved {gone : Removed} (listed : gone.compound ∈ compounds)
      (children : gone.analyses.Perm (analyses.filter (·.compound = gone.compound.id))) :
      Lists compounds analyses (.removeCompound gone.compound.id) (.compoundsRemoved [gone])
        (compounds.filter (·.id ≠ gone.compound.id))
        (analyses.filter (·.compound ≠ gone.compound.id))
  | compoundMissing {id : CompoundId} (absent : id ∉ compounds.map (·.id)) :
      Lists compounds analyses (.removeCompound id) (.refused (.compoundNotFound id)) compounds
        analyses
  | removedOver {dataset : DatasetId} {gone : List Removed}
      (linked : (gone.map (·.compound.id)).Perm
        ((compounds.filter (·.dataset = dataset)).map (·.id))) :
      Lists compounds analyses (.removeOver dataset) (.compoundsRemoved gone)
        (compounds.filter (·.dataset ≠ dataset)) (analyses.filter (·.dataset ≠ dataset))
  | cleared {gone : List Removed} (inOrder : gone.map (·.compound.id) = compounds.map (·.id)) :
      Lists compounds analyses .clear (.compoundsRemoved gone) [] []

variable {w : Workspace}

/-- Nothing is linked to a compound analysis that is not there. -/
theorem analysesOf_of_absent (h : w.Sound) {id : CompoundId} (absent : id ∉ keys w.compounds) :
    w.index.analysesOf id = [] := by
  refine List.eq_nil_iff_forall_not_mem.2 fun a linked => absent ?_
  obtain ⟨x, there, -, rfl⟩ :=
    (parentOf_eq_some_iff h.analyses_nodup).1 ((h.mem_children a id).1 linked)
  exact compound_mem_keys h there

/-- The analyses found for what is linked to a compound analysis are its analyses. -/
theorem perm_children_found (h : w.Sound) (id : CompoundId) :
    ((w.index.analysesOf id).filterMap w.analysis?).Perm
      (w.analyses.filter (·.compound = id)) := by
  have apart : ((w.index.analysesOf id).filterMap w.analysis?).Nodup := by
    refine .of_map key ?_
    rw [show List.map key _ = _ from keys_children h id]
    exact h.children_nodup id
  refine (List.perm_ext_iff_of_nodup apart ((List.Nodup.of_map key h.analyses_nodup).filter _)).2
    fun a => ?_
  rw [List.mem_filterMap, List.mem_filter, decide_eq_true_iff]
  constructor
  · rintro ⟨child, linked, found⟩
    obtain rfl : a.id = child := Roster.key_of_find?_eq_some found
    have listed := Roster.mem_of_find?_eq_some found
    exact ⟨listed, (mem_children_iff_compound h listed).1 linked⟩
  · rintro ⟨listed, own⟩
    exact ⟨a.id, (mem_children_iff_compound h listed).2 own,
      Roster.find?_key h.analyses_nodup listed⟩

theorem lists_putCompound (h : w.Sound) (datasets : Dataset.Registry) (id : CompoundId)
    (dataset : DatasetId) (details : Compound.Details) :
    let operation := Operation.putCompound datasets id dataset details
    Lists w.compounds w.analyses operation (w.answer operation) (w.step operation).compounds
      (w.step operation).analyses := by
  unfold answer step
  dsimp only
  cases registered : datasets.contains dataset with
  | false =>
    have refused : w.putCompound datasets id dataset details = .error (.datasetNotFound dataset) :=
      if_neg (by simp [registered])
    rw [refused]
    exact .compoundRefused registered
  | true =>
    obtain ⟨next, ⟨compound, created, retargeted⟩, put⟩ : ∃ next stored,
        w.putCompound datasets id dataset details = .ok (next, stored) :=
      ⟨_, _, putCompound_eq details registered⟩
    have p := putCompound_spec h put
    obtain rfl := p.compound
    obtain rfl := p.created
    rw [put]
    show Lists _ _ _ (.compoundStored _) next.compounds next.analyses
    rw [p.compounds, p.analyses]
    cases found : w.compound? id with
    | none =>
      have absent : id ∉ keys w.compounds := Roster.find?_eq_none_iff.1 found
      have unset : w.datasetOf id = none := by rw [datasetOf, found]; rfl
      -- nothing is linked to what is new, so no identifier of the requested order is kept
      have order : arrange details.order (w.index.analysesOf id) = [] := by
        rw [analysesOf_of_absent h absent]
        exact List.perm_nil.1 (perm_arrange details.order .nil)
      obtain rfl : retargeted = [] := p.retargeted.trans (if_pos (.inl unset))
      have set := Roster.set_of_not_mem
        (x := (⟨id, dataset, { details with order := [] }⟩ : Compound)) absent
      rw [order, map_dataset_eq_self h fun d _ => by simp [unset]]
      dsimp only
      rw [set]
      exact .compoundCreated registered absent
    | some old =>
      obtain rfl : old.id = id := Roster.key_of_find?_eq_some found
      have listed := Roster.mem_of_find?_eq_some found
      have children := (perm_arrange details.order (h.children_nodup old.id)).trans
        (perm_analysesUnder h old.id)
      have moved : retargeted.Perm (if old.dataset = dataset then [] else
          (w.analyses.filter (·.compound = old.id)).map fun a =>
            { a with dataset := dataset }) := by
        rw [show retargeted = _ from p.retargeted, datasetOf_of_mem h listed]
        by_cases same : old.dataset = dataset
        · simp [same]
        · simpa [same, List.map_filterMap] using (perm_children_found h old.id).map _
      generalize arrange details.order (w.index.analysesOf old.id) = order at children
      have set := Roster.set_of_mem
        (x := (⟨old.id, dataset, { details with order := order }⟩ : Compound))
        (Roster.mem_keys_of_find? found)
      dsimp only
      rw [set]
      exact .compoundUpdated registered listed children moved

theorem lists_putAnalysis (h : w.Sound) (id : AnalysisId) (compound : CompoundId)
    (details : Details) :
    let operation := Operation.putAnalysis id compound details
    Lists w.compounds w.analyses operation (w.answer operation) (w.step operation).compounds
      (w.step operation).analyses := by
  unfold answer step
  dsimp only
  cases valid : details.check with
  | error problem =>
    rw [putAnalysis_of_invalid valid]
    exact .analysisInvalid valid
  | ok _ =>
    cases there : w.compound? compound with
    | none =>
      rw [putAnalysis_of_missing valid there]
      exact .analysisRefused valid (Roster.find?_eq_none_iff.1 there)
    | some parent =>
      obtain rfl : parent.id = compound := Roster.key_of_find?_eq_some there
      have listed := Roster.mem_of_find?_eq_some there
      obtain ⟨next, ⟨analysis, created, reordered⟩, put⟩ : ∃ next stored,
          w.putAnalysis id parent.id details = .ok (next, stored) :=
        ⟨_, _, putAnalysis_eq valid there⟩
      have p := putAnalysis_spec h put
      obtain rfl : analysis = ⟨id, parent.dataset, parent.id, details⟩ :=
        p.analysis_eq (datasetOf_of_mem h listed)
      obtain rfl := p.created
      rw [put]
      show Lists _ _ _ (.analysisStored _) next.compounds next.analyses
      rw [p.compounds, p.analyses]
      cases found : w.analysis? id with
      | none =>
        have absent : id ∉ keys w.analyses := Roster.find?_eq_none_iff.1 found
        have set := Roster.set_of_not_mem
          (x := (⟨id, parent.dataset, parent.id, details⟩ : Analysis)) absent
        dsimp only
        rw [set]
        exact .analysisCreated valid listed absent
      | some old =>
        have known : id ∈ keys w.analyses := Roster.mem_keys_of_find? found
        have set := Roster.set_of_mem
          (x := (⟨id, parent.dataset, parent.id, details⟩ : Analysis)) known
        dsimp only
        rw [set]
        exact .analysisUpdated valid listed known

theorem lists_removeAnalysis (h : w.Sound) (id : AnalysisId) :
    Lists w.compounds w.analyses (.removeAnalysis id) (w.answer (.removeAnalysis id))
      (w.step (.removeAnalysis id)).compounds (w.step (.removeAnalysis id)).analyses := by
  unfold answer step
  dsimp only
  cases removed : w.removeAnalysis id with
  | error problem =>
    unfold removeAnalysis at removed
    cases found : w.analysis? id with
    | none =>
      rw [found] at removed
      obtain rfl := Except.error.inj removed
      exact .analysisMissing (Roster.find?_eq_none_iff.1 found)
    | some gone => simp [found] at removed
  | ok made =>
    obtain ⟨next, gone, parent⟩ := made
    have g := removeAnalysis_spec h removed
    obtain rfl : gone.id = id := Roster.key_of_find?_eq_some g.found
    show Lists _ _ _ (.analysisRemoved gone parent) next.compounds next.analyses
    rw [g.compounds, g.analyses]
    exact .analysisRemoved (Roster.mem_of_find?_eq_some g.found)

theorem lists_removeCompound (h : w.Sound) (id : CompoundId) :
    Lists w.compounds w.analyses (.removeCompound id) (w.answer (.removeCompound id))
      (w.step (.removeCompound id)).compounds (w.step (.removeCompound id)).analyses := by
  unfold answer step
  dsimp only
  cases removed : w.removeCompound id with
  | error problem =>
    unfold removeCompound at removed
    cases found : w.compound? id with
    | none =>
      rw [found] at removed
      obtain rfl := Except.error.inj removed
      exact .compoundMissing (Roster.find?_eq_none_iff.1 found)
    | some gone => simp [found] at removed
  | ok made =>
    obtain ⟨next, gone⟩ := made
    have g := removeCompound_spec h removed
    obtain rfl : gone.compound.id = id := Roster.key_of_find?_eq_some g.found
    show Lists _ _ _ (.compoundsRemoved [gone]) next.compounds next.analyses
    rw [g.compounds, g.analyses]
    exact .compoundRemoved (Roster.mem_of_find?_eq_some g.found)
      (g.removed ▸ perm_children_found h gone.compound.id)

/-- The compound analyses that go one after the other are the ones that are to go. -/
theorem ids_removeEach (h : w.Sound) {ids : List CompoundId} (apart : ids.Nodup)
    (there : ∀ id ∈ ids, id ∈ keys w.compounds) :
    (w.removeEach ids).2.map (·.compound.id) = ids := by
  have first := congrArg (List.map Prod.fst) (removeEach_snd h apart there)
  simpa [Function.comp_def] using first

theorem lists_removeOver (h : w.Sound) (dataset : DatasetId) :
    Lists w.compounds w.analyses (.removeOver dataset) (w.answer (.removeOver dataset))
      (w.step (.removeOver dataset)).compounds (w.step (.removeOver dataset)).analyses := by
  have c := cleared_removeEach h (w.index.compoundsOf dataset)
  have there : ∀ id ∈ w.index.compoundsOf dataset, id ∈ keys w.compounds := by
    intro id linked
    obtain ⟨x, found, -⟩ := Option.map_eq_some_iff.1 ((h.mem_over id dataset).1 linked)
    exact Roster.mem_keys_of_find? found
  have compounds : (w.removeOver dataset).1.compounds =
      w.compounds.filter (·.dataset ≠ dataset) := by
    refine c.compounds.trans (List.filter_congr fun x listed => ?_)
    simp [h.mem_over, datasetOf_of_mem h listed]
  have analyses : (w.removeOver dataset).1.analyses = w.analyses.filter (·.dataset ≠ dataset) := by
    refine c.analyses.trans (List.filter_congr fun a listed => ?_)
    simp [h.mem_over, h.parent a listed]
  show Lists _ _ _ (.compoundsRemoved (w.removeOver dataset).2) (w.removeOver dataset).1.compounds
    (w.removeOver dataset).1.analyses
  rw [compounds, analyses]
  refine .removedOver ?_
  rw [show (w.removeOver dataset).2.map (·.compound.id) = w.index.compoundsOf dataset from
    ids_removeEach h (h.over_nodup dataset) there]
  exact perm_compoundsOver h dataset

theorem lists_clear (h : w.Sound) : Lists w.compounds w.analyses .clear (w.answer .clear)
    (w.step .clear).compounds (w.step .clear).analyses := by
  have empty : w.step .clear = {} := clear_fst h
  rw [empty]
  exact .cleared (ids_removeEach h h.compounds_nodup fun _ listed => listed)

theorem lists_step (h : w.Sound) (operation : Operation) :
    Lists w.compounds w.analyses operation (w.answer operation) (w.step operation).compounds
      (w.step operation).analyses := by
  cases operation with
  | putCompound datasets id dataset details => exact lists_putCompound h datasets id dataset details
  | putAnalysis id compound details => exact lists_putAnalysis h id compound details
  | removeAnalysis id => exact lists_removeAnalysis h id
  | removeCompound id => exact lists_removeCompound h id
  | removeOver dataset => exact lists_removeOver h dataset
  | clear => exact lists_clear h

/-- Whatever an operation does, the order of the entries that it leaves is not changed. -/
theorem Lists.steady {compounds compounds' : List Compound} {analyses analyses' : List Analysis}
    {operation : Operation} {answer : Answer}
    (h : Lists compounds analyses operation answer compounds' analyses')
    (apart : (keys compounds).Nodup) (apart' : (keys analyses).Nodup) :
    Steady (keys compounds) (keys compounds') ∧ Steady (keys analyses) (keys analyses') := by
  have same : Steady (keys compounds) (keys compounds) := steady_of_sublist apart (.refl _)
  have same' : Steady (keys analyses) (keys analyses) := steady_of_sublist apart' (.refl _)
  cases h with
  | compoundRefused | analysisInvalid | analysisRefused | analysisMissing | compoundMissing =>
    exact ⟨same, same'⟩
  | compoundCreated registered absent => exact ⟨steady_append absent, same'⟩
  | compoundUpdated registered listed children moved =>
    exact ⟨steady_update apart fun _ _ => rfl, steady_map apart' fun a => by split <;> rfl⟩
  | analysisCreated valid there absent =>
    exact ⟨steady_map apart fun _ => rfl, steady_append absent⟩
  | analysisUpdated valid there listed =>
    exact ⟨steady_map apart fun _ => rfl, steady_update apart' fun _ _ => rfl⟩
  | analysisRemoved listed => exact ⟨steady_map apart fun _ => rfl, steady_filter apart' _⟩
  | compoundRemoved listed children => exact ⟨steady_filter apart _, steady_filter apart' _⟩
  | removedOver linked => exact ⟨steady_filter apart _, steady_filter apart' _⟩
  | cleared inOrder =>
    exact ⟨steady_of_sublist apart (List.nil_sublist _),
      steady_of_sublist apart' (List.nil_sublist _)⟩

end Analysis.Workspace

/-! ## §4 Runs -/

/-- The stores in hash tables after any operations, whatever the hashes.

A registry shows the list of datasets, each once, in whatever order the table gives out its entries:
what is registered comes last and takes the place of nothing, and what has the same identifier is
deleted and given back; a removal deletes, or it is refused and the list stays. A workspace shows the
lists of compound analyses and of analyses: what is created comes last, what is updated stays in its
place, also if it goes to another dataset or compound analysis, and what is removed is deleted. No
operation changes the order of other entries. An operation uses up one number at most, so that the
numbers are below the count of the operations. -/
theorem stamped_stores_refine_lists [Hashable DatasetId] [Hashable CompoundId]
    [Hashable AnalysisId] :
    (∀ operations : List Dataset.Registry.Operation,
      let store := Dataset.StampedRegistry.run operations
      let registry := Dataset.Registry.run operations
      store.datasets.Shows registry.datasets ∧ store.list = registry.datasets ∧
      store.ids = registry.ids ∧ (∀ id, store.get? id = registry.get? id) ∧
      (∀ entry ∈ store.datasets.entries, entry.number < operations.length) ∧
      ∀ operation, let after := registry.step operation
        (store.perform operation).1.datasets.Shows after.datasets ∧
        (store.perform operation).2 = registry.answer operation ∧
        Dataset.Registry.Lists registry.datasets operation (registry.answer operation)
          after.datasets ∧
        after.datasets.filter (·.id ≠ operation.id) =
          registry.datasets.filter (·.id ≠ operation.id)) ∧
    ∀ operations : List Analysis.Workspace.Operation,
      let store := Analysis.StampedWorkspace.run operations
      let w := Analysis.Workspace.run operations
      store.compounds.Shows w.compounds ∧ store.analyses.Shows w.analyses ∧
      store.compounds.list = w.compounds ∧ store.analyses.list = w.analyses ∧
      (∀ entry ∈ store.compounds.entries, entry.number < operations.length) ∧
      (∀ entry ∈ store.analyses.entries, entry.number < operations.length) ∧
      ∀ operation, let after := w.step operation
        (store.perform operation).1.compounds.Shows after.compounds ∧
        (store.perform operation).1.analyses.Shows after.analyses ∧
        (store.perform operation).2 = w.answer operation ∧
        Analysis.Workspace.Lists w.compounds w.analyses operation (w.answer operation)
          after.compounds after.analyses ∧
        Steady (keys w.compounds) (keys after.compounds) ∧
        Steady (keys w.analyses) (keys after.analyses) := by
  constructor
  · intro operations store registry
    have keeps : store.datasets.Keeps store.next registry.datasets :=
      Dataset.StampedRegistry.keeps_run operations
    have next : store.next ≤ operations.length := Dataset.StampedRegistry.next_run_le operations
    refine ⟨keeps.shows, keeps.list, congrArg (List.map Dataset.id) keeps.list, keeps.shows.found,
      fun entry held => Nat.lt_of_lt_of_le (keeps.below entry held) next, fun operation => ?_⟩
    obtain ⟨shown, answered⟩ := Dataset.StampedRegistry.keeps_perform keeps operation
    have lists := Dataset.Registry.lists_step keeps.shows.apart operation
    exact ⟨shown.shows, answered, lists, lists.others⟩
  · intro operations store w
    have m : Analysis.StampedWorkspace.Matches store w :=
      Analysis.StampedWorkspace.matches_run operations
    have next : store.next ≤ operations.length := Analysis.StampedWorkspace.next_run_le operations
    have sound : w.Sound := (Analysis.Workspace.ordered_run operations).sound
    refine ⟨m.compounds.shows, m.analyses.shows, m.compounds.list, m.analyses.list,
      fun entry held => Nat.lt_of_lt_of_le (m.compounds.below entry held) next,
      fun entry held => Nat.lt_of_lt_of_le (m.analyses.below entry held) next,
      fun operation => ?_⟩
    obtain ⟨shown, answered⟩ := m.perform sound operation
    have lists := Analysis.Workspace.lists_step sound operation
    exact ⟨shown.compounds.shows, shown.analyses.shows, answered, lists,
      lists.steady sound.compounds_nodup sound.analyses_nodup⟩

end Coordination
