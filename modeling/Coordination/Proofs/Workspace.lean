/-
Coordination.Proofs.Workspace — the stores of a workspace and its index agree.

The index is kept beside the stores, so an operation on analyses has to
change up to four things: the record, the links, and the orders of two
compound analyses. `Workspace.Sound` says how they hang together, and for
each operation there is one description of the workspace that it leaves:
here for the operations on analyses (`AnalysisPut`, `AnalysisGone`), in
`Proofs/Compounds` for those on compound analyses. Later modules read the
descriptions and never unfold an operation.

The descriptions say what happened to all compound analyses at once, also
to those that the operation does not touch: an order loses an identifier
that was not in it. That is what makes `Sound` carry over without a case
for every position of a parent.

  §1 Index         — the children of every parent after each change of the index.
  §2 Orders        — `detach` and `attach` as changes of the whole list.
  §3 Sound         — the invariant.
  §4 Analyses      — `putAnalysis`, `removeAnalysis`.
-/
import Coordination.Analysis.Workspace
import Coordination.Proofs.Roster

namespace Coordination

/-! ## §1 Index -/

namespace Analysis

/-- A parent's children after a child was given to one parent: it is the last one there, unless it
was there before, and it is nowhere else. -/
def placed {π κ : Type} [DecidableEq π] [DecidableEq κ] (parent : π) (child : κ) (other : π)
    (children : List κ) : List κ :=
  if other = parent then if child ∈ children then children else children ++ [child]
  else children.filter (· ≠ child)

section Placed

variable {π κ : Type} [DecidableEq π] [DecidableEq κ] {parent other : π} {child x : κ}
  {xs ys : List κ}

theorem mem_placed : x ∈ placed parent child other xs ↔
    (x = child ∧ other = parent) ∨ (x ≠ child ∧ x ∈ xs) := by
  unfold placed; split
  · split <;> by_cases hx : x = child <;> simp_all
  · simp_all [and_comm]

theorem nodup_placed (h : xs.Nodup) : (placed parent child other xs).Nodup := by
  unfold placed; split
  · split
    · exact h
    · rename_i hc
      refine List.nodup_append.2 ⟨h, by simp, ?_⟩
      rintro y hy z hz rfl
      exact hc (List.mem_singleton.1 hz ▸ hy)
  · exact h.sublist List.filter_sublist

theorem perm_placed (h : xs.Perm ys) :
    (placed parent child other xs).Perm (placed parent child other ys) := by
  unfold placed; split
  · by_cases hc : child ∈ xs
    · rw [if_pos hc, if_pos (h.mem_iff.1 hc)]
      exact h
    · rw [if_neg hc, if_neg (mt h.mem_iff.2 hc)]
      exact h.append_right _
  · exact h.filter _

end Placed

namespace Index

variable (index : Index) (dataset : DatasetId) (compound : CompoundId) (analysis : AnalysisId)

theorem compoundsOf_linkCompound (other : DatasetId) :
    (index.linkCompound dataset compound).compoundsOf other =
      if other = dataset ∧ compound ∉ index.compoundsOf other then
        index.compoundsOf other ++ [compound]
      else index.compoundsOf other :=
  Links.childrenOf_link dataset compound other index.compounds

theorem analysesOf_linkCompound (other : CompoundId) :
    (index.linkCompound dataset compound).analysesOf other = index.analysesOf other :=
  Links.childrenOf_ensure compound other index.analyses

theorem compoundsOf_unlinkCompound (other : DatasetId) :
    (index.unlinkCompound dataset compound).compoundsOf other =
      if other = dataset then (index.compoundsOf other).filter (· ≠ compound)
      else index.compoundsOf other :=
  (Links.childrenOf_prune dataset other _).trans
    (Links.childrenOf_unlink dataset compound other index.compounds)

theorem analysesOf_dropCompound (other : CompoundId) :
    (index.dropCompound dataset compound).1.analysesOf other =
      if other = compound then [] else index.analysesOf other :=
  Links.childrenOf_drop compound other index.analyses

theorem analysesOf_linkAnalysis (other : CompoundId) :
    (index.linkAnalysis compound analysis).analysesOf other =
      if other = compound ∧ analysis ∉ index.analysesOf other then
        index.analysesOf other ++ [analysis]
      else index.analysesOf other :=
  Links.childrenOf_link compound analysis other index.analyses

theorem analysesOf_unlinkAnalysis (other : CompoundId) :
    (index.unlinkAnalysis compound analysis).analysesOf other =
      if other = compound then (index.analysesOf other).filter (· ≠ analysis)
      else index.analysesOf other :=
  Links.childrenOf_unlink compound analysis other index.analyses

end Index

end Analysis

/-! ## §2 Orders -/

namespace Compound

@[simp] theorem id_withOrder (compound : Compound) (order : List AnalysisId) :
    (compound.withOrder order).id = compound.id := rfl

end Compound

namespace Analysis.Workspace

/-- The dataset that a compound analysis is over. -/
def datasetOf (w : Workspace) (id : CompoundId) : Option DatasetId :=
  (w.compound? id).map (·.dataset)

/-- What a change of one compound analysis's order comes to, with the report on it: all that the
change does to the list of compound analyses is in the report. -/
structure Reordered (compound : CompoundId) (f : Compound → Compound) (w : Workspace)
    (result : Workspace × Option Compound) : Prop where
  analyses : result.1.analyses = w.analyses
  index : result.1.index = w.index
  compounds : result.1.compounds = Roster.update compound f w.compounds
  reported :
    result.2.toList.foldl (fun xs x => Roster.replace x xs) w.compounds = result.1.compounds
  same_dataset : ∀ x ∈ result.2.toList, w.datasetOf x.id = some x.dataset

theorem update_eq_map (k : CompoundId) (f : Compound → Compound) (xs : List Compound) :
    Roster.update k f xs = xs.map fun x => if x.id = k then f x else x := rfl

section Reordered

variable {w : Workspace} {compound : CompoundId} {f : Compound → Compound}

theorem Reordered.same (h : Roster.update compound f w.compounds = w.compounds) :
    Reordered compound f w (w, none) where
  analyses := rfl
  index := rfl
  compounds := h.symm
  reported := rfl
  same_dataset := nofun

theorem Reordered.replaced (h : (Roster.keys w.compounds).Nodup) {old : Compound}
    (hc : w.compound? compound = some old) (hid : (f old).id = old.id)
    (hd : (f old).dataset = old.dataset) :
    Reordered compound f w
      ({ w with compounds := Roster.replace (f old) w.compounds }, some (f old)) where
  analyses := rfl
  index := rfl
  compounds := Roster.replace_eq_update h hc (hid.trans (Roster.key_of_find?_eq_some hc))
  reported := rfl
  same_dataset x hx := by
    obtain rfl := List.mem_singleton.1 hx
    have hkey : old.id = compound := Roster.key_of_find?_eq_some hc
    rw [datasetOf, hid, hkey, hc, hd]
    rfl

theorem reordered_detach (h : (Roster.keys w.compounds).Nodup) (compound : CompoundId)
    (analysis : AnalysisId) :
    Reordered compound (fun x => x.withOrder (x.details.order.filter (· ≠ analysis))) w
      (w.detach compound analysis) := by
  unfold detach
  cases hc : w.compound? compound with
  | none => exact .same (Roster.update_of_not_mem (Roster.find?_eq_none_iff.1 hc) _)
  | some old =>
    dsimp only
    split
    · exact .replaced h hc rfl rfl
    · rename_i hn
      refine .same (Roster.update_eq_self h hc ?_)
      rw [List.filter_eq_self.2 fun a ha => by simpa using fun e : a = analysis => hn (e ▸ ha)]
      rfl

theorem reordered_attach (h : (Roster.keys w.compounds).Nodup) (compound : CompoundId)
    (analysis : AnalysisId) :
    Reordered compound (fun x => x.withOrder (if analysis ∈ x.details.order then x.details.order
      else x.details.order ++ [analysis])) w (w.attach compound analysis) := by
  unfold attach
  cases hc : w.compound? compound with
  | none => exact .same (Roster.update_of_not_mem (Roster.find?_eq_none_iff.1 hc) _)
  | some old =>
    dsimp only
    split
    · rename_i hm
      refine .same (Roster.update_eq_self h hc ?_)
      rw [if_pos hm]
      rfl
    · rename_i hn
      have hr := Reordered.replaced (f := fun x => x.withOrder (if analysis ∈ x.details.order
        then x.details.order else x.details.order ++ [analysis])) h hc rfl rfl
      simpa only [if_neg hn] using hr

end Reordered

/-! ## §3 Sound -/

/-- The compound analysis that an analysis belongs to. -/
def parentOf (w : Workspace) (id : AnalysisId) : Option CompoundId :=
  (w.analysis? id).map (·.compound)

/-- The stores agree with each other and with the index. -/
structure Sound (w : Workspace) : Prop where
  compounds_nodup : (Roster.keys w.compounds).Nodup
  analyses_nodup : (Roster.keys w.analyses).Nodup
  /-- An analysis belongs to a compound analysis over the same dataset. -/
  parent : ∀ a ∈ w.analyses, w.datasetOf a.compound = some a.dataset
  /-- The order of a compound analysis lists its linked analyses. -/
  order : ∀ c ∈ w.compounds, c.details.order.Perm (w.index.analysesOf c.id)
  children_nodup : ∀ c, (w.index.analysesOf c).Nodup
  mem_children : ∀ a c, a ∈ w.index.analysesOf c ↔ w.parentOf a = some c
  over_nodup : ∀ d, (w.index.compoundsOf d).Nodup
  mem_over : ∀ c d, c ∈ w.index.compoundsOf d ↔ w.datasetOf c = some d

theorem sound_empty : ({} : Workspace).Sound where
  compounds_nodup := List.nodup_nil
  analyses_nodup := List.nodup_nil
  parent := nofun
  order := nofun
  children_nodup _ := List.nodup_nil
  mem_children _ _ := ⟨nofun, nofun⟩
  over_nodup _ := List.nodup_nil
  mem_over _ _ := ⟨nofun, nofun⟩

theorem parentOf_eq_some_iff {w : Workspace} (h : (Roster.keys w.analyses).Nodup)
    {id : AnalysisId} {c : CompoundId} :
    w.parentOf id = some c ↔ ∃ a ∈ w.analyses, a.id = id ∧ a.compound = c := by
  rw [parentOf, Option.map_eq_some_iff]
  simp only [analysis?, Roster.find?_eq_some_iff h, and_assoc]
  rfl

theorem datasetOf_of_mem {w : Workspace} (h : w.Sound) {c : Compound} (hc : c ∈ w.compounds) :
    w.datasetOf c.id = some c.dataset := by
  rw [datasetOf, compound?, show c.id = Keyed.key c from rfl, Roster.find?_key h.compounds_nodup hc]
  rfl

theorem parentOf_of_mem {w : Workspace} (h : w.Sound) {a : Analysis} (ha : a ∈ w.analyses) :
    w.parentOf a.id = some a.compound :=
  (parentOf_eq_some_iff h.analyses_nodup).2 ⟨a, ha, rfl, rfl⟩

/-- A change of orders is not seen by who asks for the dataset. -/
theorem datasetOf_map {w v : Workspace} {f : Compound → Compound}
    (hv : v.compounds = w.compounds.map f) (keeps : ∀ c, (f c).id = c.id)
    (same : ∀ c, (f c).dataset = c.dataset) (id : CompoundId) : v.datasetOf id = w.datasetOf id := by
  rw [datasetOf, compound?, hv, Roster.find?_map keeps, Option.map_map]
  exact congrArg (Option.map · (w.compound? id)) (funext same)

/-! ## §4 Analyses -/

/-- What storing an analysis does. -/
structure AnalysisPut (w : Workspace) (id : AnalysisId) (compound : CompoundId) (details : Details)
    (w' : Workspace) (stored : AnalysisStored) : Prop where
  id_eq : stored.analysis.id = id
  compound_eq : stored.analysis.compound = compound
  details_eq : stored.analysis.details = details
  dataset_eq : w.datasetOf compound = some stored.analysis.dataset
  created : stored.created = (w.analysis? id).isNone
  analyses : w'.analyses = Roster.set stored.analysis w.analyses
  compounds : w'.compounds =
    w.compounds.map fun x => x.withOrder (placed compound id x.id x.details.order)
  /-- The compound analyses that are reported turn the old list into the new one. -/
  reported : stored.reordered.foldl (fun xs x => Roster.replace x xs) w.compounds = w'.compounds
  same_dataset : ∀ x ∈ stored.reordered, w.datasetOf x.id = some x.dataset
  links : w'.index.compounds = w.index.compounds
  children : ∀ c, w'.index.analysesOf c = placed compound id c (w.index.analysesOf c)

section Analyses

variable {w w' : Workspace} {id : AnalysisId} {compound : CompoundId} {details : Details}

/-- An analysis is in the order of the compound analysis that it belongs to, and in no other. -/
theorem mem_order_iff (h : w.Sound) {c : Compound} (hc : c ∈ w.compounds) {a : AnalysisId} :
    a ∈ c.details.order ↔ w.parentOf a = some c.id :=
  (h.order c hc).mem_iff.trans (h.mem_children a c.id)

/-- Leaving one compound analysis is leaving all, since an analysis is in one at most. -/
theorem filter_children_of_ne (h : w.Sound) {c : CompoundId} (hne : w.parentOf id ≠ some c) :
    (w.index.analysesOf c).filter (· ≠ id) = w.index.analysesOf c :=
  List.filter_eq_self.2 fun a ha => by
    simpa using fun e : a = id => hne ((h.mem_children id c).1 (e ▸ ha))

theorem filter_order_of_ne (h : w.Sound) {c : Compound} (hc : c ∈ w.compounds)
    (hne : w.parentOf id ≠ some c.id) :
    c.withOrder (c.details.order.filter (· ≠ id)) = c := by
  rw [List.filter_eq_self.2 fun a ha => by
    simpa using fun e : a = id => hne ((mem_order_iff h hc).1 (e ▸ ha))]
  rfl

/-- What is left of the links and orders of a workspace when an analysis is taken out of them. -/
structure Left (w : Workspace) (id : AnalysisId) (analyses : List Analysis)
    (left : Workspace × Option Compound) : Prop where
  analyses : left.1.analyses = analyses
  compounds : left.1.compounds =
    w.compounds.map fun x => x.withOrder (x.details.order.filter (· ≠ id))
  reported : left.2.toList.foldl (fun xs x => Roster.replace x xs) w.compounds = left.1.compounds
  same_dataset : ∀ x ∈ left.2.toList, w.datasetOf x.id = some x.dataset
  links : left.1.index.compounds = w.index.compounds
  children : ∀ c, left.1.index.analysesOf c = (w.index.analysesOf c).filter (· ≠ id)

theorem left_leave (h : w.Sound) {old : CompoundId} (hp : w.parentOf id = some old)
    (analyses : List Analysis) :
    Left w id analyses ({ w with analyses := analyses }.leave old id) := by
  have r : Reordered _ _ _ ({ w with analyses := analyses }.leave old id) :=
    reordered_detach
      (w := { w with analyses := analyses, index := w.index.unlinkAnalysis old id })
      h.compounds_nodup old id
  have other : ∀ {c}, c ≠ old → w.parentOf id ≠ some c := fun hc e =>
    hc (Option.some.inj (e.symm.trans hp))
  refine ⟨r.analyses, ?_, r.reported, r.same_dataset, by rw [r.index]; rfl, ?_⟩
  · rw [r.compounds, update_eq_map]
    refine List.map_congr_left ?_
    intro x hx
    by_cases ho : x.id = old
    · rw [if_pos ho]
    · rw [if_neg ho, filter_order_of_ne h hx (other ho)]
  · intro c
    rw [r.index, Index.analysesOf_unlinkAnalysis]
    by_cases ho : c = old
    · rw [if_pos ho]
    · rw [if_neg ho, filter_children_of_ne h (other ho)]

/-- What is left of a workspace when an analysis is taken out of every compound analysis but one. -/
structure Vacated (w : Workspace) (id : AnalysisId) (compound : CompoundId)
    (left : Workspace × Option Compound) : Prop where
  analyses : left.1.analyses = w.analyses
  compounds : left.1.compounds = w.compounds.map fun x =>
    if x.id = compound then x else x.withOrder (x.details.order.filter (· ≠ id))
  reported : left.2.toList.foldl (fun xs x => Roster.replace x xs) w.compounds = left.1.compounds
  same_dataset : ∀ x ∈ left.2.toList, w.datasetOf x.id = some x.dataset
  links : left.1.index.compounds = w.index.compounds
  children : ∀ c, left.1.index.analysesOf c =
    if c = compound then w.index.analysesOf c else (w.index.analysesOf c).filter (· ≠ id)

theorem vacated_same (h : w.Sound) (hne : ∀ c, c ≠ compound → w.parentOf id ≠ some c) :
    Vacated w id compound (w, none) where
  analyses := rfl
  compounds := by
    refine (Roster.map_eq_self fun x hx => ?_).symm
    split
    · rfl
    · rename_i hx'
      exact filter_order_of_ne h hx (hne x.id hx')
  reported := rfl
  same_dataset := nofun
  links := rfl
  children c := by
    split
    · rfl
    · rename_i hc
      exact (filter_children_of_ne h (hne c hc)).symm

theorem vacated_leave (h : w.Sound) {old : CompoundId} (hp : w.parentOf id = some old)
    (hne : old ≠ compound) : Vacated w id compound (w.leave old id) := by
  have l := left_leave h hp w.analyses
  have other : w.parentOf id ≠ some compound := fun e => hne (Option.some.inj (hp.symm.trans e))
  refine ⟨l.analyses, ?_, l.reported, l.same_dataset, l.links, ?_⟩
  · refine l.compounds.trans (List.map_congr_left ?_)
    intro x hx
    split
    · rename_i hx'
      exact filter_order_of_ne h hx (hx' ▸ other)
    · rfl
  · intro c
    refine (l.children c).trans ?_
    split
    · rename_i hc
      exact filter_children_of_ne h (hc ▸ other)
    · rfl

/-- The first half of `putAnalysis`: an analysis that moves leaves the compound analysis that it
was in. -/
def vacate (w : Workspace) (id : AnalysisId) (compound : CompoundId) :
    Workspace × Option Compound :=
  match w.analysis? id with
  | some old => if old.compound = compound then (w, none) else w.leave old.compound id
  | none => (w, none)

theorem vacated_vacate (h : w.Sound) (id : AnalysisId) (compound : CompoundId) :
    Vacated w id compound (w.vacate id compound) := by
  unfold vacate
  cases ha : w.analysis? id with
  | none => exact vacated_same h fun c _ => by simp [parentOf, ha]
  | some old =>
    have hp : w.parentOf id = some old.compound := by simp [parentOf, ha]
    dsimp only
    split
    · rename_i ho
      exact vacated_same h fun c hne => by simpa [hp, ho] using Ne.symm hne
    · rename_i ho
      exact vacated_leave h hp ho

/-- Which analyses there are does not depend on what they are linked to. -/
theorem analysis?_vacate (w : Workspace) (id : AnalysisId) (compound : CompoundId)
    (other : AnalysisId) : (w.vacate id compound).1.analysis? other = w.analysis? other := by
  unfold vacate leave detach
  split
  · split
    · rfl
    · split
      · split <;> rfl
      · rfl
  · rfl

theorem analysis?_enter (w : Workspace) (compound : CompoundId) (id other : AnalysisId) :
    (w.enter compound id).1.analysis? other = w.analysis? other := by
  unfold enter attach
  split
  · split <;> rfl
  · rfl

theorem putAnalysis_eq {parent : Compound} (hd : details.check = .ok ())
    (hc : w.compound? compound = some parent) :
    w.putAnalysis id compound details =
      let left := w.vacate id compound
      let entered := left.1.enter compound id
      let analysis : Analysis := ⟨id, parent.dataset, compound, details⟩
      .ok ({ entered.1 with analyses := Roster.set analysis entered.1.analyses },
        { analysis := analysis
          created := (w.analysis? id).isNone
          reordered := left.2.toList ++ entered.2.toList }) := by
  unfold putAnalysis vacate
  rw [hd, hc]
  cases ha : w.analysis? id with
  | none => rfl
  | some old => by_cases ho : old.compound = compound <;> simp [ho, bind, Except.bind] <;> rfl

/-- An analysis is stored only if its details fit and its compound analysis is there. -/
theorem putAnalysis_checked {result : Workspace × AnalysisStored}
    (hok : w.putAnalysis id compound details = .ok result) :
    details.check = .ok () ∧ ∃ parent, w.compound? compound = some parent := by
  unfold putAnalysis at hok
  cases hd : details.check with
  | error e => simp [hd, bind, Except.bind] at hok
  | ok _ =>
    cases hc : w.compound? compound with
    | none => simp [hd, hc, bind, Except.bind] at hok
    | some parent => exact ⟨rfl, parent, rfl⟩

theorem putAnalysis_spec (h : w.Sound) {stored : AnalysisStored}
    (hok : w.putAnalysis id compound details = .ok (w', stored)) :
    AnalysisPut w id compound details w' stored := by
  obtain ⟨hd, parent, hc⟩ := putAnalysis_checked hok
  rw [putAnalysis_eq hd hc] at hok
  have v := vacated_vacate h id compound
  generalize w.vacate id compound = left at hok v
  have keys : Roster.keys left.1.compounds = Roster.keys w.compounds := by
    rw [v.compounds]
    exact Roster.keys_map (fun x => by split <;> rfl) _
  have r : Reordered _ _ _ (left.1.enter compound id) :=
    reordered_attach (w := { left.1 with index := left.1.index.linkAnalysis compound id })
      (keys ▸ h.compounds_nodup) compound id
  obtain ⟨rfl, rfl⟩ := Prod.mk.inj (Except.ok.inj hok)
  have same : ∀ c, left.1.datasetOf c = w.datasetOf c :=
    datasetOf_map v.compounds (fun x => by split <;> rfl) (fun x => by split <;> rfl)
  exact {
    id_eq := rfl
    compound_eq := rfl
    details_eq := rfl
    dataset_eq := by
      rw [datasetOf, hc]
      rfl
    created := rfl
    analyses := congrArg (Roster.set _) (r.analyses.trans v.analyses)
    compounds := by
      refine r.compounds.trans ?_
      rw [v.compounds, update_eq_map, List.map_map]
      refine List.map_congr_left ?_
      intro x _
      by_cases hx : x.id = compound <;> simp [placed, hx]
    reported := by
      rw [List.foldl_append, v.reported]
      exact r.reported
    same_dataset := by
      intro x hx
      rcases List.mem_append.1 hx with hx | hx
      · exact v.same_dataset x hx
      · exact (same x.id).symm.trans (r.same_dataset x hx)
    links := (congrArg Index.compounds r.index).trans v.links
    children := by
      intro c
      refine (congrArg (Index.analysesOf · c) r.index).trans ?_
      show (left.1.index.linkAnalysis compound id).analysesOf c = _
      rw [Index.analysesOf_linkAnalysis, v.children]
      by_cases hc : c = compound
      · by_cases hm : id ∈ w.index.analysesOf compound <;> simp [placed, hc, hm]
      · simp [placed, hc] }

theorem AnalysisPut.analysis? {stored : AnalysisStored}
    (p : AnalysisPut w id compound details w' stored) (j : AnalysisId) :
    w'.analysis? j = if j = id then some stored.analysis else w.analysis? j := by
  rw [Workspace.analysis?, p.analyses, Roster.find?_set]
  show (if j = stored.analysis.id then _ else _) = _
  rw [p.id_eq]
  rfl

theorem AnalysisPut.parentOf {stored : AnalysisStored}
    (p : AnalysisPut w id compound details w' stored) (j : AnalysisId) :
    w'.parentOf j = if j = id then some compound else w.parentOf j := by
  rw [Workspace.parentOf, p.analysis?]
  split
  · exact congrArg some p.compound_eq
  · rfl

/-- A workspace stays sound if orders and links are changed alike, and analyses as the links say. -/
theorem Sound.of_reorder (h : w.Sound) (g : CompoundId → List AnalysisId → List AnalysisId)
    (gperm : ∀ c {xs ys : List AnalysisId}, xs.Perm ys → (g c xs).Perm (g c ys))
    (gnodup : ∀ c {xs : List AnalysisId}, xs.Nodup → (g c xs).Nodup)
    (compounds : w'.compounds = w.compounds.map fun x => x.withOrder (g x.id x.details.order))
    (links : w'.index.compounds = w.index.compounds)
    (children : ∀ c, w'.index.analysesOf c = g c (w.index.analysesOf c))
    (analyses : (Roster.keys w'.analyses).Nodup)
    (parent : ∀ a ∈ w'.analyses, w.datasetOf a.compound = some a.dataset)
    (mem : ∀ a c, a ∈ g c (w.index.analysesOf c) ↔ w'.parentOf a = some c) : w'.Sound := by
  have hset : ∀ c, w'.datasetOf c = w.datasetOf c :=
    datasetOf_map compounds (fun _ => rfl) (fun _ => rfl)
  exact {
    compounds_nodup := by
      rw [compounds, Roster.keys, List.map_map]
      exact h.compounds_nodup
    analyses_nodup := analyses
    parent := fun a ha => (hset _).trans (parent a ha)
    order := by
      intro c hc
      rw [compounds] at hc
      obtain ⟨x, hx, rfl⟩ := List.mem_map.1 hc
      rw [children]
      exact gperm x.id (h.order x hx)
    children_nodup := by
      intro c
      rw [children]
      exact gnodup c (h.children_nodup c)
    mem_children := by
      intro a c
      rw [children]
      exact mem a c
    over_nodup := by
      intro d
      rw [Index.compoundsOf, links]
      exact h.over_nodup d
    mem_over := by
      intro c d
      rw [Index.compoundsOf, links, hset]
      exact h.mem_over c d }

theorem AnalysisPut.sound {stored : AnalysisStored} (h : w.Sound)
    (p : AnalysisPut w id compound details w' stored) : w'.Sound := by
  have apart : (Roster.keys w'.analyses).Nodup := by
    rw [p.analyses]
    exact Roster.nodup_keys_set h.analyses_nodup _
  refine h.of_reorder (placed compound id) (fun _ _ _ => perm_placed) (fun _ _ => nodup_placed)
    p.compounds p.links p.children apart ?_ ?_
  · intro a ha
    have found := p.analysis? a.id
    rw [show w'.analysis? a.id = some a from Roster.find?_key apart ha] at found
    split at found
    · rw [Option.some.inj found, p.compound_eq]
      exact p.dataset_eq
    · exact h.parent a (Roster.mem_of_find?_eq_some found.symm)
  · intro a c
    rw [mem_placed, p.parentOf, h.mem_children]
    by_cases ha : a = id <;> simp [ha, eq_comm]

/-- What removing an analysis does. -/
structure AnalysisGone (w : Workspace) (id : AnalysisId) (w' : Workspace) (gone : Analysis)
    (parent : Option Compound) : Prop where
  found : w.analysis? id = some gone
  analyses : w'.analyses = Roster.erase id w.analyses
  compounds : w'.compounds =
    w.compounds.map fun x => x.withOrder (x.details.order.filter (· ≠ id))
  reported : parent.toList.foldl (fun xs x => Roster.replace x xs) w.compounds = w'.compounds
  same_dataset : ∀ x ∈ parent.toList, w.datasetOf x.id = some x.dataset
  links : w'.index.compounds = w.index.compounds
  children : ∀ c, w'.index.analysesOf c = (w.index.analysesOf c).filter (· ≠ id)

theorem removeAnalysis_spec (h : w.Sound) {gone : Analysis} {parent : Option Compound}
    (hok : w.removeAnalysis id = .ok (w', gone, parent)) : AnalysisGone w id w' gone parent := by
  unfold removeAnalysis at hok
  cases ha : w.analysis? id with
  | none => simp [ha] at hok
  | some analysis =>
    have l := left_leave h (show w.parentOf id = some analysis.compound by simp [parentOf, ha])
      (Roster.erase id w.analyses)
    simp only [ha, Except.ok.injEq, Prod.mk.injEq] at hok
    obtain ⟨rfl, rfl, rfl⟩ := hok
    exact ⟨ha, l.analyses, l.compounds, l.reported, l.same_dataset, l.links, l.children⟩

theorem AnalysisGone.parentOf {gone : Analysis} {parent : Option Compound}
    (g : AnalysisGone w id w' gone parent) (j : AnalysisId) :
    w'.parentOf j = if j = id then none else w.parentOf j := by
  rw [Workspace.parentOf, analysis?, g.analyses, Roster.find?_erase]
  split <;> rfl

theorem AnalysisGone.sound {gone : Analysis} {parent : Option Compound} (h : w.Sound)
    (g : AnalysisGone w id w' gone parent) : w'.Sound := by
  have apart : (Roster.keys w'.analyses).Nodup := by
    rw [g.analyses]
    exact Roster.nodup_keys_erase h.analyses_nodup id
  refine h.of_reorder (fun _ xs => xs.filter (· ≠ id)) (fun _ _ _ hp => hp.filter _)
    (fun _ _ hn => hn.sublist List.filter_sublist) g.compounds g.links g.children apart ?_ ?_
  · intro a ha
    rw [g.analyses] at ha
    exact h.parent a (List.mem_filter.1 ha).1
  · intro a c
    rw [g.parentOf, List.mem_filter, h.mem_children]
    by_cases ha : a = id <;> simp [ha]

end Analyses

end Analysis.Workspace

end Coordination
