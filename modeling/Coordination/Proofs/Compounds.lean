/-
Coordination.Proofs.Compounds — compound analyses come, move and go with all that is in them.

For each operation on compound analyses there is one description of the
workspace that it leaves (`CompoundPut`, `CompoundGone`, `Cleared`), as
`Proofs/Workspace` has them for analyses. Where a compound analysis moves
to another dataset its analyses move along, and where it goes they go
first, so the stores and the index agree after every cascade.

  §1 Compounds  — `putCompound`, `removeCompound`.
  §2 Scans      — `compoundsOver`, `analysesUnder`: the links as a scan finds them.
  §3 Cascades   — `removeEach`, `removeOver`, `clear`.
-/
import Coordination.Proofs.Workspace

namespace Coordination.Analysis.Workspace

/-! ## §1 Compounds -/

section Compounds

variable {w w' : Workspace} {id : CompoundId} {dataset : DatasetId}

theorem mem_firsts {allowed seen xs : List AnalysisId} {x : AnalysisId} :
    x ∈ firsts allowed seen xs ↔ x ∈ xs ∧ x ∈ allowed ∧ x ∉ seen := by
  induction xs generalizing seen with
  | nil => simp [firsts]
  | cons y rest ih =>
    unfold firsts; split
    · rename_i hy
      rw [List.mem_cons, ih, List.mem_cons, List.mem_cons]
      by_cases hx : x = y
      · simp [hx, hy]
      · simp [hx]
    · rename_i hy
      rw [ih, List.mem_cons]
      by_cases hx : x = y
      · subst hx
        exact ⟨fun h => absurd h.2 hy, fun h => absurd h.2 hy⟩
      · simp [hx]

theorem nodup_firsts (allowed seen xs : List AnalysisId) : (firsts allowed seen xs).Nodup := by
  induction xs generalizing seen with
  | nil => exact List.nodup_nil
  | cons y rest ih =>
    unfold firsts; split
    · exact List.nodup_cons.2 ⟨fun h => (mem_firsts.1 h).2.2 List.mem_cons_self, ih _⟩
    · exact ih _

/-- Whatever is requested, the order lists the children, each once. -/
theorem perm_arrange (requested : List AnalysisId) {children : List AnalysisId}
    (h : children.Nodup) : (arrange requested children).Perm children := by
  refine (List.perm_ext_iff_of_nodup (nodup_firsts _ _ _) h).2 ?_
  intro x
  show x ∈ firsts _ _ _ ↔ _
  rw [mem_firsts]
  simp only [List.mem_append, List.not_mem_nil, not_false_eq_true, and_true]
  exact ⟨fun hx => hx.2, fun hx => ⟨.inr hx, hx⟩⟩

/-- What storing a compound analysis does. -/
structure CompoundPut (w : Workspace) (datasets : Dataset.Registry) (id : CompoundId)
    (dataset : DatasetId) (details : Compound.Details) (w' : Workspace)
    (stored : CompoundStored) : Prop where
  registered : datasets.contains dataset = true
  compound : stored.compound =
    ⟨id, dataset, { details with order := arrange details.order (w.index.analysesOf id) }⟩
  created : stored.created = (w.compound? id).isNone
  retargeted : stored.retargeted =
    if w.datasetOf id = none ∨ w.datasetOf id = some dataset then []
    else (w.index.analysesOf id).filterMap fun child =>
      (w.analysis? child).map fun a => { a with dataset := dataset }
  compounds : w'.compounds = Roster.set stored.compound w.compounds
  analyses : w'.analyses =
    w.analyses.map fun a => if a.compound = id then { a with dataset := dataset } else a
  links : ∀ d, w'.index.compoundsOf d = placed dataset id d (w.index.compoundsOf d)
  children : ∀ c, w'.index.analysesOf c = w.index.analysesOf c

/-- Unlinking a compound analysis from a dataset that it is not over changes nothing. -/
theorem filter_compoundsOf_of_ne (h : w.Sound) {d : DatasetId} (hne : w.datasetOf id ≠ some d) :
    (w.index.compoundsOf d).filter (· ≠ id) = w.index.compoundsOf d :=
  List.filter_eq_self.2 fun c hc => by
    simpa using fun e : c = id => hne ((h.mem_over id d).1 (e ▸ hc))

/-- A compound analysis that is not over another dataset is placed by linking it. -/
theorem placed_compoundsOf (h : w.Sound) {d : DatasetId}
    (hone : ∀ d, d ≠ dataset → w.datasetOf id ≠ some d) :
    placed dataset id d (w.index.compoundsOf d) =
      if d = dataset ∧ id ∉ w.index.compoundsOf d then w.index.compoundsOf d ++ [id]
      else w.index.compoundsOf d := by
  by_cases hd : d = dataset
  · by_cases hm : id ∈ w.index.compoundsOf dataset <;> simp [placed, hd, hm]
  · rw [placed, if_neg hd, if_neg fun both => hd both.1]
    exact filter_compoundsOf_of_ne h (hone d hd)

/-- The analyses of a compound analysis that is over a dataset are over it already. -/
theorem map_dataset_eq_self (h : w.Sound) (hone : ∀ d, d ≠ dataset → w.datasetOf id ≠ some d) :
    (w.analyses.map fun a => if a.compound = id then { a with dataset := dataset } else a) =
      w.analyses := by
  refine Roster.map_eq_self fun a ha => ?_
  split
  · rename_i hid
    have hd : a.dataset = dataset := by
      by_cases hd : a.dataset = dataset
      · exact hd
      · exact absurd (hid ▸ h.parent a ha) (hone a.dataset hd)
    rw [← hd]
  · rfl

theorem mem_children_iff_compound (h : w.Sound) {a : Analysis} (ha : a ∈ w.analyses) :
    a.id ∈ w.index.analysesOf id ↔ a.compound = id := by
  rw [h.mem_children, parentOf_of_mem h ha]
  exact Option.some_inj

/-- A child of a compound analysis is an analysis. -/
theorem mem_keys_of_mem_children (h : w.Sound) {a : AnalysisId}
    (ha : a ∈ w.index.analysesOf id) : a ∈ Roster.keys w.analyses := by
  obtain ⟨x, hx, -⟩ := Option.map_eq_some_iff.1 ((h.mem_children a id).1 ha)
  exact Roster.mem_keys_of_find? hx

/-- The analyses found for the children are the children. -/
theorem keys_children (h : w.Sound) (id : CompoundId) :
    Roster.keys ((w.index.analysesOf id).filterMap w.analysis?) = w.index.analysesOf id :=
  Roster.keys_filterMap_find? fun _ => mem_keys_of_mem_children h

/-- What is left of the links and analyses of a workspace when a compound analysis is put over a
dataset, before it is stored itself. -/
structure Relinked (w : Workspace) (id : CompoundId) (dataset : DatasetId)
    (linked : Workspace × List Analysis) : Prop where
  compounds : linked.1.compounds = w.compounds
  analyses : linked.1.analyses =
    w.analyses.map fun a => if a.compound = id then { a with dataset := dataset } else a
  retargeted : linked.2 =
    if w.datasetOf id = none ∨ w.datasetOf id = some dataset then []
    else (w.index.analysesOf id).filterMap fun child =>
      (w.analysis? child).map fun a => { a with dataset := dataset }
  links : ∀ d, linked.1.index.compoundsOf d = placed dataset id d (w.index.compoundsOf d)
  children : ∀ c, linked.1.index.analysesOf c = w.index.analysesOf c

theorem relinked_new (h : w.Sound) (absent : w.datasetOf id = none) :
    Relinked w id dataset ({ w with index := w.index.linkCompound dataset id }, []) := by
  have hone : ∀ d, d ≠ dataset → w.datasetOf id ≠ some d := fun d _ => by simp [absent]
  refine ⟨rfl, (map_dataset_eq_self h hone).symm, by simp [absent], ?_,
    Index.analysesOf_linkCompound _ _ _⟩
  intro d
  rw [placed_compoundsOf h hone]
  exact Index.compoundsOf_linkCompound _ _ _ d

theorem relinked_same (h : w.Sound) (same : w.datasetOf id = some dataset) :
    Relinked w id dataset (w, []) := by
  have hone : ∀ d, d ≠ dataset → w.datasetOf id ≠ some d := fun d hne => by
    simpa [same] using Ne.symm hne
  refine ⟨rfl, (map_dataset_eq_self h hone).symm, by simp [same], ?_, fun _ => rfl⟩
  intro d
  rw [placed_compoundsOf h hone]
  have linked : ¬ (d = dataset ∧ id ∉ w.index.compoundsOf d) := by
    rintro ⟨rfl, hn⟩
    exact hn ((h.mem_over id d).2 same)
  exact (if_neg linked).symm

/-- A compound analysis that is retargeted takes its analyses along. -/
theorem relinked_retarget (h : w.Sound) {old : DatasetId} (hset : w.datasetOf id = some old)
    (hd : old ≠ dataset) : Relinked w id dataset (w.retarget id old dataset) := by
  have hkeep : ∀ c, ((w.index.unlinkCompound old id).linkCompound dataset id).analysesOf c =
      w.index.analysesOf c := fun c => Index.analysesOf_linkCompound _ _ _ c
  refine ⟨rfl, ?_, by simp [retarget, hset, hd, hkeep], ?_, hkeep⟩
  · refine List.map_congr_left ?_
    intro a ha
    simp only [hkeep, mem_children_iff_compound h ha]
  · intro d
    show ((w.index.unlinkCompound old id).linkCompound dataset id).compoundsOf d = _
    rw [Index.compoundsOf_linkCompound, Index.compoundsOf_unlinkCompound]
    by_cases hdd : d = dataset
    · simp [placed, hdd, Ne.symm hd]
    · by_cases hdo : d = old
      · simp [placed, hdo, hd]
      · have elsewhere : w.datasetOf id ≠ some d := fun e =>
          hdo (Option.some.inj (e.symm.trans hset))
        rw [if_neg hdo, if_neg fun both => hdd both.1, placed, if_neg hdd]
        exact (filter_compoundsOf_of_ne h elsewhere).symm

/-- The first half of `putCompound`: a compound analysis is linked to its dataset, and its analyses
go there with it. -/
def relink (w : Workspace) (id : CompoundId) (dataset : DatasetId) : Workspace × List Analysis :=
  match w.compound? id with
  | some old => if old.dataset = dataset then (w, []) else w.retarget id old.dataset dataset
  | none => ({ w with index := w.index.linkCompound dataset id }, [])

theorem relinked_relink (h : w.Sound) (id : CompoundId) (dataset : DatasetId) :
    Relinked w id dataset (w.relink id dataset) := by
  unfold relink
  cases hc : w.compound? id with
  | none => exact relinked_new h (by simp [datasetOf, hc])
  | some old =>
    have hset : w.datasetOf id = some old.dataset := by simp [datasetOf, hc]
    by_cases hd : old.dataset = dataset
    · simp only [if_pos hd]
      exact relinked_same h (hd ▸ hset)
    · simp only [if_neg hd]
      exact relinked_retarget h hset hd

theorem compound?_relink (w : Workspace) (id : CompoundId) (dataset : DatasetId)
    (other : CompoundId) : (w.relink id dataset).1.compound? other = w.compound? other := by
  unfold relink
  split
  · split <;> rfl
  · rfl

theorem putCompound_eq {datasets : Dataset.Registry} (details : Compound.Details)
    (registered : datasets.contains dataset = true) :
    w.putCompound datasets id dataset details =
      let linked := w.relink id dataset
      let compound : Compound := ⟨id, dataset,
        { details with order := arrange details.order (linked.1.index.analysesOf id) }⟩
      .ok ({ linked.1 with compounds := Roster.set compound linked.1.compounds },
        { compound := compound
          created := (w.compound? id).isNone
          retargeted := linked.2 }) := by
  unfold putCompound relink
  refine (if_pos registered).trans ?_
  cases hc : w.compound? id with
  | none => rfl
  | some old => by_cases hd : old.dataset = dataset <;> simp [hd]

theorem putCompound_spec (h : w.Sound) {datasets : Dataset.Registry} {details : Compound.Details}
    {stored : CompoundStored}
    (hok : w.putCompound datasets id dataset details = .ok (w', stored)) :
    CompoundPut w datasets id dataset details w' stored := by
  have registered : datasets.contains dataset = true := by
    by_cases hr : datasets.contains dataset = true
    · exact hr
    · rw [putCompound, if_neg hr] at hok
      cases hok
  rw [putCompound_eq details registered] at hok
  have r := relinked_relink h id dataset
  generalize w.relink id dataset = linked at hok r
  obtain ⟨rfl, rfl⟩ := Prod.mk.inj (Except.ok.inj hok)
  exact {
    registered := registered
    compound := by simp only [r.children]
    created := rfl
    retargeted := r.retargeted
    compounds := congrArg (Roster.set _) r.compounds
    analyses := r.analyses
    links := r.links
    children := r.children }

section Retargeted

variable {datasets : Dataset.Registry} {details : Compound.Details} {stored : CompoundStored}

/-- Only analyses of the compound analysis go over to another dataset with it. -/
theorem CompoundPut.mem_retargeted (h : w.Sound)
    (p : CompoundPut w datasets id dataset details w' stored) {a : Analysis}
    (ha : a ∈ stored.retargeted) :
    a.id ∈ Roster.keys w.analyses ∧ a.compound = id ∧ a.dataset = dataset := by
  rw [p.retargeted] at ha
  split at ha
  · exact nomatch ha
  · obtain ⟨child, hchild, hfound⟩ := List.mem_filterMap.1 ha
    obtain ⟨x, hx, rfl⟩ := Option.map_eq_some_iff.1 hfound
    have hm := Roster.mem_of_find?_eq_some hx
    obtain rfl : x.id = child := Roster.key_of_find?_eq_some hx
    have listed : x.id ∈ Roster.keys w.analyses := Roster.key_mem_keys hm
    exact ⟨listed, (mem_children_iff_compound h hm).1 hchild, rfl⟩

/-- The analyses that are reported turn the old list into the new one. -/
theorem CompoundPut.reported (h : w.Sound)
    (p : CompoundPut w datasets id dataset details w' stored) :
    stored.retargeted.foldl (fun xs a => Roster.replace a xs) w.analyses = w'.analyses := by
  rw [p.retargeted, p.analyses]
  split
  · rename_i hd
    refine (map_dataset_eq_self h ?_).symm
    intro d hne
    rcases hd with hd | hd
    · simp [hd]
    · simpa [hd] using Ne.symm hne
  · let moved (a : Analysis) := { a with dataset := dataset }
    have same : (w.index.analysesOf id).filterMap (fun child => (w.analysis? child).map moved) =
        ((w.index.analysesOf id).filterMap w.analysis?).map moved := List.map_filterMap.symm
    have keeps : ∀ a : Analysis, Keyed.key (moved a) = Keyed.key a := fun _ => rfl
    have apart : (Roster.keys (((w.index.analysesOf id).filterMap w.analysis?).map moved)).Nodup := by
      rw [Roster.keys_map keeps, keys_children h]
      exact h.children_nodup id
    rw [same, Roster.foldl_replace apart]
    refine List.map_congr_left ?_
    intro a ha
    have found : Roster.find? a.id ((w.index.analysesOf id).filterMap w.analysis?) =
        if a.compound = id then some a else none := by
      refine (Roster.find?_filterMap_find? a.id _ _).trans ?_
      rw [show Roster.find? a.id w.analyses = some a from Roster.find?_key h.analyses_nodup ha]
      simp only [mem_children_iff_compound h ha]
    rw [Roster.find?_map keeps, show Keyed.key a = a.id from rfl, found]
    by_cases hc : a.compound = id <;> simp [hc, moved]

end Retargeted

section Stored

variable {datasets : Dataset.Registry} {details : Compound.Details} {stored : CompoundStored}

theorem CompoundPut.datasetOf (p : CompoundPut w datasets id dataset details w' stored)
    (c : CompoundId) : w'.datasetOf c = if c = id then some dataset else w.datasetOf c := by
  have hid : stored.compound.id = id := by rw [p.compound]
  rw [Workspace.datasetOf, compound?, p.compounds, Roster.find?_set]
  show Option.map _ (if c = stored.compound.id then _ else _) = _
  rw [hid]
  split
  · rw [p.compound]
    rfl
  · rfl

/-- Analyses stay where they are when their compound analysis is stored. -/
theorem CompoundPut.parentOf (p : CompoundPut w datasets id dataset details w' stored)
    (a : AnalysisId) : w'.parentOf a = w.parentOf a := by
  rw [Workspace.parentOf, analysis?, p.analyses, Roster.find?_map fun a => by split <;> rfl,
    Option.map_map]
  refine congrArg (Option.map · (w.analysis? a)) (funext ?_)
  intro x
  rw [Function.comp_apply]
  split <;> rfl

theorem CompoundPut.sound (h : w.Sound) (p : CompoundPut w datasets id dataset details w' stored) :
    w'.Sound where
  compounds_nodup := by
    rw [p.compounds]
    exact Roster.nodup_keys_set h.compounds_nodup _
  analyses_nodup := by
    rw [p.analyses, Roster.keys_map fun a => by split <;> rfl]
    exact h.analyses_nodup
  parent := by
    intro a ha
    rw [p.analyses] at ha
    obtain ⟨x, hx, rfl⟩ := List.mem_map.1 ha
    rw [p.datasetOf]
    by_cases hxid : x.compound = id
    · simp only [if_pos hxid]
    · simpa only [if_neg hxid] using h.parent x hx
  order := by
    intro c hc
    rw [p.children]
    rw [p.compounds] at hc
    rcases Roster.mem_set hc with rfl | hc
    · rw [p.compound]
      exact perm_arrange details.order (h.children_nodup id)
    · exact h.order c hc
  children_nodup := by
    intro c
    rw [p.children]
    exact h.children_nodup c
  mem_children := by
    intro a c
    rw [p.children, p.parentOf]
    exact h.mem_children a c
  over_nodup := by
    intro d
    rw [p.links]
    exact nodup_placed (h.over_nodup d)
  mem_over := by
    intro c d
    rw [p.links, mem_placed, p.datasetOf, h.mem_over]
    by_cases hc : c = id <;> simp [hc, eq_comm]

end Stored

/-- What removing a compound analysis does. -/
structure CompoundGone (w : Workspace) (id : CompoundId) (w' : Workspace) (gone : Removed) :
    Prop where
  found : w.compound? id = some gone.compound
  removed : gone.analyses = (w.index.analysesOf id).filterMap w.analysis?
  compounds : w'.compounds = Roster.erase id w.compounds
  analyses : w'.analyses = w.analyses.filter fun a => a.compound ≠ id
  links : ∀ d, w'.index.compoundsOf d = (w.index.compoundsOf d).filter (· ≠ id)
  children : ∀ c, w'.index.analysesOf c = if c = id then [] else w.index.analysesOf c

theorem removeCompound_spec (h : w.Sound) {gone : Removed}
    (hok : w.removeCompound id = .ok (w', gone)) : CompoundGone w id w' gone := by
  unfold removeCompound at hok
  cases hc : w.compound? id with
  | none => simp [hc] at hok
  | some compound =>
    have hset : w.datasetOf id = some compound.dataset := by rw [datasetOf, hc]; rfl
    simp only [hc, Except.ok.injEq, Prod.mk.injEq] at hok
    obtain ⟨rfl, rfl⟩ := hok
    exact {
      found := hc
      removed := rfl
      compounds := rfl
      analyses := by
        refine List.filter_congr ?_
        intro a ha
        exact decide_eq_decide.2 (not_congr (mem_children_iff_compound h ha))
      links := by
        intro d
        show (w.index.unlinkCompound compound.dataset id).compoundsOf d = _
        rw [Index.compoundsOf_unlinkCompound]
        by_cases hd : d = compound.dataset
        · rw [if_pos hd]
        · have elsewhere : w.datasetOf id ≠ some d := fun e =>
            hd (Option.some.inj (e.symm.trans hset))
          rw [if_neg hd, filter_compoundsOf_of_ne h elsewhere]
      children := Index.analysesOf_dropCompound _ _ _ }

theorem CompoundGone.datasetOf {gone : Removed} (g : CompoundGone w id w' gone) (c : CompoundId) :
    w'.datasetOf c = if c = id then none else w.datasetOf c := by
  rw [Workspace.datasetOf, compound?, g.compounds, Roster.find?_erase]
  split <;> rfl

theorem CompoundGone.nodup_analyses (h : w.Sound) {gone : Removed}
    (g : CompoundGone w id w' gone) : (Roster.keys w'.analyses).Nodup := by
  rw [g.analyses]
  exact Roster.nodup_keys_filter h.analyses_nodup _

/-- The analyses that are left are those of the other compound analyses. -/
theorem CompoundGone.parentOf_eq_some_iff (h : w.Sound) {gone : Removed}
    (g : CompoundGone w id w' gone) {a : AnalysisId} {c : CompoundId} :
    w'.parentOf a = some c ↔ w.parentOf a = some c ∧ c ≠ id := by
  rw [Workspace.parentOf_eq_some_iff (g.nodup_analyses h),
    Workspace.parentOf_eq_some_iff h.analyses_nodup, g.analyses]
  simp only [List.mem_filter, decide_eq_true_eq]
  constructor
  · rintro ⟨x, ⟨hx, hne⟩, hid, rfl⟩
    exact ⟨⟨x, hx, hid, rfl⟩, hne⟩
  · rintro ⟨⟨x, hx, hid, rfl⟩, hne⟩
    exact ⟨x, ⟨hx, hne⟩, hid, rfl⟩

theorem CompoundGone.sound (h : w.Sound) {gone : Removed} (g : CompoundGone w id w' gone) :
    w'.Sound where
  compounds_nodup := by
    rw [g.compounds]
    exact Roster.nodup_keys_erase h.compounds_nodup id
  analyses_nodup := g.nodup_analyses h
  parent := by
    intro a ha
    rw [g.analyses, List.mem_filter, decide_eq_true_eq] at ha
    rw [g.datasetOf, if_neg ha.2]
    exact h.parent a ha.1
  order := by
    intro c hc
    rw [g.compounds, Roster.erase, List.mem_filter, decide_eq_true_eq] at hc
    have other : c.id ≠ id := hc.2
    rw [g.children, if_neg other]
    exact h.order c hc.1
  children_nodup := by
    intro c
    rw [g.children]
    split
    · exact List.nodup_nil
    · exact h.children_nodup c
  mem_children := by
    intro a c
    rw [g.children, g.parentOf_eq_some_iff h]
    by_cases hc : c = id
    · simp [hc]
    · simpa [hc] using h.mem_children a c
  over_nodup := by
    intro d
    rw [g.links]
    exact (h.over_nodup d).sublist List.filter_sublist
  mem_over := by
    intro c d
    rw [g.links, List.mem_filter, g.datasetOf, h.mem_over]
    by_cases hc : c = id <;> simp [hc]

end Compounds

/-! ## §2 Scans -/

/-- The compound analyses over a dataset, in the order of their creation. -/
def compoundsOver (w : Workspace) (dataset : DatasetId) : List CompoundId :=
  (w.compounds.filter fun c => c.dataset = dataset).map (·.id)

/-- The analyses of a compound analysis, in the order of their creation. -/
def analysesUnder (w : Workspace) (compound : CompoundId) : List AnalysisId :=
  (w.analyses.filter fun a => a.compound = compound).map (·.id)

section Scans

variable {w : Workspace}

theorem mem_compoundsOver (h : w.Sound) {c : CompoundId} {d : DatasetId} :
    c ∈ w.compoundsOver d ↔ w.datasetOf c = some d := by
  rw [compoundsOver, List.mem_map]
  constructor
  · rintro ⟨x, hx, rfl⟩
    obtain ⟨hm, hd⟩ := List.mem_filter.1 hx
    rw [datasetOf_of_mem h hm, of_decide_eq_true hd]
  · intro hd
    obtain ⟨x, hx, rfl⟩ := Option.map_eq_some_iff.1 hd
    exact ⟨x, List.mem_filter.2 ⟨Roster.mem_of_find?_eq_some hx, by simp⟩,
      Roster.key_of_find?_eq_some hx⟩

theorem mem_analysesUnder (h : w.Sound) {a : AnalysisId} {c : CompoundId} :
    a ∈ w.analysesUnder c ↔ w.parentOf a = some c := by
  rw [analysesUnder, List.mem_map, parentOf_eq_some_iff h.analyses_nodup]
  simp only [List.mem_filter, decide_eq_true_eq]
  constructor
  · rintro ⟨x, ⟨hx, hc⟩, hid⟩
    exact ⟨x, hx, hid, hc⟩
  · rintro ⟨x, hx, hid, hc⟩
    exact ⟨x, ⟨hx, hc⟩, hid⟩

/-- The index and a scan find the same compound analyses. -/
theorem perm_compoundsOver (h : w.Sound) (d : DatasetId) :
    (w.index.compoundsOf d).Perm (w.compoundsOver d) := by
  have apart : (w.compoundsOver d).Nodup := Roster.nodup_keys_filter h.compounds_nodup _
  refine (List.perm_ext_iff_of_nodup (h.over_nodup d) apart).2 ?_
  intro c
  rw [h.mem_over, mem_compoundsOver h]

/-- The index and a scan find the same analyses. -/
theorem perm_analysesUnder (h : w.Sound) (c : CompoundId) :
    (w.index.analysesOf c).Perm (w.analysesUnder c) := by
  have apart : (w.analysesUnder c).Nodup := Roster.nodup_keys_filter h.analyses_nodup _
  refine (List.perm_ext_iff_of_nodup (h.children_nodup c) apart).2 ?_
  intro a
  rw [h.mem_children, mem_analysesUnder h]

end Scans

/-! ## §3 Cascades -/

section Cascades

variable {w : Workspace}

theorem removeEach_of_found {id : CompoundId} {next : Workspace} {gone : Removed}
    (hok : w.removeCompound id = .ok (next, gone)) (rest : List CompoundId) :
    w.removeEach (id :: rest) = ((next.removeEach rest).1, gone :: (next.removeEach rest).2) := by
  rw [removeEach, hok]

theorem removeEach_of_missing {id : CompoundId} (hn : w.compound? id = none)
    (rest : List CompoundId) : w.removeEach (id :: rest) = w.removeEach rest := by
  rw [removeEach, removeCompound, hn]

theorem removeCompound_of_found {id : CompoundId} {c : Compound} (hc : w.compound? id = some c) :
    ∃ next gone, w.removeCompound id = .ok (next, gone) := by
  rw [removeCompound, hc]
  exact ⟨_, _, rfl⟩

/-- What removing several compound analyses leaves. -/
structure Cleared (w : Workspace) (ids : List CompoundId) (w' : Workspace) : Prop where
  sound : w'.Sound
  compounds : w'.compounds = w.compounds.filter fun c => c.id ∉ ids
  analyses : w'.analyses = w.analyses.filter fun a => a.compound ∉ ids

theorem cleared_removeEach (h : w.Sound) (ids : List CompoundId) :
    Cleared w ids (w.removeEach ids).1 := by
  induction ids generalizing w with
  | nil => exact ⟨h, (List.filter_eq_self.2 (by simp)).symm, (List.filter_eq_self.2 (by simp)).symm⟩
  | cons id rest ih =>
    cases hc : w.compound? id with
    | none =>
      obtain ⟨hs, hcompounds, hanalyses⟩ := removeEach_of_missing hc rest ▸ ih h
      have hn : ∀ c ∈ w.compounds, c.id ≠ id := fun c hm e =>
        Roster.find?_eq_none_iff.1 hc (e ▸ Roster.key_mem_keys hm)
      refine ⟨hs, hcompounds.trans (List.filter_congr ?_),
        hanalyses.trans (List.filter_congr ?_)⟩
      · intro c hm
        simp [hn c hm]
      · intro a hm
        have : a.compound ≠ id := by
          rintro rfl
          have hp := h.parent a hm
          rw [datasetOf, hc] at hp
          cases hp
        simp [this]
    | some c =>
      obtain ⟨next, gone, hok⟩ := removeCompound_of_found hc
      have g := removeCompound_spec h hok
      obtain ⟨hs, hcompounds, hanalyses⟩ := ih (g.sound h)
      rw [removeEach_of_found hok]
      refine ⟨hs, hcompounds.trans ?_, hanalyses.trans ?_⟩
      · rw [g.compounds]
        exact Roster.filter_erase id rest w.compounds
      · rw [g.analyses, List.filter_filter]
        refine List.filter_congr ?_
        intro a _
        simp [not_or, Bool.and_comm]

/-- Nothing is over a dataset after what was over it is removed. -/
theorem not_over_removeOver (h : w.Sound) (dataset : DatasetId) :
    (∀ c ∈ (w.removeOver dataset).1.compounds, c.dataset ≠ dataset) ∧
      ∀ a ∈ (w.removeOver dataset).1.analyses, a.dataset ≠ dataset := by
  have g := cleared_removeEach h (w.index.compoundsOf dataset)
  constructor
  · rintro c hc rfl
    obtain ⟨hm, hn⟩ := List.mem_filter.1 (g.compounds ▸ hc)
    exact of_decide_eq_true hn ((h.mem_over c.id c.dataset).2 (datasetOf_of_mem h hm))
  · rintro a ha rfl
    obtain ⟨hm, hn⟩ := List.mem_filter.1 (g.analyses ▸ ha)
    exact of_decide_eq_true hn ((h.mem_over a.compound a.dataset).2 (h.parent a hm))

theorem compound_mem_keys (h : w.Sound) {a : Analysis} (ha : a ∈ w.analyses) :
    a.compound ∈ Roster.keys w.compounds := by
  obtain ⟨c, hc, -⟩ := Option.map_eq_some_iff.1 (h.parent a ha)
  exact Roster.mem_keys_of_find? hc

theorem clear_fst (h : w.Sound) : w.clear.1 = {} := by
  have g := cleared_removeEach h (w.compounds.map (·.id))
  have compounds : (w.removeEach (w.compounds.map (·.id))).1.compounds = [] := by
    rw [g.compounds, List.filter_eq_nil_iff]
    exact fun c hc hn => of_decide_eq_true hn (List.mem_map_of_mem hc)
  have analyses : (w.removeEach (w.compounds.map (·.id))).1.analyses = [] := by
    rw [g.analyses, List.filter_eq_nil_iff]
    exact fun a ha hn => of_decide_eq_true hn (compound_mem_keys h ha)
  show Workspace.mk _ _ _ = _
  rw [compounds, analyses]

end Cascades

end Coordination.Analysis.Workspace
