/-
Coordination.Proofs.Upserts — what it changes to store an analysis or a compound analysis.

A command that stores something under an identifier creates it, changes it
in place, or moves it: a compound analysis to another dataset, an analysis
to another compound analysis. All of this is one path through the core, and
what it does is stated for all cases at once (`Core.CompoundUpsert`,
`Core.AnalysisUpsert`): each store as a whole, then the jobs, then the
messages of the batch.

An order is asked for by clients, but the children are those that are
linked. The order that is stored lists each child once (`settled`): what was
asked for comes first, the others follow as they were linked. Asking for
that order again changes nothing.

  §1 Orders              — `settled`, and that `arrange` gives it.
  §2 Messages            — what is published of analyses that are changed.
  §3 Compound analyses   — `Core.CompoundUpsert`.
  §4 Analyses            — `Core.AnalysisUpsert`.
-/
import Coordination.Proofs.Cascade

namespace Coordination

open Analysis (Workspace)
open Roster (keys)

/-! ## §1 Orders -/

namespace Analysis.Workspace

/-- The requested children, each where it is requested first, and then the others as they were
linked. -/
def settled (requested children : List AnalysisId) : List AnalysisId :=
  (requested.filter (children.contains ·)).eraseDups ++ children.removeAll requested

theorem firsts_eq (allowed seen xs : List AnalysisId) :
    firsts allowed seen xs = (xs.filter fun x => x ∈ allowed ∧ x ∉ seen).eraseDups := by
  induction xs generalizing seen with
  | nil => rfl
  | cons x rest ih =>
    rw [firsts, List.filter_cons]
    by_cases hx : x ∈ allowed ∧ x ∉ seen
    · rw [if_pos hx, if_pos (by simpa using hx), List.eraseDups_cons, ih, List.filter_filter]
      congr 2
      refine List.filter_congr ?_
      intro y _
      by_cases same : y = x <;> simp [same]
    · rw [if_neg hx, if_neg (by simpa using hx), ih]

theorem eraseDups_of_nodup {xs : List AnalysisId} (h : xs.Nodup) : xs.eraseDups = xs := by
  induction xs with
  | nil => rfl
  | cons x rest ih =>
    obtain ⟨hx, hrest⟩ := List.nodup_cons.1 h
    have others : rest.filter (fun y => !y == x) = rest := by
      refine List.filter_eq_self.2 ?_
      rintro y hy
      simpa using fun e : y = x => hx (e ▸ hy)
    rw [List.eraseDups_cons, others, ih hrest]

theorem arrange_eq (requested : List AnalysisId) {children : List AnalysisId}
    (h : children.Nodup) : arrange requested children = settled requested children := by
  have allowed : (requested ++ children).filter
      (fun x => x ∈ children ∧ x ∉ ([] : List AnalysisId)) =
      requested.filter (children.contains ·) ++ children := by
    simp
  have others : children.removeAll (requested.filter (children.contains ·)) =
      children.removeAll requested := by
    refine List.filter_congr ?_
    intro x hx
    simp [hx]
  have rest : (children.removeAll requested).Nodup := h.filter _
  rw [arrange, firsts_eq, allowed, List.eraseDups_append, others, eraseDups_of_nodup rest, settled]

/-- An order that lists the children stays as it is. -/
theorem settled_of_perm {order children : List AnalysisId} (h : order.Perm children)
    (apart : children.Nodup) : settled order children = order := by
  have all : order.filter (children.contains ·) = order := by
    refine List.filter_eq_self.2 ?_
    intro x hx
    simpa using h.mem_iff.1 hx
  have none : children.removeAll order = [] := by
    refine List.filter_eq_nil_iff.2 ?_
    intro x hx
    simpa using h.mem_iff.2 hx
  rw [settled, all, none, eraseDups_of_nodup (h.nodup_iff.2 apart), List.append_nil]

end Analysis.Workspace

/-! ## §2 Messages -/

namespace Job.Table

variable {table : Table}

/-- What is published when an analysis is changed: that its job is canceled, if it is live, and the
analysis as it is then. -/
def renewal (table : Table) (analysis : Analysis) : List Message :=
  (table.liveOf analysis.id).map (fun r => .jobCanceled r.handle) ++
    [.analysisStored false analysis]

theorem Sound.messages_refresh (h : table.Sound) {changed : List Analysis}
    (apart : (keys changed).Nodup) :
    Effect.messages (table.refresh changed).2 = changed.flatMap table.renewal := by
  induction changed generalizing table with
  | nil => rfl
  | cons a rest ih =>
    obtain ⟨ha, hrest⟩ := List.nodup_cons.1 apart
    have first := h.drops_retire a.id
    have others : rest.flatMap (table.retire a.id).1.renewal = rest.flatMap table.renewal := by
      refine List.flatMap_congr fun b hb => ?_
      have stays : b.id ∉ [a.id] := by
        intro hm
        exact ha (Roster.mem_keys.2 ⟨b, hb, List.mem_singleton.1 hm⟩)
      have kept : (table.retire a.id).1.liveOf b.id = table.liveOf b.id := first.liveOf_eq stays
      rw [renewal, kept, renewal]
    show Effect.messages ((table.retire a.id).2 ++ .publish (.analysisStored false a) ::
      ((table.retire a.id).1.refresh rest).2) = table.renewal a ++ _
    rw [Effect.messages_append, h.messages_retire, renewal, List.append_assoc]
    exact congrArg (_ ++ .analysisStored false a :: ·) ((ih first.sound hrest).trans others)

end Job.Table

/-! ## §3 Compound analyses -/

namespace Analysis.Workspace

variable {w w' : Workspace} {id : CompoundId} {dataset : DatasetId} {datasets : Dataset.Registry}
  {details : Compound.Details} {stored : CompoundStored}

theorem CompoundPut.analysis? (p : CompoundPut w datasets id dataset details w' stored)
    (a : AnalysisId) : w'.analysis? a =
      (w.analysis? a).map fun x =>
        if x.compound = id then { x with dataset := dataset } else x := by
  rw [Workspace.analysis?, p.analyses]
  exact Roster.find?_map (fun x => by split <;> rfl) a w.analyses

/-- Where the dataset is another one than before, the children are taken along in link order. -/
theorem CompoundPut.retargeted_eq (h : w.Sound)
    (p : CompoundPut w datasets id dataset details w' stored) {old : DatasetId}
    (linked : w.datasetOf id = some old) (moves : old ≠ dataset) :
    stored.retargeted = (w.index.analysesOf id).filterMap w'.analysis? := by
  have other : ¬ (w.datasetOf id = none ∨ w.datasetOf id = some dataset) := by
    simpa [linked] using moves
  rw [p.retargeted, if_neg other]
  refine List.filterMap_congr ?_
  intro child hc
  obtain ⟨x, hx, own⟩ := Option.map_eq_some_iff.1 ((h.mem_children child id).1 hc)
  rw [p.analysis?, hx]
  simp [own]

/-- What is published of some analyses can be told from their identifiers. -/
theorem flatMap_renewal (table : Job.Table) {ids : List AnalysisId}
    (there : ∀ id ∈ ids, id ∈ keys w.analyses) :
    (ids.filterMap w.analysis?).flatMap table.renewal = ids.flatMap fun id =>
      (table.liveOf id).map (fun r => .jobCanceled r.handle) ++
        (w.analysis? id).toList.map (.analysisStored false) := by
  induction ids with
  | nil => rfl
  | cons id rest ih =>
    obtain ⟨a, ha⟩ := Roster.mem_keys_iff_find?.1 (there id List.mem_cons_self)
    have found : w.analysis? id = some a := ha
    obtain rfl : a.id = id := Roster.key_of_find?_eq_some ha
    rw [List.filterMap_cons, found, List.flatMap_cons, List.flatMap_cons, found,
      ih fun other ho => there other (List.mem_cons_of_mem _ ho)]
    rfl

end Analysis.Workspace

namespace Core

/-- The compound analysis that is stored when details are given for it. -/
def settled (core : Core) (id : CompoundId) (dataset : DatasetId) (details : Compound.Details) :
    Compound :=
  ⟨id, dataset, { details with
    order := Workspace.settled details.order (core.workspace.index.analysesOf id) }⟩

/-- What it does to store a compound analysis over a dataset. -/
structure CompoundUpsert (core : Core) (id : CompoundId) (dataset : DatasetId)
    (details : Compound.Details) (outcome : Outcome) : Prop where
  reply : outcome.reply = .ok (.changed (.compoundStored (id ∉ keys core.workspace.compounds)
    (core.settled id dataset details)))
  connection : outcome.core.connection = core.connection
  datasets : outcome.core.datasets = core.datasets
  /-- It is stored in its place if it was there before, and last if not. -/
  compounds : outcome.core.workspace.compounds =
    if id ∈ keys core.workspace.compounds then core.workspace.compounds.map fun c =>
      if c.id = id then core.settled id dataset details else c
    else core.workspace.compounds ++ [core.settled id dataset details]
  /-- Its children go over to the dataset, and nothing else of any analysis changes. -/
  analyses : outcome.core.workspace.analyses = core.workspace.analyses.map fun a =>
    if a.compound = id then { a with dataset := dataset } else a
  links : ∀ c, outcome.core.workspace.index.analysesOf c = core.workspace.index.analysesOf c
  children : (core.workspace.index.analysesOf id).Perm (core.workspace.analysesUnder id)
  /-- If it was over another dataset, the jobs of its children are dropped, and each child is
  announced after it, in the order of linking. -/
  moves : ∀ c ∈ core.workspace.compounds, c.id = id → c.dataset ≠ dataset →
    outcome.core.jobs.records =
        core.jobs.records.filter (·.analysis ∉ core.workspace.index.analysesOf id) ∧
      Effect.messages outcome.effects =
        .compoundStored false (core.settled id dataset details) ::
          (core.workspace.index.analysesOf id).flatMap fun child =>
            (core.jobs.liveOf child).map (fun r => .jobCanceled r.handle) ++
              (outcome.core.workspace.analysis? child).toList.map (.analysisStored false)
  /-- If not, no job is touched, and nothing else is announced. -/
  stays : (∀ c ∈ core.workspace.compounds, c.id = id → c.dataset = dataset) →
    outcome.core.jobs = core.jobs ∧
      Effect.messages outcome.effects =
        [.compoundStored (id ∉ keys core.workspace.compounds) (core.settled id dataset details)]

section Compounds

variable {core : Core} {id : CompoundId} {dataset : DatasetId}

/-- What becomes of the core and of the batch when the workspace takes a compound analysis. -/
theorem dispatch_putCompound_of_ok (context : Context) {details : Compound.Details}
    {next : Workspace} {stored : Workspace.CompoundStored}
    (connected : core.connection.isConnected = true)
    (put : core.workspace.putCompound core.datasets id dataset details = .ok (next, stored)) :
    core.dispatch context (.putCompound id dataset details) =
      { core := { core with
          workspace := next
          jobs := (core.jobs.refresh stored.retargeted).1 }
        effects := .publish (.compoundStored stored.created stored.compound) ::
          (core.jobs.refresh stored.retargeted).2
        reply := .ok (.changed (.compoundStored stored.created stored.compound)) } := by
  simp only [dispatch, perform, putCompound, requireConnected, if_pos connected, put]
  rfl

theorem dispatch_putCompound (h : core.Sound) (table : core.jobs.Sound) (context : Context)
    (registered : dataset ∈ core.datasets.ids) (details : Compound.Details) :
    CompoundUpsert core id dataset details
      (core.dispatch context (.putCompound id dataset details)) := by
  have known : core.datasets.contains dataset = true := Roster.contains_iff.2 registered
  obtain ⟨⟨next, stored⟩, put⟩ : ∃ result,
      core.workspace.putCompound core.datasets id dataset details = .ok result :=
    ⟨_, Workspace.putCompound_eq details known⟩
  have p := Workspace.putCompound_spec h.workspace put
  have outcome := dispatch_putCompound_of_ok context (h.isConnected_of_dataset registered) put
  have compound : stored.compound = core.settled id dataset details := by
    rw [p.compound, Workspace.arrange_eq _ (h.workspace.children_nodup id)]
    rfl
  have created : stored.created = decide (id ∉ keys core.workspace.compounds) := by
    rw [p.created, Bool.eq_iff_iff, decide_eq_true_iff, Option.isNone_iff_eq_none]
    exact Roster.find?_eq_none_iff
  rw [outcome, compound, created]
  refine ⟨rfl, rfl, rfl, ?_, p.analyses, p.children, Workspace.perm_analysesUnder h.workspace id,
    ?_, ?_⟩
  · rw [p.compounds, compound]
    split
    · rename_i there
      exact Roster.set_of_mem there
    · rename_i absent
      exact Roster.set_of_not_mem absent
  · rintro c hc rfl moves
    have linked := Workspace.datasetOf_of_mem h.workspace hc
    have retargeted := p.retargeted_eq h.workspace linked moves
    have taken := Workspace.keys_children (p.sound h.workspace) c.id
    rw [p.children] at taken
    have apart : (keys stored.retargeted).Nodup := by
      rw [retargeted, taken]
      exact h.workspace.children_nodup c.id
    have there : c.id ∈ keys core.workspace.compounds := Roster.key_mem_keys hc
    have listed : ∀ child ∈ core.workspace.index.analysesOf c.id, child ∈ keys next.analyses := by
      intro child hchild
      exact Workspace.mem_keys_of_mem_children (p.sound h.workspace)
        ((p.children c.id).symm ▸ hchild)
    refine ⟨?_, ?_⟩
    · rw [(table.drops_refresh _).records, retargeted, taken]
    · rw [Effect.messages, table.messages_refresh apart, retargeted,
        Workspace.flatMap_renewal core.jobs listed]
      simp [there]
  · intro stays
    have same : core.workspace.datasetOf id = none ∨
        core.workspace.datasetOf id = some dataset := by
      rw [Workspace.datasetOf]
      cases hc : core.workspace.compound? id with
      | none => exact .inl rfl
      | some c =>
        refine .inr (congrArg some ?_)
        exact stays c (Roster.mem_of_find?_eq_some hc) (Roster.key_of_find?_eq_some hc)
    have none : stored.retargeted = [] := by
      rw [p.retargeted, if_pos same]
    rw [none]
    exact ⟨rfl, rfl⟩

/-- In every core that a run leads to, a compound analysis is stored over a registered dataset just
as `CompoundUpsert` says, whatever order is asked for. -/
theorem compound_stored_exactly {occurrences : List Occurrence}
    (fresh : Fresh (run {} occurrences).2) (context : Context) (id : CompoundId)
    (registered : dataset ∈ (run {} occurrences).1.datasets.ids) (details : Compound.Details) :
    CompoundUpsert (run {} occurrences).1 id dataset details
      ((run {} occurrences).1.dispatch context (.putCompound id dataset details)) :=
  dispatch_putCompound (sound_run occurrences) (accounted_run occurrences fresh).table context
    registered details

end Compounds

end Core

/-- Three analyses of one compound analysis. A job is running for the second one, and one has
finished for the third. There is an empty compound analysis over another dataset. -/
def Occurrence.grouped : List Occurrence :=
  [plain 0 (.connect (.pool 2)),
    plain 0 (.registerDataset (.ofNat 1) (.memory ⟨.uint8, [8, 8], [4, 4]⟩)),
    plain 0 (.registerDataset (.ofNat 2) (.memory ⟨.uint8, [8, 8], [2, 2]⟩)),
    plain 0 (.putCompound (.ofNat 1) (.ofNat 1) ⟨.sumFrames, []⟩),
    plain 0 (.putCompound (.ofNat 2) (.ofNat 2) ⟨.sumFrames, []⟩),
    plain 0 (.putAnalysis (.ofNat 1) (.ofNat 1) ⟨.sumFrames, .empty⟩),
    plain 0 (.putAnalysis (.ofNat 2) (.ofNat 1) ⟨.sumFrames, .empty⟩),
    plain 0 (.putAnalysis (.ofNat 3) (.ofNat 1) ⟨.sumFrames, .empty⟩),
    plain 1 (.runAnalysis (.ofNat 2)),
    plain 2 (.runAnalysis (.ofNat 3)),
    .report ⟨.ofNat 2, .finished .null⟩]

namespace Core

/-- The compound analysis goes over to the other dataset. What is asked for names one analysis twice
and one that is not there, and does not name the first. -/
theorem compound_stored_exactly_grouped :
    let core := (run {} Occurrence.grouped).1
    let context : Context := ⟨⟨"", "", 0, "", "", []⟩, {}, .ofNat 3, accepting, {}⟩
    let details : Compound.Details := ⟨.sumFrames, [.ofNat 3, .ofNat 9, .ofNat 3, .ofNat 2]⟩
    let outcome := core.dispatch context (.putCompound (.ofNat 1) (.ofNat 2) details)
    let moved (n : Nat) : Analysis := ⟨.ofNat n, .ofNat 2, .ofNat 1, ⟨.sumFrames, .empty⟩⟩
    (Fresh (run {} Occurrence.grouped).2 ∧ .ofNat 2 ∈ core.datasets.ids) ∧
      CompoundUpsert core (.ofNat 1) (.ofNat 2) details outcome ∧
      outcome.core.jobs.records = [] ∧
      Effect.messages outcome.effects =
        [.compoundStored false
            ⟨.ofNat 1, .ofNat 2, ⟨.sumFrames, [.ofNat 3, .ofNat 2, .ofNat 1]⟩⟩,
          .analysisStored false (moved 1), .jobCanceled ⟨.ofNat 1, .ofNat 2⟩,
          .analysisStored false (moved 2), .analysisStored false (moved 3)] := by
  have fresh : Fresh (run {} Occurrence.grouped).2 := by decide
  have registered : .ofNat 2 ∈ (run {} Occurrence.grouped).1.datasets.ids := by decide
  exact ⟨⟨fresh, registered⟩, compound_stored_exactly fresh _ (.ofNat 1) registered _, rfl, rfl⟩

end Core

/-! ## §4 Analyses -/

namespace Compound

theorem withOrder_eq_self {compound : Compound} {order : List AnalysisId} :
    compound.withOrder order = compound ↔ order = compound.details.order := by
  constructor
  · intro same
    exact congrArg (·.details.order) same
  · rintro rfl
    rfl

end Compound

namespace Analysis.Workspace

variable {w w' : Workspace} {id : AnalysisId} {compound : CompoundId} {details : Details}
  {parent : Compound}

/-- The compound analyses whose orders change when an analysis is stored under one of them: the one
that it leaves and the one that it enters. -/
def reordered (w : Workspace) (id : AnalysisId) (compound : CompoundId) : List CompoundId :=
  if w.parentOf id = some compound then [] else (w.parentOf id).toList ++ [compound]

/-- The orders that change are those that have the analysis now and should not, or the other way
round. -/
theorem mem_reordered_iff (h : w.Sound) {c : Compound} (hc : c ∈ w.compounds) :
    c.id ∈ w.reordered id compound ↔
      placed compound id c.id c.details.order ≠ c.details.order := by
  have listed := mem_order_iff h hc (a := id)
  rw [reordered, placed]
  by_cases own : c.id = compound
  · subst own
    by_cases there : id ∈ c.details.order
    · simp [there, listed.1 there]
    · simp [there, mt listed.2 there]
  · have removed : c.details.order.filter (· ≠ id) = c.details.order ↔ id ∉ c.details.order := by
      rw [List.filter_eq_self]
      constructor
      · intro kept there
        simpa using kept id there
      · intro absent x hx
        simpa using fun e : x = id => absent (e ▸ hx)
    rw [if_neg own, Ne, removed, not_not, listed]
    by_cases parent : w.parentOf id = some compound
    · simp [parent, Ne.symm own]
    · simp [parent, own, eq_comm]

theorem snd_vacate (h : w.Sound) (id : AnalysisId) (compound : CompoundId) :
    (w.vacate id compound).2 = if w.parentOf id = some compound then none
      else (w.parentOf id).bind fun old => (w.compound? old).map fun x =>
        x.withOrder (x.details.order.filter (· ≠ id)) := by
  unfold vacate
  cases ha : w.analysis? id with
  | none => simp [parentOf, ha]
  | some a =>
    have hp : w.parentOf id = some a.compound := by simp [parentOf, ha]
    by_cases same : a.compound = compound
    · simp [hp, same]
    · simp only [hp, if_neg same, Option.some.injEq, Option.bind_some]
      obtain ⟨x, hx⟩ : ∃ x, w.compound? a.compound = some x :=
        Roster.mem_keys_iff_find?.1 (compound_mem_keys h (Roster.mem_of_find?_eq_some ha))
      have own : x.id = a.compound := Roster.key_of_find?_eq_some hx
      have listed : id ∈ x.details.order :=
        (mem_order_iff h (Roster.mem_of_find?_eq_some hx)).2 (own ▸ hp)
      have found : Workspace.compound? { w with index := w.index.unlinkAnalysis a.compound id }
          a.compound = some x := hx
      rw [leave, detach, found, hx]
      simp [listed]

theorem snd_enter (hc : w.compound? compound = some parent) (id : AnalysisId) :
    (w.enter compound id).2 = if id ∈ parent.details.order then none
      else some (parent.withOrder (parent.details.order ++ [id])) := by
  have found : Workspace.compound? { w with index := w.index.linkAnalysis compound id } compound =
      some parent := hc
  rw [enter, attach, found]
  by_cases listed : id ∈ parent.details.order <;> simp [listed]

theorem AnalysisPut.compound? {stored : AnalysisStored}
    (p : AnalysisPut w id compound details w' stored) (c : CompoundId) :
    w'.compound? c = (w.compound? c).map fun x =>
      x.withOrder (placed compound id x.id x.details.order) := by
  have keeps : ∀ x : Compound,
      Keyed.key (x.withOrder (placed compound id x.id x.details.order)) = Keyed.key x :=
    fun _ => rfl
  rw [Workspace.compound?, p.compounds]
  exact Roster.find?_map keeps c w.compounds

theorem AnalysisPut.analysis_eq {stored : AnalysisStored}
    (p : AnalysisPut w id compound details w' stored) {dataset : DatasetId}
    (linked : w.datasetOf compound = some dataset) :
    stored.analysis = ⟨id, dataset, compound, details⟩ := by
  have same : stored.analysis.dataset = dataset := Option.some.inj (p.dataset_eq.symm.trans linked)
  rw [← p.id_eq, ← p.compound_eq, ← p.details_eq, ← same]

/-- The compound analyses that are reported have their final contents. -/
theorem AnalysisPut.reordered_eq (h : w.Sound) {stored : AnalysisStored}
    (p : AnalysisPut w id compound details w' stored) (hd : details.check = .ok ())
    (hc : w.compound? compound = some parent)
    (hok : w.putAnalysis id compound details = .ok (w', stored)) :
    stored.reordered = (w.reordered id compound).filterMap w'.compound? := by
  have hp := Roster.mem_of_find?_eq_some hc
  obtain rfl : parent.id = compound := Roster.key_of_find?_eq_some hc
  have entered : (w.vacate id parent.id).1.compound? parent.id = some parent := by
    rw [Workspace.compound?, (vacated_vacate h id parent.id).compounds,
      Roster.find?_map fun x => by split <;> rfl]
    exact Option.map_eq_some_iff.2 ⟨parent, hc, if_pos rfl⟩
  have listed := mem_order_iff h hp (a := id)
  rw [putAnalysis_eq hd hc] at hok
  obtain ⟨-, rfl⟩ := Prod.mk.inj (Except.ok.inj hok)
  simp only [snd_vacate h, snd_enter entered, reordered]
  by_cases same : w.parentOf id = some parent.id
  · simp [same, listed.2 same]
  · have last : w'.compound? parent.id =
        some (parent.withOrder (parent.details.order ++ [id])) := by
      rw [p.compound?, hc]
      simp [placed, mt listed.1 same]
    rw [if_neg same, if_neg same, if_neg (mt listed.1 same), List.filterMap_append]
    refine congr (congrArg _ ?_) (by simp [last])
    cases former : w.parentOf id with
    | none => rfl
    | some old =>
      have other : old ≠ parent.id := by simpa [former] using same
      obtain ⟨x, hx⟩ := Roster.mem_keys_iff_find?.1 (mem_keys_of_parentOf h former)
      have found : w.compound? old = some x := hx
      have own : x.id = old := Roster.key_of_find?_eq_some hx
      simp [p.compound?, found, placed, own, other]

end Analysis.Workspace

namespace Core

/-- What it does to store an analysis under a compound analysis. -/
structure AnalysisUpsert (core : Core) (id : AnalysisId) (parent : Compound)
    (details : Analysis.Details) (outcome : Outcome) : Prop where
  reply : outcome.reply = .ok (.changed (.analysisStored (id ∉ keys core.workspace.analyses)
    ⟨id, parent.dataset, parent.id, details⟩))
  connection : outcome.core.connection = core.connection
  datasets : outcome.core.datasets = core.datasets
  /-- It is stored in its place if it was there before, and last if not. -/
  analyses : outcome.core.workspace.analyses =
    if id ∈ keys core.workspace.analyses then core.workspace.analyses.map fun a =>
      if a.id = id then ⟨id, parent.dataset, parent.id, details⟩ else a
    else core.workspace.analyses ++ [⟨id, parent.dataset, parent.id, details⟩]
  /-- It is in the order of its parent, last if it is new there, and in that of no other. -/
  compounds : outcome.core.workspace.compounds = core.workspace.compounds.map fun c =>
    if c.id = parent.id then
      c.withOrder (if id ∈ c.details.order then c.details.order else c.details.order ++ [id])
    else if core.workspace.parentOf id = some c.id then
      c.withOrder (c.details.order.filter (· ≠ id))
    else c
  children : ∀ c, outcome.core.workspace.index.analysesOf c =
    if c = parent.id then
      if id ∈ core.workspace.index.analysesOf c then core.workspace.index.analysesOf c
      else core.workspace.index.analysesOf c ++ [id]
    else (core.workspace.index.analysesOf c).filter (· ≠ id)
  once : ∀ c ∈ outcome.core.workspace.compounds,
    c.details.order.count id = (if c.id = parent.id then 1 else 0) ∧
      (outcome.core.workspace.index.analysesOf c.id).count id = if c.id = parent.id then 1 else 0
  /-- Its job is dropped. -/
  jobs : outcome.core.jobs.records = core.jobs.records.filter (·.analysis ≠ id)
  batch : Effect.messages outcome.effects =
    (core.jobs.liveOf id).map (fun r => .jobCanceled r.handle) ++
      .analysisStored (id ∉ keys core.workspace.analyses)
        ⟨id, parent.dataset, parent.id, details⟩ ::
        ((core.workspace.reordered id parent.id).filterMap outcome.core.workspace.compound?).map
          (.compoundStored false)
  /-- The compound analyses that are announced are those that are not as before. -/
  reordered : ∀ c ∈ core.workspace.compounds,
    c.id ∈ core.workspace.reordered id parent.id ↔ outcome.core.workspace.compound? c.id ≠ some c

section Analyses

variable {core : Core} {id : AnalysisId}

theorem dispatch_putAnalysis (h : core.Sound) (table : core.jobs.Sound) (context : Context)
    {parent : Compound} (there : parent ∈ core.workspace.compounds) {details : Analysis.Details}
    (object : details.parameters.isObject = true) :
    AnalysisUpsert core id parent details
      (core.dispatch context (.putAnalysis id parent.id details)) := by
  have check : details.check = .ok () := if_pos object
  have found : core.workspace.compound? parent.id = some parent :=
    Roster.find?_key h.workspace.compounds_nodup there
  obtain ⟨⟨next, stored⟩, put⟩ : ∃ result,
      core.workspace.putAnalysis id parent.id details = .ok result :=
    ⟨_, Workspace.putAnalysis_eq check found⟩
  have p := Workspace.putAnalysis_spec h.workspace put
  have analysis : stored.analysis = ⟨id, parent.dataset, parent.id, details⟩ :=
    p.analysis_eq (Workspace.datasetOf_of_mem h.workspace there)
  have created : stored.created = decide (id ∉ keys core.workspace.analyses) := by
    rw [p.created, Bool.eq_iff_iff, decide_eq_true_iff, Option.isNone_iff_eq_none]
    exact Roster.find?_eq_none_iff
  -- An analysis that is new has no job, so it makes no difference that it is not looked for.
  have retired : (if stored.created then (core.jobs, []) else core.jobs.retire id) =
      core.jobs.retire id := by
    split
    · rename_i new
      have absent : id ∉ keys core.workspace.analyses := by simpa [created] using new
      exact (Job.Table.retire_of_idle (mt (h.standing.tracked id) absent)).symm
    · rfl
  have outcome : core.dispatch context (.putAnalysis id parent.id details) =
      { core := { core with workspace := next, jobs := (core.jobs.retire id).1 }
        effects := (core.jobs.retire id).2 ++
          .publish (.analysisStored stored.created stored.analysis) ::
            stored.reordered.map fun parent => .publish (.compoundStored false parent)
        reply := .ok (.changed (.analysisStored stored.created stored.analysis)) } := by
    rw [← retired]
    simp only [dispatch, perform, putAnalysis, requireConnected,
      if_pos (h.isConnected_of_compound (Roster.key_mem_keys there)), put]
    rfl
  have drops := table.drops_retire id
  rw [outcome, analysis]
  constructor
  case reply => rw [created]
  case connection => rfl
  case datasets => rfl
  case analyses =>
    show next.analyses = _
    rw [p.analyses, analysis]
    split
    · rename_i listed
      exact Roster.set_of_mem listed
    · rename_i absent
      exact Roster.set_of_not_mem absent
  case compounds =>
    refine p.compounds.trans (List.map_congr_left ?_)
    intro c hc
    unfold Analysis.placed
    by_cases own : c.id = parent.id
    · rw [if_pos own, if_pos own]
    · rw [if_neg own, if_neg own]
      split
      · rfl
      · rename_i other
        exact Workspace.filter_order_of_ne h.workspace hc other
  case children => exact p.children
  case once =>
    have sound := p.sound h.workspace
    have parent' : next.parentOf id = some parent.id := by
      rw [p.parentOf, if_pos rfl]
    intro c hc
    have order : id ∈ c.details.order ↔ c.id = parent.id := by
      rw [Workspace.mem_order_iff sound hc, parent', Option.some.injEq, eq_comm]
    have child : id ∈ next.index.analysesOf c.id ↔ c.id = parent.id := by
      rw [sound.mem_children, parent', Option.some.injEq, eq_comm]
    have apart : c.details.order.Nodup :=
      (sound.order c hc).nodup_iff.2 (sound.children_nodup c.id)
    refine ⟨?_, ?_⟩
    · rw [apart.count]
      simp only [order]
    · rw [(sound.children_nodup c.id).count]
      simp only [child]
  case jobs =>
    rw [drops.records]
    simp
  case batch =>
    rw [Effect.messages_append, table.messages_retire, Effect.messages, Effect.messages_publish,
      p.reordered_eq h.workspace check found put, created]
  case reordered =>
    intro c hc
    have now : next.compound? c.id =
        some (c.withOrder (Analysis.placed parent.id id c.id c.details.order)) := by
      rw [p.compound?]
      exact Option.map_eq_some_iff.2 ⟨c, Roster.find?_key h.workspace.compounds_nodup hc, rfl⟩
    show _ ↔ next.compound? c.id ≠ some c
    rw [Workspace.mem_reordered_iff h.workspace hc, now, Ne, Ne, Option.some.injEq,
      Compound.withOrder_eq_self]

/-- In every core that a run leads to, an analysis whose parameters are an object is stored under a
compound analysis just as `AnalysisUpsert` says, whether it is new, stays or moves. -/
theorem analysis_stored_exactly {occurrences : List Occurrence}
    (fresh : Fresh (run {} occurrences).2) (context : Context) (id : AnalysisId)
    {parent : Compound} (there : parent ∈ (run {} occurrences).1.workspace.compounds)
    {details : Analysis.Details} (object : details.parameters.isObject = true) :
    AnalysisUpsert (run {} occurrences).1 id parent details
      ((run {} occurrences).1.dispatch context (.putAnalysis id parent.id details)) :=
  dispatch_putAnalysis (sound_run occurrences) (accounted_run occurrences fresh).table context there
    object

/-- An analysis goes over to another compound analysis, which is over another dataset. -/
theorem analysis_stored_exactly_grouped :
    let core := (run {} Occurrence.grouped).1
    let context : Context := ⟨⟨"", "", 0, "", "", []⟩, {}, .ofNat 3, accepting, {}⟩
    let parent : Compound := ⟨.ofNat 2, .ofNat 2, ⟨.sumFrames, []⟩⟩
    let details : Analysis.Details := ⟨.sdFrames, .empty⟩
    let outcome := core.dispatch context (.putAnalysis (.ofNat 2) (.ofNat 2) details)
    (Fresh (run {} Occurrence.grouped).2 ∧ parent ∈ core.workspace.compounds) ∧
      AnalysisUpsert core (.ofNat 2) parent details outcome ∧
      outcome.core.jobs.records = [⟨.ofNat 2, .ofNat 3, .finished⟩] ∧
      Effect.messages outcome.effects =
        [.jobCanceled ⟨.ofNat 1, .ofNat 2⟩,
          .analysisStored false ⟨.ofNat 2, .ofNat 2, .ofNat 2, details⟩,
          .compoundStored false ⟨.ofNat 1, .ofNat 1, ⟨.sumFrames, [.ofNat 1, .ofNat 3]⟩⟩,
          .compoundStored false ⟨.ofNat 2, .ofNat 2, ⟨.sumFrames, [.ofNat 2]⟩⟩] := by
  have fresh : Fresh (run {} Occurrence.grouped).2 := by decide
  have there : ⟨.ofNat 2, .ofNat 2, ⟨.sumFrames, []⟩⟩ ∈
      (run {} Occurrence.grouped).1.workspace.compounds := by decide
  exact ⟨⟨fresh, there⟩, analysis_stored_exactly fresh _ (.ofNat 2) there rfl, rfl, rfl⟩

end Analyses

end Core

end Coordination
