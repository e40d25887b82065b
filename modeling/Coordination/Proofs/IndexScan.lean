/-
Coordination.Proofs.IndexScan — the index after any operations equals a scan.

The index is changed link by link, and a scan of the stored entities would
find the same children of every parent (`Workspace.Sound`). It would not
find their order: the index lists children in the order in which they were
linked, which is not the order of their creation once one of them was
given to another parent and back.

The order is told from the run. Of two links the older is the one that has
been there since a time at which the other was not (`Sooner`). No operation
makes two links to one parent, so all that a step does to a list of children
is to strike some off and to put one last (`Follows`).

  §1 Operations  — `Operation`, `step`, `run`.
  §2 Children    — `Follows`, for each operation and for a step.
  §3 Order       — `Sooner`, `Chronological`.
  §4 Runs        — `index_equals_scan`.
-/
import Coordination.Proofs.Links
import Mathlib.Data.List.Induction

namespace Coordination.Analysis

open Roster (keys)

namespace Workspace

/-! ## §1 Operations -/

/-- An operation on a workspace. A compound analysis is stored against the datasets that are
registered at the time. -/
inductive Operation where
  | putCompound (datasets : Dataset.Registry) (id : CompoundId) (dataset : DatasetId)
      (details : Compound.Details)
  | putAnalysis (id : AnalysisId) (compound : CompoundId) (details : Details)
  | removeAnalysis (id : AnalysisId)
  | removeCompound (id : CompoundId)
  | removeOver (dataset : DatasetId)
  | clear
  deriving Repr

/-- The workspace that an operation gives, or the old one if the operation is refused. -/
def accept {α : Type} (w : Workspace) : Except Problem (Workspace × α) → Workspace
  | .ok (next, _) => next
  | .error _ => w

def step (w : Workspace) : Operation → Workspace
  | .putCompound datasets id dataset details => w.accept (w.putCompound datasets id dataset details)
  | .putAnalysis id compound details => w.accept (w.putAnalysis id compound details)
  | .removeAnalysis id => w.accept (w.removeAnalysis id)
  | .removeCompound id => w.accept (w.removeCompound id)
  | .removeOver dataset => (w.removeOver dataset).1
  | .clear => w.clear.1

/-- The workspace after operations on an empty one. -/
def run (operations : List Operation) : Workspace := operations.foldl step {}

theorem run_concat (operations : List Operation) (operation : Operation) :
    run (operations ++ [operation]) = (run operations).step operation := List.foldl_append

/-- What the old workspace has and every accepted one has holds either way. -/
theorem accept_of_forall {α : Type} {w : Workspace} {result : Except Problem (Workspace × α)}
    {P : Workspace → Prop} (refused : P w)
    (accepted : ∀ next made, result = .ok (next, made) → P next) : P (w.accept result) := by
  cases result with
  | ok made => exact accepted made.1 made.2 rfl
  | error problem => exact refused

/-! ## §2 Children -/

/-- A list is left of another one, with at most one new element, which comes last. -/
def Follows {κ : Type} (old new : List κ) : Prop :=
  ∃ added : Option κ, (∀ x ∈ added, x ∉ old) ∧ new.Sublist (old ++ added.toList)

theorem follows_of_sublist {κ : Type} {old new : List κ} (h : new.Sublist old) :
    Follows old new := by
  refine ⟨none, by simp, ?_⟩
  rw [Option.toList_none, List.append_nil]
  exact h

theorem follows_placed {π κ : Type} [DecidableEq π] [DecidableEq κ] (parent : π) (child : κ)
    (other : π) (children : List κ) : Follows children (placed parent child other children) := by
  unfold placed
  split
  · split
    · exact follows_of_sublist (.refl _)
    · rename_i absent
      exact ⟨some child, by simpa using absent, .refl _⟩
  · exact follows_of_sublist List.filter_sublist

/-- What an operation does to the index: to the children of any parent it adds at most one. -/
structure Relisted (w w' : Workspace) : Prop where
  compounds : ∀ d, Follows (w.index.compoundsOf d) (w'.index.compoundsOf d)
  analyses : ∀ c, Follows (w.index.analysesOf c) (w'.index.analysesOf c)

/-- Nothing is linked to a parent that was not linked to it before. -/
structure Shrunk (w w' : Workspace) : Prop where
  compounds : ∀ d, (w'.index.compoundsOf d).Sublist (w.index.compoundsOf d)
  analyses : ∀ c, (w'.index.analysesOf c).Sublist (w.index.analysesOf c)

variable {w w' : Workspace}

theorem Shrunk.refl (w : Workspace) : Shrunk w w := ⟨fun _ => .refl _, fun _ => .refl _⟩

theorem Shrunk.trans {v : Workspace} (h : Shrunk w v) (next : Shrunk v w') : Shrunk w w' :=
  ⟨fun d => (next.compounds d).trans (h.compounds d),
    fun c => (next.analyses c).trans (h.analyses c)⟩

theorem Shrunk.relisted (h : Shrunk w w') : Relisted w w' :=
  ⟨fun d => follows_of_sublist (h.compounds d), fun c => follows_of_sublist (h.analyses c)⟩

theorem CompoundPut.relisted {datasets : Dataset.Registry} {id : CompoundId} {dataset : DatasetId}
    {details : Compound.Details} {stored : CompoundStored}
    (p : CompoundPut w datasets id dataset details w' stored) : Relisted w w' where
  compounds d := p.links d ▸ follows_placed dataset id d _
  analyses c := p.children c ▸ follows_of_sublist (.refl _)

theorem AnalysisPut.relisted {id : AnalysisId} {compound : CompoundId} {details : Details}
    {stored : AnalysisStored} (p : AnalysisPut w id compound details w' stored) :
    Relisted w w' where
  compounds d := by
    have same : w'.index.compoundsOf d = w.index.compoundsOf d :=
      congrArg (Links.childrenOf d) p.links
    exact same ▸ follows_of_sublist (.refl _)
  analyses c := p.children c ▸ follows_placed compound id c _

theorem AnalysisGone.shrunk {id : AnalysisId} {gone : Analysis} {parent : Option Compound}
    (g : AnalysisGone w id w' gone parent) : Shrunk w w' where
  compounds d := by
    have same : w'.index.compoundsOf d = w.index.compoundsOf d :=
      congrArg (Links.childrenOf d) g.links
    exact same ▸ .refl _
  analyses c := g.children c ▸ List.filter_sublist

theorem CompoundGone.shrunk {id : CompoundId} {gone : Removed} (g : CompoundGone w id w' gone) :
    Shrunk w w' where
  compounds d := g.links d ▸ List.filter_sublist
  analyses c := by
    rw [g.children]
    split
    · exact List.nil_sublist _
    · exact .refl _

theorem Sound.shrunk_removeEach (h : w.Sound) (ids : List CompoundId) :
    Shrunk w (w.removeEach ids).1 := by
  induction ids generalizing w with
  | nil => exact .refl w
  | cons id rest ih =>
    rw [removeEach]
    split
    · rename_i next gone removed
      have g := removeCompound_spec h removed
      exact g.shrunk.trans (ih (g.sound h))
    · exact ih h

/-- What is kept up from one workspace to the next, and what happens to lists of children. -/
structure Steps (w w' : Workspace) : Prop extends Relisted w w' where
  sound : w'.Sound
  tidy : w'.Tidy

theorem Sound.step (h : w.Sound) (tidy : w.Tidy) (operation : Operation) :
    Steps w (w.step operation) := by
  have refused : Steps w w := ⟨(Shrunk.refl w).relisted, h, tidy⟩
  cases operation with
  | putCompound datasets id dataset details =>
    refine accept_of_forall (P := Steps w) refused fun next stored put => ?_
    have p := putCompound_spec h put
    exact ⟨p.relisted, p.sound h, tidy.putCompound put⟩
  | putAnalysis id compound details =>
    refine accept_of_forall (P := Steps w) refused fun next stored put => ?_
    have p := putAnalysis_spec h put
    exact ⟨p.relisted, p.sound h, tidy.putAnalysis put⟩
  | removeAnalysis id =>
    refine accept_of_forall (P := Steps w) refused fun next gone removed => ?_
    have g := removeAnalysis_spec h removed
    exact ⟨g.shrunk.relisted, g.sound h, tidy.removeAnalysis removed⟩
  | removeCompound id =>
    refine accept_of_forall (P := Steps w) refused fun next gone removed => ?_
    have g := removeCompound_spec h removed
    exact ⟨g.shrunk.relisted, g.sound h, tidy.removeCompound removed⟩
  | removeOver dataset =>
    exact ⟨(h.shrunk_removeEach _).relisted, (cleared_removeEach h _).sound, tidy.removeEach _⟩
  | clear =>
    have empty : w.step .clear = {} := clear_fst h
    have shrunk : Shrunk w {} := ⟨fun _ => List.nil_sublist _, fun _ => List.nil_sublist _⟩
    rw [empty]
    exact ⟨shrunk.relisted, sound_empty, Index.tidy_empty⟩

/-! ## §3 Order -/

/-- One thing has held since a time in a run at which another did not. -/
def Sooner (operations : List Operation) (P Q : Workspace → Prop) : Prop :=
  ∃ earlier later, earlier ++ later = operations ∧ ¬ Q (run earlier) ∧
    ∀ since, since <+: later → P (run (earlier ++ since))

variable {operations : List Operation} {operation : Operation} {P Q : Workspace → Prop}

theorem Sooner.concat (h : Sooner operations P Q) (still : P (run (operations ++ [operation]))) :
    Sooner (operations ++ [operation]) P Q := by
  obtain ⟨earlier, later, rfl, apart, held⟩ := h
  refine ⟨earlier, later ++ [operation], by simp, apart, fun since before => ?_⟩
  rcases List.prefix_concat_iff.1 before with rfl | before
  · rwa [← List.append_assoc]
  · exact held since before

/-- What holds before and after an operation has held for longer than what did not hold before. -/
theorem sooner_concat (before : P (run operations)) (apart : ¬ Q (run operations))
    (still : P (run (operations ++ [operation]))) : Sooner (operations ++ [operation]) P Q := by
  refine ⟨operations, [operation], rfl, apart, fun since within => ?_⟩
  rcases List.prefix_cons_iff.1 within with rfl | ⟨rest, rfl, none⟩
  · rw [List.append_nil]
    exact before
  · obtain rfl := List.prefix_nil.1 none
    exact still

/-- Of two things each has held for longer than the other at one time at most. -/
theorem Sooner.asymm (h : Sooner operations P Q) : ¬ Sooner operations Q P := by
  rintro ⟨earlier, later, rfl, apart, held⟩
  obtain ⟨before, after, same, without, has⟩ := h
  rcases List.append_eq_append_iff.1 same with ⟨gap, rfl, rfl⟩ | ⟨gap, rfl, rfl⟩
  · exact apart (has gap (List.prefix_append gap later))
  · exact without (held gap (List.prefix_append gap after))

/-- A list of what a scan finds after a run, each once and in the order in which it came to be found
for good. -/
structure Chronological {κ : Type} (operations : List Operation) (scan : Workspace → List κ)
    (listed : List κ) : Prop where
  nodup : listed.Nodup
  perm : listed.Perm (scan (run operations))
  ordered : listed.Pairwise fun x y => Sooner operations (x ∈ scan ·) (y ∈ scan ·)

section Chronological

variable {κ : Type} {scan : Workspace → List κ} {old new : List κ}

/-- The scan and the run leave no choice. -/
theorem Chronological.iff_eq (h : Chronological operations scan old) :
    Chronological operations scan new ↔ new = old := by
  constructor
  · intro h'
    exact h'.perm.trans h.perm.symm |>.eq_of_pairwise
      (fun _ _ _ _ sooner later => absurd later sooner.asymm) h'.ordered h.ordered
  · rintro rfl
    exact h

/-- What is found after an operation is in order if it was before and at most one is new. -/
theorem Chronological.concat (h : Chronological operations scan old) (follows : Follows old new)
    (nodup : new.Nodup) (perm : new.Perm (scan (run (operations ++ [operation])))) :
    Chronological (operations ++ [operation]) scan new := by
  refine ⟨nodup, perm, ?_⟩
  obtain ⟨added, absent, sublist⟩ := follows
  have all : (old ++ added.toList).Pairwise fun x y => x ∈ scan (run (operations ++ [operation])) →
      Sooner (operations ++ [operation]) (x ∈ scan ·) (y ∈ scan ·) := by
    refine List.pairwise_append.2 ⟨h.ordered.imp fun before still => before.concat still, ?_, ?_⟩
    · cases added <;> simp
    · intro x listed y last still
      refine sooner_concat (h.perm.mem_iff.1 listed) (fun there => ?_) still
      exact absent y (Option.mem_toList.1 last) (h.perm.mem_iff.2 there)
  exact (all.sublist sublist).imp_of_mem fun here _ order => order (perm.mem_iff.1 here)

end Chronological

/-! ## §4 Runs -/

/-- After operations the children of every parent are in the order of their links. -/
structure Ordered (operations : List Operation) : Prop where
  sound : (run operations).Sound
  tidy : (run operations).Tidy
  compounds : ∀ d,
    Chronological operations (·.compoundsOver d) ((run operations).index.compoundsOf d)
  analyses : ∀ c,
    Chronological operations (·.analysesUnder c) ((run operations).index.analysesOf c)

theorem ordered_run (operations : List Operation) : Ordered operations := by
  induction operations using List.reverseRecOn with
  | nil =>
    exact ⟨sound_empty, Index.tidy_empty, fun _ => ⟨.nil, .nil, .nil⟩, fun _ => ⟨.nil, .nil, .nil⟩⟩
  | append_singleton operations operation ih =>
    have next := ih.sound.step ih.tidy operation
    rw [← run_concat] at next
    refine ⟨next.sound, next.tidy, fun d => ?_, fun c => ?_⟩
    · exact (ih.compounds d).concat (next.compounds d) (next.sound.over_nodup d)
        (perm_compoundsOver next.sound d)
    · exact (ih.analyses c).concat (next.analyses c) (next.sound.children_nodup c)
        (perm_analysesUnder next.sound c)

/-- The index after any operations. It lists, each once, what a scan of the stored compound analyses
finds over a dataset, and what a scan of the stored analyses finds under a compound analysis, in
the order in which these links were made, which is one order only. It knows no compound analysis
that is not stored, and no dataset that nothing is over. -/
theorem index_equals_scan (operations : List Operation) :
    let w := run operations
    (∀ d listed, Chronological operations (·.compoundsOver d) listed ↔
      listed = w.index.compoundsOf d) ∧
    (∀ c listed, Chronological operations (·.analysesUnder c) listed ↔
      listed = w.index.analysesOf c) ∧
    w.index.compounds.parents.Nodup ∧ w.index.analyses.parents.Nodup ∧
    (∀ c ∈ w.index.analyses.parents, c ∈ keys w.compounds) ∧
    ∀ entry ∈ w.index.compounds, entry.2 ≠ [] := by
  have h := ordered_run operations
  exact ⟨fun d _ => (h.compounds d).iff_eq, fun c _ => (h.analyses c).iff_eq,
    h.tidy.datasets_nodup, h.tidy.compounds_nodup, h.tidy.existing, h.tidy.occupied⟩

/-- A compound analysis that was over another dataset for a while is the older one and the last. -/
example :
    let sums : Compound.Details := ⟨.sumFrames, []⟩
    let frames : Dataset.Params := .memory ⟨.uint8, [8, 8], [4, 4]⟩
    let datasets : Dataset.Registry := ⟨[⟨.ofNat 1, frames, [4, 4, 8, 8]⟩,
      ⟨.ofNat 2, frames, [4, 4, 8, 8]⟩]⟩
    let w := run [.putCompound datasets (.ofNat 1) (.ofNat 1) sums,
      .putCompound datasets (.ofNat 2) (.ofNat 1) sums,
      .putCompound datasets (.ofNat 1) (.ofNat 2) sums,
      .putCompound datasets (.ofNat 1) (.ofNat 1) sums]
    w.compoundsOver (.ofNat 1) = [.ofNat 1, .ofNat 2] ∧
      w.index.compoundsOf (.ofNat 1) = [.ofNat 2, .ofNat 1] ∧
      w.index.compounds.parents = [.ofNat 1] := by decide

end Workspace

end Coordination.Analysis
