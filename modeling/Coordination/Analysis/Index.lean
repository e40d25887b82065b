/-
Coordination.Analysis.Index — who depends on whom.

The index knows the compound analyses over each dataset and the analyses
of each compound analysis, in the order in which they were linked. A
removal follows the index and so meets only what depends on the entity
removed.

  §1 Links  — lists of children by parent.
  §2 Index  — datasets to compound analyses to analyses.
-/
import Coordination.Ident

namespace Coordination.Analysis

/-! ## §1 Links -/

/-- The children of each parent, in link order. A parent that is not listed has none. -/
abbrev Links (π κ : Type) := List (π × List κ)

namespace Links

variable {π κ : Type} [DecidableEq π]

def parents (links : Links π κ) : List π := links.map Prod.fst

def childrenOf (parent : π) : Links π κ → List κ
  | [] => []
  | (other, children) :: rest => if other = parent then children else childrenOf parent rest

/-- Lists a parent that has no children yet. -/
def ensure (parent : π) (links : Links π κ) : Links π κ :=
  if parent ∈ links.parents then links else links ++ [(parent, [])]

/-- Changes the children of a listed parent. -/
def change (parent : π) (f : List κ → List κ) (links : Links π κ) : Links π κ :=
  links.map fun (other, children) => if other = parent then (other, f children) else (other, children)

/-- Makes a child the last one of a parent, unless it is one of its children already. -/
def link [DecidableEq κ] (parent : π) (child : κ) (links : Links π κ) : Links π κ :=
  (links.ensure parent).change parent fun children =>
    if child ∈ children then children else children ++ [child]

def unlink [DecidableEq κ] (parent : π) (child : κ) (links : Links π κ) : Links π κ :=
  links.change parent fun children => children.filter (· ≠ child)

/-- Strikes a parent off the list. -/
def drop (parent : π) (links : Links π κ) : Links π κ := links.filter fun entry => entry.1 ≠ parent

/-- Strikes a parent off the list if it has no children. -/
def prune (parent : π) (links : Links π κ) : Links π κ :=
  if (links.childrenOf parent).isEmpty then links.drop parent else links

/-! ### Laws -/

theorem childrenOf_eq_nil {parent : π} {links : Links π κ} (h : parent ∉ links.parents) :
    links.childrenOf parent = [] := by
  induction links with
  | nil => rfl
  | cons entry rest ih =>
    obtain ⟨other, children⟩ := entry
    simp only [parents, List.map_cons, List.mem_cons, not_or] at h
    rw [childrenOf, if_neg (Ne.symm h.1)]
    exact ih h.2

theorem childrenOf_ensure (parent other : π) (links : Links π κ) :
    (links.ensure parent).childrenOf other = links.childrenOf other := by
  unfold ensure; split
  · rfl
  · rename_i h
    induction links with
    | nil => simp [childrenOf]
    | cons entry rest ih =>
      obtain ⟨first, children⟩ := entry
      simp only [parents, List.map_cons, List.mem_cons, not_or] at h
      simp only [List.cons_append, childrenOf]
      rw [ih h.2]

theorem childrenOf_change (parent other : π) (f : List κ → List κ) (links : Links π κ) :
    (links.change parent f).childrenOf other =
      if other = parent ∧ other ∈ links.parents then f (links.childrenOf other)
      else links.childrenOf other := by
  induction links with
  | nil => simp [change, childrenOf, parents]
  | cons entry rest ih =>
    obtain ⟨first, children⟩ := entry
    have step : (change parent f ((first, children) :: rest)).childrenOf other =
        if first = other then (if first = parent then f children else children)
        else (change parent f rest).childrenOf other := by
      by_cases h : first = parent <;> simp [change, childrenOf, h]
    have member : other ∈ parents ((first, children) :: rest) ↔
        other = first ∨ other ∈ parents rest := by
      simp [parents]
    simp only [step, ih, member]
    by_cases h : first = other
    · subst h
      simp [childrenOf]
    · simp [childrenOf, h, Ne.symm h]

theorem mem_parents_ensure (parent : π) (links : Links π κ) :
    parent ∈ (links.ensure parent).parents := by
  unfold ensure; split
  · assumption
  · simp [parents]

/-- Linking adds the child last, unless it is there. -/
theorem childrenOf_link [DecidableEq κ] (parent : π) (child : κ) (other : π) (links : Links π κ) :
    (links.link parent child).childrenOf other =
      if other = parent ∧ child ∉ links.childrenOf other then links.childrenOf other ++ [child]
      else links.childrenOf other := by
  rw [link, childrenOf_change, childrenOf_ensure]
  by_cases h : other = parent
  · subst h
    by_cases hc : child ∈ links.childrenOf other <;> simp [mem_parents_ensure, hc]
  · simp [h]

theorem childrenOf_unlink [DecidableEq κ] (parent : π) (child : κ) (other : π) (links : Links π κ) :
    (links.unlink parent child).childrenOf other =
      if other = parent then (links.childrenOf other).filter (· ≠ child)
      else links.childrenOf other := by
  rw [unlink, childrenOf_change]
  by_cases h : other = parent
  · by_cases hm : other ∈ links.parents
    · rw [if_pos ⟨h, hm⟩, if_pos h]
    · rw [if_neg (fun both => hm both.2), if_pos h, childrenOf_eq_nil hm]
      rfl
  · rw [if_neg (fun both => h both.1), if_neg h]

theorem childrenOf_drop (parent other : π) (links : Links π κ) :
    (links.drop parent).childrenOf other =
      if other = parent then [] else links.childrenOf other := by
  induction links with
  | nil => simp [drop, childrenOf]
  | cons entry rest ih =>
    obtain ⟨first, children⟩ := entry
    simp only [drop] at ih
    by_cases h : first = parent <;> by_cases h' : first = other <;>
      simp_all [drop, childrenOf]

/-- Only the list of parents can tell whether a parent was pruned. -/
theorem childrenOf_prune (parent other : π) (links : Links π κ) :
    (links.prune parent).childrenOf other = links.childrenOf other := by
  unfold prune; split
  · rename_i h
    rw [childrenOf_drop]; split
    · rename_i hp
      rw [hp]
      exact (List.isEmpty_iff.1 h).symm
    · rfl
  · rfl

end Links

/-! ## §2 Index -/

/-- The compound analyses of datasets and the analyses of compound analyses. -/
structure Index where
  compounds : Links DatasetId CompoundId := []
  analyses : Links CompoundId AnalysisId := []
  deriving DecidableEq, Repr

namespace Index

def compoundsOf (index : Index) (dataset : DatasetId) : List CompoundId :=
  index.compounds.childrenOf dataset

def analysesOf (index : Index) (compound : CompoundId) : List AnalysisId :=
  index.analyses.childrenOf compound

def linkCompound (index : Index) (dataset : DatasetId) (compound : CompoundId) : Index :=
  ⟨index.compounds.link dataset compound, index.analyses.ensure compound⟩

/-- A dataset whose last compound analysis goes is no longer listed. -/
def unlinkCompound (index : Index) (dataset : DatasetId) (compound : CompoundId) : Index :=
  { index with compounds := (index.compounds.unlink dataset compound).prune dataset }

/-- Forgets a compound analysis; also gives the analyses that were linked to it. -/
def dropCompound (index : Index) (dataset : DatasetId) (compound : CompoundId) :
    Index × List AnalysisId :=
  let unlinked := index.unlinkCompound dataset compound
  ({ unlinked with analyses := index.analyses.drop compound }, index.analysesOf compound)

def linkAnalysis (index : Index) (compound : CompoundId) (analysis : AnalysisId) : Index :=
  { index with analyses := index.analyses.link compound analysis }

def unlinkAnalysis (index : Index) (compound : CompoundId) (analysis : AnalysisId) : Index :=
  { index with analyses := index.analyses.unlink compound analysis }

end Index

end Coordination.Analysis
