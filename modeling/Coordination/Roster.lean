/-
Coordination.Roster — records in the order in which they were entered.

A roster is a list of records of which no two have the same key. There
are two ways to store a record under a key that is taken: `renew` drops
the old record and enters the new one last, `set` puts the new one in
the old one's place. Nothing else changes the order.

  §1 Roster  — `find?`, `erase`, `set`, `renew`.
  §2 Laws    — what each operation does to `find?` and to `keys`.
-/
namespace Coordination

/-- Records that are told apart by a key. -/
class Keyed (α : Type) (κ : outParam Type) where
  key : α → κ

/-! ## §1 Roster -/

namespace Roster

open Keyed (key)

variable {α κ : Type} [DecidableEq κ] [Keyed α κ]

/-- The keys in the order of the records. -/
def keys (roster : List α) : List κ := roster.map key

/-- The record with a key. -/
def find? (k : κ) : List α → Option α
  | [] => none
  | x :: rest => if key x = k then some x else find? k rest

def contains (k : κ) (roster : List α) : Bool := (find? k roster).isSome

/-- The roster without the record of a key. -/
def erase (k : κ) (roster : List α) : List α := roster.filter fun x => key x ≠ k

/-- Puts a record in the place of the one with its key. -/
def replace (x : α) (roster : List α) : List α :=
  roster.map fun y => if key y = key x then x else y

/-- Stores a record: in the place of the one with its key, or else last. -/
def set (x : α) (roster : List α) : List α :=
  if contains (key x) roster then replace x roster else roster ++ [x]

/-- Stores a record last, dropping the one with its key. -/
def renew (x : α) (roster : List α) : List α := erase (key x) roster ++ [x]

/-! ## §2 Laws -/

theorem find?_append (k : κ) (xs ys : List α) :
    find? k (xs ++ ys) = (find? k xs).or (find? k ys) := by
  induction xs with
  | nil => rfl
  | cons x rest ih => by_cases h : key x = k <;> simp [find?, h, ih]

/-- What is found has the key that was looked for. -/
theorem key_of_find?_eq_some {k : κ} {x : α} {xs : List α} (h : find? k xs = some x) :
    key x = k := by
  induction xs with
  | nil => simp [find?] at h
  | cons y rest ih =>
    by_cases hy : key y = k
    · simp only [find?, hy, if_true, Option.some.injEq] at h
      exact h ▸ hy
    · simp only [find?, hy, if_false] at h
      exact ih h

theorem mem_of_find?_eq_some {k : κ} {x : α} {xs : List α} (h : find? k xs = some x) :
    x ∈ xs := by
  induction xs with
  | nil => simp [find?] at h
  | cons y rest ih =>
    by_cases hy : key y = k
    · simp only [find?, hy, if_true, Option.some.injEq] at h
      simp [h]
    · simp only [find?, hy, if_false] at h
      exact List.mem_cons_of_mem y (ih h)

theorem find?_eq_none_iff {k : κ} {xs : List α} : find? k xs = none ↔ k ∉ keys xs := by
  induction xs with
  | nil => simp [find?, keys]
  | cons y rest ih =>
    by_cases hy : key y = k
    · simp [find?, keys, hy]
    · simp_all [find?, keys, Ne.symm hy]

theorem contains_iff {k : κ} {xs : List α} : contains k xs = true ↔ k ∈ keys xs := by
  rw [contains, Option.isSome_iff_ne_none, Ne, find?_eq_none_iff, Decidable.not_not]

theorem find?_erase (j k : κ) (xs : List α) :
    find? j (erase k xs) = if j = k then none else find? j xs := by
  induction xs with
  | nil => simp [find?, erase]
  | cons y rest ih =>
    simp only [erase] at ih
    by_cases hk : key y = k <;> by_cases hj : key y = j <;> simp_all [find?, erase]

theorem find?_replace (j : κ) (x : α) (xs : List α) :
    find? j (replace x xs) =
      if j = key x then (find? j xs).map fun _ => x else find? j xs := by
  induction xs with
  | nil => simp [find?, replace]
  | cons y rest ih =>
    simp only [replace] at ih
    by_cases hx : key y = key x <;> by_cases hj : key y = j <;> simp_all [find?, replace]

theorem find?_set (j : κ) (x : α) (xs : List α) :
    find? j (set x xs) = if j = key x then some x else find? j xs := by
  by_cases h : key x ∈ keys xs
  · rw [set, if_pos (contains_iff.2 h), find?_replace]
    by_cases hj : j = key x
    · obtain ⟨y, hy⟩ := Option.ne_none_iff_exists'.1 (mt find?_eq_none_iff.1 (not_not_intro h))
      simp [hj, hy]
    · simp [hj]
  · rw [set, if_neg (mt contains_iff.1 h), find?_append]
    by_cases hj : j = key x
    · simp [hj, find?_eq_none_iff.2 h, find?]
    · simp [hj, find?, Ne.symm hj]

theorem find?_renew (j : κ) (x : α) (xs : List α) :
    find? j (renew x xs) = if j = key x then some x else find? j xs := by
  rw [renew, find?_append, find?_erase]
  by_cases h : j = key x
  · simp [h, find?]
  · simp [h, find?, Ne.symm h]

theorem keys_erase (k : κ) (xs : List α) :
    keys (erase k xs) = (keys xs).filter fun j => j ≠ k := by
  simp [keys, erase, List.filter_map, Function.comp_def]

theorem keys_replace (x : α) (xs : List α) : keys (replace x xs) = keys xs := by
  simp only [keys, replace, List.map_map]
  refine List.map_congr_left fun y _ => ?_
  by_cases h : key y = key x <;> simp [h]

theorem keys_set (x : α) (xs : List α) :
    keys (set x xs) = if key x ∈ keys xs then keys xs else keys xs ++ [key x] := by
  by_cases h : key x ∈ keys xs
  · rw [set, if_pos (contains_iff.2 h), keys_replace, if_pos h]
  · rw [set, if_neg (mt contains_iff.1 h), if_neg h]
    simp [keys]

theorem keys_renew (x : α) (xs : List α) :
    keys (renew x xs) = ((keys xs).filter fun j => j ≠ key x) ++ [key x] := by
  rw [renew, ← keys_erase]
  simp [keys]

end Roster

end Coordination
