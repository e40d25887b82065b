/-
Coordination.Proofs.Stamps — rosters kept in hash tables.

A hash table finds a record by its key and has no order of its own. If
every record is entered with a number, each greater than those before, the
table still stands for a roster: its records sorted by number, in whatever
order the table gives them out (`Ledger.Shows`). A record that is changed
keeps its number and so its place; one that is entered again gets a new
number and so the last place.

Behind a ledger stands the list of its entries in the order of their
numbers (`Ledger.Holds`). It is a roster too, so the laws of rosters say
what becomes of it, and the only thing to be proved anew is that the
numbers go on rising.

  §1 Ledger   — numbered records in a hash table.
  §2 Sorting  — `sorted_of_perm`: what is sorted by number has one order.
  §3 Holds    — the numbered entries behind a ledger, for each operation.
  §4 Keeps    — the same for the roster of the records.
  §5 Several  — changing or erasing the records of several keys.
  §6 Numbers  — `next_foldl_le`: how many numbers a run uses up.
-/
import Coordination.Proofs.Roster
import Mathlib.Data.List.Nodup

namespace Coordination

open Keyed (key)
open Roster (keys)

/-! ## §1 Ledger -/

/-- A record with the number under which it was entered. -/
structure Stamped (α : Type) where
  number : Nat
  record : α

namespace Stamped

variable {α κ : Type}

instance [Keyed α κ] : Keyed (Stamped α) κ := ⟨fun entry => key entry.record⟩

@[simp] theorem key_eq [Keyed α κ] (entry : Stamped α) : key entry = key entry.record := rfl

/-- The entry with its record changed. -/
def change (f : α → α) (entry : Stamped α) : Stamped α := { entry with record := f entry.record }

/-- The records in the order of their numbers. -/
def sorted (entries : List (Stamped α)) : List α :=
  (entries.mergeSort fun a b => a.number ≤ b.number).map (·.record)

end Stamped

/-- Numbered records in a hash table. -/
structure Ledger (κ α : Type) [DecidableEq κ] [Hashable κ] where
  table : Std.HashMap κ (Stamped α) := ∅

namespace Ledger

variable {α κ : Type} [DecidableEq κ] [Hashable κ]

/-- The entries in the order of the table. -/
def entries (ledger : Ledger κ α) : List (Stamped α) := ledger.table.toList.map (·.2)

/-- The records in the order in which they were entered. -/
def list (ledger : Ledger κ α) : List α := Stamped.sorted ledger.entries

def find? (k : κ) (ledger : Ledger κ α) : Option α := ledger.table[k]?.map (·.record)

def contains (k : κ) (ledger : Ledger κ α) : Bool := (ledger.find? k).isSome

def erase (k : κ) (ledger : Ledger κ α) : Ledger κ α := ⟨ledger.table.erase k⟩

/-- Changes the record of a key, which keeps its number. -/
def change (k : κ) (f : α → α) (ledger : Ledger κ α) : Ledger κ α :=
  ⟨ledger.table.modify k (Stamped.change f)⟩

/-- Changes the records of several keys, one after the other, and gives what they are now. -/
def changeEach (f : α → α) (ledger : Ledger κ α) : List κ → Ledger κ α × List α
  | [] => (ledger, [])
  | k :: rest => match ledger.find? k with
    | some x =>
      let (last, changed) := (ledger.change k f).changeEach f rest
      (last, f x :: changed)
    | none => ledger.changeEach f rest

/-- Erases the records of several keys, one after the other, and gives what they were. -/
def eraseEach (ledger : Ledger κ α) : List κ → Ledger κ α × List α
  | [] => (ledger, [])
  | k :: rest =>
    let (last, erased) := (ledger.erase k).eraseEach rest
    (last, (ledger.find? k).toList ++ erased)

variable [Keyed α κ]

/-- Enters a record with a number; one with its key is dropped. -/
def enter (number : Nat) (x : α) (ledger : Ledger κ α) : Ledger κ α :=
  ⟨ledger.table.insert (key x) ⟨number, x⟩⟩

/-- Stores a record: in the place of the one with its key, or else with the next number; also gives
the number that is the next one then. -/
def put (next : Nat) (x : α) (ledger : Ledger κ α) : Ledger κ α × Nat :=
  if ledger.contains (key x) then (ledger.change (key x) fun _ => x, next)
  else (ledger.enter next x, next + 1)

/-- What a ledger stands for: a roster that is found by key, and is listed whatever the order in
which the table gives out its entries. -/
structure Shows (ledger : Ledger κ α) (roster : List α) : Prop where
  apart : (keys roster).Nodup
  listed : ∀ entries, entries.Perm ledger.entries → Stamped.sorted entries = roster
  found : ∀ k, ledger.find? k = Roster.find? k roster

/-! ## §2 Sorting -/

section Sorting

variable {entries shuffled : List (Stamped α)}

omit [DecidableEq κ] [Hashable κ] [Keyed α κ]

theorem eq_of_number (rising : entries.Pairwise (·.number < ·.number)) {a b : Stamped α}
    (ha : a ∈ entries) (hb : b ∈ entries) (same : a.number = b.number) : a = b := by
  have apart : (entries.map (·.number)).Nodup :=
    List.pairwise_map.2 (rising.imp Nat.ne_of_lt)
  exact List.inj_on_of_nodup_map apart ha hb same

/-- Sorting finds the order of the numbers again. -/
theorem sorted_of_perm (rising : entries.Pairwise (·.number < ·.number))
    (perm : shuffled.Perm entries) : Stamped.sorted shuffled = entries.map (·.record) := by
  refine congrArg (List.map Stamped.record) ?_
  have again : (shuffled.mergeSort fun a b => a.number ≤ b.number).Perm entries :=
    (List.mergeSort_perm _ _).trans perm
  have ordered : (shuffled.mergeSort fun a b => a.number ≤ b.number).Pairwise
      (·.number ≤ ·.number) := by
    refine (List.pairwise_mergeSort ?_ ?_ shuffled).imp of_decide_eq_true
    · exact fun a b c ab bc =>
        decide_eq_true (Nat.le_trans (of_decide_eq_true ab) (of_decide_eq_true bc))
    · exact fun a b => by simpa using Nat.le_total a.number b.number
  refine again.eq_of_pairwise (fun a b ha hb ab ba => ?_) ordered (rising.imp Nat.le_of_lt)
  exact eq_of_number rising (again.subset ha) hb (Nat.le_antisymm ab ba)

end Sorting

/-! ## §3 Holds -/

/-- The entries of a ledger in the order of their numbers, which are below the next one. -/
structure Holds (ledger : Ledger κ α) (next : Nat) (entries : List (Stamped α)) : Prop where
  found : ∀ k, ledger.table[k]? = Roster.find? k entries
  apart : (keys entries).Nodup
  rising : entries.Pairwise (·.number < ·.number)
  below : ∀ entry ∈ entries, entry.number < next

section Holds

variable {ledger : Ledger κ α} {next : Nat} {entries : List (Stamped α)}

theorem holds_empty (next : Nat) : ({} : Ledger κ α).Holds next [] where
  found _ := Std.HashMap.getElem?_empty
  apart := .nil
  rising := .nil
  below := nofun

/-- The table gives out the entries that it holds. -/
theorem Holds.perm (h : ledger.Holds next entries) : ledger.entries.Perm entries := by
  have given : ledger.table.toList.Perm (entries.map fun entry => (key entry, entry)) := by
    refine (List.perm_ext_iff_of_nodup ?_ ?_).2 ?_
    · exact Std.HashMap.distinct_keys_toList.imp fun {a b} other same => by simp [same] at other
    · refine .of_map Prod.fst ?_
      rw [List.map_map]
      exact h.apart
    · rintro ⟨k, entry⟩
      rw [Std.HashMap.mem_toList_iff_getElem?_eq_some, h.found, Roster.find?_eq_some_iff h.apart,
        List.mem_map]
      constructor
      · rintro ⟨held, rfl⟩
        exact ⟨entry, held, rfl⟩
      · rintro ⟨other, held, same⟩
        obtain ⟨rfl, rfl⟩ := Prod.mk.inj same
        exact ⟨held, rfl⟩
  have second := given.map Prod.snd
  rwa [List.map_map, show Prod.snd ∘ (fun entry : Stamped α => (key entry, entry)) = id from rfl,
    List.map_id] at second

theorem Holds.mono (h : ledger.Holds next entries) {later : Nat} (le : next ≤ later) :
    ledger.Holds later entries :=
  { h with below := fun entry held => Nat.lt_of_lt_of_le (h.below entry held) le }

theorem Holds.enter (h : ledger.Holds next entries) (x : α) :
    (ledger.enter next x).Holds (next + 1) (Roster.renew ⟨next, x⟩ entries) where
  found k := by
    show (ledger.table.insert (key x) ⟨next, x⟩)[k]? = _
    rw [Std.HashMap.getElem?_insert, h.found, Roster.find?_renew, Stamped.key_eq]
    simp only [beq_iff_eq, eq_comm (a := k)]
  apart := Roster.nodup_keys_renew h.apart _
  rising := by
    refine List.pairwise_append.2 ⟨h.rising.filter _, List.pairwise_singleton _ _, ?_⟩
    intro entry kept last new
    rw [List.mem_singleton.1 new]
    exact h.below entry (List.mem_filter.1 kept).1
  below := by
    intro entry held
    rcases List.mem_append.1 held with kept | new
    · exact Nat.lt_succ_of_lt (h.below entry (List.mem_filter.1 kept).1)
    · rw [List.mem_singleton.1 new]
      exact Nat.lt_succ_self next

theorem Holds.erase (h : ledger.Holds next entries) (k : κ) :
    (ledger.erase k).Holds next (Roster.erase k entries) where
  found j := by
    show (ledger.table.erase k)[j]? = _
    rw [Std.HashMap.getElem?_erase, h.found, Roster.find?_erase]
    simp only [beq_iff_eq, eq_comm (a := j)]
  apart := Roster.nodup_keys_erase h.apart k
  rising := h.rising.filter _
  below entry kept := h.below entry (List.mem_filter.1 kept).1

/-- A record that is changed keeps its number. -/
theorem Holds.change (h : ledger.Holds next entries) {k : κ} {f : α → α}
    (keeps : ∀ x, key x = k → key (f x) = k) :
    (ledger.change k f).Holds next (Roster.update k (Stamped.change f) entries) := by
  have still : ∀ entry : Stamped α, key entry = k → key (Stamped.change f entry) = k :=
    fun entry => keeps entry.record
  have number : ∀ entry : Stamped α,
      (if key entry = k then Stamped.change f entry else entry).number = entry.number := by
    intro entry
    split <;> rfl
  exact {
    found := by
      intro j
      show (ledger.table.modify k (Stamped.change f))[j]? = _
      rw [Std.HashMap.getElem?_modify, h.found, h.found, Roster.find?_update still]
      simp only [beq_iff_eq]
      split
      · rename_i here
        rw [here, if_pos rfl]
      · rename_i elsewhere
        rw [if_neg (Ne.symm elsewhere)]
    apart := by
      rw [Roster.keys_update still]
      exact h.apart
    rising := by
      refine List.pairwise_map.2 (h.rising.imp fun {a b} lt => ?_)
      rwa [number, number]
    below := by
      intro entry held
      obtain ⟨old, there, rfl⟩ := List.mem_map.1 held
      rw [number]
      exact h.below old there }

end Holds

/-! ## §4 Keeps -/

/-- The records of a ledger, in the order of their numbers, are a roster. -/
def Keeps (ledger : Ledger κ α) (next : Nat) (roster : List α) : Prop :=
  ∃ entries, ledger.Holds next entries ∧ entries.map (·.record) = roster

section Keeps

variable {ledger : Ledger κ α} {next : Nat} {roster : List α}

theorem keeps_empty (next : Nat) : ({} : Ledger κ α).Keeps next [] :=
  ⟨[], holds_empty next, rfl⟩

theorem Keeps.mono (h : ledger.Keeps next roster) {later : Nat} (le : next ≤ later) :
    ledger.Keeps later roster := by
  obtain ⟨entries, holds, records⟩ := h
  exact ⟨entries, holds.mono le, records⟩

/-- Every number is below the next one. -/
theorem Keeps.below (h : ledger.Keeps next roster) :
    ∀ entry ∈ ledger.entries, entry.number < next := by
  obtain ⟨entries, holds, -⟩ := h
  exact fun entry held => holds.below entry (holds.perm.subset held)

theorem Keeps.shows (h : ledger.Keeps next roster) : ledger.Shows roster := by
  obtain ⟨entries, holds, rfl⟩ := h
  refine ⟨?_, fun shuffled perm => sorted_of_perm holds.rising (perm.trans holds.perm), fun k => ?_⟩
  · rw [keys, List.map_map]
    exact holds.apart
  · rw [find?, holds.found]
    exact (Roster.find?_map (f := Stamped.record) (fun _ => rfl) k entries).symm

theorem Keeps.contains (h : ledger.Keeps next roster) (k : κ) :
    ledger.contains k = Roster.contains k roster :=
  congrArg Option.isSome (h.shows.found k)

theorem Keeps.list (h : ledger.Keeps next roster) : ledger.list = roster :=
  h.shows.listed _ (.refl _)

theorem Keeps.enter (h : ledger.Keeps next roster) (x : α) :
    (ledger.enter next x).Keeps (next + 1) (Roster.renew x roster) := by
  obtain ⟨entries, holds, rfl⟩ := h
  refine ⟨_, holds.enter x, ?_⟩
  rw [Roster.renew, List.map_append, Roster.erase, Roster.renew, Roster.erase, List.filter_map]
  rfl

theorem Keeps.erase (h : ledger.Keeps next roster) (k : κ) :
    (ledger.erase k).Keeps next (Roster.erase k roster) := by
  obtain ⟨entries, holds, rfl⟩ := h
  refine ⟨_, holds.erase k, ?_⟩
  rw [Roster.erase, Roster.erase, List.filter_map]
  rfl

theorem Keeps.change (h : ledger.Keeps next roster) {k : κ} {f : α → α}
    (keeps : ∀ x, key x = k → key (f x) = k) :
    (ledger.change k f).Keeps next (Roster.update k f roster) := by
  obtain ⟨entries, holds, rfl⟩ := h
  refine ⟨_, holds.change keeps, ?_⟩
  rw [Roster.update, Roster.update, List.map_map, List.map_map]
  refine List.map_congr_left fun entry _ => ?_
  rw [Function.comp_apply, Function.comp_apply, Stamped.key_eq]
  split <;> rfl

theorem le_put (ledger : Ledger κ α) (next : Nat) (x : α) : next ≤ (ledger.put next x).2 := by
  unfold put
  split
  · exact Nat.le_refl next
  · exact Nat.le_succ next

theorem put_le (ledger : Ledger κ α) (next : Nat) (x : α) :
    (ledger.put next x).2 ≤ next + 1 := by
  unfold put
  split
  · exact Nat.le_succ next
  · exact Nat.le_refl (next + 1)

theorem Keeps.put (h : ledger.Keeps next roster) (x : α) :
    (ledger.put next x).1.Keeps (ledger.put next x).2 (Roster.set x roster) := by
  unfold Ledger.put
  cases held : ledger.contains (key x) with
  | true =>
    rw [h.contains] at held
    rw [Roster.set_of_mem (Roster.contains_iff.1 held)]
    exact h.change fun _ _ => rfl
  | false =>
    rw [h.contains] at held
    have absent : key x ∉ keys roster := fun listed => by
      simp [Roster.contains_iff.2 listed] at held
    have entered := h.enter x
    rw [Roster.renew, Roster.erase_eq_self absent] at entered
    rw [Roster.set_of_not_mem absent]
    exact entered

end Keeps

/-! ## §5 Several -/

section Several

variable {ledger : Ledger κ α} {next : Nat} {roster : List α} {ks : List κ}

/-- Each of the records is changed in its place. -/
theorem Keeps.changeEach (h : ledger.Keeps next roster) (apart : ks.Nodup) {f : α → α}
    (keeps : ∀ x, key (f x) = key x) :
    (ledger.changeEach f ks).1.Keeps next (roster.map fun x => if key x ∈ ks then f x else x) ∧
      (ledger.changeEach f ks).2 = ks.filterMap fun k => (Roster.find? k roster).map f := by
  induction ks generalizing ledger roster with
  | nil => exact ⟨by simpa [Ledger.changeEach] using h, rfl⟩
  | cons k rest ih =>
    obtain ⟨other, apart⟩ := List.nodup_cons.1 apart
    rw [Ledger.changeEach, h.shows.found, List.filterMap_cons]
    cases found : Roster.find? k roster with
    | none =>
      obtain ⟨left, changed⟩ := ih h apart
      refine ⟨?_, changed⟩
      have missing : ∀ x ∈ roster, key x ≠ k := fun x listed here =>
        Roster.find?_eq_none_iff.1 found (here ▸ Roster.key_mem_keys listed)
      have same : (roster.map fun x => if key x ∈ k :: rest then f x else x) =
          roster.map fun x => if key x ∈ rest then f x else x :=
        List.map_congr_left fun x listed => by simp [missing x listed]
      rwa [same]
    | some x =>
      have still : ∀ y, key y = k → key (f y) = k := fun y here => (keeps y).trans here
      -- the other keys are not `k`, so they find after the change what they found before
      obtain ⟨left, changed⟩ := ih (h.change still) apart
      constructor
      · have same : (roster.map fun y => if key y ∈ k :: rest then f y else y) =
            (Roster.update k f roster).map fun y => if key y ∈ rest then f y else y := by
          rw [Roster.update, List.map_map]
          refine List.map_congr_left fun y _ => ?_
          by_cases here : key y = k
          · simp [here, still y here, other]
          · simp [here]
        rw [same]
        exact left
      · show f x :: _ = f x :: _
        rw [changed]
        refine congrArg (f x :: ·) (List.filterMap_congr fun j listed => ?_)
        have elsewhere : j ≠ k := fun here => other (here ▸ listed)
        rw [Roster.find?_update still, if_neg elsewhere]

/-- Each of the records goes. -/
theorem Keeps.eraseEach (h : ledger.Keeps next roster) (apart : ks.Nodup) :
    (ledger.eraseEach ks).1.Keeps next (roster.filter fun x => key x ∉ ks) ∧
      (ledger.eraseEach ks).2 = ks.filterMap fun k => Roster.find? k roster := by
  induction ks generalizing ledger roster with
  | nil => exact ⟨by simpa [Ledger.eraseEach] using h, rfl⟩
  | cons k rest ih =>
    obtain ⟨other, apart⟩ := List.nodup_cons.1 apart
    obtain ⟨left, erased⟩ := ih (h.erase k) apart
    rw [Roster.filter_erase] at left
    refine ⟨left, ?_⟩
    have spared : (rest.filterMap fun j => Roster.find? j (Roster.erase k roster)) =
        rest.filterMap fun j => Roster.find? j roster := by
      refine List.filterMap_congr fun j listed => ?_
      have elsewhere : j ≠ k := fun here => other (here ▸ listed)
      rw [Roster.find?_erase, if_neg elsewhere]
    rw [Ledger.eraseEach, h.shows.found, List.filterMap_cons]
    show _ ++ ((ledger.erase k).eraseEach rest).2 = _
    rw [erased, spared]
    cases Roster.find? k roster <;> rfl

end Several

/-! ## §6 Numbers -/

/-- If a step uses up one number at most, so many steps use up so many. -/
theorem next_foldl_le {σ ω : Type} {next : σ → Nat} {step : σ → ω → σ}
    (one : ∀ state operation, next (step state operation) ≤ next state + 1)
    (operations : List ω) (state : σ) :
    next (operations.foldl step state) ≤ next state + operations.length := by
  induction operations generalizing state with
  | nil => exact Nat.le_refl (next state)
  | cons operation rest ih =>
    have first := one state operation
    have others := ih (step state operation)
    rw [List.foldl_cons, List.length_cons]
    omega

end Ledger

end Coordination
