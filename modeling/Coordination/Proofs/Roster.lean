/-
Coordination.Proofs.Roster — rosters in which every key occurs once.

`Roster` says what each operation does to the record found under a key.
Where no key occurs twice, looking up is the same as being listed
(`find?_eq_some_iff`), so that a fact about all records of a roster can be
stated by key, and the laws on `find?` carry it through an operation.
Every operation keeps the keys apart.

  §1 Keys        — what is listed, and which changes leave the keys alone.
  §2 Looking up  — `find?_eq_some_iff`, `filter_key`, `find?_map`.
  §3 Keys apart  — `nodup_keys_erase` … `nodup_keys_renew`.
  §4 Updates     — the record of one key changed by a function.
  §5 Runs        — dropping and replacing several records, one after the other.
-/
import Coordination.Roster

namespace Coordination.Roster

open Keyed (key)

variable {α κ : Type} [Keyed α κ]

/-! ## §1 Keys -/

theorem mem_keys {k : κ} {xs : List α} : k ∈ keys xs ↔ ∃ x ∈ xs, key x = k := List.mem_map

theorem key_mem_keys {x : α} {xs : List α} (h : x ∈ xs) : key x ∈ keys xs :=
  mem_keys.2 ⟨x, h, rfl⟩

theorem ne_nil_of_mem_keys {k : κ} {xs : List α} (h : k ∈ keys xs) : xs ≠ [] := by
  rintro rfl
  exact List.not_mem_nil h

theorem keys_map {f : α → α} (keeps : ∀ x, key (f x) = key x) (xs : List α) :
    keys (xs.map f) = keys xs := by
  rw [keys, List.map_map]
  exact List.map_congr_left fun x _ => keeps x

theorem nodup_keys_filter {xs : List α} (h : (keys xs).Nodup) (p : α → Bool) :
    (keys (xs.filter p)).Nodup :=
  h.sublist (List.filter_sublist.map key)

theorem nodup_keys_concat {xs : List α} (h : (keys xs).Nodup) {x : α} (hx : key x ∉ keys xs) :
    (keys (xs ++ [x])).Nodup := by
  rw [keys, List.map_append]
  refine List.nodup_append.2 ⟨h, by simp, ?_⟩
  rintro k hk l hl rfl
  simp only [List.map_cons, List.map_nil, List.mem_singleton] at hl
  exact hx (hl ▸ hk)

/-! ## §2 Looking up -/

variable [DecidableEq κ]

theorem mem_keys_of_find? {k : κ} {x : α} {xs : List α} (h : find? k xs = some x) :
    k ∈ keys xs :=
  mem_keys.2 ⟨x, mem_of_find?_eq_some h, key_of_find?_eq_some h⟩

theorem mem_keys_iff_find? {k : κ} {xs : List α} : k ∈ keys xs ↔ ∃ x, find? k xs = some x := by
  rw [← Option.ne_none_iff_exists', Ne, find?_eq_none_iff, Decidable.not_not]

/-- A listed record is the one found under its key. -/
theorem find?_key {xs : List α} (h : (keys xs).Nodup) {x : α} (hx : x ∈ xs) :
    find? (key x) xs = some x := by
  induction xs with
  | nil => cases hx
  | cons y rest ih =>
    obtain ⟨hy, hrest⟩ := List.nodup_cons.1 h
    rcases List.mem_cons.1 hx with rfl | hx
    · simp [find?]
    · have hne : key y ≠ key x := fun e => hy (e ▸ key_mem_keys hx)
      rw [find?, if_neg hne]
      exact ih hrest hx

/-- Where keys are apart, what is found under a key is what is listed with it. -/
theorem find?_eq_some_iff {xs : List α} (h : (keys xs).Nodup) {k : κ} {x : α} :
    find? k xs = some x ↔ x ∈ xs ∧ key x = k := by
  constructor
  · exact fun hx => ⟨mem_of_find?_eq_some hx, key_of_find?_eq_some hx⟩
  · rintro ⟨hx, rfl⟩
    exact find?_key h hx

theorem eq_of_find? {xs : List α} (h : (keys xs).Nodup) {k : κ} {x y : α} (hx : x ∈ xs)
    (hk : key x = k) (hy : find? k xs = some y) : x = y := by
  subst hk
  exact Option.some.inj ((find?_key h hx).symm.trans hy)

theorem eq_of_key {xs : List α} (h : (keys xs).Nodup) {x y : α} (hx : x ∈ xs) (hy : y ∈ xs)
    (hk : key x = key y) : x = y :=
  eq_of_find? h hx hk (find?_key h hy)

/-- There is one record under the key of a listed record. -/
theorem filter_key {xs : List α} (h : (keys xs).Nodup) {x : α} (hx : x ∈ xs) :
    (xs.filter fun y => key y = key x) = [x] := by
  induction xs with
  | nil => cases hx
  | cons y rest ih =>
    obtain ⟨hy, hrest⟩ := List.nodup_cons.1 h
    rcases List.mem_cons.1 hx with rfl | hx
    · rw [List.filter_cons, if_pos (by simp)]
      refine congrArg (x :: ·) (List.filter_eq_nil_iff.2 fun z hz same => hy ?_)
      exact of_decide_eq_true same ▸ key_mem_keys hz
    · have other : key y ≠ key x := fun e => hy (e ▸ key_mem_keys hx)
      rw [List.filter_cons, if_neg (by simpa using other)]
      exact ih hrest hx

/-- A change that leaves keys alone is seen in every record that is found. -/
theorem find?_map {β : Type} [Keyed β κ] {f : α → β} (keeps : ∀ x, key (f x) = key x) (k : κ)
    (xs : List α) :
    find? k (xs.map f) = (find? k xs).map f := by
  induction xs with
  | nil => rfl
  | cons y rest ih =>
    rw [List.map_cons, find?, find?, keeps, ih]
    split <;> rfl

/-- The records of listed keys have these keys. -/
theorem keys_filterMap_find? {ks : List κ} {xs : List α} (h : ∀ k ∈ ks, k ∈ keys xs) :
    keys (ks.filterMap fun k => find? k xs) = ks := by
  induction ks with
  | nil => rfl
  | cons k rest ih =>
    obtain ⟨x, hx⟩ := mem_keys_iff_find?.1 (h k List.mem_cons_self)
    rw [List.filterMap_cons, hx, keys, List.map_cons, key_of_find?_eq_some hx]
    exact congrArg (k :: ·) (ih fun l hl => h l (List.mem_cons_of_mem k hl))

/-- Among the records of some keys there is one under each key that is listed. -/
theorem find?_filterMap_find? (k : κ) (ks : List κ) (xs : List α) :
    find? k (ks.filterMap fun l => find? l xs) = if k ∈ ks then find? k xs else none := by
  induction ks with
  | nil => rfl
  | cons l rest ih =>
    rw [List.filterMap_cons]
    cases hl : find? l xs with
    | none => by_cases hk : k = l <;> simp_all
    | some x =>
      have hx := key_of_find?_eq_some hl
      by_cases hk : k = l
      · simp [find?, hx, hk, hl]
      · simp [find?, hx, hk, Ne.symm hk, ih]

/-! ## §3 Keys apart -/

theorem nodup_keys_erase {xs : List α} (h : (keys xs).Nodup) (k : κ) :
    (keys (erase k xs)).Nodup :=
  nodup_keys_filter h _

theorem nodup_keys_replace {xs : List α} (h : (keys xs).Nodup) (x : α) :
    (keys (replace x xs)).Nodup := by
  rwa [keys_replace]

theorem nodup_keys_set {xs : List α} (h : (keys xs).Nodup) (x : α) :
    (keys (set x xs)).Nodup := by
  unfold set; split
  · exact nodup_keys_replace h x
  · rename_i hx
    exact nodup_keys_concat h (mt contains_iff.2 hx)

/-- A record that was replaced is gone. -/
theorem mem_replace {x y : α} {xs : List α} (h : y ∈ replace x xs) :
    y = x ∨ (y ∈ xs ∧ key y ≠ key x) := by
  obtain ⟨z, hz, rfl⟩ := List.mem_map.1 h
  split
  · exact .inl rfl
  · rename_i hne
    exact .inr ⟨hz, hne⟩

/-- What a replacement has in common with the old record is not changed. -/
theorem map_replace {β : Type} {xs : List α} (h : (keys xs).Nodup) {old : α} (hold : old ∈ xs)
    (x : α) (hk : key old = key x) {f : α → β} (same : f x = f old) :
    (replace x xs).map f = xs.map f := by
  rw [replace, List.map_map]
  refine List.map_congr_left ?_
  intro y hy
  rw [Function.comp_apply]
  split
  · rename_i hyx
    rw [same, eq_of_key h hold hy (hk.trans hyx.symm)]
  · rfl

theorem set_of_mem {x : α} {xs : List α} (h : key x ∈ keys xs) : set x xs = replace x xs :=
  if_pos (contains_iff.2 h)

theorem set_of_not_mem {x : α} {xs : List α} (h : key x ∉ keys xs) : set x xs = xs ++ [x] :=
  if_neg (mt contains_iff.1 h)

theorem mem_set {x y : α} {xs : List α} (h : y ∈ set x xs) : y = x ∨ y ∈ xs := by
  unfold set at h
  split at h
  · obtain ⟨z, hz, rfl⟩ := List.mem_map.1 h
    split
    · exact .inl rfl
    · exact .inr hz
  · simpa [or_comm] using h

theorem key_mem_keys_set (x : α) (xs : List α) : key x ∈ keys (set x xs) := by
  rw [keys_set]
  split
  · assumption
  · exact List.mem_append_right _ List.mem_cons_self

theorem nodup_keys_renew {xs : List α} (h : (keys xs).Nodup) (x : α) :
    (keys (renew x xs)).Nodup := by
  refine nodup_keys_concat (nodup_keys_erase h _) ?_
  simp [keys_erase]

/-! ## §4 Updates -/

/-- A list of which no entry is changed. -/
theorem map_eq_self {f : α → α} {xs : List α} (same : ∀ x ∈ xs, f x = x) : xs.map f = xs :=
  (List.map_congr_left same).trans (List.map_id xs)

/-- The roster in which the record of a key is changed. -/
def update (k : κ) (f : α → α) (xs : List α) : List α :=
  xs.map fun x => if key x = k then f x else x

theorem update_of_not_mem {k : κ} {xs : List α} (h : k ∉ keys xs) (f : α → α) :
    update k f xs = xs := by
  refine map_eq_self fun x hx => if_neg ?_
  exact fun e => h (e ▸ key_mem_keys hx)

theorem update_eq_self {xs : List α} (h : (keys xs).Nodup) {k : κ} {old : α}
    (hold : find? k xs = some old) {f : α → α} (hf : f old = old) : update k f xs = xs := by
  refine map_eq_self fun x hx => ?_
  split
  · rename_i hk
    rw [eq_of_find? h hx hk hold, hf]
  · rfl

theorem key_update {k : κ} {f : α → α} (keeps : ∀ x, key x = k → key (f x) = k) (x : α) :
    key (if key x = k then f x else x) = key x := by
  split
  · rename_i hk
    exact (keeps x hk).trans hk.symm
  · rfl

theorem keys_update {k : κ} {f : α → α} (keeps : ∀ x, key x = k → key (f x) = k) (xs : List α) :
    keys (update k f xs) = keys xs :=
  keys_map (key_update keeps) xs

theorem find?_update {k : κ} {f : α → α} (keeps : ∀ x, key x = k → key (f x) = k) (j : κ)
    (xs : List α) : find? j (update k f xs) = if j = k then (find? j xs).map f else find? j xs := by
  rw [update, find?_map (key_update keeps)]
  cases found : find? j xs with
  | none => simp
  | some x =>
    rw [Option.map_some, key_of_find?_eq_some found]
    split <;> rfl

/-- Replacing the record that is found is changing it. -/
theorem replace_eq_update {xs : List α} (h : (keys xs).Nodup) {k : κ} {old : α}
    (hold : find? k xs = some old) {f : α → α} (hf : key (f old) = k) :
    replace (f old) xs = update k f xs := by
  refine List.map_congr_left ?_
  intro x hx
  rw [hf]
  split
  · rename_i hk
    rw [eq_of_find? h hx hk hold]
  · rfl

/-! ## §5 Runs -/

/-- Nothing is dropped under a key that is not listed. -/
theorem erase_eq_self {k : κ} {xs : List α} (h : k ∉ keys xs) : erase k xs = xs :=
  List.filter_eq_self.2 fun x hx => by
    simpa using fun e : key x = k => h (e ▸ key_mem_keys hx)

/-- Dropping a record and then several others drops them all. -/
theorem filter_erase (k : κ) (ks : List κ) (xs : List α) :
    (erase k xs).filter (fun x => key x ∉ ks) = xs.filter fun x => key x ∉ k :: ks := by
  rw [erase, List.filter_filter]
  refine List.filter_congr ?_
  intro x _
  simp [not_or, Bool.and_comm]

/-- Replacing records one after the other gives each its replacement, if it has one. -/
theorem foldl_replace {ys : List α} (h : (keys ys).Nodup) (xs : List α) :
    ys.foldl (fun zs y => replace y zs) xs = xs.map fun x => (find? (key x) ys).getD x := by
  induction ys generalizing xs with
  | nil => simp [find?]
  | cons y rest ih =>
    obtain ⟨hy, hrest⟩ := List.nodup_cons.1 h
    rw [List.foldl_cons, ih hrest, replace, List.map_map]
    refine List.map_congr_left ?_
    intro x _
    by_cases hx : key x = key y
    · simp [find?, hx, find?_eq_none_iff.2 hy]
    · simp [find?, hx, Ne.symm hx]

end Coordination.Roster
