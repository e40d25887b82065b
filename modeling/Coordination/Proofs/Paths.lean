/-
Coordination.Proofs.Paths — what a path below a directory names.

A path is read one piece at a time: its first component is told by the text
before the first slash, and the rest of its components are those of its tail
(`components_cons`). A directory is matched against a path one piece at a
time as well, so what remains of a path under a directory is a relative path
to what the path names from there (`components_of_below?`), and joined to the
directory it names the same thing again (`components_join`).

Slashes and dots come and go when paths are joined and cut; no other
character does (`total_components`). The number of the others is the weight
of a path, and two paths with the same components have the same weight
(`weight_eq_of_components`).

  §1 Pieces      — `split` and the text before the first separator.
  §2 Components  — `components_eq`, the first piece and the rest.
  §3 Trimming    — what is trimmed does not count; `components_cons`.
  §4 Joining     — `components_join`.
  §5 Below       — `components_of_below?`, `below?_isSome`.
  §6 Weight      — `total_components`, `weight_join_le`.
-/
import Coordination.Text.Path
import Mathlib.Algebra.GroupWithZero.Nat

namespace Coordination.Text

/-! ## §1 Pieces -/

variable {s : Char}

theorem split_ne_nil (cs : List Char) : split s cs ≠ [] := by
  cases cs with
  | nil => exact List.cons_ne_nil _ _
  | cons c rest =>
    rw [split]
    split
    · exact List.cons_ne_nil _ _
    · split <;> exact List.cons_ne_nil _ _

theorem split_cons_of_ne {c : Char} (h : c ≠ s) (rest : List Char) :
    ∃ piece pieces, split s rest = piece :: pieces ∧
      split s (c :: rest) = (c :: piece) :: pieces := by
  obtain ⟨piece, pieces, hp⟩ := List.exists_cons_of_ne_nil (split_ne_nil (s := s) rest)
  exact ⟨piece, pieces, hp, by rw [split, if_neg h, hp]⟩

@[simp] theorem split_separator (rest : List Char) : split s (s :: rest) = [] :: split s rest := by
  rw [split, if_pos rfl]

theorem split_append_cons (xs ys : List Char) :
    split s (xs ++ s :: ys) = split s xs ++ split s ys := by
  induction xs with
  | nil => rw [List.nil_append, split_separator]; rfl
  | cons c xs ih =>
    by_cases h : c = s
    · rw [h, List.cons_append, split_separator, split_separator, ih, List.cons_append]
    · obtain ⟨piece, pieces, hp, hc⟩ := split_cons_of_ne h xs
      rw [List.cons_append, split, if_neg h, ih, hp, hc]
      rfl

theorem split_of_not_mem {cs : List Char} (h : s ∉ cs) : split s cs = [cs] := by
  induction cs with
  | nil => rfl
  | cons c cs ih =>
    obtain ⟨first, others⟩ := not_or.1 (mt List.mem_cons.2 h)
    rw [split, if_neg (Ne.symm first), ih others]

theorem split_intercalate {pieces : List (List Char)} (h : ∀ piece ∈ pieces, s ∉ piece)
    (full : pieces ≠ []) : split s (List.intercalate [s] pieces) = pieces := by
  induction pieces with
  | nil => exact absurd rfl full
  | cons piece pieces ih =>
    rw [List.forall_mem_cons] at h
    cases pieces with
    | nil => simp [List.intercalate, split_of_not_mem h.1]
    | cons next pieces =>
      rw [List.intercalate_cons_cons, List.append_assoc, List.singleton_append,
        split_append_cons, split_of_not_mem h.1, ih h.2 (List.cons_ne_nil _ _)]
      rfl

/-- The first piece is the text before the first separator. -/
theorem split_eq_of_dropWhile_nil {cs : List Char} (h : cs.dropWhile (· ≠ s) = []) :
    split s cs = [cs.takeWhile (· ≠ s)] := by
  induction cs with
  | nil => rfl
  | cons c rest ih =>
    by_cases hc : c = s
    · simp [hc] at h
    · rw [split, if_neg hc, ih (by simpa [hc] using h)]
      simp [hc]

theorem split_eq_of_dropWhile_cons {cs rest : List Char} {c : Char}
    (h : cs.dropWhile (· ≠ s) = c :: rest) :
    split s cs = cs.takeWhile (· ≠ s) :: split s rest := by
  induction cs with
  | nil => cases h
  | cons d cs ih =>
    by_cases hd : d = s
    · subst hd
      simp only [List.dropWhile_cons, ne_eq, not_true_eq_false, decide_false] at h
      cases h
      simp
    · rw [split, if_neg hd, ih (by simpa [hd] using h)]
      simp [hd]

namespace Path

/-! ## §2 Components -/

/-- The component that a piece stands for at the start of a path. -/
def Component.ofPiece (piece : List Char) : Component :=
  if piece = [] then root
  else if piece = ['.'] then here
  else if piece = ['.', '.'] then up
  else name piece

@[simp] theorem Component.text_ofPiece (piece : List Char) : (ofPiece piece).text = piece := by
  unfold ofPiece
  split
  · next h => exact h.symm
  · split
    · next h => exact h.symm
    · split
      · next h => exact h.symm
      · rfl

/-- The components of a path, apart from what counts at its very start only. -/
def body (path : List Char) : List Component := steps (split '/' path)

theorem steps_append (ps qs : List (List Char)) : steps (ps ++ qs) = steps ps ++ steps qs :=
  List.filterMap_append

/-- A piece that counts within a path counts as it does at the start. -/
theorem steps_cons {piece : List Char} (full : piece ≠ []) (apart : piece ≠ ['.'])
    (pieces : List (List Char)) : steps (piece :: pieces) = .ofPiece piece :: steps pieces := by
  unfold steps Component.ofPiece
  rw [List.filterMap_cons, if_neg (not_or.2 ⟨full, apart⟩), if_neg full, if_neg apart]
  by_cases dots : piece = ['.', '.']
  · rw [if_pos dots, if_pos dots]
  · rw [if_neg dots, if_neg dots]

theorem steps_skip {piece : List Char} (h : piece = [] ∨ piece = ['.'])
    (pieces : List (List Char)) : steps (piece :: pieces) = steps pieces := by
  unfold steps
  rw [List.filterMap_cons, if_pos h]

@[simp] theorem body_nil : body [] = [] := rfl

@[simp] theorem body_slash (rest : List Char) : body ('/' :: rest) = body rest := by
  rw [body, split_separator, steps_skip (.inl rfl), body]

theorem body_append_slash (xs ys : List Char) : body (xs ++ '/' :: ys) = body xs ++ body ys := by
  rw [body, split_append_cons, steps_append, body, body]

@[simp] theorem body_dot_slash (rest : List Char) : body ('.' :: '/' :: rest) = body rest :=
  (body_append_slash ['.'] rest).trans rfl

theorem isAbsolute_iff {path : List Char} :
    isAbsolute path = true ↔ ∃ rest, path = '/' :: rest := by
  constructor
  · intro h
    unfold isAbsolute at h
    split at h
    · exact ⟨_, rfl⟩
    · cases h
  · rintro ⟨rest, rfl⟩
    rfl

theorem dropWhile_slash_eq {path rest : List Char} {c : Char}
    (h : path.dropWhile (· ≠ '/') = c :: rest) : c = '/' := by
  have stopped := List.head?_dropWhile_not (fun c => decide (c ≠ '/')) path
  rw [h] at stopped
  simpa using stopped

/-- A path by its first piece and the rest. -/
theorem split_eq (path : List Char) : ∃ pieces,
    split '/' path = path.takeWhile (· ≠ '/') :: pieces ∧
      steps pieces = body (path.dropWhile (· ≠ '/')) := by
  cases h : path.dropWhile (· ≠ '/') with
  | nil => exact ⟨[], split_eq_of_dropWhile_nil h, rfl⟩
  | cons c rest =>
    obtain rfl := dropWhile_slash_eq h
    exact ⟨split '/' rest, split_eq_of_dropWhile_cons h, (body_slash rest).symm⟩

theorem components_slash (rest : List Char) : components ('/' :: rest) = .root :: body rest := by
  rw [components, split_separator]
  exact congrArg (Component.root :: ·) (steps_skip (.inl rfl) _)

/-- The start of a path counts like the rest, unless it is a root or a single dot. -/
theorem components_eq_body {path : List Char} (relative : ¬isAbsolute path = true)
    (dotless : path.takeWhile (· ≠ '/') ≠ ['.']) : components path = body path := by
  obtain ⟨pieces, hs, -⟩ := split_eq path
  rw [components, body, hs]
  simp only [if_neg relative, if_neg dotless]

theorem components_eq {path : List Char} (h : path ≠ []) :
    components path =
      .ofPiece (path.takeWhile (· ≠ '/')) :: body (path.dropWhile (· ≠ '/')) := by
  by_cases absolute : isAbsolute path = true
  · obtain ⟨rest, rfl⟩ := isAbsolute_iff.1 absolute
    rw [components_slash, ← body_slash]
    simp [Component.ofPiece]
  · obtain ⟨pieces, hs, hp⟩ := split_eq path
    by_cases dot : path.takeWhile (· ≠ '/') = ['.']
    · rw [components, hs, ← hp]
      simp only [if_neg absolute, if_pos dot]
      rw [dot]
      rfl
    · have full : path.takeWhile (· ≠ '/') ≠ [] := by
        intro empty
        obtain ⟨c, rest, rfl⟩ := List.exists_cons_of_ne_nil h
        have slash : c = '/' := by simpa [List.takeWhile_cons] using empty
        exact absolute (isAbsolute_iff.2 ⟨rest, by rw [slash]⟩)
      rw [components_eq_body absolute dot, body, hs, steps_cons full dot, hp]

/-! ## §3 Trimming -/

theorem body_trimLeft (path : List Char) : body (trimLeft path) = body path := by
  fun_induction trimLeft path with
  | case1 rest ih => rw [ih, body_slash]
  | case2 => rfl
  | case3 rest ih => rw [ih, body_dot_slash]
  | case4 => rfl

/-- What is trimmed starts with neither a root nor a single dot. -/
theorem components_trimLeft (path : List Char) : components (trimLeft path) = body path := by
  fun_induction trimLeft path with
  | case1 rest ih => rw [ih, body_slash]
  | case2 => rfl
  | case3 rest ih => rw [ih, body_dot_slash]
  | case4 path absolute dot dotted =>
    refine components_eq_body (fun h => ?_) fun h => ?_
    · obtain ⟨rest, rfl⟩ := isAbsolute_iff.1 h
      exact absolute rest rfl
    · have pasted := List.takeWhile_append_dropWhile (p := fun c => decide (c ≠ '/')) (l := path)
      rw [h] at pasted
      cases hd : path.dropWhile (· ≠ '/') with
      | nil => exact dot (by rw [← pasted, hd]; rfl)
      | cons c rest =>
        obtain rfl := dropWhile_slash_eq hd
        exact dotted rest (by rw [← pasted, hd]; rfl)

/-- The first component is told by the first piece. -/
theorem components_cons {path : List Char} (h : path ≠ []) :
    components path = .ofPiece (path.takeWhile (· ≠ '/')) :: components (tail path) := by
  rw [components_eq h, tail, components_trimLeft]

theorem components_eq_nil_iff {path : List Char} : components path = [] ↔ path = [] := by
  constructor
  · intro h
    by_cases empty : path = []
    · exact empty
    · rw [components_cons empty] at h
      cases h
  · rintro rfl
    rfl

theorem not_isAbsolute_trimLeft (path : List Char) : isAbsolute (trimLeft path) = false := by
  fun_induction trimLeft path with
  | case1 rest ih => exact ih
  | case2 => rfl
  | case3 rest ih => exact ih
  | case4 path absolute _ _ =>
    rw [Bool.eq_false_iff]
    intro h
    obtain ⟨rest, rfl⟩ := isAbsolute_iff.1 h
    exact absolute rest rfl

theorem trimLeft_suffix (path : List Char) : trimLeft path <:+ path := by
  fun_induction trimLeft path with
  | case1 rest ih => exact ih.trans (List.suffix_cons _ _)
  | case2 => exact List.nil_suffix
  | case3 rest ih => exact ih.trans ((List.suffix_cons _ _).trans (List.suffix_cons _ _))
  | case4 => exact List.suffix_rfl

theorem trimRight_prefix (path : List Char) : trimRight path <+: path := by
  have h := trimLeft_suffix path.reverse
  rw [← List.reverse_prefix, List.reverse_reverse] at h
  exact h

theorem not_isAbsolute_trimRight {path : List Char} (h : isAbsolute path = false) :
    isAbsolute (trimRight path) = false := by
  rw [Bool.eq_false_iff] at h ⊢
  intro absolute
  obtain ⟨rest, hr⟩ := isAbsolute_iff.1 absolute
  obtain ⟨more, hm⟩ := trimRight_prefix path
  exact h (isAbsolute_iff.2 ⟨rest ++ more, by rw [← hm, hr]; rfl⟩)

theorem body_reverse_trimLeft (path : List Char) :
    body (trimLeft path).reverse = body path.reverse := by
  fun_induction trimLeft path with
  | case1 rest ih =>
    rw [ih, List.reverse_cons, body_append_slash, body_nil, List.append_nil]
  | case2 => rfl
  | case3 rest ih =>
    have dotted : ('.' :: '/' :: rest).reverse = rest.reverse ++ ['/', '.'] := by simp
    rw [ih, dotted, body_append_slash]
    exact (List.append_nil _).symm
  | case4 => rfl

theorem body_trimRight (path : List Char) : body (trimRight path) = body path := by
  rw [trimRight, body_reverse_trimLeft, List.reverse_reverse]

/-! ## §4 Joining -/

theorem components_append_slash {base : List Char} (h : base ≠ []) (path : List Char) :
    components (base ++ '/' :: path) = components base ++ body path := by
  have first : (base ++ '/' :: path).takeWhile (· ≠ '/') = base.takeWhile (· ≠ '/') := by
    rw [List.takeWhile_append]
    split
    · next all =>
      rw [(List.takeWhile_prefix _).eq_of_length all]
      simp
    · rfl
  have rest : body ((base ++ '/' :: path).dropWhile (· ≠ '/')) =
      body (base.dropWhile (· ≠ '/')) ++ body path := by
    rw [List.dropWhile_append]
    split
    · next none =>
      rw [List.isEmpty_iff.1 none]
      simp
    · exact body_append_slash _ _
  rw [components_eq (List.append_ne_nil_of_left_ne_nil h _), components_eq h, first, rest,
    List.cons_append]

/-- A relative path, joined to a directory, names what it names from there. -/
theorem components_join {base path : List Char} (h : base ≠ [])
    (relative : isAbsolute path = false) :
    components (join base path) = components base ++ body path := by
  rw [join, if_neg (Bool.eq_false_iff.1 relative)]
  split
  · next none => exact absurd (List.getLast?_eq_none_iff.1 none) h
  · next slash =>
    obtain ⟨before, rfl⟩ := List.getLast?_eq_some_iff.1 slash
    rw [List.append_assoc, List.singleton_append]
    cases before with
    | nil => exact components_slash path
    | cons c before =>
      rw [components_append_slash (List.cons_ne_nil _ _), components_append_slash
        (List.cons_ne_nil _ _), body_nil, List.append_nil]
  · exact components_append_slash h path

/-! ## §5 Below -/

/-- Matching goes along the pieces of the directory. -/
theorem components_of_after? {base path rest : List Char}
    (h : after? (components base) path = some rest) :
    components path = components base ++ components rest := by
  -- by induction on the components; the directory that they belong to becomes its tail
  generalize hc : components base = cs at h
  induction cs generalizing base path with
  | nil =>
    cases h
    rfl
  | cons component more ih =>
    have full : base ≠ [] := by
      rintro rfl
      cases hc
    rw [components_cons full] at hc
    obtain ⟨rfl, rfl⟩ := List.cons.inj hc
    rw [after?, Component.text_ofPiece] at h
    split at h
    · next same =>
      rw [components_cons same.1, same.2, ih rfl h, List.cons_append]
    · cases h

theorem after?_isSome {base path : List Char} {more : List Component}
    (h : components path = components base ++ more) :
    (after? (components base) path).isSome = true := by
  generalize hc : components base = cs at h ⊢
  induction cs generalizing base path with
  | nil => rfl
  | cons component others ih =>
    have full : base ≠ [] := by
      rintro rfl
      cases hc
    have there : path ≠ [] := by
      rintro rfl
      cases h
    rw [components_cons full] at hc
    obtain ⟨rfl, rfl⟩ := List.cons.inj hc
    rw [components_cons there, List.cons_append] at h
    obtain ⟨first, rest⟩ := List.cons.inj h
    have same : path.takeWhile (· ≠ '/') = base.takeWhile (· ≠ '/') := by
      rw [← Component.text_ofPiece (path.takeWhile _), first, Component.text_ofPiece]
    rw [after?, Component.text_ofPiece, if_pos ⟨there, same⟩]
    exact ih rfl rest

theorem not_isAbsolute_of_after? {components : List Component} (h : components ≠ [])
    {path rest : List Char} (found : after? components path = some rest) :
    isAbsolute rest = false ∧ Path.components rest = body rest := by
  induction components generalizing path with
  | nil => exact absurd rfl h
  | cons component more ih =>
    rw [after?] at found
    split at found
    · by_cases last : more = []
      · subst last
        cases found
        exact ⟨not_isAbsolute_trimLeft _,
          (components_trimLeft _).trans (body_trimLeft _).symm⟩
      · exact ih last found
    · cases found

/-- What remains of a path below a directory is a relative path to the same thing. -/
theorem components_of_below? {base path rest : List Char} (h : base ≠ [])
    (found : below? base path = some rest) :
    isAbsolute rest = false ∧ components path = components base ++ body rest := by
  obtain ⟨whole, hw, rfl⟩ := Option.map_eq_some_iff.1 found
  obtain ⟨relative, same⟩ := not_isAbsolute_of_after? (mt components_eq_nil_iff.1 h) hw
  refine ⟨not_isAbsolute_trimRight relative, ?_⟩
  rw [components_of_after? hw, body_trimRight, same]

theorem below?_isSome {base path : List Char} {more : List Component}
    (h : components path = components base ++ more) : (below? base path).isSome = true := by
  rw [below?, Option.isSome_map]
  exact after?_isSome h

/-! ## §6 Weight -/

section Counting

variable {p : Char → Bool}

/-- How many characters of a kind there are in the texts of components. -/
def total (p : Char → Bool) (components : List Component) : Nat :=
  (components.map fun component => component.text.countP p).sum

theorem total_append (p : Char → Bool) (xs ys : List Component) :
    total p (xs ++ ys) = total p xs + total p ys := by
  rw [total, List.map_append, List.sum_append_nat, total, total]

theorem count_split (slash : p '/' = false) (cs : List Char) :
    ((split '/' cs).map (List.countP p)).sum = cs.countP p := by
  induction cs with
  | nil => rfl
  | cons c cs ih =>
    by_cases separator : c = '/'
    · rw [separator, split_separator, List.countP_cons_of_neg (by simp [slash]), ← ih,
        List.map_cons, List.sum_cons, List.countP_nil, Nat.zero_add]
    · obtain ⟨piece, pieces, hp, hc⟩ := split_cons_of_ne separator cs
      rw [hc, List.countP_cons, ← ih, hp, List.map_cons, List.map_cons, List.sum_cons,
        List.sum_cons, List.countP_cons]
      omega

theorem total_steps (dot : p '.' = false) (pieces : List (List Char)) :
    total p (steps pieces) = (pieces.map (List.countP p)).sum := by
  induction pieces with
  | nil => rfl
  | cons piece pieces ih =>
    by_cases idle : piece = [] ∨ piece = ['.']
    · have none : piece.countP p = 0 := by rcases idle with rfl | rfl <;> simp [dot]
      rw [steps_skip idle, ih, List.map_cons, List.sum_cons, none, Nat.zero_add]
    · rw [not_or] at idle
      rw [steps_cons idle.1 idle.2, total, List.map_cons, List.sum_cons, ← total, ih,
        Component.text_ofPiece, List.map_cons, List.sum_cons]

theorem total_body (slash : p '/' = false) (dot : p '.' = false) (path : List Char) :
    total p (body path) = path.countP p := by
  rw [body, total_steps dot, count_split slash]

/-- Characters of a kind that neither slashes nor dots are of are as many in a path as in its
components. -/
theorem total_components (slash : p '/' = false) (dot : p '.' = false) (path : List Char) :
    total p (components path) = path.countP p := by
  by_cases empty : path = []
  · rw [empty]
    rfl
  · rw [components_eq empty, total, List.map_cons, List.sum_cons, ← total,
      total_body slash dot, Component.text_ofPiece, ← List.countP_append,
      List.takeWhile_append_dropWhile]

/-- Besides slashes and dots, a path has no other characters than another one with the same
components. -/
theorem all_of_components (slash : p '/' = true) (dot : p '.' = true) {a b : List Char}
    (same : components a = components b) (all : ∀ c ∈ a, p c = true) : ∀ c ∈ b, p c = true := by
  have none : a.countP (!p ·) = 0 := by simpa [List.countP_eq_zero] using all
  rw [← total_components (by simp [slash]) (by simp [dot]), same,
    total_components (by simp [slash]) (by simp [dot])] at none
  simpa [List.countP_eq_zero] using none

end Counting

/-- How many characters there are besides slashes and dots. -/
def weight (cs : List Char) : Nat := cs.countP fun c => c ≠ '/' ∧ c ≠ '.'

@[simp] theorem weight_nil : weight [] = 0 := rfl

theorem weight_cons (c : Char) (cs : List Char) : weight (c :: cs) = weight [c] + weight cs := by
  rw [weight, weight, weight, List.countP_cons, List.countP_singleton, Nat.add_comm]

theorem weight_append (xs ys : List Char) : weight (xs ++ ys) = weight xs + weight ys :=
  List.countP_append

theorem weight_eq_of_components {a b : List Char} (h : components a = components b) :
    weight a = weight b := by
  rw [weight, ← total_components rfl rfl, h, total_components rfl rfl, weight]

/-- A path below a directory weighs as much as the directory and what is after it. -/
theorem weight_of_below {base path rest : List Char}
    (h : components path = components base ++ body rest) :
    weight path = weight base + weight rest := by
  rw [weight, ← total_components rfl rfl, h, total_append, total_components rfl rfl,
    total_body rfl rfl, weight, weight]

theorem weight_join_le (base path : List Char) :
    weight (join base path) ≤ weight base + weight path := by
  have slash : weight ('/' :: path) = weight path := (weight_cons ..).trans (Nat.zero_add _)
  rw [join]
  split
  · exact Nat.le_add_left _ _
  · split
    · exact Nat.le_add_left _ _
    · exact Nat.le_of_eq (weight_append _ _)
    · exact Nat.le_of_eq (by rw [weight_append, slash])

end Path

end Coordination.Text
