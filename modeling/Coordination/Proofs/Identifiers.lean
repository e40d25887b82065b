/-
Coordination.Proofs.Identifiers — every identifier is read back from its text.

Four spellings of an identifier are read and one is written, in groups and
in lowercase. It is 36 characters long, so it is not taken for the spelling
without hyphens; it starts with a digit, so neither for the one in braces
nor for the one after the urn mark; and without its hyphens it is the 32
digits that were grouped.

  §1 Digits  — `hexDigits?_hexDigits`.
  §2 Groups  — hyphens go in and come out again.
  §3 Texts   — `Uuid.ofString?_toString`, `Ident.ofJson?_toJson`.
-/
import Coordination.Json.Basic
import Mathlib.Algebra.Group.Nat.Defs

namespace Coordination

/-! ## §1 Digits -/

namespace Text

theorem hexDigit?_hexDigit {n : Nat} (h : n < 16) : hexDigit? (hexDigit n) = some n := by
  have all : ∀ d : Fin 16, hexDigit? (hexDigit d.val) = some d.val := by decide
  exact all ⟨n, h⟩

@[simp] theorem length_hexDigits (count n : Nat) : (hexDigits count n).length = count := by
  induction count generalizing n with
  | zero => rfl
  | succ count ih => simp [hexDigits, ih]

theorem exists_hexDigit_of_mem {count n : Nat} {c : Char} (h : c ∈ hexDigits count n) :
    ∃ d : Fin 16, c = hexDigit d.val := by
  induction count generalizing n with
  | zero => cases h
  | succ count ih =>
    rcases List.mem_append.1 h with before | last
    · exact ih before
    · exact ⟨⟨n % 16, Nat.mod_lt n (by decide)⟩, List.mem_singleton.1 last⟩

theorem exists_hexDigits_eq_cons (count n : Nat) :
    ∃ (d : Fin 16) (rest : List Char), hexDigits (count + 1) n = hexDigit d.val :: rest := by
  obtain ⟨c, rest, h⟩ := List.exists_cons_of_length_eq_add_one (length_hexDigits (count + 1) n)
  obtain ⟨d, rfl⟩ := exists_hexDigit_of_mem (h ▸ List.mem_cons_self : c ∈ hexDigits (count + 1) n)
  exact ⟨d, rest, h⟩

theorem hexDigits?_append (acc : Nat) (xs ys : List Char) :
    hexDigits? acc (xs ++ ys) = (hexDigits? acc xs).bind fun n => hexDigits? n ys := by
  induction xs generalizing acc with
  | nil => rfl
  | cons c xs ih =>
    simp only [List.cons_append, hexDigits?]
    cases hexDigit? c with
    | none => rfl
    | some d => exact ih _

/-- Digits are read onto whatever was read before. -/
theorem hexDigits?_hexDigits (acc count n : Nat) :
    hexDigits? acc (hexDigits count n) = some (acc * 16 ^ count + n % 16 ^ count) := by
  induction count generalizing n with
  | zero => simp [hexDigits, hexDigits?, Nat.mod_one]
  | succ count ih =>
    have last : hexDigit? (hexDigit (n % 16)) = some (n % 16) :=
      hexDigit?_hexDigit (Nat.mod_lt n (by decide))
    have split : n % 16 ^ (count + 1) = n % 16 + 16 * (n / 16 % 16 ^ count) := by
      rw [Nat.pow_succ', Nat.mod_mul]
    rw [hexDigits, hexDigits?_append, ih, Option.bind_some]
    simp only [hexDigits?, last]
    rw [split, Nat.pow_succ']
    congr 1
    rw [Nat.mul_add, Nat.mul_left_comm]
    omega

end Text

namespace Uuid

open Text

/-! ## §2 Groups -/

theorem flatten_groups (sizes : List Nat) (cs : List Char) : (groups sizes cs).flatten = cs := by
  induction sizes generalizing cs with
  | nil => simp [groups]
  | cons n sizes ih => simp [groups, ih]

/-- Leaving out the hyphens leaves the digits. -/
theorem filter_grouped {digits : List Char} (h : '-' ∉ digits) :
    (grouped digits).filter (· ≠ '-') = digits := by
  have pieces (gs : List (List Char)) :
      (List.intercalate ['-'] gs).filter (· ≠ '-') = gs.flatten.filter (· ≠ '-') := by
    induction gs with
    | nil => rfl
    | cons g gs ih =>
      cases gs with
      | nil => simp [List.intercalate]
      | cons g' gs =>
        simp only [List.intercalate_cons_cons, List.filter_append, ih, List.flatten_cons]
        simp
  rw [grouped, pieces, flatten_groups, List.filter_eq_self]
  intro c hc
  exact decide_eq_true fun hyphen => h (hyphen ▸ hc)

theorem length_grouped {digits : List Char} (h : digits.length = 32) :
    (grouped digits).length = 36 := by
  simp [grouped, groups, List.intercalate, h]

theorem ofGrouped?_grouped {digits : List Char} (h : '-' ∉ digits) :
    ofGrouped? (grouped digits) = ofDigits? digits := by
  unfold ofGrouped?
  rw [filter_grouped h]
  exact if_pos rfl

/-! ## §3 Texts -/

/-- Neither the hyphen nor the first character of the urn mark or of a text in braces is a digit. -/
theorem hexDigit_apart : ∀ d : Fin 16,
    hexDigit d.val ≠ '-' ∧ hexDigit d.val ≠ '\x7b' ∧ (hexDigit d.val).toLower ≠ 'u' := by
  decide

theorem hyphen_not_mem_hexDigits (count n : Nat) : '-' ∉ hexDigits count n := by
  intro h
  obtain ⟨d, hd⟩ := exists_hexDigit_of_mem h
  exact (hexDigit_apart d).1 hd.symm

theorem ofChars?_of_head {c : Char} {rest : List Char} (long : (c :: rest).length ≠ 32)
    (brace : c ≠ '\x7b') (mark : c.toLower ≠ 'u') :
    ofChars? (c :: rest) = ofGrouped? (c :: rest) := by
  have unmarked : afterMark? (c :: rest) = none := if_neg fun h => mark (List.cons.inj h).1
  rw [ofChars?, if_neg long]
  · rw [unmarked]
  · intro rest' h
    exact brace (List.cons.inj h).1

/-- Two hexadecimal digits for each of the sixteen bytes are enough. -/
theorem ofDigits?_hexDigits (u : Uuid) : ofDigits? (hexDigits 32 u.toNat) = some u := by
  have range : Nat.pow 2 128 = 16 ^ 32 := by decide
  have below : u.toNat < Nat.pow 2 128 := u.value.isLt
  have same : ofNat u.toNat = u := congrArg Uuid.mk (Fin.ext (Nat.mod_eq_of_lt below))
  rw [range] at below
  rw [ofDigits?, if_pos (length_hexDigits 32 u.toNat), hexDigits?_hexDigits, Nat.zero_mul,
    Nat.zero_add, Nat.mod_eq_of_lt below, Option.map_some, same]

theorem grouped_cons (c : Char) (rest : List Char) :
    ∃ tail, grouped (c :: rest) = c :: tail := ⟨_, rfl⟩

/-- The digits, grouped, are not taken for a spelling with something before the first group. -/
theorem ofChars?_grouped (n : Nat) :
    ofChars? (grouped (hexDigits 32 n)) = ofGrouped? (grouped (hexDigits 32 n)) := by
  have long := length_grouped (length_hexDigits 32 n)
  obtain ⟨d, rest, hd⟩ := exists_hexDigits_eq_cons 31 n
  obtain ⟨tail, ht⟩ := grouped_cons (hexDigit d.val) rest
  rw [hd, ht] at long ⊢
  exact ofChars?_of_head (by rw [long]; decide) (hexDigit_apart d).2.1 (hexDigit_apart d).2.2

theorem ofChars?_toChars (u : Uuid) : ofChars? u.toChars = some u := by
  rw [toChars, ofChars?_grouped, ofGrouped?_grouped (hyphen_not_mem_hexDigits 32 _),
    ofDigits?_hexDigits]

theorem ofString?_toString (u : Uuid) : ofString? u.toString = some u := by
  rw [ofString?, Uuid.toString, String.toList_ofList, ofChars?_toChars]

end Uuid

namespace Ident

variable {kind : EntityKind}

theorem ofString?_toString (id : Ident kind) : ofString? id.toString = some id := by
  rw [ofString?, Ident.toString, Uuid.ofString?_toString]
  rfl

@[simp] theorem ofJson?_toJson (id : Ident kind) : ofJson? id.toJson = some id := by
  rw [ofJson?, toJson, Json.string?, Option.bind_some, ofString?_toString]

end Ident

end Coordination
