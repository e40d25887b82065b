/-
Coordination.Proofs.Texts — texts that are read as they were written.

Nothing is trimmed from a text that has no blank at its ends. A number is
written in decimal digits without leading zeros, and every number below the
limit is read from its digits; that other numerals are read too, with
leading zeros or a sign, does not matter to those who write them.

  §1 Trimming  — `trim_eq_self`.
  §2 Numerals  — `numeral?_toString`.
-/
import Coordination.Text.Blank
import Coordination.Text.Numeral
import Mathlib.Data.List.DropRight

namespace Coordination.Text

/-! ## §1 Trimming -/

theorem trimStart_eq_self {cs : List Char} (first : ∀ c ∈ cs.head?, isBlank c = false) :
    trimStart cs = cs := by
  cases cs with
  | nil => rfl
  | cons c cs => exact List.dropWhile_cons_of_neg (Bool.eq_false_iff.1 (first c rfl))

theorem trimEnd_eq_self {cs : List Char} (last : ∀ c ∈ cs.getLast?, isBlank c = false) :
    trimEnd cs = cs := by
  refine List.rdropWhile_eq_self_iff.2 fun filled => ?_
  exact Bool.eq_false_iff.1 (last _ (List.getLast?_eq_some_getLast filled))

/-- Text without a blank at either end is trimmed to itself. -/
theorem trim_eq_self {cs : List Char} (first : ∀ c ∈ cs.head?, isBlank c = false)
    (last : ∀ c ∈ cs.getLast?, isBlank c = false) : trim cs = cs := by
  rw [trim, trimStart_eq_self first, trimEnd_eq_self last]

/-! ## §2 Numerals -/

theorem digit?_of_isDigit {c : Char} (h : c.isDigit = true) :
    digit? c = some (c.toNat - '0'.toNat) := by
  rw [digit?, if_pos]
  · rfl
  · simpa [Char.isDigit, Char.le_def] using h

theorem digits?_of_isDigit {cs : List Char} (h : ∀ c ∈ cs, c.isDigit = true) (acc : Nat) :
    digits? acc cs = some (Nat.ofDigitChars 10 cs acc) := by
  induction cs generalizing acc with
  | nil => rfl
  | cons c cs ih =>
    rw [List.forall_mem_cons] at h
    rw [digits?, digit?_of_isDigit h.1, Nat.ofDigitChars_cons]
    exact ih h.2 _

theorem isDigit_of_mem_toString {n : Nat} {c : Char} (h : c ∈ (toString n).toList) :
    c.isDigit = true :=
  Nat.isDigit_of_mem_toDigits (by decide) (by decide) (Nat.toList_repr ▸ h)

theorem isBlank_of_isDigit {c : Char} (h : c.isDigit = true) : isBlank c = false := by
  simp only [Char.isDigit, Bool.and_eq_true, decide_eq_true_eq] at h
  have low : 48 ≤ c.toNat := UInt32.le_iff_toNat_le.1 h.1
  have high : c.toNat ≤ 57 := UInt32.le_iff_toNat_le.1 h.2
  simp [isBlank]
  omega

/-- A number below the limit is read from its digits. -/
theorem numeral?_toString {limit n : Nat} (h : n < limit) :
    numeral? limit (toString n).toList = some n := by
  have digits : (toString n).toList = Nat.toDigits 10 n := Nat.toList_repr
  obtain ⟨c, rest, hc⟩ := List.exists_cons_of_ne_nil (@Nat.toDigits_ne_nil n 10)
  have read : digits? 0 (c :: rest) = some n := by
    rw [← hc, ← digits, digits?_of_isDigit fun c => isDigit_of_mem_toString, digits,
      Nat.ofDigitChars_ten_toDigits]
  have signless : c ≠ '+' := by
    rintro rfl
    have : ('+' : Char).isDigit = true :=
      isDigit_of_mem_toString (n := n) (by rw [digits, hc]; exact List.mem_cons_self)
    exact absurd this (by decide)
  rw [digits, hc, numeral?]
  · simp only [read, if_pos h]
  · intro rest' h
    exact signless (List.cons.inj h).1
  · exact List.cons_ne_nil _ _

/-- What is read is below the limit. -/
theorem lt_of_numeral? {limit n : Nat} {cs : List Char} (h : numeral? limit cs = some n) :
    n < limit := by
  unfold numeral? at h
  dsimp only at h
  split at h
  · cases h
  · split at h
    · split at h
      · next below =>
        cases h
        exact below
      · cases h
    · cases h

end Coordination.Text
