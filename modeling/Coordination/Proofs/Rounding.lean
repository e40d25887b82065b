/-
Coordination.Proofs.Rounding — which whole numbers round to at most which.

A whole number is compared with a double after it was rounded to one. What
is compared then is not the number but the doubles next to it, so a number
passes for being at most a double also if it exceeds it by less than half
the distance to the next double. The greatest number that passes is the
`reach` of the double. Up to 53 binary digits it is the number itself, so
there the comparison is exact.

  §1 Quotients  — a rounded quotient is at most a number iff the quotient
                  is, up to one half.
  §2 Doubles    — the double nearest to a number, and the distance to the
                  next one.
  §3 Reach      — `nearest_le_nearest_iff`.
-/
import Coordination.Number.Binary64
import Mathlib.Tactic.Ring

namespace Coordination

/-! ## §1 Quotients -/

/-- A quotient is rounded to at most `k` if it lies at most one half above, and less than one half
if `k` is odd. -/
theorem roundHalfEven_le_iff {num den : Nat} (pos : 0 < den) (k : Nat) :
    roundHalfEven num den ≤ k ↔ 2 * num + k % 2 ≤ (2 * k + 1) * den := by
  have split : den * (num / den) + num % den = num := Nat.div_add_mod num den
  have rest : num % den < den := Nat.mod_lt num pos
  have whole : (2 * k + 1) * den = 2 * (den * k) + den := by ring
  have size : num / den ≤ roundHalfEven num den ∧ roundHalfEven num den ≤ num / den + 1 := by
    simp only [roundHalfEven]
    split_ifs <;> omega
  obtain below | same | above := Nat.lt_trichotomy k (num / den)
  · have room : den * (k + 1) ≤ den * (num / den) := Nat.mul_le_mul_left den below
    rw [Nat.mul_succ] at room
    omega
  · subst same
    simp only [roundHalfEven]
    split_ifs <;> omega
  · have room : den * (num / den + 1) ≤ den * k := Nat.mul_le_mul_left den above
    rw [Nat.mul_succ] at room
    omega

/-! ## §2 Doubles -/

theorem spacing_pos (n : Nat) : 0 < spacing n := Nat.two_pow_pos _

/-- The distance between doubles divides every power of two from the number's own on. -/
theorem spacing_dvd_two_pow {n e : Nat} (h : n.log2 ≤ e) : spacing n ∣ 2 ^ e :=
  Nat.pow_dvd_pow 2 (Nat.le_trans (Nat.sub_le _ _) h)

theorem spacing_eq_one {n : Nat} (h : n < 2 ^ 53) : spacing n = 1 := by
  have digits : n.log2 ≤ 52 := by
    rcases Nat.eq_zero_or_pos n with rfl | pos
    · simp
    · exact Nat.le_of_lt_succ ((Nat.log2_lt pos.ne').2 h)
  rw [spacing, Nat.sub_eq_zero_of_le digits]

/-- A number is rounded to a multiple of its distance. -/
theorem spacing_dvd_nearest (n : Nat) : spacing n ∣ nearest n 1 := by
  rw [nearest, Nat.div_one]
  exact Nat.dvd_mul_left _ _

/-- A number is rounded to at most a multiple of its distance iff it lies at most half the distance
above. -/
theorem nearest_le_mul_iff (n k : Nat) :
    nearest n 1 ≤ k * spacing n ↔ 2 * n + k % 2 ≤ (2 * k + 1) * spacing n := by
  rw [nearest, Nat.div_one, Nat.one_mul, Nat.mul_le_mul_right_iff (spacing_pos n),
    roundHalfEven_le_iff (spacing_pos n)]

theorem nearest_of_small {n : Nat} (h : n < 2 ^ 53) : nearest n 1 = n := by
  rw [nearest, Nat.div_one, spacing_eq_one h, Nat.mul_one, Nat.mul_one, roundHalfEven, Nat.mod_one,
    Nat.div_one]
  rfl

/-- Rounding does not pass the next power of two. -/
theorem nearest_le_two_pow {n e : Nat} (h : n < 2 ^ e) (large : n.log2 ≤ e) :
    nearest n 1 ≤ 2 ^ e := by
  obtain ⟨k, hk⟩ := spacing_dvd_two_pow large
  have pos := spacing_pos n
  have whole : (2 * k + 1) * spacing n = 2 * (spacing n * k) + spacing n := by ring
  rw [hk, Nat.mul_comm, nearest_le_mul_iff]
  omega

/-- Rounding does not pass the previous power of two. -/
theorem two_pow_le_nearest {n : Nat} (pos : n ≠ 0) : 2 ^ n.log2 ≤ nearest n 1 := by
  obtain ⟨k, hk⟩ := spacing_dvd_two_pow (Nat.le_refl n.log2)
  obtain ⟨q, hq⟩ := spacing_dvd_nearest n
  have low : 2 ^ n.log2 ≤ n := Nat.log2_self_le pos
  rw [hk, hq]
  refine Nat.mul_le_mul_left _ (Nat.le_of_not_lt fun less => ?_)
  have under : nearest n 1 ≤ q * spacing n := by rw [hq, Nat.mul_comm]
  have room : spacing n * (q + 1) ≤ spacing n * k := Nat.mul_le_mul_left _ less
  have whole : (2 * q + 1) * spacing n = 2 * (spacing n * q) + spacing n := by ring
  have := (nearest_le_mul_iff n q).1 under
  have := spacing_pos n
  rw [Nat.mul_succ] at room
  omega

/-- What was rounded is a double: a multiple of its own distance. -/
theorem spacing_nearest_dvd (n : Nat) : spacing (nearest n 1) ∣ nearest n 1 := by
  by_cases zero : n = 0
  · rw [zero]
    exact Nat.dvd_zero _
  have low := two_pow_le_nearest zero
  have high : nearest n 1 ≤ 2 ^ (n.log2 + 1) :=
    nearest_le_two_pow Nat.lt_log2_self (Nat.le_succ _)
  rcases Nat.lt_or_eq_of_le high with less | next
  · have same : (nearest n 1).log2 = n.log2 :=
      (Nat.log2_eq_iff (Nat.ne_of_gt (Nat.lt_of_lt_of_le (Nat.two_pow_pos _) low))).2 ⟨low, less⟩
    rw [spacing, same]
    exact spacing_dvd_nearest n
  · rw [next]
    exact spacing_dvd_two_pow (Nat.le_of_eq Nat.log2_two_pow)

/-! ## §3 Reach -/

/-- Which numbers are rounded to at most a double: those up to half the distance to the next one. -/
theorem nearest_le_iff {d : Nat} (double : spacing d ∣ d) (m : Nat) :
    nearest m 1 ≤ d ↔ 2 * m + d / spacing d % 2 ≤ 2 * d + spacing d := by
  obtain ⟨k, hk⟩ := double
  have pos := spacing_pos d
  have factor : d / spacing d = k := Nat.div_eq_of_eq_mul_right pos hk
  rw [factor]
  obtain fewer | same | more := Nat.lt_trichotomy m.log2 d.log2
  · -- All of these are rounded to at most the power of two below `d`.
    have zero : d ≠ 0 := by
      rintro rfl
      simp at fewer
    have low : 2 ^ d.log2 ≤ d := Nat.log2_self_le zero
    have less : m < 2 ^ d.log2 :=
      Nat.lt_of_lt_of_le Nat.lt_log2_self (Nat.pow_le_pow_right Nat.two_pos fewer)
    have below : nearest m 1 ≤ d :=
      Nat.le_trans (nearest_le_two_pow less (Nat.le_of_lt fewer)) low
    exact iff_of_true below (by omega)
  · have equal : spacing m = spacing d := by rw [spacing, spacing, same]
    have whole : (2 * k + 1) * spacing d = 2 * (spacing d * k) + spacing d := by ring
    rw [← hk] at whole
    rw [← whole, ← equal, ← nearest_le_mul_iff, equal, Nat.mul_comm, ← hk]
  · -- All of these are rounded to at least the power of two above `d`.
    have zero : m ≠ 0 := by
      rintro rfl
      simp at more
    have power : 2 ^ (d.log2 + 1) ≤ 2 ^ m.log2 := Nat.pow_le_pow_right Nat.two_pos more
    have large : 2 ^ m.log2 ≤ m := Nat.log2_self_le zero
    have next : d + spacing d ≤ 2 ^ (d.log2 + 1) := by
      obtain ⟨j, hj⟩ := spacing_dvd_two_pow (Nat.le_succ d.log2)
      have less : spacing d * k < spacing d * j := by
        rw [← hk, ← hj]
        exact Nat.lt_log2_self
      have room := Nat.mul_le_mul_left (spacing d) (Nat.lt_of_mul_lt_mul_left less)
      rwa [Nat.mul_succ, ← hk, ← hj] at room
    have above := two_pow_le_nearest zero
    exact iff_of_false (by omega) (by omega)

/-- The greatest number that is rounded to at most the double nearest to `n`. -/
def reach (n : Nat) : Nat :=
  let double := nearest n 1
  double + (spacing double - double / spacing double % 2) / 2

theorem nearest_le_nearest_iff (m n : Nat) : nearest m 1 ≤ nearest n 1 ↔ m ≤ reach n := by
  have pos := spacing_pos (nearest n 1)
  rw [nearest_le_iff (spacing_nearest_dvd n), reach]
  omega

/-- From 2^53 on doubles are two apart, and halfway between two of them the even one is taken. -/
example :
    reach 9007199254740992 = 9007199254740993 ∧ reach 9007199254740994 = 9007199254740994 := by
  decide

/-- A number is within its own reach. -/
theorem le_reach (n : Nat) : n ≤ reach n := (nearest_le_nearest_iff n n).1 (Nat.le_refl _)

theorem reach_of_small {n : Nat} (h : n < 2 ^ 53) : reach n = n := by
  rw [reach, nearest_of_small h, spacing_eq_one h]
  omega

end Coordination
