/-
Coordination.Number.Binary64 — finite double-precision numbers, exactly.

Every finite double is a whole number of units of 2^-1074, the least
positive one. A magnitude is therefore a natural number of units, and
comparing, multiplying and dividing are exact arithmetic on `Nat`
followed by one rounding to 53 significant bits, a half to the even
neighbour. Nothing here uses the machine's floating-point operations,
so every definition computes in proofs as well.

  §1 Rounding    — `roundHalfEven`, `spacing`, `nearest`.
  §2 Values      — `Binary64`, its order, the doubles nearest to integers.
  §3 Scaling     — `ofDecimal`, the double read from a decimal literal.
-/
namespace Coordination

/-! ## §1 Rounding -/

/-- The quotient rounded to the nearest whole number, a half to the even neighbour. -/
def roundHalfEven (num den : Nat) : Nat :=
  let low := num / den
  let twice := 2 * (num % den)
  if twice < den then low
  else if den < twice then low + 1
  else if low % 2 = 0 then low
  else low + 1

/-- The distance between neighbouring doubles at magnitude `n`, in the unit in which `n` is
counted: one as long as `n` has at most 53 binary digits, then doubling with each further digit. -/
def spacing (n : Nat) : Nat := Nat.pow 2 (n.log2 - 52)

/-- The quotient rounded to 53 significant bits. -/
def nearest (num den : Nat) : Nat :=
  let step := spacing (num / den)
  roundHalfEven num (den * step) * step

/-! ## §2 Values -/

/-- A finite double: a sign, which zero has too, and a magnitude in units of 2^-1074. -/
structure Binary64 where
  negative : Bool
  units : Nat
  deriving DecidableEq, Repr

namespace Binary64

/-- The number of units in one. -/
def one : Nat := Nat.pow 2 1074

/-- Magnitudes from here on are not finite: 2^1024 in units. -/
def bound : Nat := Nat.pow 2 2098

/-- The number of units, with its sign. Both zeros have the same value. -/
def value (x : Binary64) : Int := if x.negative then -(x.units : Int) else x.units

instance : LT Binary64 := ⟨fun a b => a.value < b.value⟩
instance : LE Binary64 := ⟨fun a b => a.value ≤ b.value⟩
instance (a b : Binary64) : Decidable (a < b) := inferInstanceAs (Decidable (a.value < b.value))
instance (a b : Binary64) : Decidable (a ≤ b) := inferInstanceAs (Decidable (a.value ≤ b.value))

def zero : Binary64 := ⟨false, 0⟩

/-- The double nearest to a natural number below 2^1024. -/
def ofNat (n : Nat) : Binary64 := ⟨false, nearest n 1 * one⟩

/-- The double nearest to an integer below 2^1024 in magnitude. -/
def ofInt (n : Int) : Binary64 := ⟨decide (n < 0), nearest n.natAbs 1 * one⟩

/-! ## §3 Scaling -/

/-- The power of ten rounded to a double, in units. -/
def powerOfTen (e : Nat) : Nat := nearest (Nat.pow 10 e * one) 1

/-- A magnitude divided by a power of ten. Exponents beyond the largest finite power are taken in
steps of 308 places, each rounded, until nothing is left. -/
def divideByPower (units e : Nat) : Nat :=
  if e ≤ 308 then nearest (units * one) (powerOfTen e)
  else if units = 0 then 0
  else divideByPower (nearest (units * one) (powerOfTen 308)) (e - 308)
termination_by e
decreasing_by omega

/-- The double read from a decimal literal: the significand is rounded to a double and then
multiplied or divided once by the rounded power of ten. `none` if the result is not finite. -/
def ofDecimal (negative : Bool) (significand : Nat) (exponent : Int) : Option Binary64 :=
  let units := nearest significand 1 * one
  match exponent with
  | .ofNat e =>
    if units = 0 then some ⟨negative, 0⟩
    else if 308 < e then none
    else
      let scaled := nearest (units * powerOfTen e) one
      if scaled < bound then some ⟨negative, scaled⟩ else none
  | .negSucc e => some ⟨negative, divideByPower units (e + 1)⟩

end Binary64

end Coordination
