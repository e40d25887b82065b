/-
Coordination.Number.Shortest — decimal texts of doubles.

The text of a double has the fewest significant digits that still read
back as that double; among those the decimal nearest to its value is
taken. `Decimal.shortest` finds it by exact arithmetic: the values that
round to a double form an interval, and for one, two, … seventeen
digits the two decimals on either side of the value are tried. Where the
value lies halfway between the two, the text decides which one is taken.

  §1 The interval  — the values that round to a given double.
  §2 The search    — `Decimal.shortest`.
  §3 Two texts     — `Binary64.plain` without an exponent, and
                     `Binary64.compact` with one for large and small values.
-/
import Coordination.Number.Binary64

namespace Coordination

/-- A positive decimal number: `digits · 10 ^ exponent`. -/
structure Decimal where
  digits : Nat
  exponent : Int
  deriving DecidableEq, Repr

namespace Decimal

/-! ## §1 The interval -/

/-- The values that round to a magnitude, counted in quarters of a unit. -/
structure Interval where
  low : Nat
  high : Nat
  /-- Whether the two ends round to the magnitude too: they do iff its last bit is even. -/
  closed : Bool

/-- Half the distance to each neighbour, except that the lower neighbour of a power of two is
nearer. -/
def Interval.around (units : Nat) : Interval :=
  let step := spacing units
  let below := if 2 ≤ step ∧ units = Nat.pow 2 units.log2 then step else 2 * step
  { low := 4 * units - below
    high := 4 * units + 2 * step
    closed := units / step % 2 = 0 }

/-- Whether `num / den` quarters of a unit lie in the interval. -/
def Interval.contains (i : Interval) (num den : Nat) : Bool :=
  if i.closed then i.low * den ≤ num && num ≤ i.high * den
  else i.low * den < num && num < i.high * den

/-! ## §2 The search -/

/-- The number of decimal digits of `n`, one for zero. -/
def width (n : Nat) : Nat := (Nat.toDigits 10 n).length

/-- For `0 < num < den`, the number of places by which the point has to move right for the
quotient to reach one. Places up to `tries + place` are tried. -/
def leadingZeros (num den : Nat) : Nat → Nat → Nat
  | 0, place => place
  | tries + 1, place =>
    if den ≤ num * Nat.pow 10 place then place else leadingZeros num den tries (place + 1)

/-- The power of ten of the first significant digit. -/
def firstPlace (units : Nat) : Int :=
  if Binary64.one ≤ units then (width (units / Binary64.one) : Int) - 1
  else -(leadingZeros units Binary64.one 400 1 : Int)

/-- What becomes of a value that lies halfway between two decimals. -/
inductive Tie where
  /-- The decimal with an even last digit is taken. -/
  | even
  /-- The greater decimal is taken. -/
  | up
  deriving DecidableEq, Repr

/-- The whole number nearest to a quotient. -/
def Tie.round (num den : Nat) : Tie → Nat
  | even => roundHalfEven num den
  | up => (2 * num + den) / (2 * den)

/-- The decimal `digits · 10 ^ place` next to the value, the nearer one if both are in the
interval; `none` if neither is. -/
def onGrid (tie : Tie) (units : Nat) (interval : Interval) (place : Int) : Option Nat :=
  let up := Nat.pow 10 place.toNat
  let down := Nat.pow 10 (-place).toNat
  let num := units * down
  let den := Binary64.one * up
  let low := num / den
  let hit := fun digits => interval.contains (4 * digits * den) down
  match hit low, hit (low + 1) with
  | false, false => none
  | true, false => some low
  | false, true => some (low + 1)
  | true, true => some (tie.round num den)

/-- Moves trailing zeros of the digits into the exponent. -/
def trim (d : Decimal) : Nat → Decimal
  | 0 => d
  | fuel + 1 =>
    if d.digits ≠ 0 ∧ d.digits % 10 = 0 then trim ⟨d.digits / 10, d.exponent + 1⟩ fuel else d

/-- Tries `count` digits, then one more, up to seventeen. -/
def search (tie : Tie) (units : Nat) (interval : Interval) (first : Int) : Nat → Nat → Decimal
  | 0, count => ⟨units, first - count⟩
  | tries + 1, count =>
    let place := first - (count : Int) + 1
    match onGrid tie units interval place with
    | some digits => trim ⟨digits, place⟩ 20
    | none => search tie units interval first tries (count + 1)

/-- The shortest decimal that reads back as the positive magnitude `units`. Seventeen digits
always suffice. -/
def shortest (tie : Tie) (units : Nat) : Decimal :=
  search tie units (Interval.around units) (firstPlace units) 17 1

end Decimal

/-! ## §3 Two texts -/

namespace Binary64

def zeros (n : Nat) : List Char := List.replicate n '0'

def sign (x : Binary64) : List Char := if x.negative then ['-'] else []

/-- Digits with the point after the first `point` of them, padded with zeros on either side. -/
def positional (digits : List Char) (point : Int) : List Char :=
  let size : Int := digits.length
  if size ≤ point then digits ++ zeros (point - size).toNat
  else if 0 < point then digits.take point.toNat ++ '.' :: digits.drop point.toNat
  else '0' :: '.' :: zeros (-point).toNat ++ digits

/-- The text without an exponent: no point on whole numbers, and a sign also on a negative
zero. Halves go up. -/
def plain (x : Binary64) : String :=
  if x.units = 0 then String.ofList (x.sign ++ ['0'])
  else
    let d := Decimal.shortest .up x.units
    let digits := Nat.toDigits 10 d.digits
    String.ofList (x.sign ++ positional digits (digits.length + d.exponent))

/-- An exponent with its sign. -/
def exponentText (e : Int) : List Char := (if 0 ≤ e then ['+'] else []) ++ (toString e).toList

/-- The text with a point or an exponent always: positional when the point falls within the first
sixteen places or at most four places before the first digit, scientific otherwise. Halves go to
the even digit. -/
def compact (x : Binary64) : String :=
  if x.units = 0 then String.ofList (x.sign ++ ['0', '.', '0'])
  else
    let d := Decimal.shortest .even x.units
    let digits := Nat.toDigits 10 d.digits
    let point : Int := digits.length + d.exponent
    let body :=
      if 0 ≤ d.exponent ∧ point ≤ 16 then positional digits point ++ ['.', '0']
      else if -5 < point ∧ point ≤ 16 then positional digits point
      else
        let fraction := match digits.drop 1 with
          | [] => []
          | rest => '.' :: rest
        digits.take 1 ++ fraction ++ 'e' :: exponentText (point - 1)
    String.ofList (x.sign ++ body)

end Binary64

end Coordination
