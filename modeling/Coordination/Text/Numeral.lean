/-
Coordination.Text.Numeral — decimal numerals.

A numeral is ASCII digits after an optional plus sign, leading zeros
allowed, and must lie below a limit. Nothing else is read: no white
space, no minus sign, no separators, no other scripts' digits.
-/
namespace Coordination.Text

/-- The value of an ASCII digit. -/
def digit? (c : Char) : Option Nat :=
  if '0' ≤ c ∧ c ≤ '9' then some (c.toNat - 48) else none

/-- Reads digits onto the value read so far. -/
def digits? (acc : Nat) : List Char → Option Nat
  | [] => some acc
  | c :: rest => match digit? c with
    | some d => digits? (10 * acc + d) rest
    | none => none

/-- A numeral below `limit`. -/
def numeral? (limit : Nat) (cs : List Char) : Option Nat :=
  let body := match cs with
    | '+' :: rest => rest
    | _ => cs
  match body with
  | [] => none
  | _ => match digits? 0 body with
    | some n => if n < limit then some n else none
    | none => none

/-- The value of a hexadecimal digit, in either case. -/
def hexDigit? (c : Char) : Option Nat :=
  if '0' ≤ c ∧ c ≤ '9' then some (c.toNat - 48)
  else if 'a' ≤ c ∧ c ≤ 'f' then some (c.toNat - 87)
  else if 'A' ≤ c ∧ c ≤ 'F' then some (c.toNat - 55)
  else none

/-- Reads hexadecimal digits onto the value read so far. -/
def hexDigits? (acc : Nat) : List Char → Option Nat
  | [] => some acc
  | c :: rest => match hexDigit? c with
    | some d => hexDigits? (16 * acc + d) rest
    | none => none

/-- The lowercase hexadecimal digit of a value below sixteen. -/
def hexDigit (n : Nat) : Char :=
  if n < 10 then Char.ofNat (48 + n) else Char.ofNat (87 + n)

/-- The last `count` hexadecimal digits of a number, most significant first. -/
def hexDigits : Nat → Nat → List Char
  | 0, _ => []
  | count + 1, n => hexDigits count (n / 16) ++ [hexDigit (n % 16)]

end Coordination.Text
