/-
Coordination.Uuid — 128-bit identifiers and their texts.

Four spellings are read: 32 hexadecimal digits; the same in groups of
8, 4, 4, 4 and 12 with hyphens; the grouped form in braces; and the
grouped form after `urn:uuid:`. Digits and the urn mark may be in either
case. One spelling is written: grouped, in lowercase.
-/
import Coordination.Text.Numeral

namespace Coordination

open Text (hexDigits hexDigits?)

/-- A 128-bit identifier. -/
structure Uuid where
  value : Fin (Nat.pow 2 128)
  deriving DecidableEq, Repr

namespace Uuid

/-- The identifier with the given number, taken modulo 2^128. -/
def ofNat (n : Nat) : Uuid := ⟨Fin.ofNat (Nat.pow 2 128) n⟩

/-- The random identifier (version 4) with the bits of a number, apart from the six bits that mark
it as such. -/
def ofRandom (n : Nat) : Uuid :=
  let low := n % Nat.pow 2 62 + Nat.pow 2 63
  let middle := n / Nat.pow 2 64 % Nat.pow 2 12 + Nat.pow 2 14
  let high := n / Nat.pow 2 80 % Nat.pow 2 48
  ofNat (high * Nat.pow 2 80 + middle * Nat.pow 2 64 + low)

def toNat (u : Uuid) : Nat := u.value.val

/-- Cuts a list into pieces of the given lengths; the last piece is what remains. -/
def groups : List Nat → List Char → List (List Char)
  | [], cs => [cs]
  | n :: ns, cs => cs.take n :: groups ns (cs.drop n)

/-- The digits in groups with hyphens between them. -/
def grouped (digits : List Char) : List Char :=
  List.intercalate ['-'] (groups [8, 4, 4, 4] digits)

def toChars (u : Uuid) : List Char := grouped (hexDigits 32 u.toNat)

protected def toString (u : Uuid) : String := String.ofList u.toChars

instance : ToString Uuid := ⟨Uuid.toString⟩

/-- Reads exactly 32 hexadecimal digits. -/
def ofDigits? (cs : List Char) : Option Uuid :=
  if cs.length = 32 then (hexDigits? 0 cs).map ofNat else none

/-- Reads 36 characters: digits with hyphens at places 8, 13, 18 and 23 and nowhere else. -/
def ofGrouped? (cs : List Char) : Option Uuid :=
  let digits := cs.filter (· ≠ '-')
  if cs = grouped digits then ofDigits? digits else none

/-- Whether a text starts with the urn mark, in any case, and what follows it. -/
def afterMark? (cs : List Char) : Option (List Char) :=
  let mark := "urn:uuid:".toList
  if (cs.take mark.length).map Char.toLower = mark then some (cs.drop mark.length) else none

/-- Reads any of the four spellings. -/
def ofChars? (cs : List Char) : Option Uuid :=
  if cs.length = 32 then ofDigits? cs
  else match cs with
    | '\x7b' :: rest =>
      if rest.getLast? = some '\x7d' then ofGrouped? rest.dropLast else none
    | _ => match afterMark? cs with
      | some rest => ofGrouped? rest
      | none => ofGrouped? cs

def ofString? (s : String) : Option Uuid := ofChars? s.toList

end Uuid

end Coordination
