/-
Coordination.Json.Reader — reading JSON texts.

The reader takes the whole text: one value with white space around it.
Arrays and objects may be nested up to 127 deep. Of two fields with the
same name the later value counts. An integer that fits 64 bits, signed or
unsigned, is kept exactly; any other number is a finite double, and a
number too large for one is refused.

  §1 Numbers  — `number?`.
  §2 Strings  — `quoted?`.
  §3 Values   — `value?` and `parse?`.
-/
import Coordination.Json.Basic
import Coordination.Text.Numeral

namespace Coordination.Json

open Text (digit? hexDigits?)

/-! ## §1 Numbers -/

/-- The digits at the start of a text, and what follows them. -/
def takeDigits : List Char → List Nat × List Char
  | [] => ([], [])
  | c :: rest => match digit? c with
    | some d => let (more, after) := takeDigits rest; (d :: more, after)
    | none => ([], c :: rest)

/-- Appends digits to a significand as long as it fits 64 bits; the rest is left. -/
def accumulate (acc : Nat) : List Nat → Nat × List Nat
  | [] => (acc, [])
  | d :: rest =>
    if 10 * acc + d < natLimit then accumulate (10 * acc + d) rest else (acc, d :: rest)

/-- The value of digits. -/
def valueOf (digits : List Nat) : Nat := digits.foldl (fun acc d => 10 * acc + d) 0

/-- The exponent at the start of a text, zero if there is none; `none` if it has no digits. -/
def exponent? : List Char → Option (Int × Bool × List Char)
  | 'e' :: rest => signed rest
  | 'E' :: rest => signed rest
  | rest => some (0, false, rest)
where
  signed (cs : List Char) : Option (Int × Bool × List Char) :=
    let (negative, body) := match cs with
      | '-' :: rest => (true, rest)
      | '+' :: rest => (false, rest)
      | rest => (false, rest)
    match takeDigits body with
    | ([], _) => none
    | (digits, after) =>
      let size : Int := valueOf digits
      some (if negative then -size else size, true, after)

/-- The fraction at the start of a text; `none` if a point has no digits after it. -/
def fraction? : List Char → Option (List Nat × Bool × List Char)
  | '.' :: rest => match takeDigits rest with
    | ([], _) => none
    | (digits, after) => some (digits, true, after)
  | rest => some ([], false, rest)

/-- An integer without a fraction or an exponent. -/
def integer? (negative : Bool) (n : Nat) : Option Json :=
  if negative then
    if n = 0 ∨ Nat.pow 2 63 < n then (Binary64.ofDecimal true n 0).map float else some (int (-n))
  else some (int n)

/-- The value of a literal in parts. The significand takes digits while it fits 64 bits: whole
digits beyond that only count, fractional digits beyond that are left out. -/
def numberOf? (negative : Bool) (whole fraction : List Nat) (exponent : Int)
    (isInteger : Bool) : Option Json :=
  match accumulate 0 whole with
  | (n, []) =>
    if isInteger then integer? negative n
    else
      let (significand, left) := accumulate n fraction
      let used : Int := fraction.length - left.length
      (Binary64.ofDecimal negative significand (exponent - used)).map float
  | (n, dropped) =>
    let (significand, left) := accumulate n fraction
    let used : Int := fraction.length - left.length
    (Binary64.ofDecimal negative significand (exponent + dropped.length - used)).map float

/-- A number at the start of a text. A leading zero stands alone. -/
def number? (cs : List Char) : Option (Json × List Char) := do
  let (negative, body) := match cs with
    | '-' :: rest => (true, rest)
    | rest => (false, rest)
  let (whole, afterWhole) := takeDigits body
  guard (whole ≠ [] ∧ (whole.head? = some 0 → whole.length = 1))
  let (fraction, hasPoint, afterFraction) ← fraction? afterWhole
  let (exponent, hasExponent, after) ← exponent? afterFraction
  let value ← numberOf? negative whole fraction exponent (!hasPoint && !hasExponent)
  return (value, after)

/-! ## §2 Strings -/

/-- Four hexadecimal digits at the start of a text. -/
def unit? : List Char → Option (Nat × List Char)
  | a :: b :: c :: d :: rest => (hexDigits? 0 [a, b, c, d]).map fun n => (n, rest)
  | _ => none

/-- What follows a backslash. A pair of surrogates is one character; a single one is refused. -/
def escaped? : List Char → Option (Char × List Char)
  | '"' :: rest => some ('"', rest)
  | '\\' :: rest => some ('\\', rest)
  | '/' :: rest => some ('/', rest)
  | 'b' :: rest => some ('\x08', rest)
  | 'f' :: rest => some ('\x0c', rest)
  | 'n' :: rest => some ('\n', rest)
  | 'r' :: rest => some ('\r', rest)
  | 't' :: rest => some ('\t', rest)
  | 'u' :: rest =>
    match unit? rest with
    | none => none
    | some (n, after) =>
      if 0xDC00 ≤ n ∧ n ≤ 0xDFFF then none
      else if 0xD800 ≤ n ∧ n ≤ 0xDBFF then
        match after with
        | '\\' :: 'u' :: more =>
          match unit? more with
          | some (low, final) =>
            if 0xDC00 ≤ low ∧ low ≤ 0xDFFF then
              some (Char.ofNat (0x10000 + (n - 0xD800) * 0x400 + (low - 0xDC00)), final)
            else none
          | none => none
        | _ => none
      else some (Char.ofNat n, after)
  | _ => none

/-- The rest of a string after its opening quote, and what follows it. Control characters must be
escaped. `fuel` bounds the number of characters. -/
def quoted? : Nat → List Char → List Char → Option (String × List Char)
  | 0, _, _ => none
  | _ + 1, _, [] => none
  | fuel + 1, acc, c :: rest =>
    if c = '"' then some (String.ofList acc.reverse, rest)
    else if c = '\\' then
      match escaped? rest with
      | some (x, after) => quoted? fuel (x :: acc) after
      | none => none
    else if c.toNat < 0x20 then none
    else quoted? fuel (c :: acc) rest

/-! ## §3 Values -/

def skipSpace : List Char → List Char
  | c :: rest =>
    if c = ' ' ∨ c = '\n' ∨ c = '\t' ∨ c = '\r' then skipSpace rest else c :: rest
  | [] => []

/-- Gives a field its value, in its old place if there was one. -/
def setField (name : String) (value : Json) : List (String × Json) → List (String × Json)
  | [] => [(name, value)]
  | (key, old) :: rest =>
    if key = name then (key, value) :: rest else (key, old) :: setField name value rest

/-- Reads a fixed word. -/
def literal? (word : List Char) (value : Json) (cs : List Char) : Option (Json × List Char) :=
  if cs.take word.length = word then some (value, cs.drop word.length) else none

mutual

/-- A value at the start of a text, `depth` levels below which may still be opened. -/
def value? : Nat → Nat → List Char → Option (Json × List Char)
  | 0, _, _ => none
  | fuel + 1, depth, cs => match skipSpace cs with
    | [] => none
    | c :: rest =>
      if c = '"' then (quoted? fuel [] rest).map fun (s, after) => (str s, after)
      else if c = '[' then
        if depth = 0 then none
        else match skipSpace rest with
          | ']' :: after => some (arr [], after)
          | start => (items? fuel (depth - 1) start).map fun (items, after) => (arr items, after)
      else if c = '\x7b' then
        if depth = 0 then none
        else match skipSpace rest with
          | '\x7d' :: after => some (obj [], after)
          | start => (members? fuel (depth - 1) [] start).map fun (fields, after) =>
              (obj fields, after)
      else if c = 't' then literal? ['t', 'r', 'u', 'e'] (bool true) (c :: rest)
      else if c = 'f' then literal? ['f', 'a', 'l', 's', 'e'] (bool false) (c :: rest)
      else if c = 'n' then literal? ['n', 'u', 'l', 'l'] null (c :: rest)
      else number? (c :: rest)

/-- The elements of an array, of which at least one follows, and its closing bracket. -/
def items? : Nat → Nat → List Char → Option (List Json × List Char)
  | 0, _, _ => none
  | fuel + 1, depth, cs => match value? fuel depth cs with
    | none => none
    | some (item, after) => match skipSpace after with
      | ',' :: rest => (items? fuel depth rest).map fun (items, final) => (item :: items, final)
      | ']' :: rest => some ([item], rest)
      | _ => none

/-- The fields of an object, of which at least one follows, and its closing brace. -/
def members? : Nat → Nat → List (String × Json) → List Char →
    Option (List (String × Json) × List Char)
  | 0, _, _, _ => none
  | fuel + 1, depth, acc, cs => match skipSpace cs with
    | '"' :: rest => match quoted? fuel [] rest with
      | none => none
      | some (name, afterName) => match skipSpace afterName with
        | ':' :: start => match value? fuel depth start with
          | none => none
          | some (value, after) => match skipSpace after with
            | ',' :: more => members? fuel depth (setField name value acc) more
            | '\x7d' :: final => some (setField name value acc, final)
            | _ => none
        | _ => none
    | _ => none

end

/-- The deepest nesting that is read. -/
def maxDepth : Nat := 127

/-- Reads a whole text. -/
def parse? (cs : List Char) : Option Json :=
  match value? (2 * cs.length + 2) maxDepth cs with
  | some (value, rest) => if (skipSpace rest).isEmpty then some value else none
  | none => none

end Coordination.Json
