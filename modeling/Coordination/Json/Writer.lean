/-
Coordination.Json.Writer — JSON texts.

The compact text has no white space and writes the fields of every
object in the order of their names. The indented text keeps the order in
which the fields are given and sets each on a line of its own, two
spaces deeper than its object.
-/
import Coordination.Json.Basic
import Coordination.Number.Shortest
import Coordination.Text.Numeral

namespace Coordination.Json

/-! ## §1 Strings -/

/-- A character inside quotes. -/
def escape (c : Char) : List Char :=
  if c = '"' then ['\\', '"']
  else if c = '\\' then ['\\', '\\']
  else if c = '\n' then ['\\', 'n']
  else if c = '\r' then ['\\', 'r']
  else if c = '\t' then ['\\', 't']
  else if c = '\x08' then ['\\', 'b']
  else if c = '\x0c' then ['\\', 'f']
  else if c.toNat < 0x20 then '\\' :: 'u' :: Text.hexDigits 4 c.toNat
  else [c]

def quote (s : String) : String := String.ofList ('"' :: s.toList.flatMap escape ++ ['"'])

/-! ## §2 Fields by name -/

/-- Puts a field before the first one with a later name. -/
def insertField (field : String × String) : List (String × String) → List (String × String)
  | [] => [field]
  | other :: rest =>
    if field.1 < other.1 then field :: other :: rest else other :: insertField field rest

def sortFields (fields : List (String × String)) : List (String × String) :=
  fields.foldr insertField []

/-! ## §3 The two texts -/

mutual

/-- The compact text. -/
def compact : Json → String
  | null => "null"
  | bool b => if b then "true" else "false"
  | int n => toString n
  | float x => x.compact
  | str s => quote s
  | arr items => "[" ++ ",".intercalate (compactItems items) ++ "]"
  | obj fields =>
    "\x7b" ++ ",".intercalate
      ((sortFields (compactFields fields)).map fun (name, text) => quote name ++ ":" ++ text)
      ++ "\x7d"

def compactItems : List Json → List String
  | [] => []
  | item :: rest => compact item :: compactItems rest

def compactFields : List (String × Json) → List (String × String)
  | [] => []
  | (name, value) :: rest => (name, compact value) :: compactFields rest

end

/-- The start of a line at a depth. -/
def margin (depth : Nat) : String := "\n" ++ String.ofList (List.replicate (2 * depth) ' ')

/-- Brackets around parts, each on its own line; nothing between the brackets if there are no
parts. -/
def enclose (opening closing : String) (depth : Nat) (parts : List String) : String :=
  if parts.isEmpty then opening ++ closing
  else
    opening ++ ",".intercalate (parts.map (margin (depth + 1) ++ ·)) ++ margin depth ++ closing

mutual

/-- The indented text of a value that starts at a depth. -/
def indented (depth : Nat) : Json → String
  | null => "null"
  | bool b => if b then "true" else "false"
  | int n => toString n
  | float x => x.compact
  | str s => quote s
  | arr items => enclose "[" "]" depth (indentedItems (depth + 1) items)
  | obj fields => enclose "\x7b" "\x7d" depth (indentedFields (depth + 1) fields)

def indentedItems (depth : Nat) : List Json → List String
  | [] => []
  | item :: rest => indented depth item :: indentedItems depth rest

def indentedFields (depth : Nat) : List (String × Json) → List String
  | [] => []
  | (name, value) :: rest =>
    (quote name ++ ": " ++ indented depth value) :: indentedFields depth rest

end

end Coordination.Json
