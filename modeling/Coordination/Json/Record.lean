/-
Coordination.Json.Record — records, choices and words on the wire.

A record is an object with named fields, or an array with the same
values in the order of their declaration. Fields that are not declared
are ignored; an array may leave out trailing values but has no more than
are declared. Whether a missing value has a default is up to the record.

A choice is a record that also says which one it is: by a tag field of
the object, or by the first element of the array. A word is one of a
fixed list of names.

Values enclosed in a choice are read a little more liberally than values
that stand alone: a tag may also be given by its place among the
alternatives, and a word may also be given as an object that maps it to
an empty object.
-/
import Coordination.Json.Basic

namespace Coordination.Json

/-- Whether a value stands alone or is enclosed in a choice. -/
inductive Place where
  | alone
  | enclosed
  deriving DecidableEq, Repr

/-- The declared fields of a record, `none` for each that is missing. -/
def fields? (names : List String) : Json → Option (List (Option Json))
  | obj given => some (names.map fun name => lookup name given)
  | arr items =>
    if items.length ≤ names.length then
      some (items.map some ++ List.replicate (names.length - items.length) none)
    else none
  | _ => none

/-- The place of a name in a list of alternatives, each with its spellings. -/
def alternative? (name : String) : List (List String) → Option Nat
  | [] => none
  | spellings :: rest =>
    if name ∈ spellings then some 0 else (alternative? name rest).map (· + 1)

/-- Reads a tag. -/
def tag? (place : Place) (alternatives : List (List String)) : Json → Option Nat
  | str name => alternative? name alternatives
  | int n =>
    if place = .enclosed ∧ 0 ≤ n ∧ n < alternatives.length then some n.toNat else none
  | _ => none

/-- Reads a choice: the place of the alternative, and the record that goes with it. -/
def choice? (place : Place) (tagName : String) (alternatives : List (List String)) :
    Json → Option (Nat × Json)
  | obj given =>
    (lookup tagName given).bind fun tag =>
      (tag? place alternatives tag).map fun index => (index, obj given)
  | arr (tag :: items) => (tag? place alternatives tag).map fun index => (index, arr items)
  | _ => none

/-- Reads a choice whose alternatives have one spelling each: the name of the alternative, and the
record that goes with it. -/
def variant? (place : Place) (tagName : String) (names : List String) (json : Json) :
    Option (String × Json) :=
  (choice? place tagName (names.map fun name => [name]) json).bind fun (index, body) =>
    names[index]?.map fun name => (name, body)

/-- Reads a word: its name, or an object with that one field and nothing in it. -/
def word? (place : Place) : Json → Option String
  | str name => some name
  | obj [(name, null)] => some name
  | obj [(name, obj [])] => if place = .enclosed then some name else none
  | _ => none

end Coordination.Json
