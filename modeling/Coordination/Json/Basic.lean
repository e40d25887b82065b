/-
Coordination.Json.Basic — JSON values.

Numbers are either integers, which are kept exactly, or finite doubles.
The fields of an object are in the order in which they were given; no
two have the same name in a value that was read from a text.
-/
import Coordination.Number.Binary64
import Coordination.Ident

namespace Coordination

inductive Json where
  | null
  | bool (value : Bool)
  | int (value : Int)
  | float (value : Binary64)
  | str (value : String)
  | arr (items : List Json)
  | obj (fields : List (String × Json))
  deriving Repr, Inhabited

namespace Json

/-- The value of the first field with a name. -/
def lookup (name : String) : List (String × Json) → Option Json
  | [] => none
  | (key, value) :: rest => if key = name then some value else lookup name rest

/-- The value of an object's field. Other values have no fields. -/
def field? (name : String) : Json → Option Json
  | obj fields => lookup name fields
  | _ => none

def isObject : Json → Bool
  | obj _ => true
  | _ => false

/-- The object with no fields. -/
def empty : Json := obj []

/-- The least integer that is read as one. -/
def minInt : Int := -(Nat.pow 2 63 : Int)

/-- The limit of natural numbers on the wire: they have 64 bits. -/
def natLimit : Nat := Nat.pow 2 64

/-- A count or size. -/
def ofNat (n : Nat) : Json := int n

/-! ## Reading simple values

Each reader accepts one shape and nothing else. -/

def string? : Json → Option String
  | str s => some s
  | _ => none

def bool? : Json → Option Bool
  | bool b => some b
  | _ => none

/-- A natural number of at most 64 bits. -/
def nat? : Json → Option Nat
  | int n => if 0 ≤ n ∧ n < natLimit then some n.toNat else none
  | _ => none

/-- A signed integer of at most 64 bits. -/
def int64? : Json → Option Int
  | int n => if minInt ≤ n ∧ n < (Nat.pow 2 63 : Int) then some n else none
  | _ => none

/-- A double; an integer stands for the nearest one. -/
def double? : Json → Option Binary64
  | float x => some x
  | int n => some (Binary64.ofInt n)
  | _ => none

/-- Every element of a list, if all can be read. -/
def all? {α : Type} (read : Json → Option α) : List Json → Option (List α)
  | [] => some []
  | item :: rest => match read item, all? read rest with
    | some value, some values => some (value :: values)
    | _, _ => none

/-- A list of which every element can be read. -/
def list? {α : Type} (read : Json → Option α) : Json → Option (List α)
  | arr items => all? read items
  | _ => none

def ofList {α : Type} (write : α → Json) (values : List α) : Json := arr (values.map write)

end Json

/-- An identifier is a text. -/
def Ident.toJson {kind : EntityKind} (id : Ident kind) : Json := .str id.toString

def Ident.ofJson? {kind : EntityKind} (json : Json) : Option (Ident kind) :=
  json.string?.bind Ident.ofString?

end Coordination
