/-
Coordination.Text.Path — paths with slashes.

A path is kept as it was written; what it names is decided by its
components. Repeated slashes and single dots between components do not
count, two dots do.

  §1 Components  — `components`, equality of what two paths name.
  §2 Trimming    — `trimLeft`, `trimRight`.
  §3 Joining     — `join`, `fileName?`, `parent?`.
  §4 Below       — `below?`, the rest of a path under a directory.
-/
import Coordination.Text.Blank

namespace Coordination.Text.Path

/-! ## §1 Components -/

inductive Component where
  | root
  /-- A single dot, which counts only at the very start. -/
  | here
  /-- Two dots. -/
  | up
  | name (text : List Char)
  deriving DecidableEq, Repr

def isAbsolute : List Char → Bool
  | '/' :: _ => true
  | _ => false

/-- The pieces between slashes that count. -/
def steps (pieces : List (List Char)) : List Component :=
  pieces.filterMap fun piece =>
    if piece = [] ∨ piece = ['.'] then none
    else if piece = ['.', '.'] then some .up
    else some (.name piece)

def components (path : List Char) : List Component :=
  match split '/' path with
  | [] => []
  | first :: rest =>
    if isAbsolute path then .root :: steps (first :: rest)
    else if first = ['.'] then .here :: steps rest
    else steps (first :: rest)

/-- Two paths that are written differently may have the same components. -/
def same (a b : List Char) : Bool := components a == components b

/-! ## §2 Trimming -/

/-- Drops leading slashes and single dots. -/
def trimLeft : List Char → List Char
  | '/' :: rest => trimLeft rest
  | ['.'] => []
  | '.' :: '/' :: rest => trimLeft rest
  | path => path

/-- Drops trailing slashes and single dots. A path reads the same from behind in this respect. -/
def trimRight (path : List Char) : List Char := (trimLeft path.reverse).reverse

/-! ## §3 Joining -/

/-- A path taken relative to a directory; an absolute path stands for itself. -/
def join (base path : List Char) : List Char :=
  if isAbsolute path then path
  else match base.getLast? with
    | none => path
    | some '/' => base ++ path
    | some _ => base ++ '/' :: path

/-- The last component, if it is a name. -/
def fileName? (path : List Char) : Option (List Char) :=
  match (components path).getLast? with
  | some (.name text) => some text
  | _ => none

/-- The root or the single dot that a path starts with, and the rest of the path. -/
def cutStart (path : List Char) : List Char × List Char :=
  match path with
  | '/' :: rest => (['/'], rest)
  | ['.'] => (['.'], [])
  | '.' :: '/' :: rest => (['.'], '/' :: rest)
  | _ => ([], path)

/-- A path without its last component, as it was written but without slashes and single dots at
the end; the root and the empty path have no parent. -/
def parent? (path : List Char) : Option (List Char) :=
  let (start, rest) := cutStart path
  match (trimRight rest).reverse with
  | [] => if start = ['.'] then some [] else none
  | last => some (start ++ trimRight (last.dropWhile (· ≠ '/')).reverse)

/-! ## §4 Below -/

/-- A component as it is written; the root is the empty text before the first slash. -/
def Component.text : Component → List Char
  | root => []
  | here => ['.']
  | up => ['.', '.']
  | name text => text

/-- A path without its first piece, and without what does not count after it. -/
def tail (path : List Char) : List Char := trimLeft (path.dropWhile (· ≠ '/'))

/-- What remains of a path after the given components, which have to come first and in this order.
The root has to be there as well if it is one of them, and only then. -/
def after? : List Component → List Char → Option (List Char)
  | [], path => some path
  | component :: more, path =>
    if path ≠ [] ∧ path.takeWhile (· ≠ '/') = component.text then after? more (tail path) else none

/-- The part of a path below a directory, as it was written but without slashes and single dots
at its ends. -/
def below? (base path : List Char) : Option (List Char) :=
  (after? (components base) path).map trimRight

end Coordination.Text.Path
