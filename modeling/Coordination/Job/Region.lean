/-
Coordination.Job.Region — regions of interest.

An analysis may be limited to a region of the scan grid, given under
`roi` in its parameters. The grid has the last two scan dimensions as
height and width; a line scan is one row. All comparisons with the grid
are between doubles.

  §1 Regions  — `Region.ofJson?`.
  §2 Grid     — `Grid.ofScan`.
  §3 Checks   — `Region.check`, `regionOf`.
-/
import Coordination.Job.Status
import Coordination.Number.Shortest
import Coordination.Wording

namespace Coordination.Job

/-! ## §1 Regions -/

inductive Region where
  | disk (cx cy r : Binary64)
  | rect (x y width height : Int)
  deriving DecidableEq, Repr

def Region.ofJson? (json : Json) : Option Region := do
  match ← json.choice? .alone "shape" [["disk"], ["rect"]] with
  | (0, body) => match ← body.fields? ["cx", "cy", "r"] with
    | [some cx, some cy, some r] => return disk (← cx.double?) (← cy.double?) (← r.double?)
    | _ => none
  | (1, body) => match ← body.fields? ["x", "y", "width", "height"] with
    | [some x, some y, some width, some height] =>
      return rect (← x.int64?) (← y.int64?) (← width.int64?) (← height.int64?)
    | _ => none
  | _ => none

/-! ## §2 Grid -/

/-- The scan positions of a dataset. -/
structure Grid where
  height : Binary64
  width : Binary64
  deriving DecidableEq, Repr

namespace Grid

def ofScan (scan : List Nat) : Grid :=
  match scan.reverse with
  | [] => ⟨.ofNat 0, .ofNat 0⟩
  | [width] => ⟨.ofNat 1, .ofNat width⟩
  | width :: height :: _ => ⟨.ofNat height, .ofNat width⟩

def text (grid : Grid) : String := grid.width.plain ++ "x" ++ grid.height.plain

end Grid

/-! ## §3 Checks -/

/-- Whether an integer has 64 bits. -/
def isWord (n : Int) : Bool := -(Nat.pow 2 63 : Int) ≤ n && n < (Nat.pow 2 63 : Int)

/-- Whether a span that starts at `start` lies on an axis. Its end has to have 64 bits. -/
def spanFits (start size : Int) (axis : Binary64) : Bool :=
  0 ≤ start && isWord (start + size) && (Binary64.ofInt (start + size)).value ≤ axis.value

/-- Whether a coordinate lies on an axis. -/
def onAxis (x axis : Binary64) : Bool := 0 ≤ x.value && x.value < axis.value

/-- A disk has a positive radius and its center on the grid; a rectangle has a positive size and
lies on the grid with all of it. -/
def Region.check (grid : Grid) : Region → Except Problem Unit
  | .disk cx cy r =>
    if r.value ≤ 0 then .error (.invalidRegion ("disk radius must be positive, got " ++ r.plain))
    else if onAxis cx grid.width && onAxis cy grid.height then .ok ()
    else .error (.invalidRegion
      ("disk center (" ++ cx.plain ++ ", " ++ cy.plain ++ ") outside scan grid " ++ grid.text))
  | .rect x y width height =>
    if width ≤ 0 || height ≤ 0 then
      .error (.invalidRegion
        ("rect size must be positive, got " ++ toString width ++ "x" ++ toString height))
    else if spanFits x width grid.width && spanFits y height grid.height then .ok ()
    else .error (.invalidRegion
      ("rect at (" ++ toString x ++ ", " ++ toString y ++ ") size " ++ toString width ++ "x" ++
        toString height ++ " exceeds scan grid " ++ grid.text))

/-- The region of an analysis, if it has one; it has none if `roi` is missing or null. -/
def regionOf (details : Analysis.Details) (dataset : Dataset) (wording : Wording := {}) :
    Except Problem (Option Region) :=
  match details.parameters.field? "roi" with
  | none => .ok none
  | some .null => .ok none
  | some json => match Region.ofJson? json with
    | some region => do
      region.check (Grid.ofScan dataset.scanSize)
      return some region
    | none => .error (.invalidRegion (wording.region json))

end Coordination.Job
