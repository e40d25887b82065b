/-
Coordination.Proofs.Regions — which rectangles are accepted as regions.

A rectangle should lie on the scan grid. What is checked is that its ends
do, and they are compared after the end and the side of the grid were both
rounded to doubles. So a rectangle may end beyond the grid, by less than
half the distance to the next double, and be accepted. An end also has to
be a signed number of 64 bits, so that on a larger grid a rectangle is
refused although it lies on the grid. On a grid whose sides have at most 53
binary digits neither happens.

  §1 Grid        — `Grid.sides`, the sides before they are rounded.
  §2 Spans       — `extent`, the last end that is accepted on an axis.
  §3 Rectangles  — `rectangle_accepted_iff`.
-/
import Coordination.Job.Region
import Coordination.Proofs.Checks
import Coordination.Proofs.Rounding

namespace Coordination.Job

/-! ## §1 Grid -/

namespace Grid

/-- Height and width: the last two dimensions of the scan. -/
def sides (scan : List Nat) : Nat × Nat :=
  match scan.reverse with
  | [] => (0, 0)
  | [width] => (1, width)
  | width :: height :: _ => (height, width)

/-- A line scan is one row. -/
theorem sides_line (width : Nat) : sides [width] = (1, width) := rfl

theorem sides_append (outer : List Nat) (height width : Nat) :
    sides (outer ++ [height, width]) = (height, width) := by
  rw [sides, List.reverse_append]
  rfl

theorem ofScan_eq (scan : List Nat) :
    ofScan scan = ⟨.ofNat (sides scan).1, .ofNat (sides scan).2⟩ := by
  rw [ofScan, sides]
  rcases scan.reverse with _ | ⟨width, _ | ⟨height, outer⟩⟩ <;> rfl

end Grid

/-! ## §2 Spans -/

/-- An integer and a number as doubles compare as the integer and the number's reach. -/
theorem ofInt_le_ofNat_iff {e : Int} (positive : 0 ≤ e) (n : Nat) :
    (Binary64.ofInt e).value ≤ (Binary64.ofNat n).value ↔ e ≤ reach n := by
  obtain ⟨m, rfl⟩ := Int.eq_ofNat_of_zero_le positive
  have one_pos : 0 < Binary64.one := by decide +kernel
  have sign : decide ((m : Int) < 0) = false := decide_eq_false (Int.not_lt.2 positive)
  simp only [Binary64.ofInt, Binary64.ofNat, Binary64.value, sign, Bool.false_eq_true, if_false,
    Int.ofNat_le, Int.natAbs_natCast]
  rw [Nat.mul_le_mul_right_iff one_pos, nearest_le_nearest_iff]

/-- The last end of a span that is accepted on an axis with `n` positions. -/
def extent (n : Nat) : Nat := min (reach n) (Nat.pow 2 63 - 1)

theorem extent_of_small {n : Nat} (h : n < 2 ^ 53) : extent n = n := by
  rw [extent, reach_of_small h]
  exact Nat.min_eq_left (Nat.le_of_lt (Nat.lt_trans h (by decide)))

/-- What lies on an axis and ends with a number of 64 bits is accepted on it. -/
theorem le_extent {n : Nat} {e : Int} (inside : e ≤ n) (word : e < (2 : Int) ^ 63) :
    e ≤ extent n := by
  have far := le_reach n
  have power : Nat.pow 2 63 = 2 ^ 63 := rfl
  rw [extent, power]
  omega

theorem spanFits_iff {start size : Int} (positive : 0 < size) (n : Nat) :
    spanFits start size (.ofNat n) = true ↔ 0 ≤ start ∧ start + size ≤ extent n := by
  simp only [spanFits, isWord, Bool.and_eq_true, decide_eq_true_eq, extent]
  by_cases first : 0 ≤ start
  · rw [ofInt_le_ofNat_iff (by omega)]
    omega
  · omega

/-! ## §3 Rectangles -/

/-- A rectangle of a positive size that lies on a grid with all of it. -/
structure Within (height width : Nat) (x y w h : Int) : Prop where
  wide : 0 < w
  high : 0 < h
  left : 0 ≤ x
  top : 0 ≤ y
  right : x + w ≤ width
  bottom : y + h ≤ height

/-- A rectangle as a client gives it. -/
def rectangle (x y w h : Int) : Json :=
  .obj [("shape", .str "rect"), ("x", .int x), ("y", .int y), ("width", .int w), ("height", .int h)]

/-- Every rectangle in signed 64-bit integers can be given. -/
theorem ofJson?_rectangle {x y w h : Int} (hx : isWord x) (hy : isWord y) (hw : isWord w)
    (hh : isWord h) : Region.ofJson? (rectangle x y w h) = some (.rect x y w h) := by
  have word {n : Int} (h : isWord n) : Json.int64? (.int n) = some n := by
    simp only [isWord, Bool.and_eq_true, decide_eq_true_eq] at h
    exact if_pos h
  have chosen : (rectangle x y w h).choice? .alone "shape" [["disk"], ["rect"]] =
      some (1, rectangle x y w h) := rfl
  have given : (rectangle x y w h).fields? ["x", "y", "width", "height"] =
      some [some (.int x), some (.int y), some (.int w), some (.int h)] := rfl
  simp only [Region.ofJson?, chosen, given, word hx, word hy, word hw, word hh,
    Option.bind_eq_bind, Option.bind_some, Option.pure_def]

theorem check_rect_iff (scan : List Nat) (x y w h : Int) :
    Region.check (Grid.ofScan scan) (.rect x y w h) = .ok () ↔
      Within (extent (Grid.sides scan).1) (extent (Grid.sides scan).2) x y w h := by
  rw [Grid.ofScan_eq, Region.check]
  by_cases flat : w ≤ 0 ∨ h ≤ 0
  · have told : (w ≤ 0 || h ≤ 0) = true := by simpa using flat
    rw [if_pos told]
    exact iff_of_false nofun fun within => by have := within.wide; have := within.high; omega
  · have told : (w ≤ 0 || h ≤ 0) = false := by simpa using flat
    have wide : 0 < w := by omega
    have high : 0 < h := by omega
    rw [if_neg (Bool.eq_false_iff.1 told)]
    constructor
    · intro accepted
      split at accepted
      · rename_i fits
        rw [Bool.and_eq_true, spanFits_iff wide, spanFits_iff high] at fits
        exact ⟨wide, high, fits.1.1, fits.2.1, fits.1.2, fits.2.2⟩
      · exact nomatch accepted
    · intro within
      have across := (spanFits_iff wide _).2 ⟨within.left, within.right⟩
      have down := (spanFits_iff high _).2 ⟨within.top, within.bottom⟩
      rw [across, down]
      rfl

/-- A region is accepted if it passes the check against the scan grid. -/
theorem regionOf_eq_ok_iff {details : Analysis.Details} {json : Json} {region : Region}
    (named : details.parameters.field? "roi" = some json) (read : Region.ofJson? json = some region)
    (dataset : Dataset) (wording : Wording) :
    regionOf details dataset wording = .ok (some region) ↔
      region.check (Grid.ofScan dataset.scanSize) = .ok () := by
  have checked : regionOf details dataset wording =
      (do region.check (Grid.ofScan dataset.scanSize); return some region) := by
    cases json with
    | null => exact nomatch read
    | _ => simp only [regionOf, named, read]
  rw [checked, bind_eq_ok]
  exact ⟨fun ⟨_, passed, _⟩ => passed, fun passed => ⟨(), passed, rfl⟩⟩

/-- A rectangle is accepted iff it has a positive size and ends where spans on the two axes may end.
So it is accepted if it lies on the grid and ends with numbers of 64 bits; the converse holds on a
grid whose sides have at most 53 binary digits. The sides are the last two dimensions of the scan,
and a line scan is one row. Every rectangle in signed 64-bit integers can be given. -/
theorem rectangle_accepted_iff {details : Analysis.Details} {json : Json} {x y w h : Int}
    {wording : Wording} (named : details.parameters.field? "roi" = some json)
    (read : Region.ofJson? json = some (.rect x y w h)) (dataset : Dataset) :
    (regionOf details dataset wording = .ok (some (.rect x y w h)) ↔
      Within (extent (Grid.sides dataset.scanSize).1) (extent (Grid.sides dataset.scanSize).2)
        x y w h) ∧
    (Within (Grid.sides dataset.scanSize).1 (Grid.sides dataset.scanSize).2 x y w h →
      x + w < (2 : Int) ^ 63 → y + h < (2 : Int) ^ 63 →
        regionOf details dataset wording = .ok (some (.rect x y w h))) ∧
    ((Grid.sides dataset.scanSize).1 < 2 ^ 53 → (Grid.sides dataset.scanSize).2 < 2 ^ 53 →
      (regionOf details dataset wording = .ok (some (.rect x y w h)) ↔
        Within (Grid.sides dataset.scanSize).1 (Grid.sides dataset.scanSize).2 x y w h)) ∧
    ((∀ width, Grid.sides [width] = (1, width)) ∧
      ∀ outer height width, Grid.sides (outer ++ [height, width]) = (height, width)) ∧
    (isWord x → isWord y → isWord w → isWord h →
      Region.ofJson? (rectangle x y w h) = some (.rect x y w h)) := by
  have accepted :=
    (regionOf_eq_ok_iff named read dataset wording).trans (check_rect_iff _ x y w h)
  refine ⟨accepted, fun within right bottom => accepted.2 { within with
    right := le_extent within.right right
    bottom := le_extent within.bottom bottom }, fun low narrow => ?_,
    ⟨Grid.sides_line, Grid.sides_append⟩, ofJson?_rectangle⟩
  rw [extent_of_small low, extent_of_small narrow] at accepted
  exact accepted

/-- A line scan in memory. -/
def lineScan (n : Nat) : Dataset := ⟨.ofNat 1, .memory ⟨.uint8, [8, 8], [n]⟩, [n, 8, 8]⟩

/-- The sum of the frames in a rectangle. -/
def sumIn (x y w h : Int) : Analysis.Details := ⟨.sumFrames, .obj [("roi", rectangle x y w h)]⟩

/-- On a line of 2^53 positions one position too many is accepted; on a line of eight it is not,
but the whole line is. -/
theorem rectangle_accepted_iff_line :
    regionOf (sumIn 0 0 9007199254740993 1) (lineScan 9007199254740992) =
      .ok (some (.rect 0 0 9007199254740993 1)) ∧
    regionOf (sumIn 0 0 8 1) (lineScan 8) = .ok (some (.rect 0 0 8 1)) ∧
    regionOf (sumIn 1 0 8 1) (lineScan 8) ≠ .ok (some (.rect 1 0 8 1)) := by
  refine ⟨(rectangle_accepted_iff rfl rfl (lineScan 9007199254740992)).1.2 ?_,
    (rectangle_accepted_iff rfl rfl (lineScan 8)).2.1 ?_ (by decide) (by decide),
    fun accepted => ?_⟩
  · exact ⟨by decide, by decide, by decide, by decide, by decide, by decide⟩
  · exact ⟨by decide, by decide, by decide, by decide, by decide, by decide⟩
  · have within :=
      ((rectangle_accepted_iff rfl rfl (lineScan 8)).2.2.1 (by decide) (by decide)).1 accepted
    exact absurd within.right (by decide)

/-- A rectangle is accepted that ends beyond the grid, and one is refused that ends with it. -/
theorem rectangle_beside_the_edge :
    (regionOf (sumIn 0 0 9007199254740993 1) (lineScan 9007199254740992) =
        .ok (some (.rect 0 0 9007199254740993 1)) ∧
      Grid.sides (lineScan 9007199254740992).scanSize = (1, 9007199254740992) ∧
      ¬ Within 1 9007199254740992 0 0 9007199254740993 1) ∧
    (regionOf (sumIn 9223372036854775807 0 1 1) (lineScan 9223372036854775808) ≠
        .ok (some (.rect 9223372036854775807 0 1 1)) ∧
      Grid.sides (lineScan 9223372036854775808).scanSize = (1, 9223372036854775808) ∧
      Within 1 9223372036854775808 9223372036854775807 0 1 1) := by
  refine ⟨⟨toOption_eq_some.1 (by decide +kernel), rfl,
      fun within => absurd within.right (by decide)⟩,
    mt toOption_eq_some.2 (by decide +kernel), rfl,
    ⟨by decide, by decide, by decide, by decide, by decide, by decide⟩⟩

end Coordination.Job
