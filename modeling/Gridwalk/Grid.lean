import Gridwalk.Amount

/-!
# The grid

A grid has `cols` times `rows` square cells of `cellSize` pixels; a cell is named by the
pixel of its top left corner, so the corners lie on a lattice and the last one in each
direction is one cell short of the width and the height.  Angles are raw degrees; only
when a move is made are they rounded to one of the four quarter turns.  All divisions here
are by positive numbers, or tests of divisibility.

Positions and angles are integers.  `deltaAt`, `excludes` and `aligns` say the same of any
values, as far as they can be calculated with; of integers they say what `delta`,
`isOutside` and `isAligned` say.
-/

set_option autoImplicit false

namespace Gridwalk

/-- A grid of square cells. -/
structure Grid where
  cellSize : Int := 50
  cols : Int := 16
  rows : Int := 4
  iconSize : Int := 32
  deriving DecidableEq, Repr

/-- The four directions in which an actor can face. -/
inductive Heading where
  | right
  | down
  | left
  | up
  deriving DecidableEq, Repr

/-- An angle in degrees rounded to a quarter turn, from 0 to 270; halves go up. -/
def quarterTurn (angle : Int) : Int :=
  (angle % 360 + 45) / 90 * 90 % 360

/-- A value in degrees rounded to a quarter turn. -/
def Json.quarterTurn (angle : Json) : Except Fault Int := do
  match ← angle.modulo 360 with
  | none => .error (.notANumber .sum .text)
  | some rest => do
      let turns ← (← rest.plus 45).quotient 90
      pure (turns * 90 % 360)

namespace Heading

/-- The direction of a quarter turn. -/
def ofTurn (turn : Int) : Heading :=
  if turn = 0 then .right
  else if turn = 90 then .down
  else if turn = 180 then .left
  else .up

/-- The direction of an angle. -/
def ofAngle (angle : Int) : Heading :=
  ofTurn (quarterTurn angle)

/-- The displacement of one step of `size` pixels. -/
def delta (size : Int) : Heading → Int × Int
  | .right => (size, 0)
  | .down => (0, size)
  | .left => (-size, 0)
  | .up => (0, -size)

end Heading

namespace Grid

/-- The width in pixels. -/
def width (g : Grid) : Int := g.cols * g.cellSize

/-- The height in pixels. -/
def height (g : Grid) : Int := g.rows * g.cellSize

/-- The horizontal position of the last column. -/
def maxX (g : Grid) : Int := g.width - g.cellSize

/-- The vertical position of the last row. -/
def maxY (g : Grid) : Int := g.height - g.cellSize

/-- The displacement of a move at an angle. -/
def delta (g : Grid) (angle : Int) : Int × Int :=
  (Heading.ofAngle angle).delta g.cellSize

/-- Whether a position lies outside the grid. -/
def isOutside (g : Grid) (x y : Int) : Bool :=
  x < 0 || g.maxX < x || y < 0 || g.maxY < y

/-- Whether a position is the corner of a cell; undefined for cells of size zero. -/
def isAligned (g : Grid) (x y : Int) : Except Fault Bool :=
  if g.cellSize = 0 then .error .zeroCellSize
  else .ok (x % g.cellSize == 0 && y % g.cellSize == 0)

/-- The displacement of a move at an angle that may be any value. -/
def deltaAt (g : Grid) (angle : Json) : Except Fault (Int × Int) := do
  pure ((Heading.ofTurn (← angle.quarterTurn)).delta g.cellSize)

/-- Whether a position of any values lies outside the grid. -/
def excludes (g : Grid) (x y : Json) : Except Fault Bool := do
  if ← x.isBeyond g.maxX then pure true else y.isBeyond g.maxY

/-- Whether a position of any values is the corner of a cell. -/
def aligns (g : Grid) (x y : Json) : Except Fault Bool := do
  if ← x.isMultiple g.cellSize then y.isMultiple g.cellSize else pure false

end Grid

/-- An integer is rounded as angles are. -/
theorem Json.quarterTurn_int (angle : Int) :
    (Json.int angle).quarterTurn = .ok (Gridwalk.quarterTurn angle) := by
  have h : angle.fmod 360 = angle % 360 := Int.fmod_eq_emod_of_nonneg angle (by decide)
  show Except.ok ((angle.fmod 360 + 45) / 90 * 90 % 360) = _
  rw [h]
  rfl

/-- At an integer the displacement is that of the angle. -/
theorem Grid.deltaAt_int (g : Grid) (angle : Int) :
    g.deltaAt (.int angle) = .ok (g.delta angle) := by
  simp [deltaAt, Json.quarterTurn_int, delta, Heading.ofAngle, bind, Except.bind, pure,
    Except.pure]

/-- Integers are excluded exactly if they lie outside. -/
theorem Grid.excludes_int (g : Grid) (x y : Int) :
    g.excludes (.int x) (.int y) = .ok (g.isOutside x y) := by
  simp only [excludes, Json.isBeyond_int, isOutside, bind, Except.bind, pure, Except.pure]
  by_cases h : (decide (x < 0) || decide (g.maxX < x)) = true
  · simp [h]
  · simp only [Bool.not_eq_true] at h
    simp [h]

/-- Integers are aligned as positions are. -/
theorem Grid.aligns_int (g : Grid) (x y : Int) :
    g.aligns (.int x) (.int y) = g.isAligned x y := by
  have hmod (m : Int) (h : g.cellSize ≠ 0) :
      (Json.int m).isMultiple g.cellSize = .ok (m % g.cellSize == 0) := by
    have hzero : (m.fmod g.cellSize = 0) ↔ (m % g.cellSize = 0) := by
      rw [← Int.dvd_iff_fmod_eq_zero, ← Int.dvd_iff_emod_eq_zero]
    have hwhole : (Amount.whole m).modulo g.cellSize = .ok (.whole (m.fmod g.cellSize)) :=
      if_neg h
    have hmodulo : (Json.int m).modulo g.cellSize =
        .ok (some (.whole (m.fmod g.cellSize))) := by
      show ((Amount.whole m).modulo g.cellSize).bind (fun a => .ok (some a)) = _
      rw [hwhole]
      rfl
    show ((Json.int m).modulo g.cellSize).bind (fun a => .ok (a.any Amount.isZero)) = _
    rw [hmodulo]
    exact congrArg Except.ok (decide_eq_decide.mpr hzero)
  by_cases h : g.cellSize = 0
  · have hnone : (Json.int x).isMultiple 0 = .error .zeroCellSize := rfl
    simp only [aligns, isAligned, h, hnone, if_true, bind, Except.bind]
  · simp only [aligns, isAligned, h, hmod, if_false, bind, Except.bind, ne_eq,
      not_false_eq_true]
    cases hx : (x % g.cellSize == 0) <;> simp [pure, Except.pure]

/-- A rounded angle is one of the four quarter turns. -/
theorem quarterTurn_cases (angle : Int) :
    quarterTurn angle = 0 ∨ quarterTurn angle = 90 ∨ quarterTurn angle = 180 ∨
      quarterTurn angle = 270 := by
  unfold quarterTurn
  omega

end Gridwalk
