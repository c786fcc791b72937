import Gridwalk.Grid
import Gridwalk.Text.Blank
import Gridwalk.Text.Numeral

/-!
# Settings

The settings are the grid and the two delays of an animation, in milliseconds.
`Settings.load` takes them from an environment of named texts: a variable that is absent
or blank leaves its default, any other must be an integer numeral, blanks around it
allowed, and no less than its minimum.  The variables are read in the order of the fields,
and the first bad one is reported.
-/

set_option autoImplicit false

namespace Gridwalk

/-- The settings of a session. -/
structure Settings where
  grid : Grid := {}
  stepDelay : Int := 500
  boundsDelay : Int := 200
  deriving DecidableEq, Repr

/-- Named texts from outside the program. -/
abbrev Environment : Type := String → Option String

/-- An integer setting: its name, its default and its minimum. -/
structure Setting where
  name : String
  fallback : Int
  minimum : Int

namespace Setting

/-- The size of a cell. -/
def cellSize : Setting := ⟨"BLOCKBOT_CELL_SIZE", 50, 1⟩

/-- The number of columns. -/
def cols : Setting := ⟨"BLOCKBOT_GRID_COLS", 16, 1⟩

/-- The number of rows. -/
def rows : Setting := ⟨"BLOCKBOT_GRID_ROWS", 4, 1⟩

/-- The size of the actor's picture. -/
def iconSize : Setting := ⟨"BLOCKBOT_ICON_SIZE", 32, 1⟩

/-- The delay after every action. -/
def stepDelay : Setting := ⟨"BLOCKBOT_STEP_DELAY_MS", 500, 0⟩

/-- The delay of a hold at the edge. -/
def boundsDelay : Setting := ⟨"BLOCKBOT_BOUNDS_DELAY_MS", 200, 0⟩

/-- Whether a text leaves a setting at its default. -/
def isUnset (text : String) : Bool :=
  text.toList.all Text.isSpacing

/-- The value of a setting in an environment. -/
def read (setting : Setting) (env : Environment) : Except Fault Int :=
  match env setting.name with
  | none => .ok setting.fallback
  | some text =>
      if isUnset text then .ok setting.fallback
      else
        match Text.Numeral.ofText? text with
        | none => .error (.notAnInteger setting.name text)
        | some value =>
            if value < setting.minimum then
              .error (.belowMinimum setting.name setting.minimum value)
            else .ok value

end Setting

/-- The settings that an environment gives. -/
def Settings.load (env : Environment) : Except Fault Settings := do
  let cellSize ← Setting.cellSize.read env
  let cols ← Setting.cols.read env
  let rows ← Setting.rows.read env
  let iconSize ← Setting.iconSize.read env
  let stepDelay ← Setting.stepDelay.read env
  let boundsDelay ← Setting.boundsDelay.read env
  pure { grid := { cellSize, cols, rows, iconSize }, stepDelay, boundsDelay }

/-- Where the store is, if the environment does not say. -/
def defaultStoreUrl : String := "redis://localhost:6379/0"

/-- Where the store is. -/
def storeUrl (env : Environment) : String :=
  (env "REDIS_URL").getD defaultStoreUrl

end Gridwalk
