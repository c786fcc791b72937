import Gridwalk.Context

/-!
# Moving and turning

A move goes one cell ahead or back.  If the target lies outside the grid, the hit is
recorded and the actor is held at the edge, flagged, for the bounds delay; the flag is
cleared however that hold ends.  A turn adds or takes a quarter turn of the raw angle.
Every deed ends with a step pause.  A foreign value of the actor takes part in the
calculation if it can; if it cannot, the fault ends the deed, the angle being needed first,
then the two coordinates.
-/

set_option autoImplicit false

namespace Gridwalk

/-- Where a move leads that goes one cell ahead, times `sign`. -/
def Actor.target (actor : Actor) (grid : Grid) (sign : Int) : Except Fault (Amount × Amount) := do
  let (dx, dy) ← grid.deltaAt (actor.shown .angle)
  let x ← (actor.shown .x).plus (sign * dx)
  let y ← (actor.shown .y).plus (sign * dy)
  pure (x, y)

/-- The angle after a turn by some degrees. -/
def Actor.turned (actor : Actor) (degrees : Int) : Except Fault Amount :=
  if degrees < 0 then (actor.shown .angle).minus (-degrees)
  else (actor.shown .angle).plus degrees

/-- The change that puts an actor somewhere. -/
def Actor.Change.place (x y : Amount) : Actor.Change :=
  (({} : Actor.Change).give .x x.view).give .y y.view

/-- The change that makes an actor face an angle. -/
def Actor.Change.face (angle : Amount) : Actor.Change :=
  ({} : Actor.Change).give .angle angle.view

/-- Without foreign values a move leads one cell along the direction of the actor. -/
theorem Actor.target_of_foreign_eq_nil {actor : Actor} (h : actor.foreign = []) (grid : Grid)
    (sign : Int) :
    actor.target grid sign =
      .ok (.whole (actor.x + sign * (grid.delta actor.angle).1),
        .whole (actor.y + sign * (grid.delta actor.angle).2)) := by
  obtain ⟨hx, hy, hangle⟩ := shown_of_foreign_eq_nil h
  simp [Actor.target, hx, hy, hangle, Grid.deltaAt_int, Json.plus_int, bind, Except.bind, pure,
    Except.pure]

/-- Without foreign values a turn adds its degrees. -/
theorem Actor.turned_of_foreign_eq_nil {actor : Actor} (h : actor.foreign = [])
    (degrees : Int) : actor.turned degrees = .ok (.whole (actor.angle + degrees)) := by
  obtain ⟨_, _, hangle⟩ := shown_of_foreign_eq_nil h
  by_cases hd : degrees < 0
  · simp [Actor.turned, hd, hangle, Json.minus_int]
  · simp [Actor.turned, hd, hangle, Json.plus_int]

namespace Stage

variable {σ : Type} (stage : Stage σ)

/-- Holds the actor at the edge of the grid. -/
def holdAtEdge : Routine σ Unit := do
  let _ ← stage.updateActor { isHittingBounds := some true }
  Routine.ensure (stage.pause .bounds) do
    let _ ← stage.updateActor { isHittingBounds := some false }

/-- Moves one cell in the direction of the actor, times `sign`. -/
def move (sign : Int) : Routine σ Unit := do
  let c ← (stage.read : Act σ Context)
  let actor := c.actor.value
  let (x, y) ← Routine.ofExcept (actor.target c.settings.grid sign)
  if ← Routine.ofExcept (c.settings.grid.excludes x.view y.view) then
    stage.record (.boundsHit actor x y)
    stage.holdAtEdge
  else
    let _ ← stage.updateActor (.place x y)
  stage.pause .step

/-- Turns by some degrees. -/
def turn (degrees : Int) : Routine σ Unit := do
  let actor ← (stage.actor : Act σ Actor)
  let angle ← Routine.ofExcept (actor.turned degrees)
  let _ ← stage.updateActor (.face angle)
  stage.pause .step

/-- Does a deed. -/
def perform : Deed → Routine σ Unit
  | .moveForward => stage.move 1
  | .moveBack => stage.move (-1)
  | .turnRight => stage.turn 90
  | .turnLeft => stage.turn (-90)
  | .custom name => stage.custom name

end Stage

end Gridwalk
