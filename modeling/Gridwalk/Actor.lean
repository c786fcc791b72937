import Gridwalk.Fault
import Gridwalk.Text.Lenient

/-!
# The actor

The actor stands at a position, faces a raw angle, and shows two flags: that a run moves
it, and that it is being held at the edge of the grid.  A change names some of the five
fields; `Actor.apply` replaces exactly those.

Code outside this library may give a field a value that no actor has.  Such a value is
foreign: it is kept beside the field and stands in its place until the field is given a
value again.
-/

set_option autoImplicit false

namespace Gridwalk

/-- The fields of an actor. -/
inductive Actor.Field where
  | x
  | y
  | angle
  | isMoving
  | isHittingBounds
  deriving DecidableEq, Repr

/-- The name under which a field is shown. -/
def Actor.Field.name : Actor.Field → String
  | .x => "x"
  | .y => "y"
  | .angle => "angle"
  | .isMoving => "is_moving"
  | .isHittingBounds => "is_hitting_bounds"

/-- The fields of an actor, in the order in which they are shown. -/
def Actor.fields : List Actor.Field := [.x, .y, .angle, .isMoving, .isHittingBounds]

/-- The actor on the grid. -/
structure Actor where
  x : Int := 0
  y : Int := 0
  angle : Int := 0
  isMoving : Bool := false
  isHittingBounds : Bool := false
  /-- The fields whose value is foreign, with that value. -/
  foreign : List (Actor.Field × Json) := []
  deriving DecidableEq, Repr, Inhabited

/-- New values for some fields of an actor. -/
structure Actor.Change where
  x : Option Int := none
  y : Option Int := none
  angle : Option Int := none
  isMoving : Option Bool := none
  isHittingBounds : Option Bool := none
  /-- Fields that are given a foreign value, with that value. -/
  foreign : List (Actor.Field × Json) := []
  deriving DecidableEq, Repr, Inhabited

namespace Actor

/-- The integer that a value stands for in a field of an actor: itself, one or zero for a truth
value, a real number without fraction, or the integer that a text holds. -/
def integer (value : Json) : Except Fault Int :=
  match value with
  | .int n => .ok n
  | .bool b => .ok (if b then 1 else 0)
  | .real r => r.whole.mapError fun _ => .noActor
  | .text s => (Text.Lenient.integer s).mapError fun _ => .noActor
  | _ => .error .noActor

/-- The actor that stands at a position and faces an angle. -/
def at? (x y angle : Json) : Except Fault Actor := do
  let x ← integer x
  let y ← integer y
  let angle ← integer angle
  pure { x, y, angle }

/-- Whether a change gives a field a value. -/
def Change.names (change : Change) (field : Field) : Bool :=
  (change.foreign.lookup field).isSome ||
    match field with
    | .x => change.x.isSome
    | .y => change.y.isSome
    | .angle => change.angle.isSome
    | .isMoving => change.isMoving.isSome
    | .isHittingBounds => change.isHittingBounds.isSome

/-- The actor with the fields that a change names replaced. -/
def apply (actor : Actor) (change : Change) : Actor where
  x := change.x.getD actor.x
  y := change.y.getD actor.y
  angle := change.angle.getD actor.angle
  isMoving := change.isMoving.getD actor.isMoving
  isHittingBounds := change.isHittingBounds.getD actor.isHittingBounds
  foreign := change.foreign ++ actor.foreign.filter fun entry => !change.names entry.1

/-- A field as it is shown. -/
def shown (actor : Actor) (field : Field) : Json :=
  match actor.foreign.lookup field with
  | some value => value
  | none =>
      match field with
      | .x => .int actor.x
      | .y => .int actor.y
      | .angle => .int actor.angle
      | .isMoving => .bool actor.isMoving
      | .isHittingBounds => .bool actor.isHittingBounds

/-- The change that gives a field a value of any kind. -/
def Change.give (change : Change) (field : Field) (value : Json) : Change :=
  match field, value with
  | .x, .int n => { change with x := some n }
  | .y, .int n => { change with y := some n }
  | .angle, .int n => { change with angle := some n }
  | .isMoving, .bool b => { change with isMoving := some b }
  | .isHittingBounds, .bool b => { change with isHittingBounds := some b }
  | field, value => { change with foreign := (field, value) :: change.foreign }

/-- The name that no member of a change may have. -/
def reserved : Phrase := "self"

/-- The change that gives the fields of an actor the values of an object's members of their
names. -/
def Change.ofMembers (members : List (Phrase × Json)) : Except Fault Change :=
  if (Json.lookup members reserved).isSome then .error .reservedName
  else
    .ok (fields.foldl (fun change field =>
      match Json.lookup members field.name with
      | none => change
      | some value => change.give field value) {})

/-- Without foreign values a coordinate is shown as the integer that it is. -/
theorem shown_of_foreign_eq_nil {actor : Actor} (h : actor.foreign = []) :
    actor.shown .x = .int actor.x ∧ actor.shown .y = .int actor.y ∧
      actor.shown .angle = .int actor.angle := by
  simp [shown, h]

/-- A change without foreign values leaves an actor without foreign values without any. -/
theorem foreign_apply {actor : Actor} {change : Change} (ha : actor.foreign = [])
    (hc : change.foreign = []) : (actor.apply change).foreign = [] := by
  simp [apply, ha, hc]

end Actor

end Gridwalk
