import Gridwalk.Actor
import Gridwalk.Amount
import Gridwalk.Json.Printer
import Gridwalk.RunId
import Gridwalk.Timestamp

/-!
# Events

A run keeps a log of what happened in it.  Every occurrence has a type and a payload, the
form in which it is published; an event is an occurrence with the run that it belongs to
and the moment at which it was recorded.  Where an event is published its payload is written, unless
something in it keeps it from that: how deep it may be nested depends on what the program is
doing.
-/

set_option autoImplicit false

namespace Gridwalk

/-- Something that happened in a run. -/
inductive Occurrence where
  /-- The run of a program started. -/
  | runStarted (ids : List Phrase)
  /-- A command of the program is about to be done. -/
  | stepStarted (index : Nat) (id : Phrase)
  /-- A command of the program is unknown. -/
  | stepSkipped (index : Nat) (id : Phrase)
  /-- A child of a loop is unknown. -/
  | childSkipped (id : Phrase) (parent : String)
  /-- A move of an actor to a target outside the grid was blocked. -/
  | boundsHit (actor : Actor) (targetX targetY : Amount)
  /-- The run came to its end. -/
  | runCompleted (steps : Nat)
  /-- The run met a fault. -/
  | runAborted (steps : Nat) (cause : Fault)
  /-- Something that code outside this library noted. -/
  | noted (type : String) (payload : List (Phrase × Json))

namespace Occurrence

/-- The type under which an occurrence is published. -/
def type : Occurrence → String
  | .runStarted _ => "RUN_STARTED"
  | .stepStarted _ _ => "STEP_STARTED"
  | .stepSkipped _ _ => "STEP_SKIPPED"
  | .childSkipped _ _ => "STEP_SKIPPED"
  | .boundsHit _ _ _ => "BOUNDS_HIT"
  | .runCompleted _ => "RUN_COMPLETED"
  | .runAborted _ _ => "RUN_ABORTED"
  | .noted type _ => type

/-- The payload of an occurrence, an object. -/
def payload : Occurrence → List (Phrase × Json)
  | .runStarted ids => [("command_ids", .texts ids)]
  | .stepStarted index id => [("index", .int (Int.ofNat index)), ("command_id", .str id)]
  | .stepSkipped index id => [("index", .int (Int.ofNat index)), ("command_id", .str id)]
  | .childSkipped id parent => [("command_id", .str id), ("parent_id", .text parent)]
  | .boundsHit actor targetX targetY =>
      [("x", actor.shown .x), ("y", actor.shown .y), ("target_x", targetX.view),
        ("target_y", targetY.view)]
  | .runCompleted steps => [("steps_executed", .int (Int.ofNat steps))]
  | .runAborted steps cause =>
      [("steps_executed", .int (Int.ofNat steps)), ("error", .text cause.report)]
  | .noted _ payload => payload

end Occurrence

/-- An occurrence in a run. -/
structure Event where
  run : RunId
  occurrence : Occurrence
  time : Timestamp

/-- A stream entry: names and values. -/
abbrev Fields : Type := List (String × String)

/-- The fault that a payload is refused with that cannot be written. -/
def Json.Obstacle.fault : Json.Obstacle → Fault
  | .digits => .tooManyDigits
  | .nesting => .nestedTooDeep

namespace Event

/-- An event as a stream entry, if no more than `levels` lists and objects may stand inside each
other in its payload. -/
def fieldsWithin (levels : Nat) (event : Event) : Except Fault Fields :=
  let payload := Json.obj event.occurrence.payload
  match payload.obstacle? levels with
  | some obstacle => .error obstacle.fault
  | none =>
      .ok [("type", event.occurrence.type), ("run_id", event.run.encode),
        ("payload", payload.render), ("ts", event.time.encode)]

/-- How many lists and objects may stand inside each other in a payload when a run publishes it. -/
def deepestPayload : Nat := 954

/-- An event as a stream entry of its run. -/
def fields (event : Event) : Except Fault Fields :=
  event.fieldsWithin deepestPayload

end Event

end Gridwalk
