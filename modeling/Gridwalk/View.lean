import Gridwalk.Run

/-!
# Views

The JSON forms in which actors, commands, grids, changes and results are shown to clients.
-/

set_option autoImplicit false

namespace Gridwalk

/-- An actor as it is shown. -/
def Actor.view (a : Actor) : Json :=
  .obj (Actor.fields.map fun field => (field.name, a.shown field))

/-- A command as it is shown; a basic command has neither repeats nor children. -/
def Command.view : Command → Json
  | .basic b =>
      .obj [("id", .text b.id), ("type", .text "basic"), ("label", .text b.label),
        ("color", .text b.color), ("repeats", .null), ("children", .null)]
  | .loop l =>
      .obj [("id", .text l.id), ("type", .text "loop"), ("label", .text l.label),
        ("color", .text l.color), ("repeats", .int l.repeats), ("children", .texts l.children)]

/-- A catalog as it is shown. -/
def Catalog.view (catalog : Catalog) : Json :=
  .obj [("commands", .arr (catalog.commands.map Command.view))]

/-- A grid as it is shown. -/
def Grid.view (g : Grid) : Json :=
  .obj [("cell_size", .int g.cellSize), ("cols", .int g.cols), ("rows", .int g.rows),
    ("icon_size", .int g.iconSize), ("width", .int g.width), ("height", .int g.height)]

/-- A change as clients are told of it. -/
def Notice.view : Notice → Json
  | .actor a => .obj [("type", .text "actor_changed"), ("actor", a.view)]
  | .activeIndex i => .obj [("type", .text "active_step"), ("index", i.view)]

/-- An event as it is shown. -/
def Event.view (event : Event) : Json :=
  .obj [("type", .text event.occurrence.type), ("run_id", .text event.run.encode),
    ("payload", .obj event.occurrence.payload), ("ts", .text event.time.encode)]

/-- The result of a run as it is shown. -/
def RunResult.view (result : RunResult) : Json :=
  .obj [("run_id", .text result.run.encode), ("status", .text result.outcome.status),
    ("steps_executed", .int (Int.ofNat result.stepsExecuted)),
    ("error", .text? result.outcome.error?), ("actor", result.actor.view),
    ("events", .arr (result.events.map Event.view))]

end Gridwalk
