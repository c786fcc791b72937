import Gridwalk.Actor
import Gridwalk.Catalog
import Gridwalk.Event
import Gridwalk.Lifecycle
import Gridwalk.Observable
import Gridwalk.Routine
import Gridwalk.Settings

/-!
# Contexts

A context is everything that a run touches: the catalog, the settings, the actor and the
active position of the program as observables, the lifecycle, and the records of the last
run.  A `Stage` says where in a larger state a context is kept and what the world around
it does: how observers react to what they are told, and what custom deeds mean.  The acts
below are what can be done with a context on its stage.
-/

set_option autoImplicit false

namespace Gridwalk

/-- The active position while no program is run. -/
def idleIndex : Int := -1

/-- An active position: the index of a command of the program, or a value that code outside
this library put in its place. -/
inductive Position where
  | index (i : Int)
  | foreign (value : Json)
  deriving DecidableEq, Repr, Inhabited

namespace Position

instance : Coe Int Position := ⟨.index⟩

/-- The position that a value is. -/
def ofJson : Json → Position
  | .int i => .index i
  | value => .foreign value

/-- A position as it is shown. -/
def view : Position → Json
  | .index i => .int i
  | .foreign value => value

/-- A position is shown as the value that it is. -/
theorem view_ofJson (value : Json) : (ofJson value).view = value := by
  cases value <;> rfl

end Position

/-- Everything that a run touches. -/
structure Context where
  catalog : Catalog := .default
  settings : Settings := {}
  actor : Observable Actor := ⟨{}, []⟩
  activeIndex : Observable Position := ⟨.index idleIndex, []⟩
  phase : Phase := .idle
  run : Option RunId := none
  /-- The events of the last run, the newest first. -/
  log : List Event := []
  actionsCompleted : Nat := 0
  clock : Timestamp := {}

/-- What an observer is told. -/
inductive Notice where
  | actor (actor : Actor)
  | activeIndex (position : Position)
  deriving DecidableEq, Repr

/-- A context in the midst of a state `σ`. -/
structure Stage (σ : Type) where
  /-- The name under which the context pauses. -/
  owner : String
  /-- Where the context is kept. -/
  context : Place σ Context
  /-- What calling an observer does. -/
  observe : String → Notice → Act σ Unit
  /-- What a custom deed does. -/
  custom : String → Routine σ Unit

namespace Context

/-- The events of the last run, in order. -/
def events (c : Context) : List Event := c.log.reverse

/-- The context with one more event, if a run id is set; otherwise nothing is recorded. -/
def record (c : Context) (occurrence : Occurrence) : Context :=
  match c.run with
  | none => c
  | some run => { c with log := ⟨run, occurrence, c.clock⟩ :: c.log }

/-- The context at the start of a run: a new id, an empty log, nothing counted. -/
def opened (c : Context) (run : RunId) : Context :=
  { c with run := some run, log := [], actionsCompleted := 0 }

/-- With a run id set, an event is added at the end. -/
theorem events_record {c : Context} {run : RunId} (h : c.run = some run)
    (occurrence : Occurrence) :
    (c.record occurrence).events = c.events ++ [⟨run, occurrence, c.clock⟩] := by
  simp [record, events, h]

section Record

variable (c : Context) (occurrence : Occurrence)

/-- What is recorded leaves the catalog alone. -/
@[simp] theorem catalog_record : (c.record occurrence).catalog = c.catalog := by
  unfold record
  split <;> rfl

/-- What is recorded leaves the actor alone. -/
@[simp] theorem actor_record : (c.record occurrence).actor = c.actor := by
  unfold record
  split <;> rfl

/-- What is recorded leaves the active position alone. -/
@[simp] theorem activeIndex_record : (c.record occurrence).activeIndex = c.activeIndex := by
  unfold record
  split <;> rfl

/-- What is recorded leaves the phase alone. -/
@[simp] theorem phase_record : (c.record occurrence).phase = c.phase := by
  unfold record
  split <;> rfl

/-- What is recorded leaves the run id alone. -/
@[simp] theorem run_record : (c.record occurrence).run = c.run := by
  unfold record
  split <;> rfl

/-- What is recorded counts nothing. -/
@[simp] theorem actionsCompleted_record :
    (c.record occurrence).actionsCompleted = c.actionsCompleted := by
  unfold record
  split <;> rfl

/-- What is recorded only adds to the log. -/
theorem log_record : c.log <:+ (c.record occurrence).log := by
  unfold record
  split
  · exact List.suffix_refl _
  · exact List.suffix_cons _ _

end Record

/-- Without a run id nothing is recorded. -/
theorem record_of_run_eq_none {c : Context} (h : c.run = none) (occurrence : Occurrence) :
    c.record occurrence = c := by
  simp [record, h]

end Context

namespace Stage

variable {σ : Type} (stage : Stage σ)

/-- Where the actor is kept. -/
def actorPlace : Place σ (Observable Actor) :=
  stage.context.inside ⟨fun c => c.actor, fun actor c => { c with actor }⟩

/-- Where the active position is kept. -/
def indexPlace : Place σ (Observable Position) :=
  stage.context.inside ⟨fun c => c.activeIndex, fun activeIndex c => { c with activeIndex }⟩

/-- Where the catalog is kept. -/
def catalogPlace : Place σ Catalog :=
  stage.context.inside ⟨fun c => c.catalog, fun catalog c => { c with catalog }⟩

/-- Where the phase is kept. -/
def phasePlace : Place σ Phase :=
  stage.context.inside ⟨fun c => c.phase, fun phase c => { c with phase }⟩

/-- The context as it is. -/
def read : Act σ Context := Act.read stage.context

/-- The actor as it is. -/
def actor : Act σ Actor := do
  return (← stage.read).actor.value

/-- Replaces the actor and tells its observers. -/
def setActor (actor : Actor) : Act σ Unit :=
  Observable.set stage.actorPlace (fun observer a => stage.observe observer (.actor a)) actor

/-- Changes some fields of the actor and tells its observers; the actor that this made. -/
def updateActor (change : Actor.Change) : Act σ Actor :=
  Observable.revise stage.actorPlace (fun observer a => stage.observe observer (.actor a))
    fun actor => .ok (actor.apply change)

/-- Replaces the active position and tells its observers. -/
def setIndex (position : Position) : Act σ Unit :=
  Observable.set stage.indexPlace (fun observer i => stage.observe observer (.activeIndex i))
    position

/-- Subscribes an observer to the actor. -/
def subscribeActor (observer : String) : Act σ Unit :=
  Observable.subscribe stage.actorPlace (fun observer a => stage.observe observer (.actor a))
    observer

/-- Subscribes an observer to the active position. -/
def subscribeIndex (observer : String) : Act σ Unit :=
  Observable.subscribe stage.indexPlace
    (fun observer i => stage.observe observer (.activeIndex i)) observer

/-- Ends the first subscription of an observer to the actor. -/
def unsubscribeActor (observer : String) : Act σ Unit :=
  Observable.unsubscribe stage.actorPlace observer

/-- Ends the first subscription of an observer to the active position. -/
def unsubscribeIndex (observer : String) : Act σ Unit :=
  Observable.unsubscribe stage.indexPlace observer

/-- Records an occurrence, if a run id is set. -/
def record (occurrence : Occurrence) : Act σ Unit :=
  Act.modify stage.context fun c => c.record occurrence

/-- The command of an id, as the catalog has it now. -/
def lookup (id : String) : Act σ (Option Command) := do
  return (← stage.read).catalog.lookup id

/-- The command that a phrase names, as the catalog has it now. -/
def named (id : Phrase) : Act σ (Option Command) := do
  return (← stage.read).catalog.named id

/-- Starts the lifecycle of a run. -/
def begin : Act σ Unit := Act.update stage.phasePlace Phase.begin?

/-- Ends the lifecycle of a run, if one is in progress. -/
def finish : Act σ Unit := Act.modify stage.phasePlace Phase.finish

/-- Refuses to go on while a run is in progress. -/
def requireIdle : Act σ Unit := do
  if (← stage.read).phase.isRunning then Act.fail .runInProgress

/-- Edits a loop of the catalog, also during a run; the loop as it is afterwards. -/
def updateLoop (id : String) (edit : Loop.Edit) : Act σ Loop := do
  let catalog ← Act.read stage.catalogPlace
  let (loop, catalog) ← Act.ofExcept (catalog.updateLoop id edit)
  Act.modify stage.catalogPlace fun _ => catalog
  return loop

/-- Edits a loop of the catalog, unless a run is in progress. -/
def editLoop (id : String) (edit : Loop.Edit) : Act σ Loop := do
  stage.requireIdle
  stage.updateLoop id edit

/-- Refuses with a fault in which some values are shown, none of which may have an integer of
too many digits in it. -/
def refuse (shown : List Json) (fault : Fault) : Except Fault Unit :=
  .error (if shown.any Json.isVast then .tooManyDigits else fault)

/-- Refuses a position that is no cell. -/
def requireCell (grid : Grid) (x y : Json) : Except Fault Unit := do
  if ← grid.excludes x y then
    refuse [x, y, .int grid.maxX, .int grid.maxY] (.outsideGrid x y grid.maxX grid.maxY)
  else if ← grid.aligns x y then .ok ()
  else refuse [x, y, .int grid.cellSize] (.offLattice x y grid.cellSize)

/-- Puts the actor on a cell, unless a run is in progress, the position is no cell, or the
values are none that an actor has. -/
def resetActorTo (x y angle : Json) : Act σ Actor := do
  let c ← stage.read
  if c.phase.isRunning then Act.fail .resetWhileRunning
  Act.ofExcept (requireCell c.settings.grid x y)
  let actor ← Act.ofExcept (Actor.at? x y angle)
  stage.setActor actor
  return actor

/-- Puts the actor on a cell, unless a run is in progress or the position is no cell. -/
def resetActor (x y angle : Int) : Act σ Actor :=
  stage.resetActorTo (.int x) (.int y) (.int angle)

/-- Pauses for a time that the settings say. -/
def pause (hold : Hold) : Routine σ Unit := do
  let settings := (← stage.read).settings
  let ms :=
    match hold with
    | .step => settings.stepDelay
    | .bounds => settings.boundsDelay
  Routine.rest { owner := stage.owner, hold, ms }

end Stage

end Gridwalk
