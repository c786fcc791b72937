import Gridwalk.Proofs.History

/-!
# Sessions that share a store

In a realm any number of contexts, each with a session of its own, run over one store.  What belongs
to one context is on its side: the context, what its observers were told, and the pauses of its
routines.  Observers and custom deeds may do to their own side whatever they like, and may fail.

Errands come one by one, each from some context: a call is started in the background and goes on
to its first pause, a pause is answered, or the context is reset, edited or touched in any other
way.  What comes of an errand is told to the context that it comes from.
-/

set_option autoImplicit false

namespace Gridwalk

section Through

variable {σ τ α : Type} (place : Place σ τ)

/-- An act on what is kept at a place. -/
def Act.through (act : Act τ α) : Act σ α := fun s =>
  match act (place.get s) with
  | (result, t) => (result, place.set t s)

/-- A routine on what is kept at a place. -/
def Routine.through : Routine τ α → Routine σ α
  | .done a => .done a
  | .fail fault => .fail fault
  | .get k => .get fun s => (k (place.get s)).through
  | .put t r => .get fun s => .put (place.set t s) r.through
  | .pause p k => .pause p fun answer => (k answer).through

end Through

/-- A context with all that is seen of it. -/
structure Side where
  context : Context := {}
  /-- What its observers were told, the newest first. -/
  told : List (String × Notice) := []
  /-- The pauses that its routines made, the newest first. -/
  pauses : List Pause := []

/-- What the observers and the custom deeds of a context do to its side. -/
structure Manners where
  react : String → Notice → Act Side Unit := fun _ _ => pure ()
  deed : String → Routine Side Unit := fun _ => .done ()

/-- Sides by the names of their contexts, and the store. -/
structure World where
  sides : String → Side
  store : Store := {}

namespace World

/-- Where a context of a world is kept, with all that is kept beside it. -/
def place (name : String) : Place World Side where
  get w := w.sides name
  set side w := { w with sides := Function.update w.sides name side }

/-- Where the store of a world is kept, which all contexts share. -/
def storePlace : Place World Store where
  get w := w.store
  set store w := { w with store }

/-- The stage of the context of a name. -/
def stage (manners : Manners) (name : String) : Stage World where
  owner := name
  context := (place name).inside
    ⟨fun side => side.context, fun context side => { side with context }⟩
  observe observer notice := Act.through (place name) do
    Act.modify Place.whole fun side => { side with told := (observer, notice) :: side.told }
    manners.react observer notice
  custom deed := (manners.deed deed).through (place name)

/-- Notes a pause on the side of its context and leaves it open. -/
def suspend (name : String) (p : Pause) (w : World) : Option Answer × World :=
  (none, (place name).set { w.sides name with pauses := p :: (w.sides name).pauses } w)

end World

/-- What is done from a context. -/
inductive Errand where
  /-- A call is started as the task of a name; a program is dispatched for the context's session. -/
  | start (task : String) (call : Call)
  /-- The pause of a task is answered: it goes on, or a fault is raised there, or it is
  cancelled. -/
  | answer (task : String) (reply : Answer)
  | resetActor (x y angle : Json)
  | editLoop (id : String) (edit : Loop.Edit)
  | updateLoop (id : String) (edit : Loop.Edit)
  | touch (act : Act Side Unit)

/-- What comes of an errand. -/
inductive Feedback where
  | paused (pause : Pause)
  | ended (result : Except Fault (Option RunResult))
  /-- No task of the name is held at a pause. -/
  | missing
  | actor (result : Except Fault Actor)
  | loop (result : Except Fault Loop)
  | touched (result : Except Fault Unit)

/-- A call for a session. -/
def Call.under (session : String) : Call → Call
  | .dispatch ticket ids => .dispatch { ticket with session } ids
  | call => call

/-- How a task stands. -/
def Schedule.standing {σ : Type} (schedule : Schedule σ (Option RunResult)) (task : String) :
    Feedback :=
  match (schedule.find? task).map Task.halt with
  | some (.held p _) => .paused p
  | some (.ended result) => .ended result
  | none => .missing

/-- A world with the tasks of each context and the replies to it, the newest first. -/
structure Realm where
  world : World
  tasks : String → Schedule World (Option RunResult) := fun _ => {}
  replies : String → List Feedback := fun _ => []

namespace Realm

/-- Tells a context what came of its errand. -/
def inform (realm : Realm) (name : String) (feedback : Feedback) : Realm :=
  { realm with replies := Function.update realm.replies name (feedback :: realm.replies name) }

/-- Does an act and tells its result. -/
def act {α : Type} (realm : Realm) (name : String) (shown : Except Fault α → Feedback)
    (act : Act World α) : Realm :=
  match act realm.world with
  | (result, world) => { realm with world }.inform name (shown result)

/-- The realm after a task of a context went on, if it did. -/
def progress (realm : Realm) (name task : String) :
    Option (Schedule World (Option RunResult) × World) → Realm
  | none => realm.inform name .missing
  | some (schedule, world) =>
      { realm with world, tasks := Function.update realm.tasks name schedule }.inform name
        (schedule.standing task)

variable (manners : String → Manners) (sessions : String → String)

/-- The realm after an errand of a context. -/
def step (realm : Realm) : String × Errand → Realm
  | (name, .start task call) =>
      realm.progress name task <| some <| (realm.tasks name).advance (World.suspend name) task
        ((call.under (sessions name)).routine (World.stage (manners name) name) World.storePlace)
        realm.world
  | (name, .answer task reply) =>
      realm.progress name task <|
        (realm.tasks name).answer (World.suspend name) task reply realm.world
  | (name, .resetActor x y angle) =>
      realm.act name .actor ((World.stage (manners name) name).resetActorTo x y angle)
  | (name, .editLoop id edit) =>
      realm.act name .loop ((World.stage (manners name) name).editLoop id edit)
  | (name, .updateLoop id edit) =>
      realm.act name .loop ((World.stage (manners name) name).updateLoop id edit)
  | (name, .touch act) => realm.act name .touched (act.through (World.place name))

/-- The realm after a history, in which no task runs at first. -/
def after (world : World) (history : List (String × Errand)) : Realm :=
  history.foldl (step manners sessions) { world }

end Realm

end Gridwalk
