import Gridwalk.Live
import Gridwalk.Proofs.PendingPayloads

/-!
# A site and its clients

A hall is a site with a trace of what was published and sent.  In one move the actor or the active
position changes, the hub takes one step, a client asks to join or to leave, or is told the actor or
the active position as they are.  A history is any list of moves, so changes, connections, sends and
failures interleave in any way.  Whether a send reaches its client is part of the move.

Code that needs the hub is ready to go on, in the order in which it became ready, and then waits for
its turn, in the order in which it came to wait.  The jobs of the hub stand for both in one row: a
job is put there when the code that asks for it becomes ready.  So a client that is told how things
are and finds its connection broken may have been about to leave for some time.
-/

set_option autoImplicit false

namespace Gridwalk

/-- Something that happened in a hall. -/
inductive Incident where
  /-- A change was passed on to the hub. -/
  | published (notice : Notice)
  /-- A client asked to join. -/
  | asked (client : String)
  /-- A client became a member. -/
  | registered (client : String)
  /-- The hub sent a client a change. -/
  | sent (client : String) (notice : Notice) (reached : Bool)
  /-- A client was sent the actor or the active position as they were. -/
  | greeted (client : String) (notice : Notice) (reached : Bool)
  /-- A client asked to leave. -/
  | left (client : String)
  deriving DecidableEq

/-- What a change is about. -/
inductive Facet where
  | actor
  | activeIndex
  deriving DecidableEq

/-- What a notice is about. -/
def Notice.facet : Notice → Facet
  | .actor _ => .actor
  | .activeIndex _ => .activeIndex

/-- A facet of a site as it is. -/
def Site.shown (site : Site) : Facet → Notice
  | .actor => .actor site.context.actor.value
  | .activeIndex => .activeIndex site.context.activeIndex.value

/-- A site with what happened in it, the latest first. -/
structure Hall where
  site : Site := {}
  trace : List Incident := []

namespace Hall

/-- Where the site is kept. -/
def place : Place Hall Site where
  get hall := hall.site
  set site hall := { hall with site }

/-- An incident is added to the trace. -/
def note (incident : Incident) (hall : Hall) : Hall :=
  { hall with trace := incident :: hall.trace }

/-- The stage of the site, with every change noted that is passed on to the hub. -/
def stage : Stage Hall :=
  { Site.stage place with
    observe := fun observer notice => do
      (Site.stage place).observe observer notice
      Act.modify Place.whole (note (.published notice)) }

/-- A connection that delivers what it is given, or breaks. -/
def deliver (reached : Bool) (_ : String) (_ : Message) : Act Hall Unit :=
  Act.ofExcept (if reached then .ok () else .error (.raised .runtime none))

/-- Sends a change to a client as the hub does. -/
def send (reached : Bool) (client : String) (notice : Notice) (hall : Hall) : Bool × Hall :=
  match Live.send (deliver reached) client notice hall with
  | (reached, hall) => (reached, hall.note (.sent client notice reached))

/-- Lets the hub take one step. -/
def hubStep (reached : Bool) (hall : Hall) : Hall :=
  let stepped := Hub.step (place.inside Site.hubPlace) (send reached) hall
  match hall.site.hub.jobs with
  | .join client :: _ => stepped.note (.registered client)
  | _ => stepped

/-- Asks the hub to do a job. -/
def post (job : Hub.Job Notice) (hall : Hall) : Hall :=
  ((Act.modify (place.inside Site.hubPlace) (Hub.post job) : Act Hall Unit) hall).2

/-- Lets a client ask to leave, once. -/
def leave (client : String) (hall : Hall) : Hall :=
  if .left client ∈ hall.trace then hall else (hall.post (.leave client)).note (.left client)

/-- Tells a client a facet of the site as it is; a fault on the way ends the connection. -/
def greet (client : String) (facet : Facet) (reached : Bool) (hall : Hall) : Hall :=
  match Live.tell (deliver reached) client (hall.site.shown facet) hall with
  | (.ok (), hall) => hall.note (.greeted client (hall.site.shown facet) true)
  | (.error _, hall) => (hall.note (.greeted client (hall.site.shown facet) false)).leave client

/-- What happens in one go. -/
inductive Move where
  | setActor (actor : Actor)
  | updateActor (change : Actor.Change)
  | setIndex (position : Position)
  | connect (client : String)
  | hub (reached : Bool)
  | greet (client : String) (facet : Facet) (reached : Bool)
  | disconnect (client : String)

/-- The hall after a move.  A client asks to join once, leaves after it has asked, and is greeted
after it became a member; a move for which it is not the time does nothing. -/
def step (hall : Hall) : Move → Hall
  | .setActor actor => (stage.setActor actor hall).2
  | .updateActor change => (stage.updateActor change hall).2
  | .setIndex position => (stage.setIndex position hall).2
  | .connect client =>
      if .asked client ∈ hall.trace then hall else (hall.post (.join client)).note (.asked client)
  | .hub reached => hall.hubStep reached
  | .greet client facet reached =>
      if .registered client ∈ hall.trace then hall.greet client facet reached else hall
  | .disconnect client => if .asked client ∈ hall.trace then hall.leave client else hall

/-- A hall at first: a session was just opened, and nobody is there. -/
def start (settings : Settings) : Hall :=
  { site := (Site.begin Place.whole settings {}).2 }

/-- The hall after a history. -/
def after (settings : Settings) (moves : List Move) : Hall :=
  moves.foldl step (start settings)

end Hall

end Gridwalk
