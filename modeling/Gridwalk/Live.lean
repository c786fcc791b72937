import Gridwalk.Site
import Gridwalk.View

/-!
# Live connections

A client connects to be told of every change.  It is accepted, joins the hub, and is then
told the actor and the active position as they are at that moment.  It stays until it
leaves; what it says is ignored, but a message without text ends the connection with a
fault.  Whenever a connection ends after the client joined, the client leaves the hub.
-/

set_option autoImplicit false

namespace Gridwalk

/-- What a client is sent. -/
inductive Message where
  | accepted
  | notice (notice : Notice)
  | closed (code : Nat)
  deriving DecidableEq, Repr

/-- What a client does. -/
inductive Signal where
  | text (text : String)
  | bytes
  | leave
  deriving DecidableEq, Repr

/-- How a connection stands. -/
inductive Connection where
  | attached
  | ended
  | broken (fault : Fault)
  deriving DecidableEq, Repr

namespace Live

variable {σ : Type} (site : Place σ Site) (deliver : String → Message → Act σ Unit)

/-- The path on which clients connect. -/
def path : String := "/ws/actor"

/-- Sends a change to a client; integers of too many digits cannot be sent. -/
def tell (client : String) (notice : Notice) : Act σ Unit :=
  if notice.view.isVast then Act.fail .tooManyDigits else deliver client (.notice notice)

/-- Sends a change to a client, and says whether it could be reached. -/
def send (client : String) (notice : Notice) (s : σ) : Bool × σ :=
  match tell deliver client notice s with
  | (.ok (), s) => (true, s)
  | (.error _, s) => (false, s)

/-- Does all jobs of the hub. -/
def drain : Act σ Unit := fun s =>
  (.ok (), Hub.drain (site.inside Site.hubPlace) (send deliver) s)

/-- Puts a job at the end of the hub's queue, and does all jobs. -/
def settle (job : Hub.Job Notice) : Act σ Unit := do
  Act.modify (site.inside Site.hubPlace) (Hub.post job)
  drain site deliver

/-- Tells a client the actor and the active position as they are. -/
def greet (client : String) : Act σ Unit := do
  tell deliver client (.actor (← Act.read site).context.actor.value)
  tell deliver client (.activeIndex (← Act.read site).context.activeIndex.value)

/-- Lets a client in; a fault on the way ends the connection. -/
def enter (client : String) : Act σ Unit := do
  let _ ← Site.session site
  deliver client .accepted
  settle site deliver (.join client)
  match ← (greet site deliver client).attempt with
  | .ok () => return
  | .error fault =>
      settle site deliver (.leave client)
      Act.fail fault

/-- What becomes of a client that connects on some path. -/
def connect (client target : String) : Act σ Connection := do
  if target == path || target == path ++ "\n" then
    match ← (enter site deliver client).attempt with
    | .ok () => return .attached
    | .error fault => return .broken fault
  else
    deliver client (.closed 1000)
    return .ended

/-- What becomes of a connection when its client does something. -/
def receive (client : String) (signal : Signal) : Connection → Act σ Connection
  | .attached =>
      match signal with
      | .text _ => return .attached
      | .bytes => do
          settle site deliver (.leave client)
          return .broken .noText
      | .leave => do
          settle site deliver (.leave client)
          return .ended
  | connection => return connection

end Live

end Gridwalk
