import Gridwalk.Act

/-!
# The hub

A hub passes payloads on to its members.  Joining, leaving and broadcasting are jobs that
wait in one queue and are done in the order in which they were given.  A broadcast goes to
everyone who is a member when its turn comes, one send after the other; who cannot be
reached is left out of the members once the broadcast is over, and does not hinder the
others.

The hub works step by step (`Hub.step`): a step does what can be done at once, or makes
one send.  `Hub.drain` makes as many steps as the waiting jobs can take.
-/

set_option autoImplicit false

namespace Gridwalk

/-- What waits for its turn at a hub. -/
inductive Hub.Job (α : Type) where
  /-- A client is to become a member. -/
  | join (client : String)
  /-- A client is to be a member no longer. -/
  | leave (client : String)
  /-- A payload is to be sent to the members. -/
  | broadcast (payload : α)
  /-- A payload is being sent: who has yet to get it, and who could not be reached. -/
  | sending (payload : α) (waiting unreached : List String)
  deriving Repr

/-- The members of a hub and its jobs, the first in front. -/
structure Hub (α : Type) where
  members : List String := []
  jobs : List (Hub.Job α) := []
  deriving Repr

namespace Hub

variable {σ α : Type}

/-- Puts a job at the end of the queue. -/
def post (job : Job α) (hub : Hub α) : Hub α :=
  { hub with jobs := hub.jobs ++ [job] }

/-- The send that comes next, if the job in front waits for one. -/
def due? (hub : Hub α) : Option (String × α) :=
  match hub.jobs with
  | .sending payload (client :: _) _ :: _ => some (client, payload)
  | _ => none

/-- The hub after the send that came next. -/
def sent (reached : Bool) (hub : Hub α) : Hub α :=
  match hub.jobs with
  | .sending payload (client :: waiting) unreached :: rest =>
      let unreached := if reached then unreached else client :: unreached
      { hub with jobs := .sending payload waiting unreached :: rest }
  | _ => hub

/-- The hub after a step of the job in front that needs no send. -/
def turn (hub : Hub α) : Hub α :=
  match hub.jobs with
  | [] => hub
  | .join client :: rest => { members := hub.members.insert client, jobs := rest }
  | .leave client :: rest =>
      { members := hub.members.filter fun member => member != client, jobs := rest }
  | .broadcast payload :: rest =>
      { hub with jobs := .sending payload hub.members [] :: rest }
  | .sending _ [] unreached :: rest =>
      { members := hub.members.filter fun member => !unreached.contains member, jobs := rest }
  | .sending _ (_ :: _) _ :: _ => hub

/-- Makes one step, where `send` says whether a client could be reached. -/
def step (place : Place σ (Hub α)) (send : String → α → σ → Bool × σ) (s : σ) : σ :=
  match (place.get s).due? with
  | none => place.set (place.get s).turn s
  | some (client, payload) =>
      match send client payload s with
      | (reached, s) => place.set ((place.get s).sent reached) s

/-- Makes a number of steps. -/
def steps (place : Place σ (Hub α)) (send : String → α → σ → Bool × σ) : Nat → σ → σ
  | 0, s => s
  | n + 1, s => steps place send n (step place send s)

/-- How many steps a job may take at a hub where at most `size` clients are members. -/
def Job.cost (size : Nat) : Job α → Nat
  | .join _ => 1
  | .leave _ => 1
  | .broadcast _ => size + 2
  | .sending _ waiting _ => waiting.length + 1

/-- The most members that a hub can have before its jobs are done. -/
def capacity (hub : Hub α) : Nat := hub.members.length + hub.jobs.length

/-- How many steps the jobs of a hub may take. -/
def work (hub : Hub α) : Nat :=
  hub.jobs.foldr (fun job steps => job.cost hub.capacity + steps) 0

/-- Does all jobs. -/
def drain (place : Place σ (Hub α)) (send : String → α → σ → Bool × σ) (s : σ) : σ :=
  steps place send (place.get s).work s

end Hub

end Gridwalk
