import Gridwalk.Act
import Gridwalk.Store

/-!
# Publishing events

The events of a run are published as entries of the stream of its session, once all of them
are written.  Entries are published one by one; a fault is the end, and the entries before it
stay published.
-/

set_option autoImplicit false

namespace Gridwalk.Journal

variable {σ : Type}

/-- The key of a session's stream. -/
def streamKey (session : String) : String := "runs:" ++ session

/-- Publishes entries, each under its key, and counts them. -/
def publish (store : Place σ Store) : List (String × Fields) → Act σ Nat
  | [] => pure 0
  | (key, fields) :: rest => do
      Act.update store fun s => s.append key fields
      let count ← publish store rest
      return count + 1

/-- Publishes the events of a run on the stream of a session, and counts them. -/
def publishRun (store : Place σ Store) (session : String) (events : List Event) :
    Act σ Nat := do
  let entries ← Act.ofExcept (events.mapM Event.fields)
  publish store (entries.map fun fields => (streamKey session, fields))

end Gridwalk.Journal
