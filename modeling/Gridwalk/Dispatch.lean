import Gridwalk.Journal
import Gridwalk.Lease
import Gridwalk.Run

/-!
# Dispatched runs

A dispatched run is a run under the lease of a session, whose events are published on the
session's stream when it has ended.  The id of the run and the token of the lease are
given; they are taken to be new.
-/

set_option autoImplicit false

namespace Gridwalk

/-- What a dispatched run needs: the session that it belongs to and fresh names for it. -/
structure Ticket where
  session : String
  token : String
  run : RunId
  deriving DecidableEq, Repr

/-- Runs a program for a session and publishes its events, unless a run is in progress on
the stage or somebody else holds the lease. -/
def Stage.dispatch {σ : Type} (stage : Stage σ) (store : Place σ Store) (ticket : Ticket)
    (ids : List Phrase) : Routine σ RunResult := do
  stage.requireIdle
  Lease.hold store ticket.session ticket.token do
    let result ← stage.execute ticket.run ids
    let _ ← (Journal.publishRun store ticket.session result.events : Act σ Nat)
    return result

end Gridwalk
