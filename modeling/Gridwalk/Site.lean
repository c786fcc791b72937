import Gridwalk.Dispatch
import Gridwalk.Hub
import Gridwalk.Session

/-!
# The site

A site is what a server keeps: the context of its session, if one is open, the store, and
the hub through which clients are told of every change of the actor and of the active
position.  The observer that passes changes on to the hub is subscribed when the session
is opened.
-/

set_option autoImplicit false

namespace Gridwalk

/-- What a server keeps. -/
structure Site where
  sessions : SessionSlot := {}
  context : Context := {}
  store : Store := {}
  hub : Hub Notice := {}

namespace Site

variable {σ : Type}

/-- Where the context is kept. -/
def contextPlace : Place Site Context where
  get s := s.context
  set context s := { s with context }

/-- Where the store is kept. -/
def storePlace : Place Site Store where
  get s := s.store
  set store s := { s with store }

/-- Where the hub is kept. -/
def hubPlace : Place Site (Hub Notice) where
  get s := s.hub
  set hub s := { s with hub }

/-- The name of the observer that passes changes on to the hub. -/
def forwarder : String := "hub"

/-- The name under which the context of a site pauses. -/
def owner : String := "site"

/-- The context of a site on its stage. -/
def stage (site : Place σ Site) : Stage σ where
  owner := owner
  context := site.inside contextPlace
  observe _ notice := Act.modify (site.inside hubPlace) (Hub.post (.broadcast notice))
  custom _ := pure ()

/-- The session that is open. -/
def session (site : Place σ Site) : Act σ Session := do
  Act.ofExcept (← Act.read site).sessions.session

/-- Begins with a fresh context; from then on changes are passed on to the hub. -/
def begin (site : Place σ Site) (settings : Settings) : Act σ Unit := do
  Act.modify site fun s => { s with context := { settings } }
  (stage site).subscribeActor forwarder
  (stage site).subscribeIndex forwarder

/-- Opens a session with a fresh context, or gives the one that is open. -/
def openSession (site : Place σ Site) (id : String) (given : Option Settings)
    (env : Environment) : Act σ Session := do
  let slot := (← Act.read site).sessions
  let (session, opened) ← Act.ofExcept (slot.openSession id given env)
  if slot.current.isNone then
    begin site session.settings
    Act.modify site fun s => { s with sessions := opened }
  return session

/-- The place of the store is lawful. -/
theorem lawful_storePlace : storePlace.Lawful where
  get_set _ _ := rfl
  set_get _ := rfl
  set_set _ _ _ := rfl

end Site

end Gridwalk
