import Gridwalk.Settings

/-!
# Sessions

There is at most one session at a time.  It is opened once, under an id and with settings
that are given or else taken from the environment; opening it again gives the session that
is there.  Sessions are numbered in the order in which they were opened.
-/

set_option autoImplicit false

namespace Gridwalk

/-- The id of a session that is not given one. -/
def defaultSessionId : String := "default"

/-- A session. -/
structure Session where
  serial : Nat
  id : String
  settings : Settings
  deriving DecidableEq, Repr

/-- The session that is open, if there is one, and how many were opened. -/
structure SessionSlot where
  current : Option Session := none
  opened : Nat := 0
  deriving DecidableEq, Repr

namespace SessionSlot

/-- Opens a session, or gives the one that is open. -/
def openSession (slot : SessionSlot) (id : String) (given : Option Settings)
    (env : Environment) : Except Fault (Session × SessionSlot) :=
  match slot.current with
  | some session => .ok (session, slot)
  | none => do
      let settings ← (given.map Except.ok).getD (Settings.load env)
      let session : Session := { serial := slot.opened + 1, id, settings }
      pure (session, { current := some session, opened := slot.opened + 1 })

/-- The session that is open. -/
def session (slot : SessionSlot) : Except Fault Session :=
  (slot.current.map Except.ok).getD (.error .noSession)

/-- Forgets the session that is open. -/
def forget (slot : SessionSlot) : SessionSlot :=
  { slot with current := none }

/-- An open session is given again, whatever is asked for. -/
theorem openSession_again {slot slot' : SessionSlot} {session : Session} {id : String}
    {given : Option Settings} {env : Environment}
    (h : slot.openSession id given env = .ok (session, slot')) (id' : String)
    (given' : Option Settings) (env' : Environment) :
    slot'.openSession id' given' env' = .ok (session, slot') := by
  unfold openSession at h
  split at h
  · rename_i current hc
    cases h
    simp [openSession, hc]
  · cases hs : (given.map Except.ok).getD (Settings.load env) with
    | error fault =>
        rw [hs] at h
        cases h
    | ok settings =>
        rw [hs] at h
        cases h
        rfl

end SessionSlot

end Gridwalk
