import Gridwalk.Routine
import Gridwalk.Store

/-!
# The lease of a session

Whoever runs a program for a session holds the lease of that session: an expiring text in
the store, the token of the holder, under a key made of the session's id.  The lease is
taken only if the key holds nothing.  At the end it is given back only if the key still
holds the token, so that a lease that expired and was taken by another holder is left
alone.
-/

set_option autoImplicit false

namespace Gridwalk.Lease

variable {σ α : Type}

/-- The key of a session's lease. -/
def key (session : String) : String := "lock:run:" ++ session

/-- Takes the lease, if nobody has it. -/
def take (store : Place σ Store) (session token : String) : Act σ Unit :=
  Act.update store fun s =>
    match s.claim? (key session) token with
    | some s => .ok s
    | none => .error .runInProgress

/-- Gives the lease back, if it is still held under the token. -/
def release (store : Place σ Store) (session token : String) : Act σ Unit :=
  Act.update store fun s => do
    let held ← s.text? (key session)
    pure (if held = some token then s.erase (key session) else s)

/-- Does a routine under the lease, which is given back however the routine ends. -/
def hold (store : Place σ Store) (session token : String) (body : Routine σ α) :
    Routine σ α := do
  take store session token
  Routine.ensure body (release store session token)

end Gridwalk.Lease
