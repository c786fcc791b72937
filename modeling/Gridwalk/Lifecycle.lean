import Gridwalk.Fault

/-!
# The lifecycle of runs

A context is idle or has a run in progress.  The two transitions `start` and `stop` are
refused in the phase that they do not leave from.  `begin?` starts a run and reports a run in
progress as such; `finish` stops the run if there is one.
-/

set_option autoImplicit false

namespace Gridwalk

/-- Whether a run is in progress. -/
inductive Phase where
  | idle
  | running
  deriving DecidableEq, Repr, Inhabited

namespace Phase

/-- Whether a run is in progress. -/
def isRunning : Phase → Bool
  | .idle => false
  | .running => true

/-- The transition from idle to running. -/
def start : Phase → Except Fault Phase
  | .idle => .ok .running
  | .running => .error .transitionNotAllowed

/-- The transition from running to idle. -/
def stop : Phase → Except Fault Phase
  | .idle => .error .transitionNotAllowed
  | .running => .ok .idle

/-- Starts a run unless one is in progress. -/
def begin? : Phase → Except Fault Phase
  | .idle => .ok .running
  | .running => .error .runInProgress

/-- Ends the run in progress, if there is one. -/
def finish : Phase → Phase
  | _ => .idle

/-- A run can be started exactly when none is in progress. -/
theorem begin?_eq_ok_iff (phase : Phase) :
    phase.begin? = .ok .running ↔ phase.isRunning = false := by
  cases phase <;> simp [begin?, isRunning]

end Phase

end Gridwalk
