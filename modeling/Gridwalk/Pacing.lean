import Gridwalk.Json.Binary
import Gridwalk.Routine

/-!
# Pacing

A context says how long a pause is meant to last; a pacing says what comes of it.  It counts
the pauses and answers each of them: with the fault of the first rule that applies, or with
nothing.  A rule can ask for the number of the pause, counted from one, for its length in
milliseconds, for both or for neither.  Paced by hand, a pause in the background that no
rule applies to is left open.  Paced by the clock, a pause cannot be made if its length in seconds
is beyond every real number.
-/

set_option autoImplicit false

namespace Gridwalk

/-- A fault that is raised at some pauses. -/
structure Pacing.Rule where
  call : Option Int := none
  ms : Option Int := none
  fault : Fault
  deriving DecidableEq, Repr

/-- Whether a rule applies to a pause of some number and some length. -/
def Pacing.Rule.applies (rule : Pacing.Rule) (call : Nat) (ms : Int) : Bool :=
  rule.call.all (· == Int.ofNat call) && rule.ms.all (· == ms)

/-- What comes of pauses. -/
structure Pacing where
  rules : List Pacing.Rule := []
  byHand : Bool := false
  byClock : Bool := false
  /-- How many pauses there were. -/
  calls : Nat := 0
  deriving DecidableEq, Repr, Inhabited

namespace Pacing

/-- The pacing after one more pause. -/
def next (pacing : Pacing) : Pacing :=
  { pacing with calls := pacing.calls + 1 }

/-- Whether a number of milliseconds is a number of seconds that a clock can count. -/
def isCountable (ms : Int) : Bool :=
  match Binary.ofRat (mkRat ms 1000) with
  | .finite _ => true
  | _ => false

/-- The answer to the next pause, which lasts no time. -/
def answer (pacing : Pacing) (ms : Int) : Answer :=
  match pacing.rules.find? fun rule => rule.applies (pacing.calls + 1) ms with
  | some rule => .error rule.fault
  | none => if pacing.byClock && !isCountable ms then .error .quotientBeyondReals else .ok ()

/-- The answer to the next pause in the background; nothing if it is left open. -/
def answerLater (pacing : Pacing) (ms : Int) : Option Answer :=
  match pacing.answer ms with
  | .error fault => some (.error fault)
  | .ok () => if pacing.byHand then none else some (.ok ())

end Pacing

end Gridwalk
