import Gridwalk.Motion

/-!
# Runs

A run does the commands of a program in order.  Unknown ids are skipped.  Loops are
expanded in place: a loop reads how often it repeats when it is entered and its children
when a repetition begins, so that edits made meanwhile count from then on; loops may
contain loops, themselves included, but only eight levels deep.  An ordinary fault aborts
the rest of the program and is reported in the result; in every case the active position
and the flags of the actor are cleared and the lifecycle is ended.
-/

set_option autoImplicit false

namespace Gridwalk

/-- How many levels of loops may be entered. -/
def maxLoopDepth : Nat := 8

/-- The levels of loops that may still be entered at a depth. -/
def levelsBelow (depth : Int) : Nat :=
  (Int.ofNat maxLoopDepth - depth).toNat

/-- How a run ended. -/
inductive Outcome where
  | completed
  | aborted (cause : Fault)
  deriving DecidableEq, Repr

/-- The name of an outcome. -/
def Outcome.status : Outcome → String
  | .completed => "completed"
  | .aborted _ => "aborted"

/-- What is reported as the error of an outcome. -/
def Outcome.error? : Outcome → Option String
  | .completed => none
  | .aborted cause => some cause.report

/-- The result of a run. -/
structure RunResult where
  run : RunId
  outcome : Outcome
  stepsExecuted : Nat
  actor : Actor
  events : List Event

namespace Stage

variable {σ : Type} (stage : Stage σ)

/-- The children that a loop of the catalog has now; its own if the catalog has no loop of its
id. -/
def childrenNow (l : Loop) : Act σ (List Phrase) := do
  match (← stage.read).catalog.lookup l.id with
  | some (.loop current) => return current.children
  | _ => return l.children

/-- Counts an action as completed. -/
def countAction : Act σ Unit :=
  Act.modify stage.context fun c => { c with actionsCompleted := c.actionsCompleted + 1 }

/-- Does a command of the catalog; `levels` is how many levels of loops may still be entered. -/
def runCommand : (levels : Nat) → Command → Routine σ Unit
  | _, .basic b => do
      stage.perform b.deed
      stage.countAction
  | 0, .loop l => .fail (.loopTooDeep maxLoopDepth l.id)
  | levels + 1, .loop l =>
      Routine.repeated l.repeats.toNat do
        let children ← (stage.childrenNow l : Act σ (List Phrase))
        children.forM fun id => do
          match ← (stage.named id : Act σ (Option Command)) with
          | none => stage.record (.childSkipped id l.id)
          | some child => runCommand levels child

/-- Does a child of a loop, or skips it if it is unknown. -/
def runChild (levels : Nat) (parent : String) (id : Phrase) : Routine σ Unit := do
  match ← (stage.named id : Act σ (Option Command)) with
  | none => stage.record (.childSkipped id parent)
  | some child => stage.runCommand levels child

/-- Does a command that is handed over, whether the catalog has it or not.  A loop that the catalog
has not got keeps the children that it came with, also if there is another command of its id in the
catalog. -/
def runGiven : (levels : Nat) → Command → Routine σ Unit
  | levels, .basic b => stage.runCommand levels (.basic b)
  | 0, .loop l => stage.runCommand 0 (.loop l)
  | levels + 1, .loop l => do
      let held ← (stage.lookup l.id : Act σ (Option Command))
      if held = some (.loop l) then stage.runCommand (levels + 1) (.loop l)
      else Routine.repeated l.repeats.toNat (l.children.forM (stage.runChild levels l.id))

/-- What a command does when it is invoked by itself: a basic command does its deed and is
not counted; a loop is looked up again and run, if the catalog knows its id. -/
def invoke : Command → Routine σ Unit
  | .basic b => stage.perform b.deed
  | .loop l => do
      match ← (stage.lookup l.id : Act σ (Option Command)) with
      | none => pure ()
      | some current => stage.runCommand (levelsBelow 0) current

/-- Does the command at a position of a program. -/
def runStep (index : Nat) (id : Phrase) : Routine σ Unit := do
  stage.setIndex (.index (Int.ofNat index))
  match ← (stage.named id : Act σ (Option Command)) with
  | none => stage.record (.stepSkipped index id)
  | some command =>
      stage.record (.stepStarted index id)
      stage.runCommand (levelsBelow 0) command

/-- Does the commands of a program from a position on. -/
def runSteps : (index : Nat) → List Phrase → Routine σ Unit
  | _, [] => pure ()
  | index, id :: rest => do
      stage.runStep index id
      runSteps (index + 1) rest

/-- What is cleared at the end of every run. -/
def clear : Act σ Unit := do
  stage.setIndex (.index idleIndex)
  let _ ← stage.updateActor { isMoving := some false, isHittingBounds := some false }
  stage.finish

/-- The program of a run between its start and its clearing. -/
def runProgram (ids : List Phrase) : Routine σ Unit := do
  let _ ← stage.updateActor { isMoving := some true }
  stage.runSteps 0 ids

/-- How a program ended, if it did not end with a fault that passes through. -/
def outcomeOf : Except Fault Unit → Except Fault Outcome
  | .ok () => .ok .completed
  | .error fault => if fault.isOrdinary then .ok (.aborted fault) else .error fault

/-- The last event of a run. -/
def closing (outcome : Outcome) (steps : Nat) : Occurrence :=
  match outcome with
  | .completed => .runCompleted steps
  | .aborted cause => .runAborted steps cause

/-- Records the end of a run and makes up its result. -/
def conclude (run : RunId) (outcome : Outcome) : Act σ RunResult := do
  let steps := (← stage.read).actionsCompleted
  stage.record (closing outcome steps)
  let c ← stage.read
  Act.modify stage.context fun c => { c with run := none }
  return { run, outcome, stepsExecuted := steps, actor := c.actor.value, events := c.events }

/-- Runs a program under a new run id, unless a run is in progress. -/
def execute (run : RunId) (ids : List Phrase) : Routine σ RunResult := do
  stage.begin
  Act.modify stage.context fun c => c.opened run
  stage.record (.runStarted ids)
  let ended ← (stage.runProgram ids).attempt
  stage.clear
  let outcome ← Routine.ofExcept (outcomeOf ended)
  stage.conclude run outcome

end Stage

end Gridwalk
