import Gridwalk.Routine

/-!
# Schedules

A schedule keeps the routines that were started in the background.  A task goes on without
interruption until it ends or is held at a pause; the pause stays open until it is released
or the task is cancelled.  Pauses are released in the order in which they were reached: the
one at which a task was held last is the last.
-/

set_option autoImplicit false

namespace Gridwalk

/-- A routine in the background, where it stands still. -/
structure Task (σ α : Type) where
  name : String
  halt : Halt σ α

namespace Task

variable {σ α : Type}

/-- Whether a task is held at a pause of an owner. -/
def isHeldBy (owner : String) (task : Task σ α) : Bool :=
  match task.halt with
  | .held pause _ => pause.owner == owner
  | .ended _ => false

/-- A task whose outcome was told: the reason of a cancellation is told only once. -/
def told (task : Task σ α) : Task σ α :=
  match task.halt with
  | .ended (.error fault) =>
      if fault.isOrdinary then task else { task with halt := .ended (.error .cancelled) }
  | _ => task

/-- The outcome of a task that has ended. -/
def outcome? (task : Task σ α) : Option (Except Fault α) :=
  match task.halt with
  | .held _ _ => none
  | .ended outcome => some outcome

end Task

/-- Tasks, in the order in which they were held or ended. -/
structure Schedule (σ α : Type) where
  tasks : List (Task σ α) := []

namespace Schedule

variable {σ α : Type}

/-- The schedule with a task of a name at its end, in place of any of that name. -/
def insert (schedule : Schedule σ α) (name : String) (halt : Halt σ α) : Schedule σ α where
  tasks := (schedule.tasks.filter fun task => task.name != name) ++ [⟨name, halt⟩]

/-- The task of a name. -/
def find? (schedule : Schedule σ α) (name : String) : Option (Task σ α) :=
  schedule.tasks.find? fun task => task.name == name

/-- Tells the outcome of the task of a name, if it has ended. -/
def tell (schedule : Schedule σ α) (name : String) :
    Option (Except Fault α) × Schedule σ α :=
  ((schedule.find? name).bind Task.outcome?,
    ⟨schedule.tasks.map fun task => if task.name == name then task.told else task⟩)

/-- Lets a routine go on until it ends or is held, as the task of a name. -/
def advance (sleep : Pause → σ → Option Answer × σ) (schedule : Schedule σ α) (name : String)
    (routine : Routine σ α) (s : σ) : Schedule σ α × σ :=
  match routine.settle sleep s with
  | (halt, s) => (schedule.insert name halt, s)

/-- Answers the pause at which a task of a name is held, and lets it go on. -/
def answer (sleep : Pause → σ → Option Answer × σ) (schedule : Schedule σ α) (name : String)
    (reply : Answer) (s : σ) : Option (Schedule σ α × σ) := do
  match (← schedule.find? name).halt with
  | .held _ next => some (schedule.advance sleep name (next reply) s)
  | .ended _ => none

/-- Releases the pause of an owner that was reached first; with the name of the task that
went on. -/
def release (sleep : Pause → σ → Option Answer × σ) (schedule : Schedule σ α) (owner : String)
    (s : σ) : Option (String × Schedule σ α × σ) := do
  let task ← schedule.tasks.find? (Task.isHeldBy owner)
  let result ← schedule.answer sleep task.name (.ok ()) s
  return (task.name, result)

/-- Cancels a task at the pause at which it is held. -/
def cancel (sleep : Pause → σ → Option Answer × σ) (schedule : Schedule σ α) (name : String)
    (s : σ) : Option (Schedule σ α × σ) :=
  schedule.answer sleep name (.error .cancelled) s

end Schedule

end Gridwalk
