import Gridwalk.Fault
import Gridwalk.Phrase

/-!
# Commands

A program is a list of command ids.  A basic command does one deed; the four deeds of this
library move and turn the actor, and a custom deed is known by its name alone, its meaning
being given where the program is run.  A loop does its children a number of times; they
are named by phrases, as programs name their commands, and a phrase that is torn is the id
of no command.
-/

set_option autoImplicit false

namespace Gridwalk

/-- What a basic command does. -/
inductive Deed where
  | moveForward
  | moveBack
  | turnRight
  | turnLeft
  | custom (name : String)
  deriving DecidableEq, Repr

/-- A command that does one deed. -/
structure Basic where
  id : String
  label : String := ""
  color : String := ""
  deed : Deed
  deriving DecidableEq, Repr

/-- How often a loop is repeated unless it says otherwise. -/
def defaultRepeats : Int := 2

/-- A command that repeats other commands. -/
structure Loop where
  id : String
  label : String := ""
  color : String := ""
  repeats : Int := defaultRepeats
  children : List Phrase := []
  deriving DecidableEq, Repr

/-- New values for the editable fields of a loop. -/
structure Loop.Edit where
  repeats : Option Int := none
  children : Option (List Phrase) := none
  deriving DecidableEq, Repr

/-- The loop with the given fields replaced; a negative number of repeats is refused before
anything is replaced. -/
def Loop.edit (loop : Loop) (edit : Loop.Edit) : Except Fault Loop :=
  if edit.repeats.any (· < 0) then .error .negativeRepeats
  else
    .ok { loop with
      repeats := edit.repeats.getD loop.repeats
      children := edit.children.getD loop.children }

/-- A command of either kind. -/
inductive Command where
  | basic (command : Basic)
  | loop (loop : Loop)
  deriving DecidableEq, Repr

/-- The id of a command. -/
def Command.id : Command → String
  | .basic b => b.id
  | .loop l => l.id

/-- An edit keeps the id of a loop. -/
theorem Loop.id_of_edit {loop edited : Loop} {edit : Loop.Edit}
    (h : loop.edit edit = .ok edited) : edited.id = loop.id := by
  unfold Loop.edit at h
  split at h
  · cases h
  · cases h
    rfl

end Gridwalk
