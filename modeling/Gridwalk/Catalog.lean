import Gridwalk.Command

/-!
# The catalog of commands

A catalog lists commands of different ids.  Commands are only added, never removed, and
only loops are edited, so ids, order, labels and kinds stay as they are.  An edit either
replaces the fields that it gives, or is refused and changes nothing.
-/

set_option autoImplicit false

namespace Gridwalk

/-- Commands of different ids, in order. -/
structure Catalog where
  commands : List Command
  distinct : (commands.map Command.id).Nodup

namespace Catalog

/-- The catalog without commands. -/
def empty : Catalog := ⟨[], List.nodup_nil⟩

instance : Inhabited Catalog := ⟨empty⟩

/-- The command of an id. -/
def lookup (catalog : Catalog) (id : String) : Option Command :=
  catalog.commands.find? fun command => command.id == id

/-- The command that a phrase names: the one of that id. -/
def named (catalog : Catalog) : Phrase → Option Command
  | .whole id => catalog.lookup id
  | .torn _ => none

/-- Adds a command at the end, if its id is new. -/
def add (catalog : Catalog) (command : Command) : Except Fault Catalog :=
  if h : command.id ∈ catalog.commands.map Command.id then
    .error (.duplicateCommand command.id)
  else
    .ok {
      commands := catalog.commands ++ [command]
      distinct := by
        rw [List.map_append, List.nodup_append]
        refine ⟨catalog.distinct, by simp, ?_⟩
        intro a ha b hb hab
        simp only [List.map_cons, List.map_nil, List.mem_singleton] at hb
        exact h (hb ▸ hab ▸ ha) }

/-- The catalog of some commands; the first id that repeats an earlier one is refused. -/
def ofList (commands : List Command) : Except Fault Catalog :=
  commands.foldlM add empty

/-- The commands with the loop of an id replaced. -/
def replaceLoop (id : String) (loop : Loop) (commands : List Command) : List Command :=
  commands.map fun command => if command.id = id then .loop loop else command

/-- Replacing a loop by one of the same id keeps all ids. -/
theorem ids_replaceLoop {id : String} {loop : Loop} (h : loop.id = id)
    (commands : List Command) :
    (replaceLoop id loop commands).map Command.id = commands.map Command.id := by
  unfold replaceLoop
  rw [List.map_map]
  apply List.map_congr_left
  intro command _
  by_cases hc : command.id = id
  · have hl : (Command.loop loop).id = id := h
    simp [hc, hl]
  · simp [hc]

/-- What is found under an id has that id. -/
theorem id_of_lookup {catalog : Catalog} {id : String} {command : Command}
    (h : catalog.lookup id = some command) : command.id = id := by
  have hfound := List.find?_some h
  simpa using hfound

/-- What a phrase names has that phrase as its id. -/
theorem named_id {catalog : Catalog} {id : Phrase} {command : Command}
    (h : catalog.named id = some command) : catalog.named (.whole command.id) = some command := by
  cases id with
  | torn codes => cases h
  | whole text =>
      have hid : command.id = text := id_of_lookup h
      rw [hid]
      exact h

/-- Edits the loop of an id; the loop as it is afterwards, and the catalog. -/
def updateLoop (catalog : Catalog) (id : String) (edit : Loop.Edit) :
    Except Fault (Loop × Catalog) :=
  match hl : catalog.lookup id with
  | none => .error (.unknownCommand id)
  | some (.basic _) => .error (.notALoop id)
  | some (.loop loop) =>
      match he : loop.edit edit with
      | .error fault => .error fault
      | .ok edited =>
          .ok (edited, {
            commands := replaceLoop id edited catalog.commands
            distinct := by
              have hid : loop.id = id := id_of_lookup hl
              rw [ids_replaceLoop (Eq.trans (Loop.id_of_edit he) hid)]
              exact catalog.distinct })

/-- The commands that every session starts with: four basic commands and one empty loop. -/
def default : Catalog where
  commands := [
    .basic ⟨"moveForward", "Move Forward", "bg-blue-500", .moveForward⟩,
    .basic ⟨"moveBack", "Move Back", "bg-indigo-500", .moveBack⟩,
    .basic ⟨"turnRight", "Turn Right", "bg-purple-500", .turnRight⟩,
    .basic ⟨"turnLeft", "Turn Left", "bg-violet-500", .turnLeft⟩,
    .loop { id := "loop", label := "Repeat", color := "bg-yellow-500" }]
  distinct := by decide

end Catalog

end Gridwalk
