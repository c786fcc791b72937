import Gridwalk.Proofs.Execution

/-!
# Expanding loops

Loops are only a way to write programs shorter.  The expansion of a program lists the actions
of basic commands that it comes to, and a cut wherever a loop lies too deep (`expand_eq`); its
flat form is the program of all actions before the first cut.  The flat form names basic commands
only, and it is its own expansion (`expansion_flat`).

`Stage.carryOut` does the marks of an expansion one by one and stops at the first cut.  So a
program with a cut does what its flat form does, and is refused then (`Stage.carryOut_eq`).
-/

set_option autoImplicit false

namespace Gridwalk

/-- An entry of an expansion. -/
inductive Mark where
  /-- A basic command is done. -/
  | action (b : Basic)
  /-- The loop of an id lies too deep. -/
  | cut (id : String)
  deriving DecidableEq, Repr

namespace Mark

/-- The actions before the first cut. -/
def actions : List Mark → List Basic
  | [] => []
  | .action b :: rest => b :: actions rest
  | .cut _ :: _ => []

/-- The loop at the first cut. -/
def cut? : List Mark → Option String
  | [] => none
  | .action _ :: rest => cut? rest
  | .cut id :: _ => some id

/-- Actions without a cut are all done. -/
@[simp] theorem actions_map_action (bs : List Basic) : actions (bs.map .action) = bs := by
  induction bs with
  | nil => rfl
  | cons b rest ih => simp [actions, ih]

/-- There is no cut among actions. -/
@[simp] theorem cut?_map_action (bs : List Basic) : cut? (bs.map .action) = none := by
  induction bs with
  | nil => rfl
  | cons b rest ih => exact ih

/-- The program of the actions before the first cut. -/
def flat (marks : List Mark) : List Phrase :=
  (actions marks).map fun b => .whole b.id

end Mark

/-- What is left below a depth is the limit less that depth. -/
theorem levelsBelow_natCast (depth : Nat) : levelsBelow depth = maxLoopDepth - depth := by
  have hlimit : Int.ofNat maxLoopDepth = (maxLoopDepth : Int) := rfl
  unfold levelsBelow
  rw [hlimit]
  omega

namespace Catalog

/-- What a command comes to, if some levels of loops may still be entered. -/
def unfolded (catalog : Catalog) : (levels : Nat) → Command → List Mark
  | _, .basic b => [.action b]
  | 0, .loop l => [.cut l.id]
  | levels + 1, .loop l =>
      (List.replicate l.repeats.toNat (l.children.flatMap fun id =>
        match catalog.named id with
        | none => []
        | some child => catalog.unfolded levels child)).flatten

/-- What an id comes to at a depth of loops. -/
def expand (catalog : Catalog) (id : Phrase) (depth : Nat) : List Mark :=
  match catalog.named id with
  | none => []
  | some command => catalog.unfolded (levelsBelow depth) command

/-- What a program comes to. -/
def expansion (catalog : Catalog) (ids : List Phrase) : List Mark :=
  ids.flatMap fun id => catalog.expand id 0

/-- An unknown id comes to nothing, a basic command to its action, a loop at depth eight or
deeper to a cut, and any other loop to its children at the next depth, in order, the whole as
often as it is repeated. -/
theorem expand_eq (catalog : Catalog) (id : Phrase) (depth : Nat) :
    catalog.expand id depth =
      match catalog.named id with
      | none => []
      | some (.basic b) => [.action b]
      | some (.loop l) =>
          if maxLoopDepth ≤ depth then [.cut l.id]
          else (List.replicate l.repeats.toNat
            (l.children.flatMap fun child => catalog.expand child (depth + 1))).flatten := by
  unfold expand
  cases catalog.named id with
  | none => rfl
  | some command =>
      cases command with
      | basic b => cases levelsBelow depth <;> rfl
      | loop l =>
          by_cases hdepth : maxLoopDepth ≤ depth
          · have hlevels : levelsBelow depth = 0 := by
              rw [levelsBelow_natCast]
              omega
            simp only [hlevels, hdepth, if_true, unfolded]
          · have hlevels : levelsBelow depth = levelsBelow (depth + 1 : Nat) + 1 := by
              rw [levelsBelow_natCast, levelsBelow_natCast]
              omega
            simp only [hlevels, hdepth, if_false, unfolded]

end Catalog

/-- Every action of an expansion is named in the catalog. -/
theorem named_of_mem_unfolded {catalog : Catalog} {levels : Nat} {command : Command} {b : Basic}
    (hcommand : ∃ id, catalog.named id = some command)
    (hb : .action b ∈ catalog.unfolded levels command) :
    catalog.named (.whole b.id) = some (.basic b) := by
  induction levels generalizing command with
  | zero =>
      cases command with
      | basic b' =>
          obtain ⟨id, hid⟩ := hcommand
          obtain rfl : b = b' := by simpa [Catalog.unfolded] using hb
          exact Catalog.named_id hid
      | loop l => simp [Catalog.unfolded] at hb
  | succ levels ih =>
      cases command with
      | basic b' =>
          obtain ⟨id, hid⟩ := hcommand
          obtain rfl : b = b' := by simpa [Catalog.unfolded] using hb
          exact Catalog.named_id hid
      | loop l =>
          simp only [Catalog.unfolded, List.mem_flatten, List.mem_replicate] at hb
          obtain ⟨marks, ⟨-, rfl⟩, hb⟩ := hb
          obtain ⟨id, -, hb⟩ := List.mem_flatMap.mp hb
          cases hid : catalog.named id with
          | none => simp [hid] at hb
          | some child =>
              rw [hid] at hb
              exact ih ⟨id, hid⟩ hb

/-- Every action of a program's expansion is named in the catalog. -/
theorem named_of_mem_expansion {catalog : Catalog} {ids : List Phrase} {b : Basic}
    (hb : .action b ∈ catalog.expansion ids) :
    catalog.named (.whole b.id) = some (.basic b) := by
  obtain ⟨id, -, hb⟩ := List.mem_flatMap.mp hb
  unfold Catalog.expand at hb
  cases hid : catalog.named id with
  | none => simp [hid] at hb
  | some command =>
      rw [hid] at hb
      exact named_of_mem_unfolded ⟨id, hid⟩ hb

/-- The actions before the first cut are actions. -/
theorem mem_of_mem_actions {marks : List Mark} {b : Basic} (hb : b ∈ Mark.actions marks) :
    .action b ∈ marks := by
  induction marks with
  | nil => cases hb
  | cons mark rest ih =>
      cases mark with
      | action b' =>
          rcases List.mem_cons.mp hb with rfl | hb
          · exact List.mem_cons_self
          · exact List.mem_cons_of_mem _ (ih hb)
      | cut id => cases hb

/-- A list of actions is its own expansion. -/
theorem expansion_actions {catalog : Catalog} {bs : List Basic}
    (hbs : ∀ b ∈ bs, catalog.named (.whole b.id) = some (.basic b)) :
    catalog.expansion (bs.map fun b => .whole b.id) = bs.map .action := by
  induction bs with
  | nil => rfl
  | cons b rest ih =>
      have hb := hbs b List.mem_cons_self
      have hrest := ih fun b' hb' => hbs b' (List.mem_cons_of_mem _ hb')
      have hexpand : catalog.expand (.whole b.id) 0 = [.action b] := by
        rw [Catalog.expand_eq, hb]
      show catalog.expand (.whole b.id) 0 ++ catalog.expansion (rest.map _) = _
      rw [hexpand, hrest]
      rfl

/-- The flat form of a program comes to the actions before the first cut. -/
theorem expansion_flat {catalog : Catalog} {ids : List Phrase} {marks : List Mark}
    (hmarks : marks = catalog.expansion ids) :
    catalog.expansion (Mark.flat marks) = (Mark.actions marks).map .action := by
  refine expansion_actions fun b hb => ?_
  have hmem := mem_of_mem_actions hb
  rw [hmarks] at hmem
  exact named_of_mem_expansion hmem

/-- The end of a program that has a cut, from the end of its flat form. -/
def Mark.cutShort : (cut : Option String) → Except Fault Unit → Except Fault Unit
  | some id, .ok () => .error (.loopTooDeep maxLoopDepth id)
  | _, ended => ended

/-- What is done at the first cut, if there is one. -/
def Routine.refuseAt {σ : Type} : (cut : Option String) → Routine σ Unit
  | none => .done ()
  | some id => .fail (.loopTooDeep maxLoopDepth id)

/-- A routine that is refused at a cut in the end is cut short. -/
theorem Routine.play_refuseAt {σ : Type} (sleep : Pause → σ → Answer × σ) (r : Routine σ Unit)
    (cut : Option String) (s : σ) :
    (r >>= fun _ => Routine.refuseAt cut).play sleep s =
      (Mark.cutShort cut (r.play sleep s).1, (r.play sleep s).2) := by
  show (r.bind fun _ => Routine.refuseAt cut).play sleep s = _
  rw [play_bind]
  cases r.play sleep s with
  | mk ended t => cases ended <;> cases cut <;> rfl

/-- Carries out the marks of an expansion, up to the first cut. -/
def Stage.carryOut {σ : Type} (stage : Stage σ) : List Mark → Routine σ Unit
  | [] => .done ()
  | .action b :: rest => do
      stage.runCommand 0 (.basic b)
      stage.carryOut rest
  | .cut id :: _ => .fail (.loopTooDeep maxLoopDepth id)

namespace Stage

variable {σ : Type} (stage : Stage σ)

/-- Marks are carried out in sequence. -/
theorem carryOut_append (marks rest : List Mark) :
    stage.carryOut (marks ++ rest) = stage.carryOut marks >>= fun _ => stage.carryOut rest := by
  induction marks with
  | nil => rfl
  | cons mark marks ih =>
      cases mark with
      | action b =>
          show (stage.runCommand 0 (.basic b) >>= fun _ => stage.carryOut (marks ++ rest)) =
            (stage.runCommand 0 (.basic b) >>= fun _ => stage.carryOut marks) >>= fun _ =>
              stage.carryOut rest
          rw [ih, LawfulMonad.bind_assoc]
      | cut id => rfl

/-- Marks written down several times are carried out as often. -/
theorem carryOut_replicate (n : Nat) (marks : List Mark) :
    stage.carryOut (List.replicate n marks).flatten =
      Routine.repeated n (stage.carryOut marks) := by
  induction n with
  | zero => rfl
  | succ n ih =>
      rw [List.replicate_succ, List.flatten_cons, carryOut_append, ih]
      rfl

/-- Up to the first cut only actions are carried out; there the loop is refused. -/
theorem carryOut_eq (marks : List Mark) :
    stage.carryOut marks =
      stage.carryOut ((Mark.actions marks).map .action) >>= fun _ =>
        Routine.refuseAt (Mark.cut? marks) := by
  induction marks with
  | nil => rfl
  | cons mark marks ih =>
      cases mark with
      | action b =>
          show (stage.runCommand 0 (.basic b) >>= fun _ => stage.carryOut marks) =
            (stage.runCommand 0 (.basic b) >>= fun _ =>
              stage.carryOut ((Mark.actions marks).map .action)) >>= _
          rw [ih, LawfulMonad.bind_assoc]
          rfl
      | cut id => rfl

end Stage

end Gridwalk
