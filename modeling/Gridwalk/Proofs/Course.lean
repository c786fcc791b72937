import Gridwalk.Proofs.Amendment
import Gridwalk.Proofs.Expansion

/-!
# The course of a run

Whatever happens to the catalog meanwhile, a run comes to a list of strokes that are carried out
one by one (`Stage.recite`): positions are shown, ids are recorded, basic commands are done, and a
loop that lies too deep is refused.  A `Course` keeps, beside the strokes, the catalog at the
moment when each of them began, and how each of them ended.

On a course the parts of a run lie between moments (`Part`).  `Course.command` says which strokes a
command takes from one moment to another: an entry into a loop consists of as many repetitions as
the loop says at the moment of the entry, and a repetition of one visit for each child that the
loop has in the catalog at the moment when the repetition begins.  Later catalogs take part in
neither number; what a child is, is read in the catalog at the moment of its visit.  Parts stop at
the first stroke that raises a fault.

Every run has such a course (`Stage.execute_course`), on every stage and however the state is
changed at its pauses and by custom deeds, and it ends after finitely many pauses.
-/

set_option autoImplicit false

namespace Gridwalk

/-- One of the things that a run does one by one. -/
inductive Stroke where
  /-- The actor is shown to be moved by a run. -/
  | moving
  /-- The position of a step is shown. -/
  | point (index : Nat)
  /-- The start of a step is recorded. -/
  | started (index : Nat) (id : Phrase)
  /-- A step with an unknown id is recorded. -/
  | missing (index : Nat) (id : Phrase)
  /-- A basic command is done. -/
  | action (b : Basic)
  /-- An unknown child of a loop is recorded. -/
  | skipped (id : Phrase) (parent : String)
  /-- A loop lies too deep. -/
  | refused (id : String)
  deriving DecidableEq, Repr

/-- The strokes of a part of a run: the number of the first one, the number of the one after the
last, and how the part ended. -/
def Part : Type := Nat → Nat → Except Fault Unit → Prop

namespace Part

/-- One part, and if it raises nothing, another one from there. -/
def andThen (first second : Part) : Part := fun i j ended =>
  (∃ k, first i k (.ok ()) ∧ second k j ended) ∨ ∃ fault, ended = .error fault ∧ first i j ended

/-- Parts in turn, up to the first that raises a fault. -/
def inTurn : List Part → Part
  | [] => fun i j ended => j = i ∧ ended = .ok ()
  | part :: rest => part.andThen (inTurn rest)

end Part

/-- The strokes of a run, with the catalog when each of them began and how each of them ended. -/
structure Course where
  strokes : List Stroke
  catalog : Nat → Catalog
  outcome : Nat → Except Fault Unit

namespace Course

variable (course : Course)

/-- A single stroke. -/
def one (stroke : Stroke) : Part := fun i j ended =>
  course.strokes[i]? = some stroke ∧ j = i + 1 ∧ ended = course.outcome i

/-- What is done about a child of a loop that is known to a catalog or not. -/
def child (parent : String) (doing : Command → Part) (id : Phrase) (now : Catalog) : Part :=
  match now.named id with
  | none => course.one (.skipped id parent)
  | some command => doing command

/-- A visit to a child of a loop, which is looked up when the visit begins. -/
def visit (parent : String) (doing : Command → Part) (id : Phrase) : Part := fun visited =>
  course.child parent doing id (course.catalog visited) visited

/-- A repetition of a loop: the children that the loop has when the repetition begins are visited
in order. -/
def repetition (l : Loop) (doing : Command → Part) : Part := fun begun =>
  Part.inTurn (((course.catalog begun).childrenOf l).map (course.visit l.id doing)) begun

/-- A command, if some levels of loops may still be entered: a loop is repeated as often as it says
when it is entered. -/
def command : (levels : Nat) → Command → Part
  | _, .basic b => course.one (.action b)
  | 0, .loop l => course.one (.refused l.id)
  | levels + 1, .loop l =>
      Part.inTurn (List.replicate l.repeats.toNat (course.repetition l (command levels)))

/-- The entry of a program into the command of an id. -/
def entry (id : Phrase) (command : Command) : Part := fun entered j ended =>
  (course.catalog entered).named id = some command ∧
    course.command (levelsBelow 0) command entered j ended

/-- What is done in a step of a program whose id is known to a catalog or not. -/
def taken (index : Nat) (id : Phrase) (now : Catalog) : Part :=
  match now.named id with
  | none => course.one (.missing index id)
  | some command => (course.one (.started index id)).andThen (course.entry id command)

/-- A step of a program: its id is looked up when its position has been shown. -/
def step (index : Nat) (id : Phrase) : Part :=
  (course.one (.point index)).andThen fun shown =>
    course.taken index id (course.catalog shown) shown

/-- The steps of a program from a position on. -/
def steps : (index : Nat) → List Phrase → List Part
  | _, [] => []
  | index, id :: rest => course.step index id :: steps (index + 1) rest

/-- A program. -/
def program (ids : List Phrase) : Part :=
  (course.one .moving).andThen (Part.inTurn (course.steps 0 ids))

/-- A basic command is one action, a loop at depth eight or deeper is refused, and any other loop
is repeated as often as it says. -/
theorem command_eq (depth : Nat) (command : Command) :
    course.command (levelsBelow depth) command =
      match command with
      | .basic b => course.one (.action b)
      | .loop l =>
          if maxLoopDepth ≤ depth then course.one (.refused l.id)
          else Part.inTurn (List.replicate l.repeats.toNat (course.repetition l
            (course.command (levelsBelow (depth + 1 : Nat))))) := by
  cases command with
  | basic b => cases levelsBelow depth <;> rfl
  | loop l =>
      by_cases hdepth : maxLoopDepth ≤ depth
      · have hlevels : levelsBelow depth = 0 := by
          rw [levelsBelow_natCast]
          omega
        simp only [hlevels, hdepth, if_true, Course.command]
      · have hlevels : levelsBelow depth = levelsBelow (depth + 1 : Nat) + 1 := by
          rw [levelsBelow_natCast, levelsBelow_natCast]
          omega
        simp only [hlevels, hdepth, if_false, Course.command]

end Course

namespace Stage

open Routine

variable {σ : Type} (stage : Stage σ)

/-- Carries out a stroke. -/
def enact : Stroke → Routine σ Unit
  | .moving => do
      let _ ← stage.updateActor { isMoving := some true }
  | .point index => stage.setIndex (.index (Int.ofNat index))
  | .started index id => stage.record (.stepStarted index id)
  | .missing index id => stage.record (.stepSkipped index id)
  | .action b => stage.runCommand 0 (.basic b)
  | .skipped id parent => stage.record (.childSkipped id parent)
  | .refused id => .fail (.loopTooDeep maxLoopDepth id)

/-- Carries out strokes one by one. -/
def recite : List Stroke → Routine σ Unit
  | [] => .done ()
  | stroke :: rest => do
      stage.enact stroke
      recite rest

/-- Strokes are carried out in sequence. -/
theorem recite_append (strokes rest : List Stroke) :
    stage.recite (strokes ++ rest) = stage.recite strokes >>= fun _ => stage.recite rest := by
  induction strokes with
  | nil => rfl
  | cons stroke strokes ih =>
      show (stage.enact stroke >>= fun _ => stage.recite (strokes ++ rest)) =
        (stage.enact stroke >>= fun _ => stage.recite strokes) >>= fun _ => stage.recite rest
      rw [ih, LawfulMonad.bind_assoc]

variable (sleep : Pause → σ → Answer × σ)

/-- The state when the stroke of a number begins, if strokes are carried out from a state on. -/
def moment (strokes : List Stroke) (s : σ) (i : Nat) : σ :=
  ((stage.recite (strokes.take i)).play sleep s).2

/-- The course of strokes that are carried out from a state on. -/
def course (strokes : List Stroke) (s : σ) : Course where
  strokes := strokes
  catalog i := (stage.context.get (stage.moment sleep strokes s i)).catalog
  outcome i :=
    match strokes[i]? with
    | none => .ok ()
    | some stroke => ((stage.enact stroke).play sleep (stage.moment sleep strokes s i)).1

/-- A routine does what some strokes do, and wherever these stand in a course, they make up a
part. -/
def Follows (part : Course → Part) (r : Routine σ Unit) (s : σ) : Prop :=
  ∃ strokes, r.play sleep s = (stage.recite strokes).play sleep s ∧
    ∀ before after start, (stage.recite before).play sleep start = (.ok (), s) →
      part (stage.course sleep (before ++ strokes ++ after) start) before.length
        (before.length + strokes.length) (r.play sleep s).1

variable {stage sleep} {s : σ}

/-- After some strokes the next one begins where they led. -/
theorem moment_append {before : List Stroke} {start : σ}
    (h : (stage.recite before).play sleep start = (.ok (), s)) (rest : List Stroke) :
    stage.moment sleep (before ++ rest) start before.length = s := by
  unfold moment
  rw [List.take_left, h]

/-- A stroke of a course ends as it does when it is played from its moment. -/
theorem outcome_course {strokes : List Stroke} {stroke : Stroke} {i : Nat}
    (h : strokes[i]? = some stroke) (start : σ) :
    (stage.course sleep strokes start).outcome i =
      ((stage.enact stroke).play sleep (stage.moment sleep strokes start i)).1 := by
  simp only [course, h]

/-- What plays alike follows the same part. -/
theorem Follows.of_play {part : Course → Part} {r q : Routine σ Unit}
    (hplay : r.play sleep s = q.play sleep s) (h : stage.Follows sleep part q s) :
    stage.Follows sleep part r s := by
  unfold Follows
  rw [hplay]
  exact h

/-- After an act that changes nothing a routine follows what is left of it. -/
theorem Follows.of_read {α : Type} {part : Course → Part} {act : Act σ α}
    {f : α → Routine σ Unit} {a : α} (hact : act s = (.ok a, s))
    (h : stage.Follows sleep part (f a) s) : stage.Follows sleep part (ofAct act >>= f) s :=
  h.of_play (play_act_bind hact)

/-- A part may be said by the catalog at its beginning. -/
theorem Follows.of_catalog (part : Course → Catalog → Part) {r : Routine σ Unit}
    (h : stage.Follows sleep (fun course => part course (stage.context.get s).catalog) r s) :
    stage.Follows sleep (fun course i => part course (course.catalog i) i) r s := by
  obtain ⟨strokes, hplay, hpart⟩ := h
  refine ⟨strokes, hplay, ?_⟩
  intro before after start hbefore
  have hcatalog : (stage.course sleep (before ++ strokes ++ after) start).catalog before.length =
      (stage.context.get s).catalog := by
    show (stage.context.get (stage.moment sleep _ start before.length)).catalog = _
    rw [List.append_assoc, moment_append hbefore]
  have hbegun := hpart before after start hbefore
  rw [← hcatalog] at hbegun
  exact hbegun

/-- Every stroke is one. -/
theorem follows_one (stroke : Stroke) :
    stage.Follows sleep (fun course => course.one stroke) (stage.enact stroke) s := by
  have hone : stage.recite [stroke] = stage.enact stroke := Routine.bind_done _
  refine ⟨[stroke], by rw [hone], ?_⟩
  intro before after start hbefore
  have hstroke : (before ++ [stroke] ++ after)[before.length]? = some stroke := by simp
  refine ⟨hstroke, rfl, ?_⟩
  show ((stage.enact stroke).play sleep s).1 = _
  rw [outcome_course hstroke, List.append_assoc, moment_append hbefore]

/-- Doing nothing follows the empty part. -/
theorem follows_nil : stage.Follows sleep (fun _ => Part.inTurn []) (.done ()) s :=
  ⟨[], rfl, fun _ _ _ _ => ⟨rfl, rfl⟩⟩

/-- One routine after the other follows one part after the other. -/
theorem Follows.bind {part next : Course → Part} {r : Routine σ Unit} {f : Unit → Routine σ Unit}
    (hr : stage.Follows sleep part r s)
    (hf : ∀ t, r.play sleep s = (.ok (), t) → stage.Follows sleep next (f ()) t) :
    stage.Follows sleep (fun course => (part course).andThen (next course)) (r >>= f) s := by
  obtain ⟨strokes, hplay, hpart⟩ := hr
  have hbind : (r >>= f).play sleep s = _ := play_bind sleep r f s
  cases hresult : r.play sleep s with
  | mk result t =>
      rw [hresult] at hbind hplay hpart
      cases result with
      | error fault =>
          -- The strokes break off inside the first part; the second one has none.
          have hboth : (r >>= f).play sleep s = (.error fault, t) := hbind
          refine ⟨strokes, by rw [hboth, hplay], ?_⟩
          intro before after start hbefore
          rw [hboth]
          exact .inr ⟨fault, rfl, hpart before after start hbefore⟩
      | ok u =>
          obtain ⟨rest, hplay', hpart'⟩ := hf t hresult
          have hboth : (r >>= f).play sleep s = (f ()).play sleep t := hbind
          have hrecite : (stage.recite (strokes ++ rest)).play sleep s =
              (stage.recite rest).play sleep t := by
            rw [recite_append]
            show ((stage.recite strokes).bind _).play sleep s = _
            rw [play_bind, ← hplay]
          refine ⟨strokes ++ rest, by rw [hboth, hplay', hrecite], ?_⟩
          intro before after start hbefore
          have hled : (stage.recite (before ++ strokes)).play sleep start = (.ok (), t) := by
            rw [recite_append]
            show ((stage.recite before).bind _).play sleep start = _
            rw [play_bind, hbefore]
            exact hplay.symm
          have hfirst := hpart before (rest ++ after) start hbefore
          have hsecond := hpart' (before ++ strokes) after start hled
          rw [← List.append_assoc] at hfirst
          rw [List.append_assoc before, List.length_append] at hsecond
          rw [hboth, List.length_append, ← Nat.add_assoc]
          exact .inl ⟨before.length + strokes.length, by simpa using hfirst, by simpa using hsecond⟩

/-- Routines for the items of a list follow their parts in turn. -/
theorem follows_forM {ι : Type} {part : ι → Course → Part} {f : ι → Routine σ Unit}
    (h : ∀ item s, stage.Follows sleep (part item) (f item) s) (items : List ι) (s : σ) :
    stage.Follows sleep (fun course => Part.inTurn (items.map fun item => part item course))
      (items.forM f) s := by
  induction items generalizing s with
  | nil => exact follows_nil
  | cons item rest ih => exact (h item s).bind fun t _ => ih t

/-- A routine that is repeated follows its part as often. -/
theorem follows_repeated {part : Course → Part} {r : Routine σ Unit}
    (h : ∀ s, stage.Follows sleep part r s) (n : Nat) (s : σ) :
    stage.Follows sleep (fun course => Part.inTurn (List.replicate n (part course)))
      (Routine.repeated n r) s := by
  induction n generalizing s with
  | zero => exact follows_nil
  | succ n ih => exact (h s).bind fun t _ => ih t

/-- A command follows its part. -/
theorem command_follows (levels : Nat) (command : Command) (s : σ) :
    stage.Follows sleep (fun course => course.command levels command)
      (stage.runCommand levels command) s := by
  -- On the levels that are left, for all states: the catalog may be another one at each visit.
  induction levels generalizing command s with
  | zero =>
      cases command with
      | basic b => exact follows_one (.action b)
      | loop l => exact follows_one (.refused l.id)
  | succ levels ih =>
      cases command with
      | basic b => exact follows_one (.action b)
      | loop l =>
          have hvisit (id : Phrase) (s : σ) :
              stage.Follows sleep (fun course => course.visit l.id (course.command levels) id)
                (ofAct (stage.named id) >>= fun
                  | none => ofAct (stage.record (.childSkipped id l.id))
                  | some child => stage.runCommand levels child) s := by
            refine Follows.of_read (a := (stage.context.get s).catalog.named id) rfl
              (Follows.of_catalog (fun course => course.child l.id (course.command levels) id) ?_)
            unfold Course.child
            cases (stage.context.get s).catalog.named id with
            | none => exact follows_one (.skipped id l.id)
            | some child => exact ih child s
          refine follows_repeated (fun s => ?_) l.repeats.toNat s
          refine Follows.of_read (stage.childrenNow_eq l s) (Follows.of_catalog (fun course now =>
            Part.inTurn ((now.childrenOf l).map (course.visit l.id (course.command levels)))) ?_)
          exact follows_forM hvisit _ s

/-- What follows a part follows every part that it is a case of. -/
theorem Follows.imp {part part' : Course → Part} {r : Routine σ Unit}
    (himp : ∀ course i j ended, part course i j ended → part' course i j ended)
    (h : stage.Follows sleep part r s) : stage.Follows sleep part' r s := by
  obtain ⟨strokes, hplay, hpart⟩ := h
  exact ⟨strokes, hplay, fun before after start hbefore =>
    himp _ _ _ _ (hpart before after start hbefore)⟩

section Programs

variable (hplace : stage.context.Lawful)

include hplace

/-- A record leaves the catalog alone. -/
theorem catalog_record (occurrence : Occurrence) (s : σ) :
    (stage.context.get (stage.record occurrence s).2).catalog =
      (stage.context.get s).catalog := by
  show (stage.context.get
    (stage.context.set ((stage.context.get s).record occurrence) s)).catalog = _
  rw [hplace.get_set, Context.catalog_record]

/-- A step of a program follows its part. -/
theorem step_follows (index : Nat) (id : Phrase) (s : σ) :
    stage.Follows sleep (fun course => course.step index id) (stage.runStep index id) s := by
  refine Follows.bind (follows_one (.point index)) fun shown _ => ?_
  refine Follows.of_read (a := (stage.context.get shown).catalog.named id) rfl
    (Follows.of_catalog (fun course => course.taken index id) ?_)
  unfold Course.taken
  cases hnamed : (stage.context.get shown).catalog.named id with
  | none => exact follows_one (.missing index id)
  | some command =>
      refine Follows.bind (follows_one (.started index id)) fun entered hentered => ?_
      -- Between the look-up and the entry only the start of the step is recorded.
      have hled : (stage.record (.stepStarted index id) shown).2 = entered :=
        congrArg Prod.snd ((play_ofAct sleep _ shown).symm.trans hentered)
      have hknown : (stage.context.get entered).catalog.named id = some command := by
        rw [← hled, catalog_record hplace, hnamed]
      refine Follows.of_catalog (fun course now => fun i j ended =>
        now.named id = some command ∧ course.command (levelsBelow 0) command i j ended) ?_
      exact (command_follows (levelsBelow 0) command entered).imp fun _ _ _ _ h => ⟨hknown, h⟩

/-- The steps of a program follow the parts of its ids in turn, each at its position. -/
theorem steps_follow (index : Nat) (ids : List Phrase) (s : σ) :
    stage.Follows sleep (fun course => Part.inTurn (course.steps index ids))
      (stage.runSteps index ids) s := by
  induction ids generalizing index s with
  | nil => exact follows_nil
  | cons id rest ih => exact (step_follows hplace index id s).bind fun t _ => ih (index + 1) t

variable (sleep) in
/-- A program follows its part. -/
theorem program_follows (ids : List Phrase) (s : σ) :
    stage.Follows sleep (fun course => course.program ids) (stage.runProgram ids) s := by
  have hmoving : stage.runProgram ids = stage.enact .moving >>= fun _ => stage.runSteps 0 ids := by
    show _ = ((ofAct _ >>= fun _ => .done ()) >>= fun _ => stage.runSteps 0 ids)
    rw [LawfulMonad.bind_assoc]
    rfl
  rw [hmoving]
  exact Follows.bind (follows_one .moving) fun t _ => steps_follow hplace 0 ids t

end Programs

/-- What a run does before its program. -/
def opening (stage : Stage σ) (run : RunId) (ids : List Phrase) : Routine σ Unit := do
  stage.begin
  Act.modify stage.context fun c => c.opened run
  stage.record (.runStarted ids)

/-- A run is opened, and then its program is done and finished. -/
theorem execute_eq_opening (stage : Stage σ) (run : RunId) (ids : List Phrase) :
    stage.execute run ids =
      stage.opening run ids >>= fun _ => stage.finishing run (stage.runProgram ids) := by
  unfold opening
  rw [LawfulMonad.bind_assoc]
  simp only [LawfulMonad.bind_assoc]
  rfl

/-- Programs that are played alike are finished alike. -/
theorem finishing_play {program other : Routine σ Unit} (run : RunId)
    (h : program.play sleep s = other.play sleep s) :
    (stage.finishing run program).play sleep s = (stage.finishing run other).play sleep s := by
  show (program.attempt.bind _).play sleep s = (other.attempt.bind _).play sleep s
  rw [play_bind, play_bind, play_attempt, play_attempt, h]

end Stage

/-! ## The end of a run -/

namespace Routine

variable {σ α : Type}

/-- Where a routine stands still after a number of its pauses were answered, by the world that
changes the state at each of them. -/
def standing (world : Nat → σ → Answer × σ) (r : Routine σ α) (s : σ) : Nat → Halt σ α × σ
  | 0 => r.settle (fun _ s => (none, s)) s
  | n + 1 =>
      match standing world r s n with
      | (.ended result, t) => (.ended result, t)
      | (.held _ next, t) => (next (world n t).1).settle (fun _ s => (none, s)) (world n t).2

/-- What is held goes on from its pause, one answer later. -/
theorem standing_of_held {world : Nat → σ → Answer × σ} {r : Routine σ α} {s t : σ} {p : Pause}
    {next : Answer → Routine σ α} (h : r.settle (fun _ s => (none, s)) s = (.held p next, t))
    (n : Nat) :
    standing world r s (n + 1) =
      standing (fun m => world (m + 1)) (next (world 0 t).1) (world 0 t).2 n := by
  induction n with
  | zero => simp only [standing, h]
  | succ n ih =>
      rw [standing, ih]
      rfl

/-- What first stands still alike goes on alike. -/
theorem standing_congr {world : Nat → σ → Answer × σ} {r q : Routine σ α} {s t : σ}
    (h : r.settle (fun _ s => (none, s)) s = q.settle (fun _ s => (none, s)) t) (n : Nat) :
    standing world r s n = standing world q t n := by
  induction n with
  | zero => exact h
  | succ n ih => rw [standing, standing, ih]

/-- Every routine ends after finitely many pauses, whatever the world does at them. -/
theorem standing_ends (world : Nat → σ → Answer × σ) (r : Routine σ α) (s : σ) :
    ∃ n result t, standing world r s n = (.ended result, t) := by
  -- A routine is a well-founded tree, and each answer leads to a part of it.
  induction r generalizing world s with
  | done a => exact ⟨0, .ok a, s, rfl⟩
  | fail fault => exact ⟨0, .error fault, s, rfl⟩
  | get k ih =>
      obtain ⟨n, result, t, hends⟩ := ih s world s
      exact ⟨n, result, t, (standing_congr (r := .get k) (q := k s) rfl n).trans hends⟩
  | put u r ih =>
      obtain ⟨n, result, t, hends⟩ := ih world u
      exact ⟨n, result, t, (standing_congr (r := .put u r) (q := r) rfl n).trans hends⟩
  | pause p k ih =>
      obtain ⟨n, result, t, hends⟩ :=
        ih (world 0 s).1 (fun m => world (m + 1)) (world 0 s).2
      exact ⟨n + 1, result, t, (standing_of_held rfl n).trans hends⟩

end Routine

/-! ## Every run -/

/-- Every run has a course, on whatever stage it is made and however the state changes at its
pauses.  It does what its strokes do one by one, and these make up its program: every loop is
repeated as often as it says when it is entered, and every repetition visits the children that the
loop has when the repetition begins.  An edit of the catalog is found by whatever looks up the loop
later.  And the run ends after finitely many pauses, whatever the world does at them. -/
theorem Stage.execute_course {σ : Type} (stage : Stage σ) (hplace : stage.context.Lawful)
    (run : RunId) (ids : List Phrase) (s : σ) :
    (∀ sleep : Pause → σ → Answer × σ, ∃ strokes : List Stroke,
      let opened := ((stage.opening run ids).play sleep s).2
      (stage.execute run ids).play sleep s =
          (stage.opening run ids >>= fun _ => stage.finishing run (stage.recite strokes)).play
            sleep s ∧
        (stage.course sleep strokes opened).program ids 0 strokes.length
          ((stage.recite strokes).play sleep opened).1) ∧
      (∀ (catalog edited : Catalog) (id : String) (edit : Loop.Edit) (l : Loop),
        catalog.updateLoop id edit = .ok (l, edited) → ∀ other,
          edited.lookup other = if other = id then some (.loop l) else catalog.lookup other) ∧
      ∀ world : Nat → σ → Answer × σ, ∃ n result t,
        Routine.standing world (stage.execute run ids) s n = (.ended result, t) := by
  refine ⟨fun sleep => ?_, fun _ _ _ _ _ h => Catalog.lookup_updateLoop h, fun world =>
    Routine.standing_ends world _ s⟩
  let opened := ((stage.opening run ids).play sleep s).2
  obtain ⟨strokes, hplay, hpart⟩ := program_follows sleep hplace ids opened
  refine ⟨strokes, ?_, ?_⟩
  · rw [execute_eq_opening]
    show ((stage.opening run ids).bind _).play sleep s =
      ((stage.opening run ids).bind _).play sleep s
    rw [Routine.play_bind, Routine.play_bind]
    cases hopen : (stage.opening run ids).play sleep s with
    | mk result t =>
        cases result with
        | error fault => rfl
        | ok u =>
            have hopened : opened = t := congrArg Prod.snd hopen
            rw [hopened] at hplay
            exact finishing_play run hplay
  · have hwhole := hpart [] [] opened rfl
    rw [hplay] at hwhole
    simpa using hwhole

namespace Fleet

/-- A stage of a fleet on which custom deeds edit a loop. -/
def editing (name id : String) (edit : Loop.Edit) : Stage Fleet :=
  { stage .quiet name with
    custom := fun _ => do
      let _ ← (stage .quiet name).updateLoop id edit }

/-- A fleet whose contexts have one loop, which does a custom deed and goes ahead, twice. -/
def growing : Fleet where
  contexts _ :=
    { catalog := {
        commands := [
          .basic { id := "ahead", deed := .moveForward },
          .basic { id := "grow", deed := .custom "grow" },
          .loop { id := "again", repeats := 2, children := ["grow", "ahead"] }]
        distinct := by decide } }

/-- The edit that a loop of a growing fleet makes of itself. -/
def growth : Loop.Edit where
  repeats := some 9
  children := some ["ahead", "ahead", "ahead"]

/-- Every context of a fleet is a lawful place. -/
theorem place_lawful (name : String) : (place name).Lawful where
  get_set c f := by simp [place]
  set_get f := by simp [place]
  set_set c d f := by simp [place]

/-- A loop that edits itself in its first repetition ends that one as it was begun, and does only
the one repetition that was left, with three children: five actions in all. -/
theorem execute_course_growing :
    (∃ strokes, (((editing "a" "again" growth).course (pace fun _ _ => .ok ()) strokes
        (((editing "a" "again" growth).opening (.ofNat 0) ["again"]).play (pace fun _ _ => .ok ())
          growing).2).program ["again"] 0 strokes.length
        (((editing "a" "again" growth).recite strokes).play (pace fun _ _ => .ok ())
          (((editing "a" "again" growth).opening (.ofNat 0) ["again"]).play
            (pace fun _ _ => .ok ()) growing).2).1)) ∧
      (((editing "a" "again" growth).execute (.ofNat 0) ["again"]).play (pace fun _ _ => .ok ())
        growing).1.toOption.map RunResult.stepsExecuted = some 5 := by
  have h := (editing "a" "again" growth).execute_course (place_lawful "a") (.ofNat 0) ["again"]
    growing
  obtain ⟨strokes, -, hprogram⟩ := h.1 (pace fun _ _ => .ok ())
  exact ⟨⟨strokes, hprogram⟩, by decide +kernel⟩

end Fleet

end Gridwalk
