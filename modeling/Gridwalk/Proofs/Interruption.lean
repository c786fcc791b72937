import Gridwalk.Proofs.Calls
import Gridwalk.Proofs.Change
import Mathlib.Data.List.Infix

/-!
# Runs that are interrupted

Two runs are compared: one in which every pause succeeds, and one in which a single pause raises a
fault.  Up to that pause they are the same (`Fleet.play_parts`).  What the second one does from
there on is little: a fault at a pause leads through the commands without a further pause, and all
that is changed on its way is the flag of a hold, which is cleared (`Fleet.Breaks`).  The run is
then finished with that fault.

Commands keep to a contract (`Fleet.brittle`) that says this of all their pauses, and besides that
they only add to what was told and recorded, and that an action is counted exactly when its step
pause has returned.  `Fleet.execute_interrupted` puts the two runs together.
-/

set_option autoImplicit false

namespace Gridwalk

/-- Whether a command is a loop or does one of the deeds of this library. -/
def Command.isBuiltin : Command → Bool
  | .basic ⟨_, _, _, .custom _⟩ => false
  | _ => true

/-- All basic commands of a catalog do deeds of this library. -/
def Catalog.IsBuiltin (catalog : Catalog) : Prop :=
  ∀ command ∈ catalog.commands, command.isBuiltin = true

/-- What a phrase names in such a catalog is such a command. -/
theorem Catalog.IsBuiltin.named {catalog : Catalog} (h : catalog.IsBuiltin) {id : Phrase}
    {command : Command} (hnamed : catalog.named id = some command) : command.isBuiltin = true := by
  cases id with
  | torn codes => cases hnamed
  | whole text => exact h command (List.mem_of_find?_eq_some hnamed)

namespace Fleet

open Routine

/-! ## One pause that raises a fault -/

/-- Every pause succeeds. -/
def succeed (_ : List Pause) (_ : Pause) : Answer := .ok ()

/-- Every pause succeeds, except that the one after a number of others raises a fault. -/
def failAfter (m : Nat) (fault : Fault) (earlier : List Pause) (_ : Pause) : Answer :=
  if earlier.length = m then .error fault else .ok ()

/-- Every pause succeeds, except that the one after a number of others is left open. -/
def stopAfter (m : Nat) (p : Pause) (f : Fleet) : Option Answer × Fleet :=
  (if f.pauses.length = m then none else some (.ok ()), f.noted p)

/-- Without the pause that raises the fault two runs are the same; otherwise both are held at that
pause in the same fleet, and go on from there. -/
theorem play_parts {α : Type} (m : Nat) (fault : Fault) (r : Routine Fleet α) (f : Fleet) :
    match r.settle (stopAfter m) f with
    | (.ended result, g) =>
        r.play (pace succeed) f = (result, g) ∧ r.play (pace (failAfter m fault)) f = (result, g)
    | (.held _ next, g) =>
        r.play (pace succeed) f = (next (.ok ())).play (pace succeed) g ∧
          r.play (pace (failAfter m fault)) f =
            (next (.error fault)).play (pace (failAfter m fault)) g := by
  induction r generalizing f with
  | done a => exact ⟨rfl, rfl⟩
  | fail raised => exact ⟨rfl, rfl⟩
  | get k ih => exact ih f f
  | put g r ih => exact ih g
  | pause p k ih =>
      by_cases hm : f.pauses.length = m
      · simp [settle, stopAfter, hm, play, pace, failAfter, succeed]
      · simpa [settle, stopAfter, hm, play, pace, failAfter, succeed] using ih (.ok ()) (f.noted p)

/-! ## What commands keep to -/

/-- What a fault at a pause leaves behind on its way: after a hold at the edge the flag is
cleared. -/
def released (f : Fleet) (name : String) : Hold → Fleet
  | .step => f
  | .bounds => f.change name (.hold false)

/-- A fault at a pause leads through what follows without a further pause. -/
def Breaks {α : Type} (name : String) (p : Pause) (next : Answer → Routine Fleet α) : Prop :=
  ∀ fault g, Reaches (next (.error fault)) g (.fail fault) (g.released name p.hold)

/-- A later fleet: more was told, paused and recorded, in the same run with the same catalog. -/
structure Onward (name : String) (f g : Fleet) : Prop where
  told : f.told <:+ g.told
  pauses : f.pauses <:+ g.pauses
  log : (f.contexts name).log <:+ (g.contexts name).log
  run : (g.contexts name).run = (f.contexts name).run
  catalog : (g.contexts name).catalog = (f.contexts name).catalog

/-- How many actions a pause that returned stands for. -/
def due : Option Pause → Nat
  | none => 0
  | some p => if p.hold = .step then 1 else 0

/-- How many step pauses there are. -/
def stepPauses (pauses : List Pause) : Nat :=
  pauses.countP fun p => p.hold == .step

/-- A stretch of a run with built-in actions goes on, without a pause since it began. -/
structure Along (name : String) (o : Origin Fleet) (f : Fleet) : Prop where
  onward : Onward name o.state f
  pauses : f.pauses = o.state.pauses
  builtin : (f.contexts name).catalog.IsBuiltin

/-- A stretch of a run goes on, and the action whose step pause returned when it began was counted,
apart from those that are still owed. -/
structure Settled (name : String) (owed : Nat) (o : Origin Fleet) (f : Fleet) : Prop
    extends Along name o f where
  counted : (f.contexts name).actionsCompleted + owed =
    (o.state.contexts name).actionsCompleted + due o.pause

/-- What is asked of commands, which may end with actions that are still to be counted. -/
def brittle (name : String) (owed : Nat) (α : Type) : Contract Fleet α where
  rely f g := (g.contexts name).catalog = (f.contexts name).catalog
  held o p next f := Settled name 0 o f ∧ Breaks name p next
  ended o result f :=
    match result with
    | .ok _ => Settled name owed o f
    | .error _ => Along name o f

/-- A routine that is begun and ended with actions that are still to be counted, and keeps to the
contract. -/
def Brittle {α : Type} (name : String) (before after : Nat) (r : Routine Fleet α) : Prop :=
  ∀ o f, Settled name before o f → r.Meets (brittle name after α) o f

section Steps

variable {name : String} {f g h : Fleet}

/-- Every fleet is later than itself. -/
theorem Onward.refl (name : String) (f : Fleet) : Onward name f f :=
  ⟨List.suffix_refl _, List.suffix_refl _, List.suffix_refl _, rfl, rfl⟩

/-- What is later than something later is later. -/
theorem Onward.trans (hf : Onward name f g) (hg : Onward name g h) : Onward name f h where
  told := hf.told.trans hg.told
  pauses := hf.pauses.trans hg.pauses
  log := hf.log.trans hg.log
  run := hg.run.trans hf.run
  catalog := hg.catalog.trans hf.catalog

/-- A fleet that noted a pause is later. -/
theorem onward_noted (name : String) (f : Fleet) (p : Pause) : Onward name f (f.noted p) where
  told := List.suffix_refl _
  pauses := List.suffix_cons _ _
  log := List.suffix_refl _
  run := rfl
  catalog := rfl

/-- An actor that was shown is later. -/
theorem onward_showActor (name : String) (f : Fleet) (actor : Actor) :
    Onward name f (f.showActor name actor) where
  told := List.suffix_append _ _
  pauses := List.suffix_refl _
  log := by rw [contexts_showActor_self]
  run := by rw [contexts_showActor_self]
  catalog := by rw [contexts_showActor_self]

/-- A position that was shown is later. -/
theorem onward_showIndex (name : String) (f : Fleet) (position : Position) :
    Onward name f (f.showIndex name position) where
  told := List.suffix_append _ _
  pauses := List.suffix_refl _
  log := by rw [contexts_showIndex_self]
  run := by rw [contexts_showIndex_self]
  catalog := by rw [contexts_showIndex_self]

/-- What was recorded is later. -/
theorem onward_note (name : String) (f : Fleet) (occurrence : Occurrence) :
    Onward name f (f.note name occurrence) where
  told := List.suffix_refl _
  pauses := List.suffix_refl _
  log := by
    rw [note, contexts_alter_self]
    exact Context.log_record _ _
  run := by rw [note, contexts_alter_self, Context.run_record]
  catalog := by rw [note, contexts_alter_self, Context.catalog_record]

variable {o : Origin Fleet} {owed : Nat}

/-- A stretch begins where it begins. -/
theorem Along.refl {p : Option Pause} (hbuiltin : (f.contexts name).catalog.IsBuiltin) :
    Along name ⟨p, f⟩ f :=
  ⟨Onward.refl name f, rfl, hbuiltin⟩

/-- A stretch goes on with what pauses nowhere. -/
theorem Along.later (hf : Along name o f) (hg : Onward name f g) (hpauses : g.pauses = f.pauses) :
    Along name o g where
  onward := hf.onward.trans hg
  pauses := hpauses.trans hf.pauses
  builtin := by
    rw [hg.catalog]
    exact hf.builtin

/-- What counts nothing owes as much afterwards. -/
theorem Settled.later (hf : Settled name owed o f) (hg : Onward name f g)
    (hpauses : g.pauses = f.pauses)
    (hcount : (g.contexts name).actionsCompleted = (f.contexts name).actionsCompleted) :
    Settled name owed o g where
  toAlong := hf.toAlong.later hg hpauses
  counted := by
    rw [hcount]
    exact hf.counted

/-- A change of the actor counts nothing and goes on. -/
theorem Settled.change (hf : Settled name owed o f) (change : Actor.Change) :
    Settled name owed o (f.change name change) :=
  hf.later (onward_showActor name f _) rfl (by rw [Fleet.change, contexts_showActor_self])

/-- A position that is shown counts nothing and goes on. -/
theorem Settled.showIndex (hf : Settled name owed o f) (position : Position) :
    Settled name owed o (f.showIndex name position) :=
  hf.later (onward_showIndex name f position) rfl (by rw [contexts_showIndex_self])

/-- A record counts nothing and goes on. -/
theorem Settled.note (hf : Settled name owed o f) (occurrence : Occurrence) :
    Settled name owed o (f.note name occurrence) :=
  hf.later (onward_note name f occurrence) rfl (actionsCompleted_note f name occurrence)

end Steps

section Composition

variable {name : String} {α β : Type}

/-- A fault that leads through a routine leads through what follows it. -/
theorem Breaks.bind {p : Pause} {next : Answer → Routine Fleet α} (h : Breaks name p next)
    (f : α → Routine Fleet β) : Breaks name p fun answer => (next answer).bind f :=
  fun fault g => (h fault g).bind f

/-- Brittle routines are brittle in sequence. -/
theorem Brittle.bind {before between after : Nat} {r : Routine Fleet α}
    {f : α → Routine Fleet β} (hr : Brittle name before between r)
    (hf : ∀ a, Brittle name between after (f a)) : Brittle name before after (r >>= f) := by
  intro o g hg
  apply meets_bind
  apply Meets.mono _ _ _ (hr o g hg)
  · exact fun _ _ h => h
  · exact fun o p next s h => ⟨h.1, h.2.bind f⟩
  · intro o result s h
    cases result with
    | ok a => exact hf a o s h
    | error fault => exact h

/-- Ending is brittle. -/
theorem brittle_done (a : α) : Brittle name 0 0 (.done a) :=
  fun _ _ h => h

/-- Failing is brittle, whatever is owed: a fault asks for no count. -/
theorem brittle_fail {before after : Nat} (fault : Fault) :
    Brittle name before after (.fail fault : Routine Fleet α) :=
  fun _ _ h => h.toAlong

/-- A brittle routine that is repeated is brittle. -/
theorem Brittle.repeated {r : Routine Fleet Unit} (hr : Brittle name 0 0 r) (n : Nat) :
    Brittle name 0 0 (Routine.repeated n r) := by
  induction n with
  | zero => exact brittle_done ()
  | succ n ih => exact hr.bind fun _ => ih

/-- Brittle routines for the items of a list are brittle. -/
theorem Brittle.forM {ι : Type} {f : ι → Routine Fleet Unit} (hf : ∀ i, Brittle name 0 0 (f i))
    (items : List ι) : Brittle name 0 0 (items.forM f) := by
  induction items with
  | nil => exact brittle_done ()
  | cons i items ih => exact (hf i).bind fun _ => ih

end Composition

section Commands

variable (crowd : Crowd) (name : String)

/-- A step pause is brittle, and leaves its action to be counted. -/
theorem pause_step_brittle : Brittle name 0 1 ((stage crowd name).pause .step) := by
  intro o f hf
  refine meets_act_bind (read_eq crowd name f) ⟨⟨hf, fun fault g => .here _ _⟩, ?_⟩
  intro answer g hg
  have hbuiltin : (g.contexts name).catalog.IsBuiltin := by
    rw [show (g.contexts name).catalog = (f.contexts name).catalog from hg]
    exact hf.builtin
  cases answer with
  | ok u => exact ⟨.refl hbuiltin, rfl⟩
  | error fault => exact .refl hbuiltin

/-- Counting settles an action. -/
theorem countAction_brittle : Brittle name 1 0 (ofAct (stage crowd name).countAction) := by
  intro o f hf
  refine meets_ofAct ?_
  rw [countAction_eq]
  refine ⟨hf.toAlong.later ?_ rfl, ?_⟩
  · refine ⟨List.suffix_refl _, List.suffix_refl _, ?_, ?_, ?_⟩ <;> rw [contexts_alter_self]
  · rw [contexts_alter_self]
    exact hf.counted

/-- A hold at the edge is brittle. -/
theorem holdAtEdge_brittle : Brittle name 0 0 (stage crowd name).holdAtEdge := by
  intro o f hf
  refine meets_act_bind (updateActor_eq crowd name f (.hold true)) ?_
  refine meets_bind (meets_attempt (meets_act_bind (read_eq crowd name _) ?_))
  -- Whatever the pause brings, the flag is cleared before the fault goes on.
  have hclears (result : Except Fault Unit) (g : Fleet) :
      Reaches ((ofAct ((stage crowd name).updateActor (.hold false)) >>= fun _ => .done ()) >>=
        fun _ => Routine.ofExcept result) g (Routine.ofExcept result)
        (g.change name (.hold false)) :=
    (reaches_act_bind (f := fun _ => .done ()) (updateActor_eq crowd name g (.hold false))).bind _
  refine ⟨⟨hf.change (.hold true), fun fault g => hclears (.error fault) g⟩, ?_⟩
  intro answer g hg
  have hbuiltin : (g.contexts name).catalog.IsBuiltin := by
    rw [show (g.contexts name).catalog = _ from hg]
    exact (hf.change (.hold true)).builtin
  have hheld : Settled name 0 ⟨some ((f.change name (.hold true)).pauseOf name .bounds), g⟩ g :=
    ⟨.refl hbuiltin, rfl⟩
  have hcleared := hheld.change (.hold false)
  cases answer with
  | ok u => exact (hclears (.ok u) g).meets hcleared
  | error fault => exact (hclears (.error fault) g).meets hcleared.toAlong

/-- A move is brittle, and leaves its action to be counted. -/
theorem move_brittle (sign : Int) : Brittle name 0 1 ((stage crowd name).move sign) := by
  intro o f hf
  refine meets_act_bind (read_eq crowd name f) (meets_ofExcept_bind ?_ fun _ _ => hf.toAlong)
  rintro ⟨x, y⟩ -
  refine meets_ofExcept_bind ?_ fun _ _ => hf.toAlong
  intro out _
  cases out with
  | true =>
      refine meets_act_bind (record_eq crowd name f _) ?_
      have hedge := (holdAtEdge_brittle crowd name).bind fun _ => pause_step_brittle crowd name
      exact hedge o _ (hf.note _)
  | false =>
      refine meets_act_bind (updateActor_eq crowd name f (.place x y)) ?_
      exact pause_step_brittle crowd name o _ (hf.change _)

/-- A turn is brittle, and leaves its action to be counted. -/
theorem turn_brittle (degrees : Int) : Brittle name 0 1 ((stage crowd name).turn degrees) := by
  intro o f hf
  have hactor : (stage crowd name).actor f = (.ok (f.contexts name).actor.value, f) := rfl
  refine meets_act_bind hactor (meets_ofExcept_bind ?_ fun _ _ => hf.toAlong)
  intro angle _
  refine meets_act_bind (updateActor_eq crowd name f (.face angle)) ?_
  exact pause_step_brittle crowd name o _ (hf.change _)

/-- A basic command of this library is brittle, and counts its action. -/
theorem basic_brittle (levels : Nat) {b : Basic} (hb : (Command.basic b).isBuiltin = true) :
    Brittle name 0 0 ((stage crowd name).runCommand levels (.basic b)) := by
  have hperform : Brittle name 0 1 ((stage crowd name).perform b.deed) := by
    obtain ⟨id, label, color, deed⟩ := b
    cases deed with
    | moveForward => exact move_brittle crowd name 1
    | moveBack => exact move_brittle crowd name (-1)
    | turnRight => exact turn_brittle crowd name 90
    | turnLeft => exact turn_brittle crowd name (-90)
    | custom id => cases hb
  have hboth := hperform.bind fun _ => countAction_brittle crowd name
  cases levels <;> exact hboth

/-- Every command of this library is brittle. -/
theorem runCommand_brittle (levels : Nat) {command : Command}
    (hcommand : command.isBuiltin = true) :
    Brittle name 0 0 ((stage crowd name).runCommand levels command) := by
  induction levels generalizing command with
  | zero =>
      cases command with
      | basic b => exact basic_brittle crowd name 0 hcommand
      | loop l => exact brittle_fail _
  | succ levels ih =>
      cases command with
      | basic b => exact basic_brittle crowd name (levels + 1) hcommand
      | loop l =>
          refine Brittle.repeated (fun o f hf => ?_) _
          refine meets_act_bind (childrenNow_eq crowd name f l) ?_
          refine Brittle.forM (fun id o f hf => ?_) _ o f hf
          refine meets_act_bind (named_eq crowd name f id) ?_
          cases hnamed : (f.contexts name).catalog.named id with
          | none => exact meets_ofAct (hf.note _)
          | some child => exact ih (hf.builtin.named hnamed) o f hf

/-- A step of a program is brittle. -/
theorem runStep_brittle (index : Nat) (id : Phrase) :
    Brittle name 0 0 ((stage crowd name).runStep index id) := by
  intro o f hf
  refine meets_act_bind (setIndex_eq crowd name f _) ?_
  have hshown := hf.showIndex (.index (Int.ofNat index))
  refine meets_act_bind (named_eq crowd name _ id) ?_
  cases hnamed : ((f.showIndex name _).contexts name).catalog.named id with
  | none => exact meets_ofAct (hshown.note _)
  | some command =>
      refine meets_act_bind (record_eq crowd name _ _) ?_
      exact runCommand_brittle crowd name (levelsBelow 0) (hshown.builtin.named hnamed) o _
        (hshown.note _)

/-- The steps of a program are brittle. -/
theorem runSteps_brittle (index : Nat) (ids : List Phrase) :
    Brittle name 0 0 ((stage crowd name).runSteps index ids) := by
  induction ids generalizing index with
  | nil => exact brittle_done ()
  | cons id rest ih => exact (runStep_brittle crowd name index id).bind fun _ => ih (index + 1)

/-- A program is brittle. -/
theorem runProgram_brittle (ids : List Phrase) :
    Brittle name 0 0 ((stage crowd name).runProgram ids) := by
  intro o f hf
  refine meets_act_bind (updateActor_eq crowd name f _) ?_
  exact runSteps_brittle crowd name 0 ids o _ (hf.change _)

end Commands

/-! ## Up to the pause and from there on -/

section Stretches

variable {name : String} {α : Type}

/-- Where a brittle routine is left at a pause: the pauses before it are a number of them, as many
actions were counted as step pauses have returned, and nothing was taken back. -/
theorem settle_brittle (m base : Nat) {r : Routine Fleet α} {o : Origin Fleet} {f : Fleet}
    (h : r.Meets (brittle name 0 α) o f)
    (hcount : (o.state.contexts name).actionsCompleted + due o.pause + base =
      stepPauses o.state.pauses) (hm : o.state.pauses.length ≤ m) :
    match r.settle (stopAfter m) f with
    | (.ended _, g) => g.pauses.length ≤ m
    | (.held p next, g) => ∃ u, g = u.noted p ∧ Onward name o.state u ∧ u.pauses.length = m ∧
        (u.contexts name).actionsCompleted + base = stepPauses u.pauses ∧ Breaks name p next ∧
        (next (.ok ())).Meets (brittle name 0 α) ⟨some p, g⟩ g := by
  -- The stretch from one pause to the next keeps the count; the pause that is due joins it.
  induction r generalizing o f with
  | done a =>
      show f.pauses.length ≤ m
      rw [h.pauses]
      exact hm
  | fail fault =>
      show f.pauses.length ≤ m
      rw [h.pauses]
      exact hm
  | get k ih => exact ih f h hcount hm
  | put g r ih => exact ih h hcount hm
  | pause p k ih =>
      obtain ⟨⟨hsettled, hbreaks⟩, hnext⟩ := h
      have hgoes := hnext (.ok ()) (f.noted p) rfl
      have hcounted := hsettled.counted
      have hpauses := hsettled.pauses
      by_cases hlast : f.pauses.length = m
      · simp only [settle, stopAfter, hlast, if_true]
        refine ⟨f, rfl, hsettled.onward, hlast, ?_, hbreaks, hgoes⟩
        rw [hpauses]
        omega
      · simp only [settle, stopAfter, hlast, if_false]
        have hlength : (f.noted p).pauses.length ≤ m := by
          show f.pauses.length + 1 ≤ m
          rw [← hpauses] at hm
          omega
        have hdue : stepPauses (f.noted p).pauses = stepPauses f.pauses + due (some p) := by
          show (p :: f.pauses).countP _ = _
          rw [List.countP_cons]
          simp [stepPauses, due]
        have hfurther := ih (.ok ()) hgoes (by
          show (f.contexts name).actionsCompleted + due (some p) + base = _
          rw [hdue, hpauses]
          omega) hlength
        cases hs : (k (.ok ())).settle (stopAfter m) (f.noted p) with
        | mk halt g =>
            rw [hs] at hfurther
            cases halt with
            | ended result => exact hfurther
            | held p' next =>
                obtain ⟨u, hu, honward, hrest⟩ := hfurther
                have hlater := (hsettled.onward.trans (onward_noted name f p)).trans honward
                exact ⟨u, hu, hlater, hrest⟩

/-- A brittle routine that is played takes nothing back. -/
theorem play_brittle (answers : List Pause → Pause → Answer) {r : Routine Fleet α}
    {o : Origin Fleet} {f : Fleet} (h : r.Meets (brittle name 0 α) o f) :
    Onward name o.state (r.play (pace answers) f).2 := by
  induction r generalizing o f with
  | done a => exact h.onward
  | fail fault => exact h.onward
  | get k ih => exact ih f h
  | put g r ih => exact ih h
  | pause p k ih =>
      have hrest := ih (answers f.pauses p) (h.2 (answers f.pauses p) (f.noted p) rfl)
      exact (h.1.1.onward.trans (onward_noted name f p)).trans hrest

end Stretches

/-! ## Runs -/

/-- What observers of the actor of a context are told when it is shown, the latest first. -/
def actorNews (f : Fleet) (name : String) (actor : Actor) : List Telling :=
  ((f.contexts name).actor.observers.map fun observer => ⟨name, observer, .actor actor⟩).reverse

/-- What observers of the position of a context are told when it is shown, the latest first. -/
def indexNews (f : Fleet) (name : String) (position : Position) : List Telling :=
  ((f.contexts name).activeIndex.observers.map fun observer =>
    ⟨name, observer, .activeIndex position⟩).reverse

/-- The change that clears both flags of an actor. -/
def stilled : Actor.Change := { isMoving := some false, isHittingBounds := some false }

/-- The actor after a fault at a pause: after a hold at the edge its flag is cleared. -/
def freed (actor : Actor) : Hold → Actor
  | .step => actor
  | .bounds => actor.apply (.hold false)

/-- How a run is broken off by a fault at a pause that it made in a fleet, when as many actions were
counted. -/
structure BrokenOff (name : String) (run : RunId) (fault : Fault) (hold : Hold) (steps : Nat)
    (f : Fleet) (broken : Except Fault RunResult × Fleet) : Prop where
  /-- No further pause is made. -/
  pauses : broken.2.pauses = f.pauses
  /-- The actor stays where it is and faces where it faced. -/
  place : ∀ field, field = .x ∨ field = .y ∨ field = .angle →
    (broken.2.contexts name).actor.value.shown field = (f.contexts name).actor.value.shown field
  /-- Only the end of a hold, the idle position and the cleared flags are told. -/
  told : broken.2.told =
    f.actorNews name ((freed (f.contexts name).actor.value hold).apply stilled) ++
      (f.indexNews name (.index idleIndex) ++
        ((match hold with
          | .step => []
          | .bounds => f.actorNews name (freed (f.contexts name).actor.value .bounds)) ++
            f.told))
  /-- An ordinary fault aborts the run, which is recorded. -/
  aborted : fault.isOrdinary = true → ∃ result closing, broken.1 = .ok result ∧
    result.outcome = .aborted fault ∧ result.outcome.error? = some fault.report ∧
      result.stepsExecuted = steps ∧ result.events = (f.contexts name).events ++ [closing] ∧
        closing.run = run ∧ closing.occurrence.type = "RUN_ABORTED" ∧
          closing.occurrence.payload =
            [(Phrase.whole "steps_executed", Json.int (Int.ofNat steps)),
              (Phrase.whole "error", Json.text (fault.kind.name ++ ": " ++ fault.message))]
  /-- A cancellation passes through, and nothing is recorded. -/
  cancelled : fault.isOrdinary = false →
    broken.1 = .error fault ∧ (broken.2.contexts name).events = (f.contexts name).events

section Runs

variable (crowd : Crowd) (name : String) (f g : Fleet) (run : RunId) (ids : List Phrase)

/-- What a context holds when a hold has ended and the signs were cleared. -/
theorem contexts_cleared_released (hold : Hold) :
    ((f.released name hold).cleared name).contexts name =
      { f.contexts name with
        actor := { (f.contexts name).actor with
          value := (freed (f.contexts name).actor.value hold).apply stilled }
        activeIndex := { (f.contexts name).activeIndex with value := .index idleIndex }
        phase := .idle } := by
  cases hold <;> simp [released, cleared, Fleet.change, freed, stilled]

/-- What was told when a hold has ended and the signs were cleared. -/
theorem told_cleared_released (hold : Hold) :
    ((f.released name hold).cleared name).told =
      f.actorNews name ((freed (f.contexts name).actor.value hold).apply stilled) ++
        (f.indexNews name (.index idleIndex) ++
          ((match hold with
            | .step => []
            | .bounds => f.actorNews name (freed (f.contexts name).actor.value .bounds)) ++
              f.told)) := by
  cases hold <;> simp [released, cleared, Fleet.change, freed, stilled, actorNews, indexNews]

/-- The end of a hold and clearing leave the actor where it is, facing where it faced. -/
theorem shown_stilled (actor : Actor) (hold : Hold) {field : Actor.Field}
    (hfield : field = .x ∨ field = .y ∨ field = .angle) :
    ((freed actor hold).apply stilled).shown field = actor.shown field := by
  have hstilled : stilled.names field = false := by
    rcases hfield with rfl | rfl | rfl <;> rfl
  have hfreed : (Actor.Change.hold false).names field = false := by
    rcases hfield with rfl | rfl | rfl <;> rfl
  rw [Actor.shown_apply hstilled]
  cases hold with
  | step => rfl
  | bounds => exact Actor.shown_apply hfreed _

/-- A fault at a pause breaks the run off. -/
theorem brokenOff_released (fault : Fault) (hold : Hold) (hrun : (f.contexts name).run = some run) :
    BrokenOff name run fault hold (f.contexts name).actionsCompleted f
      ((f.released name hold).finished name run (.error fault)) := by
  have hleft := contexts_cleared_released name f hold
  have htold := told_cleared_released name f hold
  have hpauses : ((f.released name hold).cleared name).pauses = f.pauses := by
    cases hold <;> rfl
  unfold finished
  generalize (f.released name hold).cleared name = left at hleft htold hpauses ⊢
  cases hordinary : fault.isOrdinary with
  | false =>
      have houtcome : Stage.outcomeOf (.error fault) = .error fault := by
        simp [Stage.outcomeOf, hordinary]
      rw [houtcome]
      refine ⟨hpauses, ?_, htold, fun h => (nomatch h.symm.trans hordinary), fun _ => ⟨rfl, ?_⟩⟩
      · rw [hleft]
        exact fun field => shown_stilled _ hold
      · rw [hleft]
        rfl
  | true =>
      have houtcome : Stage.outcomeOf (.error fault) = .ok (.aborted fault) := by
        simp [Stage.outcomeOf, hordinary]
      rw [houtcome]
      refine ⟨hpauses, ?_, htold, fun _ => ?_, fun h => (nomatch h.symm.trans hordinary)⟩
      · have hactor : ((left.concluded name (.aborted fault)).contexts name).actor =
            (left.contexts name).actor := by
          rw [concluded, contexts_alter_self]
          exact Context.actor_record _ _
        rw [hactor, hleft]
        exact fun field => shown_stilled _ hold
      · refine ⟨_, ⟨run, .runAborted (f.contexts name).actionsCompleted fault,
          (f.contexts name).clock⟩, rfl, rfl, rfl, ?_, ?_, rfl, rfl, rfl⟩
        · show (left.contexts name).actionsCompleted = _
          rw [hleft]
        · have hnow : (left.contexts name).run = some run := by
            rw [hleft]
            exact hrun
          show ((left.contexts name).record _).events = _
          rw [Context.events_record hnow, hleft]
          rfl

/-- When a run is finished, more may have been told and recorded; its result has all events. -/
theorem finished_later (ended : Except Fault Unit) :
    let left := f.finished name run ended
    left.2.pauses = f.pauses ∧ f.told <:+ left.2.told ∧
      (f.contexts name).log <:+ (left.2.contexts name).log ∧
        ∀ result, left.1 = .ok result → result.events = (left.2.contexts name).events := by
  intro left
  have hcleared : (f.contexts name).log = ((f.cleared name).contexts name).log := by
    simp [cleared, Fleet.change]
  have htold : f.told <:+ (f.cleared name).told :=
    (List.suffix_append _ _).trans (List.suffix_append _ _)
  cases hended : Stage.outcomeOf ended with
  | error fault =>
      have hleft : left = (.error fault, f.cleared name) := by simp [left, finished, hended]
      rw [hleft]
      refine ⟨rfl, htold, ?_, fun result h => by cases h⟩
      rw [hcleared]
  | ok outcome =>
      have hleft : left = (.ok ((f.cleared name).resultOf name run outcome),
          (f.cleared name).concluded name outcome) := by simp [left, finished, hended]
      rw [hleft]
      refine ⟨rfl, htold, ?_, ?_⟩
      · rw [hcleared, concluded, contexts_alter_self]
        exact Context.log_record _ _
      · rintro result ⟨⟩
        rw [concluded, contexts_alter_self]
        rfl

/-- A run is held where its program is. -/
theorem execute_settle_of_held (hidle : (f.contexts name).phase = .idle)
    {sleep : Pause → Fleet → Option Answer × Fleet} {p : Pause}
    {next : Answer → Routine Fleet Unit}
    (hprogram : ((stage crowd name).runProgram ids).settle sleep (f.begun name run ids) =
      (.held p next, g)) :
    ∃ next', ((stage crowd name).execute run ids).settle sleep f = (.held p next', g) := by
  rw [(execute_reaches crowd hidle run ids).settle_eq]
  show ∃ next', (((stage crowd name).runProgram ids).attempt.bind _).settle sleep _ = _
  rw [settle_bind, settle_attempt, hprogram]
  exact ⟨_, rfl⟩

/-- A run that was just begun has counted what it owes: nothing. -/
theorem settled_begun (hbuiltin : (f.contexts name).catalog.IsBuiltin) :
    Settled name 0 ⟨none, f.begun name run ids⟩ (f.begun name run ids) := by
  refine ⟨.refl ?_, rfl⟩
  rw [begun, contexts_alter_self]
  exact hbuiltin

/-- Where the program of a run is left at the pause after a number of others: as many actions were
counted as step pauses have returned since the run was begun, and what follows a fault is little. -/
theorem settle_program (hbuiltin : (f.contexts name).catalog.IsBuiltin) (n : Nat) :
    match ((stage crowd name).runProgram ids).settle (stopAfter (f.pauses.length + n))
        (f.begun name run ids) with
    | (.ended _, g) => g.pauses.length ≤ f.pauses.length + n
    | (.held p next, g) => ∃ earlier, g.pauses = p :: (earlier ++ f.pauses) ∧ earlier.length = n ∧
        (g.contexts name).actionsCompleted = stepPauses earlier ∧
          (g.contexts name).run = some run ∧ Breaks name p next ∧
            Onward name g ((next (.ok ())).play (pace succeed) g).2 := by
  have hbegun : (f.begun name run ids).contexts name =
      ({ f.contexts name with phase := .running }.opened run).record (.runStarted ids) := by
    rw [begun, contexts_alter_self]
  have hzero : ((f.begun name run ids).contexts name).actionsCompleted + 0 +
      stepPauses f.pauses = stepPauses (f.begun name run ids).pauses := by
    rw [hbegun, Context.actionsCompleted_record]
    exact Nat.zero_add _
  have hpoint := settle_brittle (f.pauses.length + n) (stepPauses f.pauses)
    (runProgram_brittle crowd name ids _ _ (settled_begun name f run ids hbuiltin)) hzero
    (Nat.le_add_right f.pauses.length n)
  cases hsettle : ((stage crowd name).runProgram ids).settle (stopAfter (f.pauses.length + n))
      (f.begun name run ids) with
  | mk halt g =>
      rw [hsettle] at hpoint
      cases halt with
      | ended result => exact hpoint
      | held p next =>
          obtain ⟨u, rfl, honward, hlength, hcounted, hbreaks, hgoes⟩ := hpoint
          obtain ⟨earlier, hearlier⟩ := honward.pauses
          change earlier ++ f.pauses = u.pauses at hearlier
          rw [← hearlier] at hlength hcounted
          rw [List.length_append] at hlength
          have hsteps : stepPauses (earlier ++ f.pauses) =
              stepPauses earlier + stepPauses f.pauses := List.countP_append
          rw [hsteps] at hcounted
          refine ⟨earlier, ?_, by omega, Nat.add_right_cancel hcounted, ?_, hbreaks,
            play_brittle succeed hgoes⟩
          · rw [hearlier]
            rfl
          · refine honward.run.trans ?_
            rw [hbegun, Context.run_record]
            rfl

end Runs

/-- Compared are the run in which every pause succeeds and the run in which the pause after `n`
others raises a fault.  If the first makes no such pause, they are the same.  Otherwise both are
held at this pause in one fleet `g`, with the same tellings, pauses and events.  The first goes on
from there and only adds to them; the second is broken off, with as many actions counted as step
pauses had returned. -/
theorem execute_interrupted (crowd : Crowd) (name : String) (f : Fleet)
    (hbuiltin : (f.contexts name).catalog.IsBuiltin) (run : RunId) (ids : List Phrase) (n : Nat)
    (fault : Fault) :
    let m := f.pauses.length + n
    let call := (stage crowd name).execute run ids
    let smooth := call.play (pace succeed) f
    let broken := call.play (pace (failAfter m fault)) f
    (smooth.2.pauses.length ≤ m → broken = smooth) ∧
      (m < smooth.2.pauses.length → ∃ p next g earlier,
        call.settle (stopAfter m) f = (.held p next, g) ∧
          g.pauses = p :: (earlier ++ f.pauses) ∧ earlier.length = n ∧
            smooth = (next (.ok ())).play (pace succeed) g ∧
              broken = (next (.error fault)).play (pace (failAfter m fault)) g ∧
                g.told <:+ smooth.2.told ∧
                  (g.contexts name).events <+: (smooth.2.contexts name).events ∧
                    (∀ result, smooth.1 = .ok result →
                      result.events = (smooth.2.contexts name).events) ∧
                      BrokenOff name run fault p.hold (stepPauses earlier) g broken) := by
  intro m call smooth broken
  have hparts := play_parts m fault call f
  cases hphase : (f.contexts name).phase with
  | running =>
      have hrefused (answers : List Pause → Pause → Answer) :
          call.play (pace answers) f = (.error .runInProgress, f) :=
        execute_play_of_running crowd name f (pace answers) run ids hphase
      refine ⟨fun _ => (hrefused _).trans (hrefused _).symm, fun hmore => ?_⟩
      have hsmooth : smooth.2 = f := congrArg Prod.snd (hrefused succeed)
      rw [hsmooth] at hmore
      exact absurd hmore (by omega)
  | idle =>
      have hplay {answers : List Pause → Pause → Answer} {ended : Except Fault Unit × Fleet}
          (hended : ((stage crowd name).runProgram ids).play (pace answers)
            (f.begun name run ids) = ended) :
          call.play (pace answers) f = ended.2.finished name run ended.1 := by
        rw [← hended]
        exact execute_play_of_idle crowd name f (pace answers) run ids hphase
      have hpoint := settle_program crowd name f run ids hbuiltin n
      have hmeet := play_parts m fault ((stage crowd name).runProgram ids) (f.begun name run ids)
      cases hsettle : ((stage crowd name).runProgram ids).settle (stopAfter m)
          (f.begun name run ids) with
      | mk halt g =>
          rw [hsettle] at hmeet hpoint
          cases halt with
          | ended result =>
              -- The program makes no such pause, so both runs are finished alike.
              have hsmooth : smooth = g.finished name run result := hplay hmeet.1
              have hbroken : broken = g.finished name run result := hplay hmeet.2
              refine ⟨fun _ => hbroken.trans hsmooth.symm, fun hmore => ?_⟩
              rw [hsmooth, (finished_later name g run result).1] at hmore
              exact absurd hmore (Nat.not_lt.mpr hpoint)
          | held p next =>
              obtain ⟨earlier, hpauses, hlength, hcounted, hrun, hbreaks, hfurther⟩ := hpoint
              obtain ⟨next', hheld⟩ := execute_settle_of_held crowd name f g run ids hphase hsettle
              rw [hheld] at hparts
              obtain ⟨hsame, htold, hlog, hevents⟩ := finished_later name
                ((next (.ok ())).play (pace succeed) g).2 run
                ((next (.ok ())).play (pace succeed) g).1
              have hsmooth : smooth = ((next (.ok ())).play (pace succeed) g).2.finished name run
                  ((next (.ok ())).play (pace succeed) g).1 := hplay hmeet.1
              have hbroken : broken = (g.released name p.hold).finished name run (.error fault) :=
                hplay (hmeet.2.trans (hbreaks fault g).play_eq)
              rw [← hsmooth] at hsame htold hlog hevents
              refine ⟨fun hfew => ?_, fun _ => ?_⟩
              · have hmore := hfurther.pauses.length_le
                rw [← hsame, hpauses, List.length_cons, List.length_append, hlength] at hmore
                omega
              · refine ⟨p, next', g, earlier, hheld, hpauses, hlength, hparts.1, hparts.2,
                  hfurther.told.trans htold, ?_, hevents, ?_⟩
                · exact List.reverse_prefix.mpr (hfurther.log.trans hlog)
                · rw [← hcounted, hbroken]
                  exact brokenOff_released name g run fault p.hold hrun

/-- A fleet of contexts as sessions begin with them. -/
def plain : Fleet where
  contexts _ := {}

/-- Of a turn and a move the second fails in its step pause: it was done, but it is not counted. -/
theorem execute_interrupted_second :
    let broken := ((stage .quiet "a").execute (.ofNat 0) ["turnRight", "moveForward"]).play
      (pace (failAfter 1 (.raised .runtime (some "stop")))) plain
    (plain.contexts "a").catalog.IsBuiltin ∧ ∃ result, broken.1 = .ok result ∧
      result.outcome.error? = some "RuntimeError: stop" ∧
        broken.1.toOption.map RunResult.stepsExecuted = some 1 := by
  have hbuiltin : (plain.contexts "a").catalog.IsBuiltin := by
    unfold Catalog.IsBuiltin
    decide
  obtain ⟨-, hbroken⟩ := execute_interrupted .quiet "a" plain hbuiltin (.ofNat 0)
    ["turnRight", "moveForward"] 1 (.raised .runtime (some "stop"))
  obtain ⟨p, next, g, earlier, -, -, -, -, -, -, -, -, hend⟩ := hbroken (by decide +kernel)
  obtain ⟨result, closing, hresult, -, herror, -⟩ := hend.aborted rfl
  exact ⟨hbuiltin, result, hresult, herror, by decide +kernel⟩

end Fleet

end Gridwalk
