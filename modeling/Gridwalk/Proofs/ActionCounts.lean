import Gridwalk.Proofs.Course
import Mathlib.Algebra.Group.Nat.Defs

/-!
# How many actions a run counts

A loop is as wide as its repetitions and its children allow, and loops lie in each other at most
eight levels deep.  So, if every loop of a catalog has at most `R` repetitions and `C` children,
then a command counts at most `max 1 ((R * C) ^ levels)` actions while so many levels of loops may
still be entered (`Stage.runCommand_counts`): the induction is on the levels that are left, and the
way in which loops name each other plays no part in it.  A run of a program is bounded by that of
its ids (`Stage.execute_counts`).

The catalog must stay as it is during the run, and nobody but the run may count actions.  The stage
is then `Steady`: observers, custom deeds and whatever is done at pauses leave the catalog and the
count alone.  How pauses are answered is left open, so that the bounds hold of runs that are
aborted or cancelled, too.
-/

set_option autoImplicit false

namespace Gridwalk

/-! ## Catalogs of bounded loops -/

/-- A command is no loop beyond some number of repetitions and some number of children. -/
def Command.Within (R C : Nat) : Command → Prop
  | .basic _ => True
  | .loop l => l.repeats ≤ R ∧ l.children.length ≤ C

/-- No loop of a catalog is beyond some number of repetitions and some number of children. -/
def Catalog.Within (catalog : Catalog) (R C : Nat) : Prop :=
  ∀ command ∈ catalog.commands, command.Within R C

/-- What a catalog names is in it. -/
theorem Catalog.mem_of_named {catalog : Catalog} {id : Phrase} {command : Command}
    (h : catalog.named id = some command) : command ∈ catalog.commands := by
  cases id with
  | whole text => exact List.mem_of_find?_eq_some h
  | torn codes => cases h

/-- The children that a loop has now are not too many. -/
theorem Catalog.Within.length_childrenOf {catalog : Catalog} {R C : Nat} (h : catalog.Within R C)
    {l : Loop} (hl : l.children.length ≤ C) : (catalog.childrenOf l).length ≤ C := by
  unfold childrenOf
  split
  next current hcurrent => exact (h _ (List.mem_of_find?_eq_some hcurrent)).2
  next => exact hl

/-- How many actions a command counts at most, if some levels of loops may still be entered. -/
def countBound (R C levels : Nat) : Nat := max 1 ((R * C) ^ levels)

/-- All repetitions of all children are no more than the next level allows. -/
theorem mul_countBound_le (R C levels : Nat) :
    R * (C * countBound R C levels) ≤ countBound R C (levels + 1) := by
  unfold countBound
  rw [← Nat.mul_assoc, Nat.pow_succ, Nat.mul_comm _ (R * C)]
  rcases Nat.eq_zero_or_pos (R * C) with hnone | hsome
  · rw [hnone, Nat.zero_mul]
    exact Nat.zero_le _
  · rw [Nat.max_eq_right (Nat.pow_pos hsome)]
    exact Nat.le_max_right _ _

/-! ## Counting -/

namespace Stage

open Routine

variable {σ : Type} (stage : Stage σ)

/-- The catalog, and how many actions are counted. -/
def tally (s : σ) : Catalog × Nat :=
  ((stage.context.get s).catalog, (stage.context.get s).actionsCompleted)

/-- Only the run counts actions, and nobody edits the catalog. -/
structure Tallies (sleep : Pause → σ → Answer × σ) : Prop where
  place : stage.context.Lawful
  observe : ∀ observer notice s, stage.tally (stage.observe observer notice s).2 = stage.tally s
  custom : ∀ id s, stage.tally ((stage.custom id).play sleep s).2 = stage.tally s
  sleep : ∀ p s, stage.tally (sleep p s).2 = stage.tally s

/-- Played from a state with a catalog, a routine leaves the catalog as it is and counts no more
than some actions, however it ends. -/
def Counts {α : Type} (sleep : Pause → σ → Answer × σ) (catalog : Catalog) (n : Nat)
    (r : Routine σ α) : Prop :=
  ∀ s, (stage.context.get s).catalog = catalog →
    (stage.context.get (r.play sleep s).2).catalog = catalog ∧
      (stage.context.get (r.play sleep s).2).actionsCompleted ≤
        (stage.context.get s).actionsCompleted + n

section Counting

variable {stage} {sleep : Pause → σ → Answer × σ} {catalog : Catalog} {α β : Type} {n m : Nat}

/-- What counts no more than some actions counts no more than any greater number. -/
theorem Counts.mono {r : Routine σ α} (h : stage.Counts sleep catalog n r) (hn : n ≤ m) :
    stage.Counts sleep catalog m r := by
  intro s hs
  obtain ⟨hcatalog, hcount⟩ := h s hs
  exact ⟨hcatalog, by omega⟩

/-- What leaves the tally alone counts nothing. -/
theorem counts_of_tally {r : Routine σ α}
    (h : ∀ s, stage.tally (r.play sleep s).2 = stage.tally s) : stage.Counts sleep catalog 0 r := by
  intro s hs
  have htally := h s
  exact ⟨(congrArg Prod.fst htally).trans hs, Nat.le_of_eq (congrArg Prod.snd htally)⟩

/-- Ending counts nothing. -/
theorem counts_done (a : α) : stage.Counts sleep catalog 0 (.done a) :=
  counts_of_tally fun _ => rfl

/-- Failing counts nothing. -/
theorem counts_fail (fault : Fault) : stage.Counts sleep catalog 0 (.fail fault : Routine σ α) :=
  counts_of_tally fun _ => rfl

/-- A result that is known counts nothing. -/
theorem counts_ofExcept (result : Except Fault α) :
    stage.Counts sleep catalog 0 (ofExcept result : Routine σ α) := by
  cases result with
  | ok a => exact counts_done a
  | error fault => exact counts_fail fault

/-- An act that leaves the tally alone counts nothing. -/
theorem counts_ofAct {act : Act σ α} (h : ∀ s, stage.tally (act s).2 = stage.tally s) :
    stage.Counts sleep catalog 0 (ofAct act) :=
  counts_of_tally fun s => by rw [play_ofAct, h]

/-- One routine after the other counts no more than both. -/
theorem Counts.bind {r : Routine σ α} {k : α → Routine σ β} (hr : stage.Counts sleep catalog n r)
    (hk : ∀ a, stage.Counts sleep catalog m (k a)) :
    stage.Counts sleep catalog (n + m) (r >>= k) := by
  intro s hs
  obtain ⟨hcatalog, hcount⟩ := hr s hs
  have hplay : (r >>= k).play sleep s = _ := play_bind sleep r k s
  rw [hplay]
  cases hresult : r.play sleep s with
  | mk result t =>
      rw [hresult] at hcatalog hcount
      cases result with
      | error fault => exact ⟨hcatalog, Nat.le_trans hcount (by omega)⟩
      | ok a =>
          obtain ⟨hcatalog', hcount'⟩ := hk a t hcatalog
          refine ⟨hcatalog', Nat.le_trans hcount' ?_⟩
          rw [← Nat.add_assoc]
          exact Nat.add_le_add_right hcount m

/-- After what counts nothing the rest counts what it counts. -/
theorem Counts.andThen {r : Routine σ α} {k : α → Routine σ β}
    (hr : stage.Counts sleep catalog 0 r) (hk : ∀ a, stage.Counts sleep catalog n (k a)) :
    stage.Counts sleep catalog n (r >>= k) := by
  have hboth := hr.bind hk
  rwa [Nat.zero_add] at hboth

/-- What the catalog says is read without counting. -/
theorem counts_of_read {act : Act σ α} {a : α} {k : α → Routine σ β}
    (hact : ∀ s, (stage.context.get s).catalog = catalog → act s = (.ok a, s))
    (hk : stage.Counts sleep catalog n (k a)) : stage.Counts sleep catalog n (ofAct act >>= k) := by
  intro s hs
  rw [play_act_bind (hact s hs)]
  exact hk s hs

/-- Catching the faults of a routine changes nothing about what it counts. -/
theorem Counts.attempt {r : Routine σ α} (h : stage.Counts sleep catalog n r) :
    stage.Counts sleep catalog n r.attempt := by
  intro s hs
  rw [play_attempt]
  exact h s hs

/-- A routine that is repeated counts no more than so many times what it counts. -/
theorem Counts.repeated {r : Routine σ Unit} (h : stage.Counts sleep catalog n r) (k : Nat) :
    stage.Counts sleep catalog (k * n) (Routine.repeated k r) := by
  induction k with
  | zero => exact (counts_done ()).mono (Nat.zero_le _)
  | succ k ih => exact (h.bind fun _ => ih).mono (by rw [Nat.succ_mul]; omega)

/-- Routines for the items of a list count no more than all of them. -/
theorem Counts.forM {ι : Type} {f : ι → Routine σ Unit}
    (h : ∀ i, stage.Counts sleep catalog n (f i)) (items : List ι) :
    stage.Counts sleep catalog (items.length * n) (items.forM f) := by
  induction items with
  | nil => exact (counts_done ()).mono (Nat.zero_le _)
  | cons item rest ih =>
      exact ((h item).bind fun _ => ih).mono (by rw [List.length_cons, Nat.succ_mul]; omega)

end Counting

/-! ## What acts leave alone -/

namespace Tallies

variable {stage} {sleep : Pause → σ → Answer × σ} (h : stage.Tallies sleep)

include h

/-- A change of the context that leaves catalog and count alone leaves the tally alone. -/
theorem set {c : Context} {s : σ} (hcatalog : c.catalog = (stage.context.get s).catalog)
    (hcount : c.actionsCompleted = (stage.context.get s).actionsCompleted) :
    stage.tally (stage.context.set c s) = stage.tally s := by
  unfold tally
  rw [h.place.get_set, hcatalog, hcount]

/-- A record leaves the tally alone. -/
theorem record (occurrence : Occurrence) (s : σ) :
    stage.tally (stage.record occurrence s).2 = stage.tally s :=
  h.set (Context.catalog_record _ _) (Context.actionsCompleted_record _ _)

/-- A change of the actor leaves the tally alone, whatever its observers do with it. -/
theorem updateActor (change : Actor.Change) (s : σ) :
    stage.tally (stage.updateActor change s).2 = stage.tally s := by
  refine Observable.revise_keeps stage.tally (fun actor s => ?_)
    (fun observer actor => h.observe observer (.actor actor)) _ s
  let shown := { (stage.context.get s).actor with value := actor }
  exact h.set (c := { stage.context.get s with actor := shown }) rfl rfl

/-- A position that is shown leaves the tally alone, whatever its observers do with it. -/
theorem setIndex (position : Position) (s : σ) :
    stage.tally (stage.setIndex position s).2 = stage.tally s := by
  refine Observable.set_keeps stage.tally (fun index s => ?_)
    (fun observer position => h.observe observer (.activeIndex position)) position s
  let shown := { (stage.context.get s).activeIndex with value := index }
  exact h.set (c := { stage.context.get s with activeIndex := shown }) rfl rfl

/-- The clearing after a run leaves the tally alone, so the count of a run stays readable. -/
theorem clear (s : σ) : stage.tally (stage.clear s).2 = stage.tally s := by
  refine Act.bind_keeps stage.tally (h.setIndex _) (fun _ s => ?_) s
  refine Act.bind_keeps stage.tally (h.updateActor _) (fun _ s => ?_) s
  exact h.set (c := { stage.context.get s with phase := _ }) rfl rfl

/-- The end of a run leaves the tally alone. -/
theorem conclude (run : RunId) (outcome : Outcome) (s : σ) :
    stage.tally (stage.conclude run outcome s).2 = stage.tally s := by
  let recorded := (stage.record (closing outcome (stage.context.get s).actionsCompleted) s).2
  refine Eq.trans ?_ (h.record (closing outcome (stage.context.get s).actionsCompleted) s)
  exact h.set (c := { stage.context.get recorded with run := none }) rfl rfl

end Tallies

/-! ## What commands count -/

section Commands

variable {stage} {sleep : Pause → σ → Answer × σ} {catalog : Catalog} (h : stage.Tallies sleep)

include h

/-- Resting counts nothing. -/
theorem rest_counts (p : Pause) : stage.Counts sleep catalog 0 (Routine.rest p) := by
  refine counts_of_tally fun s => ?_
  have hanswer : ((Routine.rest p).play sleep s).2 = (sleep p s).2 := by
    show ((ofExcept (sleep p s).1).play sleep (sleep p s).2).2 = _
    cases (sleep p s).1 <;> rfl
  rw [hanswer, h.sleep]

/-- A pause counts nothing, whatever the hold. -/
theorem pause_counts (hold : Hold) : stage.Counts sleep catalog 0 (stage.pause hold) :=
  (counts_ofAct fun _ => rfl).andThen fun _ => rest_counts h _

/-- A command that changes the actor counts nothing by that. -/
theorem updateActor_counts (change : Actor.Change) :
    stage.Counts sleep catalog 0 (ofAct (stage.updateActor change)) :=
  counts_ofAct (h.updateActor change)

/-- A command that records something counts nothing by that. -/
theorem record_counts (occurrence : Occurrence) :
    stage.Counts sleep catalog 0 (ofAct (stage.record occurrence)) :=
  counts_ofAct (h.record occurrence)

/-- Deeds count nothing. -/
theorem perform_counts (deed : Deed) : stage.Counts sleep catalog 0 (stage.perform deed) := by
  have hmove (sign : Int) : stage.Counts sleep catalog 0 (stage.move sign) := by
    have hheld : stage.Counts sleep catalog 0 stage.holdAtEdge := by
      refine (updateActor_counts h _).andThen fun _ => ?_
      refine (pause_counts h .bounds).attempt.andThen fun _ => ?_
      refine ((updateActor_counts h _).andThen fun _ => counts_done ()).andThen fun _ => ?_
      exact counts_ofExcept _
    refine (counts_ofAct fun _ => rfl).andThen fun c => ?_
    refine (counts_ofExcept _).andThen fun (x, y) => (counts_ofExcept _).andThen fun out => ?_
    cases out with
    | true => exact (record_counts h _).andThen fun _ => hheld.andThen fun _ => pause_counts h .step
    | false => exact (updateActor_counts h _).andThen fun _ => pause_counts h .step
  have hturn (degrees : Int) : stage.Counts sleep catalog 0 (stage.turn degrees) := by
    refine (counts_ofAct fun (_ : σ) => rfl).andThen fun (actor : Actor) => ?_
    refine (counts_ofExcept _).andThen fun angle => ?_
    exact (updateActor_counts h _).andThen fun _ => pause_counts h .step
  cases deed with
  | moveForward => exact hmove 1
  | moveBack => exact hmove (-1)
  | turnRight => exact hturn 90
  | turnLeft => exact hturn (-90)
  | custom id => exact counts_of_tally (h.custom id)

/-- A basic command counts one action at most. -/
theorem basic_counts (levels : Nat) (b : Basic) :
    stage.Counts sleep catalog 1 (stage.runCommand levels (.basic b)) := by
  have hcount : stage.Counts sleep catalog 1 (ofAct stage.countAction) := by
    intro s hs
    have hcounted : (stage.context.get (stage.countAction s).2) =
        { stage.context.get s with
          actionsCompleted := (stage.context.get s).actionsCompleted + 1 } :=
      h.place.get_set _ s
    rw [play_ofAct, hcounted]
    exact ⟨hs, Nat.le_refl _⟩
  have hperform : stage.Counts sleep catalog 0 (stage.perform b.deed) := perform_counts h b.deed
  cases levels <;> exact hperform.andThen fun _ => hcount

/-- A command counts no more than its levels allow. -/
theorem runCommand_counts {R C : Nat} (hcatalog : catalog.Within R C) (levels : Nat)
    {command : Command} (hcommand : command.Within R C) :
    stage.Counts sleep catalog (countBound R C levels) (stage.runCommand levels command) := by
  -- On the levels that are left: however loops name each other, a child has one level less.
  induction levels generalizing command with
  | zero =>
      cases command with
      | basic b => exact (basic_counts h 0 b).mono (Nat.le_max_left 1 _)
      | loop l => exact (counts_fail _).mono (Nat.zero_le _)
  | succ levels ih =>
      cases command with
      | basic b => exact (basic_counts h (levels + 1) b).mono (Nat.le_max_left 1 _)
      | loop l =>
          obtain ⟨hrepeats, hchildren⟩ := hcommand
          have hnow (s : σ) (hs : (stage.context.get s).catalog = catalog) :
              stage.childrenNow l s = (.ok (catalog.childrenOf l), s) := by
            rw [stage.childrenNow_eq l s, hs]
          have htimes : l.repeats.toNat ≤ R := by omega
          refine Counts.mono (n := l.repeats.toNat * (C * countBound R C levels))
            (Counts.repeated ?_ l.repeats.toNat)
            (Nat.le_trans (Nat.mul_le_mul_right _ htimes) (mul_countBound_le R C levels))
          refine counts_of_read hnow ?_
          refine (Counts.forM (fun id => ?_) _).mono
            (Nat.mul_le_mul_right _ (hcatalog.length_childrenOf hchildren))
          refine counts_of_read (a := catalog.named id) (fun s hs => by rw [← hs]; rfl) ?_
          cases hid : catalog.named id with
          | none => exact (record_counts h _).mono (Nat.zero_le _)
          | some child => exact ih (hcatalog child (Catalog.mem_of_named hid))

/-- The steps of a program count no more than so many times what eight levels allow. -/
theorem runSteps_counts {R C : Nat} (hcatalog : catalog.Within R C) (index : Nat)
    (ids : List Phrase) :
    stage.Counts sleep catalog (ids.length * countBound R C maxLoopDepth)
      (stage.runSteps index ids) := by
  have hstep (index : Nat) (id : Phrase) :
      stage.Counts sleep catalog (countBound R C maxLoopDepth) (stage.runStep index id) := by
    refine (counts_ofAct (h.setIndex _)).andThen fun _ => ?_
    refine counts_of_read (a := catalog.named id) (fun s hs => by rw [← hs]; rfl) ?_
    cases hid : catalog.named id with
    | none => exact (record_counts h _).mono (Nat.zero_le _)
    | some command =>
        refine (record_counts h _).andThen fun _ => ?_
        exact runCommand_counts h hcatalog _ (hcatalog command (Catalog.mem_of_named hid))
  induction ids generalizing index with
  | nil => exact (counts_done ()).mono (Nat.zero_le _)
  | cons id rest ih =>
      refine ((hstep index id).bind fun _ => ih (index + 1)).mono ?_
      rw [List.length_cons, Nat.succ_mul]
      omega

/-- A run counts no more than its program. -/
theorem finishing_counts {n : Nat} (run : RunId) {program : Routine σ Unit}
    (hprogram : stage.Counts sleep catalog n program) :
    stage.Counts sleep catalog n (stage.finishing run program) := by
  refine (hprogram.attempt.bind fun ended => ?_).mono (Nat.le_of_eq (Nat.add_zero n))
  refine (counts_ofAct h.clear).andThen fun _ => (counts_ofExcept _).andThen fun outcome => ?_
  exact counts_ofAct (h.conclude run outcome)

end Commands

/-! ## What runs count -/

/-- A routine that ended with a value had one from the first of its parts. -/
theorem play_bind_ok {α β : Type} {sleep : Pause → σ → Answer × σ} {r : Routine σ α}
    {k : α → Routine σ β} {s t : σ} {b : β} (h : (r >>= k).play sleep s = (.ok b, t)) :
    ∃ a u, r.play sleep s = (.ok a, u) ∧ (k a).play sleep u = (.ok b, t) := by
  have hplay : (r >>= k).play sleep s = _ := play_bind sleep r k s
  rw [hplay] at h
  cases hresult : r.play sleep s with
  | mk result u =>
      rw [hresult] at h
      cases result with
      | ok a => exact ⟨a, u, rfl, h⟩
      | error fault => cases h

section Runs

variable {stage} {sleep : Pause → σ → Answer × σ} (h : stage.Tallies sleep)

include h

/-- The steps of a result are the actions that are counted in the end. -/
theorem stepsExecuted_finishing {run : RunId} {program : Routine σ Unit} {s t : σ}
    {result : RunResult}
    (hplay : (stage.finishing run program).play sleep s = (.ok result, t)) :
    result.stepsExecuted = (stage.context.get t).actionsCompleted := by
  obtain ⟨ended, s₁, -, h₁⟩ := play_bind_ok hplay
  obtain ⟨_, s₂, -, h₂⟩ := play_bind_ok h₁
  obtain ⟨outcome, s₃, -, h₃⟩ := play_bind_ok h₂
  have hconclude : stage.conclude run outcome s₃ = (.ok result, t) :=
    (play_ofAct sleep _ s₃).symm.trans h₃
  have hsteps : result.stepsExecuted = (stage.context.get s₃).actionsCompleted := by
    have hresult := congrArg Prod.fst hconclude
    cases hresult
    rfl
  have htally := h.conclude run outcome s₃
  rw [hconclude] at htally
  rw [hsteps]
  exact (congrArg Prod.snd htally).symm

variable (run : RunId) (ids : List Phrase) {s : σ}

/-- A run on an idle context counts no more than its ids allow, and its result says how much. -/
theorem execute_counts {R C : Nat} (hcatalog : (stage.context.get s).catalog.Within R C)
    (hidle : (stage.context.get s).phase = .idle) :
    let ended := (stage.execute run ids).play sleep s
    (stage.context.get ended.2).actionsCompleted ≤ ids.length * countBound R C maxLoopDepth ∧
      ∀ result, ended.1 = .ok result →
        result.stepsExecuted = (stage.context.get ended.2).actionsCompleted := by
  let begun := stage.phasePlace.set .running s
  let opened := stage.context.set ((stage.context.get begun).opened run) begun
  let rest := ofAct (stage.record (.runStarted ids)) >>= fun _ =>
    stage.finishing run (stage.runProgram ids)
  have hplay : (stage.execute run ids).play sleep s = rest.play sleep opened := by
    rw [execute_eq, play_act_bind (begin_of_idle hidle)]
    exact play_act_bind rfl
  have hbegun : stage.context.get begun = { stage.context.get s with phase := .running } :=
    h.place.get_set _ s
  have hopened : stage.context.get opened = (stage.context.get begun).opened run :=
    h.place.get_set _ begun
  have hrest : stage.Counts sleep (stage.context.get s).catalog
      (ids.length * countBound R C maxLoopDepth) rest := by
    refine (record_counts h _).andThen fun _ => finishing_counts h run ?_
    exact (updateActor_counts h _).andThen fun _ => runSteps_counts h hcatalog 0 ids
  obtain ⟨-, hcount⟩ := hrest opened (by rw [hopened, hbegun]; rfl)
  have hnone : (stage.context.get opened).actionsCompleted = 0 := by
    rw [hopened]
    rfl
  rw [hnone, Nat.zero_add, ← hplay] at hcount
  refine ⟨hcount, fun result hresult => ?_⟩
  have hended : rest.play sleep opened = (.ok result, (rest.play sleep opened).2) := by
    rw [← hplay, ← hresult]
  obtain ⟨_, recorded, -, hfinishing⟩ := play_bind_ok hended
  rw [hplay]
  exact stepsExecuted_finishing h hfinishing

end Runs

end Stage

end Gridwalk
