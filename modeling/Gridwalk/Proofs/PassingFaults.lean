import Gridwalk.Proofs.Fleet
import Gridwalk.Proofs.OrdinaryFaults

/-!
# Faults that pass through a run

Whatever goes wrong while a run is done, apart from its pauses, is an ordinary fault.  So a fault
that passes through is one that a pause was answered with, and as nothing pauses any more once it
was raised, it is the one that the last pause was answered with (`Routine.IsCandid`).  This is so
for every run on a stage whose observers fail in ordinary ways only
(`Stage.IsMild.isCandid_execute`).

If the pauses of a program raise ordinary faults only, then so does everything else in it
(`Fleet.runSteps_isMild`).
-/

set_option autoImplicit false

namespace Gridwalk

/-! ## Routines -/

namespace Routine

variable {σ α β : Type} {last : Option Answer}

/-- Whatever a routine ends with, it is as `P` says, given what its last pause was answered with.
The state may be any in between. -/
def Yields (P : Option Answer → Except Fault α → Prop) : Option Answer → Routine σ α → Prop
  | last, .done a => P last (.ok a)
  | last, .fail fault => P last (.error fault)
  | last, .get k => ∀ s, (k s).Yields P last
  | last, .put _ r => r.Yields P last
  | _, .pause _ k => ∀ answer, (k answer).Yields P (some answer)

/-- One routine after the other yields what the second one yields, from whatever the first one ends
with. -/
theorem Yields.bind {P : Option Answer → Except Fault α → Prop}
    {Q : Option Answer → Except Fault β → Prop} {r : Routine σ α} {f : α → Routine σ β}
    (h : r.Yields P last) (hok : ∀ last a, P last (.ok a) → (f a).Yields Q last)
    (herror : ∀ last fault, P last (.error fault) → Q last (.error fault)) :
    (r >>= f).Yields Q last := by
  show (r.bind f).Yields Q last
  induction r generalizing last with
  | done a => exact hok last a h
  | fail fault => exact herror last fault h
  | get k ih => exact fun s => ih s (h s)
  | put s r ih => exact ih h
  | pause p k ih => exact fun answer => ih answer (h answer)

/-- What yields something yields whatever follows from it. -/
theorem Yields.mono {P Q : Option Answer → Except Fault α → Prop} {r : Routine σ α}
    (h : r.Yields P last) (himp : ∀ last result, P last result → Q last result) :
    r.Yields Q last := by
  induction r generalizing last with
  | done a => exact himp _ _ h
  | fail fault => exact himp _ _ h
  | get k ih => exact fun s => ih s (h s)
  | put s r ih => exact ih h
  | pause p k ih => exact fun answer => ih answer (h answer)

/-- A routine taken for its outcome yields that outcome. -/
theorem Yields.attempt {P : Option Answer → Except Fault (Except Fault α) → Prop}
    {r : Routine σ α} (h : r.Yields (fun last result => P last (.ok result)) last) :
    r.attempt.Yields P last := by
  induction r generalizing last with
  | done a => exact h
  | fail fault => exact h
  | get k ih => exact fun s => ih s (h s)
  | put s r ih => exact ih h
  | pause p k ih => exact fun answer => ih answer (h answer)

/-- What fails, if it does, with an ordinary fault or with one that a pause was just answered
with. -/
def IsOwed (last : Option Answer) (result : Except Fault α) : Prop :=
  ∀ fault, result = .error fault → fault.isOrdinary = true ∨ last = some (.error fault)

/-- A routine that raises ordinary faults only, and those that its last pause was answered with. -/
def IsCandid (r : Routine σ α) : Prop :=
  ∀ last, r.Yields IsOwed last

/-- What is mild owes nothing to a pause. -/
theorem isOwed_of_isMild {result : Except Fault α} (h : IsMild result) : IsOwed last result :=
  fun fault hfault => .inl (h fault hfault)

/-- A fault stays owed whatever it keeps from being made. -/
theorem IsOwed.error {fault : Fault} (h : IsOwed last (.error fault : Except Fault α)) :
    IsOwed last (.error fault : Except Fault β) := by
  rintro _ ⟨⟩
  exact h fault rfl

/-- A routine that makes no pause and raises ordinary faults only. -/
def IsPrompt (r : Routine σ α) : Prop :=
  ∀ last, r.Yields (fun now result => now = last ∧ IsMild result) last

/-- What is prompt is candid. -/
theorem IsPrompt.isCandid {r : Routine σ α} (h : r.IsPrompt) : r.IsCandid :=
  fun last => (h last).mono fun _ _ h => isOwed_of_isMild h.2

/-- A value is prompt. -/
theorem isPrompt_done (a : α) : (Routine.done a : Routine σ α).IsPrompt :=
  fun _ => ⟨rfl, isMild_ok a⟩

/-- A result is prompt if it is mild. -/
theorem isPrompt_ofExcept {result : Except Fault α} (h : IsMild result) :
    (ofExcept result : Routine σ α).IsPrompt := by
  intro last
  cases result with
  | ok a => exact ⟨rfl, h⟩
  | error fault => exact ⟨rfl, h⟩

/-- An act is prompt if it is mild. -/
theorem isPrompt_ofAct {act : Act σ α} (h : act.IsMild) : (ofAct act).IsPrompt :=
  fun last s => isPrompt_ofExcept (h s) last

/-- After what is prompt the rest yields what it yields where the first began, unless there was an
ordinary fault. -/
theorem IsPrompt.yields_bind {r : Routine σ α} {f : α → Routine σ β}
    {P : Option Answer → Except Fault β → Prop} (hr : r.IsPrompt)
    (hf : ∀ a, (f a).Yields P last)
    (herror : ∀ fault : Fault, fault.isOrdinary = true → P last (.error fault)) :
    (r >>= f).Yields P last := by
  refine (hr last).bind ?_ ?_
  · rintro _ a ⟨rfl, -⟩
    exact hf a
  · rintro _ fault ⟨rfl, hmild⟩
    exact herror fault (hmild fault rfl)

/-- One routine after the other is prompt if both are. -/
theorem IsPrompt.bind {r : Routine σ α} {f : α → Routine σ β} (hr : r.IsPrompt)
    (hf : ∀ a, (f a).IsPrompt) : (r >>= f).IsPrompt :=
  fun last => hr.yields_bind (fun a => hf a last) fun _ h => ⟨rfl, isMild_error h⟩

/-- A pause is candid: what it raises it was answered with. -/
theorem isCandid_rest (p : Pause) : (rest p : Routine σ Unit).IsCandid := by
  intro last answer
  cases answer with
  | ok u => exact isOwed_of_isMild (isMild_ok ())
  | error fault =>
      rintro _ ⟨⟩
      exact .inr rfl

/-- One routine after the other is candid if both are. -/
theorem IsCandid.bind {r : Routine σ α} {f : α → Routine σ β} (hr : r.IsCandid)
    (hf : ∀ a, (f a).IsCandid) : (r >>= f).IsCandid :=
  fun last => (hr last).bind (fun last a _ => hf a last) fun _ _ h => h.error

/-- What ends with the outcome of a candid routine is candid, if nothing else is owed to a pause. -/
theorem IsCandid.attempt_bind {r : Routine σ α} {f : Except Fault α → Routine σ β}
    (hr : r.IsCandid)
    (hf : ∀ last outcome, IsOwed last outcome → (f outcome).Yields IsOwed last) :
    (r.attempt >>= f).IsCandid := by
  intro last
  have hattempt : r.attempt.Yields
      (fun last result => ∃ outcome, result = .ok outcome ∧ IsOwed last outcome) last :=
    Yields.attempt ((hr last).mono fun _ outcome h => ⟨outcome, rfl, h⟩)
  refine hattempt.bind ?_ ?_
  · intro last a h
    obtain ⟨outcome, hsame, howed⟩ := h
    cases hsame
    exact hf last _ howed
  · intro last fault h
    obtain ⟨outcome, hsame, -⟩ := h
    cases hsame

/-- What was owed before something prompt is owed afterwards.  It must be prompt: another pause
could be answered with something else. -/
theorem IsPrompt.yields_ofExcept {after : Routine σ α} (hafter : after.IsPrompt)
    {outcome : Except Fault β} (h : IsOwed last outcome) :
    (after >>= fun _ => ofExcept outcome).Yields IsOwed last := by
  refine hafter.yields_bind (fun _ => ?_) fun fault h => isOwed_of_isMild (isMild_error h)
  cases outcome with
  | ok b => exact h
  | error fault => exact h

/-- A candid routine is candid when something prompt is done after it in any case. -/
theorem IsCandid.ensure {r : Routine σ α} {after : Routine σ Unit} (hr : r.IsCandid)
    (hafter : after.IsPrompt) : (Routine.ensure r after).IsCandid :=
  hr.attempt_bind fun _ _ howed => hafter.yields_ofExcept howed

/-- A candid routine is candid when it is repeated. -/
theorem IsCandid.repeated {r : Routine σ Unit} (hr : r.IsCandid) (n : Nat) :
    (Routine.repeated n r).IsCandid := by
  induction n with
  | zero => exact (isPrompt_done ()).isCandid
  | succ n ih => exact hr.bind fun _ => ih

/-- Candid routines for the items of a list are candid one after the other. -/
theorem IsCandid.forM {ι : Type} {f : ι → Routine σ Unit} (hf : ∀ i, (f i).IsCandid)
    (items : List ι) : (items.forM f).IsCandid := by
  induction items with
  | nil => exact (isPrompt_done ()).isCandid
  | cons i rest ih => exact (hf i).bind fun _ => ih

/-- A candid routine fails in an ordinary way only if its pauses do. -/
theorem Yields.isMild_play {sleep : Pause → σ → Answer × σ} (hsleep : ∀ p s, IsMild (sleep p s).1)
    {r : Routine σ α} (h : r.Yields IsOwed last) (hlast : ∀ answer ∈ last, IsMild answer) (s : σ) :
    IsMild (r.play sleep s).1 := by
  have hends {result : Except Fault α} (howed : IsOwed last result) : IsMild result := by
    intro fault hfault
    rcases howed fault hfault with hordinary | hsame
    · exact hordinary
    · exact hlast _ hsame fault rfl
  induction r generalizing last s with
  | done a => exact hends h
  | fail fault => exact hends h
  | get k ih => exact ih s (h s) hlast s hends
  | put t r ih => exact ih h hlast t hends
  | pause p k ih =>
      have hanswer : ∀ answer ∈ some (sleep p s).1, IsMild answer := by
        rintro _ ⟨⟩
        exact hsleep p s
      refine ih _ (h _) hanswer _ fun howed fault hfault => ?_
      exact (howed fault hfault).elim id fun hsame => hanswer _ hsame fault rfl

end Routine

/-! ## Runs -/

/-- A stage whose observers fail in ordinary ways only, and whose custom deeds raise nothing else
but what their pauses were answered with. -/
structure Stage.IsMild {σ : Type} (stage : Stage σ) : Prop where
  observe : ∀ observer notice, (stage.observe observer notice).IsMild
  custom : ∀ name, (stage.custom name).IsCandid

namespace Stage

open Routine

variable {σ : Type} {stage : Stage σ}

/-- Reading a context is mild. -/
theorem isMild_read (stage : Stage σ) : stage.read.IsMild := Act.isMild_read _

/-- Recording is mild. -/
theorem isMild_record (stage : Stage σ) (occurrence : Occurrence) :
    (stage.record occurrence).IsMild := Act.isMild_modify _ _

/-- Looking a command up is mild. -/
theorem isMild_named (stage : Stage σ) (id : Phrase) : (stage.named id).IsMild :=
  stage.isMild_read.bind fun _ _ => isMild_ok _

/-- Reading the children of a loop is mild. -/
theorem isMild_childrenNow (stage : Stage σ) (l : Loop) : (stage.childrenNow l).IsMild :=
  Act.isMild_of_ok fun s => ⟨_, congrArg Prod.fst (stage.childrenNow_eq l s)⟩

/-- A pause of a stage is candid. -/
theorem isCandid_pause (stage : Stage σ) (hold : Hold) : (stage.pause hold).IsCandid :=
  (isPrompt_ofAct stage.isMild_read).isCandid.bind fun _ => isCandid_rest _

end Stage

namespace Stage.IsMild

open Routine

variable {σ : Type} {stage : Stage σ} (hstage : stage.IsMild)

include hstage

/-- Changing the actor is mild. -/
theorem isMild_updateActor (change : Actor.Change) : (stage.updateActor change).IsMild :=
  Observable.isMild_revise (fun observer actor => hstage.observe observer (.actor actor))
    fun _ => isMild_ok _

/-- Changing the active position is mild. -/
theorem isMild_setIndex (position : Position) : (stage.setIndex position).IsMild :=
  Observable.isMild_set (fun observer index => hstage.observe observer (.activeIndex index)) _

/-- Holding the actor at the edge is candid. -/
theorem isCandid_holdAtEdge : stage.holdAtEdge.IsCandid := by
  have hflag (flag : Bool) := isPrompt_ofAct (hstage.isMild_updateActor
    { isHittingBounds := some flag })
  refine (hflag true).isCandid.bind fun _ => (stage.isCandid_pause .bounds).ensure ?_
  exact (hflag false).bind fun _ => isPrompt_done ()

/-- A move is candid. -/
theorem isCandid_move (sign : Int) : (stage.move sign).IsCandid := by
  refine (isPrompt_ofAct stage.isMild_read).isCandid.bind fun c => ?_
  refine (isPrompt_ofExcept (Actor.isMild_target _ _ _)).isCandid.bind fun target => ?_
  obtain ⟨x, y⟩ := target
  refine (isPrompt_ofExcept (Grid.isMild_excludes _ _ _)).isCandid.bind fun out => ?_
  cases out with
  | true =>
      refine (isPrompt_ofAct (stage.isMild_record _)).isCandid.bind fun _ => ?_
      exact hstage.isCandid_holdAtEdge.bind fun _ => stage.isCandid_pause .step
  | false =>
      exact (isPrompt_ofAct (hstage.isMild_updateActor _)).isCandid.bind fun _ =>
        stage.isCandid_pause .step

/-- A turn is candid. -/
theorem isCandid_turn (degrees : Int) : (stage.turn degrees).IsCandid := by
  have hactor : stage.actor.IsMild := stage.isMild_read.bind fun _ _ => isMild_ok _
  refine (isPrompt_ofAct hactor).isCandid.bind fun actor => ?_
  refine (isPrompt_ofExcept (actor.isMild_turned degrees)).isCandid.bind fun angle => ?_
  exact (isPrompt_ofAct (hstage.isMild_updateActor _)).isCandid.bind fun _ =>
    stage.isCandid_pause .step

/-- Every deed is candid. -/
theorem isCandid_perform (deed : Deed) : (stage.perform deed).IsCandid := by
  cases deed with
  | moveForward => exact hstage.isCandid_move 1
  | moveBack => exact hstage.isCandid_move (-1)
  | turnRight => exact hstage.isCandid_turn 90
  | turnLeft => exact hstage.isCandid_turn (-90)
  | custom name => exact hstage.custom name

/-- Every command is candid, however many levels of loops may be entered. -/
theorem isCandid_runCommand (levels : Nat) (command : Command) :
    (stage.runCommand levels command).IsCandid := by
  have hbasic (levels : Nat) (b : Basic) : (stage.runCommand levels (.basic b)).IsCandid := by
    have hcount : stage.countAction.IsMild := Act.isMild_modify _ _
    have hboth := (hstage.isCandid_perform b.deed).bind fun _ => (isPrompt_ofAct hcount).isCandid
    cases levels <;> exact hboth
  induction levels generalizing command with
  | zero =>
      cases command with
      | basic b => exact hbasic 0 b
      | loop l =>
          exact fun last => isOwed_of_isMild (isMild_error rfl)
  | succ levels ih =>
      cases command with
      | basic b => exact hbasic (levels + 1) b
      | loop l =>
          refine IsCandid.repeated ((isPrompt_ofAct (stage.isMild_childrenNow l)).isCandid.bind
            fun children => IsCandid.forM (fun id => ?_) children) _
          refine (isPrompt_ofAct (stage.isMild_named id)).isCandid.bind fun child => ?_
          cases child with
          | none => exact (isPrompt_ofAct (stage.isMild_record _)).isCandid
          | some child => exact ih child

/-- The steps of every program are candid. -/
theorem isCandid_runSteps (index : Nat) (ids : List Phrase) :
    (stage.runSteps index ids).IsCandid := by
  induction ids generalizing index with
  | nil => exact (isPrompt_done ()).isCandid
  | cons id rest ih =>
      refine IsCandid.bind ?_ fun _ => ih (index + 1)
      refine (isPrompt_ofAct (hstage.isMild_setIndex _)).isCandid.bind fun _ => ?_
      refine (isPrompt_ofAct (stage.isMild_named id)).isCandid.bind fun command => ?_
      cases command with
      | none => exact (isPrompt_ofAct (stage.isMild_record _)).isCandid
      | some command =>
          exact (isPrompt_ofAct (stage.isMild_record _)).isCandid.bind fun _ =>
            hstage.isCandid_runCommand (levelsBelow 0) command

/-- A run raises ordinary faults only, and what its last pause was answered with. -/
theorem isCandid_execute (run : RunId) (ids : List Phrase) :
    (stage.execute run ids).IsCandid := by
  have hbegin : stage.begin.IsMild := Act.isMild_update _ fun phase => by
    cases phase <;> first | exact isMild_ok _ | exact isMild_error rfl
  have hmoving := hstage.isMild_updateActor { isMoving := some true }
  have hclear : stage.clear.IsMild :=
    (hstage.isMild_setIndex _).bind fun _ => (hstage.isMild_updateActor _).bind fun _ =>
      Act.isMild_modify _ _
  have hconclude (outcome : Outcome) : (stage.conclude run outcome).IsMild :=
    Act.isMild_of_ok fun _ => ⟨_, rfl⟩
  refine (isPrompt_ofAct hbegin).isCandid.bind fun _ => ?_
  refine (isPrompt_ofAct (Act.isMild_modify _ _)).isCandid.bind fun _ => ?_
  refine (isPrompt_ofAct (stage.isMild_record _)).isCandid.bind fun _ => ?_
  have hprogram : (stage.runProgram ids).IsCandid :=
    (isPrompt_ofAct hmoving).isCandid.bind fun _ => hstage.isCandid_runSteps 0 ids
  refine hprogram.attempt_bind fun last ended howed => ?_
  -- What passes through is what the program ended with, and clearing and concluding do not pause.
  refine (isPrompt_ofAct hclear).yields_bind (fun _ => ?_) fun _ h =>
    isOwed_of_isMild (isMild_error h)
  cases ended with
  | ok u => exact (isPrompt_ofAct (hconclude .completed)).isCandid last
  | error fault =>
      show (Routine.ofExcept (if fault.isOrdinary then .ok (Outcome.aborted fault)
        else .error fault) >>= fun outcome => ofAct (stage.conclude run outcome)).Yields IsOwed last
      split
      · exact (isPrompt_ofAct (hconclude (.aborted fault))).isCandid last
      · exact howed.error

end Stage.IsMild

namespace Fleet

open Routine

/-- The stages of a fleet are mild, for no crowd is cancelled. -/
theorem stage_isMild (crowd : Crowd) (name : String) : (stage crowd name).IsMild where
  observe _ _ f := crowd.mild f.told _
  custom _ := (isPrompt_done ()).isCandid

/-- The steps of a program raise ordinary faults only if the pauses do. -/
theorem runSteps_isMild (crowd : Crowd) (name : String) {answers : List Pause → Pause → Answer}
    (hanswers : ∀ earlier p, IsMild (answers earlier p)) (index : Nat) (ids : List Phrase)
    (f : Fleet) : IsMild (((stage crowd name).runSteps index ids).play (pace answers) f).1 :=
  ((stage_isMild crowd name).isCandid_runSteps index ids none).isMild_play
    (fun p f => hanswers f.pauses p) nofun f

end Fleet

end Gridwalk
