import Gridwalk.Proofs.Agreement
import Gridwalk.Proofs.Fleet

/-!
# Stages that do alike

Two stages are attuned if every deed agrees on them, and what programs do between their deeds agrees
too.  Then commands at every level and whole programs agree (`Stage.Attuned.program`).

Stages on which each single act of a deed agrees, as far as the deed makes use of it, are matched,
and matched stages are attuned (`Stage.Matched.attuned`): their actors may differ, but head for the
same targets.  Stages whose related states have the same actor, and on which all acts agree, are
parallel, and so they are matched.
-/

set_option autoImplicit false

namespace Gridwalk

open Routine

namespace Stage

variable {σ : Type} (stage : Stage σ) (s : σ)

/-- Reading gives the context and changes nothing. -/
theorem read_eq : stage.read s = (.ok (stage.context.get s), s) := rfl

/-- So does reading the actor. -/
theorem actor_eq : stage.actor s = (.ok (stage.context.get s).actor.value, s) := rfl

/-- Looking a phrase up reads the catalog and changes nothing. -/
theorem named_eq (id : Phrase) :
    stage.named id s = (.ok ((stage.context.get s).catalog.named id), s) := rfl

end Stage

/-- Two stages on which deeds agree, and what programs do between them. -/
structure Stage.Attuned {σ τ : Type} (m : Pairing σ τ) (S : Stage σ) (T : Stage τ) : Prop where
  catalog : ∀ {s t}, m.related s t → (S.context.get s).catalog = (T.context.get t).catalog
  starting : Agrees m (ofAct (S.updateActor { isMoving := some true }) >>= fun _ => .done ())
    (ofAct (T.updateActor { isMoving := some true }) >>= fun _ => .done ())
  setIndex : ∀ position, Agrees m (ofAct (S.setIndex position)) (ofAct (T.setIndex position))
  record : ∀ occurrence, Agrees m (ofAct (S.record occurrence)) (ofAct (T.record occurrence))
  countAction : Agrees m (ofAct S.countAction) (ofAct T.countAction)
  perform : ∀ deed, Agrees m (S.perform deed) (T.perform deed)

/-- Two stages on which the acts that deeds are made of agree, as far as a deed makes use of them:
the actors may differ, but head for the same targets. -/
structure Stage.Matched {σ τ : Type} (m : Pairing σ τ) (S : Stage σ) (T : Stage τ) : Prop where
  settings : ∀ {s t}, m.related s t → (S.context.get s).settings = (T.context.get t).settings
  catalog : ∀ {s t}, m.related s t → (S.context.get s).catalog = (T.context.get t).catalog
  target : ∀ {s t}, m.related s t → ∀ grid sign,
    (S.context.get s).actor.value.target grid sign = (T.context.get t).actor.value.target grid sign
  blocked : ∀ {s t}, m.related s t → ∀ x y,
    AgreesAt m (ofAct (S.record (.boundsHit (S.context.get s).actor.value x y))) s
      (ofAct (T.record (.boundsHit (T.context.get t).actor.value x y))) t
  placed : ∀ x y, Agrees m (ofAct (S.updateActor (.place x y)) >>= fun _ => .done ())
    (ofAct (T.updateActor (.place x y)) >>= fun _ => .done ())
  flagged : ∀ flag,
    Agrees m (ofAct (S.updateActor { isHittingBounds := some flag }) >>= fun _ => .done ())
      (ofAct (T.updateActor { isHittingBounds := some flag }) >>= fun _ => .done ())
  starting : Agrees m (ofAct (S.updateActor { isMoving := some true }) >>= fun _ => .done ())
    (ofAct (T.updateActor { isMoving := some true }) >>= fun _ => .done ())
  setIndex : ∀ position, Agrees m (ofAct (S.setIndex position)) (ofAct (T.setIndex position))
  record : ∀ occurrence, Agrees m (ofAct (S.record occurrence)) (ofAct (T.record occurrence))
  countAction : Agrees m (ofAct S.countAction) (ofAct T.countAction)
  turn : ∀ turns, Agrees m (S.turn (90 * turns)) (T.turn (90 * turns))
  pause : ∀ hold, Agrees m (S.pause hold) (T.pause hold)
  custom : ∀ name, Agrees m (S.custom name) (T.custom name)

/-- Two stages on which the acts that commands are made of agree. -/
structure Stage.Parallel {σ τ : Type} (m : Pairing σ τ) (S : Stage σ) (T : Stage τ) : Prop where
  actor : ∀ {s t}, m.related s t →
    (S.context.get s).actor.value = (T.context.get t).actor.value
  settings : ∀ {s t}, m.related s t → (S.context.get s).settings = (T.context.get t).settings
  catalog : ∀ {s t}, m.related s t → (S.context.get s).catalog = (T.context.get t).catalog
  updateActor : ∀ change, Agrees m (ofAct (S.updateActor change)) (ofAct (T.updateActor change))
  setIndex : ∀ position, Agrees m (ofAct (S.setIndex position)) (ofAct (T.setIndex position))
  record : ∀ occurrence, Agrees m (ofAct (S.record occurrence)) (ofAct (T.record occurrence))
  countAction : Agrees m (ofAct S.countAction) (ofAct T.countAction)
  pause : ∀ hold, Agrees m (S.pause hold) (T.pause hold)
  custom : ∀ name, Agrees m (S.custom name) (T.custom name)

/-- Routines that agree for every item of a list agree one after the other. -/
theorem Routine.Agrees.forM {σ τ ι : Type} {m : Pairing σ τ} {f : ι → Routine σ Unit}
    {g : ι → Routine τ Unit} (h : ∀ item, Agrees m (f item) (g item)) (items : List ι) :
    Agrees m (items.forM f) (items.forM g) := by
  induction items with
  | nil => exact agrees_done m ()
  | cons item rest ih => exact (h item).bind fun _ => ih

namespace Stage.Attuned

variable {σ τ : Type} {m : Pairing σ τ} {S : Stage σ} {T : Stage τ} (h : S.Attuned m T)

include h

/-- On attuned stages basic commands agree, whatever levels are left in each. -/
theorem basic (levels levels' : Nat) (b : Basic) :
    Agrees m (S.runCommand levels (.basic b)) (T.runCommand levels' (.basic b)) := by
  have hboth := (h.perform b.deed).bind fun _ => h.countAction
  cases levels <;> cases levels' <;> exact hboth

/-- Every command is done alike. -/
theorem command (levels : Nat) (command : Command) :
    Agrees m (S.runCommand levels command) (T.runCommand levels command) := by
  induction levels generalizing command with
  | zero =>
      cases command with
      | basic b => exact h.basic 0 0 b
      | loop l => exact agrees_fail m _
  | succ levels ih =>
      cases command with
      | basic b => exact h.basic (levels + 1) (levels + 1) b
      | loop l =>
          refine Agrees.repeated (fun s t hst => ?_) _
          refine agreesAt_act_left (S.childrenNow_eq l s)
            (agreesAt_act_right (T.childrenNow_eq l t) ?_)
          rw [h.catalog hst]
          refine Agrees.forM (fun id s t hst => ?_) _ s t hst
          refine agreesAt_act_left (S.named_eq s id) (agreesAt_act_right (T.named_eq t id) ?_)
          rw [h.catalog hst]
          cases (T.context.get t).catalog.named id with
          | none => exact h.record _ s t hst
          | some child => exact ih child s t hst

/-- A step of a program is done alike. -/
theorem step (index : Nat) (id : Phrase) : Agrees m (S.runStep index id) (T.runStep index id) := by
  refine (h.setIndex _).bind fun _ s t hst => ?_
  refine agreesAt_act_left (S.named_eq s id) (agreesAt_act_right (T.named_eq t id) ?_)
  rw [h.catalog hst]
  cases (T.context.get t).catalog.named id with
  | none => exact h.record _ s t hst
  | some command => exact ((h.record _).bind fun _ => h.command _ command) s t hst

/-- The steps of a program agree on attuned stages. -/
theorem steps (index : Nat) (ids : List Phrase) :
    Agrees m (S.runSteps index ids) (T.runSteps index ids) := by
  induction ids generalizing index with
  | nil => exact agrees_done m ()
  | cons id rest ih => exact (h.step index id).bind fun _ => ih (index + 1)

/-- A program is done alike. -/
theorem program (ids : List Phrase) : Agrees m (S.runProgram ids) (T.runProgram ids) := by
  have hsplit {υ : Type} (U : Stage υ) : U.runProgram ids =
      (ofAct (U.updateActor { isMoving := some true }) >>= fun _ => .done ()) >>= fun _ =>
        U.runSteps 0 ids :=
    (Routine.bind_assoc _ (fun _ => .done ()) fun _ => U.runSteps 0 ids).symm
  rw [hsplit S, hsplit T]
  exact h.starting.bind fun _ => h.steps 0 ids

end Stage.Attuned

/-- Routines agree in sequence if the first ones agree apart from their values. -/
theorem Routine.Agrees.discard {σ τ α α' β : Type} {m : Pairing σ τ} {r : Routine σ α}
    {q : Routine τ α'} {f : Routine σ β} {g : Routine τ β}
    (h : Agrees m (r >>= fun _ => .done ()) (q >>= fun _ => .done ())) (hnext : Agrees m f g) :
    Agrees m (r >>= fun _ => f) (q >>= fun _ => g) := by
  have hsplit {υ γ : Type} (u : Routine υ γ) (k : Routine υ β) :
      (u >>= fun _ => k) = (u >>= fun _ => .done ()) >>= fun _ => k :=
    (Routine.bind_assoc u (fun _ => .done ()) fun _ => k).symm
  rw [hsplit r, hsplit q]
  exact h.bind fun _ => hnext

namespace Stage.Matched

variable {σ τ : Type} {m : Pairing σ τ} {S : Stage σ} {T : Stage τ} (h : S.Matched m T)

include h

/-- Holds at the edge agree on matched stages. -/
theorem holdAtEdge : Agrees m S.holdAtEdge T.holdAtEdge := by
  refine (h.flagged true).discard ?_
  refine (h.pause .bounds).attempt.bind fun outcome => ?_
  exact (h.flagged false).bind fun _ => agrees_ofExcept _ outcome

/-- A move is made alike. -/
theorem move (sign : Int) : Agrees m (S.move sign) (T.move sign) := by
  intro s t hst
  refine agreesAt_act_left (S.read_eq s) (agreesAt_act_right (T.read_eq t) ?_)
  dsimp only
  rw [h.target hst, h.settings hst]
  -- The actors that are recorded may differ, so the two sides are compared from these states on.
  refine agreesAt_ofExcept_bind hst ?_
  rintro ⟨x, y⟩ -
  refine agreesAt_ofExcept_bind hst fun out _ => ?_
  cases out with
  | true =>
      refine agreesAt_bind (h.blocked hst x y) fun _ => ?_
      exact h.holdAtEdge.bind fun _ => h.pause .step
  | false => exact (h.placed x y).discard (h.pause .step) s t hst

/-- Every deed is done alike. -/
theorem perform (deed : Deed) : Agrees m (S.perform deed) (T.perform deed) := by
  cases deed with
  | moveForward => exact h.move 1
  | moveBack => exact h.move (-1)
  | turnRight =>
      have hturn := h.turn 1
      rw [Int.mul_one] at hturn
      exact hturn
  | turnLeft =>
      have hturn := h.turn (-1)
      rw [Int.mul_neg_one] at hturn
      exact hturn
  | custom name => exact h.custom name

/-- Matched stages are attuned. -/
theorem attuned : S.Attuned m T where
  catalog := h.catalog
  starting := h.starting
  setIndex := h.setIndex
  record := h.record
  countAction := h.countAction
  perform := h.perform

end Stage.Matched

namespace Stage.Parallel

variable {σ τ : Type} {m : Pairing σ τ} {S : Stage σ} {T : Stage τ} (h : S.Parallel m T)

include h

/-- On parallel stages a turn leads to the same angle. -/
theorem turn (degrees : Int) : Agrees m (S.turn degrees) (T.turn degrees) := by
  intro s t hst
  refine agreesAt_act_left (S.actor_eq s) (agreesAt_act_right (T.actor_eq t) ?_)
  rw [h.actor hst]
  refine ((agrees_ofExcept _ _).bind fun angle => ?_) s t hst
  exact (h.updateActor _).bind fun _ => h.pause .step

/-- Parallel stages are matched. -/
theorem matched : S.Matched m T where
  settings := h.settings
  catalog := h.catalog
  target hst grid sign := by rw [h.actor hst]
  blocked hst x y := by
    rw [h.actor hst]
    exact h.record _ _ _ hst
  placed x y := (h.updateActor _).bind fun _ => agrees_done m ()
  flagged flag := (h.updateActor _).bind fun _ => agrees_done m ()
  starting := (h.updateActor _).bind fun _ => agrees_done m ()
  setIndex := h.setIndex
  record := h.record
  countAction := h.countAction
  turn turns := h.turn (90 * turns)
  pause := h.pause
  custom := h.custom

/-- Parallel stages are attuned. -/
theorem attuned : S.Attuned m T := h.matched.attuned

/-- So basic commands agree on parallel stages. -/
theorem basic (levels levels' : Nat) (b : Basic) :
    Agrees m (S.runCommand levels (.basic b)) (T.runCommand levels' (.basic b)) :=
  h.attuned.basic levels levels' b

/-- And so do whole programs. -/
theorem program (ids : List Phrase) : Agrees m (S.runProgram ids) (T.runProgram ids) :=
  h.attuned.program ids

end Stage.Parallel

end Gridwalk
