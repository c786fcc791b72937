import Gridwalk.Proofs.Fleet
import Gridwalk.Proofs.RoutineContracts

/-!
# What commands do to a fleet

`Fleet.Calm` lists the changes that doing commands makes to a fleet: an action is counted, an
unknown child or a blocked move is recorded, the actor is moved or turned.  All of them are in
the context of the commands, and none touches the flag of a hold, the active position or the
lifecycle.  Apart from them commands pause: after every deed for a step, and at the edge of
the grid, where the flag is set before the pause and cleared after it.

A regime `Tends` to a context if it survives these changes and pauses.  Commands keep to every
such regime (`runCommand_obeys`), at every level, also if the catalog changes during pauses.
-/

set_option autoImplicit false

namespace Gridwalk

/-- The change that sets or clears the flag of a hold at the edge. -/
def Actor.Change.hold (flag : Bool) : Actor.Change := { isHittingBounds := some flag }

namespace Fleet

/-- The pause that a context makes for a reason. -/
def pauseOf (f : Fleet) (name : String) (hold : Hold) : Pause where
  owner := name
  hold := hold
  ms :=
    match hold with
    | .step => (f.contexts name).settings.stepDelay
    | .bounds => (f.contexts name).settings.boundsDelay

/-- A change that doing commands makes in a context, apart from the flag of a hold. -/
inductive Calm (name : String) (f : Fleet) : Fleet → Prop
  /-- An action is counted. -/
  | counted : Calm name f (f.alter name fun c =>
      { c with actionsCompleted := c.actionsCompleted + 1 })
  /-- An unknown child of a loop is recorded. -/
  | skipped (id : Phrase) (parent : String) : Calm name f (f.note name (.childSkipped id parent))
  /-- A move to a target outside the grid is recorded. -/
  | blocked {sign : Int} {x y : Amount} (hsign : sign = 1 ∨ sign = -1)
      (htarget : (f.contexts name).actor.value.target (f.contexts name).settings.grid sign =
        .ok (x, y))
      (hout : (f.contexts name).settings.grid.excludes x.view y.view = .ok true) :
      Calm name f (f.note name (.boundsHit (f.contexts name).actor.value x y))
  /-- The actor moves to a target that is not outside the grid. -/
  | moved {sign : Int} {x y : Amount} (hsign : sign = 1 ∨ sign = -1)
      (htarget : (f.contexts name).actor.value.target (f.contexts name).settings.grid sign =
        .ok (x, y))
      (hin : (f.contexts name).settings.grid.excludes x.view y.view = .ok false) :
      Calm name f (f.change name (.place x y))
  /-- The actor turns. -/
  | turned {degrees : Int} {angle : Amount}
      (hangle : (f.contexts name).actor.value.turned degrees = .ok angle) :
      Calm name f (f.change name (.face angle))

end Fleet

/-- A regime that survives what commands do in a context. -/
structure Regime.Tends (R : Regime Fleet) (name : String) : Prop where
  calm : ∀ {o f g}, R.within o f → Fleet.Calm name f g → R.within o g
  step : ∀ {o f}, R.within o f → R.held o (f.pauseOf name .step) f
  afterStep : ∀ {o f g}, R.within o f → R.rely f g →
    R.within ⟨some (f.pauseOf name .step), g⟩ g
  edge : ∀ {o f}, R.within o f →
    R.held o (f.pauseOf name .bounds) (f.change name (.hold true))
  afterEdge : ∀ {o f g}, R.within o f → R.rely (f.change name (.hold true)) g →
    R.within ⟨some (f.pauseOf name .bounds), g⟩ (g.change name (.hold false))

namespace Fleet

open Routine

variable {R : Regime Fleet} {name : String}

/-- A change of the actor leaves the pauses as they would be. -/
theorem pauseOf_change (f : Fleet) (name : String) (change : Actor.Change) (hold : Hold) :
    (f.change name change).pauseOf name hold = f.pauseOf name hold := by
  simp [pauseOf, Fleet.change]

/-- A step pause keeps to the regime. -/
theorem pause_step_obeys (hR : R.Tends name) (crowd : Crowd) :
    ((stage crowd name).pause .step).Obeys R := by
  intro o f hf
  refine meets_act_bind (read_eq crowd name f) ?_
  refine ⟨hR.step hf, ?_⟩
  intro answer g hg
  exact meets_ofExcept (hR.afterStep hf hg)

/-- A hold at the edge keeps to the regime, however its pause is answered. -/
theorem holdAtEdge_obeys (hR : R.Tends name) (crowd : Crowd) :
    ((stage crowd name).holdAtEdge).Obeys R := by
  intro o f hf
  refine meets_act_bind (updateActor_eq crowd name f (.hold true)) ?_
  refine meets_bind (meets_attempt (meets_act_bind (read_eq crowd name _) ?_))
  constructor
  · have hedge := hR.edge hf
    rw [← pauseOf_change f name (.hold true)] at hedge
    exact hedge
  · intro answer g hg
    -- Whatever the answer is, the flag is cleared before its fault goes on.
    refine meets_ofExcept ?_
    refine meets_bind (meets_act_bind (updateActor_eq crowd name g (.hold false)) ?_)
    have hcleared := hR.afterEdge hf hg
    rw [← pauseOf_change f name (.hold true)] at hcleared
    exact meets_ofExcept hcleared

/-- A move keeps to the regime. -/
theorem move_obeys (hR : R.Tends name) (crowd : Crowd) {sign : Int}
    (hsign : sign = 1 ∨ sign = -1) : ((stage crowd name).move sign).Obeys R := by
  intro o f hf
  refine meets_act_bind (read_eq crowd name f) (meets_ofExcept_bind ?_ fun _ _ => hf)
  rintro ⟨x, y⟩ htarget
  refine meets_ofExcept_bind ?_ fun _ _ => hf
  intro out hout
  cases out with
  | true =>
      refine meets_act_bind (record_eq crowd name f _) ?_
      have hnoted := hR.calm hf (.blocked hsign htarget hout)
      exact Obeys.bind (holdAtEdge_obeys hR crowd) (fun _ => pause_step_obeys hR crowd) _ _ hnoted
  | false =>
      refine meets_act_bind (updateActor_eq crowd name f (.place x y)) ?_
      exact pause_step_obeys hR crowd _ _ (hR.calm hf (.moved hsign htarget hout))

/-- A turn keeps to the regime. -/
theorem turn_obeys (hR : R.Tends name) (crowd : Crowd) (degrees : Int) :
    ((stage crowd name).turn degrees).Obeys R := by
  intro o f hf
  have hactor : (stage crowd name).actor f = (.ok (f.contexts name).actor.value, f) := rfl
  refine meets_act_bind hactor (meets_ofExcept_bind ?_ fun _ _ => hf)
  intro angle hangle
  refine meets_act_bind (updateActor_eq crowd name f (.face angle)) ?_
  exact pause_step_obeys hR crowd _ _ (hR.calm hf (.turned hangle))

/-- Every deed keeps to the regime. -/
theorem perform_obeys (hR : R.Tends name) (crowd : Crowd) (deed : Deed) :
    ((stage crowd name).perform deed).Obeys R := by
  cases deed with
  | moveForward => exact move_obeys hR crowd (.inl rfl)
  | moveBack => exact move_obeys hR crowd (.inr rfl)
  | turnRight => exact turn_obeys hR crowd 90
  | turnLeft => exact turn_obeys hR crowd (-90)
  | custom id => exact obeys_done R ()

/-- Every command keeps to the regime, however many levels of loops may be entered. -/
theorem runCommand_obeys (hR : R.Tends name) (crowd : Crowd) (levels : Nat)
    (command : Command) : ((stage crowd name).runCommand levels command).Obeys R := by
  induction levels generalizing command with
  | zero =>
      cases command with
      | basic b =>
          exact Obeys.bind (perform_obeys hR crowd b.deed) fun _ =>
            obeys_ofAct fun o f hf => hR.calm hf .counted
      | loop l => exact obeys_fail R _
  | succ levels ih =>
      cases command with
      | basic b =>
          exact Obeys.bind (perform_obeys hR crowd b.deed) fun _ =>
            obeys_ofAct fun o f hf => hR.calm hf .counted
      | loop l =>
          refine Obeys.repeated (fun o f hf => ?_) _
          refine meets_act_bind (childrenNow_eq crowd name f l) ?_
          refine Obeys.forM (fun id => ?_) _ o f hf
          refine Obeys.bind (obeys_ofAct fun _ _ h => h) fun child => ?_
          cases child with
          | none => exact obeys_ofAct fun o f hf => hR.calm hf (.skipped id l.id)
          | some child => exact ih child

end Fleet

end Gridwalk
