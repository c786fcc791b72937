import Gridwalk.Proofs.Expansion
import Gridwalk.Proofs.MatchedStages

/-!
# Programs agree with their expansions

Fleets are compared by what can be seen of one context (`Fleet.Sight`): the actors that were
shown, the pauses that were made, the hits at the edge of the grid and the counted actions.
Positions, started steps and skipped ids are out of sight.  Up to what is seen, a program agrees
with the routine that carries out its expansion mark by mark, whatever the catalog is and however
the pauses are answered (`runCommand_agrees`, `runSteps_agrees`).
-/

set_option autoImplicit false

namespace Gridwalk

/-- Whether a notice shows an actor. -/
def Notice.isActor : Notice → Bool
  | .actor _ => true
  | .activeIndex _ => false

/-- What was told of actors. -/
def actorTellings (told : List Telling) : List Telling :=
  told.filter fun telling => telling.notice.isActor

/-- The payloads of the hits at the edge among some events. -/
def hitsOf (events : List Event) : List (List (Phrase × Json)) :=
  (events.filter fun event => event.occurrence.type == "BOUNDS_HIT").map fun event =>
    event.occurrence.payload

/-- The hits among events in reverse are the hits in reverse. -/
theorem hitsOf_reverse (events : List Event) : hitsOf events.reverse = (hitsOf events).reverse := by
  simp [hitsOf, List.filter_reverse]

namespace Fleet

/-- What can be seen of a context while commands are done, positions and steps apart. -/
structure Sight where
  pauses : List Pause
  shown : List Telling
  catalog : Catalog
  settings : Settings
  actor : Observable Actor
  actionsCompleted : Nat
  isRecording : Bool
  /-- The payloads of the hits at the edge, the newest first. -/
  hits : List (List (Phrase × Json))

/-- What can be seen of a context of a fleet. -/
def sight (f : Fleet) (name : String) : Sight where
  pauses := f.pauses
  shown := actorTellings f.told
  catalog := (f.contexts name).catalog
  settings := (f.contexts name).settings
  actor := (f.contexts name).actor
  actionsCompleted := (f.contexts name).actionsCompleted
  isRecording := (f.contexts name).run.isSome
  hits := hitsOf (f.contexts name).log

section Sights

variable (f : Fleet) (name : String)

/-- A shown actor is seen. -/
theorem sight_showActor (actor : Actor) :
    (f.showActor name actor).sight name =
      { f.sight name with
        actor := { (f.sight name).actor with value := actor }
        shown := ((f.sight name).actor.observers.map fun observer =>
          ⟨name, observer, .actor actor⟩).reverse ++ (f.sight name).shown } := by
  simp [sight, actorTellings, Notice.isActor]

/-- A changed actor is seen. -/
theorem sight_change (change : Actor.Change) :
    (f.change name change).sight name =
      { f.sight name with
        actor := { (f.sight name).actor with value := (f.sight name).actor.value.apply change }
        shown := ((f.sight name).actor.observers.map fun observer =>
          ⟨name, observer, .actor ((f.sight name).actor.value.apply change)⟩).reverse ++
            (f.sight name).shown } :=
  sight_showActor f name _

/-- A position that is shown is not seen. -/
theorem sight_showIndex (position : Position) :
    (f.showIndex name position).sight name = f.sight name := by
  simp [sight, actorTellings, Notice.isActor, List.filter_map, Function.comp_def]

/-- What is recorded is seen if it is a hit. -/
theorem sight_note (occurrence : Occurrence) :
    (f.note name occurrence).sight name =
      if (f.sight name).isRecording ∧ occurrence.type = "BOUNDS_HIT" then
        { f.sight name with hits := occurrence.payload :: (f.sight name).hits }
      else f.sight name := by
  cases hrun : (f.contexts name).run with
  | none => simp [sight, note, Context.record, hrun]
  | some run =>
      by_cases htype : occurrence.type = "BOUNDS_HIT"
      · simp [sight, note, Context.record, hrun, hitsOf, htype]
      · simp [sight, note, Context.record, hrun, hitsOf, htype]

/-- What is recorded is not seen if it is no hit. -/
theorem sight_note_of_ne {occurrence : Occurrence} (h : occurrence.type ≠ "BOUNDS_HIT") :
    (f.note name occurrence).sight name = f.sight name := by
  rw [sight_note, if_neg (fun hboth => h hboth.2)]

/-- An action that is counted is seen. -/
theorem sight_counted :
    (f.alter name fun c => { c with actionsCompleted := c.actionsCompleted + 1 }).sight name =
      { f.sight name with actionsCompleted := (f.sight name).actionsCompleted + 1 } := by
  simp [sight]

/-- A pause is seen, and nothing else of it. -/
theorem sight_pace (answers : List Pause → Pause → Answer) (p : Pause) :
    (pace answers p f).2.sight name =
      { f.sight name with pauses := p :: (f.sight name).pauses } :=
  rfl

end Sights

open Routine

section Agreement

variable (crowd : Crowd) (name : String) (catalog : Catalog)
  (answers : List Pause → Pause → Answer)

/-- Fleets with the same sight of a context that has a given catalog. -/
def alike : Pairing Fleet Fleet where
  left := pace answers
  right := pace answers
  related f g := f.sight name = g.sight name ∧ (g.sight name).catalog = catalog

variable {f g : Fleet}

/-- Fleets with the same sight of a context have the same actor there. -/
theorem actor_of_sight (h : f.sight name = g.sight name) :
    (f.contexts name).actor = (g.contexts name).actor :=
  congrArg Sight.actor h

/-- Fleets with the same sight of a context have the same settings there. -/
theorem settings_of_sight (h : f.sight name = g.sight name) :
    (f.contexts name).settings = (g.contexts name).settings :=
  congrArg Sight.settings h

/-- A change of the actor is seen alike. -/
theorem updateActor_agrees (change : Actor.Change) :
    Agrees (alike name catalog answers) (ofAct ((stage crowd name).updateActor change))
      (ofAct ((stage crowd name).updateActor change)) := by
  rintro f g ⟨hsight, hcatalog⟩
  apply agreesAt_acts
  · rw [updateActor_eq, updateActor_eq, actor_of_sight name hsight]
  · rw [updateActor_eq, updateActor_eq]
    refine ⟨?_, ?_⟩
    · rw [sight_change, sight_change, hsight]
    · rw [sight_change]
      exact hcatalog

/-- An occurrence is recorded alike. -/
theorem record_agrees (occurrence : Occurrence) :
    Agrees (alike name catalog answers) (ofAct ((stage crowd name).record occurrence))
      (ofAct ((stage crowd name).record occurrence)) := by
  rintro f g ⟨hsight, hcatalog⟩
  apply agreesAt_acts
  · rw [record_eq, record_eq]
  · rw [record_eq, record_eq]
    refine ⟨?_, ?_⟩
    · rw [sight_note, sight_note, hsight]
    · rw [sight_note]
      split <;> exact hcatalog

/-- A pause is made alike. -/
theorem pause_agrees (hold : Hold) :
    Agrees (alike name catalog answers) ((stage crowd name).pause hold)
      ((stage crowd name).pause hold) := by
  rintro f g ⟨hsight, hcatalog⟩
  refine agreesAt_act_left (read_eq crowd name f) (agreesAt_act_right (read_eq crowd name g) ?_)
  rw [settings_of_sight name hsight]
  apply agreesAt_rest
  · exact congrArg (fun pauses => answers pauses _) (congrArg Sight.pauses hsight)
  · refine ⟨?_, hcatalog⟩
    show (pace answers _ f).2.sight name = (pace answers _ g).2.sight name
    rw [sight_pace, sight_pace, hsight]

/-- An action is counted alike. -/
theorem countAction_agrees :
    Agrees (alike name catalog answers) (ofAct (stage crowd name).countAction)
      (ofAct (stage crowd name).countAction) := by
  rintro f g ⟨hsight, hcatalog⟩
  apply agreesAt_acts
  · rw [countAction_eq, countAction_eq]
  · rw [countAction_eq, countAction_eq]
    refine ⟨?_, ?_⟩
    · rw [sight_counted, sight_counted, hsight]
    · rw [sight_counted]
      exact hcatalog

/-- A position is shown alike. -/
theorem setIndex_agrees (position : Position) :
    Agrees (alike name catalog answers) (ofAct ((stage crowd name).setIndex position))
      (ofAct ((stage crowd name).setIndex position)) := by
  rintro f g ⟨hsight, hcatalog⟩
  apply agreesAt_acts
  · rw [setIndex_eq, setIndex_eq]
  · rw [setIndex_eq, setIndex_eq]
    refine ⟨?_, ?_⟩
    · rw [sight_showIndex, sight_showIndex, hsight]
    · rw [sight_showIndex]
      exact hcatalog

/-- The stage of a context is parallel to itself, up to what is seen. -/
theorem alike_parallel :
    (stage crowd name).Parallel (alike name catalog answers) (stage crowd name) where
  actor h := congrArg Observable.value (actor_of_sight name h.1)
  settings h := settings_of_sight name h.1
  catalog h := congrArg Sight.catalog h.1
  updateActor := updateActor_agrees crowd name catalog answers
  setIndex := setIndex_agrees crowd name catalog answers
  record := record_agrees crowd name catalog answers
  countAction := countAction_agrees crowd name catalog answers
  pause := pause_agrees crowd name catalog answers
  custom _ := agrees_done _ ()

/-- A basic command agrees with its action. -/
theorem action_agrees (levels : Nat) (b : Basic) :
    Agrees (alike name catalog answers) ((stage crowd name).runCommand levels (.basic b))
      ((stage crowd name).carryOut [.action b]) := by
  have hone : (stage crowd name).carryOut [.action b] =
      (stage crowd name).runCommand 0 (.basic b) := Routine.bind_done _
  rw [hone]
  exact (alike_parallel crowd name catalog answers).basic levels 0 b

/-- The children of a loop agree with the marks of all of them, if every single one does. -/
theorem children_agree (levels : Nat) (parent : String)
    (h : ∀ id child, catalog.named id = some child →
      Agrees (alike name catalog answers) ((stage crowd name).runCommand levels child)
        ((stage crowd name).carryOut (catalog.unfolded levels child)))
    (children : List Phrase) :
    Agrees (alike name catalog answers)
      (children.forM fun id =>
        ofAct ((stage crowd name).named id) >>= fun
          | none => ofAct ((stage crowd name).record (.childSkipped id parent))
          | some child => (stage crowd name).runCommand levels child)
      ((stage crowd name).carryOut (children.flatMap fun id =>
        match catalog.named id with
        | none => []
        | some child => catalog.unfolded levels child)) := by
  induction children with
  | nil => exact agrees_done _ ()
  | cons id rest ih =>
      rw [List.flatMap_cons, Stage.carryOut_append]
      refine Agrees.bind ?_ fun _ => ih
      rintro f g ⟨hsight, hcatalog⟩
      have hnow : (f.contexts name).catalog = catalog :=
        (congrArg Sight.catalog hsight).trans hcatalog
      refine agreesAt_act_left (named_eq crowd name f id) ?_
      rw [hnow]
      cases hid : catalog.named id with
      | none =>
          -- That a child is unknown is recorded, but it is no hit.
          refine agreesAt_act_done (record_eq crowd name f _) ⟨?_, hcatalog⟩
          rw [sight_note_of_ne f name (by simp [Occurrence.type]), hsight]
      | some child => exact h id child hid f g ⟨hsight, hcatalog⟩

/-- A command of the catalog agrees with what it comes to. -/
theorem runCommand_agrees (levels : Nat) {command : Command}
    (hcommand : ∃ id, catalog.named id = some command) :
    Agrees (alike name catalog answers) ((stage crowd name).runCommand levels command)
      ((stage crowd name).carryOut (catalog.unfolded levels command)) := by
  induction levels generalizing command with
  | zero =>
      cases command with
      | basic b => exact action_agrees crowd name catalog answers 0 b
      | loop l => exact agrees_fail _ _
  | succ levels ih =>
      cases command with
      | basic b => exact action_agrees crowd name catalog answers (levels + 1) b
      | loop l =>
          obtain ⟨id, hid⟩ := hcommand
          have hown : catalog.childrenOf l = l.children :=
            Catalog.childrenOf_eq_of_lookup (Catalog.named_id hid)
          unfold Catalog.unfolded
          rw [Stage.carryOut_replicate]
          refine Agrees.repeated ?_ _
          rintro f g ⟨hsight, hcatalog⟩
          refine agreesAt_act_left (childrenNow_eq crowd name f l) ?_
          rw [show (f.contexts name).catalog = catalog from
            (congrArg Sight.catalog hsight).trans hcatalog, hown]
          exact children_agree crowd name catalog answers levels l.id
            (fun id child hchild => ih ⟨id, hchild⟩) l.children f g ⟨hsight, hcatalog⟩

/-- The steps of a program agree with its expansion. -/
theorem runSteps_agrees (index : Nat) (ids : List Phrase) :
    Agrees (alike name catalog answers) ((stage crowd name).runSteps index ids)
      ((stage crowd name).carryOut (catalog.expansion ids)) := by
  induction ids generalizing index with
  | nil => exact agrees_done _ ()
  | cons id rest ih =>
      show Agrees _ _ ((stage crowd name).carryOut (catalog.expand id 0 ++ catalog.expansion rest))
      rw [Stage.carryOut_append]
      refine Agrees.bind ?_ fun _ => ih (index + 1)
      rintro f g ⟨hsight, hcatalog⟩
      refine agreesAt_act_left (setIndex_eq crowd name f _) ?_
      refine agreesAt_act_left (named_eq crowd name _ id) ?_
      have hnow : ((f.showIndex name (.index index)).contexts name).catalog = catalog := by
        rw [contexts_showIndex_self]
        exact (congrArg Sight.catalog hsight).trans hcatalog
      have hshown : (f.showIndex name (.index index)).sight name = g.sight name := by
        rw [sight_showIndex, hsight]
      rw [show Int.ofNat index = (index : Int) from rfl, hnow]
      unfold Catalog.expand
      cases hid : catalog.named id with
      | none =>
          refine agreesAt_act_done (record_eq crowd name _ _) ⟨?_, hcatalog⟩
          rw [sight_note_of_ne _ name (by simp [Occurrence.type]), hshown]
      | some command =>
          refine agreesAt_act_left (record_eq crowd name _ _) ?_
          apply runCommand_agrees crowd name catalog answers _ ⟨id, hid⟩
          refine ⟨?_, hcatalog⟩
          rw [sight_note_of_ne _ name (by simp [Occurrence.type]), hshown]

end Agreement

end Fleet

end Gridwalk
