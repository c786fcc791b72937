import Gridwalk.Proofs.Effect
import Gridwalk.Proofs.ExpandedRun

/-!
# What deeds come to

If every pause succeeds, then what a deed does is known from where the actor is: it shows some
actors, makes some pauses and meets the edge of the grid or not.  All this is a `Stride`.  Strides
are put together one after the other, and the actor at the end of a stride is the last one shown.

Actors without foreign values make the stride of every deed without a fault, and leave the sight
that the stride makes of the sight before (`Fleet.carryOut_leads`).  By its expansion the same is
true of a program, up to the first cut (`Fleet.runProgram_leads`).
-/

set_option autoImplicit false

namespace Gridwalk

/-! ## Strides -/

/-- Where an actor stands and which way it faces. -/
structure Actor.Pose where
  x : Int
  y : Int
  angle : Int
  deriving DecidableEq, Repr

/-- The pose of an actor. -/
def Actor.pose (actor : Actor) : Actor.Pose := ⟨actor.x, actor.y, actor.angle⟩

/-- A move that was blocked: where the actor stood, and the target outside the grid. -/
structure Hit where
  x : Int
  y : Int
  targetX : Int
  targetY : Int
  deriving DecidableEq, Repr

/-- The payload with which a hit is recorded. -/
def Hit.payload (hit : Hit) : List (Phrase × Json) :=
  [("x", .int hit.x), ("y", .int hit.y), ("target_x", .int hit.targetX),
    ("target_y", .int hit.targetY)]

/-- What is done in a row: the actors that are shown, what the pauses are for, the moves that are
blocked, and how many actions are counted. -/
@[ext]
structure Stride where
  shown : List Actor := []
  holds : List Hold := []
  hits : List Hit := []
  actions : Nat := 0
  deriving DecidableEq, Repr

namespace Stride

/-- Two strides in a row. -/
protected def append (first second : Stride) : Stride where
  shown := first.shown ++ second.shown
  holds := first.holds ++ second.holds
  hits := first.hits ++ second.hits
  actions := first.actions + second.actions

instance : Append Stride := ⟨Stride.append⟩

/-- The actor at the end of a stride that an actor makes. -/
def final (stride : Stride) (actor : Actor) : Actor := stride.shown.getLastD actor

/-- The poses of the actors that a stride shows. -/
def poses (stride : Stride) : List Actor.Pose := stride.shown.map Actor.pose

/-- The pose at the end of a stride is the last one that the stride shows. -/
theorem pose_final (stride : Stride) (actor : Actor) :
    (stride.final actor).pose = stride.poses.getLastD actor.pose := by
  unfold final poses
  rw [List.getLastD_eq_getLast?, List.getLastD_eq_getLast?, List.getLast?_map]
  cases stride.shown.getLast? <;> rfl

section Append

variable (first second : Stride)

/-- Strides in a row show what the first shows and then what the second shows. -/
@[simp] theorem shown_append : (first ++ second).shown = first.shown ++ second.shown := rfl

/-- Strides in a row pause as the first does and then as the second does. -/
@[simp] theorem holds_append : (first ++ second).holds = first.holds ++ second.holds := rfl

/-- Strides in a row are blocked where the first is and then where the second is. -/
@[simp] theorem hits_append : (first ++ second).hits = first.hits ++ second.hits := rfl

/-- Strides in a row count what both count. -/
@[simp] theorem actions_append : (first ++ second).actions = first.actions + second.actions := rfl

/-- Strides in a row pass the poses of the first and then those of the second. -/
@[simp] theorem poses_append : (first ++ second).poses = first.poses ++ second.poses :=
  List.map_append

/-- The second of two strides starts where the first one ends. -/
@[simp] theorem final_append (actor : Actor) :
    (first ++ second).final actor = second.final (first.final actor) := by
  unfold final
  rw [shown_append, List.getLastD_eq_getLast?, List.getLast?_append, List.getLastD_eq_getLast?,
    List.getLastD_eq_getLast?]
  cases second.shown.getLast? <;> rfl

/-- Strides in a row may be grouped in any way. -/
theorem append_assoc (third : Stride) : first ++ second ++ third = first ++ (second ++ third) := by
  ext1 <;> simp [Nat.add_assoc]

/-- The empty stride does nothing. -/
theorem empty_append : ({} : Stride) ++ first = first := by
  ext1 <;> simp

end Append

end Stride

namespace Actor

variable (grid : Grid) (actor : Actor)

/-- The actor with its flag at the edge set or cleared. -/
def flagged (flag : Bool) : Actor := { actor with isHittingBounds := flag }

/-- A move one cell ahead, times `sign`. -/
def move (sign : Int) : Stride :=
  let x := actor.x + sign * (grid.delta actor.angle).1
  let y := actor.y + sign * (grid.delta actor.angle).2
  if grid.isOutside x y then
    { shown := [actor.flagged true, actor.flagged false]
      holds := [.bounds, .step]
      hits := [⟨actor.x, actor.y, x, y⟩] }
  else { shown := [{ actor with x, y }], holds := [.step] }

section Move

variable {grid actor} {sign x y : Int} (hx : actor.x + sign * (grid.delta actor.angle).1 = x)
  (hy : actor.y + sign * (grid.delta actor.angle).2 = y)

include hx hy

/-- A move to a target that is not outside the grid goes there. -/
theorem move_of_inside (h : grid.isOutside x y = false) :
    actor.move grid sign = { shown := [{ actor with x, y }], holds := [.step] } := by
  unfold move
  simp only [hx, hy, h]
  rfl

/-- A move to a target outside the grid is blocked. -/
theorem move_of_outside (h : grid.isOutside x y = true) :
    actor.move grid sign =
      { shown := [actor.flagged true, actor.flagged false]
        holds := [.bounds, .step]
        hits := [⟨actor.x, actor.y, x, y⟩] } := by
  unfold move
  simp only [hx, hy, h]
  rfl

end Move

/-- A turn by some degrees. -/
def turn (degrees : Int) : Stride :=
  { shown := [{ actor with angle := actor.angle + degrees }], holds := [.step] }

/-- A deed; what custom deeds do is no stride. -/
def stride : Deed → Stride
  | .moveForward => actor.move grid 1
  | .moveBack => actor.move grid (-1)
  | .turnRight => actor.turn 90
  | .turnLeft => actor.turn (-90)
  | .custom _ => {}

/-- Deeds one after the other, all of them counted. -/
def walk (grid : Grid) : List Deed → Actor → Stride
  | [], _ => {}
  | deed :: rest, actor =>
      let stride := actor.stride grid deed
      stride ++ { actions := 1 } ++ walk grid rest (stride.final actor)

/-- Deeds are done one after the other. -/
theorem walk_append (deeds rest : List Deed) :
    actor.walk grid (deeds ++ rest) =
      actor.walk grid deeds ++ ((actor.walk grid deeds).final actor).walk grid rest := by
  induction deeds generalizing actor with
  | nil => exact (Stride.empty_append _).symm
  | cons deed deeds ih =>
      have hcounted : (actor.stride grid deed ++ { actions := 1 }).final actor =
          (actor.stride grid deed).final actor :=
        Stride.final_append _ _ _
      rw [List.cons_append, walk, walk, ih, Stride.final_append, hcounted,
        Stride.append_assoc _ _ (walk _ _ _)]

/-- A deed leaves foreign values alone. -/
theorem foreign_stride (deed : Deed) :
    ((actor.stride grid deed).final actor).foreign = actor.foreign := by
  have hmove (sign : Int) : ((actor.move grid sign).final actor).foreign = actor.foreign := by
    unfold move
    dsimp only
    split <;> rfl
  cases deed with
  | moveForward => exact hmove 1
  | moveBack => exact hmove (-1)
  | turnRight => rfl
  | turnLeft => rfl
  | custom id => rfl

/-- A walk leaves foreign values alone. -/
theorem foreign_walk (deeds : List Deed) :
    ((actor.walk grid deeds).final actor).foreign = actor.foreign := by
  induction deeds generalizing actor with
  | nil => rfl
  | cons deed rest ih =>
      rw [walk, Stride.final_append, Stride.final_append]
      exact (ih _).trans (foreign_stride grid actor deed)

/-- Every deed of a walk is counted. -/
theorem actions_walk (deeds : List Deed) : (actor.walk grid deeds).actions = deeds.length := by
  have hstride (actor : Actor) (deed : Deed) : (actor.stride grid deed).actions = 0 := by
    cases deed <;> simp only [stride, move, turn] <;> split <;> rfl
  induction deeds generalizing actor with
  | nil => rfl
  | cons deed rest ih =>
      simp only [walk, Stride.actions_append, hstride, ih, List.length_cons]
      omega

/-- The actor set moving. -/
def underway : Actor := { actor with isMoving := true }

/-- The walk of a program: the actor is set moving first. -/
def departure (deeds : List Deed) : Stride :=
  { shown := [actor.underway] } ++ actor.underway.walk grid deeds

/-- Every deed of a program is counted, and nothing else. -/
theorem actions_departure (deeds : List Deed) :
    (actor.departure grid deeds).actions = deeds.length := by
  rw [departure, Stride.actions_append, actions_walk, Nat.zero_add]

end Actor

namespace Fleet

/-- The pause that is made for a reason. -/
def Sight.pauseOf (sight : Sight) (name : String) (hold : Hold) : Pause where
  owner := name
  hold := hold
  ms :=
    match hold with
    | .step => sight.settings.stepDelay
    | .bounds => sight.settings.boundsDelay

/-- The tellings of some actors to the observers. -/
def Sight.tellings (sight : Sight) (name : String) (actors : List Actor) : List Telling :=
  actors.flatMap fun actor => sight.actor.observers.map fun observer =>
    ⟨name, observer, .actor actor⟩

/-- The sight of a context after a stride in it. -/
def Sight.after (sight : Sight) (name : String) (stride : Stride) : Sight :=
  { sight with
    pauses := (stride.holds.map (sight.pauseOf name)).reverse ++ sight.pauses
    shown := (sight.tellings name stride.shown).reverse ++ sight.shown
    actor := { sight.actor with value := stride.final sight.actor.value }
    actionsCompleted := sight.actionsCompleted + stride.actions
    hits :=
      if sight.isRecording then (stride.hits.map Hit.payload).reverse ++ sight.hits
      else sight.hits }

/-- Nothing done leaves nothing to see. -/
theorem Sight.after_empty (sight : Sight) (name : String) : sight.after name {} = sight := by
  obtain ⟨pauses, shown, catalog, settings, actor, actionsCompleted, isRecording, hits⟩ := sight
  cases isRecording <;> rfl

/-- Two strides in a row are seen as one after the other. -/
theorem Sight.after_append (sight : Sight) (name : String) (first second : Stride) :
    sight.after name (first ++ second) = (sight.after name first).after name second := by
  cases hrecording : sight.isRecording <;>
    simp [after, tellings, hrecording, Nat.add_assoc, pauseOf]

/-! ## What deeds lead to -/

open Routine

section Leads

variable {crowd : Crowd} {name : String} {answers : List Pause → Pause → Answer} {f g : Fleet}
  {s t : Sight}

/-- Played from a fleet, a routine ends without a fault and leaves a sight of a context. -/
def Leads (name : String) (answers : List Pause → Pause → Answer) (r : Routine Fleet Unit)
    (f : Fleet) (t : Sight) : Prop :=
  ∃ g, r.play (pace answers) f = (.ok (), g) ∧ g.sight name = t

/-- A routine leads on from where another one leads to. -/
theorem Leads.bind {r : Routine Fleet Unit} {k : Unit → Routine Fleet Unit}
    (hr : Leads name answers r f s)
    (hk : ∀ g, g.sight name = s → Leads name answers (k ()) g t) :
    Leads name answers (r >>= k) f t := by
  obtain ⟨g, hplay, hsight⟩ := hr
  obtain ⟨h, hplay', hsight'⟩ := hk g hsight
  refine ⟨h, ?_, hsight'⟩
  show (r.bind k).play (pace answers) f = _
  rw [play_bind, hplay]
  exact hplay'

/-- What is ensured after a routine leads on from where the routine leads to. -/
theorem Leads.ensure {body after : Routine Fleet Unit} (hbody : Leads name answers body f s)
    (hafter : ∀ g, g.sight name = s → Leads name answers after g t) :
    Leads name answers (body.ensure after) f t := by
  obtain ⟨g, hplay, hsight⟩ := hbody
  obtain ⟨h, hplay', hsight'⟩ := hafter g hsight
  refine ⟨h, ?_, hsight'⟩
  show (body.attempt.bind fun outcome => after.bind fun _ => ofExcept outcome).play _ f = _
  rw [play_bind, play_attempt, hplay]
  show (after.bind fun _ => ofExcept (.ok ())).play _ g = _
  rw [play_bind, hplay']
  rfl

/-- An act leads to what it leaves. -/
theorem leads_ofAct {act : Act Fleet Unit} (hact : act f = (.ok (), g))
    (hsight : g.sight name = t) : Leads name answers (ofAct act) f t :=
  ⟨g, (play_ofAct _ act f).trans hact, hsight⟩

/-- A routine leads on from where an act leads to. -/
theorem leads_act_bind {α : Type} {act : Act Fleet α} {k : α → Routine Fleet Unit} {a : α}
    (hact : act f = (.ok a, g)) (hk : Leads name answers (k a) g t) :
    Leads name answers (ofAct act >>= k) f t := by
  obtain ⟨h, hplay, hsight⟩ := hk
  exact ⟨h, (play_act_bind hact).trans hplay, hsight⟩

end Leads

/-! ### Single strides -/

section Steps

variable (name : String) (f : Fleet)

/-- A changed actor is shown. -/
theorem sight_change_after (change : Actor.Change) :
    (f.change name change).sight name =
      (f.sight name).after name { shown := [(f.sight name).actor.value.apply change] } := by
  rw [sight_change]
  cases hrecording : (f.sight name).isRecording <;>
    simp [Sight.after, Sight.tellings, Stride.final, hrecording]

/-- A hit is seen. -/
theorem sight_note_after {actor : Actor} (hforeign : actor.foreign = []) (x y : Int) :
    (f.note name (.boundsHit actor (.whole x) (.whole y))).sight name =
      (f.sight name).after name { hits := [⟨actor.x, actor.y, x, y⟩] } := by
  obtain ⟨hx, hy, -⟩ := Actor.shown_of_foreign_eq_nil hforeign
  have hpayload : (Occurrence.boundsHit actor (.whole x) (.whole y)).payload =
      Hit.payload ⟨actor.x, actor.y, x, y⟩ := by
    simp only [Occurrence.payload, hx, hy]
    rfl
  rw [sight_note, hpayload]
  generalize f.sight name = s
  obtain ⟨pauses, shown, catalog, settings, actor, actionsCompleted, isRecording, hits⟩ := s
  cases isRecording <;> simp [Sight.after, Sight.tellings, Stride.final, Occurrence.type]

/-- A counted action is seen. -/
theorem sight_counted_after :
    (f.alter name fun c => { c with actionsCompleted := c.actionsCompleted + 1 }).sight name =
      (f.sight name).after name { actions := 1 } := by
  rw [sight_counted]
  cases hrecording : (f.sight name).isRecording <;>
    simp [Sight.after, Sight.tellings, Stride.final, hrecording]

end Steps

section Smooth

variable (crowd : Crowd) (name : String) {answers : List Pause → Pause → Answer}
  (hanswers : ∀ earlier p, answers earlier p = .ok ()) {f : Fleet}
  (hforeign : (f.contexts name).actor.value.foreign = [])

include hanswers in
/-- A pause is made to its end. -/
theorem pause_leads (hold : Hold) (f : Fleet) :
    Leads name answers ((stage crowd name).pause hold) f
      ((f.sight name).after name { holds := [hold] }) := by
  refine leads_act_bind (read_eq crowd name f) ⟨(pace answers (f.pauseOf name hold) f).2, ?_, ?_⟩
  · show (Routine.ofExcept (answers f.pauses _)).play (pace answers) _ = _
    rw [hanswers]
    rfl
  · rw [sight_pace]
    cases hrecording : (f.sight name).isRecording <;>
      simp [Sight.after, Sight.tellings, Stride.final, hrecording]
    all_goals cases hold <;> rfl

/-- The actor is changed, and the routine goes on. -/
theorem change_leads (change : Actor.Change) (f : Fleet) {k : Actor → Routine Fleet Unit}
    {t : Sight} (hk : ∀ a g, g.sight name = (f.sight name).after name
        { shown := [(f.sight name).actor.value.apply change] } → Leads name answers (k a) g t) :
    Leads name answers (ofAct ((stage crowd name).updateActor change) >>= k) f t :=
  leads_act_bind (updateActor_eq crowd name f change) (hk _ _ (sight_change_after name f change))

include hanswers hforeign in
/-- A hold at the edge flags the actor, makes its pause and clears the flag. -/
theorem holdAtEdge_leads :
    Leads name answers (stage crowd name).holdAtEdge f ((f.sight name).after name
      { shown := [(f.sight name).actor.value.flagged true, (f.sight name).actor.value.flagged false]
        holds := [.bounds] }) := by
  let actor := (f.sight name).actor.value
  have hactor : actor.foreign = [] := hforeign
  have hset : actor.apply (.hold true) = actor.flagged true := by
    simp [Actor.apply, Actor.Change.hold, Actor.flagged, hactor]
  have hcleared : (actor.flagged true).apply (.hold false) = actor.flagged false := by
    simp [Actor.apply, Actor.Change.hold, Actor.flagged, hactor]
  show Leads _ _ _ _ ((f.sight name).after name ({ shown := [actor.flagged true] } ++
    ({ holds := [.bounds] } ++ { shown := [actor.flagged false] } : Stride)))
  rw [Sight.after_append, Sight.after_append]
  refine change_leads crowd name (.hold true) f fun _ g hg => ?_
  rw [← hset, ← hg]
  refine (pause_leads crowd name hanswers .bounds g).ensure fun h hh => ?_
  refine change_leads crowd name (.hold false) h fun _ g' hg' => ⟨g', rfl, ?_⟩
  rw [hg', hh, hg, ← hcleared, ← hset]
  rfl

include hanswers hforeign in
/-- A move makes its stride. -/
theorem move_leads (sign : Int) :
    Leads name answers ((stage crowd name).move sign) f ((f.sight name).after name
      ((f.sight name).actor.value.move (f.sight name).settings.grid sign)) := by
  let actor := (f.sight name).actor.value
  let grid := (f.sight name).settings.grid
  let x := actor.x + sign * (grid.delta actor.angle).1
  let y := actor.y + sign * (grid.delta actor.angle).2
  have hactor : actor.foreign = [] := hforeign
  refine leads_act_bind (read_eq crowd name f) ?_
  show Leads name answers (Routine.ofExcept (actor.target grid sign) >>= _) f _
  rw [Actor.target_of_foreign_eq_nil hactor]
  show Leads name answers (Routine.ofExcept (grid.excludes (.int x) (.int y)) >>= _) f _
  rw [Grid.excludes_int]
  cases hout : grid.isOutside x y with
  | true =>
      have hstride : actor.move grid sign =
          { hits := [⟨actor.x, actor.y, x, y⟩] } ++
            ({ shown := [actor.flagged true, actor.flagged false], holds := [.bounds] } ++
              { holds := [.step] } : Stride) :=
        Actor.move_of_outside rfl rfl hout
      rw [hstride, Sight.after_append, Sight.after_append]
      let noted := f.note name (.boundsHit actor (.whole x) (.whole y))
      have hnoted : noted.sight name = _ := sight_note_after name f hactor x y
      have hstays : (noted.sight name).actor.value = actor := by
        rw [hnoted]
        rfl
      have hnone : (noted.sight name).actor.value.foreign = [] := by rw [hstays, hactor]
      have hheld := holdAtEdge_leads crowd name hanswers hnone
      rw [hstays, hnoted] at hheld
      refine leads_act_bind (record_eq crowd name f _) (hheld.bind fun g hg => ?_)
      rw [← hg]
      exact pause_leads crowd name hanswers .step g
  | false =>
      have hstride : actor.move grid sign =
          { shown := [{ actor with x, y }] } ++ ({ holds := [.step] } : Stride) :=
        Actor.move_of_inside rfl rfl hout
      have hplaced : actor.apply (.place (.whole x) (.whole y)) = { actor with x, y } := by
        simp [Actor.apply, Actor.Change.place, Actor.Change.give, Amount.view,
          hactor]
      rw [hstride, Sight.after_append, ← hplaced]
      refine change_leads crowd name _ f fun _ g hg => ?_
      rw [← hg]
      exact pause_leads crowd name hanswers .step g

include hanswers hforeign in
/-- A turn makes its stride. -/
theorem turn_leads (degrees : Int) :
    Leads name answers ((stage crowd name).turn degrees) f ((f.sight name).after name
      ((f.sight name).actor.value.turn degrees)) := by
  let actor := (f.sight name).actor.value
  have hactor : actor.foreign = [] := hforeign
  have hturned : actor.apply (.face (.whole (actor.angle + degrees))) =
      { actor with angle := actor.angle + degrees } := by
    simp [Actor.apply, Actor.Change.face, Actor.Change.give, Amount.view, hactor]
  have hread : (stage crowd name).actor f = (.ok actor, f) := rfl
  show Leads _ _ _ _ ((f.sight name).after name
    ({ shown := [{ actor with angle := actor.angle + degrees }] } ++ { holds := [.step] }))
  rw [Sight.after_append, ← hturned]
  refine leads_act_bind hread ?_
  rw [Actor.turned_of_foreign_eq_nil hactor]
  refine change_leads crowd name _ f fun _ g hg => ?_
  rw [← hg]
  exact pause_leads crowd name hanswers .step g

include hanswers hforeign in
/-- A basic command makes the stride of its deed and is counted. -/
theorem basic_leads (b : Basic) :
    let stride := (f.sight name).actor.value.stride (f.sight name).settings.grid b.deed
    Leads name answers ((stage crowd name).runCommand 0 (.basic b)) f
      ((f.sight name).after name (stride ++ { actions := 1 })) := by
  intro stride
  have hperform : Leads name answers ((stage crowd name).perform b.deed) f
      ((f.sight name).after name stride) := by
    simp only [stride]
    cases b.deed with
    | moveForward => exact move_leads crowd name hanswers hforeign 1
    | moveBack => exact move_leads crowd name hanswers hforeign (-1)
    | turnRight => exact turn_leads crowd name hanswers hforeign 90
    | turnLeft => exact turn_leads crowd name hanswers hforeign (-90)
    | custom id => exact ⟨f, rfl, (Sight.after_empty _ name).symm⟩
  rw [Sight.after_append]
  refine hperform.bind fun g hg => ?_
  rw [← hg]
  exact leads_ofAct (countAction_eq crowd name g) (sight_counted_after name g)

include hanswers hforeign in
/-- Actions are carried out as a walk. -/
theorem carryOut_leads (bs : List Basic) :
    Leads name answers ((stage crowd name).carryOut (bs.map .action)) f ((f.sight name).after name
      ((f.sight name).actor.value.walk (f.sight name).settings.grid (bs.map Basic.deed))) := by
  induction bs generalizing f with
  | nil => exact ⟨f, rfl, (Sight.after_empty _ name).symm⟩
  | cons b rest ih =>
      rw [List.map_cons, List.map_cons, Actor.walk, Sight.after_append]
      refine (basic_leads crowd name hanswers hforeign b).bind fun g hg => ?_
      have hactor : (g.sight name).actor.value =
          ((f.sight name).actor.value.stride (f.sight name).settings.grid b.deed).final
            (f.sight name).actor.value := by
        rw [hg]
        exact Stride.final_append _ _ _
      have hsettings : (g.sight name).settings = (f.sight name).settings := by
        rw [hg]
        rfl
      have hrest := ih (f := g) ((congrArg Actor.foreign hactor).trans
        ((Actor.foreign_stride _ _ _).trans hforeign))
      rw [hactor, hsettings, hg] at hrest
      exact hrest

include hforeign in
/-- A program sets the actor moving, makes the walk of its expansion up to the first cut, and is
refused there if there is a cut; if there is nothing before the cut, then it makes no pause. -/
theorem runProgram_leads {ids : List Phrase} {marks : List Mark}
    (hmarks : marks = (f.contexts name).catalog.expansion ids)
    (hmade : Mark.actions marks = [] ∨ ∀ earlier p, answers earlier p = .ok ()) :
    ∃ g, ((stage crowd name).runProgram ids).play (pace answers) f =
        (Mark.cutShort (Mark.cut? marks) (.ok ()), g) ∧
      g.sight name = (f.sight name).after name
        ((f.sight name).actor.value.departure (f.sight name).settings.grid
          ((Mark.actions marks).map Basic.deed)) := by
  let moving : Actor.Change := { isMoving := some true }
  let h := f.change name moving
  let walking := (stage crowd name).carryOut ((Mark.actions marks).map .action)
  have hactor : (f.sight name).actor.value.apply moving = (f.sight name).actor.value.underway := by
    simp [Actor.apply, Actor.underway, moving,
      show (f.sight name).actor.value.foreign = [] from hforeign]
  have hmoving := sight_change_after name f moving
  rw [hactor] at hmoving
  have hcatalog : (h.contexts name).catalog = (f.contexts name).catalog :=
    congrArg Sight.catalog hmoving
  obtain ⟨hended, hseen, -⟩ := runSteps_agrees crowd name _ answers 0 ids h h ⟨rfl, hcatalog⟩
  rw [← hmarks, Stage.carryOut_eq] at hended hseen
  obtain ⟨g, hplay, hg⟩ : Leads name answers walking h ((h.sight name).after name
      ((h.sight name).actor.value.walk (h.sight name).settings.grid
        ((Mark.actions marks).map Basic.deed))) := by
    rcases hmade with hnone | hanswers
    · simp only [walking, hnone]
      exact ⟨h, rfl, (Sight.after_empty _ name).symm⟩
    · exact carryOut_leads crowd name hanswers (foreign_change hforeign moving rfl) _
  have hcut : (walking >>= fun _ => refuseAt (Mark.cut? marks)).play (pace answers) h =
      (Mark.cutShort (Mark.cut? marks) (.ok ()), g) := by
    rw [play_refuseAt, show walking.play (pace answers) h = _ from hplay]
  have hprogram : ((stage crowd name).runProgram ids).play (pace answers) f =
      ((stage crowd name).runSteps 0 ids).play (pace answers) h :=
    play_act_bind (updateActor_eq crowd name f moving)
  refine ⟨(((stage crowd name).runSteps 0 ids).play (pace answers) h).2, ?_, ?_⟩
  · rw [hprogram]
    have hfirst := congrArg Prod.fst hcut
    exact Prod.ext (hended.trans hfirst) rfl
  · have hleft : g.sight name = (h.sight name).after name _ := hg
    let whole := walking >>= fun _ => refuseAt (Mark.cut? marks)
    calc _ = (whole.play (pace answers) h).2.sight name := hseen
      _ = g.sight name := by rw [hcut]
      _ = _ := by
        rw [hleft, hmoving, Actor.departure, Sight.after_append]
        rfl

end Smooth

end Fleet

end Gridwalk
