import Gridwalk.Proofs.Execution
import Gridwalk.Proofs.MatchedStages

/-!
# Runs at other angles

The angle of an actor is kept as it is, and is rounded only where a move asks for its direction.
A run is compared with the same run whose actor starts at another angle that rounds to the same
quarter turn.  The two actors stay turned against each other by the same number of degrees, and
every turn keeps their quarter turns equal (`quarterTurn_turned`), so every move leads them to the
same target.  All else is alike in the two runs (`Fleet.Askew`), whose stages are therefore matched
(`Fleet.askew_matched`).
-/

set_option autoImplicit false

namespace Gridwalk

/-- Rounding twice rounds once. -/
theorem quarterTurn_quarterTurn (angle : Int) :
    quarterTurn (quarterTurn angle) = quarterTurn angle := by
  unfold quarterTurn
  omega

/-- Full turns are not seen. -/
theorem quarterTurn_add_full (angle turns : Int) :
    quarterTurn (angle + 360 * turns) = quarterTurn angle := by
  unfold quarterTurn
  omega

/-- Angles that round to the same quarter turn do so after they are turned by quarter turns. -/
theorem quarterTurn_turned {a b : Int} (h : quarterTurn a = quarterTurn b) (turns : Int) :
    quarterTurn (a + 90 * turns) = quarterTurn (b + 90 * turns) := by
  unfold quarterTurn at *
  omega

namespace Actor

/-- The actor turned by some more degrees. -/
def askew (degrees : Int) (actor : Actor) : Actor := { actor with angle := actor.angle + degrees }

/-- No foreign value stands in the place of the angle. -/
def HasAngle (actor : Actor) : Prop := actor.foreign.lookup .angle = none

variable {actor : Actor}

/-- Without a foreign value in its place, the angle is shown. -/
theorem HasAngle.shown_eq (h : actor.HasAngle) : actor.shown .angle = .int actor.angle := by
  unfold HasAngle at h
  simp [shown, h]

/-- A turned actor shows everything but its angle as before. -/
theorem shown_askew (degrees : Int) {field : Field} (hfield : field ≠ .angle) :
    (actor.askew degrees).shown field = actor.shown field := by
  cases field <;> first | rfl | exact absurd rfl hfield

/-- A change that puts nothing foreign in the place of the angle keeps it free. -/
theorem HasAngle.apply (h : actor.HasAngle) {change : Change}
    (hchange : change.foreign.lookup .angle = none) : (actor.apply change).HasAngle := by
  unfold HasAngle at *
  rw [List.lookup_eq_none_iff] at *
  intro entry hentry
  rcases List.mem_append.mp hentry with hnew | hold
  · exact hchange entry hnew
  · exact h entry (List.mem_filter.mp hold).1

/-- A change that does not turn the actor is seen past the degrees. -/
theorem apply_askew (degrees : Int) {change : Change} (hchange : change.angle = none) :
    (actor.askew degrees).apply change = (actor.apply change).askew degrees := by
  simp [Actor.apply, askew, hchange]

/-- A change that names no angle leaves it. -/
theorem angle_apply {change : Change} (hchange : change.angle = none) :
    (actor.apply change).angle = actor.angle := by
  simp [Actor.apply, hchange]

/-- To put an actor somewhere does not turn it. -/
theorem angle_place (x y : Amount) :
    (Change.place x y).angle = none ∧ (Change.place x y).foreign.lookup .angle = none := by
  cases x <;> cases y <;> exact ⟨rfl, rfl⟩

/-- Actors at angles of one quarter turn head for the same target. -/
theorem target_askew (h : actor.HasAngle) {degrees : Int}
    (hheading : quarterTurn (actor.angle + degrees) = quarterTurn actor.angle) (grid : Grid)
    (sign : Int) : (actor.askew degrees).target grid sign = actor.target grid sign := by
  have haskew : (actor.askew degrees).HasAngle := h
  have hdelta : grid.delta (actor.angle + degrees) = grid.delta actor.angle := by
    unfold Grid.delta Heading.ofAngle
    rw [hheading]
  have hdirection : grid.deltaAt ((actor.askew degrees).shown .angle) =
      grid.deltaAt (actor.shown .angle) := by
    rw [h.shown_eq, haskew.shown_eq, Grid.deltaAt_int, Grid.deltaAt_int]
    exact congrArg Except.ok hdelta
  unfold target
  rw [hdirection, shown_askew degrees (by decide), shown_askew degrees (by decide)]

/-- An actor that is given an angle has it. -/
theorem hasAngle_face (actor : Actor) (angle : Int) :
    (actor.apply (.face (.whole angle))).HasAngle := by
  unfold HasAngle
  rw [List.lookup_eq_none_iff]
  intro entry hentry
  have hkept := (List.mem_filter.mp hentry).2
  cases hfield : entry.1 with
  | angle =>
      rw [hfield] at hkept
      cases hkept
  | _ => rfl

/-- A turn adds its degrees to an angle that is an integer. -/
theorem HasAngle.turned_eq (h : actor.HasAngle) (degrees : Int) :
    actor.turned degrees = .ok (.whole (actor.angle + degrees)) := by
  unfold turned
  rw [h.shown_eq]
  split
  · rw [Json.minus_int, Int.sub_neg]
  · exact Json.plus_int _ _

end Actor

/-- The notice of an actor that is turned by some more degrees. -/
def Notice.askew (degrees : Int) : Notice → Notice
  | .actor shown => .actor (shown.askew degrees)
  | .activeIndex position => .activeIndex position

/-- The telling of an actor that is turned by some more degrees. -/
def Telling.askew (degrees : Int) (telling : Telling) : Telling :=
  { telling with notice := telling.notice.askew degrees }

/-- What an event says, whichever run it belongs to. -/
def Event.report (event : Event) : String × List (Phrase × Json) × Timestamp :=
  (event.occurrence.type, event.occurrence.payload, event.time)

/-- What a result says, whichever run it belongs to, if its actor is turned by some degrees. -/
def RunResult.report (degrees : Int) (result : RunResult) :
    Outcome × Nat × Actor × List (String × List (Phrase × Json) × Timestamp) :=
  (result.outcome, result.stepsExecuted, result.actor.askew degrees, result.events.map Event.report)

namespace Context

/-- The context without its actor, and without the id and the events of its run. -/
def faceless (c : Context) : Context :=
  { c with actor := { c.actor with value := {} }, run := none, log := [] }

/-- Two contexts are the same, apart from the id of the run, and apart from their actors being
turned against each other by degrees that do not change the quarter turn. -/
structure Askew (degrees : Int) (c d : Context) : Prop where
  actor : c.actor.value = d.actor.value.askew degrees
  angle : d.actor.value.HasAngle
  heading : quarterTurn (d.actor.value.angle + degrees) = quarterTurn d.actor.value.angle
  faceless : c.faceless = d.faceless
  isRunning : c.run.isSome = d.run.isSome
  reports : c.log.map Event.report = d.log.map Event.report

namespace Askew

variable {degrees : Int} {c d : Context} (h : Askew degrees c d)

include h

/-- What has nothing to do with the actor and the run is the same. -/
theorem read {τ : Type} (view : Context → τ) (hview : ∀ c : Context, view c.faceless = view c) :
    view c = view d := by
  rw [← hview, h.faceless, hview]

/-- A change that has nothing to do with the actor and the run. -/
theorem edit (g : Context → Context) (hactor : ∀ c, (g c).actor.value = c.actor.value)
    (hrun : ∀ c, (g c).run = c.run) (hlog : ∀ c, (g c).log = c.log)
    (hfaceless : ∀ c, (g c).faceless = g c.faceless) : Askew degrees (g c) (g d) where
  actor := by rw [hactor, hactor, h.actor]
  angle := by rw [hactor]; exact h.angle
  heading := by rw [hactor]; exact h.heading
  faceless := by rw [hfaceless, hfaceless, h.faceless]
  isRunning := by rw [hrun, hrun, h.isRunning]
  reports := by rw [hlog, hlog, h.reports]

/-- Occurrences that say the same are recorded alike. -/
theorem record {occurrence other : Occurrence} (htype : occurrence.type = other.type)
    (hpayload : occurrence.payload = other.payload) :
    Askew degrees (c.record occurrence) (d.record other) := by
  have hclock : c.clock = d.clock := h.read Context.clock fun _ => rfl
  have hrun := h.isRunning
  cases hc : c.run with
  | none =>
      have hd : d.run = none := by simpa [hc] using hrun.symm
      rw [record_of_run_eq_none hc, record_of_run_eq_none hd]
      exact h
  | some run =>
      obtain ⟨other, hd⟩ : ∃ other, d.run = some other := by
        rw [hc] at hrun
        exact Option.isSome_iff_exists.mp hrun.symm
      simp only [Context.record, hc, hd]
      refine ⟨h.actor, h.angle, h.heading, h.faceless, ?_, ?_⟩
      · rfl
      · simp only [List.map_cons, h.reports, Event.report, htype, hpayload, hclock]

/-- Runs are opened alike, under any two ids. -/
theorem opened (run other : RunId) : Askew degrees (c.opened run) (d.opened other) where
  actor := h.actor
  angle := h.angle
  heading := h.heading
  faceless := congrArg (fun c : Context => { c with actionsCompleted := 0 }) h.faceless
  isRunning := rfl
  reports := rfl

/-- The id of the run is forgotten alike. -/
theorem closed : Askew degrees { c with run := none } { d with run := none } where
  actor := h.actor
  angle := h.angle
  heading := h.heading
  faceless := h.faceless
  isRunning := rfl
  reports := h.reports

/-- Actors that are turned against each other by the same degrees. -/
theorem actors {a : Actor} (hangle : a.HasAngle)
    (hheading : quarterTurn (a.angle + degrees) = quarterTurn a.angle) :
    Askew degrees { c with actor := { c.actor with value := a.askew degrees } }
      { d with actor := { d.actor with value := a } } where
  actor := rfl
  angle := hangle
  heading := hheading
  faceless := h.faceless
  isRunning := h.isRunning
  reports := h.reports

end Askew

end Context

namespace Fleet

open Routine

/-- Two fleets are the same, apart from the way the actor of a context is turned and from the id of
its run.  What was told since a start differs in the same way. -/
structure Askew (start : Fleet) (name : String) (degrees : Int) (f g : Fleet) : Prop where
  context : (f.contexts name).Askew degrees (g.contexts name)
  others : ∀ other, other ≠ name → f.contexts other = g.contexts other
  store : f.store = g.store
  pauses : f.pauses = g.pauses
  told : ∃ news, f.told = news.map (Telling.askew degrees) ++ start.told ∧
    g.told = news ++ start.told

section Steps

variable {start : Fleet} {name : String} {degrees : Int} {f g : Fleet}

/-- Contexts may be changed to any that are askew. -/
theorem Askew.alter (h : Askew start name degrees f g) {change change' : Context → Context}
    (hcontext : (change (f.contexts name)).Askew degrees (change' (g.contexts name))) :
    Askew start name degrees (f.alter name change) (g.alter name change') where
  context := by
    rw [contexts_alter_self, contexts_alter_self]
    exact hcontext
  others other hother := by
    rw [contexts_alter_of_ne _ _ _ _ hother, contexts_alter_of_ne _ _ _ _ hother]
    exact h.others other hother
  store := h.store
  pauses := h.pauses
  told := h.told

/-- A change that has nothing to do with the actor and the run is made alike. -/
theorem Askew.edit (h : Askew start name degrees f g) (change : Context → Context)
    (hactor : ∀ c, (change c).actor.value = c.actor.value) (hrun : ∀ c, (change c).run = c.run)
    (hlog : ∀ c, (change c).log = c.log)
    (hfaceless : ∀ c, (change c).faceless = change c.faceless) :
    Askew start name degrees (f.alter name change) (g.alter name change) :=
  h.alter (h.context.edit change hactor hrun hlog hfaceless)

/-- Occurrences that say the same are recorded alike. -/
theorem Askew.note (h : Askew start name degrees f g) {occurrence other : Occurrence}
    (htype : occurrence.type = other.type) (hpayload : occurrence.payload = other.payload) :
    Askew start name degrees (f.note name occurrence) (g.note name other) :=
  h.alter (h.context.record htype hpayload)

/-- The same observers are told notices that are askew. -/
theorem Askew.tell (h : Askew start name degrees f g) (notice : Notice) (observers : List String) :
    Askew start name degrees (f.tell name (notice.askew degrees) observers)
      (g.tell name notice observers) where
  context := h.context
  others := h.others
  store := h.store
  pauses := h.pauses
  told := by
    obtain ⟨news, hf, hg⟩ := h.told
    refine ⟨(observers.map fun observer => ⟨name, observer, notice⟩).reverse ++ news, ?_, ?_⟩
    · simp [Fleet.tell, hf, Telling.askew]
    · simp [Fleet.tell, hg]

/-- Actors that are turned against each other by the same degrees are shown alike. -/
theorem Askew.showActor (h : Askew start name degrees f g) {a : Actor} (hangle : a.HasAngle)
    (hheading : quarterTurn (a.angle + degrees) = quarterTurn a.angle) :
    Askew start name degrees (f.showActor name (a.askew degrees)) (g.showActor name a) := by
  have hobservers : (f.contexts name).actor.observers = (g.contexts name).actor.observers :=
    h.context.read (fun c => c.actor.observers) fun _ => rfl
  unfold Fleet.showActor
  rw [hobservers]
  exact (h.alter (h.context.actors hangle hheading)).tell (.actor a) _

/-- A position is shown alike. -/
theorem Askew.showIndex (h : Askew start name degrees f g) (position : Position) :
    Askew start name degrees (f.showIndex name position) (g.showIndex name position) := by
  have hobservers : (f.contexts name).activeIndex.observers =
      (g.contexts name).activeIndex.observers :=
    h.context.read (fun c => c.activeIndex.observers) fun _ => rfl
  unfold Fleet.showIndex
  rw [hobservers]
  have hset := h.edit (fun c => { c with activeIndex := { c.activeIndex with value := position } })
    (fun _ => rfl) (fun _ => rfl) (fun _ => rfl) fun _ => rfl
  exact hset.tell (.activeIndex position) _

/-- A change that does not turn the actor is made alike. -/
theorem Askew.change (h : Askew start name degrees f g) {change : Actor.Change}
    (hangle : change.angle = none) (hforeign : change.foreign.lookup .angle = none) :
    Askew start name degrees (f.change name change) (g.change name change) := by
  unfold Fleet.change
  rw [h.context.actor, Actor.apply_askew degrees hangle]
  refine h.showActor (h.context.angle.apply hforeign) ?_
  rw [Actor.angle_apply hangle]
  exact h.context.heading

/-- A turn by quarter turns is made alike. -/
theorem Askew.face (h : Askew start name degrees f g) (turns : Int) :
    Askew start name degrees
      (f.change name (.face (.whole ((f.contexts name).actor.value.angle + 90 * turns))))
      (g.change name (.face (.whole ((g.contexts name).actor.value.angle + 90 * turns)))) := by
  let angle := (g.contexts name).actor.value.angle
  have hfaced : (f.contexts name).actor.value.apply
        (.face (.whole ((f.contexts name).actor.value.angle + 90 * turns))) =
      ((g.contexts name).actor.value.apply
        (.face (.whole (angle + 90 * turns)))).askew degrees := by
    have hsum : angle + degrees + 90 * turns = angle + 90 * turns + degrees := by omega
    rw [h.context.actor]
    show Actor.apply _ (.face (.whole (angle + degrees + 90 * turns))) = _
    rw [hsum]
    rfl
  unfold Fleet.change
  rw [hfaced]
  refine h.showActor (h.context.angle.apply rfl) ?_
  show quarterTurn (angle + 90 * turns + degrees) = quarterTurn (angle + 90 * turns)
  rw [show angle + 90 * turns + degrees = angle + degrees + 90 * turns by omega]
  exact quarterTurn_turned h.context.heading turns

/-- A move that is blocked is recorded alike. -/
theorem Askew.blocked (h : Askew start name degrees f g) (x y : Amount) :
    Askew start name degrees (f.note name (.boundsHit (f.contexts name).actor.value x y))
      (g.note name (.boundsHit (g.contexts name).actor.value x y)) := by
  refine h.note rfl ?_
  rw [h.context.actor]
  simp only [Occurrence.payload, Actor.shown_askew degrees (show Actor.Field.x ≠ .angle by decide),
    Actor.shown_askew degrees (show Actor.Field.y ≠ .angle by decide)]

/-- A pause is answered alike. -/
theorem Askew.rested (h : Askew start name degrees f g) (interlude : Interlude) (p : Pause) :
    (f.rested interlude name p).1 = (g.rested interlude name p).1 ∧
      Askew start name degrees (f.rested interlude name p).2 (g.rested interlude name p).2 := by
  have hnoted : Askew start name degrees (f.noted p) (g.noted p) :=
    ⟨h.context, h.others, h.store, congrArg (List.cons p) h.pauses, h.told⟩
  let edit (c : Context) : Context := { c with catalog := interlude.edit g.pauses p c.catalog }
  have hedited : Askew start name degrees ((f.noted p).alter name edit)
      ((g.noted p).alter name edit) :=
    hnoted.edit edit (fun _ => rfl) (fun _ => rfl) (fun _ => rfl) fun _ => rfl
  refine ⟨congrArg (fun pauses => interlude.answer pauses p) h.pauses, ?_⟩
  unfold Fleet.rested
  rw [h.pauses]
  exact hedited

end Steps

section Runs

variable (crowd : Crowd) (name : String) (interlude : Interlude) (start : Fleet) (degrees : Int)

/-- A run beside the run of an actor that is turned otherwise. -/
def abeam : Pairing Fleet Fleet where
  left := rested interlude name
  right := rested interlude name
  related := Askew start name degrees

variable {f g : Fleet}

/-- A pause ends the same way in both fleets, and they stay askew over it. -/
theorem pause_askew (hold : Hold) :
    Agrees (abeam name interlude start degrees) ((stage crowd name).pause hold)
      ((stage crowd name).pause hold) := by
  intro f g h
  have hsettings : (f.contexts name).settings = (g.contexts name).settings :=
    h.context.read Context.settings fun _ => rfl
  refine agreesAt_act_left (read_eq crowd name f) (agreesAt_act_right (read_eq crowd name g) ?_)
  rw [hsettings]
  exact agreesAt_rest (h.rested interlude _).1 (h.rested interlude _).2

/-- A change that does not turn the actor is made alike. -/
theorem change_askew {change : Actor.Change} (hangle : change.angle = none)
    (hforeign : change.foreign.lookup .angle = none) :
    Agrees (abeam name interlude start degrees)
      (ofAct ((stage crowd name).updateActor change) >>= fun _ => .done ())
      (ofAct ((stage crowd name).updateActor change) >>= fun _ => .done ()) := by
  intro f g h
  exact agreesAt_act_left (updateActor_eq crowd name f change)
    (agreesAt_act_right (updateActor_eq crowd name g change)
      (agrees_done _ () _ _ (h.change hangle hforeign)))

/-- A turn by quarter turns is made alike. -/
theorem turn_askew (turns : Int) :
    Agrees (abeam name interlude start degrees) ((stage crowd name).turn (90 * turns))
      ((stage crowd name).turn (90 * turns)) := by
  intro f g h
  have hangle : (f.contexts name).actor.value.HasAngle := by
    rw [h.context.actor]
    exact h.context.angle
  refine agreesAt_act_left ((stage crowd name).actor_eq f)
    (agreesAt_act_right ((stage crowd name).actor_eq g) ?_)
  change AgreesAt _ (ofExcept ((f.contexts name).actor.value.turned (90 * turns)) >>= _) f
    (ofExcept ((g.contexts name).actor.value.turned (90 * turns)) >>= _) g
  rw [hangle.turned_eq, h.context.angle.turned_eq]
  exact agreesAt_act_left (updateActor_eq crowd name f _)
    (agreesAt_act_right (updateActor_eq crowd name g _)
      (pause_askew crowd name interlude start degrees .step _ _ (h.face turns)))

/-- The stages of the two runs are matched. -/
theorem askew_matched :
    (stage crowd name).Matched (abeam name interlude start degrees) (stage crowd name) where
  settings h := h.context.read Context.settings fun _ => rfl
  catalog h := h.context.read Context.catalog fun _ => rfl
  target := by
    intro f g h grid sign
    show (f.contexts name).actor.value.target grid sign = _
    rw [h.context.actor]
    exact Actor.target_askew h.context.angle h.context.heading grid sign
  blocked h x y := agreesAt_acts rfl (h.blocked x y)
  placed x y :=
    change_askew crowd name interlude start degrees (Actor.angle_place x y).1
      (Actor.angle_place x y).2
  flagged flag := change_askew crowd name interlude start degrees rfl rfl
  starting := change_askew crowd name interlude start degrees rfl rfl
  setIndex position f g h := by
    apply agreesAt_acts
    · rw [setIndex_eq, setIndex_eq]
    · rw [setIndex_eq, setIndex_eq]
      exact h.showIndex position
  record occurrence f g h := agreesAt_acts rfl (h.note rfl rfl)
  countAction f g h := by
    let count (c : Context) : Context := { c with actionsCompleted := c.actionsCompleted + 1 }
    have hcounted : Askew start name degrees (f.alter name count) (g.alter name count) :=
      h.edit count (fun _ => rfl) (fun _ => rfl) (fun _ => rfl) fun _ => rfl
    exact agreesAt_acts rfl hcounted
  turn := turn_askew crowd name interlude start degrees
  pause := pause_askew crowd name interlude start degrees
  custom _ := agrees_done _ ()

end Runs

section Ends

variable {start : Fleet} {name : String} {degrees : Int} {f g : Fleet}
  (h : Askew start name degrees f g) (run other : RunId)

include h

/-- Runs with different ids begin askew. -/
theorem Askew.begun (ids : List Phrase) :
    Askew start name degrees (f.begun name run ids) (g.begun name other ids) := by
  have hrunning := h.context.edit (fun c => { c with phase := .running })
    (fun _ => rfl) (fun _ => rfl) (fun _ => rfl) fun _ => rfl
  exact h.alter ((hrunning.opened run other).record rfl rfl)

/-- Runs are cleared alike. -/
theorem Askew.cleared : Askew start name degrees (f.cleared name) (g.cleared name) := by
  let still : Actor.Change := { isMoving := some false, isHittingBounds := some false }
  have hstill : Askew start name degrees ((f.showIndex name (.index idleIndex)).change name still)
      ((g.showIndex name (.index idleIndex)).change name still) :=
    (h.showIndex (.index idleIndex)).change rfl rfl
  exact hstill.edit (fun c => { c with phase := .idle })
    (fun _ => rfl) (fun _ => rfl) (fun _ => rfl) fun _ => rfl

/-- Runs are concluded alike, with the same number of actions recorded. -/
theorem Askew.concluded (outcome : Outcome) :
    Askew start name degrees (f.concluded name outcome) (g.concluded name outcome) := by
  have hcount : (f.contexts name).actionsCompleted = (g.contexts name).actionsCompleted :=
    h.context.read Context.actionsCompleted fun _ => rfl
  refine h.alter (Context.Askew.closed ?_)
  rw [hcount]
  exact h.context.record rfl rfl

/-- Runs report the same results, seen past the degrees. -/
theorem Askew.resultOf (outcome : Outcome) :
    (f.resultOf name run outcome).report 0 = (g.resultOf name other outcome).report degrees := by
  have hcount : (f.contexts name).actionsCompleted = (g.contexts name).actionsCompleted :=
    h.context.read Context.actionsCompleted fun _ => rfl
  have hactor : (f.contexts name).actor.value.askew 0 =
      (g.contexts name).actor.value.askew degrees := by
    rw [← h.context.actor]
    simp [Actor.askew]
  have hrecorded : ((f.contexts name).record _).Askew degrees ((g.contexts name).record _) :=
    h.context.record (rfl : (Stage.closing outcome (g.contexts name).actionsCompleted).type = _) rfl
  have hevents := hrecorded.reports
  simp only [RunResult.report, Fleet.resultOf, Context.events, List.map_reverse, hcount, hactor,
    hevents]

/-- However the program ended, the two runs are finished alike. -/
theorem Askew.finished (ended : Except Fault Unit) :
    (f.finished name run ended).1.map (RunResult.report 0) =
        (g.finished name other ended).1.map (RunResult.report degrees) ∧
      Askew start name degrees (f.finished name run ended).2 (g.finished name other ended).2 := by
  unfold Fleet.finished
  cases Stage.outcomeOf ended with
  | error fault => exact ⟨rfl, h.cleared⟩
  | ok outcome =>
      exact ⟨congrArg Except.ok (h.cleared.resultOf run other outcome), h.cleared.concluded outcome⟩

end Ends

/-- The fleet with the actor of a context facing an angle. -/
def faced (f : Fleet) (name : String) (angle : Int) : Fleet :=
  f.alter name fun c =>
    { c with actor := { c.actor with value := c.actor.value.apply (.face (.whole angle)) } }

/-- A run of a program that starts at an angle. -/
def runFaced (f : Fleet) (crowd : Crowd) (name : String) (interlude : Interlude) (angle : Int)
    (run : RunId) (ids : List Phrase) : Except Fault RunResult × Fleet :=
  ((stage crowd name).execute run ids).play (rested interlude name) (f.faced name angle)

/-- Two runs are the same, apart from their ids and from the actor that is turned by some more
degrees in the first one. -/
structure DifferBy (start : Fleet) (name : String) (degrees : Int)
    (left right : Except Fault RunResult × Fleet) : Prop where
  results : left.1.map (RunResult.report 0) = right.1.map (RunResult.report degrees)
  fleets : start.Askew name degrees left.2 right.2

section Main

variable (f : Fleet) (crowd : Crowd) (name : String) (interlude : Interlude)

/-- A fleet whose actor faces two angles with the same heading is askew to itself. -/
theorem askew_faced {angle degrees : Int}
    (hheading : quarterTurn (angle + degrees) = quarterTurn angle) :
    f.Askew name degrees (f.faced name (angle + degrees)) (f.faced name angle) where
  context := by
    rw [faced, faced, contexts_alter_self, contexts_alter_self]
    exact ⟨rfl, (f.contexts name).actor.value.hasAngle_face angle, hheading, rfl, rfl, rfl⟩
  others other hother := by
    rw [faced, faced, contexts_alter_of_ne _ _ _ _ hother, contexts_alter_of_ne _ _ _ _ hother]
  store := rfl
  pauses := rfl
  told := ⟨[], rfl, rfl⟩

/-- Runs that start at angles of one quarter turn differ by the degrees between the angles. -/
theorem differBy_of_quarterTurn {angle degrees : Int}
    (hheading : quarterTurn (angle + degrees) = quarterTurn angle) (run other : RunId)
    (ids : List Phrase) :
    DifferBy f name degrees (f.runFaced crowd name interlude (angle + degrees) run ids)
      (f.runFaced crowd name interlude angle other ids) := by
  have haskew := askew_faced f name hheading
  have hphase : ((f.faced name (angle + degrees)).contexts name).phase =
      ((f.faced name angle).contexts name).phase :=
    haskew.context.read Context.phase fun _ => rfl
  unfold runFaced
  cases hright : ((f.faced name angle).contexts name).phase with
  | running =>
      rw [execute_play_of_running crowd name _ _ run ids (hphase.trans hright),
        execute_play_of_running crowd name _ _ other ids hright]
      exact ⟨rfl, haskew⟩
  | idle =>
      rw [execute_play_of_idle crowd name _ _ run ids (hphase.trans hright),
        execute_play_of_idle crowd name _ _ other ids hright]
      have hattuned := (askew_matched crowd name interlude f degrees).attuned
      obtain ⟨hended, hafter⟩ := hattuned.program ids _ _ (haskew.begun run other ids)
      change (((stage crowd name).runProgram ids).play (rested interlude name) _).1 =
        (((stage crowd name).runProgram ids).play (rested interlude name) _).1 at hended
      rw [hended]
      obtain ⟨hresults, hfleets⟩ := hafter.finished run other _
      exact ⟨hresults, hfleets⟩

/-- A run rounds angles only where it moves, and this is the same as to round the angle at which it
starts.  The run from any angle and the run from its quarter turn make the same pauses, record the
same occurrences, tell the same, and end with the same outcome, after as many steps; their actors
differ by the degrees that were rounded away, from the start to the end.  In the same way runs from
angles that differ by full turns differ by these turns only. -/
theorem execute_quarterTurn (angle : Int) (run other : RunId) (ids : List Phrase) :
    let played := f.runFaced crowd name interlude
    DifferBy f name (angle - quarterTurn angle) (played angle run ids)
        (played (quarterTurn angle) other ids) ∧
      ∀ turns, DifferBy f name (360 * turns) (played (angle + 360 * turns) run ids)
        (played angle other ids) := by
  intro played
  constructor
  · have hsum : quarterTurn angle + (angle - quarterTurn angle) = angle := by omega
    have hheading : quarterTurn (quarterTurn angle + (angle - quarterTurn angle)) =
        quarterTurn (quarterTurn angle) := by
      rw [hsum, quarterTurn_quarterTurn]
    have hdiffer := differBy_of_quarterTurn f crowd name interlude hheading run other ids
    rw [hsum] at hdiffer
    exact hdiffer
  · intro turns
    exact differBy_of_quarterTurn f crowd name interlude (quarterTurn_add_full angle turns) run
      other ids

end Main

end Fleet

end Gridwalk
