import Gridwalk.Proofs.FlatRun

/-!
# Runs whose pauses are all made

A run on an idle context whose pauses are all made to their ends is known from the actor and from
the expansion of its program: the actor is set moving, makes the walk of the expansion up to the
first cut, and has its flags cleared in the end.  All this is one stride, the journey of the actor,
and `Fleet.execute_journeys` reads the result of the run and the fleet that it leaves from it.
-/

set_option autoImplicit false

namespace Gridwalk

namespace Actor

/-- The actor with its flags cleared. -/
def atRest (actor : Actor) : Actor :=
  { actor with isMoving := false, isHittingBounds := false }

/-- Actors at rest differ only in their poses and their foreign values. -/
theorem atRest_congr {a b : Actor} (hpose : a.pose = b.pose) (hforeign : a.foreign = b.foreign) :
    a.atRest = b.atRest := by
  simp only [pose, Pose.mk.injEq] at hpose
  simp [atRest, hpose, hforeign]

/-- Without foreign values an actor at rest is known from its pose. -/
theorem atRest_eq {actor : Actor} {x y angle : Int} (hpose : actor.pose = ⟨x, y, angle⟩)
    (hforeign : actor.foreign = []) : actor.atRest = { x, y, angle } :=
  atRest_congr (b := { x, y, angle }) hpose hforeign

/-- A run of some deeds: the actor is set moving, makes its walk, and has its flags cleared. -/
def journey (grid : Grid) (actor : Actor) (deeds : List Deed) : Stride :=
  actor.departure grid deeds ++
    { shown := [((actor.departure grid deeds).final actor).atRest] }

section Journey

variable (grid : Grid) (actor : Actor) (deeds : List Deed)

/-- The poses of a journey: the first one, those of the walk, and the last one again. -/
theorem poses_journey :
    (actor.journey grid deeds).poses =
      (actor.pose :: (actor.underway.walk grid deeds).poses) ++
        [((actor.underway.walk grid deeds).final actor.underway).pose] := by
  rw [journey, departure, Stride.poses_append, Stride.poses_append, Stride.final_append]
  rfl

/-- The pauses of a journey are those of its walk. -/
@[simp] theorem holds_journey :
    (actor.journey grid deeds).holds = (actor.underway.walk grid deeds).holds :=
  List.append_nil _

/-- The blocked moves of a journey are those of its walk. -/
@[simp] theorem hits_journey :
    (actor.journey grid deeds).hits = (actor.underway.walk grid deeds).hits :=
  List.append_nil _

/-- Every deed of a journey is counted. -/
@[simp] theorem actions_journey : (actor.journey grid deeds).actions = deeds.length :=
  actions_departure grid actor deeds

/-- A journey ends where its walk ends, with all flags cleared. -/
theorem final_journey :
    (actor.journey grid deeds).final actor =
      ((actor.underway.walk grid deeds).final actor.underway).atRest := by
  rw [journey, Stride.final_append, departure, Stride.final_append]
  rfl

end Journey

end Actor

namespace Fleet

/-- The sight of a context at the start of a run on it. -/
def Sight.opened (sight : Sight) : Sight :=
  { sight with isRecording := true, hits := [], actionsCompleted := 0 }

/-- A run on a context was a stride up to a cut: its result and the fleet that it leaves are those
of the stride, and the context is idle again. -/
structure Journeys (name : String) (f : Fleet) (cut : Option String) (stride : Stride)
    (result : RunResult) (g : Fleet) : Prop where
  outcome : result.outcome = Outcome.cutShort cut .completed
  steps : result.stepsExecuted = stride.actions
  actor : result.actor = stride.final (f.contexts name).actor.value
  hits : hitsOf result.events = stride.hits.map Hit.payload
  sight : g.sight name =
    { (f.sight name).opened.after name stride with isRecording := false }
  idle : (g.contexts name).phase = .idle

variable (crowd : Crowd) {name : String} {answers : List Pause → Pause → Answer} {f : Fleet}

/-- A program that is refused at a cut, or not at all, concludes its run. -/
theorem finished_cutShort (run : RunId) (cut : Option String) :
    f.finished name run (Mark.cutShort cut (.ok ())) =
      (.ok ((f.cleared name).resultOf name run (Outcome.cutShort cut .completed)),
        (f.cleared name).concluded name (Outcome.cutShort cut .completed)) := by
  cases cut <;> rfl

/-- The actor is shown once more when its flags are cleared. -/
theorem sight_cleared_after (hforeign : (f.contexts name).actor.value.foreign = []) :
    (f.cleared name).sight name = (f.sight name).after name
      { shown := [(f.sight name).actor.value.atRest] } := by
  let still : Actor.Change := { isMoving := some false, isHittingBounds := some false }
  have hactor : (f.sight name).actor.value.foreign = [] := hforeign
  have hstill : (f.sight name).actor.value.apply still = (f.sight name).actor.value.atRest := by
    simp [Actor.apply, Actor.atRest, still, hactor]
  rw [sight_cleared_eq, sight_change_after, hstill]

/-- A run on an idle context whose pauses, if there are any, are all made is a journey. -/
theorem execute_journeys (hidle : (f.contexts name).phase = .idle)
    (hforeign : (f.contexts name).actor.value.foreign = []) (run : RunId) (ids : List Phrase)
    {marks : List Mark} (hmarks : marks = (f.contexts name).catalog.expansion ids)
    (hmade : Mark.actions marks = [] ∨ ∀ earlier p, answers earlier p = .ok ()) :
    ∃ result g, ((stage crowd name).execute run ids).play (pace answers) f = (.ok result, g) ∧
      Journeys name f (Mark.cut? marks) ((f.contexts name).actor.value.journey
        (f.contexts name).settings.grid ((Mark.actions marks).map Basic.deed)) result g := by
  let opened := f.begun name run ids
  let grid := (f.contexts name).settings.grid
  let deeds := (Mark.actions marks).map Basic.deed
  have hopened : opened.sight name = (f.sight name).opened := sight_begun name f run ids
  have hcatalog : (opened.contexts name).catalog = (f.contexts name).catalog :=
    congrArg Sight.catalog hopened
  have hactor : (opened.contexts name).actor.value = (f.contexts name).actor.value :=
    congrArg (fun sight => sight.actor.value) hopened
  rw [← hcatalog] at hmarks
  obtain ⟨g, hplay, hg⟩ := runProgram_leads crowd name (by rw [hactor, hforeign]) hmarks
    hmade
  rw [hopened] at hg
  have hstands : (g.contexts name).actor.value =
      ((f.contexts name).actor.value.departure grid deeds).final (f.contexts name).actor.value :=
    congrArg (fun sight => sight.actor.value) hg
  have hseen : (g.cleared name).sight name = (f.sight name).opened.after name
      ((f.contexts name).actor.value.journey grid deeds) := by
    rw [sight_cleared_after, hg, Actor.journey, Sight.after_append]
    · rfl
    · rw [hstands, Actor.departure, Stride.final_append]
      exact (Actor.foreign_walk _ _ _).trans hforeign
  have hexecute := execute_play_of_idle crowd name f (pace answers) run ids hidle
  rw [hplay, finished_cutShort] at hexecute
  refine ⟨_, _, hexecute, ?_⟩
  constructor
  case outcome => rfl
  case steps => exact (congrArg Sight.actionsCompleted hseen).trans (Nat.zero_add _)
  case actor => exact congrArg (fun sight => sight.actor.value) hseen
  case hits =>
    rw [hitsOf_resultOf, hseen]
    show ((List.map Hit.payload _).reverse ++ []).reverse = _
    rw [List.append_nil, List.reverse_reverse]
  case sight => rw [sight_concluded, hseen]
  case idle =>
    rw [phase_concluded, cleared, contexts_alter_self]

/-- A program that comes to actions only makes the journey of their deeds to its end. -/
theorem execute_journeys_of_actions (hidle : (f.contexts name).phase = .idle)
    (hforeign : (f.contexts name).actor.value.foreign = [])
    (hanswers : ∀ earlier p, answers earlier p = .ok ()) (run : RunId) {ids : List Phrase}
    {bs : List Basic} (hactions : (f.contexts name).catalog.expansion ids = bs.map .action) :
    ∃ result g, ((stage crowd name).execute run ids).play (pace answers) f = (.ok result, g) ∧
      Journeys name f none ((f.contexts name).actor.value.journey
        (f.contexts name).settings.grid (bs.map Basic.deed)) result g := by
  have h := execute_journeys crowd hidle hforeign run ids hactions.symm (.inr hanswers)
  rw [Mark.cut?_map_action, Mark.actions_map_action] at h
  exact h

namespace Journeys

variable {cut : Option String} {stride : Stride} {result : RunResult} {g : Fleet}
  (h : Journeys name f cut stride result g)

include h

/-- The actor is left where the result says. -/
theorem current : (g.contexts name).actor.value = result.actor :=
  (congrArg (fun sight => sight.actor.value) h.sight).trans h.actor.symm

/-- The catalog is left as it was. -/
theorem catalog : (g.contexts name).catalog = (f.contexts name).catalog :=
  congrArg Sight.catalog h.sight

/-- The settings are left as they were. -/
theorem settings : (g.contexts name).settings = (f.contexts name).settings :=
  congrArg Sight.settings h.sight

/-- The pauses that were made are those of the stride. -/
theorem pauses : g.pauses = (stride.holds.map (f.pauseOf name)).reverse ++ f.pauses :=
  congrArg Sight.pauses h.sight

end Journeys

end Fleet

end Gridwalk
