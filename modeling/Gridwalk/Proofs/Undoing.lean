import Gridwalk.Proofs.UnbrokenRuns

/-!
# Programs can be undone

Every command that moves the actor has one that takes it back: ahead and back undo each other, and
so do the turns.  If a command of them meets no edge from a point of the grid, then its inverse,
done from where it leads, meets none either and leads back (`Actor.stride_undone`).  So a walk that
meets no edge is walked back by the inverse walk, through the same poses in reverse order
(`Actor.walk_undone`), and so is a run (`Fleet.execute_undone`).
-/

set_option autoImplicit false

namespace Gridwalk

/-! ## Commands and their inverses -/

/-- The commands of every session that move the actor. -/
inductive Maneuver where
  | ahead
  | back
  | right
  | left
  deriving DecidableEq, Repr

namespace Maneuver

/-- The id of the command. -/
def id : Maneuver → String
  | .ahead => "moveForward"
  | .back => "moveBack"
  | .right => "turnRight"
  | .left => "turnLeft"

/-- What the command does. -/
def deed : Maneuver → Deed
  | .ahead => .moveForward
  | .back => .moveBack
  | .right => .turnRight
  | .left => .turnLeft

/-- The command that undoes it. -/
def inverse : Maneuver → Maneuver
  | .ahead => .back
  | .back => .ahead
  | .right => .left
  | .left => .right

/-- The program of some commands. -/
def program (maneuvers : List Maneuver) : List Phrase :=
  maneuvers.map fun maneuver => .whole maneuver.id

/-- The commands that undo others: their inverses, the last one first. -/
def undoing (maneuvers : List Maneuver) : List Maneuver :=
  maneuvers.reverse.map inverse

end Maneuver

/-- A catalog has the commands that move the actor, under their ids. -/
def Catalog.Maneuvers (catalog : Catalog) : Prop :=
  ∀ maneuver : Maneuver, ∃ b : Basic, catalog.named (.whole maneuver.id) = some (.basic b) ∧
    b.deed = maneuver.deed

/-- The catalog of every session has these commands from its start. -/
theorem Catalog.maneuvers_default : Catalog.default.Maneuvers := by
  intro maneuver
  cases maneuver <;> exact ⟨_, rfl, rfl⟩

/-- A program of such commands comes to their deeds. -/
theorem Catalog.Maneuvers.expansion {catalog : Catalog} (h : catalog.Maneuvers)
    (maneuvers : List Maneuver) :
    ∃ bs : List Basic, catalog.expansion (Maneuver.program maneuvers) = bs.map .action ∧
      bs.map Basic.deed = maneuvers.map Maneuver.deed := by
  induction maneuvers with
  | nil => exact ⟨[], rfl, rfl⟩
  | cons maneuver rest ih =>
      obtain ⟨b, hnamed, hdeed⟩ := h maneuver
      obtain ⟨bs, hbs, hdeeds⟩ := ih
      have hexpand : catalog.expand (.whole maneuver.id) 0 = [.action b] := by
        rw [expand_eq, hnamed]
      refine ⟨b :: bs, ?_, by rw [List.map_cons, List.map_cons, hdeed, hdeeds]⟩
      show catalog.expand (.whole maneuver.id) 0 ++ catalog.expansion (Maneuver.program rest) = _
      rw [hexpand, hbs]
      rfl

/-! ## Walks and their reversals -/

namespace Actor

variable (grid : Grid) {actor : Actor}

/-- Whether a pose lies on a grid. -/
def Pose.IsInside (pose : Pose) : Prop := grid.isOutside pose.x pose.y = false

/-- A command that meets no edge makes one step to a pose inside the grid; from every actor in that
pose its inverse meets no edge and makes one step back. -/
theorem stride_undone {maneuver : Maneuver} (hinside : actor.pose.IsInside grid)
    (hhits : (actor.stride grid maneuver.deed).hits = []) :
    ∃ pose : Pose, pose.IsInside grid ∧
      (actor.stride grid maneuver.deed).poses = [pose] ∧
      ∀ other : Actor, other.pose = pose →
        (other.stride grid maneuver.inverse.deed).poses = [actor.pose] ∧
          (other.stride grid maneuver.inverse.deed).hits = [] := by
  have hmove (sign : Int) (hhits : (actor.move grid sign).hits = []) :
      ∃ pose : Pose, pose.IsInside grid ∧ (actor.move grid sign).poses = [pose] ∧
        ∀ other : Actor, other.pose = pose →
          (other.move grid (-sign)).poses = [actor.pose] ∧ (other.move grid (-sign)).hits = [] := by
    let x := actor.x + sign * (grid.delta actor.angle).1
    let y := actor.y + sign * (grid.delta actor.angle).2
    cases hout : grid.isOutside x y with
    | true =>
        rw [move_of_outside rfl rfl hout] at hhits
        cases hhits
    | false =>
        refine ⟨⟨x, y, actor.angle⟩, hout, by rw [move_of_inside rfl rfl hout]; rfl, ?_⟩
        intro other hother
        obtain ⟨hx, hy, hangle⟩ := Pose.mk.inj hother
        have hxback : other.x + -sign * (grid.delta other.angle).1 = actor.x := by
          rw [hx, hangle, Int.neg_mul]
          omega
        have hyback : other.y + -sign * (grid.delta other.angle).2 = actor.y := by
          rw [hy, hangle, Int.neg_mul]
          omega
        rw [move_of_inside hxback hyback hinside]
        exact ⟨congrArg (fun angle => [(⟨actor.x, actor.y, angle⟩ : Pose)]) hangle, rfl⟩
  have hturn (degrees : Int) :
      ∃ pose : Pose, pose.IsInside grid ∧ (actor.turn degrees).poses = [pose] ∧
        ∀ other : Actor, other.pose = pose →
          (other.turn (-degrees)).poses = [actor.pose] ∧ (other.turn (-degrees)).hits = [] := by
    refine ⟨⟨actor.x, actor.y, actor.angle + degrees⟩, hinside, rfl, ?_⟩
    intro other hother
    obtain ⟨hx, hy, hangle⟩ := Pose.mk.inj hother
    have hback : other.angle + -degrees = actor.angle := by omega
    refine ⟨?_, rfl⟩
    show [(⟨other.x, other.y, other.angle + -degrees⟩ : Pose)] = _
    rw [hx, hy, hback]
    rfl
  cases maneuver with
  | ahead => exact hmove 1 hhits
  | back => exact hmove (-1) hhits
  | right => exact hturn 90
  | left => exact hturn (-90)

/-- Every command shows one actor, and one more if it meets the edge. -/
theorem length_poses_walk (maneuvers : List Maneuver) :
    (actor.walk grid (maneuvers.map Maneuver.deed)).poses.length =
      maneuvers.length + (actor.walk grid (maneuvers.map Maneuver.deed)).hits.length := by
  have hmove (actor : Actor) (sign : Int) :
      (actor.move grid sign).poses.length = 1 + (actor.move grid sign).hits.length := by
    unfold move
    dsimp only
    split <;> rfl
  have hstride (actor : Actor) (maneuver : Maneuver) :
      (actor.stride grid maneuver.deed).poses.length =
        1 + (actor.stride grid maneuver.deed).hits.length := by
    cases maneuver with
    | ahead => exact hmove actor 1
    | back => exact hmove actor (-1)
    | right => rfl
    | left => rfl
  induction maneuvers generalizing actor with
  | nil => rfl
  | cons maneuver rest ih =>
      rw [List.map_cons, walk, Stride.poses_append, Stride.poses_append, Stride.hits_append,
        Stride.hits_append, List.length_append, List.length_append, List.length_append,
        List.length_append, hstride, ih, List.length_cons]
      simp only [Stride.poses, List.map_nil, List.length_nil]
      omega

/-- A walk that meets no edge is walked back by the inverse walk, through the same poses in reverse
order. -/
theorem walk_undone {maneuvers : List Maneuver} (hinside : actor.pose.IsInside grid)
    (hhits : (actor.walk grid (maneuvers.map Maneuver.deed)).hits = []) {other : Actor}
    (hother : other.pose = ((actor.walk grid (maneuvers.map Maneuver.deed)).final actor).pose) :
    let undoing := other.walk grid ((Maneuver.undoing maneuvers).map Maneuver.deed)
    other.pose :: undoing.poses =
        (actor.pose :: (actor.walk grid (maneuvers.map Maneuver.deed)).poses).reverse ∧
      undoing.hits = [] := by
  induction maneuvers generalizing actor other with
  | nil => exact ⟨congrArg (fun pose => [pose]) hother, rfl⟩
  | cons maneuver rest ih =>
      let stride := actor.stride grid maneuver.deed
      let next := stride.final actor
      let onward := next.walk grid (rest.map Maneuver.deed)
      let undoing := other.walk grid ((Maneuver.undoing rest).map Maneuver.deed)
      have hwalk : actor.walk grid ((maneuver :: rest).map Maneuver.deed) =
          stride ++ { actions := 1 } ++ onward := rfl
      rw [hwalk] at hhits hother ⊢
      have hnone : stride.hits = [] ∧ onward.hits = [] := by
        simpa using hhits
      obtain ⟨pose, hpose, hposes, hback⟩ := stride_undone grid hinside hnone.1
      have hnext : next.pose = pose := by
        rw [Stride.pose_final, hposes]
        rfl
      have hend : other.pose = (onward.final next).pose := by
        rw [hother, Stride.final_append, Stride.final_append]
        rfl
      obtain ⟨hrest, hclear⟩ := ih (by rw [hnext]; exact hpose) hnone.2 hend
      -- After the others are undone, the actor is where the first command led to.
      have hlast : (undoing.final other).pose = pose := by
        have hends := congrArg (fun poses => poses.getLastD other.pose) hrest
        simp only [List.getLastD_cons, List.reverse_cons, List.getLastD_concat] at hends
        rw [Stride.pose_final]
        exact hends.trans hnext
      obtain ⟨hfirst, hfree⟩ := hback _ hlast
      have hundoing : other.walk grid ((Maneuver.undoing (maneuver :: rest)).map Maneuver.deed) =
          undoing ++ (undoing.final other).walk grid [maneuver.inverse.deed] := by
        rw [← walk_append]
        simp [Maneuver.undoing]
      let closing := (undoing.final other).walk grid [maneuver.inverse.deed]
      have hposes' : closing.poses = [actor.pose] := by
        simp only [closing, walk, Stride.poses_append, hfirst]
        rfl
      have hhits' : closing.hits = [] := by
        simp only [closing, walk, Stride.hits_append, hfree]
        rfl
      dsimp only
      rw [hundoing]
      change other.pose :: (undoing ++ closing).poses = _ ∧ (undoing ++ closing).hits = []
      constructor
      · calc other.pose :: (undoing ++ closing).poses
            = (other.pose :: undoing.poses) ++ [actor.pose] := by
              rw [Stride.poses_append, hposes', List.cons_append]
          _ = (next.pose :: onward.poses).reverse ++ [actor.pose] := by rw [hrest]
          _ = (actor.pose :: (stride ++ { actions := 1 } ++ onward).poses).reverse := by
              rw [← List.reverse_cons, Stride.poses_append, Stride.poses_append, hposes, hnext]
              rfl
      · rw [Stride.hits_append, hhits', hclear]
        rfl

/-- A journey that meets no edge is undone by the journey of the inverse program. -/
theorem journey_undone {maneuvers : List Maneuver} (hinside : actor.pose.IsInside grid)
    (hhits : (actor.journey grid (maneuvers.map Maneuver.deed)).hits = []) :
    let there := actor.journey grid (maneuvers.map Maneuver.deed)
    let home := (there.final actor).journey grid ((Maneuver.undoing maneuvers).map Maneuver.deed)
    home.hits = [] ∧ home.poses.dropLast = there.poses.dropLast.reverse ∧
      home.final (there.final actor) = actor.atRest := by
  intro there home
  let onward := actor.underway.walk grid (maneuvers.map Maneuver.deed)
  let turned := there.final actor
  let undoing := turned.underway.walk grid ((Maneuver.undoing maneuvers).map Maneuver.deed)
  have hturned : turned = (onward.final actor.underway).atRest := final_journey grid actor _
  have honward : onward.hits = [] := by rw [← hits_journey, hhits]
  have hpose : turned.underway.pose = (onward.final actor.underway).pose := by
    rw [hturned]
    rfl
  have hstart : actor.underway.pose.IsInside grid := hinside
  obtain ⟨hposes, hfree⟩ := walk_undone grid hstart honward hpose
  refine ⟨by rw [hits_journey, hfree], ?_, ?_⟩
  · rw [poses_journey, poses_journey, List.dropLast_concat, List.dropLast_concat]
    exact hposes
  · have hback : (undoing.final turned.underway).pose = actor.pose := by
      have hends := congrArg (fun poses => poses.getLastD actor.pose) hposes
      simp only [List.getLastD_cons, List.reverse_cons, List.getLastD_concat] at hends
      rw [Stride.pose_final]
      exact hends
    have hkept : (undoing.final turned.underway).foreign = actor.foreign := by
      calc (undoing.final turned.underway).foreign = turned.foreign := foreign_walk grid _ _
        _ = (onward.final actor.underway).atRest.foreign := congrArg Actor.foreign hturned
        _ = actor.foreign := foreign_walk grid _ _
    rw [final_journey]
    exact atRest_congr hback hkept

end Actor

/-! ## Runs and their reversals -/

namespace Fleet

/-- A run of commands that move the actor, on an idle context and with all pauses made, does all of
them.  If it records no hit at the edge, then the run of the inverse program from where it ended
does all of its commands, records no hit either, shows the same poses in reverse order (but for
the last one of each run, shown again when the flags are cleared), and leaves the actor as it was
at first, with its flags cleared. -/
theorem execute_undone (crowd : Crowd) (name : String) (answers : List Pause → Pause → Answer)
    (f : Fleet) (run back : RunId) (maneuvers : List Maneuver)
    (hidle : (f.contexts name).phase = .idle)
    (hforeign : (f.contexts name).actor.value.foreign = [])
    (hcatalog : (f.contexts name).catalog.Maneuvers)
    (hinside : (f.contexts name).actor.value.pose.IsInside (f.contexts name).settings.grid)
    (hanswers : ∀ earlier p, answers earlier p = .ok ()) :
    let start := (f.contexts name).actor.value
    let grid := (f.contexts name).settings.grid
    let there := start.journey grid (maneuvers.map Maneuver.deed)
    ∃ result g,
      ((stage crowd name).execute run (Maneuver.program maneuvers)).play (pace answers) f =
        (.ok result, g) ∧
      Journeys name f none there result g ∧
      result.outcome = .completed ∧ result.stepsExecuted = maneuvers.length ∧
      (hitsOf result.events = [] →
        let home := result.actor.journey grid ((Maneuver.undoing maneuvers).map Maneuver.deed)
        ∃ undone h,
          ((stage crowd name).execute back (Maneuver.program (Maneuver.undoing maneuvers))).play
            (pace answers) g = (.ok undone, h) ∧
          Journeys name g none home undone h ∧
          undone.outcome = .completed ∧ undone.stepsExecuted = maneuvers.length ∧
          hitsOf undone.events = [] ∧
          (there.poses.length = maneuvers.length + 2 ∧
            home.poses.dropLast = there.poses.dropLast.reverse) ∧
          undone.actor = start.atRest ∧ (h.contexts name).actor.value = start.atRest) := by
  intro start grid there
  obtain ⟨bs, hbs, hdeeds⟩ := hcatalog.expansion maneuvers
  obtain ⟨result, g, hplay, hthere⟩ := execute_journeys_of_actions crowd hidle hforeign hanswers
    run hbs
  rw [hdeeds] at hthere
  have hsteps : result.stepsExecuted = maneuvers.length := by
    rw [hthere.steps, Actor.actions_journey, List.length_map]
  refine ⟨result, g, hplay, hthere, hthere.outcome, hsteps, ?_⟩
  intro hhits home
  have hnone : there.hits = [] := by
    have hnoted := hthere.hits
    rw [hhits] at hnoted
    exact List.map_eq_nil_iff.mp hnoted.symm
  obtain ⟨hfree, hposes, hfinal⟩ := Actor.journey_undone grid hinside hnone
  rw [← hthere.actor] at hfree hposes hfinal
  -- The inverse program is run by the same catalog, on the same grid.
  have hsame : (g.contexts name).catalog.Maneuvers := by
    rw [hthere.catalog]
    exact hcatalog
  obtain ⟨cs, hcs, hundoing⟩ := hsame.expansion (Maneuver.undoing maneuvers)
  have hkept : (g.contexts name).actor.value.foreign = [] := by
    rw [hthere.current, hthere.actor, Actor.final_journey]
    exact (Actor.foreign_walk _ _ _).trans hforeign
  obtain ⟨undone, h, hreplay, hhome⟩ := execute_journeys_of_actions crowd hthere.idle hkept hanswers
    back hcs
  rw [hundoing, hthere.current, hthere.settings] at hhome
  have hrested : undone.actor = start.atRest := by
    rw [hhome.actor, hthere.current]
    exact hfinal
  refine ⟨undone, h, hreplay, hhome, hhome.outcome, ?_, ?_, ⟨?_, hposes⟩, hrested, ?_⟩
  · rw [hhome.steps, Actor.actions_journey, List.length_map, Maneuver.undoing, List.length_map,
      List.length_reverse]
  · rw [hhome.hits, hfree]
    rfl
  · rw [Actor.poses_journey, List.length_append, List.length_cons, Actor.length_poses_walk]
    rw [Actor.hits_journey] at hnone
    rw [hnone]
    rfl
  · rw [hhome.current, hrested]

/-- A fleet whose contexts have an actor that does not face straight ahead. -/
def leaning : Fleet where
  contexts _ := { actor := ⟨{ x := 50, y := 50, angle := 37 }, ["watcher"]⟩ }

/-- A way round a corner, and the same way back. -/
theorem execute_undone_corner :
    let maneuvers : List Maneuver := [.ahead, .right, .ahead, .left, .back]
    ∃ result g undone h,
      ((stage .quiet "a").execute (.ofNat 0) (Maneuver.program maneuvers)).play
        (pace fun _ _ => .ok ()) leaning = (.ok result, g) ∧
      ((stage .quiet "a").execute (.ofNat 1) (Maneuver.program (Maneuver.undoing maneuvers))).play
        (pace fun _ _ => .ok ()) g = (.ok undone, h) ∧
      result.actor.pose = ⟨50, 100, 37⟩ ∧ hitsOf result.events = [] ∧
      undone.actor.pose = ⟨50, 50, 37⟩ ∧ hitsOf undone.events = [] := by
  intro maneuvers
  obtain ⟨result, g, hplay, hthere, -, -, hback⟩ := execute_undone .quiet "a" (fun _ _ => .ok ())
    leaning (.ofNat 0) (.ofNat 1) maneuvers rfl rfl Catalog.maneuvers_default rfl fun _ _ => rfl
  have hhits : hitsOf result.events = [] := by
    rw [hthere.hits]
    decide
  obtain ⟨undone, h, hreplay, -, -, -, hfree, -, hrested, -⟩ := hback hhits
  refine ⟨result, g, undone, h, hplay, hreplay, ?_, hhits, by rw [hrested]; rfl, hfree⟩
  rw [hthere.actor]
  decide

end Fleet

end Gridwalk
