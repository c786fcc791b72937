import Gridwalk.Proofs.UnbrokenRuns
import Gridwalk.Proofs.Lattice

/-!
# Repeated moves stop at the edge

From a cell of a proper grid there is some room in every direction: a number of cells that an actor
can go on before a move is blocked (`Grid.IsCell.exists_room`).  A move that is repeated goes one
cell on until the room is used up, and is blocked from then on.  So the actor stops on the last
cell of its row or column, or earlier if there are fewer moves (`Actor.journey_saturates`), and
runs that repeat a move are told from this (`Fleet.execute_saturates`).
-/

set_option autoImplicit false

namespace Gridwalk

/-! ## Room to move -/

/-- The direction that leads back. -/
def Heading.opposite : Heading → Heading
  | .right => .left
  | .down => .up
  | .left => .right
  | .up => .down

/-- The way back is as long as the way ahead. -/
theorem Heading.delta_opposite (heading : Heading) (size : Int) :
    heading.opposite.delta size = (-(heading.delta size).1, -(heading.delta size).2) := by
  cases heading <;> simp [opposite, delta]

/-- The direction in which a deed moves an actor at an angle, if it moves it. -/
def Deed.heading? (angle : Int) : Deed → Option Heading
  | .moveForward => some (Heading.ofAngle angle)
  | .moveBack => some (Heading.ofAngle angle).opposite
  | _ => none

namespace Grid

/-- Where a number of moves from a position lead that stop at the edge. -/
def saturated (g : Grid) (x y : Int) (n : Nat) : Heading → Int × Int
  | .right => (min g.maxX (x + n * g.cellSize), y)
  | .down => (x, min g.maxY (y + n * g.cellSize))
  | .left => (max 0 (x - n * g.cellSize), y)
  | .up => (x, max 0 (y - n * g.cellSize))

/-- How far away the edge is in a direction. -/
def clearance (g : Grid) (x y : Int) : Heading → Int
  | .right => g.maxX - x
  | .down => g.maxY - y
  | .left => x
  | .up => y

/-- The last column and the last row are cells away from the first ones. -/
theorem dvd_max (g : Grid) : g.cellSize ∣ g.maxX ∧ g.cellSize ∣ g.maxY := by
  have hsize : g.cellSize ∣ g.cellSize := Int.dvd_refl _
  exact ⟨Int.dvd_sub (Int.dvd_mul_left _ _) hsize, Int.dvd_sub (Int.dvd_mul_left _ _) hsize⟩

/-- A distance that is a multiple of the size leaves room for a number of sizes, and so many are
gone at most. -/
theorem exists_room {size distance : Int} (hsize : 0 < size) (hdistance : 0 ≤ distance)
    (hdvd : size ∣ distance) : ∃ room : Nat, ∀ n : Nat, 0 ≤ (n : Int) * size ∧
      ((n : Int) * size ≤ distance ↔ n ≤ room) ∧
      min distance (n * size) = (min n room : Nat) * size := by
  obtain ⟨k, rfl⟩ := hdvd
  obtain ⟨room, rfl⟩ : ∃ room : Nat, k = room :=
    Int.eq_ofNat_of_zero_le (Int.nonneg_of_mul_nonneg_right hdistance hsize)
  refine ⟨room, fun n => ?_⟩
  have hle (m n : Nat) : (m : Int) * size ≤ n * size ↔ m ≤ n := by
    rw [Int.mul_le_mul_right hsize, Int.ofNat_le]
  rw [Int.mul_comm size]
  refine ⟨Int.mul_nonneg (Int.natCast_nonneg n) (Int.le_of_lt hsize), hle n room, ?_⟩
  rcases Nat.le_total n room with h | h
  · rw [Nat.min_eq_left h, Int.min_eq_right ((hle n room).mpr h)]
  · rw [Nat.min_eq_right h, Int.min_eq_left ((hle room n).mpr h)]

/-- One cell and some more are one cell more. -/
theorem add_cells (start d : Int) (i : Nat) : start + d + i * d = start + (i + 1 : Nat) * d := by
  rw [Int.natCast_add, Int.add_mul, Int.natCast_one, Int.one_mul]
  omega

/-- From a cell the edge is a number of cells away in every direction. -/
theorem IsCell.clearance {g : Grid} {x y : Int} (hcell : g.IsCell x y) (heading : Heading) :
    0 ≤ g.clearance x y heading ∧ g.cellSize ∣ g.clearance x y heading := by
  obtain ⟨hmaxX, hmaxY⟩ := g.dvd_max
  cases heading with
  | right => exact ⟨Int.sub_nonneg.mpr hcell.right, Int.dvd_sub hmaxX hcell.column⟩
  | down => exact ⟨Int.sub_nonneg.mpr hcell.bottom, Int.dvd_sub hmaxY hcell.row⟩
  | left => exact ⟨hcell.left, hcell.column⟩
  | up => exact ⟨hcell.top, hcell.row⟩

/-- From a cell there is room for a number of moves in every direction, and moves that stop at the
edge go so far at most. -/
theorem IsCell.exists_room {g : Grid} {x y : Int} (hcell : g.IsCell x y) (hg : g.Proper)
    (heading : Heading) :
    let delta := heading.delta g.cellSize
    ∃ room : Nat, ∀ n : Nat,
      (g.isOutside (x + n * delta.1) (y + n * delta.2) = false ↔ n ≤ room) ∧
      g.saturated x y n heading =
        (x + (min n room : Nat) * delta.1, y + (min n room : Nat) * delta.2) := by
  have hinX : 0 ≤ x ∧ x ≤ g.maxX := ⟨hcell.left, hcell.right⟩
  have hinY : 0 ≤ y ∧ y ≤ g.maxY := ⟨hcell.top, hcell.bottom⟩
  obtain ⟨hclearance, hdvd⟩ := hcell.clearance heading
  obtain ⟨room, hroom⟩ := Grid.exists_room hg.cellSize hclearance hdvd
  refine ⟨room, fun n => ?_⟩
  obtain ⟨hpos, hle, hmin⟩ := hroom n
  rw [isOutside_eq_false_iff]
  cases heading <;>
    simp only [Grid.clearance, Heading.delta, saturated, Int.mul_neg, Int.mul_zero, Int.add_zero,
      Prod.mk.injEq, and_true, true_and] at hle hmin ⊢ <;>
    omega

end Grid

/-! ## Repeated moves -/

namespace Actor

variable {grid : Grid} {actor : Actor} {deed : Deed} {heading : Heading}

variable (grid) in
/-- A deed that leads in a direction is a move of one cell in it. -/
theorem stride_of_heading (h : deed.heading? actor.angle = some heading) :
    ∃ sign : Int, actor.stride grid deed = actor.move grid sign ∧
      sign * (grid.delta actor.angle).1 = (heading.delta grid.cellSize).1 ∧
      sign * (grid.delta actor.angle).2 = (heading.delta grid.cellSize).2 := by
  cases deed with
  | moveForward =>
      obtain rfl := Option.some.inj h
      exact ⟨1, rfl, Int.one_mul _, Int.one_mul _⟩
  | moveBack =>
      obtain rfl := Option.some.inj h
      rw [Heading.delta_opposite]
      refine ⟨-1, rfl, ?_, ?_⟩ <;> rw [Int.neg_mul, Int.one_mul] <;> rfl
  | turnRight => cases h
  | turnLeft => cases h
  | custom id => cases h

variable (hheading : deed.heading? actor.angle = some heading)

include hheading

/-- Where there is room the actor goes one cell on. -/
theorem stride_clear {x y : Int} (hx : actor.x + (heading.delta grid.cellSize).1 = x)
    (hy : actor.y + (heading.delta grid.cellSize).2 = y) (hin : grid.isOutside x y = false) :
    actor.stride grid deed = { shown := [{ actor with x, y }], holds := [.step] } := by
  obtain ⟨sign, hstride, hdx, hdy⟩ := stride_of_heading grid hheading
  rw [hstride, move_of_inside (hdx ▸ hx) (hdy ▸ hy) hin]

/-- Where there is no room the actor is held and stays. -/
theorem stride_blocked {x y : Int} (hx : actor.x + (heading.delta grid.cellSize).1 = x)
    (hy : actor.y + (heading.delta grid.cellSize).2 = y) (hout : grid.isOutside x y = true) :
    actor.stride grid deed =
      { shown := [actor.flagged true, actor.flagged false]
        holds := [.bounds, .step]
        hits := [⟨actor.x, actor.y, x, y⟩] } := by
  obtain ⟨sign, hstride, hdx, hdy⟩ := stride_of_heading grid hheading
  rw [hstride, move_of_outside (hdx ▸ hx) (hdy ▸ hy) hout]

/-- A repeated move goes one cell on as long as there is room. -/
theorem walk_clear (m : Nat)
    (hroom : ∀ i : Nat, i ≤ m → grid.isOutside (actor.x + i * (heading.delta grid.cellSize).1)
      (actor.y + i * (heading.delta grid.cellSize).2) = false) :
    let walk := actor.walk grid (List.replicate m deed)
    walk.holds = List.replicate m .step ∧ walk.hits = [] ∧
      (walk.final actor).pose = ⟨actor.x + m * (heading.delta grid.cellSize).1,
        actor.y + m * (heading.delta grid.cellSize).2, actor.angle⟩ := by
  induction m generalizing actor with
  | zero =>
      refine ⟨rfl, rfl, ?_⟩
      show (⟨actor.x, actor.y, actor.angle⟩ : Pose) = _
      simp
  | succ m ih =>
      let dx := (heading.delta grid.cellSize).1
      let dy := (heading.delta grid.cellSize).2
      let next : Actor := { actor with x := actor.x + dx, y := actor.y + dy }
      have hstride : actor.stride grid deed = { shown := [next], holds := [.step] } := by
        refine stride_clear hheading rfl rfl ?_
        simpa using hroom 1 (by omega)
      have hnext : deed.heading? next.angle = some heading := hheading
      obtain ⟨hholds, hhits, hpose⟩ := ih hnext fun i hi => by
        show grid.isOutside (actor.x + dx + i * dx) (actor.y + dy + i * dy) = false
        rw [Grid.add_cells, Grid.add_cells]
        exact hroom (i + 1) (by omega)
      intro walk
      have hwalk : walk = actor.stride grid deed ++ { actions := 1 } ++
          next.walk grid (List.replicate m deed) := by
        show actor.walk grid (List.replicate (m + 1) deed) = _
        rw [List.replicate_succ, Actor.walk, hstride]
        rfl
      rw [hwalk, hstride]
      refine ⟨?_, hhits, ?_⟩
      · rw [Stride.holds_append, hholds, List.replicate_succ]
        rfl
      · rw [Stride.final_append, Stride.final_append]
        refine hpose.trans ?_
        show (⟨actor.x + dx + m * dx, actor.y + dy + m * dy, actor.angle⟩ : Pose) = _
        rw [Grid.add_cells, Grid.add_cells]

/-- A repeated move is blocked again and again where there is no room. -/
theorem walk_blocked (k : Nat)
    (hout : grid.isOutside (actor.x + (heading.delta grid.cellSize).1)
      (actor.y + (heading.delta grid.cellSize).2) = true) :
    let walk := actor.walk grid (List.replicate k deed)
    walk.holds = (List.replicate k [.bounds, .step]).flatten ∧
      walk.hits = List.replicate k ⟨actor.x, actor.y,
        actor.x + (heading.delta grid.cellSize).1, actor.y + (heading.delta grid.cellSize).2⟩ ∧
      (walk.final actor).pose = actor.pose := by
  induction k generalizing actor with
  | zero => exact ⟨rfl, rfl, rfl⟩
  | succ k ih =>
      let held := actor.flagged false
      have hstride := stride_blocked hheading rfl rfl hout
      have hheld : deed.heading? held.angle = some heading := hheading
      obtain ⟨hholds, hhits, hpose⟩ := ih hheld hout
      intro walk
      have hwalk : walk = actor.stride grid deed ++ { actions := 1 } ++
          held.walk grid (List.replicate k deed) := by
        show actor.walk grid (List.replicate (k + 1) deed) = _
        rw [List.replicate_succ, Actor.walk, hstride]
        rfl
      rw [hwalk, hstride]
      refine ⟨?_, ?_, ?_⟩
      · rw [Stride.holds_append, hholds, List.replicate_succ]
        rfl
      · rw [Stride.hits_append, hhits, List.replicate_succ]
        rfl
      · rw [Stride.final_append, Stride.final_append]
        exact hpose

/-- A journey of repeated moves from a cell goes on to the edge and is blocked from then on. -/
theorem journey_saturates (hg : grid.Proper) (hcell : grid.IsCell actor.x actor.y) (n : Nat) :
    let delta := heading.delta grid.cellSize
    let journey := actor.journey grid (List.replicate n deed)
    let edge := grid.saturated actor.x actor.y n heading
    (journey.final actor).pose = ⟨edge.1, edge.2, actor.angle⟩ ∧
      ∃ m ≤ n, edge = (actor.x + m * delta.1, actor.y + m * delta.2) ∧
        journey.holds = List.replicate m .step ++
          (List.replicate (n - m) [.bounds, .step]).flatten ∧
        journey.hits = List.replicate (n - m)
          ⟨edge.1, edge.2, edge.1 + delta.1, edge.2 + delta.2⟩ := by
  intro delta journey edge
  obtain ⟨room, hroom⟩ := hcell.exists_room hg heading
  let m := min n room
  have hm : m ≤ n := Nat.min_le_left n room
  have hedge : edge = (actor.x + m * delta.1, actor.y + m * delta.2) := (hroom n).2
  have hstart : deed.heading? actor.underway.angle = some heading := hheading
  obtain ⟨hholds, hhits, hpose⟩ := walk_clear hstart m fun i hi =>
    (hroom i).1.mpr (Nat.le_trans hi (Nat.min_le_right n room))
  let there := (actor.underway.walk grid (List.replicate m deed)).final actor.underway
  have hthere : there.pose = ⟨edge.1, edge.2, actor.angle⟩ := by
    rw [hedge]
    exact hpose
  obtain ⟨hx, hy, hangle⟩ := Pose.mk.inj hthere
  have hrest : let rest := there.walk grid (List.replicate (n - m) deed)
      rest.holds = (List.replicate (n - m) [.bounds, .step]).flatten ∧
        rest.hits = List.replicate (n - m)
          ⟨edge.1, edge.2, edge.1 + delta.1, edge.2 + delta.2⟩ ∧
        (rest.final there).pose = there.pose := by
    rcases Nat.le_total n room with hn | hn
    · have hnone : n - m = 0 := by omega
      rw [hnone]
      exact ⟨rfl, rfl, rfl⟩
    · -- All the room is used up, so that the next cell is outside.
      have hout : grid.isOutside (there.x + delta.1) (there.y + delta.2) = true := by
        have hall : m = room := Nat.min_eq_right hn
        have hnext : ¬grid.isOutside (actor.x + (room + 1 : Nat) * delta.1)
            (actor.y + (room + 1 : Nat) * delta.2) = false := by
          rw [(hroom (room + 1)).1]
          omega
        rw [Bool.not_eq_false, ← Grid.add_cells, ← Grid.add_cells] at hnext
        rw [hx, hy, hedge, hall]
        simp only [Int.add_right_comm _ (_ * _)]
        exact hnext
      have hleads : deed.heading? there.angle = some heading := by
        rw [hangle]
        exact hheading
      rw [← hx, ← hy]
      exact walk_blocked hleads (n - m) hout
  have hwalk : actor.underway.walk grid (List.replicate n deed) =
      actor.underway.walk grid (List.replicate m deed) ++
        there.walk grid (List.replicate (n - m) deed) := by
    rw [← walk_append, List.replicate_append_replicate, Nat.add_sub_cancel' hm]
  obtain ⟨hholds', hhits', hpose'⟩ := hrest
  refine ⟨?_, m, hm, hedge, ?_, ?_⟩
  · rw [final_journey, hwalk, Stride.final_append]
    exact hpose'.trans hthere
  · rw [holds_journey, hwalk, Stride.holds_append, hholds, hholds']
  · rw [hits_journey, hwalk, Stride.hits_append, hhits, hhits']
    rfl

end Actor

/-! ## Runs that repeat a move -/

/-- A program does a basic command a number of times: it names the command so often, or it names a
loop with that command as its only child, which is repeated so often. -/
inductive Catalog.Repeats (catalog : Catalog) (b : Basic) (n : Nat) : List Phrase → Prop
  | listed {id : Phrase} (h : catalog.named id = some (.basic b)) :
      Repeats catalog b n (List.replicate n id)
  | looped {id child : Phrase} {l : Loop} (h : catalog.named id = some (.loop l))
      (hrepeats : l.repeats = n) (hchildren : l.children = [child])
      (hchild : catalog.named child = some (.basic b)) : Repeats catalog b n [id]

/-- Both programs come to the same actions. -/
theorem Catalog.Repeats.expansion {catalog : Catalog} {b : Basic} {n : Nat} {ids : List Phrase}
    (h : catalog.Repeats b n ids) :
    catalog.expansion ids = (List.replicate n b).map .action := by
  have hone {id : Phrase} (depth : Nat) (hid : catalog.named id = some (.basic b)) :
      catalog.expand id depth = [.action b] := by
    rw [expand_eq, hid]
  have hall : (List.replicate n b).map Mark.action =
      (List.replicate n [Mark.action b]).flatten := by
    rw [List.map_replicate, List.flatten_replicate_singleton]
  rw [hall]
  cases h with
  | listed hid =>
      rw [Catalog.expansion, List.flatMap_replicate, hone 0 hid]
  | looped hid hrepeats hchildren hchild =>
      rw [Catalog.expansion, List.flatMap_singleton, expand_eq, hid]
      simp only [hrepeats, hchildren, List.flatMap_singleton, Int.toNat_natCast]
      rw [if_neg (by decide), hone _ hchild]

namespace Fleet

/-- A run that repeats a move, on an idle context with the actor on a cell of a proper grid and
with all pauses made, does all its actions and stops the actor at the edge, or before it if there
are too few moves.  The actor goes a number of cells with a step pause for each; each of the moves
that are left is blocked at the edge, with a hit recorded there, a bounds pause and a step pause. -/
theorem execute_saturates (crowd : Crowd) (name : String)
    (answers : List Pause → Pause → Answer) (f : Fleet) (run : RunId) {ids : List Phrase}
    {b : Basic} {n : Nat} {heading : Heading}
    (hids : (f.contexts name).catalog.Repeats b n ids)
    (hheading : b.deed.heading? (f.contexts name).actor.value.angle = some heading)
    (hg : (f.contexts name).settings.grid.Proper)
    (hcell : (f.contexts name).settings.grid.IsCell (f.contexts name).actor.value.x
      (f.contexts name).actor.value.y)
    (hidle : (f.contexts name).phase = .idle)
    (hforeign : (f.contexts name).actor.value.foreign = [])
    (hanswers : ∀ earlier p, answers earlier p = .ok ()) :
    let start := (f.contexts name).actor.value
    let grid := (f.contexts name).settings.grid
    let delta := heading.delta grid.cellSize
    let edge := grid.saturated start.x start.y n heading
    ∃ result g,
      ((stage crowd name).execute run ids).play (pace answers) f = (.ok result, g) ∧
      result.outcome = .completed ∧ result.stepsExecuted = n ∧
      result.actor = { x := edge.1, y := edge.2, angle := start.angle } ∧
      (g.contexts name).actor.value = result.actor ∧
      ∃ m ≤ n, edge = (start.x + m * delta.1, start.y + m * delta.2) ∧
        (let holds : List Hold :=
          List.replicate m .step ++ (List.replicate (n - m) [.bounds, .step]).flatten
        g.pauses = (holds.map (f.pauseOf name)).reverse ++ f.pauses) ∧
        hitsOf result.events = List.replicate (n - m)
          (Hit.payload ⟨edge.1, edge.2, edge.1 + delta.1, edge.2 + delta.2⟩) := by
  intro start grid delta edge
  obtain ⟨result, g, hplay, htrip⟩ := execute_journeys_of_actions crowd hidle hforeign hanswers
    run hids.expansion
  rw [List.map_replicate] at htrip
  obtain ⟨hpose, m, hm, hedge, hholds, hhits⟩ := Actor.journey_saturates hheading hg hcell n
  have hactor : result.actor = { x := edge.1, y := edge.2, angle := start.angle } := by
    rw [htrip.actor, Actor.final_journey]
    rw [Actor.final_journey] at hpose
    exact Actor.atRest_eq hpose ((Actor.foreign_walk _ _ _).trans hforeign)
  refine ⟨result, g, hplay, htrip.outcome, ?_, hactor, htrip.current, m, hm, hedge, ?_, ?_⟩
  · rw [htrip.steps, Actor.actions_journey, List.length_replicate]
  · rw [htrip.pauses, hholds]
  · rw [htrip.hits, hhits, List.map_replicate]

/-- A fleet whose contexts have a loop of twenty moves ahead. -/
def headlong : Fleet where
  contexts _ :=
    { catalog := {
        commands := [
          .basic { id := "ahead", deed := .moveForward },
          .loop { id := "rush", repeats := 20, children := ["ahead"] }]
        distinct := by decide } }

/-- From the first column the edge is reached after fifteen cells, and five moves are blocked. -/
theorem execute_saturates_headlong :
    ∃ result g,
      ((stage .quiet "a").execute (.ofNat 0) ["rush"]).play (pace fun _ _ => .ok ()) headlong =
        (.ok result, g) ∧
      result.stepsExecuted = 20 ∧ result.actor = { x := 750, y := 0, angle := 0 } ∧
      hitsOf result.events = List.replicate 5 (Hit.payload ⟨750, 0, 800, 0⟩) := by
  have hids : (headlong.contexts "a").catalog.Repeats { id := "ahead", deed := .moveForward } 20
      ["rush"] :=
    .looped rfl rfl rfl rfl
  have hheading : Deed.moveForward.heading? 0 = some .right := rfl
  have hproper : (headlong.contexts "a").settings.grid.Proper := Grid.proper_default
  obtain ⟨result, g, hplay, -, hsteps, hactor, -, m, hm, hedge, -, hhits⟩ :=
    execute_saturates .quiet "a" (fun _ _ => .ok ()) headlong (.ofNat 0) hids hheading hproper
      hproper.isCell_zero rfl rfl fun _ _ => rfl
  have hcells : m = 15 := by
    have hx : (750 : Int) = 0 + m * 50 := congrArg Prod.fst hedge
    omega
  rw [hcells] at hhits
  exact ⟨result, g, hplay, hsteps, hactor, hhits⟩

end Fleet

end Gridwalk
