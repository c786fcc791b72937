import Gridwalk.Proofs.Placement
import Gridwalk.Proofs.Saturation
import Gridwalk.Proofs.Undoing
import Mathlib.Data.Finset.Prod

/-!
# Every cell can be reached

From a cell there is a way to every other one that meets no edge: the actor turns until it faces to
the right, goes along its row, ahead or back, turns once more, goes along the column, and turns
until it faces where it shall face (`Maneuver.route`).  On the straight parts no position between
two positions of the grid is outside it (`Maneuver.inside_between`), so the way leads where it
should (`Maneuver.leads_route`).  Deeds of any kind lead from cells to cells (`Actor.isCell_walk`).
So the positions that programs lead to are the cells, and there are as many as columns times rows
(`Fleet.execute_arrives`).
-/

set_option autoImplicit false

namespace Gridwalk

namespace Maneuver

/-! ## Ways that meet no edge -/

/-- From every actor in a pose some commands meet no edge and lead to another pose. -/
def Leads (grid : Grid) (maneuvers : List Maneuver) (here there : Actor.Pose) : Prop :=
  ∀ actor : Actor, actor.pose = here →
    (actor.walk grid (maneuvers.map deed)).hits = [] ∧
      ((actor.walk grid (maneuvers.map deed)).final actor).pose = there

variable {grid : Grid} {here there beyond : Actor.Pose} {x y angle : Int}

/-- No command leads nowhere else. -/
theorem leads_nil : Leads grid [] here here :=
  fun _ hactor => ⟨rfl, hactor⟩

/-- Ways may be joined. -/
theorem Leads.append {first second : List Maneuver} (hfirst : Leads grid first here there)
    (hsecond : Leads grid second there beyond) : Leads grid (first ++ second) here beyond := by
  intro actor hactor
  obtain ⟨hhits, hpose⟩ := hfirst actor hactor
  obtain ⟨hhits', hpose'⟩ := hsecond _ hpose
  rw [List.map_append, Actor.walk_append, Stride.hits_append, Stride.final_append, hhits, hhits']
  exact ⟨rfl, hpose'⟩

/-! ### Turns -/

/-- Turns to the right from one quarter turn to another. -/
def turns (here there : Int) : List Maneuver :=
  List.replicate ((there - here) % 360 / 90).toNat .right

/-- A turn to the right adds a quarter turn. -/
theorem leads_right : Leads grid [.right] ⟨x, y, angle⟩ ⟨x, y, angle + 90⟩ := by
  intro actor hactor
  obtain ⟨rfl, rfl, rfl⟩ := Actor.Pose.mk.inj hactor
  exact ⟨rfl, rfl⟩

/-- Some turns to the right add as many quarter turns. -/
theorem leads_rights (n : Nat) :
    Leads grid (List.replicate n .right) ⟨x, y, angle⟩ ⟨x, y, angle + n * 90⟩ := by
  induction n generalizing angle with
  | zero => simpa using leads_nil
  | succ n ih =>
      have hnext : angle + 90 + n * 90 = angle + (n + 1 : Nat) * 90 := by omega
      rw [List.replicate_succ, ← hnext]
      exact leads_right.append ih

/-- Turns lead to the quarter turn that they are meant for, whatever the angle was. -/
theorem leads_turns (grid : Grid) (x y angle : Int) {turn : Int}
    (hturn : turn ∈ [0, 90, 180, 270]) :
    ∃ angle', Leads grid (turns (quarterTurn angle) turn) ⟨x, y, angle⟩ ⟨x, y, angle'⟩ ∧
      quarterTurn angle' = turn := by
  refine ⟨_, leads_rights _, ?_⟩
  have hquarters : turn = 0 ∨ turn = 90 ∨ turn = 180 ∨ turn = 270 := by simpa using hturn
  unfold quarterTurn
  omega

/-! ### Straight ways -/

/-- A number of cells ahead, or back if the number is negative. -/
def straight (cells : Int) : List Maneuver :=
  if 0 ≤ cells then List.replicate cells.toNat .ahead else List.replicate (-cells).toNat .back

/-- What is reached in some equal steps lies between the first and the last of them. -/
theorem between_steps (p d : Int) {i m : Nat} (hi : i ≤ m) :
    (p ≤ p + i * d ∧ p + i * d ≤ p + m * d) ∨ (p + m * d ≤ p + i * d ∧ p + i * d ≤ p) := by
  have hcast : (i : Int) ≤ m := Int.ofNat_le.mpr hi
  rcases Int.le_total 0 d with hd | hd
  · have hfirst : 0 ≤ i * d := Int.mul_nonneg (Int.natCast_nonneg i) hd
    have hlast : i * d ≤ m * d := Int.mul_le_mul_of_nonneg_right hcast hd
    omega
  · have hfirst : i * d ≤ 0 := Int.mul_nonpos_of_nonneg_of_nonpos (Int.natCast_nonneg i) hd
    have hlast : m * d ≤ i * d := Int.mul_le_mul_of_nonpos_right hcast hd
    omega

/-- Between two positions of the grid nothing is outside. -/
theorem inside_between (grid : Grid) {dx dy : Int} {i m : Nat} (hi : i ≤ m)
    (hhere : grid.isOutside x y = false)
    (hthere : grid.isOutside (x + m * dx) (y + m * dy) = false) :
    grid.isOutside (x + i * dx) (y + i * dy) = false := by
  rw [Grid.isOutside_eq_false_iff] at *
  have hx := between_steps x dx hi
  have hy := between_steps y dy hi
  omega

/-- A move that is repeated leads straight on to a position of the grid. -/
theorem leads_moves (grid : Grid) {maneuver : Maneuver} {heading : Heading} {n : Nat}
    (hheading : maneuver.deed.heading? angle = some heading)
    (hhere : grid.isOutside x y = false)
    (hthere : grid.isOutside (x + n * (heading.delta grid.cellSize).1)
      (y + n * (heading.delta grid.cellSize).2) = false) :
    Leads grid (List.replicate n maneuver) ⟨x, y, angle⟩
      ⟨x + n * (heading.delta grid.cellSize).1, y + n * (heading.delta grid.cellSize).2,
        angle⟩ := by
  intro actor hactor
  obtain ⟨rfl, rfl, rfl⟩ := Actor.Pose.mk.inj hactor
  obtain ⟨-, hhits, hpose⟩ := Actor.walk_clear hheading n fun i hi =>
    inside_between grid hi hhere hthere
  rw [List.map_replicate]
  exact ⟨hhits, hpose⟩

/-- A straight way leads a number of cells on, or back, to a position of the grid. -/
theorem leads_straight {cells x' y' : Int} (hx : x + cells * (grid.delta angle).1 = x')
    (hy : y + cells * (grid.delta angle).2 = y') (hhere : grid.isOutside x y = false)
    (hthere : grid.isOutside x' y' = false) :
    Leads grid (straight cells) ⟨x, y, angle⟩ ⟨x', y', angle⟩ := by
  subst hx hy
  unfold straight
  split
  next hcells =>
    have hn : (cells.toNat : Int) = cells := Int.toNat_of_nonneg hcells
    have hheading : Maneuver.ahead.deed.heading? angle = some (Heading.ofAngle angle) := rfl
    rw [← hn] at hthere ⊢
    exact leads_moves grid hheading hhere hthere
  next hcells =>
    have hn : ((-cells).toNat : Int) = -cells := Int.toNat_of_nonneg (by omega)
    have hheading : Maneuver.back.deed.heading? angle = some (Heading.ofAngle angle).opposite := rfl
    have hback (d : Int) : cells * d = (-cells).toNat * -d := by
      rw [hn, Int.neg_mul_neg]
    have h := leads_moves grid (n := (-cells).toNat) hheading hhere
    rw [Heading.delta_opposite] at h
    rw [hback, hback] at hthere ⊢
    exact h hthere

/-- Between cells there is a whole number of cells. -/
theorem add_cells_between {size p q : Int} (hp : size ∣ p) (hq : size ∣ q) :
    p + (q - p) / size * size = q := by
  rw [Int.ediv_mul_cancel (Int.dvd_sub hq hp)]
  omega

/-- Facing to the right, a straight way leads along the row. -/
theorem leads_row {x' : Int} (hangle : quarterTurn angle = 0) (hhere : grid.IsCell x y)
    (hthere : grid.IsCell x' y) :
    Leads grid (straight ((x' - x) / grid.cellSize)) ⟨x, y, angle⟩ ⟨x', y, angle⟩ := by
  have hdelta : grid.delta angle = (grid.cellSize, 0) := by
    rw [Grid.delta, Heading.ofAngle, hangle]
    rfl
  refine leads_straight ?_ ?_ hhere.inside hthere.inside
  · rw [hdelta, add_cells_between hhere.column hthere.column]
  · rw [hdelta, Int.mul_zero, Int.add_zero]

/-- Facing down, a straight way leads along the column. -/
theorem leads_column {y' : Int} (hangle : quarterTurn angle = 90) (hhere : grid.IsCell x y)
    (hthere : grid.IsCell x y') :
    Leads grid (straight ((y' - y) / grid.cellSize)) ⟨x, y, angle⟩ ⟨x, y', angle⟩ := by
  have hdelta : grid.delta angle = (0, grid.cellSize) := by
    rw [Grid.delta, Heading.ofAngle, hangle]
    rfl
  refine leads_straight ?_ ?_ hhere.inside hthere.inside
  · rw [hdelta, Int.mul_zero, Int.add_zero]
  · rw [hdelta, add_cells_between hhere.row hthere.row]

/-! ### From any cell to any other -/

/-- The way from a pose to a position along the row and then along the column, and the turns to a
direction there. -/
def route (grid : Grid) (here : Actor.Pose) (x y turn : Int) : List Maneuver :=
  turns (quarterTurn here.angle) 0 ++ straight ((x - here.x) / grid.cellSize) ++ turns 0 90 ++
    straight ((y - here.y) / grid.cellSize) ++ turns 90 turn

/-- The way from one cell to another meets no edge and leads there. -/
theorem leads_route {turn : Int} (hhere : grid.IsCell here.x here.y) (hthere : grid.IsCell x y)
    (hturn : turn ∈ [0, 90, 180, 270]) :
    ∃ angle', Leads grid (route grid here x y turn) here ⟨x, y, angle'⟩ ∧
      quarterTurn angle' = turn := by
  obtain ⟨x₀, y₀, angle⟩ := here
  obtain ⟨ahead, hfirst, hahead⟩ :=
    leads_turns grid x₀ y₀ angle (show (0 : Int) ∈ [0, 90, 180, 270] by decide)
  obtain ⟨down, hsecond, hdown⟩ :=
    leads_turns grid x y₀ ahead (show (90 : Int) ∈ [0, 90, 180, 270] by decide)
  obtain ⟨last, hthird, hlast⟩ := leads_turns grid x y down hturn
  rw [hahead] at hsecond
  rw [hdown] at hthird
  -- The corner of the way is the cell in the row of the first one and the column of the last one.
  have hcorner : grid.IsCell x y₀ := ⟨hthere.left, hthere.right, hhere.top, hhere.bottom,
    hthere.column, hhere.row⟩
  have hrow := leads_row hahead hhere hcorner
  have hcolumn := leads_column hdown hcorner hthere
  exact ⟨last, (((hfirst.append hrow).append hsecond).append hcolumn).append hthird, hlast⟩

end Maneuver

/-! ## Where deeds lead -/

namespace Actor

variable {grid : Grid} {actor : Actor}

/-- A deed leads from a cell to a cell. -/
theorem isCell_stride (h : grid.IsCell actor.x actor.y) (deed : Deed) :
    let after := (actor.stride grid deed).final actor
    grid.IsCell after.x after.y := by
  have hmove {sign : Int} (hsign : sign = 1 ∨ sign = -1) :
      let after := (actor.move grid sign).final actor
      grid.IsCell after.x after.y := by
    have hstep := grid.isStep_delta hsign actor.angle actor.x actor.y
    cases hout : grid.isOutside (actor.x + sign * (grid.delta actor.angle).1)
        (actor.y + sign * (grid.delta actor.angle).2) with
    | true =>
        rw [move_of_outside rfl rfl hout]
        exact h
    | false =>
        rw [move_of_inside rfl rfl hout]
        exact h.step hstep hout
  cases deed with
  | moveForward => exact hmove (.inl rfl)
  | moveBack => exact hmove (.inr rfl)
  | turnRight => exact h
  | turnLeft => exact h
  | custom id => exact h

/-- A walk leads from a cell to a cell. -/
theorem isCell_walk (h : grid.IsCell actor.x actor.y) (deeds : List Deed) :
    let after := (actor.walk grid deeds).final actor
    grid.IsCell after.x after.y := by
  induction deeds generalizing actor with
  | nil => exact h
  | cons deed rest ih =>
      rw [walk, Stride.final_append, Stride.final_append]
      exact ih (isCell_stride h deed)

end Actor

/-! ## The cells of a grid -/

namespace Grid

/-- The cells of a grid, by columns and rows. -/
def cells (g : Grid) : Finset (Int × Int) :=
  (Finset.range g.cols.toNat ×ˢ Finset.range g.rows.toNat).image fun cell =>
    (cell.1 * g.cellSize, cell.2 * g.cellSize)

variable {g : Grid} (hg : g.Proper)

include hg

/-- The cells of a grid are the points that are cells of it. -/
theorem mem_cells_iff {x y : Int} : (x, y) ∈ g.cells ↔ g.IsCell x y := by
  rw [isCell_iff hg.cellSize, cells, Finset.mem_image]
  simp only [Finset.mem_product, Finset.mem_range, Prod.exists, Prod.mk.injEq]
  constructor
  · rintro ⟨i, j, ⟨hi, hj⟩, rfl, rfl⟩
    exact ⟨i, j, by omega, rfl, rfl⟩
  · rintro ⟨i, j, ⟨hi, hj⟩, rfl, rfl⟩
    refine ⟨i.toNat, j.toNat, ⟨by omega, by omega⟩, ?_⟩
    rw [Int.toNat_of_nonneg hi.1, Int.toNat_of_nonneg hj.1]
    exact ⟨rfl, rfl⟩

/-- There are as many cells as columns times rows. -/
theorem card_cells : (g.cells.card : Int) = g.cols * g.rows := by
  have hsize : g.cellSize ≠ 0 := Int.ne_of_gt hg.cellSize
  have hcols : 0 ≤ g.cols := Int.le_trans Int.one_nonneg hg.cols
  have hrows : 0 ≤ g.rows := Int.le_trans Int.one_nonneg hg.rows
  have hinjective : Function.Injective fun cell : Nat × Nat =>
      ((cell.1 * g.cellSize, cell.2 * g.cellSize) : Int × Int) := by
    rintro ⟨i, j⟩ ⟨i', j'⟩ h
    obtain ⟨hi, hj⟩ := Prod.mk.inj h
    exact Prod.ext (Int.ofNat_inj.mp (Int.eq_of_mul_eq_mul_right hsize hi))
      (Int.ofNat_inj.mp (Int.eq_of_mul_eq_mul_right hsize hj))
  rw [cells, Finset.card_image_of_injective _ hinjective, Finset.card_product, Finset.card_range,
    Finset.card_range, Int.natCast_mul, Int.toNat_of_nonneg hcols, Int.toNat_of_nonneg hrows]

end Grid

/-! ## Runs from cell to cell -/

namespace Fleet

/-- A context is ready for a run from a pose: it is idle, its catalog has the commands that move the
actor, and the actor is in the pose and has no foreign values. -/
structure Ready (name : String) (grid : Grid) (pose : Actor.Pose) (f : Fleet) : Prop where
  idle : (f.contexts name).phase = .idle
  catalog : (f.contexts name).catalog.Maneuvers
  grid : (f.contexts name).settings.grid = grid
  pose : (f.contexts name).actor.value.pose = pose
  foreign : (f.contexts name).actor.value.foreign = []

section Runs

variable {crowd : Crowd} {name : String} {answers : List Pause → Pause → Answer} {f : Fleet}
  {grid : Grid} {pose : Actor.Pose} (hready : Ready name grid pose f)
  (hanswers : ∀ earlier p, answers earlier p = .ok ())

include hready hanswers

variable (crowd) in
/-- A run of commands that meet no edge records no hit and leads where the commands lead. -/
theorem Ready.execute_leads {maneuvers : List Maneuver} {there : Actor.Pose}
    (hleads : Maneuver.Leads grid maneuvers pose there) (run : RunId) :
    ∃ result g,
      ((stage crowd name).execute run (Maneuver.program maneuvers)).play (pace answers) f =
        (.ok result, g) ∧
      result.outcome = .completed ∧ hitsOf result.events = [] ∧
      (g.contexts name).actor.value = result.actor ∧
      result.actor = { x := there.x, y := there.y, angle := there.angle } := by
  obtain ⟨bs, hbs, hdeeds⟩ := hready.catalog.expansion maneuvers
  obtain ⟨result, g, hplay, htrip⟩ := execute_journeys_of_actions crowd hready.idle hready.foreign
    hanswers run hbs
  rw [hdeeds, hready.grid] at htrip
  obtain ⟨hhits, hpose⟩ := hleads (f.contexts name).actor.value.underway hready.pose
  refine ⟨result, g, hplay, htrip.outcome, ?_, htrip.current, ?_⟩
  · rw [htrip.hits, Actor.hits_journey, hhits]
    rfl
  · rw [htrip.actor, Actor.final_journey]
    exact Actor.atRest_eq hpose ((Actor.foreign_walk _ _ _).trans hready.foreign)

/-- Every run that starts on a cell ends on a cell. -/
theorem Ready.isCell_of_execute (hcell : grid.IsCell pose.x pose.y) {run : RunId}
    {ids : List Phrase} {result : RunResult} {g : Fleet}
    (hplay : ((stage crowd name).execute run ids).play (pace answers) f = (.ok result, g)) :
    grid.IsCell result.actor.x result.actor.y := by
  obtain ⟨result', g', hplay', htrip⟩ := execute_journeys crowd hready.idle hready.foreign run ids
    rfl (.inr hanswers)
  cases hplay.symm.trans hplay'
  rw [htrip.actor, Actor.final_journey, hready.grid]
  have hstart : grid.IsCell (f.contexts name).actor.value.underway.x
      (f.contexts name).actor.value.underway.y := by
    rw [← hready.pose] at hcell
    exact hcell
  exact Actor.isCell_walk hstart _

end Runs

/-- From a pose on a grid every run of a program, with all pauses made, completes without a hit at
the edge and leaves the actor at a position, facing a quarter turn. -/
def Arrives (grid : Grid) (pose : Actor.Pose) (ids : List Phrase) (x y turn : Int) : Prop :=
  ∀ (crowd : Crowd) (name : String) (answers : List Pause → Pause → Answer) (f : Fleet)
    (run : RunId), (∀ earlier p, answers earlier p = .ok ()) → Ready name grid pose f →
    ∃ result g,
      ((stage crowd name).execute run ids).play (pace answers) f = (.ok result, g) ∧
      result.outcome = .completed ∧ hitsOf result.events = [] ∧
      (g.contexts name).actor.value = result.actor ∧
      (result.actor.x = x ∧ result.actor.y = y) ∧ quarterTurn result.actor.angle = turn

/-- The way from a cell to another one is the program of runs between them. -/
theorem arrives_route {grid : Grid} {pose : Actor.Pose} {x y turn : Int}
    (hcell : grid.IsCell pose.x pose.y) (hthere : grid.IsCell x y)
    (hturn : turn ∈ [0, 90, 180, 270]) :
    Arrives grid pose (Maneuver.program (Maneuver.route grid pose x y turn)) x y turn := by
  obtain ⟨angle, hleads, hangle⟩ := Maneuver.leads_route hcell hthere hturn
  intro crowd name answers f run hanswers hready
  obtain ⟨result, g, hplay, houtcome, hhits, hcurrent, hactor⟩ :=
    hready.execute_leads crowd hanswers hleads run
  refine ⟨result, g, hplay, houtcome, hhits, hcurrent, ?_⟩
  rw [hactor]
  exact ⟨⟨rfl, rfl⟩, hangle⟩

/-- On a proper grid, from every pose on a cell, for every cell and every quarter turn there is a
program of the commands that move the actor whose runs arrive there without a hit at the edge.  No
program leads to any other position.  So the positions that are reached from a cell are the cells,
as many as columns times rows. -/
theorem execute_arrives {grid : Grid} (hg : grid.Proper) {pose : Actor.Pose}
    (hcell : grid.IsCell pose.x pose.y) :
    (∀ x y, grid.IsCell x y → ∀ turn ∈ [0, 90, 180, 270], ∃ maneuvers : List Maneuver,
        Arrives grid pose (Maneuver.program maneuvers) x y turn) ∧
      (∀ (crowd : Crowd) (name : String) (answers : List Pause → Pause → Answer) (f : Fleet),
        (∀ earlier p, answers earlier p = .ok ()) → Ready name grid pose f → ∀ x y,
          (∃ run ids result g,
            ((stage crowd name).execute run ids).play (pace answers) f = (.ok result, g) ∧
            result.actor.x = x ∧ result.actor.y = y) ↔ (x, y) ∈ grid.cells) ∧
      (grid.cells.card : Int) = grid.cols * grid.rows := by
  refine ⟨fun x y hthere turn hturn => ⟨_, arrives_route hcell hthere hturn⟩,
    fun crowd name answers f hanswers hready x y => ?_, Grid.card_cells hg⟩
  rw [Grid.mem_cells_iff hg]
  constructor
  · rintro ⟨run, ids, result, g, hplay, rfl, rfl⟩
    exact hready.isCell_of_execute hanswers hcell hplay
  · intro hthere
    have hright : (0 : Int) ∈ [0, 90, 180, 270] := by decide
    obtain ⟨result, g, hplay, -, -, -, hposition, -⟩ :=
      arrives_route hcell hthere hright crowd name answers f (.ofNat 0) hanswers hready
    exact ⟨_, _, result, g, hplay, hposition⟩

/-- An actor that does not face straight ahead reaches the last cell and turns back there, and it
reaches one cell for each column and row. -/
theorem execute_arrives_leaning :
    (∃ maneuvers result g,
      ((stage .quiet "a").execute (.ofNat 0) (Maneuver.program maneuvers)).play
        (pace fun _ _ => .ok ()) leaning = (.ok result, g) ∧
      hitsOf result.events = [] ∧ (result.actor.x = 750 ∧ result.actor.y = 150) ∧
      quarterTurn result.actor.angle = 180) ∧
    ({} : Grid).cells.card = 64 := by
  have hproper := Grid.proper_default
  have hstart : ({} : Grid).IsCell 50 50 :=
    (Grid.isCell_iff hproper.cellSize).mpr ⟨1, 1, by decide, rfl, rfl⟩
  have hlast : ({} : Grid).IsCell 750 150 :=
    (Grid.isCell_iff hproper.cellSize).mpr ⟨15, 3, by decide, rfl, rfl⟩
  obtain ⟨harrives, -, hcard⟩ := @execute_arrives _ hproper ⟨50, 50, 37⟩ hstart
  obtain ⟨maneuvers, hruns⟩ := harrives 750 150 hlast 180 (by decide)
  have hready : Ready "a" {} ⟨50, 50, 37⟩ leaning :=
    ⟨rfl, Catalog.maneuvers_default, rfl, rfl, rfl⟩
  obtain ⟨result, g, hplay, -, hhits, -, hposition, hturn⟩ :=
    hruns .quiet "a" (fun _ _ => .ok ()) leaning (.ofNat 0) (fun _ _ => rfl) hready
  exact ⟨⟨maneuvers, result, g, hplay, hhits, hposition, hturn⟩, Int.ofNat_inj.mp hcard⟩

end Fleet

end Gridwalk
