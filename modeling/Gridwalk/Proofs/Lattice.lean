import Gridwalk.Proofs.CallInvariants

/-!
# The actor stays on the cells of its grid

Grids that settings can have are `Proper`.  On such a grid an actor that stands on a cell is
moved to a cell or blocked, whatever its angle is, and `Fleet.OnLattice` says that this was
always so: every actor that was ever shown stands on a cell, and every hit that is recorded was
a step from a cell to a point outside the grid.  This is true after every history
(`onLattice_after`).
-/

set_option autoImplicit false

namespace Gridwalk

namespace Grid

/-- A grid with cells, columns and rows. -/
structure Proper (g : Grid) : Prop where
  cellSize : 1 ≤ g.cellSize
  cols : 1 ≤ g.cols
  rows : 1 ≤ g.rows

/-- The grid of settings that say nothing about it. -/
theorem proper_default : ({} : Grid).Proper :=
  ⟨by decide, by decide, by decide⟩

/-- A position is the corner of a cell of the grid. -/
structure IsCell (g : Grid) (x y : Int) : Prop where
  left : 0 ≤ x
  right : x ≤ g.maxX
  top : 0 ≤ y
  bottom : y ≤ g.maxY
  column : g.cellSize ∣ x
  row : g.cellSize ∣ y

/-- A point is exactly one cell away from a position, along exactly one axis. -/
def IsStep (g : Grid) (x y targetX targetY : Int) : Prop :=
  (targetX = x + g.cellSize ∨ targetX = x - g.cellSize) ∧ targetY = y ∨
    targetX = x ∧ (targetY = y + g.cellSize ∨ targetY = y - g.cellSize)

/-- A point is not outside the grid exactly if both coordinates are in their bounds. -/
theorem isOutside_eq_false_iff (g : Grid) (x y : Int) :
    g.isOutside x y = false ↔ (0 ≤ x ∧ x ≤ g.maxX) ∧ 0 ≤ y ∧ y ≤ g.maxY := by
  simp [isOutside]
  omega

/-- The first cell is a cell of every proper grid. -/
theorem Proper.isCell_zero {g : Grid} (hg : g.Proper) : g.IsCell 0 0 := by
  have hx : 0 ≤ g.maxX := by
    have h : 0 ≤ (g.cols - 1) * g.cellSize :=
      Int.mul_nonneg (by have := hg.cols; omega) (by have := hg.cellSize; omega)
    rw [Int.sub_mul, Int.one_mul] at h
    exact h
  have hy : 0 ≤ g.maxY := by
    have h : 0 ≤ (g.rows - 1) * g.cellSize :=
      Int.mul_nonneg (by have := hg.rows; omega) (by have := hg.cellSize; omega)
    rw [Int.sub_mul, Int.one_mul] at h
    exact h
  exact ⟨Int.le_refl 0, hx, Int.le_refl 0, hy, Int.dvd_zero _, Int.dvd_zero _⟩

/-- A move at an angle, ahead or back, is a step. -/
theorem isStep_delta (g : Grid) {sign : Int} (hsign : sign = 1 ∨ sign = -1) (angle x y : Int) :
    g.IsStep x y (x + sign * (g.delta angle).1) (y + sign * (g.delta angle).2) := by
  unfold delta IsStep
  cases Heading.ofAngle angle <;> rcases hsign with rfl | rfl <;> simp [Heading.delta] <;> omega

/-- A step that does not lead outside leads from a cell to a cell. -/
theorem IsCell.step {g : Grid} {x y targetX targetY : Int} (hcell : g.IsCell x y)
    (hstep : g.IsStep x y targetX targetY) (hin : g.isOutside targetX targetY = false) :
    g.IsCell targetX targetY := by
  obtain ⟨⟨hleft, hright⟩, htop, hbottom⟩ := (isOutside_eq_false_iff g _ _).mp hin
  have hsize : g.cellSize ∣ g.cellSize := Int.dvd_refl _
  rcases hstep with ⟨rfl | rfl, rfl⟩ | ⟨rfl, rfl | rfl⟩
  · exact ⟨hleft, hright, htop, hbottom, Int.dvd_add hcell.column hsize, hcell.row⟩
  · exact ⟨hleft, hright, htop, hbottom, Int.dvd_sub hcell.column hsize, hcell.row⟩
  · exact ⟨hleft, hright, htop, hbottom, hcell.column, Int.dvd_add hcell.row hsize⟩
  · exact ⟨hleft, hright, htop, hbottom, hcell.column, Int.dvd_sub hcell.row hsize⟩

end Grid

/-! ## Settings -/

/-- A setting that is read is at least its minimum. -/
theorem Setting.minimum_le_of_read {setting : Setting} {env : Environment} {value : Int}
    (hfallback : setting.minimum ≤ setting.fallback) (h : setting.read env = .ok value) :
    setting.minimum ≤ value := by
  unfold Setting.read at h
  split at h
  · cases h
    exact hfallback
  · split at h
    · cases h
      exact hfallback
    · split at h
      · cases h
      · split at h
        · cases h
        · cases h
          omega

/-- Settings that are loaded have a proper grid. -/
theorem Settings.proper_of_load {env : Environment} {settings : Settings}
    (h : Settings.load env = .ok settings) : settings.grid.Proper := by
  unfold Settings.load at h
  simp only [bind, Except.bind, pure, Except.pure] at h
  cases hsize : Setting.cellSize.read env with
  | error fault => simp [hsize] at h
  | ok cellSize =>
  cases hcols : Setting.cols.read env with
  | error fault => simp [hsize, hcols] at h
  | ok cols =>
  cases hrows : Setting.rows.read env with
  | error fault => simp [hsize, hcols, hrows] at h
  | ok rows =>
      have hgrid : settings.grid.cellSize = cellSize ∧ settings.grid.cols = cols ∧
          settings.grid.rows = rows := by
        rw [hsize, hcols, hrows] at h
        simp only at h
        split at h
        · cases h
        · split at h
          · cases h
          · split at h
            · cases h
            · cases h
              exact ⟨rfl, rfl, rfl⟩
      obtain ⟨rfl, rfl, rfl⟩ := hgrid
      exact ⟨Setting.minimum_le_of_read (by decide) hsize,
        Setting.minimum_le_of_read (by decide) hcols,
        Setting.minimum_le_of_read (by decide) hrows⟩

/-! ## Actors and hits -/

/-- An actor stands on a cell of a grid. -/
def Actor.OnCell (g : Grid) (actor : Actor) : Prop :=
  actor.foreign = [] ∧ g.IsCell actor.x actor.y

/-- If an occurrence is a hit, then it is told with a cell of the grid and a target one step away
from it, outside the grid. -/
def Occurrence.IsSound (g : Grid) (occurrence : Occurrence) : Prop :=
  occurrence.type = "BOUNDS_HIT" →
    ∃ x y targetX targetY : Int,
      occurrence.payload = ([("x", .int x), ("y", .int y), ("target_x", .int targetX),
        ("target_y", .int targetY)] : List (Phrase × Json)) ∧
      g.IsCell x y ∧ g.IsStep x y targetX targetY ∧
      ¬((0 ≤ targetX ∧ targetX ≤ g.maxX) ∧ 0 ≤ targetY ∧ targetY ≤ g.maxY)

/-- The flags of an actor have nothing to do with its cell. -/
theorem Actor.OnCell.apply {g : Grid} {actor : Actor} (h : actor.OnCell g) {change : Actor.Change}
    (hx : change.x = none) (hy : change.y = none) (hforeign : change.foreign = []) :
    (actor.apply change).OnCell g := by
  refine ⟨Actor.foreign_apply h.1 hforeign, ?_⟩
  simp only [Actor.apply, hx, hy, Option.getD_none]
  exact h.2

namespace Fleet

/-- All actors that were shown stand on cells of the grids of their contexts, and all hits are
sound. -/
structure OnLattice (grids : String → Grid) (f : Fleet) : Prop where
  settings : ∀ name, (f.contexts name).settings.grid = grids name
  proper : ∀ name, (grids name).Proper
  current : ∀ name, (f.contexts name).actor.value.OnCell (grids name)
  shown : ∀ telling ∈ f.told, ∀ actor, telling.notice = .actor actor →
    actor.OnCell (grids telling.context)
  hits : ∀ name, ∀ event ∈ (f.contexts name).log, event.occurrence.IsSound (grids name)

namespace OnLattice

variable {grids : String → Grid} {f : Fleet} (name : String)

/-- Changes of a context that leave grid and actor alone stay on the lattice if the log does. -/
theorem alter (h : OnLattice grids f) {g : Context → Context}
    (hsettings : (g (f.contexts name)).settings = (f.contexts name).settings)
    (hactor : (g (f.contexts name)).actor.value = (f.contexts name).actor.value)
    (hlog : ∀ event ∈ (g (f.contexts name)).log, event.occurrence.IsSound (grids name)) :
    OnLattice grids (f.alter name g) := by
  refine ⟨?_, h.proper, ?_, h.shown, ?_⟩
  · intro other
    rw [contexts_alter]
    split
    · next hother => rw [hother, hsettings, h.settings]
    · exact h.settings other
  · intro other
    rw [contexts_alter]
    split
    · next hother =>
        rw [hother, hactor]
        exact h.current name
    · exact h.current other
  · intro other
    rw [contexts_alter]
    split
    · next hother =>
        rw [hother]
        exact hlog
    · exact h.hits other

/-- Showing an actor on a cell stays on the lattice. -/
theorem showActor (h : OnLattice grids f) {actor : Actor} (hactor : actor.OnCell (grids name)) :
    OnLattice grids (f.showActor name actor) := by
  refine ⟨?_, h.proper, ?_, ?_, ?_⟩
  · intro other
    by_cases hother : other = name
    · rw [hother, contexts_showActor_self]
      exact h.settings name
    · rw [contexts_showActor_of_ne f name other actor hother]
      exact h.settings other
  · intro other
    by_cases hother : other = name
    · rw [hother, contexts_showActor_self]
      exact hactor
    · rw [contexts_showActor_of_ne f name other actor hother]
      exact h.current other
  · intro telling htelling shown hshown
    rw [told_showActor, List.mem_append, List.mem_reverse, List.mem_map] at htelling
    rcases htelling with ⟨observer, -, rfl⟩ | htelling
    · cases hshown
      exact hactor
    · exact h.shown telling htelling shown hshown
  · intro other
    by_cases hother : other = name
    · rw [hother, contexts_showActor_self]
      exact h.hits name
    · rw [contexts_showActor_of_ne f name other actor hother]
      exact h.hits other

/-- A change that names no coordinate leaves a fleet on its grids. -/
theorem change (h : OnLattice grids f) (c : Actor.Change) (hx : c.x = none) (hy : c.y = none)
    (hforeign : c.foreign = []) : OnLattice grids (f.change name c) :=
  h.showActor name ((h.current name).apply hx hy hforeign)

/-- Showing a position stays on the lattice. -/
theorem showIndex (h : OnLattice grids f) (position : Position) :
    OnLattice grids (f.showIndex name position) := by
  have haltered : OnLattice grids (f.alter name fun c =>
      { c with activeIndex := { c.activeIndex with value := position } }) :=
    h.alter name rfl rfl (h.hits name)
  refine ⟨haltered.settings, h.proper, haltered.current, ?_, haltered.hits⟩
  intro telling htelling shown hshown
  rw [told_showIndex, List.mem_append, List.mem_reverse, List.mem_map] at htelling
  rcases htelling with ⟨observer, -, rfl⟩ | htelling
  · cases hshown
  · exact h.shown telling htelling shown hshown

/-- Recording something sound stays on the lattice. -/
theorem note (h : OnLattice grids f) {occurrence : Occurrence}
    (hsound : occurrence.IsSound (grids name)) : OnLattice grids (f.note name occurrence) := by
  unfold Fleet.note
  cases hrun : (f.contexts name).run with
  | none =>
      have hsame := Context.record_of_run_eq_none hrun occurrence
      refine h.alter name ?_ ?_ ?_
      · rw [hsame]
      · rw [hsame]
      · rw [hsame]
        exact h.hits name
  | some run =>
      have hrecord : (f.contexts name).record occurrence = { f.contexts name with
          log := ⟨run, occurrence, (f.contexts name).clock⟩ :: (f.contexts name).log } := by
        simp [Context.record, hrun]
      refine h.alter name ?_ ?_ ?_
      · rw [hrecord]
      · rw [hrecord]
      · rw [hrecord]
        intro event hevent
        rcases List.mem_cons.mp hevent with rfl | hevent
        · exact hsound
        · exact h.hits name event hevent

/-- What is no hit at the edge is sound on every grid. -/
theorem isSound_of_ne {g : Grid} {occurrence : Occurrence} (h : occurrence.type ≠ "BOUNDS_HIT") :
    occurrence.IsSound g :=
  fun htype => absurd htype h

/-- A move of an actor on a cell leads one step on. -/
theorem target_eq (h : OnLattice grids f) {sign : Int} (hsign : sign = 1 ∨ sign = -1)
    {x y : Amount} (htarget : (f.contexts name).actor.value.target
      (f.contexts name).settings.grid sign = .ok (x, y)) :
    ∃ targetX targetY, x = .whole targetX ∧ y = .whole targetY ∧
      (grids name).IsStep (f.contexts name).actor.value.x (f.contexts name).actor.value.y
        targetX targetY := by
  rw [Actor.target_of_foreign_eq_nil (h.current name).1, h.settings] at htarget
  cases htarget
  exact ⟨_, _, rfl, rfl, Grid.isStep_delta _ hsign _ _ _⟩

/-- What commands do stays on the lattice. -/
theorem calm (h : OnLattice grids f) {g : Fleet} (hcalm : Calm name f g) : OnLattice grids g := by
  cases hcalm with
  | counted => exact h.alter name rfl rfl (h.hits name)
  | skipped id parent => exact h.note name (isSound_of_ne (by simp [Occurrence.type]))
  | blocked hsign htarget hout =>
      obtain ⟨targetX, targetY, rfl, rfl, hstep⟩ := h.target_eq name hsign htarget
      refine h.note name fun _ => ?_
      refine ⟨(f.contexts name).actor.value.x, (f.contexts name).actor.value.y, targetX, targetY,
        ?_, (h.current name).2, hstep, ?_⟩
      · obtain ⟨hx, hy, -⟩ := Actor.shown_of_foreign_eq_nil (h.current name).1
        simp only [Occurrence.payload, hx, hy]
        rfl
      · intro hin
        have hinside := (Grid.isOutside_eq_false_iff (grids name) targetX targetY).mpr hin
        change (f.contexts name).settings.grid.excludes (.int targetX) (.int targetY) = _ at hout
        rw [Grid.excludes_int, h.settings, hinside] at hout
        cases hout
  | moved hsign htarget hin =>
      obtain ⟨targetX, targetY, rfl, rfl, hstep⟩ := h.target_eq name hsign htarget
      change (f.contexts name).settings.grid.excludes (.int targetX) (.int targetY) = _ at hin
      rw [Grid.excludes_int, h.settings] at hin
      refine h.showActor name ⟨Actor.foreign_apply (h.current name).1 rfl, ?_⟩
      exact (h.current name).2.step hstep (Except.ok.inj hin)
  | turned hangle =>
      rw [Actor.turned_of_foreign_eq_nil (h.current name).1] at hangle
      cases hangle
      exact h.change name _ rfl rfl rfl

/-- What runs do around their commands stays on the lattice. -/
theorem formal (h : OnLattice grids f) {g : Fleet} (hformal : Formal name f g) :
    OnLattice grids g := by
  cases hformal with
  | begun run ids =>
      refine h.alter name rfl rfl ?_
      intro event hevent
      obtain rfl := List.mem_singleton.mp hevent
      exact isSound_of_ne (by simp [Occurrence.type])
  | moving => exact h.change name _ rfl rfl rfl
  | indexed position => exact h.showIndex name position
  | recorded hocc => exact h.note name (isSound_of_ne hocc)
  | cleared =>
      have hcleared := (h.showIndex name (.index idleIndex)).change name
        { isMoving := some false, isHittingBounds := some false } rfl rfl rfl
      exact hcleared.alter name rfl rfl (hcleared.hits name)
  | concluded outcome =>
      rw [concluded_eq]
      have hnoted := h.note name (isSound_of_ne (type_closing_ne outcome
        (f.contexts name).actionsCompleted))
      exact hnoted.alter name rfl rfl (hnoted.hits name)

/-- A cell that a reset requires is one. -/
theorem isCell_of_requireCell {g : Grid} {x y : Int}
    (h : Stage.requireCell g (.int x) (.int y) = .ok ()) : g.IsCell x y := by
  unfold Stage.requireCell at h
  rw [Grid.excludes_int, Grid.aligns_int] at h
  cases hout : g.isOutside x y with
  | true =>
      rw [hout] at h
      simp [bind, Except.bind, Stage.refuse] at h
  | false =>
      rw [hout] at h
      obtain ⟨⟨hleft, hright⟩, htop, hbottom⟩ := (Grid.isOutside_eq_false_iff g x y).mp hout
      by_cases hsize : g.cellSize = 0
      · simp [bind, Except.bind, Grid.isAligned, hsize] at h
      · by_cases haligned : (x % g.cellSize == 0 && y % g.cellSize == 0) = true
        · simp only [Bool.and_eq_true, beq_iff_eq] at haligned
          exact ⟨hleft, hright, htop, hbottom, Int.dvd_of_emod_eq_zero haligned.1,
            Int.dvd_of_emod_eq_zero haligned.2⟩
        · simp only [Bool.not_eq_true] at haligned
          simp [bind, Except.bind, Grid.isAligned, hsize, haligned, Stage.refuse] at h

/-- Everybody stays on the lattice. -/
theorem bears (grids : String → Grid) (name : String) :
    (Regime.upholding (OnLattice grids)).Bears name where
  calm h hcalm := h.calm name hcalm
  step h := h
  afterStep _ hg := hg
  edge h := h.change name (.hold true) rfl rfl rfl
  afterEdge _ hg := OnLattice.change name hg (.hold false) rfl rfl rfl
  formal h hformal := h.formal name hformal

end OnLattice

end Fleet

/-- New contexts on proper grids are on the lattice. -/
theorem Scene.onLattice_fresh {setups : String → Setup}
    (hproper : ∀ name, (setups name).settings.grid.Proper) (store : Store) :
    (Scene.fresh setups store).fleet.OnLattice fun name => (setups name).settings.grid where
  settings _ := rfl
  proper := hproper
  current name := ⟨rfl, (hproper name).isCell_zero⟩
  shown _ htelling := nomatch htelling
  hits _ _ hevent := nomatch hevent

/-- After every history of contexts with loaded settings, every actor that was ever shown stands
on a cell of its grid, and so does every actor as it is; and every hit that is recorded was a
step from a cell of the grid to a point outside of it. -/
theorem Scene.onLattice_after (crowd : Crowd) (setups : String → Setup) (store : Store)
    (hloaded : ∀ name, ∃ env, Settings.load env = .ok (setups name).settings)
    (history : List Operation) :
    ((Scene.fresh setups store).after crowd history).fleet.OnLattice
      fun name => (setups name).settings.grid := by
  have hproper (name : String) : (setups name).settings.grid.Proper := by
    obtain ⟨env, henv⟩ := hloaded name
    exact Settings.proper_of_load henv
  refine always_of_bears (Fleet.OnLattice.bears _) ?_ ?_ ?_ ?_ crowd
    (Scene.onLattice_fresh hproper store) history
  · exact fun f p h => ⟨h.settings, h.proper, h.current, h.shown, h.hits⟩
  · exact fun f store h => ⟨h.settings, h.proper, h.current, h.shown, h.hits⟩
  · intro f name x y angle h hcell
    rw [h.settings] at hcell
    exact h.showActor name ⟨rfl, Fleet.OnLattice.isCell_of_requireCell hcell⟩
  · exact fun f name catalog h => h.alter name rfl rfl (h.hits name)

/-- A run that is blocked at once, with a reset that is refused meanwhile. -/
theorem Scene.onLattice_after_blocked :
    let history : List Operation := [
      .launch "t" ⟨"a", .execute (.ofNat 0) ["moveBack"]⟩, .reset "a" 50 50 90,
      .answer "t" (.ok ()), .answer "t" (.error .cancelled)]
    let scene := (Scene.fresh (fun _ => { actorObservers := ["watcher"] }) {}).after .quiet history
    (scene.fleet.contexts "a").log.map (fun event => event.occurrence.type) =
        ["BOUNDS_HIT", "STEP_STARTED", "RUN_STARTED"] ∧
      scene.fleet.told.length = 4 ∧ scene.fleet.OnLattice fun _ => {} :=
  ⟨by decide, by decide,
    Scene.onLattice_after .quiet (fun _ => { actorObservers := ["watcher"] }) _
      (fun _ => ⟨fun _ => none, rfl⟩) _⟩

end Gridwalk
