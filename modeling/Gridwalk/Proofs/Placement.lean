import Gridwalk.Proofs.Fleet
import Gridwalk.Proofs.Lattice
import Gridwalk.Proofs.Refusals

/-!
# Where an actor is put

A reset puts the actor on a cell, unless a run is in progress.  Whether a position is a cell is
decided by comparing it with the last column and the last row and by dividing it by the size of the
cells; on a grid with cells the positions that pass are the corners counted by columns and rows
(`Grid.isCell_iff`).  So a reset is accepted exactly for these, on an idle context, and then the
actor is published once; a reset that is refused leaves everything as it was
(`Fleet.resetActor_accepts`).
-/

set_option autoImplicit false

namespace Gridwalk

namespace Grid

variable {g : Grid} {x y : Int}

/-- Along an axis, the multiples of a size from zero to the last of a number of cells are those of
the cells. -/
theorem axis_iff {size count p : Int} (hsize : 0 < size) :
    (0 ≤ p ∧ p ≤ count * size - size ∧ size ∣ p) ↔ ∃ i, (0 ≤ i ∧ i < count) ∧ p = i * size := by
  have hlast : count * size - size = (count - 1) * size := by
    rw [Int.sub_mul, Int.one_mul]
  rw [hlast]
  constructor
  · rintro ⟨hlow, hhigh, i, rfl⟩
    rw [Int.mul_comm] at hlow hhigh ⊢
    have hi : 0 ≤ i := Int.nonneg_of_mul_nonneg_left hlow hsize
    have hcount : i ≤ count - 1 := (Int.mul_le_mul_right hsize).mp hhigh
    exact ⟨i, ⟨hi, by omega⟩, rfl⟩
  · rintro ⟨i, ⟨hi, hcount⟩, rfl⟩
    exact ⟨Int.mul_nonneg hi (by omega), (Int.mul_le_mul_right hsize).mpr (by omega),
      Int.dvd_mul_left _ _⟩

/-- The cells of a grid are counted by columns and rows. -/
theorem isCell_iff (hsize : 0 < g.cellSize) :
    g.IsCell x y ↔ ∃ i j, ((0 ≤ i ∧ i < g.cols) ∧ 0 ≤ j ∧ j < g.rows) ∧
      x = i * g.cellSize ∧ y = j * g.cellSize := by
  have hx := @axis_iff g.cellSize g.cols x hsize
  have hy := @axis_iff g.cellSize g.rows y hsize
  constructor
  · intro h
    obtain ⟨i, hi, rfl⟩ := hx.mp ⟨h.left, h.right, h.column⟩
    obtain ⟨j, hj, rfl⟩ := hy.mp ⟨h.top, h.bottom, h.row⟩
    exact ⟨i, j, ⟨hi, hj⟩, rfl, rfl⟩
  · rintro ⟨i, j, ⟨hi, hj⟩, rfl, rfl⟩
    obtain ⟨hleft, hright, hcolumn⟩ := hx.mpr ⟨i, hi, rfl⟩
    obtain ⟨htop, hbottom, hrow⟩ := hy.mpr ⟨j, hj, rfl⟩
    exact ⟨hleft, hright, htop, hbottom, hcolumn, hrow⟩

/-- A cell is not outside the grid. -/
theorem IsCell.inside (h : g.IsCell x y) : g.isOutside x y = false :=
  (isOutside_eq_false_iff g x y).mpr ⟨⟨h.left, h.right⟩, h.top, h.bottom⟩

/-- A reset may require any cell of the grid. -/
theorem IsCell.requireCell (h : g.IsCell x y) (hsize : g.cellSize ≠ 0) :
    Stage.requireCell g (.int x) (.int y) = .ok () := by
  have haligned : g.isAligned x y = .ok true := by
    unfold isAligned
    rw [if_neg hsize, Int.emod_eq_zero_of_dvd h.column, Int.emod_eq_zero_of_dvd h.row]
    rfl
  unfold Stage.requireCell
  rw [excludes_int, aligns_int, h.inside, haligned]
  rfl

/-- On a grid with cells, a position is refused for its value. -/
theorem kind_of_requireCell (hsize : g.cellSize ≠ 0) {fault : Fault}
    (h : Stage.requireCell g (.int x) (.int y) = .error fault) : fault.kind = .value := by
  have hrefuse (shown : List Json) (cause : Fault) (hcause : cause.kind = .value)
      (hfault : Stage.refuse shown cause = .error fault) : fault.kind = .value := by
    unfold Stage.refuse at hfault
    cases hfault
    split
    · rfl
    · exact hcause
  unfold Stage.requireCell at h
  rw [excludes_int, aligns_int] at h
  unfold isAligned at h
  rw [if_neg hsize] at h
  cases hout : g.isOutside x y with
  | true =>
      rw [hout] at h
      exact hrefuse _ (.outsideGrid _ _ _ _) rfl h
  | false =>
      rw [hout] at h
      cases haligned : (x % g.cellSize == 0 && y % g.cellSize == 0) with
      | true =>
          rw [haligned] at h
          cases h
      | false =>
          rw [haligned] at h
          exact hrefuse _ (.offLattice _ _ _) rfl h

end Grid

/-! ## Resets -/

/-- A context is idle or has a run in progress. -/
theorem Phase.eq_idle_or_running (phase : Phase) : phase = .idle ∨ phase = .running := by
  cases phase <;> simp

namespace Stage

/-- On an idle context a reset requires a cell, and then sets the actor once. -/
theorem resetActor_of_idle {σ : Type} {stage : Stage σ} {s : σ}
    (hidle : (stage.context.get s).phase = .idle) (x y angle : Int) :
    stage.resetActor x y angle s =
      Act.bind (Act.ofExcept
          (requireCell (stage.context.get s).settings.grid (.int x) (.int y)))
        (fun _ => Act.bind (stage.setActor { x, y, angle }) fun _ =>
          Act.pure { x, y, angle }) s := by
  simp only [resetActor, resetActorTo, bind, Act.bind, read_eq, hidle]
  rfl

end Stage

namespace Fleet

/-- On an idle context a position that is no cell is refused and nobody is told anything; on a cell
the actor is shown. -/
theorem resetActor_eq (crowd : Crowd) {name : String} {f : Fleet}
    (hidle : (f.contexts name).phase = .idle) (x y angle : Int) :
    (stage crowd name).resetActor x y angle f =
      match Stage.requireCell (f.contexts name).settings.grid (.int x) (.int y) with
      | .ok () => (.ok { x, y, angle }, f.showActor name { x, y, angle })
      | .error fault => (.error fault, f) := by
  have hreset := @Stage.resetActor_of_idle _ (stage crowd name) f hidle x y angle
  rw [hreset]
  show Act.bind (Act.ofExcept (Stage.requireCell (f.contexts name).settings.grid _ _)) _ f = _
  cases Stage.requireCell (f.contexts name).settings.grid (.int x) (.int y) with
  | error fault => rfl
  | ok u =>
      simp only [Act.bind, Act.ofExcept, setActor_eq]
      rfl

/-- A reset on a context with a proper grid succeeds exactly if the context is idle and the position
is the corner of a column and a row of the grid.  Then the actor is there, faces the angle and shows
no flag; each of its observers is told so, once for each subscription, and nothing else is told or
changed.  Otherwise the reset fails, because of the run if one is in progress and for the value of
the position if not, nobody is told anything, and all contexts are as they were. -/
theorem resetActor_accepts (crowd : Crowd) (name : String) (f : Fleet)
    (hg : (f.contexts name).settings.grid.Proper) (x y angle : Int) :
    let c := f.contexts name
    let grid := c.settings.grid
    let outcome := (stage crowd name).resetActor x y angle f
    ((∃ actor, outcome.1 = .ok actor) ↔
        c.phase = .idle ∧ ∃ i j, ((0 ≤ i ∧ i < grid.cols) ∧ 0 ≤ j ∧ j < grid.rows) ∧
          x = i * grid.cellSize ∧ y = j * grid.cellSize) ∧
      (∀ actor, outcome.1 = .ok actor →
        actor = { x, y, angle, isMoving := false, isHittingBounds := false, foreign := [] } ∧
          outcome.2 = { f with
            contexts := Function.update f.contexts name
              { c with actor := { c.actor with value := actor } }
            told := (c.actor.observers.map fun observer =>
              ⟨name, observer, .actor actor⟩).reverse ++ f.told }) ∧
      ∀ fault, outcome.1 = .error fault →
        fault.kind = (if c.phase = .running then .runInProgress else .value) ∧
          outcome.2 = f := by
  intro c grid outcome
  have hsize : 0 < grid.cellSize := hg.cellSize
  rw [← Grid.isCell_iff hsize]
  rcases Phase.eq_idle_or_running c.phase with hphase | hphase
  · have houtcome := resetActor_eq crowd hphase x y angle
    change outcome = _ at houtcome
    rw [houtcome]
    cases hcell : Stage.requireCell (f.contexts name).settings.grid (.int x) (.int y) with
    | error fault =>
        have hno : ¬grid.IsCell x y := by
          intro h
          cases hcell.symm.trans (h.requireCell (Int.ne_of_gt hsize))
        refine ⟨by simp [hno], by simp, ?_⟩
        rintro _ ⟨⟩
        exact ⟨by simp [hphase, Grid.kind_of_requireCell (Int.ne_of_gt hsize) hcell], rfl⟩
    | ok u =>
        have hyes : grid.IsCell x y := OnLattice.isCell_of_requireCell hcell
        refine ⟨by simp [hphase, hyes], ?_, by simp⟩
        rintro _ ⟨⟩
        exact ⟨rfl, rfl⟩
  · have houtcome : outcome = (.error .resetWhileRunning, f) :=
      Stage.resetActor_of_running hphase x y angle
    rw [houtcome]
    refine ⟨by simp [hphase], by simp, ?_⟩
    rintro _ ⟨⟩
    exact ⟨by simp [hphase, Fault.kind], rfl⟩

/-- A fleet of contexts that are observed twice, one of them with a run in progress. -/
def halfBusy : Fleet where
  contexts name :=
    { actor := ⟨{}, ["watcher", "hub"]⟩, phase := if name = "b" then .running else .idle }

/-- The last cell of the grid is accepted and shown to both observers; the position beside it is
refused for its value, and during a run even the cell is refused. -/
theorem resetActor_accepts_corner :
    let reset (name : String) (x : Int) := (stage .quiet name).resetActor x 150 90 halfBusy
    (reset "a" 750).1 = .ok { x := 750, y := 150, angle := 90 } ∧
      (reset "a" 750).2.told.map Telling.observer = ["hub", "watcher"] ∧
      (∃ fault, (reset "a" 800).1 = .error fault ∧ fault.kind = .value) ∧
      ∃ fault, (reset "b" 750).1 = .error fault ∧ fault.kind = .runInProgress := by
  intro reset
  have hproper := Grid.proper_default
  obtain ⟨haccepts, hset, -⟩ := resetActor_accepts .quiet "a" halfBusy hproper 750 150 90
  obtain ⟨actor, hactor⟩ := haccepts.mpr ⟨rfl, 15, 3, by decide, by decide, by decide⟩
  obtain ⟨rfl, hleft⟩ := hset actor hactor
  obtain ⟨-, -, hbeside⟩ := resetActor_accepts .quiet "a" halfBusy hproper 800 150 90
  obtain ⟨-, -, hbusy⟩ := resetActor_accepts .quiet "b" halfBusy hproper 750 150 90
  refine ⟨hactor, ?_, ⟨_, rfl, (hbeside _ rfl).1⟩, ⟨_, rfl, (hbusy _ rfl).1⟩⟩
  show List.map _ ((stage .quiet "a").resetActor 750 150 90 halfBusy).2.told = _
  rw [hleft]
  rfl

end Fleet

end Gridwalk
