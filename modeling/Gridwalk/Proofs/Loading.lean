import Gridwalk.Proofs.Lattice
import Gridwalk.Proofs.Numeral
import Gridwalk.Proofs.Publication

/-!
# Which environments give settings

`Setting.Gives` says what a setting is in an environment, and `Setting.Refuses` with which fault it
is refused, both by the grammar of integer texts and not by how they are read.  Settings are loaded
exactly if every variable gives a value; these values are the settings, their grid has cells, and
no test of alignment divides by zero.  Otherwise the first variable in the order of reading that is
refused is reported, by name (`Settings.load_exact`).
-/

set_option autoImplicit false

namespace Gridwalk

open Text Text.Numeral

/-! ## One setting -/

namespace Setting

/-- The settings in the order in which they are read. -/
def all : List Setting := [cellSize, cols, rows, iconSize, stepDelay, boundsDelay]

/-- A text leaves a setting at its default. -/
def Unset (text : String) : Prop := ∀ c ∈ text.toList, isSpacing c = true

/-- A text is a numeral that is not too long for an integer. -/
def IsNumeral (text : String) (n : Int) : Prop :=
  Denotes text.toList n ∧ digitCount text.toList ≤ mostDigits

/-- What a setting is in an environment. -/
inductive Gives (setting : Setting) (env : Environment) : Int → Prop
  /-- Without a variable it is the default. -/
  | absent (h : env setting.name = none) : Gives setting env setting.fallback
  /-- With a variable that holds nothing but spacing, too. -/
  | unset {text : String} (h : env setting.name = some text) (hunset : Unset text) :
      Gives setting env setting.fallback
  /-- A numeral gives its integer, if that is no less than the minimum. -/
  | given {text : String} {n : Int} (h : env setting.name = some text) (hn : IsNumeral text n)
      (hminimum : setting.minimum ≤ n) : Gives setting env n

/-- The fault with which a setting is refused in an environment. -/
inductive Refuses (setting : Setting) (env : Environment) : Fault → Prop
  /-- A text that is not left out and no numeral. -/
  | malformed {text : String} (h : env setting.name = some text) (hset : ¬Unset text)
      (hno : ∀ n, ¬IsNumeral text n) : Refuses setting env (.notAnInteger setting.name text)
  /-- A numeral of an integer below the minimum. -/
  | small {text : String} {n : Int} (h : env setting.name = some text) (hn : IsNumeral text n)
      (hminimum : n < setting.minimum) :
      Refuses setting env (.belowMinimum setting.name setting.minimum n)

/-- A text is left out if it has nothing but spacing in it. -/
theorem isUnset_iff (text : String) : isUnset text = true ↔ Unset text :=
  List.all_eq_true

/-- A numeral is not left out. -/
theorem IsNumeral.not_unset {text : String} {n : Int} (h : IsNumeral text n) : ¬Unset text := by
  intro hunset
  obtain ⟨c, hc, hspacing⟩ := h.1.exists_not_isSpacing
  rw [hunset c hc] at hspacing
  cases hspacing

variable {setting : Setting} {env : Environment}

/-- A setting is read as what it is. -/
theorem read_of_gives {value : Int} (h : setting.Gives env value) :
    setting.read env = .ok value := by
  unfold read
  cases h with
  | absent h => rw [h]
  | unset h hunset =>
      rw [h]
      exact if_pos ((isUnset_iff _).mpr hunset)
  | given h hn hminimum =>
      have hset := mt (isUnset_iff _).mp hn.not_unset
      rw [h]
      dsimp only
      rw [if_neg hset, ofText?_eq_some_iff.mpr hn]
      exact if_neg (Int.not_lt.mpr hminimum)

/-- A setting that is refused is reported. -/
theorem read_of_refuses {fault : Fault} (h : setting.Refuses env fault) :
    setting.read env = .error fault := by
  unfold read
  cases h with
  | malformed h hset hno =>
      have hnone : ofText? _ = none := Option.eq_none_iff_forall_ne_some.mpr fun n hn =>
        hno n (ofText?_eq_some_iff.mp hn)
      rw [h]
      dsimp only
      rw [if_neg (mt (isUnset_iff _).mp hset), hnone]
  | small h hn hminimum =>
      have hset := mt (isUnset_iff _).mp hn.not_unset
      rw [h]
      dsimp only
      rw [if_neg hset, ofText?_eq_some_iff.mpr hn]
      exact if_pos hminimum

/-- A setting has a value in every environment, or it is refused there. -/
theorem gives_or_refuses (setting : Setting) (env : Environment) :
    (∃ value, setting.Gives env value) ∨ ∃ fault, setting.Refuses env fault := by
  cases henv : env setting.name with
  | none => exact .inl ⟨_, .absent henv⟩
  | some text =>
      by_cases hunset : Unset text
      · exact .inl ⟨_, .unset henv hunset⟩
      by_cases hnumeral : ∃ n, IsNumeral text n
      · obtain ⟨n, hn⟩ := hnumeral
        by_cases hsmall : n < setting.minimum
        · exact .inr ⟨_, .small henv hn hsmall⟩
        · exact .inl ⟨_, .given henv hn (Int.not_lt.mp hsmall)⟩
      · exact .inr ⟨_, .malformed henv hunset (not_exists.mp hnumeral)⟩

/-- A setting is read with a value if the environment gives it that value. -/
theorem read_eq_ok_iff {value : Int} : setting.read env = .ok value ↔ setting.Gives env value := by
  refine ⟨fun h => ?_, read_of_gives⟩
  rcases gives_or_refuses setting env with ⟨given, hgiven⟩ | ⟨fault, hfault⟩
  · rw [read_of_gives hgiven] at h
    cases h
    exact hgiven
  · rw [read_of_refuses hfault] at h
    cases h

/-- A setting is refused with a fault if the environment has it refused. -/
theorem read_eq_error_iff {fault : Fault} :
    setting.read env = .error fault ↔ setting.Refuses env fault := by
  refine ⟨fun h => ?_, read_of_refuses⟩
  rcases gives_or_refuses setting env with ⟨given, hgiven⟩ | ⟨other, hother⟩
  · rw [read_of_gives hgiven] at h
    cases h
  · rw [read_of_refuses hother] at h
    cases h
    exact hother

/-- A setting has only one value in an environment. -/
theorem Gives.unique {value other : Int} (h : setting.Gives env value)
    (hother : setting.Gives env other) : value = other :=
  Except.ok.inj ((read_of_gives h).symm.trans (read_of_gives hother))

/-- What is reported of a setting is a bad value, and names the variable. -/
theorem Refuses.names {fault : Fault} (h : setting.Refuses env fault) :
    fault.kind = .value ∧ ∃ detail, fault.message = setting.name ++ detail := by
  cases h with
  | malformed | small =>
      refine ⟨rfl, ?_⟩
      unfold Fault.message
      simp only [String.append_assoc]
      exact ⟨_, rfl⟩

end Setting

/-! ## All settings -/

/-- The first item for which a traversal fails. -/
theorem mapM_eq_error_iff {α β : Type} (g : α → Except Fault β) (items : List α) (fault : Fault) :
    items.mapM g = .error fault ↔ ∃ earlier item later, items = earlier ++ item :: later ∧
      (∀ other ∈ earlier, ∃ b, g other = .ok b) ∧ g item = .error fault := by
  induction items with
  | nil =>
      refine ⟨nofun, ?_⟩
      rintro ⟨earlier, item, later, hitems, -⟩
      simp at hitems
  | cons first rest ih =>
      rw [List.mapM_cons]
      cases hfirst : g first with
      | error raised =>
          constructor
          · intro h
            cases h
            exact ⟨[], first, rest, rfl, List.forall_mem_nil _, hfirst⟩
          · rintro ⟨earlier, item, later, hitems, hearlier, hitem⟩
            rcases List.cons_eq_append_iff.mp hitems with ⟨rfl, hhead⟩ | ⟨more, rfl, -⟩
            · cases hhead
              rw [hfirst] at hitem
              cases hitem
              rfl
            · obtain ⟨b, hb⟩ := hearlier first List.mem_cons_self
              rw [hfirst] at hb
              cases hb
      | ok b =>
          have hrest : (rest.mapM g >>= fun bs => pure (b :: bs)) = .error fault ↔
              rest.mapM g = .error fault := by
            cases rest.mapM g with
            | error raised => exact Iff.rfl
            | ok bs => exact ⟨nofun, nofun⟩
          refine hrest.trans (ih.trans ?_)
          constructor
          · rintro ⟨earlier, item, later, rfl, hearlier, hitem⟩
            exact ⟨first :: earlier, item, later, rfl,
              List.forall_mem_cons.mpr ⟨⟨b, hfirst⟩, hearlier⟩, hitem⟩
          · rintro ⟨earlier, item, later, hitems, hearlier, hitem⟩
            rcases List.cons_eq_append_iff.mp hitems with ⟨rfl, hhead⟩ | ⟨more, rfl, rfl⟩
            · cases hhead
              rw [hfirst] at hitem
              cases hitem
            · exact ⟨more, item, later, rfl, (List.forall_mem_cons.mp hearlier).2, hitem⟩

namespace Settings

/-- The values of some settings in the order in which they are read. -/
def values (settings : Settings) : List Int :=
  [settings.grid.cellSize, settings.grid.cols, settings.grid.rows, settings.grid.iconSize,
    settings.stepDelay, settings.boundsDelay]

/-- Settings are known by their values. -/
theorem values_injective {settings other : Settings} (h : settings.values = other.values) :
    settings = other := by
  obtain ⟨⟨_, _, _, _⟩, _, _⟩ := settings
  obtain ⟨⟨_, _, _, _⟩, _, _⟩ := other
  simp only [values, List.cons.injEq] at h
  obtain ⟨rfl, rfl, rfl, rfl, rfl, rfl, -⟩ := h
  rfl

/-- Loading is reading all settings in order. -/
theorem load_eq (env : Environment) :
    (Settings.load env).map values = Setting.all.mapM fun setting => setting.read env := by
  unfold Settings.load Setting.all
  simp only [List.mapM_cons, List.mapM_nil]
  cases Setting.cellSize.read env <;> cases Setting.cols.read env <;>
    cases Setting.rows.read env <;> cases Setting.iconSize.read env <;>
    cases Setting.stepDelay.read env <;> cases Setting.boundsDelay.read env <;> rfl

/-- Settings are loaded exactly if every variable gives its value. -/
theorem load_eq_ok_iff {env : Environment} {settings : Settings} :
    Settings.load env = .ok settings ↔
      List.Forall₂ (fun setting value => setting.Gives env value) Setting.all settings.values := by
  have hread : (fun (setting : Setting) (value : Int) => setting.read env = .ok value) =
      fun setting value => setting.Gives env value := by
    funext setting value
    exact propext Setting.read_eq_ok_iff
  rw [← hread, ← mapM_eq_ok_iff, ← load_eq]
  cases Settings.load env with
  | error fault => exact ⟨nofun, nofun⟩
  | ok loaded =>
      refine ⟨fun h => by cases h; rfl, fun h => ?_⟩
      rw [values_injective (Except.ok.inj h)]

/-- Otherwise the first variable that is refused is reported. -/
theorem load_eq_error_iff {env : Environment} {fault : Fault} :
    Settings.load env = .error fault ↔ ∃ earlier setting later,
      Setting.all = earlier ++ setting :: later ∧
        (∀ other ∈ earlier, ∃ value, other.Gives env value) ∧ setting.Refuses env fault := by
  have hload : Settings.load env = .error fault ↔
      (Settings.load env).map values = .error fault := by
    cases Settings.load env with
    | error raised => exact ⟨fun h => by cases h; rfl, fun h => by cases h; rfl⟩
    | ok loaded => exact ⟨nofun, nofun⟩
  simp only [hload, load_eq, mapM_eq_error_iff, Setting.read_eq_ok_iff, Setting.read_eq_error_iff]

/-- Loaded settings have a grid with cells, on which alignment can be tested. -/
theorem grid_of_load {env : Environment} {settings : Settings}
    (h : Settings.load env = .ok settings) :
    0 < settings.grid.cellSize ∧ 0 < settings.grid.width ∧ 0 < settings.grid.height ∧
      0 ≤ settings.grid.maxX ∧ 0 ≤ settings.grid.maxY ∧
        ∀ x y : Int, ∃ aligned, settings.grid.aligns (.int x) (.int y) = .ok aligned := by
  have hproper := proper_of_load h
  have hcell := hproper.cellSize
  have hcorner := hproper.isCell_zero
  have hx := hcorner.right
  have hy := hcorner.bottom
  have hwidth : settings.grid.maxX = settings.grid.width - settings.grid.cellSize := rfl
  have hheight : settings.grid.maxY = settings.grid.height - settings.grid.cellSize := rfl
  refine ⟨by omega, by omega, by omega, hx, hy, fun x y => ?_⟩
  rw [Grid.aligns_int, Grid.isAligned, if_neg (by omega)]
  exact ⟨_, rfl⟩

/-- Settings are loaded exactly from the environments that are valid for them.  Their values are
those that the variables give, in order; they exist exactly if every variable gives one, and then
the grid has cells and alignment can be tested on it.  However an integer is rendered, a variable
that holds it gives it, if it is no less than the minimum.  Otherwise the first variable that is
refused is reported by its name, as a bad value. -/
theorem load_exact (env : Environment) :
    (∀ settings, Settings.load env = .ok settings ↔
      List.Forall₂ (fun setting value => setting.Gives env value) Setting.all settings.values) ∧
    ((∃ settings, Settings.load env = .ok settings) ↔
      ∀ setting ∈ Setting.all, ∃ value, setting.Gives env value) ∧
    (∀ settings, Settings.load env = .ok settings →
      0 < settings.grid.cellSize ∧ 0 < settings.grid.width ∧ 0 < settings.grid.height ∧
        0 ≤ settings.grid.maxX ∧ 0 ≤ settings.grid.maxY ∧
          ∀ x y : Int, ∃ aligned, settings.grid.aligns (.int x) (.int y) = .ok aligned) ∧
    (∀ setting ∈ Setting.all, ∀ text n, env setting.name = some text → Renders text.toList n →
      digitCount text.toList ≤ mostDigits → setting.minimum ≤ n →
        ∀ value, setting.Gives env value ↔ value = n) ∧
    (∀ fault, Settings.load env = .error fault ↔ ∃ earlier setting later,
      Setting.all = earlier ++ setting :: later ∧
        (∀ other ∈ earlier, ∃ value, other.Gives env value) ∧ setting.Refuses env fault ∧
          fault.kind = .value ∧ ∃ detail, fault.message = setting.name ++ detail) := by
  refine ⟨fun settings => load_eq_ok_iff, ?_, fun settings => grid_of_load, ?_, fun fault => ?_⟩
  · constructor
    · rintro ⟨settings, hload⟩ setting hsetting
      have hgiven := load_eq_ok_iff.mp hload
      generalize Setting.all = items at hgiven hsetting
      generalize settings.values = values at hgiven
      induction hgiven with
      | nil => cases hsetting
      | cons hfirst _ ih =>
          rcases List.mem_cons.mp hsetting with rfl | hrest
          · exact ⟨_, hfirst⟩
          · exact ih hrest
    · intro hall
      cases hload : Settings.load env with
      | ok settings => exact ⟨settings, rfl⟩
      | error fault =>
          obtain ⟨earlier, setting, later, hsplit, -, hrefused⟩ := load_eq_error_iff.mp hload
          obtain ⟨value, hvalue⟩ := hall setting (by simp [hsplit])
          have hread := Setting.read_of_gives hvalue
          rw [Setting.read_of_refuses hrefused] at hread
          cases hread
  · intro setting _ text n henv hrenders hfew hminimum value
    have hgiven : setting.Gives env n := .given henv ⟨hrenders.denotes, hfew⟩ hminimum
    exact ⟨fun h => h.unique hgiven, fun h => h ▸ hgiven⟩
  · refine load_eq_error_iff.trans ?_
    constructor
    · rintro ⟨earlier, setting, later, hsplit, hearlier, hrefused⟩
      exact ⟨earlier, setting, later, hsplit, hearlier, hrefused, hrefused.names⟩
    · rintro ⟨earlier, setting, later, hsplit, hearlier, hrefused, -⟩
      exact ⟨earlier, setting, later, hsplit, hearlier, hrefused⟩

/-- An environment with a cell size in two scripts and an underscore between white space, rows left
out by a separator, and a delay of minus zero. -/
def mixed : Environment
  | "BLOCKBOT_CELL_SIZE" => some "\u00a0+0_5\u0663\t"
  | "BLOCKBOT_GRID_ROWS" => some "\x1c"
  | "BLOCKBOT_STEP_DELAY_MS" => some "-0"
  | _ => none

/-- The settings of that environment; its cell size is a text for 53. -/
theorem load_exact_mixed :
    Settings.load mixed = .ok { grid := { cellSize := 53 }, stepDelay := 0 } ∧
      List.Forall₂ (fun setting value => setting.Gives mixed value) Setting.all
        [53, 16, 4, 32, 0, 200] ∧
      (∀ value, Setting.cellSize.Gives mixed value ↔ value = 53) ∧
      ∀ x y : Int, ∃ aligned,
        ({ cellSize := 53 } : Grid).aligns (.int x) (.int y) = .ok aligned := by
  have hload : Settings.load mixed = .ok { grid := { cellSize := 53 }, stepDelay := 0 } := by
    decide +kernel
  have hzero : IsDigit '0' 0 := digit?_eq_some_iff.mp (by decide)
  have hfive : IsDigit '5' 5 := digit?_eq_some_iff.mp (by decide)
  have hthree : IsDigit '\u0663' 3 := digit?_eq_some_iff.mp (by decide)
  have hbody : Spells ['0', '_', '5', '\u0663']
      (List.replicate 1 0 ++ (Nat.digits 10 (53 : Int).natAbs).reverse) := by
    norm_num
    exact .apart hzero (.next hfive (.last hthree))
  have hblank {c : Char} (hc : isBlank c = true) : ∀ d ∈ [c], isBlank d = true := by
    intro d hd
    rw [List.mem_singleton.mp hd]
    exact hc
  have hrenders : Renders "\u00a0+0_5\u0663\t".toList 53 :=
    @Renders.numeral 53 ['\u00a0'] ['0', '_', '5', '\u0663'] ['\t'] .plus 1 rfl
      (hblank (by decide)) hbody (hblank (by decide))
  obtain ⟨hgives, -, hgrid, hrendered, -⟩ := load_exact mixed
  exact ⟨hload, (hgives _).mp hload,
    hrendered Setting.cellSize List.mem_cons_self _ _ rfl hrenders (by decide +kernel) (by decide),
    (hgrid _ hload).2.2.2.2.2⟩

end Settings

end Gridwalk
