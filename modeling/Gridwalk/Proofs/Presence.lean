import Gridwalk.Proofs.Calls

/-!
# A context shows whether a run is in progress

Of every scene of every history the following is true of each context (`Scene.SoundAt`): its
phase is running exactly if one task holds a run on it, and then its signs are those of the step
that the run is at; otherwise they are those of an idle context.  If its actor is flagged as
held at the edge, then some task is inside that hold.

Between two operations only the task that goes on changes anything, within its contract
(`routine_meets`); the others rely on nothing that this can change.
-/

set_option autoImplicit false

namespace Gridwalk

namespace Scene

open Routine

/-- A task holds a run on a context: it was begun and has not ended. -/
def Runs (scene : Scene) (task name : String) : Prop :=
  ∃ role p next, scene.Holds task role p next ∧ role.context = name ∧
    role.call.program? ≠ none

/-- A task is inside a hold at the edge of a context. -/
def IsAtEdge (scene : Scene) (task name : String) : Prop :=
  ∃ role p next, scene.Holds task role p next ∧ role.context = name ∧ p.hold = .bounds

/-- What is always true of a context: its tasks are as their contracts ask, at most one of them
holds a run, and the signs are as the phase says. -/
structure SoundAt (crowd : Crowd) (scene : Scene) (name : String) : Prop where
  tasks : ∀ task role p next, scene.Holds task role p next → role.context = name →
    p.owner = name ∧
      (∀ ids, role.call.program? = some ids →
        role.call.IsUnderway crowd name ids p next scene.fleet) ∧
      ∀ answer f, (role.call.contract crowd name).rely scene.fleet f →
        (next answer).Meets (role.call.contract crowd name) ⟨some p, f⟩ f
  alone : ∀ task other, scene.Runs task name → scene.Runs other name → task = other
  started : (scene.fleet.contexts name).phase = .running → ∃ task, scene.Runs task name
  idle : (scene.fleet.contexts name).phase = .idle → scene.fleet.signs name = Signs.idle
  flag : scene.fleet.isFlagged name = true → ∃ task, scene.IsAtEdge task name

/-- What is always true of a scene. -/
def Sound (crowd : Crowd) (scene : Scene) : Prop :=
  scene.IsCast ∧ ∀ name, scene.SoundAt crowd name

section Steps

variable {crowd : Crowd} {scene scene' : Scene} {name task : String}

/-- A run that is underway shows it by its signs alone. -/
theorem isUnderway_of_signs {call : Call} {ids : List Phrase} {p : Pause}
    {next : Answer → Routine Fleet (Option RunResult)} {f g : Fleet}
    (h : call.IsUnderway crowd name ids p next f) (hsigns : g.signs name = f.signs name) :
    call.IsUnderway crowd name ids p next g := by
  obtain ⟨k, ⟨before, id, rest, k', hids, hrunning, hrest⟩, hnext⟩ := h
  exact ⟨k, ⟨before, id, rest, k', hids, hsigns.trans hrunning, hrest⟩, hnext⟩

/-- A context on which a task holds a run is running. -/
theorem SoundAt.running_of_runs (h : scene.SoundAt crowd name) (hruns : scene.Runs task name) :
    (scene.fleet.contexts name).phase = .running := by
  obtain ⟨role, p, next, hheld, hname, hrun⟩ := hruns
  obtain ⟨ids, hids⟩ := Option.ne_none_iff_exists'.mp hrun
  exact ((h.tasks task role p next hheld hname).2.1 ids hids).running

/-- Calls rely on nothing but the signs. -/
theorem rely_of_signs {call : Call} {f g h : Fleet} (hrely : (call.contract crowd name).rely g h)
    (hsigns : g.signs name = f.signs name) : (call.contract crowd name).rely f h := by
  unfold Call.contract at hrely ⊢
  cases hcall : call.program? with
  | none =>
      rw [hcall] at hrely
      exact trivial
  | some ids =>
      rw [hcall] at hrely
      exact Eq.trans hrely hsigns

/-- A command that is invoked by itself relies on nothing. -/
theorem rely_of_invoke {call : Call} (hcall : call.program? = none) (f g : Fleet) :
    (call.contract crowd name).rely f g := by
  unfold Call.contract
  rw [hcall]
  exact trivial

/-- Nothing changes for a context whose tasks and signs stay, and whose flag is not set. -/
theorem SoundAt.of_same (h : scene.SoundAt crowd name)
    (hsigns : scene'.fleet.signs name = scene.fleet.signs name)
    (hflag : scene'.fleet.isFlagged name = true → scene.fleet.isFlagged name = true)
    (htasks : ∀ task role p next, role.context = name →
      (scene'.Holds task role p next ↔ scene.Holds task role p next)) :
    scene'.SoundAt crowd name := by
  have hruns (task : String) : scene'.Runs task name ↔ scene.Runs task name := by
    constructor
    · rintro ⟨role, p, next, hheld, hname, hrun⟩
      exact ⟨role, p, next, (htasks task role p next hname).mp hheld, hname, hrun⟩
    · rintro ⟨role, p, next, hheld, hname, hrun⟩
      exact ⟨role, p, next, (htasks task role p next hname).mpr hheld, hname, hrun⟩
  have hphase : (scene'.fleet.contexts name).phase = (scene.fleet.contexts name).phase :=
    congrArg Signs.phase hsigns
  refine ⟨?_, ?_, ?_, ?_, ?_⟩
  · intro task role p next hheld hname
    obtain ⟨howner, hunderway, hmeets⟩ :=
      h.tasks task role p next ((htasks task role p next hname).mp hheld) hname
    refine ⟨howner, fun ids hids => isUnderway_of_signs (hunderway ids hids) hsigns, ?_⟩
    exact fun answer f hrely => hmeets answer f (rely_of_signs hrely hsigns)
  · intro task other htask hother
    exact h.alone task other ((hruns task).mp htask) ((hruns other).mp hother)
  · intro hrunning
    obtain ⟨task, htask⟩ := h.started (hphase ▸ hrunning)
    exact ⟨task, (hruns task).mpr htask⟩
  · intro hidle
    exact hsigns.trans (h.idle (hphase ▸ hidle))
  · intro hset
    obtain ⟨task, role, p, next, hheld, hname, hedge⟩ := h.flag (hflag hset)
    exact ⟨task, role, p, next, (htasks task role p next hname).mpr hheld, hname, hedge⟩

variable
  (hothers : ∀ other, other ≠ task → ∀ role p next,
    (scene'.Holds other role p next ↔ scene.Holds other role p next))

include hothers

/-- Another task runs on a context if it did before. -/
theorem runs_of_ne {other : String} (hother : other ≠ task) :
    scene'.Runs other name ↔ scene.Runs other name := by
  constructor
  · rintro ⟨role, p, next, hheld, hname, hrun⟩
    exact ⟨role, p, next, (hothers other hother role p next).mp hheld, hname, hrun⟩
  · rintro ⟨role, p, next, hheld, hname, hrun⟩
    exact ⟨role, p, next, (hothers other hother role p next).mpr hheld, hname, hrun⟩

/-- A flag that a task leaves behind is accounted for: by the task itself, or by one of the others
if the task was not the one that was inside a hold. -/
theorem atEdge_of_kept (h : scene.SoundAt crowd name)
    (hkept : scene'.IsAtEdge task name ∨
      scene.fleet.isFlagged name = true ∧ ¬scene.IsAtEdge task name) :
    ∃ other, scene'.IsAtEdge other name := by
  rcases hkept with hedge | ⟨hflag, hnot⟩
  · exact ⟨task, hedge⟩
  · obtain ⟨other, role, p, next, hheld, hname, hedge⟩ := h.flag hflag
    have hother : other ≠ task := by
      rintro rfl
      exact hnot ⟨role, p, next, hheld, hname, hedge⟩
    exact ⟨other, role, p, next, (hothers other hother role p next).mpr hheld, hname, hedge⟩

/-- A context stays sound if a task that holds no run on it goes on, and leaves its signs
alone. -/
theorem SoundAt.of_invoke (h : scene.SoundAt crowd name)
    (hsigns : scene'.fleet.signs name = scene.fleet.signs name)
    (hflag : scene'.fleet.isFlagged name = true → scene'.IsAtEdge task name ∨
      scene.fleet.isFlagged name = true ∧ ¬scene.IsAtEdge task name)
    (hbefore : ¬scene.Runs task name) (hafter : ¬scene'.Runs task name)
    (hown : ∀ role p next, scene'.Holds task role p next → role.context = name →
      p.owner = name ∧ ∀ answer f, (next answer).Meets (role.call.contract crowd name)
        ⟨some p, f⟩ f) :
    scene'.SoundAt crowd name := by
  have hruns (other : String) : scene'.Runs other name ↔ scene.Runs other name := by
    by_cases hother : other = task
    · rw [hother]
      exact ⟨fun hrun => absurd hrun hafter, fun hrun => absurd hrun hbefore⟩
    · exact runs_of_ne hothers hother
  have hphase : (scene'.fleet.contexts name).phase = (scene.fleet.contexts name).phase :=
    congrArg Signs.phase hsigns
  refine ⟨?_, ?_, ?_, ?_, fun hset => atEdge_of_kept hothers h (hflag hset)⟩
  · intro other role p next hheld hname
    by_cases hother : other = task
    · rw [hother] at hheld
      obtain ⟨howner, hmeets⟩ := hown role p next hheld hname
      refine ⟨howner, ?_, fun answer f _ => hmeets answer f⟩
      intro ids hids
      refine absurd ⟨role, p, next, hheld, hname, ?_⟩ hafter
      rw [hids]
      exact Option.some_ne_none ids
    · obtain ⟨howner, hunderway, hmeets⟩ :=
        h.tasks other role p next ((hothers other hother role p next).mp hheld) hname
      refine ⟨howner, fun ids hids => isUnderway_of_signs (hunderway ids hids) hsigns, ?_⟩
      exact fun answer f hrely => hmeets answer f (rely_of_signs hrely hsigns)
  · intro other third hfirst hsecond
    exact h.alone other third ((hruns other).mp hfirst) ((hruns third).mp hsecond)
  · intro hrunning
    obtain ⟨other, hother⟩ := h.started (hphase ▸ hrunning)
    exact ⟨other, (hruns other).mpr hother⟩
  · exact fun hidle => hsigns.trans (h.idle (hphase ▸ hidle))

/-- While only one task can hold a run on a context, all others are commands that were invoked by
themselves, and rely on nothing. -/
theorem tasks_of_sole (h : scene.SoundAt crowd name)
    (hsole : ∀ other, scene.Runs other name → other = task) {other : String} {role : Role}
    {p : Pause} {next : Answer → Routine Fleet (Option RunResult)} (hother : other ≠ task)
    (hheld : scene'.Holds other role p next) (hname : role.context = name) :
    p.owner = name ∧ role.call.program? = none ∧
      ∀ answer f, (next answer).Meets (role.call.contract crowd name) ⟨some p, f⟩ f := by
  have hbefore := (hothers other hother role p next).mp hheld
  obtain ⟨howner, -, hmeets⟩ := h.tasks other role p next hbefore hname
  have hcall : role.call.program? = none := by
    by_contra hrun
    exact hother (hsole other ⟨role, p, next, hbefore, hname, hrun⟩)
  exact ⟨howner, hcall, fun answer f => hmeets answer f (rely_of_invoke hcall _ _)⟩

/-- A context stays sound if the only task that can hold a run on it goes on and is held. -/
theorem SoundAt.of_held (h : scene.SoundAt crowd name)
    (hsole : ∀ other, scene.Runs other name → other = task)
    (hflag : scene'.fleet.isFlagged name = true → scene'.IsAtEdge task name ∨
      scene.fleet.isFlagged name = true ∧ ¬scene.IsAtEdge task name)
    {role : Role} {p : Pause} {next : Answer → Routine Fleet (Option RunResult)}
    {ids : List Phrase} (hheld : scene'.Holds task role p next) (hname : role.context = name)
    (hcall : role.call.program? = some ids) (howner : p.owner = name)
    (hunderway : role.call.IsUnderway crowd name ids p next scene'.fleet)
    (hmeets : ∀ answer f, (role.call.contract crowd name).rely scene'.fleet f →
      (next answer).Meets (role.call.contract crowd name) ⟨some p, f⟩ f) :
    scene'.SoundAt crowd name := by
  have hruns : scene'.Runs task name := by
    refine ⟨role, p, next, hheld, hname, ?_⟩
    rw [hcall]
    exact Option.some_ne_none ids
  have honly (other : String) (hother : scene'.Runs other name) : other = task := by
    by_contra hne
    exact hne (hsole other ((runs_of_ne hothers hne).mp hother))
  have hrunning : (scene'.fleet.contexts name).phase = .running := hunderway.running
  refine ⟨?_, ?_, fun _ => ⟨task, hruns⟩, ?_, fun hset => atEdge_of_kept hothers h (hflag hset)⟩
  · intro other role' p' next' hheld' hname'
    by_cases hother : other = task
    · rw [hother] at hheld'
      obtain rfl : role' = role := hheld'.role_eq hheld.1
      have hhalt := Option.some.inj (hheld'.2.symm.trans hheld.2)
      injection hhalt with hp hnext
      subst hp
      subst hnext
      refine ⟨howner, ?_, hmeets⟩
      intro ids' hids'
      obtain rfl : ids' = ids := Option.some.inj (hids'.symm.trans hcall)
      exact hunderway
    · obtain ⟨howner', hnone, hmeets'⟩ := tasks_of_sole hothers h hsole hother hheld' hname'
      refine ⟨howner', ?_, fun answer f _ => hmeets' answer f⟩
      intro ids' hids'
      rw [hnone] at hids'
      cases hids'
  · intro other third hfirst hsecond
    rw [honly other hfirst, honly third hsecond]
  · intro hidle
    rw [hrunning] at hidle
    cases hidle

/-- A context stays sound if the only task that can hold a run on it ends, with all signs
cleared. -/
theorem SoundAt.of_ended (h : scene.SoundAt crowd name)
    (hsole : ∀ other, scene.Runs other name → other = task)
    (hended : ∀ role p next, ¬scene'.Holds task role p next)
    (hsigns : scene'.fleet.signs name = Signs.idle)
    (hflag : scene'.fleet.isFlagged name = false) :
    scene'.SoundAt crowd name := by
  have hnone (other : String) : ¬scene'.Runs other name := by
    intro hruns
    have hother : other ≠ task := by
      rintro rfl
      obtain ⟨role, p, next, hheld, -⟩ := hruns
      exact hended role p next hheld
    exact hother (hsole other ((runs_of_ne hothers hother).mp hruns))
  have hidle : (scene'.fleet.contexts name).phase = .idle := congrArg Signs.phase hsigns
  refine ⟨?_, fun other _ hother => absurd hother (hnone other), ?_, fun _ => hsigns, ?_⟩
  · intro other role p next hheld hname
    have hother : other ≠ task := by
      rintro rfl
      exact hended role p next hheld
    obtain ⟨howner, hcall, hmeets⟩ := tasks_of_sole hothers h hsole hother hheld hname
    refine ⟨howner, ?_, fun answer f _ => hmeets answer f⟩
    intro ids hids
    rw [hcall] at hids
    cases hids
  · intro hrunning
    rw [hidle] at hrunning
    cases hrunning
  · intro hset
    rw [hflag] at hset
    cases hset

end Steps

/-! ## Tasks that go on -/

section Advance

variable {crowd : Crowd} {scene : Scene} {task : String} {role : Role} {q : Option Pause}
  {r : Routine Fleet (Option RunResult)}

/-- A run that goes on is the only one on its context. -/
theorem sole_of_began (hscene : scene.SoundAt crowd role.context)
    (hrole : scene.roles task = some role) (hcall : role.call.program? ≠ none)
    (hq : ∀ p, q = some p → ∃ next, scene.halt? task = some (.held p next))
    (hbegan : Fleet.Began role.context ⟨q, scene.fleet⟩) (other : String)
    (hother : scene.Runs other role.context) : other = task := by
  cases hpause : q with
  | some p =>
      obtain ⟨next, hhalt⟩ := hq p hpause
      exact hscene.alone other task hother ⟨role, p, next, ⟨hrole, hhalt⟩, rfl, hcall⟩
  | none =>
      have hidle : (scene.fleet.contexts role.context).phase = .idle := hbegan hpause
      cases hidle.symm.trans (hscene.running_of_runs hother)

/-- A task that goes on leaves other contexts as they are. -/
theorem contexts_advance_of_ne (task : String)
    (hr : r.Meets (role.call.contract crowd role.context) ⟨q, scene.fleet⟩ scene.fleet)
    {name : String} (hname : name ≠ role.context) :
    (scene.advance task r).fleet.contexts name = scene.fleet.contexts name := by
  have hsettle := settle_of_meets Fleet.suspend_open hr
  rw [fleet_advance]
  unfold Call.contract at hsettle
  cases hs : r.settle Fleet.suspend scene.fleet with
  | mk halt g =>
      rw [hs] at hsettle
      cases hcall : role.call.program? with
      | none =>
          rw [hcall] at hsettle
          cases halt with
          | ended result => exact hsettle.2.others name hname
          | held p next =>
              obtain ⟨u, rfl, hheld, -⟩ := hsettle
              exact hheld.2.others name hname
      | some ids =>
          rw [hcall] at hsettle
          cases halt with
          | ended result =>
              rcases hsettle with ⟨hcleared, -⟩ | ⟨-, hsame, -, -⟩
              · exact hcleared.others name hname
              · exact congrArg (fun f : Fleet => f.contexts name) hsame
          | held p next =>
              obtain ⟨u, rfl, hheld, -⟩ := hsettle
              exact hheld.1.others name hname

/-- A flag that was kept is not one of a hold that the task was in. -/
theorem not_isAtEdge (hq : ∀ p, q = some p ↔ ∃ next, scene.halt? task = some (.held p next))
    (hnot : ∀ p, q = some p → p.hold ≠ .bounds) (name : String) : ¬scene.IsAtEdge task name := by
  rintro ⟨role', p, next, hheld, -, hedge⟩
  exact hnot p ((hq p).mpr ⟨next, hheld.2⟩) hedge

/-- A command that was invoked by itself and goes on leaves its context sound. -/
theorem advance_soundAt_of_invoke (hscene : scene.SoundAt crowd role.context)
    (hrole : scene.roles task = some role) (hcall : role.call.program? = none)
    (hq : ∀ p, q = some p ↔ ∃ next, scene.halt? task = some (.held p next))
    (hr : r.Meets (role.call.contract crowd role.context) ⟨q, scene.fleet⟩ scene.fleet) :
    (scene.advance task r).SoundAt crowd role.context := by
  have hcontract : role.call.contract crowd role.context = Call.invokeContract role.context := by
    unfold Call.contract
    rw [hcall]
  have hsettle := settle_of_meets Fleet.suspend_open hr
  have hfleet := fleet_advance scene task r
  have hself := holds_advance_self scene task r
  have hnotRuns (scene' : Scene) (hroles : scene'.roles task = some role) :
      ¬scene'.Runs task role.context := by
    rintro ⟨role', p, next, hheld, -, hrun⟩
    obtain rfl : role' = role := hheld.role_eq hroles
    exact hrun hcall
  cases hs : r.settle Fleet.suspend scene.fleet with
  | mk halt g =>
      rw [hs, hcontract] at hsettle
      rw [hs] at hfleet hself
      change (scene.advance task r).fleet = g at hfleet
      refine SoundAt.of_invoke (fun other hother => holds_advance_of_ne scene r hother) hscene ?_ ?_
        (hnotRuns _ hrole) (hnotRuns _ hrole) ?_
      · rw [hfleet]
        cases halt with
        | ended result => exact hsettle.1
        | held p next =>
            obtain ⟨u, rfl, hheld, -⟩ := hsettle
            exact hheld.1
      · rw [hfleet]
        intro hset
        cases halt with
        | ended result =>
            obtain ⟨hbefore, hnot⟩ := hsettle.2.flag hset
            exact .inr ⟨hbefore, not_isAtEdge hq hnot _⟩
        | held p next =>
            obtain ⟨u, rfl, hheld, -⟩ := hsettle
            rcases hheld.2.flag hset with hedge | ⟨hbefore, hnot⟩
            · exact .inl ⟨role, p, next, (hself role p next).mpr ⟨hrole, rfl⟩, rfl, hedge⟩
            · exact .inr ⟨hbefore, not_isAtEdge hq hnot _⟩
      · intro role' p next hheld hname
        obtain ⟨hrole', hhalt⟩ := (hself role' p next).mp hheld
        obtain rfl : role' = role := Option.some.inj (hrole'.symm.trans hrole)
        change halt = .held p next at hhalt
        subst hhalt
        obtain ⟨u, -, hheld, hmeets⟩ := hsettle
        rw [hcontract]
        exact ⟨hheld.2.owner, fun answer f => hmeets answer f trivial⟩

/-- A run that goes on leaves its context sound. -/
theorem advance_soundAt_of_run (hscene : scene.SoundAt crowd role.context)
    (hrole : scene.roles task = some role) {ids : List Phrase}
    (hcall : role.call.program? = some ids)
    (hq : ∀ p, q = some p ↔ ∃ next, scene.halt? task = some (.held p next))
    (hr : r.Meets (role.call.contract crowd role.context) ⟨q, scene.fleet⟩ scene.fleet) :
    (scene.advance task r).SoundAt crowd role.context := by
  have hcontract : role.call.contract crowd role.context =
      role.call.runContract crowd role.context ids := by
    unfold Call.contract
    rw [hcall]
  have hsole := sole_of_began hscene hrole (by rw [hcall]; exact Option.some_ne_none ids)
    (fun p hp => (hq p).mp hp)
  have hsettle := settle_of_meets Fleet.suspend_open hr
  have hfleet := fleet_advance scene task r
  have hself := holds_advance_self scene task r
  cases hs : r.settle Fleet.suspend scene.fleet with
  | mk halt g =>
      rw [hs, hcontract] at hsettle
      rw [hs] at hfleet hself
      change (scene.advance task r).fleet = g at hfleet
      cases halt with
      | held p next =>
          obtain ⟨u, rfl, ⟨hkept, hbegan, hunderway⟩, hmeets⟩ := hsettle
          have hheld := (hself role p next).mpr ⟨hrole, rfl⟩
          refine SoundAt.of_held (fun other hother => holds_advance_of_ne scene r hother) hscene
            (hsole hbegan) ?_ hheld rfl hcall hkept.owner ?_ ?_
          · rw [hfleet]
            intro hset
            rcases hkept.flag hset with hedge | ⟨hbefore, hnot⟩
            · exact .inl ⟨role, p, next, hheld, rfl, hedge⟩
            · exact .inr ⟨hbefore, not_isAtEdge hq hnot _⟩
          · rw [hfleet]
            exact isUnderway_of_signs hunderway rfl
          · rw [hfleet, hcontract]
            exact fun answer f hf => hmeets answer f hf
      | ended result =>
          have hnone (role' : Role) (p : Pause)
              (next : Answer → Routine Fleet (Option RunResult)) :
              ¬(scene.advance task r).Holds task role' p next := by
            intro hheld
            cases ((hself role' p next).mp hheld).2
          rcases hsettle with ⟨hcleared, hbegan⟩ | ⟨hpause, hsame, -, -⟩
          · refine SoundAt.of_ended (fun other hother => holds_advance_of_ne scene r hother) hscene
              (hsole hbegan) hnone ?_ ?_
            · rw [hfleet]
              exact hcleared.signs
            · rw [hfleet]
              exact hcleared.flag
          · -- A run is refused only at its start, when it held nothing that could be missed.
            change g = scene.fleet at hsame
            rw [hsame] at hfleet
            change q = none at hpause
            refine hscene.of_same (by rw [hfleet]) (by rw [hfleet]; exact id) ?_
            intro other role' p next _
            by_cases hother : other = task
            · rw [hother]
              refine ⟨fun hheld => absurd hheld (hnone role' p next), fun hheld => ?_⟩
              have hp := (hq p).mpr ⟨next, hheld.2⟩
              rw [hpause] at hp
              cases hp
            · exact holds_advance_of_ne scene r hother role' p next

/-- A task that goes on within its contract leaves all contexts sound. -/
theorem advance_soundAt (hscene : ∀ name, scene.SoundAt crowd name)
    (hrole : scene.roles task = some role)
    (hq : ∀ p, q = some p ↔ ∃ next, scene.halt? task = some (.held p next))
    (hr : r.Meets (role.call.contract crowd role.context) ⟨q, scene.fleet⟩ scene.fleet)
    (name : String) : (scene.advance task r).SoundAt crowd name := by
  -- Other contexts are as before, and no task of theirs went on.
  by_cases hname : name = role.context
  · rw [hname]
    cases hcall : role.call.program? with
    | none => exact advance_soundAt_of_invoke (hscene _) hrole hcall hq hr
    | some ids => exact advance_soundAt_of_run (hscene _) hrole hcall hq hr
  · have hcontext := contexts_advance_of_ne task hr hname
    refine (hscene name).of_same ?_ ?_ ?_
    · unfold Fleet.signs
      rw [hcontext]
    · unfold Fleet.isFlagged
      rw [hcontext]
      exact id
    · intro other role' p next hname'
      by_cases hother : other = task
      · rw [hother]
        have hnot (scene' : Scene) (hroles : scene'.roles task = some role) :
            ¬scene'.Holds task role' p next := by
          intro hheld
          obtain rfl : role' = role := hheld.role_eq hroles
          exact hname hname'.symm
        exact ⟨fun h => absurd h (hnot _ hrole), fun h => absurd h (hnot _ hrole)⟩
      · exact holds_advance_of_ne scene r hother role' p next

end Advance

/-! ## Histories -/

section Histories

variable {crowd : Crowd} {scene : Scene}

/-- A call relies on what it finds when it goes on at once. -/
theorem rely_refl (call : Call) (name : String) (f : Fleet) :
    (call.contract crowd name).rely f f := by
  unfold Call.contract
  cases call.program? with
  | none => exact trivial
  | some ids => rfl

/-- A role that is given to a task that was not started leaves all contexts sound. -/
theorem Sound.recast (h : scene.Sound crowd) {task : String} (role : Role)
    (hnew : scene.roles task = none) (name : String) :
    (scene.recast task role).SoundAt crowd name :=
  (h.2 name).of_same rfl (fun hset => hset) fun other role' p next _ =>
    holds_recast (h.1 task hnew) role other role' p next

/-- A task that is started leaves a scene sound. -/
theorem Sound.start (h : scene.Sound crowd) {task : String} (role : Role)
    (hnew : scene.roles task = none) : (scene.start crowd task role).Sound crowd := by
  let cast : Scene := scene.recast task role
  have hrole : cast.roles task = some role := Function.update_self _ _ _
  refine ⟨h.1.start crowd task role, ?_⟩
  refine advance_soundAt (h.recast role hnew) hrole (q := none) ?_
    (Fleet.routine_meets crowd role.call scene.fleet)
  intro p
  constructor
  · intro hp
    cases hp
  · rintro ⟨next, hheld⟩
    rw [show cast.halt? task = none from h.1 task hnew] at hheld
    cases hheld

/-- A task that goes on leaves a scene sound. -/
theorem Sound.resume (h : scene.Sound crowd) {task : String} {p : Pause}
    {next : Answer → Routine Fleet (Option RunResult)}
    (hheld : scene.halt? task = some (.held p next)) (reply : Answer) :
    (scene.advance task (next reply)).Sound crowd := by
  obtain ⟨role, hholds⟩ := h.1.holds hheld
  obtain ⟨-, -, hmeets⟩ := (h.2 role.context).tasks task role p next hholds rfl
  refine ⟨h.1.advance hholds.1 _, advance_soundAt h.2 hholds.1 (q := some p) ?_
    (hmeets reply scene.fleet (rely_refl _ _ _))⟩
  intro p'
  rw [hheld]
  constructor
  · intro hp
    cases hp
    exact ⟨next, rfl⟩
  · rintro ⟨next', hnext'⟩
    cases hnext'
    rfl

/-- Whatever an operation does leaves a scene sound. -/
theorem Sound.takes (h : scene.Sound crowd) {op : Operation} {scene' : Scene}
    (htakes : scene.Takes crowd op scene') : scene'.Sound crowd := by
  have hsteer {f : Fleet} (hf : ∀ name, f.signs name = scene.fleet.signs name ∧
      (f.isFlagged name = true → scene.fleet.isFlagged name = true)) :
      ({ scene with fleet := f } : Scene).Sound crowd :=
    ⟨h.1, fun name => (h.2 name).of_same (hf name).1 (hf name).2 fun _ _ _ _ _ => Iff.rfl⟩
  cases htakes with
  | nothing => exact h
  | started role hnew => exact h.start role hnew
  | resumed hheld reply => exact h.resume hheld reply
  | placed hidle hcell =>
      rename_i context x y angle
      refine hsteer fun name => ?_
      by_cases hname : name = context
      · subst hname
        have hsigns := (h.2 name).idle hidle
        have hmoving : (scene.fleet.contexts name).actor.value.isMoving = false :=
          congrArg Signs.isMoving hsigns
        unfold Fleet.signs Fleet.isFlagged
        rw [Fleet.contexts_showActor_self, hmoving]
        exact ⟨rfl, fun hset => nomatch hset⟩
      · unfold Fleet.signs Fleet.isFlagged
        rw [Fleet.contexts_showActor_of_ne _ _ _ _ hname]
        exact ⟨rfl, id⟩
  | edited catalog =>
      rename_i context _ _ _
      refine hsteer fun name => ?_
      unfold Fleet.signs Fleet.isFlagged
      rw [Fleet.contexts_alter]
      split
      · next hname =>
          rw [hname]
          exact ⟨rfl, id⟩
      · exact ⟨rfl, id⟩
  | stored hkey store hothers => exact hsteer fun name => ⟨rfl, id⟩

/-- New contexts are sound. -/
theorem sound_fresh (crowd : Crowd) (setups : String → Setup) (store : Store) :
    (Scene.fresh setups store).Sound crowd := by
  refine ⟨isCast_fresh setups store, fun name => ⟨?_, ?_, ?_, fun _ => rfl, ?_⟩⟩
  · intro task role p next hheld
    cases hheld.1
  · rintro task other ⟨role, p, next, hheld, -⟩
    cases hheld.1
  · intro hrunning
    cases hrunning
  · intro hset
    cases hset

/-- After every history the scene is sound. -/
theorem sound_after (crowd : Crowd) (setups : String → Setup) (store : Store)
    (history : List Operation) : ((Scene.fresh setups store).after crowd history).Sound crowd :=
  always_of_takes (sound_fresh crowd setups store) (fun _ _ _ h htakes => h.takes htakes) history

/-- When a run ends, its context has no signs of it any more, unless the run was refused. -/
theorem ended_advance {task : String} {role : Role} {q : Option Pause}
    {r : Routine Fleet (Option RunResult)} (hcall : role.call.program? ≠ none)
    (hr : r.Meets (role.call.contract crowd role.context) ⟨q, scene.fleet⟩ scene.fleet)
    {result : Except Fault (Option RunResult)}
    (hended : (scene.advance task r).halt? task = some (.ended result)) :
    (scene.advance task r).fleet.signs role.context = Signs.idle ∧
        (scene.advance task r).fleet.isFlagged role.context = false ∨
      role.call.IsRefused role.context ⟨q, scene.fleet⟩ result (scene.advance task r).fleet := by
  obtain ⟨ids, hids⟩ := Option.ne_none_iff_exists'.mp hcall
  have hcontract : role.call.contract crowd role.context =
      role.call.runContract crowd role.context ids := by
    unfold Call.contract
    rw [hids]
  rw [hcontract] at hr
  rcases ended_of_advance hr hended with ⟨hcleared, -⟩ | hrefused
  · exact .inl ⟨hcleared.signs, hcleared.flag⟩
  · exact .inr hrefused

end Histories

end Scene

/-! ## Foreign values -/

namespace Fleet

/-- No actor has foreign values. -/
def IsPlain (f : Fleet) : Prop :=
  ∀ name, (f.contexts name).actor.value.foreign = []

namespace IsPlain

variable {f : Fleet} (name : String)

/-- Changes of a context that leave its actor alone bring no foreign values. -/
theorem alter (h : f.IsPlain) {g : Context → Context}
    (hactor : (g (f.contexts name)).actor.value = (f.contexts name).actor.value) :
    (f.alter name g).IsPlain := by
  intro other
  rw [contexts_alter]
  split
  · rw [hactor]
    exact h name
  · exact h other

/-- Showing an actor without foreign values brings none. -/
theorem showActor (h : f.IsPlain) {actor : Actor} (hactor : actor.foreign = []) :
    (f.showActor name actor).IsPlain := by
  intro other
  by_cases hother : other = name
  · rw [hother, contexts_showActor_self]
    exact hactor
  · rw [contexts_showActor_of_ne f name other actor hother]
    exact h other

/-- A change that names no foreign value brings none. -/
theorem change (h : f.IsPlain) (c : Actor.Change) (hc : c.foreign = []) :
    (f.change name c).IsPlain :=
  h.showActor name (Actor.foreign_apply (h name) hc)

/-- A position that is shown brings no foreign value. -/
theorem showIndex (h : f.IsPlain) (position : Position) : (f.showIndex name position).IsPlain :=
  IsPlain.alter name h (g := fun c =>
    { c with activeIndex := { c.activeIndex with value := position } }) rfl

/-- A record brings no foreign value. -/
theorem note (h : f.IsPlain) (occurrence : Occurrence) : (f.note name occurrence).IsPlain := by
  refine h.alter name ?_
  have hactor := actor_note f name occurrence
  rw [Fleet.note, contexts_alter_self] at hactor
  rw [hactor]

/-- Nobody brings foreign values. -/
theorem bears (name : String) : (Regime.upholding IsPlain).Bears name where
  calm := by
    intro o f g h hcalm
    have hf : f.IsPlain := h
    cases hcalm with
    | counted => exact hf.alter name rfl
    | skipped id parent => exact hf.note name _
    | blocked hsign htarget hout => exact hf.note name _
    | moved hsign htarget hin =>
        rw [Actor.target_of_foreign_eq_nil (hf name)] at htarget
        cases htarget
        exact hf.change name _ rfl
    | turned hangle =>
        rw [Actor.turned_of_foreign_eq_nil (hf name)] at hangle
        cases hangle
        exact hf.change name _ rfl
  step h := h
  afterStep _ hg := hg
  edge h := IsPlain.change name h (.hold true) rfl
  afterEdge _ hg := IsPlain.change name hg (.hold false) rfl
  formal := by
    intro o f g h hformal
    have hf : f.IsPlain := h
    cases hformal with
    | begun run ids => exact hf.alter name rfl
    | moving => exact hf.change name _ rfl
    | indexed position => exact hf.showIndex name position
    | recorded hocc => exact hf.note name _
    | cleared => exact ((hf.showIndex name _).change name _ rfl).alter name rfl
    | concluded outcome =>
        rw [concluded_eq]
        exact (hf.note name _).alter name rfl

end IsPlain

end Fleet

/-- After every history no actor has foreign values. -/
theorem Scene.isPlain_after (crowd : Crowd) (setups : String → Setup) (store : Store)
    (history : List Operation) :
    ((Scene.fresh setups store).after crowd history).fleet.IsPlain := by
  refine always_of_bears Fleet.IsPlain.bears ?_ ?_ ?_ ?_ crowd (fun _ => rfl) history
  · exact fun f p h => h
  · exact fun f store h => h
  · exact fun f name x y angle h _ => Fleet.IsPlain.showActor name h rfl
  · exact fun f name catalog h => Fleet.IsPlain.alter name h rfl

/-- After every history a context is running exactly if one task holds a run on it.  Such a run
is underway: it is at a pause of one of its steps, the actor is shown to be moved, and the
position is that of the step.  An idle context shows no position and no moved actor, and an actor
is flagged as held at the edge only if a task is inside that hold.  When a run ends after a
pause, in whichever way, the context is idle and all of this is cleared; so it is when a run that
is started ends at once, unless it is refused with nothing changed. -/
theorem Scene.presence_after (crowd : Crowd) (setups : String → Setup) (store : Store)
    (history : List Operation) (name : String) :
    let scene := (Scene.fresh setups store).after crowd history
    (scene.fleet.contexts name).actor.value.foreign = [] ∧
      ((scene.fleet.contexts name).phase = .running ↔ ∃! task, scene.Runs task name) ∧
      (∀ task role p next ids, scene.Holds task role p next → role.context = name →
        role.call.program? = some ids →
        role.call.IsUnderway crowd name ids p next scene.fleet) ∧
      ((scene.fleet.contexts name).phase = .idle → scene.fleet.signs name = Signs.idle) ∧
      (scene.fleet.isFlagged name = true → ∃ task, scene.IsAtEdge task name) ∧
      (∀ task role reply result, scene.Runs task name →
        (scene.step crowd (.answer task reply)).Ended task role result →
        (scene.step crowd (.answer task reply)).fleet.signs name = Signs.idle ∧
          (scene.step crowd (.answer task reply)).fleet.isFlagged name = false) ∧
      (∀ task role result, scene.roles task = none → role.context = name →
        role.call.program? ≠ none →
        (scene.step crowd (.launch task role)).Ended task role result →
        (scene.step crowd (.launch task role)).fleet.signs name = Signs.idle ∧
            (scene.step crowd (.launch task role)).fleet.isFlagged name = false ∨
          role.call.IsRefused name ⟨none, scene.fleet⟩ result
            (scene.step crowd (.launch task role)).fleet) := by
  intro scene
  have hsound : scene.Sound crowd := sound_after crowd setups store history
  have hname := hsound.2 name
  refine ⟨isPlain_after crowd setups store history name, ⟨?_, ?_⟩, ?_, hname.idle, hname.flag, ?_,
    ?_⟩
  · intro hrunning
    obtain ⟨task, htask⟩ := hname.started hrunning
    exact ⟨task, htask, fun other hother => hname.alone other task hother htask⟩
  · rintro ⟨task, htask, -⟩
    exact hname.running_of_runs htask
  · exact fun task role p next ids hheld hcontext =>
      (hname.tasks task role p next hheld hcontext).2.1 ids
  · rintro task role reply result ⟨role', p, next, hheld, hcontext, hrun⟩ hended
    rw [step_answer_of_held hheld.2] at hended ⊢
    obtain rfl : role = role' := (hheld.role_eq hended.1).symm
    subst hcontext
    have hmeets := (hname.tasks task role p next hheld rfl).2.2 reply scene.fleet (rely_refl _ _ _)
    rcases ended_advance hrun hmeets hended.2 with hcleared | hrefused
    · exact hcleared
    · cases hrefused.first
  · intro task role result hnew hcontext hrun hended
    subst hcontext
    have hstep : scene.step crowd (.launch task role) = scene.start crowd task role := by
      simp only [step, hnew]
    rw [hstep] at hended ⊢
    exact ended_advance hrun (Fleet.routine_meets crowd role.call scene.fleet) hended.2

/-- While a run is held at a pause, a second one is refused, and the context stays with the
first. -/
theorem Scene.presence_after_launch :
    let scene := (Scene.fresh (fun _ => {}) {}).after .quiet [
      .launch "t" ⟨"a", .execute (.ofNat 0) ["moveForward"]⟩,
      .launch "u" ⟨"a", .execute (.ofNat 1) ["moveForward"]⟩]
    (scene.fleet.contexts "a").phase = .running ∧ ∃! task, scene.Runs task "a" := by
  intro scene
  have hrunning : (scene.fleet.contexts "a").phase = .running := by decide
  exact ⟨hrunning, (Scene.presence_after .quiet (fun _ => {}) {} [
    .launch "t" ⟨"a", .execute (.ofNat 0) ["moveForward"]⟩,
    .launch "u" ⟨"a", .execute (.ofNat 1) ["moveForward"]⟩] "a").2.1.mp hrunning⟩

end Gridwalk
