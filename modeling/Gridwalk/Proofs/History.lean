import Gridwalk.Proofs.Amendment
import Gridwalk.Proofs.Fleet
import Gridwalk.Proofs.RoutineContracts

/-!
# Histories

A history is a list of operations on a fleet and on the tasks that were started over it.  A
task runs a program, under a lease or without one, or invokes a command by itself; it is
stopped at each of its pauses until an operation answers it.  In between tasks are started,
actors reset, loops edited, and the store is written to by others.  A pause that is answered
at once is one that the next operation answers.

`Scene.Takes` says once what an operation can do to a scene.  What is true of every scene of
every history is proved by `Scene.always_of_takes`: it is true at first, and nothing that an
operation can do makes it false.
-/

set_option autoImplicit false

namespace Gridwalk

/-- What a task is started to do in a context. -/
inductive Call where
  /-- To run a program. -/
  | execute (run : RunId) (ids : List Phrase)
  /-- To run a program under the lease of a session. -/
  | dispatch (ticket : Ticket) (ids : List Phrase)
  /-- To invoke a command by itself. -/
  | invoke (command : Command)

namespace Call

/-- The program that a call runs, if it runs one. -/
def program? : Call → Option (List Phrase)
  | .execute _ ids => some ids
  | .dispatch _ ids => some ids
  | .invoke _ => none

/-- What a call does on a stage. -/
def routine {σ : Type} (stage : Stage σ) (store : Place σ Store) :
    Call → Routine σ (Option RunResult)
  | .execute run ids => do
      let result ← stage.execute run ids
      return some result
  | .dispatch ticket ids => do
      let result ← stage.dispatch store ticket ids
      return some result
  | .invoke command => do
      stage.invoke command
      return none

end Call

/-- What a task was started for: a context and a call. -/
structure Role where
  context : String
  call : Call

/-- A fleet with the tasks that were started over it. -/
structure Scene where
  fleet : Fleet
  schedule : Schedule Fleet (Option RunResult) := {}
  /-- What the tasks were started for, by their names. -/
  roles : String → Option Role := fun _ => none

/-- Something that is done to a scene. -/
inductive Operation where
  /-- A task of a new name is started. -/
  | launch (task : String) (role : Role)
  /-- The pause at which a task is held is answered. -/
  | answer (task : String) (reply : Answer)
  /-- The actor of a context is to be reset. -/
  | reset (context : String) (x y angle : Int)
  /-- A loop of a context is to be edited; a guarded edit is refused during runs. -/
  | edit (context id : String) (edit : Loop.Edit) (guarded : Bool)
  /-- Somebody else sets a text in the store. -/
  | write (key value : String)
  /-- Somebody else deletes a key of the store, or the key expires. -/
  | erase (key : String)

/-- The key of the store to which an operation writes for somebody else. -/
def Operation.key? : Operation → Option String
  | .write key _ => some key
  | .erase key => some key
  | _ => none

namespace Scene

/-- Where the task of a name stands still. -/
def halt? (scene : Scene) (task : String) : Option (Halt Fleet (Option RunResult)) :=
  (scene.schedule.find? task).map Task.halt

/-- A task is in progress: it was started for a role, and is held at a pause. -/
def Holds (scene : Scene) (task : String) (role : Role) (p : Pause)
    (next : Answer → Routine Fleet (Option RunResult)) : Prop :=
  scene.roles task = some role ∧ scene.halt? task = some (.held p next)

/-- A task of a role has ended. -/
def Ended (scene : Scene) (task : String) (role : Role) (result : Except Fault (Option RunResult)) :
    Prop :=
  scene.roles task = some role ∧ scene.halt? task = some (.ended result)

/-- Lets a routine go on, as the task of a name, until it is held again or ends. -/
def advance (scene : Scene) (task : String) (r : Routine Fleet (Option RunResult)) : Scene :=
  { scene with
    schedule := (scene.schedule.advance Fleet.suspend task r scene.fleet).1
    fleet := (scene.schedule.advance Fleet.suspend task r scene.fleet).2 }

/-- The scene in which a task was given a role. -/
def recast (scene : Scene) (task : String) (role : Role) : Scene :=
  { scene with roles := Function.update scene.roles task (some role) }

/-- Starts a task for a role. -/
def start (crowd : Crowd) (scene : Scene) (task : String) (role : Role) : Scene :=
  (scene.recast task role).advance task
    (role.call.routine (Fleet.stage crowd role.context) Fleet.storePlace)

/-- Does an act that is no task. -/
def perform {α : Type} (scene : Scene) (act : Act Fleet α) : Scene :=
  { scene with fleet := (act scene.fleet).2 }

/-- Does an operation. -/
def step (crowd : Crowd) (scene : Scene) : Operation → Scene
  | .launch task role =>
      match scene.roles task with
      | some _ => scene
      | none => scene.start crowd task role
  | .answer task reply =>
      match scene.schedule.answer Fleet.suspend task reply scene.fleet with
      | some (schedule, fleet) => { scene with schedule, fleet }
      | none => scene
  | .reset context x y angle =>
      scene.perform ((Fleet.stage crowd context).resetActor x y angle)
  | .edit context id edit guarded =>
      if guarded then scene.perform ((Fleet.stage crowd context).editLoop id edit)
      else scene.perform ((Fleet.stage crowd context).updateLoop id edit)
  | .write key value =>
      scene.perform (Act.modify Fleet.storePlace fun store => store.setText key value)
  | .erase key => scene.perform (Act.modify Fleet.storePlace fun store => store.erase key)

/-- Does the operations of a history in turn. -/
def after (crowd : Crowd) (scene : Scene) (history : List Operation) : Scene :=
  history.foldl (step crowd) scene

end Scene

/-- What a new context is made of. -/
structure Setup where
  catalog : Catalog := .default
  settings : Settings := {}
  actorObservers : List String := []
  indexObservers : List String := []

/-- A new context. -/
def Setup.context (setup : Setup) : Context where
  catalog := setup.catalog
  settings := setup.settings
  actor := { value := {}, observers := setup.actorObservers }
  activeIndex := { value := .index idleIndex, observers := setup.indexObservers }

/-- New contexts over a store, without tasks. -/
def Scene.fresh (setups : String → Setup) (store : Store) : Scene where
  fleet := { contexts := fun name => (setups name).context, store }

/-! ## Tasks -/

namespace Schedule

variable {σ α : Type}

/-- Another task of a name takes its place; the other tasks stay. -/
theorem find?_insert (schedule : Schedule σ α) (name : String) (halt : Halt σ α)
    (other : String) :
    (schedule.insert name halt).find? other =
      if other = name then some ⟨name, halt⟩ else schedule.find? other := by
  unfold insert find?
  rw [List.find?_append]
  by_cases h : other = name
  · subst h
    have hnone : (schedule.tasks.filter fun task => task.name != other).find?
        (fun task => task.name == other) = none := by
      rw [List.find?_eq_none]
      intro task htask
      have hne := (List.mem_filter.mp htask).2
      simpa using hne
    simp [hnone]
  · have hname : (name == other) = false := by simpa using Ne.symm h
    have hrest : (schedule.tasks.filter fun task => task.name != name).find?
        (fun task => task.name == other) =
          schedule.tasks.find? fun task => task.name == other := by
      rw [List.find?_filter]
      congr 1
      funext task
      by_cases htask : task.name = other
      · simp [htask, h]
      · simp [htask]
    rw [hrest]
    simp [h, hname]

end Schedule

namespace Scene

open Routine

section Views

variable (scene : Scene) (task : String) (r : Routine Fleet (Option RunResult))

/-- The fleet after a task goes on is the one in which it comes to a stop. -/
theorem fleet_advance :
    (scene.advance task r).fleet = (r.settle Fleet.suspend scene.fleet).2 := rfl

/-- Where tasks stand still after one went on. -/
theorem halt?_advance (other : String) :
    (scene.advance task r).halt? other =
      if other = task then some (r.settle Fleet.suspend scene.fleet).1 else scene.halt? other := by
  have hschedule : (scene.advance task r).schedule =
      scene.schedule.insert task (r.settle Fleet.suspend scene.fleet).1 := rfl
  unfold halt?
  rw [hschedule, Schedule.find?_insert]
  split <;> rfl

/-- Other tasks are held as they were when a task went on. -/
theorem holds_advance_of_ne {task other : String} (hother : other ≠ task) (role : Role) (p : Pause)
    (next : Answer → Routine Fleet (Option RunResult)) :
    (scene.advance task r).Holds other role p next ↔ scene.Holds other role p next := by
  unfold Holds
  rw [halt?_advance, if_neg hother]
  exact Iff.rfl

/-- A task that went on is held where it stands still. -/
theorem holds_advance_self (role : Role) (p : Pause)
    (next : Answer → Routine Fleet (Option RunResult)) :
    (scene.advance task r).Holds task role p next ↔
      scene.roles task = some role ∧ (r.settle Fleet.suspend scene.fleet).1 = .held p next := by
  unfold Holds
  rw [halt?_advance, if_pos rfl, Option.some.injEq]
  exact Iff.rfl

variable {scene task r}

/-- A task that went on within a contract is held as the contract asks, and left to it. -/
theorem meets_of_holds_advance {c : Contract Fleet (Option RunResult)} {o : Origin Fleet}
    (hr : r.Meets c o scene.fleet) {role : Role} {p : Pause}
    {next : Answer → Routine Fleet (Option RunResult)}
    (hheld : (scene.advance task r).Holds task role p next) :
    ∃ u, (scene.advance task r).fleet = u.noted p ∧ c.held o p next u ∧
      ∀ answer f, c.rely u f → (next answer).Meets c ⟨some p, f⟩ f := by
  have hsettle := settle_of_meets Fleet.suspend_open hr
  have hhalt := ((holds_advance_self scene task r role p next).mp hheld).2
  rw [fleet_advance]
  cases hs : r.settle Fleet.suspend scene.fleet with
  | mk halt g =>
      rw [hs] at hsettle hhalt
      obtain rfl : halt = .held p next := hhalt
      exact hsettle

/-- A task that went on within a contract ends as the contract asks. -/
theorem ended_of_advance {c : Contract Fleet (Option RunResult)} {o : Origin Fleet}
    (hr : r.Meets c o scene.fleet) {result : Except Fault (Option RunResult)}
    (hended : (scene.advance task r).halt? task = some (.ended result)) :
    c.ended o result (scene.advance task r).fleet := by
  have hsettle := settle_of_meets Fleet.suspend_open hr
  rw [halt?_advance, if_pos rfl] at hended
  rw [fleet_advance]
  cases hs : r.settle Fleet.suspend scene.fleet with
  | mk halt g =>
      rw [hs] at hsettle hended
      obtain rfl : halt = .ended result := Option.some.inj hended
      exact hsettle

end Views

/-- A task is in progress for the one role that it was started for. -/
theorem Holds.role_eq {scene : Scene} {task : String} {role role' : Role} {p : Pause}
    {next : Answer → Routine Fleet (Option RunResult)} (h : scene.Holds task role p next)
    (hrole : scene.roles task = some role') : role = role' :=
  Option.some.inj (h.1.symm.trans hrole)

/-- Every task that stands still somewhere was started for a role. -/
def IsCast (scene : Scene) : Prop :=
  ∀ task, scene.roles task = none → scene.halt? task = none

section Casts

variable {scene : Scene} {task : String}

/-- A role that is given to a task that was not started makes no difference to what is held. -/
theorem holds_recast (hnew : scene.halt? task = none) (role : Role) (other : String) (role' : Role)
    (p : Pause) (next : Answer → Routine Fleet (Option RunResult)) :
    (scene.recast task role).Holds other role' p next ↔ scene.Holds other role' p next := by
  by_cases hother : other = task
  · rw [hother]
    have hnot (scene' : Scene) (hsame : scene'.halt? task = none) :
        ¬scene'.Holds task role' p next := by
      intro hheld
      rw [hheld.2] at hsame
      cases hsame
    exact ⟨fun h => absurd h (hnot _ hnew), fun h => absurd h (hnot _ hnew)⟩
  · have hroles : (scene.recast task role).roles other = scene.roles other :=
      Function.update_of_ne hother _ _
    unfold Holds
    rw [hroles]
    exact Iff.rfl

/-- A task that is held is in progress for a role. -/
theorem IsCast.holds (h : scene.IsCast) {p : Pause}
    {next : Answer → Routine Fleet (Option RunResult)}
    (hheld : scene.halt? task = some (.held p next)) : ∃ role, scene.Holds task role p next := by
  cases hrole : scene.roles task with
  | none =>
      rw [h task hrole] at hheld
      cases hheld
  | some role => exact ⟨role, hrole, hheld⟩

/-- In the beginning no task has a role. -/
theorem isCast_fresh (setups : String → Setup) (store : Store) :
    (Scene.fresh setups store).IsCast :=
  fun _ _ => rfl

/-- A task with a role that goes on leaves every task with one. -/
theorem IsCast.advance (h : scene.IsCast) {role : Role} (hrole : scene.roles task = some role)
    (r : Routine Fleet (Option RunResult)) : (scene.advance task r).IsCast := by
  intro other hother
  have hne : other ≠ task := by
    rintro rfl
    change scene.roles other = none at hother
    rw [hrole] at hother
    cases hother
  rw [halt?_advance, if_neg hne]
  exact h other hother

/-- A task that is started has a role. -/
theorem IsCast.start (h : scene.IsCast) (crowd : Crowd) (task : String) (role : Role) :
    (scene.start crowd task role).IsCast := by
  have hrole : (scene.recast task role).roles task = some role := Function.update_self _ _ _
  intro other hother
  have hne : other ≠ task := by
    rintro rfl
    rw [show (scene.start crowd other role).roles other = some role from hrole] at hother
    cases hother
  have hroles : (scene.recast task role).roles other = scene.roles other :=
    Function.update_of_ne hne _ _
  show ((scene.recast task role).advance task _).halt? other = none
  rw [halt?_advance, if_neg hne]
  exact h other (hroles ▸ hother)

end Casts

variable {crowd : Crowd} {scene : Scene}

/-- An answer lets the task go on that is held. -/
theorem step_answer_of_held {task : String} {p : Pause}
    {next : Answer → Routine Fleet (Option RunResult)}
    (hheld : scene.halt? task = some (.held p next)) (reply : Answer) :
    scene.step crowd (.answer task reply) = scene.advance task (next reply) := by
  obtain ⟨found, hfind, hhalt⟩ := Option.map_eq_some_iff.mp hheld
  have hanswer : scene.schedule.answer Fleet.suspend task reply scene.fleet =
      some (scene.schedule.advance Fleet.suspend task (next reply) scene.fleet) := by
    simp [Schedule.answer, hfind, hhalt]
  show (match scene.schedule.answer Fleet.suspend task reply scene.fleet with
    | some (schedule, fleet) => { scene with schedule, fleet }
    | none => scene) = _
  rw [hanswer]
  rfl

/-- A task that is not held is not answered. -/
theorem step_answer_of_not_held {task : String}
    (hnot : ∀ p next, scene.halt? task ≠ some (.held p next)) (reply : Answer) :
    scene.step crowd (.answer task reply) = scene := by
  have hanswer : scene.schedule.answer Fleet.suspend task reply scene.fleet = none := by
    unfold Schedule.answer
    cases hfind : scene.schedule.find? task with
    | none => rfl
    | some found =>
        cases hhalt : found.halt with
        | ended result => simp [hhalt]
        | held p next =>
            refine absurd ?_ (hnot p next)
            rw [halt?, hfind, Option.map_some, hhalt]
  show (match scene.schedule.answer Fleet.suspend task reply scene.fleet with
    | some (schedule, fleet) => { scene with schedule, fleet }
    | none => scene) = _
  rw [hanswer]

/-- What an operation can do to a scene. -/
inductive Takes (crowd : Crowd) (scene : Scene) : Operation → Scene → Prop
  /-- Nothing. -/
  | nothing (op : Operation) : Takes crowd scene op scene
  /-- A task is started. -/
  | started {task : String} (role : Role) (hnew : scene.roles task = none) :
      Takes crowd scene (.launch task role) (scene.start crowd task role)
  /-- A task goes on. -/
  | resumed {task : String} {p : Pause} {next : Answer → Routine Fleet (Option RunResult)}
      (hheld : scene.halt? task = some (.held p next)) (reply : Answer) :
      Takes crowd scene (.answer task reply) (scene.advance task (next reply))
  /-- The actor of an idle context is put on a cell. -/
  | placed {context : String} {x y angle : Int}
      (hidle : (scene.fleet.contexts context).phase = .idle)
      (hcell : Stage.requireCell (scene.fleet.contexts context).settings.grid (.int x) (.int y) =
        .ok ()) :
      Takes crowd scene (.reset context x y angle)
        { scene with fleet := scene.fleet.showActor context { x, y, angle } }
  /-- The catalog of a context is replaced by one with an edited loop. -/
  | edited {context id : String} {edit : Loop.Edit} {guarded : Bool} (catalog : Catalog) :
      Takes crowd scene (.edit context id edit guarded)
        { scene with fleet := scene.fleet.alter context fun c => { c with catalog } }
  /-- A key of the store is set or deleted by somebody else. -/
  | stored {op : Operation} {key : String} (hkey : op.key? = some key) (store : Store)
      (hothers : ∀ other, other ≠ key → store.find other = scene.fleet.store.find other) :
      Takes crowd scene op { scene with fleet := { scene.fleet with store } }

/-- A reset either does nothing or puts the actor on a cell. -/
theorem resetActor_cases (crowd : Crowd) (name : String) (x y angle : Int) (f : Fleet) :
    ((Fleet.stage crowd name).resetActor x y angle f).2 = f ∨
      (f.contexts name).phase = .idle ∧
        Stage.requireCell (f.contexts name).settings.grid (.int x) (.int y) = .ok () ∧
        ((Fleet.stage crowd name).resetActor x y angle f).2 = f.showActor name { x, y, angle } := by
  have hreset : (Fleet.stage crowd name).resetActor x y angle f =
      if (f.contexts name).phase.isRunning = true then (.error .resetWhileRunning, f)
      else
        Act.bind (Act.ofExcept (Stage.requireCell (f.contexts name).settings.grid (.int x)
          (.int y))) (fun _ => Act.bind ((Fleet.stage crowd name).setActor { x, y, angle })
            fun _ => Act.pure { x, y, angle }) f := by
    simp only [Stage.resetActor, Stage.resetActorTo, bind, Act.bind, Fleet.read_eq]
    cases (f.contexts name).phase <;> rfl
  rw [hreset]
  cases hphase : (f.contexts name).phase with
  | running => exact .inl rfl
  | idle =>
      cases hcell : Stage.requireCell (f.contexts name).settings.grid (.int x) (.int y) with
      | error fault => exact .inl rfl
      | ok u =>
          refine .inr ⟨rfl, rfl, ?_⟩
          show (Act.bind ((Fleet.stage crowd name).setActor { x, y, angle }) _ f).2 = _
          simp only [Act.bind, Fleet.setActor_eq]
          rfl

/-- An edit either does nothing or replaces the catalog. -/
theorem updateLoop_cases (crowd : Crowd) (name id : String) (edit : Loop.Edit) (f : Fleet) :
    ((Fleet.stage crowd name).updateLoop id edit f).2 = f ∨
      ∃ catalog, ((Fleet.stage crowd name).updateLoop id edit f).2 =
        f.alter name fun c => { c with catalog } := by
  rw [Stage.updateLoop_eq]
  cases ((Fleet.stage crowd name).context.get f).catalog.updateLoop id edit with
  | error fault => exact .inl rfl
  | ok result => exact .inr ⟨result.2, rfl⟩

/-- A guarded edit does nothing or what an unguarded one does. -/
theorem editLoop_cases (crowd : Crowd) (name id : String) (edit : Loop.Edit) (f : Fleet) :
    ((Fleet.stage crowd name).editLoop id edit f).2 = f ∨
      ((Fleet.stage crowd name).editLoop id edit f).2 =
        ((Fleet.stage crowd name).updateLoop id edit f).2 := by
  have hguard : (Fleet.stage crowd name).requireIdle f =
      (if (f.contexts name).phase.isRunning = true then Act.fail .runInProgress
        else Act.pure ()) f := rfl
  show (Act.bind (Fleet.stage crowd name).requireIdle _ f).2 = f ∨
    (Act.bind (Fleet.stage crowd name).requireIdle _ f).2 = _
  unfold Act.bind
  rw [hguard]
  cases (f.contexts name).phase with
  | idle => exact .inr rfl
  | running => exact .inl rfl

/-- What leaves the fleet alone leaves the scene alone. -/
theorem perform_of_unchanged {α : Type} {act : Act Fleet α}
    (h : (act scene.fleet).2 = scene.fleet) : scene.perform act = scene := by
  unfold perform
  rw [h]

/-- An operation does one of these things. -/
theorem step_takes (crowd : Crowd) (scene : Scene) (op : Operation) :
    scene.Takes crowd op (scene.step crowd op) := by
  cases op with
  | launch task role =>
      cases hrole : scene.roles task with
      | none =>
          have hstep : scene.step crowd (.launch task role) = scene.start crowd task role := by
            simp only [step, hrole]
          rw [hstep]
          exact .started role hrole
      | some old =>
          have hstep : scene.step crowd (.launch task role) = scene := by
            simp only [step, hrole]
          rw [hstep]
          exact .nothing _
  | answer task reply =>
      by_cases hheld : ∃ p next, scene.halt? task = some (.held p next)
      · obtain ⟨p, next, hheld⟩ := hheld
        rw [step_answer_of_held hheld]
        exact .resumed hheld reply
      · rw [step_answer_of_not_held (fun p next h => hheld ⟨p, next, h⟩)]
        exact .nothing _
  | reset context x y angle =>
      show scene.Takes crowd _ (scene.perform _)
      rcases resetActor_cases crowd context x y angle scene.fleet with h | ⟨hidle, hcell, h⟩
      · rw [perform_of_unchanged h]
        exact .nothing _
      · unfold perform
        rw [h]
        exact .placed hidle hcell
  | edit context id edit guarded =>
      have hunguarded : scene.Takes crowd (.edit context id edit guarded)
          (scene.perform ((Fleet.stage crowd context).updateLoop id edit)) := by
        rcases updateLoop_cases crowd context id edit scene.fleet with h | ⟨catalog, h⟩
        · rw [perform_of_unchanged h]
          exact .nothing _
        · unfold perform
          rw [h]
          exact .edited catalog
      cases guarded with
      | false => exact hunguarded
      | true =>
          show scene.Takes crowd _ (scene.perform _)
          rcases editLoop_cases crowd context id edit scene.fleet with h | h
          · rw [perform_of_unchanged h]
            exact .nothing _
          · unfold perform at hunguarded ⊢
            rw [h]
            exact hunguarded
  | write key value =>
      refine .stored rfl (scene.fleet.store.setText key value) fun other hother => ?_
      rw [Store.setText, Store.find_put, if_neg hother]
  | erase key =>
      refine .stored rfl (scene.fleet.store.erase key) fun other hother => ?_
      rw [Store.find_erase, if_neg hother]

/-- Whatever an operation does, every task has a role. -/
theorem IsCast.takes (h : scene.IsCast) {op : Operation} {scene' : Scene}
    (htakes : scene.Takes crowd op scene') : scene'.IsCast := by
  cases htakes with
  | nothing => exact h
  | started role hnew => exact h.start crowd _ role
  | resumed hheld reply =>
      obtain ⟨role, hholds⟩ := h.holds hheld
      exact h.advance hholds.1 _
  | placed hidle hcell => exact h
  | edited catalog => exact h
  | stored hkey store hothers => exact h

/-- What is true of a scene, and stays true whatever operations do, is always true. -/
theorem always_of_takes {P : Scene → Prop} {scene : Scene} (hstart : P scene)
    (hstep : ∀ scene op scene', P scene → scene.Takes crowd op scene' → P scene')
    (history : List Operation) : P (scene.after crowd history) := by
  induction history generalizing scene with
  | nil => exact hstart
  | cons op rest ih => exact ih (hstep _ _ _ hstart (step_takes crowd scene op))

end Scene

end Gridwalk
