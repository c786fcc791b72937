import Gridwalk.Proofs.Effect
import Gridwalk.Proofs.Execution
import Gridwalk.Proofs.History

/-!
# What calls do to a fleet

Around its commands a run makes the changes of `Fleet.Formal`, and a dispatched run changes the
store.  A regime that survives these too, besides what commands do, is one that every call keeps
to (`routine_obeys`).

A property of fleets that survives all of this, and what operations do apart from tasks, is true
after every history (`always_of_bears`).
-/

set_option autoImplicit false

namespace Gridwalk

/-- A change that a run makes around its commands. -/
inductive Fleet.Formal (name : String) (f : Fleet) : Fleet → Prop
  /-- A run is begun. -/
  | begun (run : RunId) (ids : List Phrase) : Formal name f (f.begun name run ids)
  /-- The actor is shown to be moved by a run. -/
  | moving : Formal name f (f.change name { isMoving := some true })
  /-- The active position is shown. -/
  | indexed (position : Position) : Formal name f (f.showIndex name position)
  /-- Something other than a hit is recorded. -/
  | recorded {occurrence : Occurrence} (hocc : occurrence.type ≠ "BOUNDS_HIT") :
      Formal name f (f.note name occurrence)
  /-- The signs of a run are cleared. -/
  | cleared : Formal name f (f.cleared name)
  /-- The end of a run is recorded. -/
  | concluded (outcome : Outcome) : Formal name f (f.concluded name outcome)

/-- A regime that survives what runs do in a context, apart from the store. -/
structure Regime.Bears (R : Regime Fleet) (name : String) : Prop extends R.Tends name where
  formal : ∀ {o f g}, R.within o f → Fleet.Formal name f g → R.within o g

/-- A regime that survives what the program of a run does in a context. -/
structure Regime.Spans (R : Regime Fleet) (name : String) : Prop extends R.Tends name where
  moving : ∀ {o f}, R.within o f → R.within o (f.change name { isMoving := some true })
  indexed : ∀ {o f}, R.within o f → ∀ position, R.within o (f.showIndex name position)
  started : ∀ {o f}, R.within o f → ∀ index id, R.within o (f.note name (.stepStarted index id))
  skipped : ∀ {o f}, R.within o f → ∀ index id, R.within o (f.note name (.stepSkipped index id))

/-- What survives whole runs survives their programs. -/
theorem Regime.Bears.spans {R : Regime Fleet} {name : String} (h : R.Bears name) :
    R.Spans name where
  toTends := h.toTends
  moving hf := h.formal hf .moving
  indexed hf position := h.formal hf (.indexed position)
  started hf _ _ := h.formal hf (.recorded (by simp [Occurrence.type]))
  skipped hf _ _ := h.formal hf (.recorded (by simp [Occurrence.type]))

/-- A regime that survives changes of the store. -/
def Regime.Free (R : Regime Fleet) : Prop :=
  ∀ o f store, R.within o f → R.within o { f with store }

namespace Routine

variable {σ α : Type} {R : Regime σ}

/-- A routine whose faults are caught keeps to the regime that it keeps to. -/
theorem Obeys.attempt {r : Routine σ α} (hr : r.Obeys R) : r.attempt.Obeys R := by
  intro o s hs
  apply meets_attempt
  exact hr o s hs

/-- A routine does so if an act that keeps to the regime follows in every case. -/
theorem Obeys.ensure {r : Routine σ α} {act : Act σ Unit} (hr : r.Obeys R)
    (hact : (ofAct act).Obeys R) : (Routine.ensure r act).Obeys R := by
  refine hr.attempt.bind fun outcome => hact.bind fun _ => ?_
  exact fun o s hs => meets_ofExcept hs

end Routine

namespace Fleet

open Routine

variable {R : Regime Fleet} {name : String}

/-- A command that is invoked by itself keeps to the regime. -/
theorem invoke_obeys (hR : R.Tends name) (crowd : Crowd) (command : Command) :
    ((stage crowd name).invoke command).Obeys R := by
  cases command with
  | basic b => exact perform_obeys hR crowd b.deed
  | loop l =>
      refine Obeys.bind (obeys_ofAct fun _ _ h => h) fun current => ?_
      cases current with
      | none => exact obeys_done R ()
      | some current => exact runCommand_obeys hR crowd (levelsBelow 0) current

section Programs

variable (hR : R.Spans name) (crowd : Crowd)

include hR

/-- A step of a program keeps to the regime. -/
theorem runStep_obeys (index : Nat) (id : Phrase) :
    ((stage crowd name).runStep index id).Obeys R := by
  intro o f hf
  refine meets_act_bind (setIndex_eq crowd name f _) ?_
  refine meets_act_bind (named_eq crowd name _ id) ?_
  have hshown := hR.indexed hf (.index index)
  cases (((f.showIndex name (.index (Int.ofNat index))).contexts name).catalog.named id) with
  | none => exact meets_ofAct (hR.skipped hshown index id)
  | some command =>
      refine meets_act_bind (record_eq crowd name _ _) ?_
      refine runCommand_obeys hR.toTends crowd (levelsBelow 0) command o _ ?_
      exact hR.started hshown index id

/-- The steps of a program keep to the regime. -/
theorem runSteps_obeys (index : Nat) (ids : List Phrase) :
    ((stage crowd name).runSteps index ids).Obeys R := by
  induction ids generalizing index with
  | nil => exact obeys_done R ()
  | cons id rest ih => exact (runStep_obeys hR crowd index id).bind fun _ => ih (index + 1)

/-- A program keeps to the regime. -/
theorem runProgram_obeys (ids : List Phrase) :
    ((stage crowd name).runProgram ids).Obeys R := by
  intro o f hf
  refine meets_act_bind (updateActor_eq crowd name f _) ?_
  exact runSteps_obeys hR crowd 0 ids o _ (hR.moving hf)

end Programs

section Runs

variable (hR : R.Bears name) (crowd : Crowd)

include hR

/-- What follows the start of a run keeps to the regime. -/
theorem finishing_obeys (run : RunId) {program : Routine Fleet Unit} (h : program.Obeys R) :
    ((stage crowd name).finishing run program).Obeys R := by
  refine h.attempt.bind fun ended => ?_
  intro o f hf
  have hcleared := hR.formal hf .cleared
  refine meets_act_bind (clear_eq crowd name f) (meets_ofExcept_bind ?_ fun _ _ => hcleared)
  intro outcome _
  refine meets_ofAct ?_
  show R.within o ((stage crowd name).conclude run outcome (f.cleared name)).2
  rw [conclude_eq]
  exact hR.formal hcleared (.concluded outcome)

/-- A run keeps to the regime. -/
theorem execute_obeys (run : RunId) (ids : List Phrase) :
    ((stage crowd name).execute run ids).Obeys R := by
  intro o f hf
  rw [Stage.execute_eq]
  cases hphase : (f.contexts name).phase with
  | running => exact meets_act_bind_of_error (Stage.begin_of_running hphase) hf
  | idle =>
      refine meets_act_bind (begin_of_idle crowd name f hphase) ?_
      refine meets_act_bind (opened_eq crowd name _ run) ?_
      refine meets_act_bind (record_opened_eq crowd name f run ids) ?_
      exact finishing_obeys hR crowd run (runProgram_obeys hR.spans crowd ids) o _
        (hR.formal hf (.begun run ids))

end Runs

/-! ## The store -/

/-- What every entry keeps when it is appended is kept by publishing. -/
theorem publish_keeps {τ : Type} (view : Fleet → τ) (entries : List (String × Fields))
    (hentries : ∀ entry ∈ entries, ∀ f,
      view (Act.update storePlace (fun s => s.append entry.1 entry.2) f).2 = view f)
    (f : Fleet) : view (Journal.publish storePlace entries f).2 = view f := by
  induction entries generalizing f with
  | nil => rfl
  | cons entry rest ih =>
      refine Act.bind_keeps view (hentries entry List.mem_cons_self) (fun _ => ?_) f
      refine Act.bind_keeps view (fun f => ?_) fun _ _ => rfl
      exact ih (fun other hother => hentries other (List.mem_cons_of_mem _ hother)) f

/-- What appending to the stream of a session keeps is kept by publishing the events of a run. -/
theorem publishRun_keeps {τ : Type} (view : Fleet → τ) (session : String)
    (happend : ∀ fields f,
      view (Act.update storePlace (fun s => s.append (Journal.streamKey session) fields) f).2 =
        view f)
    (events : List Event) (f : Fleet) :
    view (Journal.publishRun storePlace session events f).2 = view f := by
  refine Act.bind_keeps view (fun _ => rfl) (fun entries f => ?_) f
  refine publish_keeps view _ (fun entry hentry f => ?_) f
  obtain ⟨fields, -, rfl⟩ := List.mem_map.mp hentry
  exact happend fields f

/-- A change of the store is made or refused. -/
theorem update_store_eq (g : Store → Except Fault Store) (f : Fleet) :
    Act.update storePlace g f =
      match g f.store with
      | .ok store => (.ok (), { f with store })
      | .error fault => (.error fault, f) := by
  have hget : storePlace.get f = f.store := rfl
  unfold Act.update
  rw [hget]
  cases g f.store <;> rfl

/-- An act on the store changes nothing else. -/
theorem update_store (g : Store → Except Fault Store) (f : Fleet) :
    ∃ store, (Act.update storePlace g f).2 = { f with store } := by
  rw [update_store_eq]
  cases g f.store with
  | error fault => exact ⟨f.store, rfl⟩
  | ok store => exact ⟨store, rfl⟩

/-- Publishing the events of a run changes nothing but the store. -/
theorem publishRun_store (session : String) (events : List Event) (f : Fleet) :
    ∃ store, (Journal.publishRun storePlace session events f).2 = { f with store } := by
  have hkeeps := publishRun_keeps (fun f => (f.contexts, f.told, f.pauses)) session
    (fun fields f => by
      obtain ⟨store, hstore⟩ := update_store
        (fun s => s.append (Journal.streamKey session) fields) f
      rw [hstore]) events f
  simp only [Prod.mk.injEq] at hkeeps
  obtain ⟨hcontexts, htold, hpauses⟩ := hkeeps
  refine ⟨(Journal.publishRun storePlace session events f).2.store, ?_⟩
  cases hg : (Journal.publishRun storePlace session events f).2 with
  | mk contexts store told pauses =>
      rw [hg] at hcontexts htold hpauses
      rw [← hcontexts, ← htold, ← hpauses]

/-- A dispatched run keeps to a regime that survives changes of the store. -/
theorem dispatch_obeys (hR : R.Bears name) (hfree : R.Free) (crowd : Crowd) (ticket : Ticket)
    (ids : List Phrase) : ((stage crowd name).dispatch storePlace ticket ids).Obeys R := by
  have hstore {act : Act Fleet Unit} (h : ∀ f, ∃ store, (act f).2 = { f with store }) :
      (ofAct act).Obeys R := by
    refine obeys_ofAct fun o f hf => ?_
    obtain ⟨store, hact⟩ := h f
    rw [hact]
    exact hfree o f store hf
  have hidle : (ofAct (stage crowd name).requireIdle).Obeys R := by
    refine obeys_ofAct fun o f hf => ?_
    cases hphase : (f.contexts name).phase with
    | idle =>
        rw [Stage.requireIdle_of_idle hphase]
        exact hf
    | running =>
        rw [Stage.requireIdle_of_running hphase]
        exact hf
  have htake : (ofAct (Lease.take storePlace ticket.session ticket.token)).Obeys R :=
    hstore fun f => update_store _ f
  have hrelease : (ofAct (Lease.release storePlace ticket.session ticket.token)).Obeys R :=
    hstore fun f => update_store _ f
  refine hidle.bind fun _ => htake.bind fun _ => Obeys.ensure ?_ hrelease
  refine (execute_obeys hR crowd ticket.run ids).bind fun result => ?_
  refine Obeys.bind (obeys_ofAct fun o f hf => ?_) fun _ => obeys_done R result
  obtain ⟨store, hact⟩ := publishRun_store ticket.session result.events f
  show R.within o (Journal.publishRun storePlace ticket.session result.events f).2
  rw [hact]
  exact hfree o f store hf

/-- Every call keeps to a regime that survives what runs do and changes of the store. -/
theorem routine_obeys (hR : R.Bears name) (hfree : R.Free) (crowd : Crowd) (call : Call) :
    (call.routine (stage crowd name) storePlace).Obeys R := by
  cases call with
  | execute run ids => exact (execute_obeys hR crowd run ids).bind fun r => obeys_done R (some r)
  | dispatch ticket ids =>
      exact (dispatch_obeys hR hfree crowd ticket ids).bind fun r => obeys_done R (some r)
  | invoke command => exact (invoke_obeys hR.toTends crowd command).bind fun _ => obeys_done R none

end Fleet

/-! ## Properties of all fleets -/

/-- The regime of a property of fleets that everybody keeps to. -/
def Regime.upholding (I : Fleet → Prop) : Regime Fleet where
  rely _ g := I g
  held _ _ f := I f
  within _ f := I f

namespace Scene

open Routine

/-- The tasks of a scene that are held keep a property of fleets, if the others do so. -/
def Upholds (I : Fleet → Prop) (scene : Scene) : Prop :=
  I scene.fleet ∧ ∀ task p next, scene.halt? task = some (.held p next) → ∀ answer f, I f →
    (next answer).Meets ((Regime.upholding I).contract _) ⟨some p, f⟩ f

/-- A task that goes on keeps a property of fleets. -/
theorem Upholds.advance {I : Fleet → Prop} (hnoted : ∀ f p, I f → I (f.noted p)) {scene : Scene}
    (hscene : scene.Upholds I) {o : Origin Fleet} {r : Routine Fleet (Option RunResult)}
    (hr : r.Meets ((Regime.upholding I).contract _) o scene.fleet) (task : String) :
    (scene.advance task r).Upholds I := by
  have hsettle := settle_of_meets Fleet.suspend_open hr
  have hfleet := fleet_advance scene task r
  have hhalt := halt?_advance scene task r
  cases hs : r.settle Fleet.suspend scene.fleet with
  | mk halt g =>
      rw [hs] at hsettle hfleet hhalt
      have hnext : ∀ p next, halt = .held p next → ∀ answer f, I f →
          (next answer).Meets ((Regime.upholding I).contract _) ⟨some p, f⟩ f := by
        intro p next hheld answer f hf
        subst hheld
        obtain ⟨u, -, -, hgo⟩ := hsettle
        exact hgo answer f hf
      refine ⟨?_, ?_⟩
      · rw [hfleet]
        cases halt with
        | ended result => exact hsettle
        | held p next =>
            obtain ⟨u, rfl, hu, -⟩ := hsettle
            exact hnoted u p hu
      · intro other p next hheld
        rw [hhalt] at hheld
        split at hheld
        · exact hnext p next (Option.some.inj hheld)
        · exact hscene.2 other p next hheld

/-- A property of fleets that survives what calls do, and what operations do apart from tasks,
is true after every history. -/
theorem always_of_bears {I : Fleet → Prop} (hbears : ∀ name, (Regime.upholding I).Bears name)
    (hnoted : ∀ f p, I f → I (f.noted p)) (hstore : ∀ f store, I f → I { f with store })
    (hplaced : ∀ f name x y angle, I f →
      Stage.requireCell (f.contexts name).settings.grid (.int x) (.int y) = .ok () →
      I (f.showActor name { x, y, angle }))
    (hedited : ∀ f name catalog, I f → I (f.alter name fun c => { c with catalog }))
    (crowd : Crowd) {setups : String → Setup} {store : Store}
    (hfresh : I (Scene.fresh setups store).fleet) (history : List Operation) :
    I (((Scene.fresh setups store).after crowd history).fleet) := by
  -- The property alone says nothing of tasks that are held, so what they keep to goes with it.
  refine (always_of_takes (P := Upholds I) ⟨hfresh, ?_⟩ ?_ history).1
  · intro task p next hheld
    cases hheld
  · intro scene op scene' hscene htakes
    cases htakes with
    | nothing => exact hscene
    | started role hnew =>
        have hcall := Fleet.routine_obeys (hbears role.context) (fun _ f store => hstore f store)
          crowd role.call
        exact Upholds.advance hnoted hscene (hcall ⟨none, scene.fleet⟩ _ hscene.1) _
    | resumed hheld reply =>
        exact hscene.advance hnoted (hscene.2 _ _ _ hheld reply _ hscene.1) _
    | placed hidle hcell => exact ⟨hplaced _ _ _ _ _ hscene.1 hcell, hscene.2⟩
    | edited catalog => exact ⟨hedited _ _ _ hscene.1, hscene.2⟩
    | stored hkey store hothers => exact ⟨hstore _ _ hscene.1, hscene.2⟩

end Scene

end Gridwalk
