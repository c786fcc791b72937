import Gridwalk.Proofs.Invocation
import Gridwalk.Proofs.Presence
import Gridwalk.Proofs.SingleFlight

/-!
# What is recorded outside of runs

A context records events while a run id is set.  A run sets one when it is begun, and clears it
when it is concluded.  A run that is cancelled is not concluded: the signs of it are cleared, so
that the context is idle, but its id stays, and what is done then is recorded as if the run went on
(`Scene.recorded_after_cancelled`).  `Call.recordContract` says this of a call, and
`Scene.Recorded` of a context in every scene of every history.

On an idle context without a run id nothing is recorded, whatever is done, until a run is started
on it (`Scene.Unrecorded.after`).
-/

set_option autoImplicit false

namespace Gridwalk

/-- A fault with which a run can end and leave its id behind: a cancellation, or the fault of a
lease that is not given back after one. -/
def Fault.Leaves (fault : Fault) : Prop :=
  fault.isOrdinary = false ∨ fault = .wrongKind

/-- An operation starts a run on a context, or tries to. -/
def Operation.Starts (name : String) : Operation → Prop
  | .launch _ role => role.context = name ∧ role.call.run? ≠ none
  | _ => False

namespace Call

/-- At the end of a run its id is cleared, or it is left behind. -/
def Closes (name : String) (run : RunId) (result : Except Fault (Option RunResult)) (f : Fleet) :
    Prop :=
  (f.contexts name).run = none ∨
    (f.contexts name).run = some run ∧ ∃ fault, result = .error fault ∧ fault.Leaves

/-- What is asked of a call after it began a run: that the id is set until the run ends. -/
def recordContract (name : String) (run : RunId) : Contract Fleet (Option RunResult) where
  rely _ g := (g.contexts name).run = some run
  held _ _ _ f := (f.contexts name).run = some run
  ended _ result f := Closes name run result f

/-- What is asked of a command that is invoked by itself: that nothing shows of it. -/
def visitContract (name : String) : Contract Fleet (Option RunResult) :=
  (Regime.sparing fun f : Fleet => f.backdrop name).contract _

end Call

namespace Fleet

open Routine

variable {name : String} {f : Fleet} {run : RunId} (crowd : Crowd)

/-! ## The id of a run -/

/-- A change of the actor leaves the id of the run alone. -/
theorem run_change (f : Fleet) (name : String) (change : Actor.Change) :
    ((f.change name change).contexts name).run = (f.contexts name).run := by
  simp [Fleet.change]

/-- A record leaves the id of the run alone. -/
theorem run_note (f : Fleet) (name : String) (occurrence : Occurrence) :
    ((f.note name occurrence).contexts name).run = (f.contexts name).run := by
  simp [note]

/-- The clearing after a run leaves its id alone: only its conclusion takes it away. -/
theorem run_cleared (f : Fleet) (name : String) :
    ((f.cleared name).contexts name).run = (f.contexts name).run := by
  simp [cleared, run_change]

/-- The regime of a run whose id is set. -/
def runRegime (name : String) (run : RunId) : Regime Fleet where
  rely _ g := (g.contexts name).run = some run
  held _ _ f := (f.contexts name).run = some run
  within _ f := (f.contexts name).run = some run

/-- Commands keep to the regime of a run whose id is set. -/
theorem runRegime_spans (name : String) (run : RunId) : (runRegime name run).Spans name where
  calm h hcalm := (congrArg Backdrop.run hcalm.backdrop_eq).trans h
  step h := h
  afterStep _ hg := hg
  edge h := (run_change _ name _).trans h
  afterEdge _ hg := (run_change _ name _).trans hg
  moving h := (run_change _ name _).trans h
  indexed h position := by simpa [runRegime] using h
  started h index id := (run_note _ name _).trans h
  skipped h index id := (run_note _ name _).trans h

/-- When the program of a run has ended, its id is cleared unless the run is cancelled. -/
theorem run_finished (hrun : (f.contexts name).run = some run) (ended : Except Fault Unit) :
    ((f.finished name run ended).2.contexts name).run = none ∨
      ((f.finished name run ended).2.contexts name).run = some run ∧
        ∃ fault, (f.finished name run ended).1 = .error fault ∧ fault.isOrdinary = false := by
  unfold finished
  cases houtcome : Stage.outcomeOf ended with
  | ok outcome => exact .inl (by simp [concluded])
  | error fault =>
      refine .inr ⟨(run_cleared f name).trans hrun, fault, rfl, ?_⟩
      cases ended with
      | ok u => cases houtcome
      | error cause =>
          unfold Stage.outcomeOf at houtcome
          by_cases hordinary : cause.isOrdinary = true
          · simp [hordinary] at houtcome
          · simp only [hordinary] at houtcome
            cases houtcome
            simpa using hordinary

/-- From the start of its program on, a run closes its records or is cancelled. -/
theorem closing_meets_record {call : Call} (hcall : call.run? = some run)
    {program : Routine Fleet Unit} (hprogram : program.Obeys (runRegime name run))
    (hrun : (f.contexts name).run = some run) (o : Origin Fleet) :
    (call.closing (stage crowd name) storePlace program).Meets (Call.recordContract name run)
      o f := by
  refine closing_meets_of crowd call (fun _ _ hrely => hrely) (fun _ _ _ _ hheld => hheld) ?_
    (hprogram o f hrun)
  intro o ended g hg
  -- What follows the program may publish and give a lease back, but it leaves run ids alone.
  rcases run_finished hg ended with hcleared | ⟨hkept, fault, hfault, hcancelled⟩
  · exact closing_ofExcept_meets_of crowd (P := fun h => (h.contexts name).run = none)
      (fun _ _ h => h) hcall ended hcleared fun _ _ h _ => .inl h
  · refine closing_ofExcept_meets_of crowd (P := fun h => (h.contexts name).run = some run)
      (fun _ _ h => h) hcall ended hkept fun result h hrun hends => .inr ⟨hrun, ?_⟩
    rcases hends fault hfault with hresult | hresult
    · exact ⟨fault, hresult, .inl hcancelled⟩
    · exact ⟨.wrongKind, hresult, .inr rfl⟩

/-- A call that makes a run is refused, or on an idle context it meets its contract. -/
theorem routine_meets_record {call : Call} (hcall : call.run? = some run) (f : Fleet) :
    Reaches (call.routine (stage crowd name) storePlace) f (.fail .runInProgress) f ∨
      (f.contexts name).phase = .idle ∧
        (call.routine (stage crowd name) storePlace).Meets (Call.recordContract name run)
          ⟨none, f⟩ f := by
  obtain ⟨ids, hids⟩ := Call.exists_program?_of_run? hcall
  rcases @routine_reaches name crowd call ids hids f with
    ⟨hidle, run', store, henters, hreaches⟩ | ⟨-, hrefused⟩
  · obtain rfl : run' = run := by
      cases henters <;> exact Option.some.inj hcall
    refine .inr ⟨hidle, hreaches.meets ?_⟩
    have hprogram := runProgram_obeys (runRegime_spans name run') crowd ids
    have hbegun : ((({ f with store } : Fleet).begun name run' ids).contexts name).run =
        some run' := by
      simp [begun, Context.opened]
    exact closing_meets_record crowd hcall hprogram hbegun _
  · exact .inl hrefused

/-- A command that is invoked by itself meets its contract on any context. -/
theorem routine_meets_visit {call : Call} (hcall : call.run? = none) (o : Origin Fleet)
    (hf : f.backdrop name = o.state.backdrop name) :
    (call.routine (stage crowd name) storePlace).Meets (Call.visitContract name) o f := by
  cases call with
  | execute run ids => cases hcall
  | dispatch ticket ids => cases hcall
  | invoke command =>
      exact ((invoke_obeys (backdrop_tends name) crowd command).bind fun _ =>
        obeys_done _ none) o f hf

end Fleet

namespace Scene

open Routine

/-! ## Contexts -/

/-- A task on a context ended and left the id of its run behind. -/
def Left (scene : Scene) (name : String) (run : RunId) : Prop :=
  ∃ task role fault, scene.Ended task role (.error fault) ∧ role.context = name ∧
    role.call.run? = some run ∧ fault.Leaves

/-- What is always true of the records of a context: a run that is held has its id set, the tasks
are as their contracts ask, and an id that is set on an idle context was left behind. -/
structure Recorded (scene : Scene) (name : String) : Prop where
  runs : ∀ task role p next run, scene.Holds task role p next → role.context = name →
    role.call.run? = some run →
    (scene.fleet.contexts name).run = some run ∧
      ∀ answer f, (f.contexts name).run = some run →
        (next answer).Meets (Call.recordContract name run) ⟨some p, f⟩ f
  visits : ∀ task role p next, scene.Holds task role p next → role.context = name →
    role.call.run? = none →
    ∀ answer f, (next answer).Meets (Call.visitContract name) ⟨some p, f⟩ f
  left : ∀ run, (scene.fleet.contexts name).phase = .idle →
    (scene.fleet.contexts name).run = some run → scene.Left name run

section Steps

variable {crowd : Crowd} {scene scene' : Scene} {name task : String} {role : Role}
  {run : RunId} {r : Routine Fleet (Option RunResult)} {o : Origin Fleet}

/-- A held call that makes a run is a task that runs. -/
theorem runs_of_holds {p : Pause} {next : Answer → Routine Fleet (Option RunResult)}
    (hheld : scene.Holds task role p next) (hcall : role.call.run? = some run) :
    scene.Runs task role.context := by
  obtain ⟨ids, hids⟩ := Call.exists_program?_of_run? hcall
  refine ⟨role, p, next, hheld, rfl, ?_⟩
  rw [hids]
  exact Option.some_ne_none ids

/-- A run that was left behind stays so while ended tasks stay ended. -/
theorem Left.mono (h : scene.Left name run)
    (hended : ∀ task role result, scene.Ended task role result → scene'.Ended task role result) :
    scene'.Left name run := by
  obtain ⟨task, role, fault, hleft, hrest⟩ := h
  exact ⟨task, role, fault, hended task role _ hleft, hrest⟩

/-- A task that ended stays ended while another one goes on. -/
theorem Ended.advance {other : String} {result : Except Fault (Option RunResult)}
    (h : scene.Ended other role result)
    (hhalt : ∀ result, scene.halt? task ≠ some (.ended result)) :
    (scene.advance task r).Ended other role result := by
  have hother : other ≠ task := by
    rintro rfl
    exact hhalt result h.2
  refine ⟨h.1, ?_⟩
  rw [halt?_advance, if_neg hother]
  exact h.2

/-- Nothing changes for the records of a context whose phase, run id and tasks stay. -/
theorem Recorded.of_same (h : scene.Recorded name)
    (hphase : (scene'.fleet.contexts name).phase = (scene.fleet.contexts name).phase)
    (hrun : (scene'.fleet.contexts name).run = (scene.fleet.contexts name).run)
    (hholds : ∀ task role p next, role.context = name → scene'.Holds task role p next →
      scene.Holds task role p next)
    (hended : ∀ task role result, scene.Ended task role result →
      scene'.Ended task role result) : scene'.Recorded name where
  runs task role p next run hheld hname hcall := by
    rw [hrun]
    exact h.runs task role p next run (hholds task role p next hname hheld) hname hcall
  visits task role p next hheld hname hcall :=
    h.visits task role p next (hholds task role p next hname hheld) hname hcall
  left run hidle hset := by
    rw [hphase] at hidle
    rw [hrun] at hset
    exact (h.left run hidle hset).mono hended

/-- The records of a context are as they should be after one of its tasks went on, if they are so
for that task and the runs of the others are still set. -/
theorem Recorded.of_advance (h : scene.Recorded role.context)
    (hrole : scene.roles task = some role)
    (hothers : ∀ other role' p next run, other ≠ task → scene.Holds other role' p next →
      role'.context = role.context → role'.call.run? = some run →
      ((scene.advance task r).fleet.contexts role.context).run = some run)
    (hruns : ∀ p next run, (scene.advance task r).Holds task role p next →
      role.call.run? = some run →
      ((scene.advance task r).fleet.contexts role.context).run = some run ∧
        ∀ answer f, (f.contexts role.context).run = some run →
          (next answer).Meets (Call.recordContract role.context run) ⟨some p, f⟩ f)
    (hvisits : ∀ p next, (scene.advance task r).Holds task role p next →
      role.call.run? = none →
      ∀ answer f, (next answer).Meets (Call.visitContract role.context) ⟨some p, f⟩ f)
    (hleft : ∀ run, ((scene.advance task r).fleet.contexts role.context).phase = .idle →
      ((scene.advance task r).fleet.contexts role.context).run = some run →
      (scene.advance task r).Left role.context run) :
    (scene.advance task r).Recorded role.context where
  runs other role' p next run hheld hname hcall := by
    by_cases hother : other = task
    · subst hother
      obtain rfl : role' = role := hheld.role_eq hrole
      exact hruns p next run hheld hcall
    · have hbefore := (holds_advance_of_ne scene r hother role' p next).mp hheld
      refine ⟨hothers other role' p next run hother hbefore hname hcall, ?_⟩
      exact (h.runs other role' p next run hbefore hname hcall).2
  visits other role' p next hheld hname hcall := by
    by_cases hother : other = task
    · subst hother
      obtain rfl : role' = role := hheld.role_eq hrole
      exact hvisits p next hheld hcall
    · have hbefore := (holds_advance_of_ne scene r hother role' p next).mp hheld
      exact h.visits other role' p next hbefore hname hcall
  left := hleft

/-- A command that was invoked by itself leaves the backdrop alone when it goes on. -/
theorem backdrop_advance
    (hr : r.Meets (Call.visitContract name) ⟨o.pause, scene.fleet⟩ scene.fleet) :
    (scene.advance task r).fleet.backdrop name = scene.fleet.backdrop name := by
  have hsettle := settle_of_meets Fleet.suspend_open hr
  rw [fleet_advance]
  cases hs : r.settle Fleet.suspend scene.fleet with
  | mk halt g =>
      rw [hs] at hsettle
      cases halt with
      | ended result => exact hsettle
      | held p next =>
          obtain ⟨u, rfl, hheld, -⟩ := hsettle
          exact hheld

/-- A command that was invoked by itself and goes on leaves the records of its context as they
should be. -/
theorem Recorded.advance_visit (h : scene.Recorded role.context)
    (hrole : scene.roles task = some role) (hcall : role.call.run? = none)
    (hhalt : ∀ result, scene.halt? task ≠ some (.ended result))
    (hr : r.Meets (Call.visitContract role.context) ⟨o.pause, scene.fleet⟩ scene.fleet) :
    (scene.advance task r).Recorded role.context := by
  have hbackdrop : (scene.advance task r).fleet.backdrop role.context =
      scene.fleet.backdrop role.context := backdrop_advance hr
  have hrun := congrArg Fleet.Backdrop.run hbackdrop
  have hphase := congrArg Fleet.Backdrop.phase hbackdrop
  refine h.of_advance hrole ?_ ?_ ?_ ?_
  · intro other role' p next run _ hheld hname hcall'
    exact hrun.trans (h.runs other role' p next run hheld hname hcall').1
  · intro p next run _ hcall'
    cases hcall.symm.trans hcall'
  · intro p next hheld _ answer f
    obtain ⟨u, -, -, hmeets⟩ := meets_of_holds_advance hr hheld
    exact hmeets answer f trivial
  · intro run hidle hset
    exact (h.left run (hphase.symm.trans hidle) (hrun.symm.trans hset)).mono
      fun _ _ _ h => h.advance hhalt

/-- A run that goes on, as the only one on its context, leaves the records as they should be. -/
theorem Recorded.advance_run (h : scene.Recorded role.context)
    (hsound : (scene.advance task r).SoundAt crowd role.context)
    (hrole : scene.roles task = some role) (hcall : role.call.run? = some run)
    (hsole : ∀ other, scene.Runs other role.context → other = task)
    (hr : r.Meets (Call.recordContract role.context run) o scene.fleet) :
    (scene.advance task r).Recorded role.context := by
  refine h.of_advance hrole ?_ ?_ ?_ ?_
  · intro other role' p next run' hother hheld hname hcall'
    have hruns := runs_of_holds hheld hcall'
    rw [hname] at hruns
    exact absurd (hsole other hruns) hother
  · intro p next run' hheld hcall'
    cases hcall.symm.trans hcall'
    obtain ⟨u, hfleet, hset, hmeets⟩ := meets_of_holds_advance hr hheld
    rw [hfleet]
    exact ⟨hset, hmeets⟩
  · intro p next hheld hnone
    cases hcall.symm.trans hnone
  · intro run' hidle hset
    cases hhalt : (scene.advance task r).halt? task with
    | none =>
        rw [halt?_advance, if_pos rfl] at hhalt
        cases hhalt
    | some halt =>
        cases halt with
        | held p next =>
            -- A run that is held keeps its context running.
            have hruns : (scene.advance task r).Runs task role.context :=
              runs_of_holds ⟨hrole, hhalt⟩ hcall
            cases hidle.symm.trans (hsound.running_of_runs hruns)
        | ended result =>
            rcases ended_of_advance hr hhalt with hnone | ⟨hkept, fault, rfl, hleaves⟩
            · cases hset.symm.trans hnone
            · cases hset.symm.trans hkept
              exact ⟨task, role, fault, ⟨hrole, hhalt⟩, rfl, hcall, hleaves⟩

/-- A task that goes on leaves the records of other contexts alone. -/
theorem Recorded.advance_of_ne (h : scene.Recorded name) (hrole : scene.roles task = some role)
    (hhalt : ∀ result, scene.halt? task ≠ some (.ended result))
    (hr : r.Meets (role.call.contract crowd role.context) ⟨o.pause, scene.fleet⟩ scene.fleet)
    (hname : name ≠ role.context) : (scene.advance task r).Recorded name := by
  have hcontext := contexts_advance_of_ne task hr hname
  refine h.of_same (by rw [hcontext]) (by rw [hcontext]) ?_
    fun _ _ _ h => h.advance hhalt
  intro other role' p next hname' hheld
  have hother : other ≠ task := by
    rintro rfl
    obtain rfl : role' = role := hheld.role_eq hrole
    exact hname hname'.symm
  exact (holds_advance_of_ne scene r hother role' p next).mp hheld

/-- Whichever task goes on, the records of all contexts are as they should be, if those of its own
context are. -/
theorem advance_recorded (h : ∀ name, scene.Recorded name) (hrole : scene.roles task = some role)
    (hhalt : ∀ result, scene.halt? task ≠ some (.ended result))
    (hr : r.Meets (role.call.contract crowd role.context) ⟨o.pause, scene.fleet⟩ scene.fleet)
    (hown : (scene.advance task r).Recorded role.context) (name : String) :
    (scene.advance task r).Recorded name := by
  by_cases hname : name = role.context
  · rw [hname]
    exact hown
  · exact (h name).advance_of_ne hrole hhalt hr hname

/-- A role that is given to a task that was not started leaves the records alone. -/
theorem Recorded.recast (h : scene.Recorded name) (role : Role) (hnew : scene.halt? task = none) :
    (scene.recast task role).Recorded name := by
  refine h.of_same rfl rfl (fun other role' p next _ hheld => ?_)
    fun other role' result hended => ?_
  · exact (holds_recast hnew role other role' p next).mp hheld
  · have hother : other ≠ task := by
      rintro rfl
      cases hnew.symm.trans hended.2
    exact ⟨(Function.update_of_ne hother _ _).trans hended.1, hended.2⟩

/-- Tasks that start keep what is always true of the records of every context. -/
theorem Recorded.start (hsound : scene.Sound crowd) (h : ∀ name, scene.Recorded name)
    (role : Role) (hnew : scene.roles task = none) (name : String) :
    (scene.start crowd task role).Recorded name := by
  let cast : Scene := scene.recast task role
  have hcast (name : String) : cast.Recorded name := (h name).recast role (hsound.1 task hnew)
  have hrole : cast.roles task = some role := Function.update_self _ _ _
  have hhalt (result : Except Fault (Option RunResult)) :
      cast.halt? task ≠ some (.ended result) := by
    rw [show cast.halt? task = none from hsound.1 task hnew]
    exact fun h => nomatch h
  have hmeets : (role.call.routine (Fleet.stage crowd role.context) Fleet.storePlace).Meets
      (role.call.contract crowd role.context) ⟨none, scene.fleet⟩ scene.fleet :=
    Fleet.routine_meets crowd role.call scene.fleet
  refine advance_recorded hcast hrole hhalt (o := ⟨none, scene.fleet⟩) hmeets ?_ name
  cases hcall : role.call.run? with
  | none =>
      exact (hcast _).advance_visit hrole hcall hhalt (o := ⟨none, scene.fleet⟩)
        (Fleet.routine_meets_visit crowd hcall ⟨none, scene.fleet⟩ rfl)
  | some run =>
      -- A run that is refused ends at once and changes nothing; any other one is alone.
      rcases Fleet.routine_meets_record crowd hcall scene.fleet with hrefused | ⟨hidle, hmeets⟩
      · obtain ⟨hsame, hended⟩ := start_of_refused task role hrefused
        change (cast.advance task _).fleet = cast.fleet at hsame
        refine (hcast _).of_same (by rw [hsame]) (by rw [hsame]) ?_ fun _ _ _ h => h.advance hhalt
        intro other role' p next _ hheld
        have hother : other ≠ task := by
          rintro rfl
          cases hended.2.symm.trans hheld.2
        exact (holds_advance_of_ne cast _ hother role' p next).mp hheld
      · refine (hcast _).advance_run ((hsound.start role hnew).2 _) hrole hcall ?_ hmeets
        intro other hother
        cases hidle.symm.trans ((hsound.recast role hnew _).running_of_runs hother)

/-- Tasks that resume keep what is always true of the records of every context. -/
theorem Recorded.resume (hsound : scene.Sound crowd) (h : ∀ name, scene.Recorded name) {p : Pause}
    {next : Answer → Routine Fleet (Option RunResult)}
    (hheld : scene.halt? task = some (.held p next)) (reply : Answer) (name : String) :
    (scene.advance task (next reply)).Recorded name := by
  obtain ⟨role, hholds⟩ := hsound.1.holds hheld
  have hhalt (result : Except Fault (Option RunResult)) :
      scene.halt? task ≠ some (.ended result) := by
    rw [hheld]
    exact fun h => nomatch h
  obtain ⟨-, -, hmeets⟩ := (hsound.2 role.context).tasks task role p next hholds rfl
  refine advance_recorded h hholds.1 hhalt (o := ⟨some p, scene.fleet⟩)
    (hmeets reply scene.fleet (rely_refl _ _ _)) ?_ name
  cases hcall : role.call.run? with
  | none =>
      exact (h _).advance_visit hholds.1 hcall hhalt (o := ⟨some p, scene.fleet⟩)
        ((h _).visits task role p next hholds rfl hcall reply scene.fleet)
  | some run =>
      obtain ⟨hset, hrun⟩ := (h _).runs task role p next run hholds rfl hcall
      refine (h _).advance_run ((hsound.resume hheld reply).2 _) hholds.1 hcall ?_
        (hrun reply scene.fleet hset)
      exact fun other hother =>
        (hsound.2 _).alone other task hother (runs_of_holds hholds hcall)

/-- Whatever an operation does, the records of all contexts are as they should be. -/
theorem Recorded.takes (hsound : scene.Sound crowd) (h : ∀ name, scene.Recorded name)
    {op : Operation} (htakes : scene.Takes crowd op scene') (name : String) :
    scene'.Recorded name := by
  have hsteer {f : Fleet} (hphase : (f.contexts name).phase = (scene.fleet.contexts name).phase)
      (hrun : (f.contexts name).run = (scene.fleet.contexts name).run) :
      ({ scene with fleet := f } : Scene).Recorded name :=
    (h name).of_same hphase hrun (fun _ _ _ _ _ hheld => hheld) fun _ _ _ hended => hended
  cases htakes with
  | nothing => exact h name
  | started role hnew => exact Recorded.start hsound h role hnew name
  | resumed hheld reply => exact Recorded.resume hsound h hheld reply name
  | @placed context x y angle hidle hcell =>
      by_cases hname : name = context
      · subst hname
        exact hsteer (by simp) (by simp)
      · refine hsteer ?_ ?_ <;> rw [Fleet.contexts_showActor_of_ne _ _ _ _ hname]
  | @edited context id edit guarded catalog =>
      by_cases hname : name = context
      · subst hname
        exact hsteer (by simp) (by simp)
      · refine hsteer ?_ ?_ <;> rw [Fleet.contexts_alter_of_ne _ _ _ _ hname]
  | stored hkey store hothers => exact hsteer rfl rfl

/-- When a run on a context ends it closes its records, unless it is refused with nothing
changed. -/
theorem closes_of_takes (h : ∀ name, scene.Recorded name)
    {op : Operation} (htakes : scene.Takes crowd op scene') (hcall : role.call.run? = some run)
    (hbefore : ∀ result, ¬scene.Ended task role result)
    {result : Except Fault (Option RunResult)} (hended : scene'.Ended task role result) :
    Call.Closes role.context run result scene'.fleet ∨
      result = .error .runInProgress ∧ scene'.fleet = scene.fleet := by
  cases htakes with
  | nothing => exact absurd hended (hbefore result)
  | @started started role' hnew =>
      by_cases htask : task = started
      · subst htask
        obtain ⟨hrole, -⟩ := halt?_start crowd scene task role'
        obtain rfl : role' = role := Option.some.inj (hrole.symm.trans hended.1)
        rcases Fleet.routine_meets_record crowd hcall scene.fleet with hrefused | ⟨-, hmeets⟩
        · obtain ⟨hsame, hrefusal⟩ := start_of_refused task role' hrefused
          cases hended.2.symm.trans hrefusal.2
          exact .inr ⟨rfl, hsame⟩
        · have hcast : (role'.call.routine (Fleet.stage crowd role'.context) Fleet.storePlace).Meets
              (Call.recordContract role'.context run) ⟨none, scene.fleet⟩
              (scene.recast task role').fleet := hmeets
          exact .inl (ended_of_advance hcast hended.2)
      · refine absurd ⟨?_, ?_⟩ (hbefore result)
        · exact (Function.update_of_ne htask _ _).symm.trans hended.1
        · have hhalt := hended.2
          unfold start at hhalt
          rwa [halt?_advance, if_neg htask] at hhalt
  | @resumed resumed p next hheld reply =>
      by_cases htask : task = resumed
      · subst htask
        obtain ⟨hset, hrun⟩ := (h _).runs task role p next run ⟨hended.1, hheld⟩ rfl hcall
        exact .inl (ended_of_advance (hrun reply scene.fleet hset) hended.2)
      · refine absurd ⟨hended.1, ?_⟩ (hbefore result)
        have hhalt := hended.2
        rwa [halt?_advance, if_neg htask] at hhalt
  | placed hidle hcell => exact absurd hended (hbefore result)
  | edited catalog => exact absurd hended (hbefore result)
  | stored hkey store hothers => exact absurd hended (hbefore result)

end Steps

/-! ## Outside of runs -/

/-- A context is idle and has no run id, and its events are those of a log. -/
structure Unrecorded (scene : Scene) (name : String) (log : List Event) : Prop where
  idle : (scene.fleet.contexts name).phase = .idle
  run : (scene.fleet.contexts name).run = none
  log : (scene.fleet.contexts name).log = log

section Outside

variable {crowd : Crowd} {scene scene' : Scene} {name task : String} {log : List Event}

/-- What shows nothing outside of runs keeps a context unrecorded. -/
theorem Unrecorded.of_backdrop (h : scene.Unrecorded name log)
    (hbackdrop : scene'.fleet.backdrop name = scene.fleet.backdrop name) :
    scene'.Unrecorded name log := by
  have hrun : (scene'.fleet.contexts name).run = none :=
    (congrArg Fleet.Backdrop.run hbackdrop).trans h.run
  refine ⟨(congrArg Fleet.Backdrop.phase hbackdrop).trans h.idle, hrun, ?_⟩
  have hlogs := congrArg Fleet.Backdrop.log hbackdrop
  simp only [Fleet.backdrop, hrun, h.run] at hlogs
  exact hlogs.trans h.log

/-- A context with the same phase, run id and events stays unrecorded. -/
theorem Unrecorded.of_same (h : scene.Unrecorded name log)
    (hphase : (scene'.fleet.contexts name).phase = (scene.fleet.contexts name).phase)
    (hrun : (scene'.fleet.contexts name).run = (scene.fleet.contexts name).run)
    (hlog : (scene'.fleet.contexts name).log = (scene.fleet.contexts name).log) :
    scene'.Unrecorded name log :=
  ⟨hphase.trans h.idle, hrun.trans h.run, hlog.trans h.log⟩

/-- A context that stays the same stays unrecorded. -/
theorem Unrecorded.of_context (h : scene.Unrecorded name log)
    (hcontext : scene'.fleet.contexts name = scene.fleet.contexts name) :
    scene'.Unrecorded name log :=
  h.of_same (by rw [hcontext]) (by rw [hcontext]) (by rw [hcontext])

/-- A task that goes on records nothing outside of runs, unless it makes one. -/
theorem Unrecorded.advance {role : Role} {r : Routine Fleet (Option RunResult)}
    {o : Origin Fleet} (h : scene.Unrecorded name log)
    (hr : r.Meets (role.call.contract crowd role.context) ⟨o.pause, scene.fleet⟩ scene.fleet)
    (hvisit : role.context = name →
      r.Meets (Call.visitContract name) ⟨o.pause, scene.fleet⟩ scene.fleet) :
    (scene.advance task r).Unrecorded name log := by
  by_cases hname : role.context = name
  · exact h.of_backdrop (backdrop_advance (hvisit hname))
  · exact h.of_context (contexts_advance_of_ne task hr (Ne.symm hname))

/-- Whatever an operation does, it records nothing outside of runs, unless it starts one. -/
theorem Unrecorded.takes (h : scene.Unrecorded name log) (hsound : scene.Sound crowd)
    (hrecorded : scene.Recorded name) {op : Operation} (hop : ¬op.Starts name)
    (htakes : scene.Takes crowd op scene') : scene'.Unrecorded name log := by
  cases htakes with
  | nothing => exact h
  | @started task role hnew =>
      have hcast : (scene.recast task role).Unrecorded name log := ⟨h.idle, h.run, h.log⟩
      refine hcast.advance (o := ⟨none, scene.fleet⟩)
        (Fleet.routine_meets crowd role.call scene.fleet) fun hname => ?_
      cases hcall : role.call.run? with
      | some run => exact absurd ⟨hname, by simp [hcall]⟩ hop
      | none =>
          rw [hname]
          exact Fleet.routine_meets_visit crowd hcall ⟨none, scene.fleet⟩ rfl
  | @resumed task p next hheld reply =>
      obtain ⟨role, hholds⟩ := hsound.1.holds hheld
      obtain ⟨-, -, hmeets⟩ := (hsound.2 role.context).tasks task role p next hholds rfl
      refine h.advance (o := ⟨some p, scene.fleet⟩)
        (hmeets reply scene.fleet (rely_refl _ _ _)) fun hname => ?_
      cases hcall : role.call.run? with
      | none => exact hrecorded.visits task role p next hholds hname hcall reply scene.fleet
      | some run =>
          subst hname
          have hruns := (hsound.2 _).running_of_runs (runs_of_holds hholds hcall)
          cases h.idle.symm.trans hruns
  | @placed context x y angle hidle hcell =>
      by_cases hname : name = context
      · subst hname
        exact h.of_same (by simp) (by simp) (by simp)
      · exact h.of_context (Fleet.contexts_showActor_of_ne _ _ _ _ hname)
  | @edited context id edit guarded catalog =>
      by_cases hname : name = context
      · subst hname
        exact h.of_same (by simp) (by simp) (by simp)
      · refine h.of_context ?_
        rw [Fleet.contexts_alter_of_ne _ _ _ _ hname]
  | stored hkey store hothers => exact h.of_context rfl

/-- Nothing is recorded outside of runs, whatever is done, until a run is started. -/
theorem Unrecorded.after (h : scene.Unrecorded name log) (hsound : scene.Sound crowd)
    (hrecorded : ∀ name, scene.Recorded name) {later : List Operation}
    (hlater : ∀ op ∈ later, ¬op.Starts name) :
    (scene.after crowd later).Unrecorded name log := by
  induction later generalizing scene with
  | nil => exact h
  | cons op rest ih =>
      have htakes := step_takes crowd scene op
      exact ih (h.takes hsound (hrecorded name) (hlater op List.mem_cons_self) htakes)
        (hsound.takes htakes) (Recorded.takes hsound hrecorded htakes)
        fun other hother => hlater other (List.mem_cons_of_mem _ hother)

end Outside

/-! ## Histories -/

section Histories

variable (crowd : Crowd) (setups : String → Setup) (store : Store) (history : List Operation)

/-- In the beginning nothing is recorded and no run was left behind. -/
theorem recorded_fresh (name : String) : (Scene.fresh setups store).Recorded name where
  runs task role p next run hheld := by cases hheld.1
  visits task role p next hheld := by cases hheld.1
  left run _ hset := by cases hset

/-- After every history the records of all contexts are as they should be. -/
theorem recorded_after (name : String) :
    ((Scene.fresh setups store).after crowd history).Recorded name := by
  have hboth : ∀ name, ((Scene.fresh setups store).after crowd history).Recorded name :=
    (always_of_takes (P := fun scene => scene.Sound crowd ∧ ∀ name, scene.Recorded name)
      ⟨sound_fresh crowd setups store, recorded_fresh setups store⟩
      (fun _ _ _ h htakes => ⟨h.1.takes htakes, Recorded.takes h.1 h.2 htakes⟩) history).2
  exact hboth name

/-- When a run on a context ends, its id is cleared unless the run is cancelled, or else the run is
refused with nothing changed.  So an idle context has no run id, or that of a task on it which left
it behind in this way.  If it has none, then nothing is recorded: not by itself, and not by whatever
is done from then on, as long as no run is started on the context. -/
theorem unrecorded_after (name : String) :
    let scene := (Scene.fresh setups store).after crowd history
    let context := scene.fleet.contexts name
    (∀ op task role run result, role.context = name → role.call.run? = some run →
      (∀ other, ¬scene.Ended task role other) → (scene.step crowd op).Ended task role result →
      Call.Closes name run result (scene.step crowd op).fleet ∨
        result = .error .runInProgress ∧ (scene.step crowd op).fleet = scene.fleet) ∧
    (context.phase = .idle →
      context.run = none ∨ ∃ run, context.run = some run ∧ scene.Left name run) ∧
    (context.phase = .idle → context.run = none →
      (∀ occurrence, (Fleet.stage crowd name).record occurrence scene.fleet =
        (.ok (), scene.fleet)) ∧
      ∀ later, (∀ op ∈ later, ¬op.Starts name) →
        ((scene.after crowd later).fleet.contexts name).log = context.log) := by
  intro scene context
  have hsound : scene.Sound crowd := sound_after crowd setups store history
  have hrecorded (name : String) : scene.Recorded name :=
    recorded_after crowd setups store history name
  refine ⟨?_, fun hidle => ?_, fun hidle hrun => ⟨fun occurrence => ?_, fun later hlater => ?_⟩⟩
  · intro op task role run result hname hcall hbefore hended
    rw [← hname]
    exact closes_of_takes hrecorded (step_takes crowd scene op) hcall hbefore hended
  · cases hrun : context.run with
    | none => exact .inl rfl
    | some run => exact .inr ⟨run, rfl, (hrecorded name).left run hidle hrun⟩
  · rw [Fleet.record_eq, Fleet.note, Fleet.alter, Context.record_of_run_eq_none hrun,
      Function.update_eq_self]
  · have hunrecorded : scene.Unrecorded name context.log := ⟨hidle, hrun, rfl⟩
    exact (hunrecorded.after hsound hrecorded hlater).log

end Histories

/-- A command that moves one cell back. -/
def back : Command := .basic { id := "back", deed := .moveBack }

/-- After a run that was completed a blocked move is not recorded. -/
theorem unrecorded_after_completed :
    let scene := (Scene.fresh (fun _ => {}) {}).after .quiet [
      .launch "t" ⟨"a", .execute (.ofNat 0) ["turnRight"]⟩, .answer "t" (.ok ())]
    let later : List Operation := [.launch "u" ⟨"a", .invoke back⟩, .answer "u" (.ok ())]
    (scene.fleet.contexts "a").run = none ∧
      ((scene.after .quiet later).fleet.contexts "a").log = (scene.fleet.contexts "a").log := by
  intro scene later
  have hidle : (scene.fleet.contexts "a").phase = .idle := by decide +kernel
  have hrun : (scene.fleet.contexts "a").run = none := by decide +kernel
  have hlater : ∀ op ∈ later, ¬op.Starts "a" := by
    intro op hop hstarts
    simp only [later, List.mem_cons, List.not_mem_nil, or_false] at hop
    rcases hop with rfl | rfl
    · exact hstarts.2 rfl
    · exact hstarts
  have hafter := unrecorded_after .quiet (fun _ => {}) {} [
    .launch "t" ⟨"a", .execute (.ofNat 0) ["turnRight"]⟩, .answer "t" (.ok ())] "a"
  -- From here on the scene is not to be computed any more.
  rw [show (Scene.fresh (fun _ => {}) {}).after .quiet [
    .launch "t" ⟨"a", .execute (.ofNat 0) ["turnRight"]⟩, .answer "t" (.ok ())] = scene from rfl]
    at hafter
  clear_value scene
  exact ⟨hrun, (hafter.2.2 hidle hrun).2 later hlater⟩

/-- After a run that was cancelled the context is idle, but the id of the run is set, and a blocked
move is recorded. -/
theorem recorded_after_cancelled :
    let scene := (Scene.fresh (fun _ => {}) {}).after .quiet [
      .launch "t" ⟨"a", .execute (.ofNat 0) ["turnRight"]⟩, .answer "t" (.error .cancelled)]
    let later : List Operation := [.launch "u" ⟨"a", .invoke back⟩]
    (scene.fleet.contexts "a").phase = .idle ∧
      (scene.fleet.contexts "a").run = some (.ofNat 0) ∧
      ((scene.after .quiet later).fleet.contexts "a").log.length =
        (scene.fleet.contexts "a").log.length + 1 := by
  intro scene later
  exact ⟨by decide +kernel, by decide +kernel, by decide +kernel⟩

end Scene

end Gridwalk
