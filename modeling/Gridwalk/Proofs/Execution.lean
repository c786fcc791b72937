import Gridwalk.Proofs.Fleet
import Gridwalk.Proofs.RoutineContracts
import Gridwalk.Proofs.Agreement

/-!
# How a run begins and ends

Around its program a run does three things to its context: it begins (`Fleet.begun`), it is
cleared however the program ended (`Fleet.cleared`), and unless a cancellation passes through
it is concluded (`Fleet.concluded`) and makes up a result (`Fleet.resultOf`).  None of this
pauses.  A run is refused, with nothing changed, exactly while another one is in progress.
-/

set_option autoImplicit false

namespace Gridwalk

/-- What a run does from the start of its program on. -/
def Stage.finishing {σ : Type} (stage : Stage σ) (run : RunId) (program : Routine σ Unit) :
    Routine σ RunResult := do
  let ended ← program.attempt
  stage.clear
  let outcome ← Routine.ofExcept (Stage.outcomeOf ended)
  stage.conclude run outcome

/-- A run begins the lifecycle, opens its records, and does its program. -/
theorem Stage.execute_eq {σ : Type} (stage : Stage σ) (run : RunId) (ids : List Phrase) :
    stage.execute run ids =
      Routine.ofAct stage.begin >>= fun _ =>
        Routine.ofAct (Act.modify stage.context fun c => c.opened run) >>= fun _ =>
          Routine.ofAct (stage.record (.runStarted ids)) >>= fun _ =>
            stage.finishing run (stage.runProgram ids) :=
  rfl

namespace Stage

variable {σ : Type} {stage : Stage σ} {s : σ}

/-- A run begins on an idle context by setting its phase. -/
theorem begin_of_idle (h : (stage.context.get s).phase = .idle) :
    stage.begin s = (.ok (), stage.phasePlace.set .running s) := by
  have hphase : stage.phasePlace.get s = .idle := h
  simp only [begin, Act.update, hphase, Phase.begin?]

/-- A run is refused while another one is in progress, and nothing changes. -/
theorem begin_of_running (h : (stage.context.get s).phase = .running) :
    stage.begin s = (.error .runInProgress, s) := by
  have hphase : stage.phasePlace.get s = .running := h
  simp only [begin, Act.update, hphase, Phase.begin?]

/-- What asks for an idle context goes on while no run is in progress. -/
theorem requireIdle_of_idle (h : (stage.context.get s).phase = .idle) :
    stage.requireIdle s = (.ok (), s) := by
  show (if (stage.context.get s).phase.isRunning = true then Act.fail .runInProgress
    else Act.pure () : Act σ Unit) s = _
  rw [h]
  rfl

/-- What asks for an idle context is refused while a run is in progress. -/
theorem requireIdle_of_running (h : (stage.context.get s).phase = .running) :
    stage.requireIdle s = (.error .runInProgress, s) := by
  show (if (stage.context.get s).phase.isRunning = true then Act.fail .runInProgress
    else Act.pure () : Act σ Unit) s = _
  rw [h]
  rfl

end Stage

namespace Fleet

open Routine

/-- The fleet after a run on a context was begun. -/
def begun (f : Fleet) (name : String) (run : RunId) (ids : List Phrase) : Fleet :=
  f.alter name fun c => ({ c with phase := .running }.opened run).record (.runStarted ids)

/-- The fleet after the signs of a run on a context were cleared. -/
def cleared (f : Fleet) (name : String) : Fleet :=
  ((f.showIndex name (.index idleIndex)).change name
    { isMoving := some false, isHittingBounds := some false }).alter name fun c =>
      { c with phase := .idle }

/-- The fleet after the end of a run on a context was recorded. -/
def concluded (f : Fleet) (name : String) (outcome : Outcome) : Fleet :=
  f.alter name fun c =>
    { c.record (Stage.closing outcome c.actionsCompleted) with run := none }

/-- The result of a run on a context, when the run is concluded. -/
def resultOf (f : Fleet) (name : String) (run : RunId) (outcome : Outcome) : RunResult where
  run := run
  outcome := outcome
  stepsExecuted := (f.contexts name).actionsCompleted
  actor := (f.contexts name).actor.value
  events :=
    ((f.contexts name).record (Stage.closing outcome (f.contexts name).actionsCompleted)).events

section Acts

variable (crowd : Crowd) (name : String) (f : Fleet)

/-- A context that is changed twice is changed by both changes. -/
theorem alter_alter (g h : Context → Context) :
    (f.alter name g).alter name h = f.alter name fun c => h (g c) := by
  simp [alter]

/-- In a fleet a run begins on an idle context by setting its phase. -/
theorem begin_of_idle (hidle : (f.contexts name).phase = .idle) :
    (stage crowd name).begin f = (.ok (), f.alter name fun c => { c with phase := .running }) :=
  Stage.begin_of_idle hidle

/-- The records of a run are opened, and nothing fails. -/
theorem opened_eq (run : RunId) :
    Act.modify (stage crowd name).context (fun c => c.opened run) f =
      (.ok (), f.alter name fun c => c.opened run) := rfl

/-- The records of a run are opened, then its start is recorded. -/
theorem record_opened_eq (run : RunId) (ids : List Phrase) :
    (stage crowd name).record (.runStarted ids)
        ((f.alter name fun c => { c with phase := .running }).alter name fun c => c.opened run) =
      (.ok (), f.begun name run ids) := by
  rw [record_eq, note, alter_alter, alter_alter]
  rfl

/-- The end of a run is not recorded as a hit at the edge. -/
theorem type_closing_ne (outcome : Outcome) (steps : Nat) :
    (Stage.closing outcome steps).type ≠ "BOUNDS_HIT" := by
  cases outcome <;> simp [Stage.closing, Occurrence.type]

/-- A run is concluded by recording its end and forgetting its id. -/
theorem concluded_eq (outcome : Outcome) :
    f.concluded name outcome =
      (f.note name (Stage.closing outcome (f.contexts name).actionsCompleted)).alter name
        fun c => { c with run := none } := by
  rw [note, alter_alter]
  simp [concluded, alter]

/-- Clearing succeeds. -/
theorem clear_eq : (stage crowd name).clear f = (.ok (), f.cleared name) := by
  show Act.bind ((stage crowd name).setIndex (.index idleIndex)) _ f = _
  simp only [Act.bind, setIndex_eq]
  show Act.bind ((stage crowd name).updateActor _) _ _ = _
  simp only [Act.bind, updateActor_eq]
  rfl

/-- Concluding succeeds. -/
theorem conclude_eq (run : RunId) (outcome : Outcome) :
    (stage crowd name).conclude run outcome f =
      (.ok (f.resultOf name run outcome), f.concluded name outcome) := by
  let occurrence := Stage.closing outcome (f.contexts name).actionsCompleted
  have hnoted : (f.note name occurrence).contexts name = (f.contexts name).record occurrence :=
    contexts_alter_self f name _
  have hfleet : (f.note name occurrence).alter name (fun c => { c with run := none }) =
      f.concluded name outcome := (concluded_eq name f outcome).symm
  have hconclude : (stage crowd name).conclude run outcome f =
      (.ok { run, outcome, stepsExecuted := (f.contexts name).actionsCompleted,
             actor := ((f.note name occurrence).contexts name).actor.value,
             events := ((f.note name occurrence).contexts name).events },
        (f.note name occurrence).alter name fun c => { c with run := none }) := rfl
  rw [hconclude, hfleet, hnoted, Context.actor_record]
  rfl

/-- The conclusion of a run leaves the phase to the clearing before it. -/
theorem phase_concluded (outcome : Outcome) :
    ((f.concluded name outcome).contexts name).phase = (f.contexts name).phase := by
  simp [concluded]

/-- What a run ends with, and the fleet that it leaves, when its program has ended. -/
def finished (run : RunId) (ended : Except Fault Unit) : Except Fault RunResult × Fleet :=
  match Stage.outcomeOf ended with
  | .error fault => (.error fault, f.cleared name)
  | .ok outcome =>
      (.ok ((f.cleared name).resultOf name run outcome), (f.cleared name).concluded name outcome)

/-- However the program of a run ended, the run comes to its end without a pause. -/
theorem finishing_reaches (run : RunId) (ended : Except Fault Unit) :
    Reaches ((stage crowd name).finishing run (ofExcept ended)) f
      (ofExcept (f.finished name run ended).1) (f.finished name run ended).2 := by
  have hattempt : (ofExcept ended : Routine Fleet Unit).attempt = .done ended := by
    cases ended <;> rfl
  have hfinishing : (stage crowd name).finishing run (ofExcept ended) =
      ofAct (stage crowd name).clear >>= fun _ =>
        ofExcept (Stage.outcomeOf ended) >>= fun outcome =>
          ofAct ((stage crowd name).conclude run outcome) := by
    unfold Stage.finishing
    rw [hattempt]
    rfl
  rw [hfinishing]
  refine (reaches_act_bind (clear_eq crowd name f)).trans ?_
  unfold finished
  cases Stage.outcomeOf ended with
  | error fault => exact .here _ _
  | ok outcome => exact reaches_ofAct (conclude_eq crowd name _ run outcome)

variable (sleep : Pause → Fleet → Answer × Fleet) (run : RunId) (ids : List Phrase)

/-- A run on an idle context is its program, begun and finished. -/
theorem execute_play_of_idle (hidle : (f.contexts name).phase = .idle) :
    ((stage crowd name).execute run ids).play sleep f =
      (((stage crowd name).runProgram ids).play sleep (f.begun name run ids)).2.finished name run
        (((stage crowd name).runProgram ids).play sleep (f.begun name run ids)).1 := by
  rw [Stage.execute_eq, play_act_bind (begin_of_idle crowd name f hidle),
    play_act_bind (opened_eq crowd name _ run),
    play_act_bind (record_opened_eq crowd name f run ids)]
  show (((stage crowd name).runProgram ids).attempt.bind _).play sleep _ = _
  rw [play_bind, play_attempt]
  cases hprogram : ((stage crowd name).runProgram ids).play sleep (f.begun name run ids) with
  | mk ended g =>
      show (ofAct (stage crowd name).clear >>= _).play sleep g = _
      rw [play_act_bind (clear_eq crowd name g)]
      show _ = g.finished name run ended
      unfold finished
      cases Stage.outcomeOf ended with
      | error fault => rfl
      | ok outcome =>
          show (ofAct ((stage crowd name).conclude run outcome)).play sleep _ = _
          rw [play_ofAct, conclude_eq]

/-- While another run is in progress a run is refused. -/
theorem execute_play_of_running (hrunning : (f.contexts name).phase = .running) :
    ((stage crowd name).execute run ids).play sleep f = (.error .runInProgress, f) := by
  rw [Stage.execute_eq]
  show ((ofAct (stage crowd name).begin).bind _).play sleep f = _
  have hrefused : (stage crowd name).begin f = (.error .runInProgress, f) :=
    Stage.begin_of_running hrunning
  rw [play_bind, play_ofAct, hrefused]

end Acts

end Fleet

end Gridwalk
