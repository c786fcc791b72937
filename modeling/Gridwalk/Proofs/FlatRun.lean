import Gridwalk.Proofs.DeedOutcomes

/-!
# Loops are a way to write programs shorter

`execute_flat` compares the run of a program with the run of its flat form: played from the
same fleet, with pauses answered in the same way, both leave the same sight of the context and
have the same results, except that the program is aborted at the first cut of its expansion
if nothing aborted it before.  If no pause raises a fault, both do all actions of the
expansion, and only a cut keeps the program from being completed.
-/

set_option autoImplicit false

namespace Gridwalk

/-- The outcome of a program that has a cut, from the outcome of its flat form. -/
def Outcome.cutShort : (cut : Option String) → Outcome → Outcome
  | some id, .completed => .aborted (.loopTooDeep maxLoopDepth id)
  | _, outcome => outcome

/-- The result of a program with a cut matches the result of its flat form: the same fault
passed through, or as many steps were executed, with the same actor at the end and the same hits
at the edge, and the outcomes are as the cut makes them. -/
def RunResult.Matches (cut : Option String) :
    Except Fault RunResult → Except Fault RunResult → Prop
  | .ok nested, .ok flat =>
      nested.stepsExecuted = flat.stepsExecuted ∧ nested.actor = flat.actor ∧
        hitsOf nested.events = hitsOf flat.events ∧
        nested.outcome = flat.outcome.cutShort cut
  | .error fault, .error fault' => fault = fault'
  | _, _ => False

namespace Fleet

open Routine

section Ends

variable {f g : Fleet} (name : String)

/-- A run that begins is recording, with no hit and no action yet. -/
theorem sight_begun (f : Fleet) (run : RunId) (ids : List Phrase) :
    (f.begun name run ids).sight name =
      { f.sight name with isRecording := true, hits := [], actionsCompleted := 0 } := by
  simp [sight, begun, Context.opened, Context.record, hitsOf, Occurrence.type]

/-- The clearing after a run leaves its count. -/
theorem actionsCompleted_cleared (f : Fleet) :
    ((f.cleared name).contexts name).actionsCompleted =
      (f.contexts name).actionsCompleted := by
  simp [cleared, Fleet.change]

/-- What is seen of clearing is that the flags of the actor are cleared. -/
theorem sight_cleared_eq (f : Fleet) :
    (f.cleared name).sight name =
      (f.change name { isMoving := some false, isHittingBounds := some false }).sight name := by
  have hphase (h : Fleet) :
      (h.alter name fun c => { c with phase := .idle }).sight name = h.sight name := by
    simp [sight]
  rw [cleared, hphase, sight_change, sight_change, sight_showIndex]

/-- Clearing keeps fleets alike. -/
theorem sight_cleared (hsight : f.sight name = g.sight name) :
    (f.cleared name).sight name = (g.cleared name).sight name := by
  rw [sight_cleared_eq, sight_cleared_eq, sight_change, sight_change, hsight]

/-- A run that is concluded is not recording, and nothing else is seen of it. -/
theorem sight_concluded (f : Fleet) (outcome : Outcome) :
    (f.concluded name outcome).sight name = { f.sight name with isRecording := false } := by
  rw [concluded_eq, ← sight_note_of_ne f name
    (type_closing_ne outcome (f.contexts name).actionsCompleted)]
  simp [sight]

/-- The hits of a result are those that are seen. -/
theorem hitsOf_resultOf (f : Fleet) (run : RunId) (outcome : Outcome) :
    hitsOf (f.resultOf name run outcome).events = (f.sight name).hits.reverse := by
  have hhits := congrArg Sight.hits (sight_note_of_ne f name
    (type_closing_ne outcome (f.contexts name).actionsCompleted))
  simp only [sight, note, contexts_alter_self] at hhits
  show hitsOf (((f.contexts name).record _).log.reverse) = _
  rw [hitsOf_reverse, hhits]
  rfl

/-- Runs whose programs end alike, but for a cut, are finished alike. -/
theorem finished_alike (hsight : f.sight name = g.sight name) (run run' : RunId)
    (cut : Option String) (ended : Except Fault Unit) :
    (f.finished name run (Mark.cutShort cut ended)).2.sight name =
        (g.finished name run' ended).2.sight name ∧
      RunResult.Matches cut (f.finished name run (Mark.cutShort cut ended)).1
        (g.finished name run' ended).1 := by
  have hcleared := sight_cleared name hsight
  have hresults (outcome outcome' : Outcome) (h : outcome = outcome'.cutShort cut) :
      RunResult.Matches cut (.ok ((f.cleared name).resultOf name run outcome))
        (.ok ((g.cleared name).resultOf name run' outcome')) := by
    refine ⟨congrArg Sight.actionsCompleted hcleared,
      congrArg (fun sight => sight.actor.value) hcleared, ?_, h⟩
    rw [hitsOf_resultOf, hitsOf_resultOf, hcleared]
  have hconcluded (outcome outcome' : Outcome) :
      ((f.cleared name).concluded name outcome).sight name =
        ((g.cleared name).concluded name outcome').sight name := by
    rw [sight_concluded, sight_concluded, hcleared]
  cases ended with
  | ok u =>
      cases cut with
      | none => exact ⟨hconcluded _ _, hresults _ _ rfl⟩
      | some id => exact ⟨hconcluded _ _, hresults _ _ rfl⟩
  | error fault =>
      have hsame : Mark.cutShort cut (.error fault) = .error fault := by cases cut <;> rfl
      rw [hsame]
      cases hordinary : fault.isOrdinary with
      | true =>
          simp only [finished, Stage.outcomeOf, hordinary, if_true]
          exact ⟨hconcluded _ _, hresults _ _ (by cases cut <;> rfl)⟩
      | false =>
          simp only [finished, Stage.outcomeOf, hordinary]
          exact ⟨hcleared, rfl⟩

end Ends

section Programs

variable (crowd : Crowd) (name : String) (answers : List Pause → Pause → Answer)

/-- A program and its flat form leave the same sight, and end alike but for a cut. -/
theorem runProgram_flat {f g : Fleet} (hsight : f.sight name = g.sight name)
    (ids : List Phrase) {marks : List Mark}
    (hmarks : marks = (g.contexts name).catalog.expansion ids) :
    (((stage crowd name).runProgram ids).play (pace answers) f).2.sight name =
        (((stage crowd name).runProgram (Mark.flat marks)).play (pace answers) g).2.sight name ∧
      (((stage crowd name).runProgram ids).play (pace answers) f).1 =
        Mark.cutShort (Mark.cut? marks)
          (((stage crowd name).runProgram (Mark.flat marks)).play (pace answers) g).1 := by
  let catalog := (g.contexts name).catalog
  let moving : Actor.Change := { isMoving := some true }
  let flat := ofAct ((stage crowd name).updateActor moving) >>= fun _ =>
    (stage crowd name).carryOut ((Mark.actions marks).map .action)
  have hnested : Agrees (alike name catalog answers) ((stage crowd name).runProgram ids)
      (flat >>= fun _ => refuseAt (Mark.cut? marks)) := by
    rw [LawfulMonad.bind_assoc]
    refine (updateActor_agrees crowd name catalog answers moving).bind fun _ => ?_
    rw [← Stage.carryOut_eq, hmarks]
    exact runSteps_agrees crowd name catalog answers 0 ids
  have hflat : Agrees (alike name catalog answers)
      ((stage crowd name).runProgram (Mark.flat marks)) flat := by
    refine (updateActor_agrees crowd name catalog answers moving).bind fun _ => ?_
    rw [← expansion_flat hmarks]
    exact runSteps_agrees crowd name catalog answers 0 (Mark.flat marks)
  -- Both are compared with the actions of the flat form, carried out from the second fleet.
  obtain ⟨hended, hseen, -⟩ := hnested f g ⟨hsight, rfl⟩
  obtain ⟨hended', hseen', -⟩ := hflat g g ⟨rfl, rfl⟩
  have hcut := play_refuseAt (pace answers) flat (Mark.cut? marks) g
  constructor
  · calc (((stage crowd name).runProgram ids).play (pace answers) f).2.sight name
        = ((flat >>= fun _ => refuseAt (Mark.cut? marks)).play (pace answers) g).2.sight name :=
          hseen
      _ = (flat.play (pace answers) g).2.sight name := by rw [hcut]
      _ = _ := hseen'.symm
  · calc (((stage crowd name).runProgram ids).play (pace answers) f).1
        = ((flat >>= fun _ => refuseAt (Mark.cut? marks)).play (pace answers) g).1 := hended
      _ = Mark.cutShort (Mark.cut? marks) (flat.play (pace answers) g).1 := by rw [hcut]
      _ = _ := congrArg (Mark.cutShort (Mark.cut? marks)) hended'.symm

end Programs

/-! ## If no pause raises a fault -/

/-- The flat form of a program ends without a fault, with all actions counted. -/
theorem runProgram_flat_smooth (crowd : Crowd) (name : String)
    {answers : List Pause → Pause → Answer} (hanswers : ∀ earlier p, answers earlier p = .ok ())
    {f : Fleet} (hforeign : (f.contexts name).actor.value.foreign = []) {marks : List Mark}
    {ids : List Phrase} (hmarks : marks = (f.contexts name).catalog.expansion ids) :
    ∃ g, ((stage crowd name).runProgram (Mark.flat marks)).play (pace answers) f = (.ok (), g) ∧
      (g.contexts name).actionsCompleted =
        (f.contexts name).actionsCompleted + (Mark.actions marks).length := by
  obtain ⟨g, hplay, hg⟩ := runProgram_leads crowd name hforeign (expansion_flat hmarks).symm
    (.inr hanswers)
  rw [Mark.cut?_map_action] at hplay
  have hcount := congrArg Sight.actionsCompleted hg
  refine ⟨g, hplay, hcount.trans ?_⟩
  show (f.contexts name).actionsCompleted + _ = _
  rw [Actor.actions_departure, List.length_map, Mark.actions_map_action]

/-! ## Runs of programs and of their flat forms -/

/-- A program and its flat form, which names basic commands only, do the same.  Played from the
same fleet, with pauses answered in the same way, both runs tell of the same actors, make the
same pauses, record the same hits, and leave the same actor and the same number of counted
actions; their results match, up to the first cut.  If the context is idle and the pauses raise
no faults, both runs do all actions of the expansion, and the program is completed exactly if
its expansion has no cut. -/
theorem execute_flat (crowd : Crowd) (name : String) (answers : List Pause → Pause → Answer)
    (f : Fleet) (run run' : RunId) (ids : List Phrase) :
    let marks := (f.contexts name).catalog.expansion ids
    let nested := ((stage crowd name).execute run ids).play (pace answers) f
    let flat := ((stage crowd name).execute run' (Mark.flat marks)).play (pace answers) f
    (∀ id ∈ Mark.flat marks, ∃ b, (f.contexts name).catalog.named id = some (.basic b)) ∧
      nested.2.sight name = flat.2.sight name ∧
      RunResult.Matches (Mark.cut? marks) nested.1 flat.1 ∧
      ((f.contexts name).phase = .idle → (f.contexts name).actor.value.foreign = [] →
        (∀ earlier p, answers earlier p = .ok ()) →
        ∃ result flatResult, nested.1 = .ok result ∧ flat.1 = .ok flatResult ∧
          flatResult.outcome = .completed ∧
          flatResult.stepsExecuted = (Mark.actions marks).length ∧
          result.outcome = Outcome.cutShort (Mark.cut? marks) .completed) := by
  intro marks nested flat
  refine ⟨?_, ?_⟩
  · intro id hid
    obtain ⟨b, hb, rfl⟩ := List.mem_map.mp hid
    exact ⟨b, named_of_mem_expansion (mem_of_mem_actions hb)⟩
  cases hphase : (f.contexts name).phase with
  | running =>
      have hnested : nested = (.error .runInProgress, f) :=
        execute_play_of_running crowd name f _ run ids hphase
      have hflat : flat = (.error .runInProgress, f) :=
        execute_play_of_running crowd name f _ run' _ hphase
      rw [hnested, hflat]
      exact ⟨rfl, rfl, fun hidle => nomatch hidle⟩
  | idle =>
      let opened := f.begun name run ids
      let opened' := f.begun name run' (Mark.flat marks)
      have hopened : opened.sight name = opened'.sight name := by
        rw [sight_begun, sight_begun]
      have hcatalog : (opened'.contexts name).catalog = (f.contexts name).catalog :=
        congrArg Sight.catalog (sight_begun name f run' (Mark.flat marks))
      have hmarks : marks = (opened'.contexts name).catalog.expansion ids := by
        rw [hcatalog]
      obtain ⟨hseen, hended⟩ := runProgram_flat crowd name answers hopened ids hmarks
      have hnested := execute_play_of_idle crowd name f (pace answers) run ids hphase
      have hflat := execute_play_of_idle crowd name f (pace answers) run' (Mark.flat marks) hphase
      have hfinished := finished_alike name hseen run run' (Mark.cut? marks)
        (((stage crowd name).runProgram (Mark.flat marks)).play (pace answers) opened').1
      rw [← hended] at hfinished
      change nested = _ at hnested
      change flat = _ at hflat
      rw [hnested, hflat]
      refine ⟨hfinished.1, hfinished.2, ?_⟩
      intro _ hforeign hanswers
      have hactor : (opened'.contexts name).actor = (f.contexts name).actor :=
        congrArg Sight.actor (sight_begun name f run' (Mark.flat marks))
      rw [← hactor] at hforeign
      obtain ⟨g, hplay, hcount⟩ := runProgram_flat_smooth crowd name hanswers hforeign hmarks
      have hzero : (opened'.contexts name).actionsCompleted = 0 :=
        congrArg Sight.actionsCompleted (sight_begun name f run' (Mark.flat marks))
      rw [hplay] at hended ⊢
      let left := (((stage crowd name).runProgram ids).play (pace answers) opened).2
      refine ⟨(left.cleared name).resultOf name run
        (Outcome.cutShort (Mark.cut? marks) .completed), _, ?_, rfl, rfl, ?_, rfl⟩
      · show (left.finished name run (Routine.play _ _ opened).1).1 = _
        rw [hended]
        cases Mark.cut? marks <;> rfl
      · show ((g.cleared name).contexts name).actionsCompleted = _
        rw [actionsCompleted_cleared, hcount, hzero, Nat.zero_add]

/-- A fleet whose contexts have one loop, which goes ahead and then does itself. -/
def recurring : Fleet where
  contexts _ :=
    { catalog := {
        commands := [
          .basic { id := "ahead", deed := .moveForward },
          .loop { id := "again", repeats := 1, children := ["ahead", "again"] }]
        distinct := by decide } }

/-- A loop that does itself is aborted at the ninth level, after eight actions. -/
theorem execute_flat_recurring :
    ∃ result flatResult,
      (((stage .quiet "a").execute (.ofNat 0) ["again", "ahead"]).play (pace fun _ _ => .ok ())
        recurring).1 = .ok result ∧
      (((stage .quiet "a").execute (.ofNat 1) (List.replicate 8 "ahead")).play
        (pace fun _ _ => .ok ()) recurring).1 = .ok flatResult ∧
      flatResult.outcome = .completed ∧ flatResult.stepsExecuted = 8 ∧
      result.outcome = .aborted (.loopTooDeep 8 "again") := by
  have h := execute_flat .quiet "a" (fun _ _ => .ok ()) recurring (.ofNat 0) (.ofNat 1)
    ["again", "ahead"]
  have hmarks : (recurring.contexts "a").catalog.expansion ["again", "ahead"] =
      List.replicate 8 (.action { id := "ahead", deed := .moveForward }) ++
        [.cut "again", .action { id := "ahead", deed := .moveForward }] := by decide
  rw [hmarks] at h
  exact h.2.2.2 rfl rfl fun _ _ => rfl

end Fleet

end Gridwalk
