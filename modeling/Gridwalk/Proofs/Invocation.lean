import Gridwalk.Proofs.Composition
import Gridwalk.Proofs.CallInvariants

/-!
# A loop that is invoked by itself

A loop can be invoked by itself, or by the run of a program that consists of its id.  Both look the
id up in the catalog and do what they find there, with all levels of loops still to enter.  They
go in tandem (`Fleet.invoke_tandem`), so they make the same pauses, show the same actors, count the
same actions and end alike.  What the run does besides is its own bookkeeping, and commands leave
that alone (`Fleet.backdrop_tends`).
-/

set_option autoImplicit false

namespace Gridwalk

namespace Fleet

open Routine

/-! ## What commands leave alone -/

/-- What shows of a run in a context: its id, its events once it is over, its position, its phase,
and the flag of a moved actor. -/
structure Backdrop where
  run : Option RunId
  log : List Event
  index : Position
  phase : Phase
  isMoving : Json

/-- What a context shows of a run.  While a run id is set, its events are still to come. -/
def backdrop (f : Fleet) (name : String) : Backdrop where
  run := (f.contexts name).run
  log := if (f.contexts name).run.isSome then [] else (f.contexts name).log
  index := (f.contexts name).activeIndex.value
  phase := (f.contexts name).phase
  isMoving := (f.contexts name).actor.value.shown .isMoving

section Backdrops

variable {name : String} {f g : Fleet}

/-- A change of the actor is no part of the backdrop, unless it names the sign of moving. -/
theorem backdrop_change (f : Fleet) {change : Actor.Change}
    (hchange : change.names .isMoving = false) :
    (f.change name change).backdrop name = f.backdrop name := by
  simp [backdrop, Fleet.change, Actor.shown_apply hchange]

/-- A hold at the edge is no part of the backdrop. -/
theorem backdrop_hold (f : Fleet) (held : Bool) :
    (f.change name (.hold held)).backdrop name = f.backdrop name :=
  backdrop_change f rfl

/-- A record is no part of the backdrop: outside of a run nothing is recorded. -/
theorem backdrop_note (f : Fleet) (occurrence : Occurrence) :
    (f.note name occurrence).backdrop name = f.backdrop name := by
  cases hrun : (f.contexts name).run with
  | none => simp [backdrop, note, Context.record, hrun]
  | some run => simp [backdrop, note, Context.record, hrun]

/-- What commands do leaves the backdrop alone. -/
theorem Calm.backdrop_eq (h : Calm name f g) : g.backdrop name = f.backdrop name := by
  cases h with
  | counted => simp [backdrop]
  | skipped id parent => exact backdrop_note f _
  | blocked hsign htarget hout => exact backdrop_note f _
  | @moved _ x y hsign htarget hin =>
      refine backdrop_change f ?_
      cases x <;> cases y <;> rfl
  | @turned _ angle hangle =>
      refine backdrop_change f ?_
      cases angle <;> rfl

/-- Commands keep to the regime that spares the backdrop. -/
theorem backdrop_tends (name : String) :
    (Regime.sparing fun f : Fleet => f.backdrop name).Tends name where
  calm h hcalm := hcalm.backdrop_eq.trans h
  step h := h
  afterStep _ _ := rfl
  edge h := (backdrop_hold _ true).trans h
  afterEdge _ _ := backdrop_hold _ false

/-- A command that is invoked by itself leaves the backdrop alone. -/
theorem backdrop_invoke (crowd : Crowd) (name : String) (answers : List Pause → Pause → Answer)
    (f : Fleet) (command : Command) :
    (((stage crowd name).invoke command).play (pace answers) f).2.backdrop name =
      f.backdrop name :=
  play_of_sparing (fun _ _ => rfl)
    (invoke_obeys (backdrop_tends name) crowd command ⟨none, f⟩ f rfl)

end Backdrops

/-! ## The loop and its run -/

section Loops

variable (crowd : Crowd) (name : String) (answers : List Pause → Pause → Answer) (f : Fleet)
  (l : Loop)

/-- A loop that is invoked is looked up again by its id. -/
theorem invoke_loop_eq :
    (stage crowd name).invoke (.loop l) =
      ofAct ((stage crowd name).lookup l.id) >>= fun
        | none => .done ()
        | some current => (stage crowd name).runCommand (levelsBelow 0) current :=
  rfl

/-- A loop that is invoked does what the catalog has under its id. -/
theorem invoke_loop_play :
    ((stage crowd name).invoke (.loop l)).play (pace answers) f =
      match (f.contexts name).catalog.lookup l.id with
      | none => (.ok (), f)
      | some current => ((stage crowd name).runCommand (levelsBelow 0) current).play (pace answers)
          f := by
  have hlookup : (stage crowd name).lookup l.id f =
      (.ok ((f.contexts name).catalog.lookup l.id), f) := rfl
  rw [invoke_loop_eq, play_act_bind hlookup]
  cases (f.contexts name).catalog.lookup l.id <;> rfl

/-- A loop that is invoked goes in tandem with the steps of the program that consists of its id. -/
theorem invoke_tandem {fields : List Actor.Field} (hpose : [Actor.Field.x, .y, .angle] ⊆ fields)
    (hmoving : Actor.Field.isMoving ∉ fields) (run : RunId) :
    let launched := f.launched name run [l.id]
    AgreesAt (tandem fields name f launched answers) ((stage crowd name).invoke (.loop l)) f
      ((stage crowd name).runSteps 0 [l.id]) launched := by
  intro launched
  have hattuned := (tandem_matched name f launched crowd answers hpose).attuned
  have hstart : Tandem fields name f launched f launched :=
    Sight.tandem_start (outline_launched f run [l.id] hmoving).symm
  have hsteps : (stage crowd name).runSteps 0 [l.id] = (stage crowd name).runStep 0 l.id :=
    Routine.bind_done _
  have hlookup : (stage crowd name).lookup l.id f =
      (.ok ((f.contexts name).catalog.lookup l.id), f) := rfl
  rw [hsteps, invoke_loop_eq]
  refine agreesAt_act_left hlookup ?_
  refine agreesAt_act_right (setIndex_eq crowd name launched _)
    (agreesAt_act_right (named_eq crowd name _ l.id) ?_)
  have hshown : Tandem fields name f launched f
      (launched.showIndex name (.index (Int.ofNat 0))) := by
    unfold Tandem
    rw [sight_showIndex]
    exact hstart
  have hnoted {occurrence : Occurrence} (htype : occurrence.type ≠ "BOUNDS_HIT") :
      Tandem fields name f launched f
        ((launched.showIndex name (.index (Int.ofNat 0))).note name occurrence) := by
    unfold Tandem
    rw [sight_note_of_ne _ name htype]
    exact hshown
  rw [hshown.catalog]
  show AgreesAt _ _ f (match ((launched.showIndex name _).contexts name).catalog.lookup l.id with
    | none => _
    | some command => _) _
  cases ((launched.showIndex name (.index (Int.ofNat 0))).contexts name).catalog.lookup l.id with
  | none => exact ⟨rfl, hnoted (by simp [Occurrence.type])⟩
  | some current =>
      refine agreesAt_act_right (record_eq crowd name _ _) ?_
      exact hattuned.command (levelsBelow 0) current _ _ (hnoted (by simp [Occurrence.type]))

/-- A loop that is invoked by itself, on an idle context without a run id, does the same as the run
of its id, whatever the loop looks like: what the catalog has under the id is done, and nothing if
it has nothing.  Both make the same pauses, publish the same positions, angles and flags of holds,
apart from what a run publishes when it starts and when it is cleared, and count the same actions.
The loop raises a fault exactly if the run is aborted by it; and the loop leaves alone what shows
of a run. -/
theorem invoke_loop_executes {answers : List Pause → Pause → Answer}
    (hanswers : ∀ earlier p, IsMild (answers earlier p)) {f : Fleet}
    (hidle : (f.contexts name).phase = .idle) (hrun : (f.contexts name).run = none)
    (run : RunId) :
    let fields := [Actor.Field.x, .y, .angle, .isHittingBounds]
    let direct := ((stage crowd name).invoke (.loop l)).play (pace answers) f
    let left := direct.2.contexts name
    ∃ result g news,
      ((stage crowd name).execute run [l.id]).play (pace answers) f = (.ok result, g) ∧
      direct.2.pauses = g.pauses ∧
      glimpses fields direct.2.told = news ++ glimpses fields f.told ∧
      Publishes fields name f g news ∧
      left.actionsCompleted = (f.contexts name).actionsCompleted + result.stepsExecuted ∧
      (direct.1 = .ok () ∧ result.outcome = .completed ∨
        ∃ fault, direct.1 = .error fault ∧ result.outcome = .aborted fault) ∧
      direct = (match (f.contexts name).catalog.lookup l.id with
        | none => (.ok (), f)
        | some current => ((stage crowd name).runCommand (levelsBelow 0) current).play
            (pace answers) f) ∧
      left.run = none ∧ left.log = (f.contexts name).log ∧
      left.activeIndex.value = (f.contexts name).activeIndex.value ∧
      left.phase = .idle ∧
      left.actor.value.shown .isMoving = (f.contexts name).actor.value.shown .isMoving := by
  intro fields direct left
  let launched := f.launched name run [l.id]
  let played := ((stage crowd name).runSteps 0 [l.id]).play (pace answers) launched
  have hmoving : Actor.Field.isMoving ∉ fields := by decide
  obtain ⟨outcome, -, hcases, hplay⟩ := execute_play_of_mild crowd hanswers hidle run [l.id]
  obtain ⟨hended, htandem⟩ := invoke_tandem crowd name answers f l
    (show [Actor.Field.x, .y, .angle] ⊆ fields by simp [fields]) hmoving run
  change direct.1 = played.1 at hended
  change Tandem fields name f launched direct.2 played.2 at htandem
  obtain ⟨news, hdirect, hsteps⟩ := htandem.news
  have hdelivers := delivers_concluded run outcome hmoving hsteps
  have hbackdrop := backdrop_invoke crowd name answers f (.loop l)
  change direct.2.backdrop name = f.backdrop name at hbackdrop
  have hleft : left.run = none := (congrArg Backdrop.run hbackdrop).trans hrun
  have hlog : left.log = (f.contexts name).log := by
    have hlogs := congrArg Backdrop.log hbackdrop
    simpa [backdrop, hrun, show (direct.2.contexts name).run = none from hleft] using hlogs
  have hpauses := htandem.pauses.trans (pauses_concluded played.2 name outcome).symm
  refine ⟨_, _, news.seen, hplay, hpauses, ?_, hdelivers.published, ?_, ?_,
    invoke_loop_play crowd name answers f l, hleft, hlog, congrArg Backdrop.index hbackdrop,
    (congrArg Backdrop.phase hbackdrop).trans hidle, congrArg Backdrop.isMoving hbackdrop⟩
  · rw [← glimpses_actorTellings, ← glimpses_actorTellings fields f.told]
    exact hdirect.seen
  · exact hdirect.actions.trans (congrArg _ hdelivers.steps.symm)
  · rw [hended]
    exact hcases

end Loops

/-- A catalog with a loop that leads three cells ahead. -/
def strollCatalog : Catalog where
  commands := [
    .basic ⟨"moveForward", "", "", .moveForward⟩,
    .loop { id := "stroll", repeats := 3, children := ["moveForward"] }]
  distinct := by decide

/-- A fleet whose contexts have such a catalog. -/
def strolling : Fleet where
  contexts _ := { catalog := strollCatalog, actor := ⟨{}, ["watcher"]⟩ }

/-- A loop object of that id, with no children of its own, is stopped in its second step. -/
theorem invoke_loop_executes_stroll :
    let stop : Fault := .raised .runtime (some "stop")
    let direct := ((stage .quiet "a").invoke (.loop { id := "stroll" })).play
      (pace (failAfter 1 stop)) strolling
    direct.1 = .error stop ∧ (direct.2.contexts "a").actor.value.x = 100 ∧
      (direct.2.contexts "a").actionsCompleted = 1 ∧ (direct.2.contexts "a").log = [] ∧
      ∃ result g, ((stage .quiet "a").execute (.ofNat 0) ["stroll"]).play
          (pace (failAfter 1 stop)) strolling = (.ok result, g) ∧
        result.outcome = .aborted stop ∧ result.stepsExecuted = 1 ∧
        direct.2.pauses = g.pauses := by
  intro stop direct
  have hanswers (earlier : List Pause) (p : Pause) : IsMild (failAfter 1 stop earlier p) := by
    unfold failAfter
    split
    · exact isMild_error rfl
    · exact isMild_ok ()
  have hraised : direct.1 = .error stop := by decide +kernel
  have hplace : (direct.2.contexts "a").actor.value.x = 100 := by decide +kernel
  have hcount : (direct.2.contexts "a").actionsCompleted = 1 := by decide +kernel
  obtain ⟨result, g, news, hplay, hpauses, -, -, hsteps, hends, -, -, hlog, -⟩ :=
    invoke_loop_executes .quiet "a" { id := "stroll" } hanswers (f := strolling) rfl rfl (.ofNat 0)
  refine ⟨hraised, hplace, hcount, hlog, result, g, hplay, ?_, ?_, hpauses⟩
  · rcases hends with ⟨hok, -⟩ | ⟨fault, hfault, houtcome⟩
    · cases hraised.symm.trans hok
    · cases hraised.symm.trans hfault
      exact houtcome
  · have hsum : 1 = 0 + result.stepsExecuted := hcount.symm.trans hsteps
    omega

end Fleet

end Gridwalk
