import Gridwalk.Proofs.SightIndependence

/-!
# Runs compose

One run of two programs, the second one after the first, is compared with two runs, one for each
program.  Up to the end of the first program both do the same.  The first run is then cleared, and
the second one starts with empty records; but what commands make use of is as before
(`Fleet.outline_concluded`), so the second program is done in tandem
(`Fleet.runSteps_compose`).

Clearing also takes the flag of a hold away.  No program leaves that flag behind unless it found it,
and not even then if it held the actor at the edge (`Fleet.runSteps_lowers`).  So the flag makes no
difference, except to an actor that was flagged before the first run.
-/

set_option autoImplicit false

namespace Gridwalk

/-- The steps of two programs are done one program after the other. -/
theorem Stage.runSteps_append {σ : Type} (stage : Stage σ) (index : Nat) (p q : List Phrase) :
    stage.runSteps index (p ++ q) =
      stage.runSteps index p >>= fun _ => stage.runSteps (index + p.length) q := by
  induction p generalizing index with
  | nil => rfl
  | cons id rest ih =>
      have hcount : index + (id :: rest).length = index + 1 + rest.length := by
        rw [List.length_cons]
        omega
      rw [hcount]
      show stage.runStep index id >>= (fun _ => stage.runSteps (index + 1) (rest ++ q)) = _
      rw [ih]
      exact (Routine.bind_assoc _ _ _).symm

/-- A play that keeps a property of states, as one that is compared with itself. -/
def Pairing.keeping {σ : Type} (sleep : Pause → σ → Answer × σ) (P : σ → Prop) : Pairing σ σ where
  left := sleep
  right := sleep
  related s t := s = t ∧ P t

/-- The news of a stretch after those of an earlier one. -/
def News.after (newer older : News) : News where
  seen := newer.seen ++ older.seen
  hits := newer.hits ++ older.hits
  actions := older.actions + newer.actions

/-- How many pauses were holds at the edge. -/
def edgeHolds (pauses : List Pause) : Nat :=
  pauses.countP fun p => p.hold == .bounds

namespace Fleet

open Routine

/-! ## The flag of a hold -/

/-- The actor of a context shows no flag of a hold, or it shows the flag that it showed at first and
was not held since. -/
def Lowered (name : String) (start f : Fleet) : Prop :=
  (f.contexts name).actor.value.shown .isHittingBounds = .bool false ∨
    (f.contexts name).actor.value.shown .isHittingBounds =
        (start.contexts name).actor.value.shown .isHittingBounds ∧
      edgeHolds f.pauses = edgeHolds start.pauses

section Flags

variable (crowd : Crowd) (name : String) (answers : List Pause → Pause → Answer) (start : Fleet)

/-- Plays that leave no new flag of a hold behind. -/
def lowering : Pairing Fleet Fleet := .keeping (pace answers) (Lowered name start)

/-- A change that does not name the flag leaves it lowered. -/
theorem Lowered.change {name : String} {start f : Fleet} (h : Lowered name start f)
    {change : Actor.Change} (hchange : change.names .isHittingBounds = false) :
    Lowered name start (f.change name change) := by
  unfold Lowered Fleet.change
  rw [contexts_showActor_self, Actor.shown_apply hchange]
  exact h

/-- A change of the context that keeps the actor leaves the flag lowered. -/
theorem Lowered.alter {name : String} {start f : Fleet} (h : Lowered name start f)
    {g : Context → Context} (hg : ∀ c, (g c).actor = c.actor) :
    Lowered name start (f.alter name g) := by
  unfold Lowered
  rw [contexts_alter_self, hg]
  exact h

/-- Commands that change the actor without naming the flag leave it lowered. -/
theorem change_lowers {change : Actor.Change} (hchange : change.names .isHittingBounds = false) :
    Agrees (lowering name answers start)
      (ofAct ((stage crowd name).updateActor change) >>= fun _ => .done ())
      (ofAct ((stage crowd name).updateActor change) >>= fun _ => .done ()) := by
  rintro f _ ⟨rfl, h⟩
  exact agreesAt_act_left (updateActor_eq crowd name f change)
    (agreesAt_act_right (updateActor_eq crowd name f change)
      (agrees_done _ () _ _ ⟨rfl, h.change hchange⟩))

/-- Records leave the flag lowered. -/
theorem record_lowers (occurrence : Occurrence) :
    Agrees (lowering name answers start) (ofAct ((stage crowd name).record occurrence))
      (ofAct ((stage crowd name).record occurrence)) := by
  rintro f _ ⟨rfl, h⟩
  exact agreesAt_acts rfl ⟨rfl, h.alter fun c => c.actor_record occurrence⟩

/-- A step pause leaves the flag lowered: it is no hold at the edge. -/
theorem pause_lowers :
    Agrees (lowering name answers start) ((stage crowd name).pause .step)
      ((stage crowd name).pause .step) := by
  rintro f _ ⟨rfl, h⟩
  refine agreesAt_act_left (read_eq crowd name f) (agreesAt_act_right (read_eq crowd name f) ?_)
  refine agreesAt_rest rfl ⟨rfl, ?_⟩
  rcases h with h | ⟨hsame, hholds⟩
  · exact .inl h
  · exact .inr ⟨hsame, hholds⟩

/-- However a hold at the edge ends, the flag is taken away. -/
theorem holdAtEdge_lowers (f : Fleet) :
    ((((stage crowd name).holdAtEdge.play (pace answers) f).2.contexts name).actor.value.shown
      .isHittingBounds) = .bool false := by
  let paused := ((stage crowd name).pause .bounds).play (pace answers)
    (f.change name { isHittingBounds := some true })
  have hplay : (((stage crowd name).holdAtEdge).play (pace answers) f).2 =
      paused.2.change name { isHittingBounds := some false } := by
    let lowered : Except Fault Unit → Routine Fleet Unit := fun outcome =>
      (ofAct ((stage crowd name).updateActor { isHittingBounds := some false }) >>= fun _ =>
        .done ()) >>= fun _ => ofExcept outcome
    have hhold : (stage crowd name).holdAtEdge =
        ofAct ((stage crowd name).updateActor { isHittingBounds := some true }) >>= fun _ =>
          ((stage crowd name).pause .bounds).attempt.bind lowered := rfl
    have hlowered : ((lowered paused.1).play (pace answers) paused.2).2 =
        paused.2.change name { isHittingBounds := some false } := by
      show (((ofAct _ >>= fun _ => .done ()) >>= fun _ => ofExcept paused.1).play _ _).2 = _
      rw [LawfulMonad.bind_assoc, play_act_bind (updateActor_eq crowd name paused.2 _)]
      cases paused.1 <;> rfl
    rw [hhold, play_act_bind (updateActor_eq crowd name f _), play_bind, play_attempt]
    exact hlowered
  rw [hplay, Fleet.change, contexts_showActor_self]
  exact Actor.shown_apply_of_names rfl _ {}

/-- A move leaves the flag lowered, for a hold at the edge ends with lowering it. -/
theorem move_lowers (sign : Int) :
    Agrees (lowering name answers start) ((stage crowd name).move sign)
      ((stage crowd name).move sign) := by
  rintro f _ ⟨rfl, h⟩
  refine agreesAt_act_left (read_eq crowd name f) (agreesAt_act_right (read_eq crowd name f) ?_)
  refine agreesAt_ofExcept_bind ⟨rfl, h⟩ ?_
  rintro ⟨x, y⟩ -
  refine agreesAt_ofExcept_bind ⟨rfl, h⟩ fun out _ => ?_
  cases out with
  | true =>
      refine agreesAt_bind (record_lowers crowd name answers start _ f f ⟨rfl, h⟩) fun _ => ?_
      refine Agrees.bind (fun f g hfg => ?_) fun _ => pause_lowers crowd name answers start
      rw [hfg.1]
      exact ⟨rfl, rfl, .inl (holdAtEdge_lowers crowd name answers g)⟩
  | false =>
      have hplace : (Actor.Change.place x y).names .isHittingBounds = false := by
        cases x <;> cases y <;> rfl
      exact (change_lowers crowd name answers start hplace).discard
        (pause_lowers crowd name answers start) f f ⟨rfl, h⟩

/-- A turn leaves the flag lowered. -/
theorem turn_lowers (degrees : Int) :
    Agrees (lowering name answers start) ((stage crowd name).turn degrees)
      ((stage crowd name).turn degrees) := by
  rintro f _ ⟨rfl, h⟩
  refine agreesAt_act_left ((stage crowd name).actor_eq f)
    (agreesAt_act_right ((stage crowd name).actor_eq f) ?_)
  refine agreesAt_ofExcept_bind ⟨rfl, h⟩ fun angle _ => ?_
  have hface : (Actor.Change.face angle).names .isHittingBounds = false := by
    cases angle <;> rfl
  exact (change_lowers crowd name answers start hface).discard
    (pause_lowers crowd name answers start) f f ⟨rfl, h⟩

/-- No program leaves a new flag of a hold behind. -/
theorem lowering_attuned :
    (stage crowd name).Attuned (lowering name answers start) (stage crowd name) where
  catalog h := by rw [h.1]
  starting := change_lowers crowd name answers start rfl
  setIndex position := by
    rintro f _ ⟨rfl, h⟩
    refine agreesAt_acts rfl ⟨rfl, ?_⟩
    rw [setIndex_eq]
    unfold Lowered
    rw [contexts_showIndex_self]
    exact h
  record := record_lowers crowd name answers start
  countAction := by
    rintro f _ ⟨rfl, h⟩
    let count (c : Context) : Context := { c with actionsCompleted := c.actionsCompleted + 1 }
    have hcounted : Lowered name start (f.alter name count) := h.alter fun _ => rfl
    exact agreesAt_acts rfl ⟨rfl, hcounted⟩
  perform deed := by
    cases deed with
    | moveForward => exact move_lowers crowd name answers start 1
    | moveBack => exact move_lowers crowd name answers start (-1)
    | turnRight => exact turn_lowers crowd name answers start 90
    | turnLeft => exact turn_lowers crowd name answers start (-90)
    | custom id => exact agrees_done _ ()

/-- The steps of a program leave the flag of a hold only if it was shown at first and the actor was
not held at the edge meanwhile. -/
theorem runSteps_lowers (index : Nat) (ids : List Phrase) :
    Lowered name start (((stage crowd name).runSteps index ids).play (pace answers) start).2 :=
  ((lowering_attuned crowd name answers start).steps index ids start start
    ⟨rfl, .inr ⟨rfl, rfl⟩⟩).2.2

end Flags

/-! ## Programs in tandem -/

section Programs

variable (crowd : Crowd) (name : String) (answers : List Pause → Pause → Answer)
  {fields : List Actor.Field} (hpose : [Actor.Field.x, .y, .angle] ⊆ fields)

/-- The news of two stretches in a row add up. -/
theorem Sight.Adds.trans {start s t : Sight} {older newer : News}
    (h : start.Adds fields older s) (hnext : s.Adds fields newer t) :
    start.Adds fields (newer.after older) t where
  seen := by rw [hnext.seen, h.seen, News.after, List.append_assoc]
  hits := by
    rw [hnext.hits, h.hits, h.isRecording]
    cases start.isRecording <;> simp [News.after]
  actions := by rw [hnext.actions, h.actions, News.after, Nat.add_assoc]
  isRecording := hnext.isRecording.trans h.isRecording

include hpose

/-- The steps of a program are done in tandem, at whatever positions they are. -/
theorem runSteps_tandem (left right : Fleet) (index index' : Nat) (ids : List Phrase) :
    Agrees (tandem fields name left right answers) ((stage crowd name).runSteps index ids)
      ((stage crowd name).runSteps index' ids) := by
  have hattuned := (tandem_matched name left right crowd answers hpose).attuned
  induction ids generalizing index index' with
  | nil => exact agrees_done _ ()
  | cons id rest ih =>
      refine Agrees.bind (fun f g h => ?_) fun _ => ih (index + 1) (index' + 1)
      refine agreesAt_act_left (setIndex_eq crowd name f _)
        (agreesAt_act_right (setIndex_eq crowd name g _) ?_)
      have hshown := h.showIndex (.index (Int.ofNat index)) (.index (Int.ofNat index'))
      refine agreesAt_act_left (named_eq crowd name _ id)
        (agreesAt_act_right (named_eq crowd name _ id) ?_)
      rw [hshown.catalog]
      cases ((g.showIndex name (.index (Int.ofNat index'))).contexts name).catalog.named id with
      | none => exact agreesAt_acts rfl (hshown.note (by simp [Occurrence.type])
          (by simp [Occurrence.type]))
      | some command =>
          refine agreesAt_act_left (record_eq crowd name _ _)
            (agreesAt_act_right (record_eq crowd name _ _) ?_)
          exact hattuned.command (levelsBelow 0) command _ _
            (hshown.note (by simp [Occurrence.type]) (by simp [Occurrence.type]))

/-- Two programs are done from one fleet, and each of them from a fleet of its own.  If the first
program ends without a fault, and the second one begins with what commands make use of as the first
one left it, then the two programs together end as the second one does, and bring the news of
both. -/
theorem runSteps_compose {start first between second : Fleet} {p q : List Phrase}
    (hstart : first.sight name = start.sight name)
    (hfirst : ((stage crowd name).runSteps 0 p).play (pace answers) first = (.ok (), between))
    (hnext : (second.sight name).outline fields = (between.sight name).outline fields) :
    let after := ((stage crowd name).runSteps 0 q).play (pace answers) second
    let joint := ((stage crowd name).runSteps 0 (p ++ q)).play (pace answers) start
    joint.1 = after.1 ∧
      (joint.2.sight name).outline fields = (after.2.sight name).outline fields ∧
      ∃ older newer,
        (first.sight name).Adds fields older (between.sight name) ∧
          (second.sight name).Adds fields newer (after.2.sight name) ∧
          (start.sight name).Adds fields (newer.after older) (joint.2.sight name) := by
  intro after joint
  obtain ⟨hended, hmiddle⟩ := runSteps_tandem crowd name answers hpose first start 0 0 p first start
    (Sight.tandem_start (congrArg (Sight.outline fields) hstart))
  change (((stage crowd name).runSteps 0 p).play (pace answers) first).1 =
    (((stage crowd name).runSteps 0 p).play (pace answers) start).1 at hended
  change Tandem fields name first start
    (((stage crowd name).runSteps 0 p).play (pace answers) first).2
    (((stage crowd name).runSteps 0 p).play (pace answers) start).2 at hmiddle
  have hjoint : joint = ((stage crowd name).runSteps p.length q).play (pace answers)
      (((stage crowd name).runSteps 0 p).play (pace answers) start).2 := by
    show ((stage crowd name).runSteps 0 (p ++ q)).play (pace answers) start = _
    rw [Stage.runSteps_append, Nat.zero_add]
    show (((stage crowd name).runSteps 0 p).bind _).play (pace answers) start = _
    rw [play_bind]
    rw [hfirst] at hended
    cases hplay : ((stage crowd name).runSteps 0 p).play (pace answers) start with
    | mk result middle =>
        rw [hplay] at hended
        change .ok () = result at hended
        rw [← hended]
  rw [hfirst] at hmiddle
  generalize (((stage crowd name).runSteps 0 p).play (pace answers) start).2 = middle
    at hmiddle hjoint
  obtain ⟨older, hbetween, hmid⟩ := hmiddle.news
  -- The second program is done at other positions in the single run, which nobody sees here.
  obtain ⟨hsame, hlast⟩ := runSteps_tandem crowd name answers hpose second middle 0 p.length q
    second middle (Sight.tandem_start (hnext.trans hmiddle.outline))
  obtain ⟨newer, hafter, hrest⟩ := hlast.news
  rw [hjoint]
  exact ⟨hsame.symm, hlast.outline.symm, older, newer, hbetween, hafter, hmid.trans hrest⟩

end Programs

/-! ## Runs -/

section Runs

variable {crowd : Crowd} {name : String} {answers : List Pause → Pause → Answer} {f : Fleet}

/-- Concluding a run changes nothing that commands make use of, but for the flags of the actor. -/
theorem outline_concluded {fields : List Actor.Field} (hmoving : Actor.Field.isMoving ∉ fields)
    (hflag : Actor.Field.isHittingBounds ∈ fields →
      (f.contexts name).actor.value.shown .isHittingBounds = .bool false) (outcome : Outcome) :
    (((f.cleared name).concluded name outcome).sight name).outline fields =
      (f.sight name).outline fields := by
  have hseen : ((f.contexts name).actor.value.apply stilled).seen fields =
      (f.contexts name).actor.value.seen fields := by
    refine List.map_congr_left fun field hfield => ?_
    cases field with
    | x => exact Actor.shown_apply rfl _
    | y => exact Actor.shown_apply rfl _
    | angle => exact Actor.shown_apply rfl _
    | isMoving => exact absurd hfield hmoving
    | isHittingBounds =>
        rw [hflag hfield]
        have hnames : stilled.names .isHittingBounds = true := rfl
        exact Actor.shown_apply_of_names hnames _ {}
  rw [sight_closed, sight_change]
  exact congrArg (Outline.mk _ _ _ _) hseen

/-- A run that was completed, one that follows it, and one that does both at once deliver the news
of the two programs, if the first one left no flag of a hold that could be seen. -/
theorem delivers_compose {fields : List Actor.Field} (hpose : [Actor.Field.x, .y, .angle] ⊆ fields)
    (hmoving : Actor.Field.isMoving ∉ fields) {between : Fleet} {p : List Phrase} {run : RunId}
    (hsteps : ((stage crowd name).runSteps 0 p).play (pace answers) (f.launched name run p) =
      (.ok (), between))
    (hflag : Actor.Field.isHittingBounds ∈ fields →
      (between.contexts name).actor.value.shown .isHittingBounds = .bool false)
    (q : List Phrase) (next whole : RunId) (outcome : Outcome) :
    let g := (between.cleared name).concluded name .completed
    let after := ((stage crowd name).runSteps 0 q).play (pace answers) (g.launched name next q)
    let joint := ((stage crowd name).runSteps 0 (p ++ q)).play (pace answers)
      (f.launched name whole (p ++ q))
    joint.1 = after.1 ∧
      (joint.2.sight name).outline fields = (after.2.sight name).outline fields ∧
      ∃ older newer,
        Delivers fields name f older ((between.cleared name).resultOf name run .completed) g ∧
          Delivers fields name g newer ((after.2.cleared name).resultOf name next outcome)
            ((after.2.cleared name).concluded name outcome) ∧
          Delivers fields name f (newer.after older)
            ((joint.2.cleared name).resultOf name whole outcome)
            ((joint.2.cleared name).concluded name outcome) := by
  intro g after joint
  obtain ⟨hended, houtline, older, newer, hbetween, hafter, hjoint⟩ :=
    runSteps_compose crowd name answers hpose (q := q)
      (sight_launched f name run whole p (p ++ q)) hsteps
      ((outline_launched _ next q hmoving).trans (outline_concluded hmoving hflag .completed))
  exact ⟨hended, houtline, older, newer, delivers_concluded run .completed hmoving hbetween,
    delivers_concluded next outcome hmoving hafter,
    delivers_concluded whole outcome hmoving hjoint⟩

/-- Three runs, of which the first two follow each other and the third one does both at once,
publish the same values of some fields, apart from what runs publish when they start and when they
are cleared. -/
def Composes (fields : List Actor.Field) (name : String) (f g h k : Fleet) : Prop :=
  ∃ older newer, Publishes fields name f g older ∧ Publishes fields name g h newer ∧
    Publishes fields name f k (newer ++ older)

/-- Actors that are shown alike at the end of two runs are shown alike when these are cleared. -/
theorem shown_concluded {g : Fleet} (h : (f.sight name).outline [.x, .y, .angle] =
      (g.sight name).outline [.x, .y, .angle]) (outcome : Outcome) (field : Actor.Field) :
    (((f.cleared name).concluded name outcome).contexts name).actor.value.shown field =
      (((g.cleared name).concluded name outcome).contexts name).actor.value.shown field := by
  have hactor (k : Fleet) : (((k.cleared name).concluded name outcome).contexts name).actor.value =
      (k.contexts name).actor.value.apply stilled := by
    rw [actor_closed, Fleet.change, contexts_showActor_self]
  have hseen : (f.contexts name).actor.value.seen [.x, .y, .angle] =
      (g.contexts name).actor.value.seen [.x, .y, .angle] := congrArg Outline.seen h
  rw [hactor, hactor]
  cases hnames : stilled.names field with
  | true => exact Actor.shown_apply_of_names hnames _ _
  | false =>
      rw [Actor.shown_apply hnames, Actor.shown_apply hnames]
      refine Actor.shown_of_seen hseen ?_
      cases field with
      | x => simp
      | y => simp
      | angle => simp
      | isMoving => cases hnames
      | isHittingBounds => cases hnames

end Runs

/-- A run that was completed is its steps, launched, cleared and concluded, and no step raised a
fault. -/
theorem runSteps_of_completed (crowd : Crowd) (name : String)
    {answers : List Pause → Pause → Answer} (hanswers : ∀ earlier p, IsMild (answers earlier p))
    {f g : Fleet} {ids : List Phrase} {run : RunId} {result : RunResult}
    (hplay : ((stage crowd name).execute run ids).play (pace answers) f = (.ok result, g))
    (hcompleted : result.outcome = .completed) :
    (f.contexts name).phase = .idle ∧
      ∃ between, ((stage crowd name).runSteps 0 ids).play (pace answers) (f.launched name run ids) =
          (.ok (), between) ∧
        (between.cleared name).resultOf name run .completed = result ∧
        (between.cleared name).concluded name .completed = g := by
  have hidle : (f.contexts name).phase = .idle := by
    cases hphase : (f.contexts name).phase with
    | idle => rfl
    | running =>
        rw [execute_play_of_running crowd name f _ run ids hphase] at hplay
        cases hplay
  obtain ⟨outcome, -, hcases, hends⟩ := execute_play_of_mild crowd hanswers hidle run ids
  rw [hends] at hplay
  obtain ⟨hresult, hleft⟩ := Prod.mk.inj hplay
  obtain rfl := Except.ok.inj hresult
  obtain rfl : outcome = .completed := hcompleted
  refine ⟨hidle, _, Prod.ext ?_ rfl, rfl, hleft⟩
  rcases hcases with ⟨hok, -⟩ | ⟨fault, -, hfault⟩
  · exact hok
  · cases hfault

/-- Runs compose.  Let the run of a program be completed, with pauses that raise ordinary faults at
worst.  Then the run of another program from where it ended, and the run of both programs at once,
come to their ends with the same outcome.  They leave the actor alike and have made the same pauses;
the single run records the hits of both runs, in order, and executes as many steps as both.  The
single run publishes the same positions and angles, in order, and also the same flags of holds,
unless the actor was flagged before the first run and not held at the edge during it. -/
theorem execute_append (crowd : Crowd) (name : String) {answers : List Pause → Pause → Answer}
    (hanswers : ∀ earlier p, IsMild (answers earlier p)) {f g : Fleet} {p : List Phrase}
    {run : RunId} {first : RunResult}
    (hfirst : ((stage crowd name).execute run p).play (pace answers) f = (.ok first, g))
    (hcompleted : first.outcome = .completed) (q : List Phrase) (next whole : RunId) :
    ∃ second h joint k,
      ((stage crowd name).execute next q).play (pace answers) g = (.ok second, h) ∧
      ((stage crowd name).execute whole (p ++ q)).play (pace answers) f = (.ok joint, k) ∧
      joint.outcome = second.outcome ∧
      (∀ field, (k.contexts name).actor.value.shown field =
        (h.contexts name).actor.value.shown field) ∧
      k.pauses = h.pauses ∧
      hitsOf joint.events = hitsOf first.events ++ hitsOf second.events ∧
      joint.stepsExecuted = first.stepsExecuted + second.stepsExecuted ∧
      Composes [.x, .y, .angle] name f g h k ∧
      ((f.contexts name).actor.value.shown .isHittingBounds = .bool false ∨
          edgeHolds g.pauses ≠ edgeHolds f.pauses →
        Composes [.x, .y, .angle, .isHittingBounds] name f g h k) := by
  obtain ⟨hidle, between, hsteps, rfl, rfl⟩ :=
    runSteps_of_completed crowd name hanswers hfirst hcompleted
  have hlowered := runSteps_lowers crowd name answers (f.launched name run p) 0 p
  rw [hsteps] at hlowered
  have hrested : (((between.cleared name).concluded name .completed).contexts name).phase =
      .idle := by
    rw [phase_concluded, cleared, contexts_alter_self]
  obtain ⟨outcome, hsecond, -, hafter⟩ := execute_play_of_mild crowd hanswers hrested next q
  obtain ⟨outcome', hwhole, -, hjoint⟩ := execute_play_of_mild crowd hanswers hidle whole (p ++ q)
  have hunflagged : Actor.Field.isHittingBounds ∈ [Actor.Field.x, .y, .angle] →
      (between.contexts name).actor.value.shown .isHittingBounds = .bool false :=
    fun h => absurd h (by decide)
  obtain ⟨hended, houtline, older, newer, hold, hnew, hboth⟩ :=
    delivers_compose (List.Subset.refl _) (by decide) hsteps hunflagged q next whole outcome
  obtain rfl : outcome' = outcome := by
    rw [hended, hsecond] at hwhole
    exact (Except.ok.inj hwhole).symm
  refine ⟨_, _, _, _, hafter, hjoint, rfl, shown_concluded houtline outcome', ?_, ?_, ?_,
    ⟨_, _, hold.published, hnew.published, hboth.published⟩, ?_⟩
  · exact congrArg Outline.pauses houtline
  · rw [hboth.hits, hold.hits, hnew.hits]
    exact List.reverse_append
  · rw [hboth.steps, hold.steps, hnew.steps]
    rfl
  · -- The flag may be looked at, too, if it is down where the first run was cleared.
    intro hstart
    have hflag : (between.contexts name).actor.value.shown .isHittingBounds = .bool false := by
      rcases hlowered with hlow | ⟨hsame, hholds⟩
      · exact hlow
      · rw [hsame, actor_launched, Actor.shown_apply rfl]
        exact hstart.resolve_right fun hne => hne hholds
    have hpose : [Actor.Field.x, .y, .angle] ⊆ [.x, .y, .angle, .isHittingBounds] := by simp
    obtain ⟨-, -, older, newer, hold, hnew, hboth⟩ :=
      delivers_compose hpose (by decide) hsteps (fun _ => hflag) q next whole outcome'
    exact ⟨_, _, hold.published, hnew.published, hboth.published⟩

/-- A fleet whose contexts have an actor that is watched. -/
def watched (actor : Actor) : Fleet where
  contexts _ := { actor := ⟨actor, ["watcher"]⟩ }

/-- A run in a context of such a fleet, with all pauses made. -/
def watchedRun (run : Nat) (ids : List Phrase) (f : Fleet) : Except Fault RunResult × Fleet :=
  ((stage .quiet "a").execute (.ofNat run) ids).play (pace succeed) f

/-- An actor that was flagged and then held at the edge shows the same flags in both ways. -/
theorem execute_append_held :
    let f := watched { isHittingBounds := true }
    let first := watchedRun 0 ["moveBack"] f
    let second := watchedRun 1 ["turnRight", "moveForward"] first.2
    let whole := watchedRun 2 ["moveBack", "turnRight", "moveForward"] f
    first.1.map RunResult.outcome = .ok .completed ∧ edgeHolds first.2.pauses = 1 ∧
      whole.1.map RunResult.outcome = second.1.map RunResult.outcome ∧
      Composes [.x, .y, .angle, .isHittingBounds] "a" f first.2 second.2 whole.2 := by
  intro f first second whole
  have hcompleted : first.1.map RunResult.outcome = .ok .completed := by decide +kernel
  have hholds : edgeHolds first.2.pauses = 1 := by decide +kernel
  refine ⟨hcompleted, hholds, ?_⟩
  cases hplay : first with
  | mk result g =>
      rw [hplay] at hcompleted hholds
      cases result with
      | error fault => cases hcompleted
      | ok r =>
          obtain ⟨r', h, joint, k, hsecond, hwhole, houtcome, -, -, -, -, -, hflags⟩ :=
            execute_append .quiet "a" (fun _ _ => isMild_ok ()) hplay (Except.ok.inj hcompleted)
              ["turnRight", "moveForward"] (.ofNat 1) (.ofNat 2)
          have hafter : second = (.ok r', h) := by
            show watchedRun 1 ["turnRight", "moveForward"] first.2 = _
            rw [hplay]
            exact hsecond
          have hboth : whole = (.ok joint, k) := hwhole
          rw [hafter, hboth]
          refine ⟨congrArg Except.ok houtcome, hflags (.inr ?_)⟩
          rw [hholds]
          decide

/-- An actor that was flagged and is not held at the edge keeps its flag in a single run, and loses
it between two runs. -/
theorem execute_append_branded :
    let f := watched { isHittingBounds := true }
    let first := watchedRun 0 ["turnRight"] f
    let second := watchedRun 1 ["turnRight"] first.2
    let whole := watchedRun 2 ["turnRight", "turnRight"] f
    first.1.map RunResult.outcome = .ok .completed ∧
      ¬Composes [.x, .y, .angle, .isHittingBounds] "a" f first.2 second.2 whole.2 := by
  intro f first second whole
  refine ⟨by decide +kernel, ?_⟩
  rintro ⟨older, newer, -, hnew, hboth⟩
  let seen (angle : Int) (flag : Bool) : Glimpse :=
    ⟨"a", "watcher", [.int 0, .int 0, .int angle, .bool flag]⟩
  let fields := [Actor.Field.x, .y, .angle, .isHittingBounds]
  let before := glimpses fields first.2.told
  have htwo : glimpses fields second.2.told =
      [seen 180 false, seen 180 false, seen 90 false] ++ before := by decide +kernel
  have hone : glimpses fields whole.2.told =
      [seen 180 false, seen 180 true, seen 90 true, seen 0 true] := by decide +kernel
  have hmiddle : first.2.echo fields "a" = [seen 90 false] := by decide +kernel
  have hlast : second.2.echo fields "a" = [seen 180 false] := by decide +kernel
  have hend : whole.2.echo fields "a" = [seen 180 false] := by decide +kernel
  unfold Publishes at hnew hboth
  rw [htwo, hlast, hmiddle] at hnew
  rw [hone, hend] at hboth
  -- The second run publishes one value of its own; the single run has another one in its place.
  have hcut : newer ++ [seen 90 false] ++ before =
      [seen 180 false] ++ [seen 90 false] ++ before := by
    simpa using (List.cons.inj hnew).2.symm
  have hnewer : newer = [seen 180 false] :=
    List.append_cancel_right (List.append_cancel_right hcut)
  rw [hnewer] at hboth
  have hflags : seen 180 true = seen 180 false := (List.cons.inj (List.cons.inj hboth).2).1
  exact absurd hflags (by decide)

end Fleet

end Gridwalk
