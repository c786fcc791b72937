import Gridwalk.Proofs.FlatRun
import Gridwalk.Proofs.Interruption
import Gridwalk.Proofs.PassingFaults

/-!
# Commands in tandem

What commands do to a context does not depend on what was told, recorded and counted before, nor on
a flag of the actor that nobody looks at.  Two sights of a context are in tandem since an earlier
pair of sights (`Fleet.Sight.Tandem`) if some fields of the actor are shown alike in both, the
position and the angle among them, and if the same news came to both: the same values of these
fields were shown, the same hits recorded, and as many actions counted.  The stage of the context is
matched with itself, up to tandem (`Fleet.tandem_matched`).

A run shows its actor twice on its own account, when it starts and when it is cleared; between these
two it publishes the news of its program (`Fleet.Delivers`).
-/

set_option autoImplicit false

namespace Gridwalk

namespace Actor

/-- Some fields of an actor, as they are shown. -/
def seen (fields : List Field) (actor : Actor) : List Json := fields.map actor.shown

variable {fields : List Field} {field : Field} {actor other : Actor} {change : Change}

/-- Actors that are seen alike show the same in each of these fields. -/
theorem shown_of_seen (h : actor.seen fields = other.seen fields) (hfield : field ∈ fields) :
    actor.shown field = other.shown field :=
  List.map_inj_left.mp h field hfield

/-- Actors that are shown alike are shown alike after the same change. -/
theorem seen_apply (h : actor.seen fields = other.seen fields) (change : Change) :
    (actor.apply change).seen fields = (other.apply change).seen fields := by
  refine List.map_congr_left fun field hfield => ?_
  cases hnames : change.names field with
  | true => exact shown_apply_of_names hnames actor other
  | false => rw [shown_apply hnames, shown_apply hnames, shown_of_seen h hfield]

/-- Actors at the same position and angle head for the same targets. -/
theorem target_of_seen (h : actor.seen fields = other.seen fields)
    (hpose : [Field.x, .y, .angle] ⊆ fields) (grid : Grid) (sign : Int) :
    actor.target grid sign = other.target grid sign := by
  have hshown (field : Field) (hfield : field ∈ [Field.x, .y, .angle]) :=
    shown_of_seen h (hpose hfield)
  unfold target
  rw [hshown .x (by simp), hshown .y (by simp), hshown .angle (by simp)]

/-- Actors at the same angle turn to the same angle. -/
theorem turned_of_seen (h : actor.seen fields = other.seen fields)
    (hpose : [Field.x, .y, .angle] ⊆ fields) (degrees : Int) :
    actor.turned degrees = other.turned degrees := by
  unfold turned
  rw [shown_of_seen h (hpose (by simp))]

end Actor

/-- What an observer of a context was shown of the actor. -/
structure Glimpse where
  context : String
  observer : String
  values : List Json
  deriving DecidableEq

/-- What a telling lets see of an actor, as far as some fields go. -/
def Telling.glimpse? (fields : List Actor.Field) (telling : Telling) : Option Glimpse :=
  match telling.notice with
  | .actor actor => some ⟨telling.context, telling.observer, actor.seen fields⟩
  | .activeIndex _ => none

/-- What was shown of actors, as far as some fields go. -/
def glimpses (fields : List Actor.Field) (told : List Telling) : List Glimpse :=
  told.filterMap (Telling.glimpse? fields)

section Glimpses

variable (fields : List Actor.Field)

/-- Observers of the active position glimpse nothing of the actor. -/
theorem glimpses_actorTellings (told : List Telling) :
    glimpses fields (actorTellings told) = glimpses fields told := by
  unfold glimpses actorTellings
  rw [List.filterMap_filter]
  refine List.filterMap_congr fun telling _ => ?_
  obtain ⟨context, observer, notice⟩ := telling
  cases notice <;> rfl

/-- An actor that is shown lets its observers see its fields. -/
theorem glimpses_shown (name : String) (actor : Actor) (observers : List String)
    (told : List Telling) :
    glimpses fields
        ((observers.map fun observer => (⟨name, observer, .actor actor⟩ : Telling)).reverse ++
          told) =
      (observers.map fun observer => (⟨name, observer, actor.seen fields⟩ : Glimpse)).reverse ++
        glimpses fields told := by
  simp [glimpses, List.filterMap_append, List.filterMap_reverse, List.filterMap_map,
    Function.comp_def, Telling.glimpse?]

end Glimpses

/-- What is new of a context: the latest comes first. -/
structure News where
  seen : List Glimpse := []
  hits : List (List (Phrase × Json)) := []
  actions : Nat := 0

namespace Fleet

/-- What commands make use of: all the rest of a sight is for others to see. -/
structure Outline where
  pauses : List Pause
  catalog : Catalog
  settings : Settings
  observers : List String
  seen : List Json

namespace Sight

variable {fields : List Actor.Field} {name : String} {start s l r t : Sight} {news : News}

/-- What commands make use of that look at some fields of the actor. -/
def outline (fields : List Actor.Field) (s : Sight) : Outline where
  pauses := s.pauses
  catalog := s.catalog
  settings := s.settings
  observers := s.actor.observers
  seen := s.actor.value.seen fields

/-- The news that came to a sight since an earlier one. -/
structure Adds (fields : List Actor.Field) (start : Sight) (news : News) (s : Sight) : Prop where
  seen : glimpses fields s.shown = news.seen ++ glimpses fields start.shown
  hits : s.hits = (if start.isRecording then news.hits else []) ++ start.hits
  actions : s.actionsCompleted = start.actionsCompleted + news.actions
  isRecording : s.isRecording = start.isRecording

/-- Two sights agree on what commands make use of, and the same news came to both. -/
structure Tandem (fields : List Actor.Field) (l r s t : Sight) : Prop where
  outline : s.outline fields = t.outline fields
  news : ∃ news, l.Adds fields news s ∧ r.Adds fields news t

/-- No news came to a sight since itself. -/
theorem adds_self (fields : List Actor.Field) (s : Sight) : s.Adds fields {} s where
  seen := rfl
  hits := by simp
  actions := rfl
  isRecording := rfl

/-- Sights that agree on what commands make use of are in tandem from then on. -/
theorem tandem_start (h : l.outline fields = r.outline fields) : Tandem fields l r l r :=
  ⟨h, {}, adds_self fields l, adds_self fields r⟩

/-- An actor that is shown is news to its observers. -/
theorem Adds.show (h : start.Adds fields news s) (name : String) (actor : Actor) :
    start.Adds fields
      { news with seen := (s.actor.observers.map fun observer =>
          (⟨name, observer, actor.seen fields⟩ : Glimpse)).reverse ++ news.seen }
      { s with
        actor := { s.actor with value := actor }
        shown := (s.actor.observers.map fun observer =>
          (⟨name, observer, .actor actor⟩ : Telling)).reverse ++ s.shown } where
  seen := by rw [glimpses_shown, h.seen, List.append_assoc]
  hits := h.hits
  actions := h.actions
  isRecording := h.isRecording

/-- A hit at the edge is news if a run is recorded. -/
theorem Adds.hit (h : start.Adds fields news s) (payload : List (Phrase × Json)) :
    start.Adds fields { news with hits := payload :: news.hits }
      (if s.isRecording then { s with hits := payload :: s.hits } else s) := by
  cases hrecording : s.isRecording with
  | false =>
      have hstart : start.isRecording = false := h.isRecording ▸ hrecording
      exact ⟨h.seen, by simpa [hstart] using h.hits, h.actions, h.isRecording⟩
  | true =>
      have hstart : start.isRecording = true := h.isRecording ▸ hrecording
      exact ⟨h.seen, by simpa [hstart] using h.hits, h.actions, hstart.symm⟩

/-- An action that is counted is news. -/
theorem Adds.count (h : start.Adds fields news s) :
    start.Adds fields { news with actions := news.actions + 1 }
      { s with actionsCompleted := s.actionsCompleted + 1 } :=
  ⟨h.seen, h.hits, congrArg (· + 1) h.actions, h.isRecording⟩

end Sight

/-! ## The steps of commands -/

open Routine

section Steps

variable {fields : List Actor.Field} {name : String} {left right f g : Fleet}

/-- Two fleets whose sights of a context are in tandem since two earlier fleets. -/
def Tandem (fields : List Actor.Field) (name : String) (left right f g : Fleet) : Prop :=
  Sight.Tandem fields (left.sight name) (right.sight name) (f.sight name) (g.sight name)

namespace Tandem

variable (h : Tandem fields name left right f g)

include h

/-- Fleets in tandem have the same catalog. -/
theorem catalog : (f.contexts name).catalog = (g.contexts name).catalog :=
  congrArg Outline.catalog h.outline

/-- They have the same settings. -/
theorem settings : (f.contexts name).settings = (g.contexts name).settings :=
  congrArg Outline.settings h.outline

/-- Their actors have the same observers. -/
theorem observers : (f.contexts name).actor.observers = (g.contexts name).actor.observers :=
  congrArg Outline.observers h.outline

/-- Their actors are seen alike. -/
theorem seen :
    (f.contexts name).actor.value.seen fields = (g.contexts name).actor.value.seen fields :=
  congrArg Outline.seen h.outline

/-- The same pauses were made in both. -/
theorem pauses : f.pauses = g.pauses :=
  congrArg Outline.pauses h.outline

/-- A change of the actor leaves fleets in tandem. -/
theorem change (change : Actor.Change) :
    Tandem fields name left right (f.change name change) (g.change name change) := by
  obtain ⟨news, hleft, hright⟩ := h.news
  have hseen := Actor.seen_apply h.seen change
  unfold Tandem
  rw [sight_change, sight_change]
  refine ⟨?_, _, hleft.show name _, ?_⟩
  · show Outline.mk f.pauses (f.contexts name).catalog (f.contexts name).settings
        (f.contexts name).actor.observers _ = _
    rw [h.pauses, h.catalog, h.settings, h.observers]
    exact congrArg (Outline.mk _ _ _ _) hseen
  · have hshown := hright.show name ((g.sight name).actor.value.apply change)
    have hobservers : (g.sight name).actor.observers = (f.sight name).actor.observers :=
      h.observers.symm
    have hvalues : ((g.sight name).actor.value.apply change).seen fields =
        ((f.sight name).actor.value.apply change).seen fields := hseen.symm
    rw [hobservers, hvalues] at hshown
    rw [hobservers]
    exact hshown

/-- A position is shown in tandem, and it may be another one. -/
theorem showIndex (position position' : Position) :
    Tandem fields name left right (f.showIndex name position) (g.showIndex name position') := by
  unfold Tandem
  rw [sight_showIndex, sight_showIndex]
  exact h

/-- What is no hit is recorded in tandem, and it may be something else. -/
theorem note {occurrence occurrence' : Occurrence} (hleft : occurrence.type ≠ "BOUNDS_HIT")
    (hright : occurrence'.type ≠ "BOUNDS_HIT") :
    Tandem fields name left right (f.note name occurrence) (g.note name occurrence') := by
  unfold Tandem
  rw [sight_note_of_ne f name hleft, sight_note_of_ne g name hright]
  exact h

/-- Hits with the same payload are recorded in tandem. -/
theorem hit {occurrence occurrence' : Occurrence} (htype : occurrence.type = "BOUNDS_HIT")
    (htype' : occurrence'.type = "BOUNDS_HIT")
    (hpayload : occurrence.payload = occurrence'.payload) :
    Tandem fields name left right (f.note name occurrence) (g.note name occurrence') := by
  obtain ⟨news, hleft, hright⟩ := h.news
  have hsight (k : Fleet) {o : Occurrence} (ho : o.type = "BOUNDS_HIT") :
      (k.note name o).sight name = if (k.sight name).isRecording then
        { k.sight name with hits := o.payload :: (k.sight name).hits } else k.sight name := by
    rw [sight_note]
    simp [ho]
  have houtline (k : Fleet) {o : Occurrence} (ho : o.type = "BOUNDS_HIT") :
      ((k.note name o).sight name).outline fields = (k.sight name).outline fields := by
    rw [hsight k ho]
    split <;> rfl
  unfold Tandem
  refine ⟨?_, { news with hits := occurrence.payload :: news.hits }, ?_, ?_⟩
  · rw [houtline f htype, houtline g htype']
    exact h.outline
  · rw [hsight f htype]
    exact hleft.hit _
  · rw [hsight g htype', hpayload]
    exact hright.hit _

/-- So does an action that is counted. -/
theorem counted :
    Tandem fields name left right
      (f.alter name fun c => { c with actionsCompleted := c.actionsCompleted + 1 })
      (g.alter name fun c => { c with actionsCompleted := c.actionsCompleted + 1 }) := by
  obtain ⟨news, hleft, hright⟩ := h.news
  unfold Tandem
  rw [sight_counted, sight_counted]
  exact ⟨h.outline, _, hleft.count, hright.count⟩

/-- So does a pause that is noted. -/
theorem noted (p : Pause) : Tandem fields name left right (f.noted p) (g.noted p) := by
  obtain ⟨news, hleft, hright⟩ := h.news
  refine ⟨?_, news, ⟨hleft.seen, hleft.hits, hleft.actions, hleft.isRecording⟩,
    ⟨hright.seen, hright.hits, hright.actions, hright.isRecording⟩⟩
  have houtline := congrArg (fun outline : Outline =>
    { outline with pauses := p :: outline.pauses }) h.outline
  exact houtline

end Tandem

variable (crowd : Crowd) (fields name) (answers : List Pause → Pause → Answer) (left right)

/-- Two plays in tandem, whose pauses are answered alike. -/
def tandem : Pairing Fleet Fleet where
  left := pace answers
  right := pace answers
  related := Tandem fields name left right

/-- Changing the actor agrees on fleets in tandem. -/
theorem change_tandem (change : Actor.Change) :
    Agrees (tandem fields name left right answers)
      (ofAct ((stage crowd name).updateActor change) >>= fun _ => .done ())
      (ofAct ((stage crowd name).updateActor change) >>= fun _ => .done ()) := by
  intro f g h
  exact agreesAt_act_left (updateActor_eq crowd name f change)
    (agreesAt_act_right (updateActor_eq crowd name g change)
      (agrees_done _ () _ _ (h.change change)))

/-- Pauses agree on fleets in tandem. -/
theorem pause_tandem (hold : Hold) :
    Agrees (tandem fields name left right answers) ((stage crowd name).pause hold)
      ((stage crowd name).pause hold) := by
  intro f g h
  refine agreesAt_act_left (read_eq crowd name f) (agreesAt_act_right (read_eq crowd name g) ?_)
  rw [h.settings]
  exact agreesAt_rest (congrArg (fun pauses => answers pauses _) h.pauses) (h.noted _)

variable {fields} (hpose : [Actor.Field.x, .y, .angle] ⊆ fields)

include hpose

/-- Turns agree on fleets in tandem, for their actors have the same angle. -/
theorem turn_tandem (degrees : Int) :
    Agrees (tandem fields name left right answers) ((stage crowd name).turn degrees)
      ((stage crowd name).turn degrees) := by
  intro f g h
  refine agreesAt_act_left ((stage crowd name).actor_eq f)
    (agreesAt_act_right ((stage crowd name).actor_eq g) ?_)
  change AgreesAt _ (ofExcept ((f.contexts name).actor.value.turned degrees) >>= _) f
    (ofExcept ((g.contexts name).actor.value.turned degrees) >>= _) g
  rw [Actor.turned_of_seen h.seen hpose]
  refine agreesAt_ofExcept_bind h fun angle _ => ?_
  exact (change_tandem fields name left right crowd answers _).discard
    (pause_tandem fields name left right crowd answers .step) f g h

/-- The stage of a context is matched with itself, up to tandem. -/
theorem tandem_matched :
    (stage crowd name).Matched (tandem fields name left right answers) (stage crowd name) where
  settings h := h.settings
  catalog h := h.catalog
  target h := Actor.target_of_seen h.seen hpose
  blocked := by
    intro f g h x y
    refine agreesAt_acts rfl (h.hit rfl rfl ?_)
    show [(_, (f.contexts name).actor.value.shown .x), (_, (f.contexts name).actor.value.shown .y),
      _, _] = _
    rw [Actor.shown_of_seen h.seen (hpose (by simp)), Actor.shown_of_seen h.seen (hpose (by simp))]
    rfl
  placed x y := change_tandem fields name left right crowd answers _
  flagged flag := change_tandem fields name left right crowd answers _
  starting := change_tandem fields name left right crowd answers _
  setIndex position f g h := by
    apply agreesAt_acts
    · rw [setIndex_eq, setIndex_eq]
    · rw [setIndex_eq, setIndex_eq]
      exact h.showIndex position position
  record occurrence f g h := by
    refine agreesAt_acts rfl ?_
    by_cases htype : occurrence.type = "BOUNDS_HIT"
    · exact h.hit htype htype rfl
    · exact h.note htype htype
  countAction f g h := agreesAt_acts rfl h.counted
  turn turns := turn_tandem name left right crowd answers hpose (90 * turns)
  pause := pause_tandem fields name left right crowd answers
  custom _ := agrees_done _ ()

end Steps

/-! ## What a run publishes -/

/-- What the observers of a context are shown if its actor is shown to them as it is. -/
def echo (f : Fleet) (fields : List Actor.Field) (name : String) : List Glimpse :=
  ((f.contexts name).actor.observers.map fun observer =>
    (⟨name, observer, (f.contexts name).actor.value.seen fields⟩ : Glimpse)).reverse

/-- From one fleet to another some news was published, apart from the actor as it was at first and
as it is at last. -/
def Publishes (fields : List Actor.Field) (name : String) (f g : Fleet) (news : List Glimpse) :
    Prop :=
  glimpses fields g.told =
    g.echo fields name ++ (news ++ (f.echo fields name ++ glimpses fields f.told))

/-- A run that leads from one fleet to another publishes, records and counts some news. -/
structure Delivers (fields : List Actor.Field) (name : String) (f : Fleet) (news : News)
    (result : RunResult) (g : Fleet) : Prop where
  published : Publishes fields name f g news.seen
  hits : hitsOf result.events = news.hits.reverse
  steps : result.stepsExecuted = news.actions

/-- The fleet at the first step of a run. -/
def launched (f : Fleet) (name : String) (run : RunId) (ids : List Phrase) : Fleet :=
  (f.begun name run ids).change name { isMoving := some true }

section Runs

variable {fields : List Actor.Field} {name : String} {f g : Fleet} {news : News}

/-- A change is glimpsed by the observers of the actor, and nothing else is. -/
theorem glimpses_change (f : Fleet) (change : Actor.Change) :
    glimpses fields (f.change name change).told =
      (f.change name change).echo fields name ++ glimpses fields f.told := by
  unfold Fleet.change
  rw [told_showActor, glimpses_shown]
  simp [echo]

/-- At its first step a run looks the same whatever its id and its program are. -/
theorem sight_launched (f : Fleet) (name : String) (run run' : RunId) (ids ids' : List Phrase) :
    (f.launched name run ids).sight name = (f.launched name run' ids').sight name := by
  rw [launched, launched, sight_change, sight_change, sight_begun, sight_begun]

/-- At the first step of a run its actor is shown to be moving. -/
theorem actor_launched (f : Fleet) (run : RunId) (ids : List Phrase) :
    ((f.launched name run ids).contexts name).actor =
      { (f.contexts name).actor with
        value := (f.contexts name).actor.value.apply { isMoving := some true } } := by
  simp [launched, begun, Fleet.change, Context.opened]

/-- Who does not look whether the actor is moving sees no difference at the first step of a run. -/
theorem seen_launched (f : Fleet) (run : RunId) (ids : List Phrase)
    (hmoving : Actor.Field.isMoving ∉ fields) :
    ((f.launched name run ids).contexts name).actor.value.seen fields =
      (f.contexts name).actor.value.seen fields := by
  rw [actor_launched]
  refine List.map_congr_left fun field hfield => Actor.shown_apply ?_ _
  cases field with
  | isMoving => exact absurd hfield hmoving
  | _ => rfl

/-- A launch changes nothing that commands make use of, if they do not look whether the actor is
moved by a run. -/
theorem outline_launched (f : Fleet) (run : RunId) (ids : List Phrase)
    (hmoving : Actor.Field.isMoving ∉ fields) :
    ((f.launched name run ids).sight name).outline fields = (f.sight name).outline fields := by
  have hsight : (f.launched name run ids).sight name =
      { (f.sight name) with
        isRecording := true, hits := [], actionsCompleted := 0
        actor := ((f.launched name run ids).sight name).actor
        shown := ((f.launched name run ids).sight name).shown } := by
    rw [launched, sight_change, sight_begun]
  have hobservers : ((f.launched name run ids).contexts name).actor.observers =
      (f.contexts name).actor.observers := by rw [actor_launched]
  rw [hsight]
  show Outline.mk f.pauses (f.contexts name).catalog (f.contexts name).settings
    ((f.launched name run ids).contexts name).actor.observers _ = _
  rw [hobservers]
  exact congrArg (Outline.mk _ _ _ _) (seen_launched f run ids hmoving)

/-- The start of a run echoes the actor to its observers. -/
theorem glimpses_launched (run : RunId) (ids : List Phrase)
    (hmoving : Actor.Field.isMoving ∉ fields) :
    glimpses fields (f.launched name run ids).told =
      f.echo fields name ++ glimpses fields f.told := by
  have hecho : (f.launched name run ids).echo fields name = f.echo fields name := by
    unfold echo
    rw [seen_launched f run ids hmoving, actor_launched]
  rw [← hecho]
  exact glimpses_change (f.begun name run ids) _

/-- The end of a run makes no pause. -/
theorem pauses_concluded (g : Fleet) (name : String) (outcome : Outcome) :
    ((g.cleared name).concluded name outcome).pauses = g.pauses := by
  simp [concluded, cleared, Fleet.change]

/-- At its end a run shows its actor with the flags cleared, and is not recorded any more. -/
theorem sight_closed (g : Fleet) (name : String) (outcome : Outcome) :
    ((g.cleared name).concluded name outcome).sight name =
      { (g.change name stilled).sight name with isRecording := false } := by
  rw [sight_concluded, sight_cleared_eq]
  rfl

/-- At its end a run leaves the actor with its flags cleared. -/
theorem actor_closed (g : Fleet) (name : String) (outcome : Outcome) :
    (((g.cleared name).concluded name outcome).contexts name).actor =
      ((g.change name stilled).contexts name).actor :=
  congrArg Sight.actor (sight_closed g name outcome)

/-- A run delivers the news that came to its program since its first step. -/
theorem delivers_concluded (run : RunId) {ids : List Phrase} (outcome : Outcome)
    (hmoving : Actor.Field.isMoving ∉ fields)
    (hnews : ((f.launched name run ids).sight name).Adds fields news (g.sight name)) :
    Delivers fields name f news ((g.cleared name).resultOf name run outcome)
      ((g.cleared name).concluded name outcome) := by
  have hlaunched : (f.launched name run ids).sight name =
      { (f.launched name run ids).sight name with
        isRecording := true, hits := [], actionsCompleted := 0 } := by
    rw [launched, sight_change, sight_begun]
  rw [hlaunched] at hnews
  -- The observers see the actor at the launch, then the news, and the actor again at the end.
  refine ⟨?_, ?_, ?_⟩
  · have hshown : actorTellings ((g.cleared name).concluded name outcome).told =
        actorTellings (g.change name stilled).told :=
      congrArg Sight.shown (sight_closed g name outcome)
    have hseen : glimpses fields g.told =
        news.seen ++ glimpses fields (f.launched name run ids).told := by
      rw [← glimpses_actorTellings, ← glimpses_actorTellings fields (f.launched name run ids).told]
      exact hnews.seen
    unfold Publishes echo
    rw [← glimpses_actorTellings, hshown, glimpses_actorTellings, actor_closed, glimpses_change,
      hseen, glimpses_launched run ids hmoving]
    rfl
  · rw [hitsOf_resultOf, sight_cleared_eq, sight_change]
    exact congrArg List.reverse (hnews.hits.trans (List.append_nil _))
  · show ((g.cleared name).contexts name).actionsCompleted = _
    rw [actionsCompleted_cleared]
    exact hnews.actions.trans (Nat.zero_add _)

/-- The program of a run does its steps once the actor was shown to be moving. -/
theorem runProgram_play (crowd : Crowd) (name : String) (answers : List Pause → Pause → Answer)
    (f : Fleet) (run : RunId) (ids : List Phrase) :
    ((stage crowd name).runProgram ids).play (pace answers) (f.begun name run ids) =
      ((stage crowd name).runSteps 0 ids).play (pace answers) (f.launched name run ids) :=
  play_act_bind (updateActor_eq crowd name _ _)

/-- On an idle context a run is its steps, launched, cleared and concluded, if its pauses raise
ordinary faults only. -/
theorem execute_play_of_mild (crowd : Crowd) {answers : List Pause → Pause → Answer}
    (hanswers : ∀ earlier p, IsMild (answers earlier p)) (hidle : (f.contexts name).phase = .idle)
    (run : RunId) (ids : List Phrase) :
    let played := ((stage crowd name).runSteps 0 ids).play (pace answers) (f.launched name run ids)
    ∃ outcome, Stage.outcomeOf played.1 = .ok outcome ∧
      (played.1 = .ok () ∧ outcome = .completed ∨
        ∃ fault, played.1 = .error fault ∧ outcome = .aborted fault) ∧
      ((stage crowd name).execute run ids).play (pace answers) f =
        (.ok ((played.2.cleared name).resultOf name run outcome),
          (played.2.cleared name).concluded name outcome) := by
  intro played
  obtain ⟨outcome, houtcome, hcases⟩ := Stage.outcomeOf_of_isMild
    (runSteps_isMild crowd name hanswers 0 ids (f.launched name run ids))
  refine ⟨outcome, houtcome, hcases, ?_⟩
  rw [execute_play_of_idle crowd name f _ run ids hidle, runProgram_play]
  show played.2.finished name run played.1 = _
  unfold finished
  rw [houtcome]

end Runs

end Fleet

end Gridwalk
