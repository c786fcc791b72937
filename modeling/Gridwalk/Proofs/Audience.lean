import Gridwalk.Proofs.Execution
import Gridwalk.Proofs.MatchedStages

/-!
# Runs before an audience

An audience is who observes a context and how each of them reacts: they may fail with ordinary
faults whenever they are called, and whenever the run pauses some may leave and others may come.
The run of a program is compared with the same run before another audience, which may be empty.

Fleets are compared apart from who observes the context and what was told (`Fleet.Abreast`).
Everything that runs are made of keeps fleets abreast, so the stages of the two audiences are
parallel (`Fleet.abreast_parallel`); what remains is the beginning and the end of a run.  At every
notice an observer is called as often as it is seated, whoever sits beside it and fails
(`Fleet.heard_tell`), and so observers that keep as many seats during the whole run hear the same.
-/

set_option autoImplicit false

namespace Gridwalk

/-- Who observes a context, in the order in which they subscribed. -/
structure Seats where
  actor : List String := []
  activeIndex : List String := []

/-- Who observes a context when some pauses were made, and how observers react. -/
structure Audience where
  crowd : Crowd
  seats : List Pause → Seats

/-- An observer keeps a number of subscriptions to the actor, and to the active position. -/
def Audience.Keeps (audience : Audience) (observer : String) (actor activeIndex : Nat) : Prop :=
  ∀ pauses, (audience.seats pauses).actor.count observer = actor ∧
    (audience.seats pauses).activeIndex.count observer = activeIndex

namespace Context

/-- The context with other observers. -/
def seated (seats : Seats) (c : Context) : Context :=
  { c with
    actor := { c.actor with observers := seats.actor }
    activeIndex := { c.activeIndex with observers := seats.activeIndex } }

/-- Who observes a context. -/
def seats (c : Context) : Seats where
  actor := c.actor.observers
  activeIndex := c.activeIndex.observers

/-- A change of a context has nothing to do with who observes it. -/
def Blind (g : Context → Context) : Prop :=
  ∀ seats c, (g c).seated seats = g (c.seated seats)

/-- A change that has nothing to do with observers leaves them in their seats. -/
theorem Blind.seats_eq {g : Context → Context} (h : Blind g) (c : Context) :
    (g c).seats = c.seats := by
  have hsame : (g c).seated c.seats = g c := h c.seats c
  rw [← hsame]
  rfl

/-- To record something has nothing to do with observers. -/
theorem blind_record (occurrence : Occurrence) : Blind fun c => c.record occurrence := by
  intro seats c
  cases hrun : c.run with
  | none => simp [record, seated, hrun]
  | some run => simp [record, seated, hrun]

end Context

namespace Fleet

open Routine

/-- What an observer of a context was told, the latest first. -/
def heard (name observer : String) (told : List Telling) : List Notice :=
  (told.filter fun telling => telling.context == name && telling.observer == observer).map
    Telling.notice

/-- A pause of a run before an audience: it is answered, and meanwhile the seats are taken anew. -/
def attended (audience : Audience) (name : String) (interlude : Interlude) (p : Pause)
    (f : Fleet) : Answer × Fleet :=
  ((f.rested interlude name p).1,
    (f.rested interlude name p).2.alter name (Context.seated (audience.seats (p :: f.pauses))))

/-- The fleet before an audience. -/
def before (f : Fleet) (name : String) (audience : Audience) : Fleet :=
  f.alter name (Context.seated (audience.seats f.pauses))

/-- A run of a program before an audience. -/
def runBefore (f : Fleet) (name : String) (audience : Audience)
    (interlude : Interlude) (run : RunId) (ids : List Phrase) :
    Except Fault RunResult × Fleet :=
  ((stage audience.crowd name).execute run ids).play (attended audience name interlude)
    (f.before name audience)

/-- Two fleets are the same, apart from who observes a context and what was told.  What was told
since a start is the same for observers that keep as many seats. -/
structure Abreast (start : Fleet) (name : String) (A B : Audience) (f g : Fleet) : Prop where
  context : (f.contexts name).seated {} = (g.contexts name).seated {}
  left : (f.contexts name).seats = A.seats f.pauses
  right : (g.contexts name).seats = B.seats g.pauses
  others : ∀ other, other ≠ name → f.contexts other = g.contexts other
  store : f.store = g.store
  pauses : f.pauses = g.pauses
  heard : ∀ {a b m n}, A.Keeps a m n → B.Keeps b m n → ∃ news,
    heard name a f.told = news ++ heard name a start.told ∧
      heard name b g.told = news ++ heard name b start.told

section Tellings

variable (name observer : String) (notice : Notice)

/-- At a notice an observer is called as often as it is listed. -/
theorem heard_tell (f : Fleet) (observers : List String) :
    heard name observer (f.tell name notice observers).told =
      List.replicate (observers.count observer) notice ++ heard name observer f.told := by
  have hnew : ((observers.map fun other => (⟨name, other, notice⟩ : Telling)).reverse.filter
      fun telling => telling.context == name && telling.observer == observer).map
        Telling.notice = List.replicate (observers.count observer) notice := by
    rw [List.filter_reverse, List.map_reverse, List.filter_map, List.map_map]
    simp only [Function.comp_def, beq_self_eq_true, Bool.true_and]
    rw [List.map_const', List.reverse_replicate, ← List.countP_eq_length_filter]
    rfl
  simp only [heard, tell, List.filter_append, List.map_append, hnew]

end Tellings

section Steps

variable {start : Fleet} {name : String} {A B : Audience} {f g : Fleet}

/-- The context has the same actor, settings and so on. -/
theorem Abreast.read {τ : Type} (h : Abreast start name A B f g) (view : Context → τ)
    (hview : ∀ c : Context, view (c.seated {}) = view c) :
    view (f.contexts name) = view (g.contexts name) := by
  rw [← hview, h.context, hview]

/-- A change of the context that is blind to its observers keeps fleets abreast. -/
theorem Abreast.alter (h : Abreast start name A B f g) {change : Context → Context}
    (hblind : Context.Blind change) :
    Abreast start name A B (f.alter name change) (g.alter name change) where
  context := by
    rw [contexts_alter_self, contexts_alter_self, hblind, hblind, h.context]
  left := by
    rw [contexts_alter_self, hblind.seats_eq]
    exact h.left
  right := by
    rw [contexts_alter_self, hblind.seats_eq]
    exact h.right
  others other hother := by
    rw [contexts_alter_of_ne _ _ _ _ hother, contexts_alter_of_ne _ _ _ _ hother]
    exact h.others other hother
  store := h.store
  pauses := h.pauses
  heard := h.heard

/-- What is told to those who observe the same thing keeps fleets abreast. -/
theorem Abreast.tell (h : Abreast start name A B f g) (notice : Notice) {left right : List String}
    (hsame : ∀ {a b m n}, A.Keeps a m n → B.Keeps b m n → left.count a = right.count b) :
    Abreast start name A B (f.tell name notice left) (g.tell name notice right) where
  context := h.context
  left := h.left
  right := h.right
  others := h.others
  store := h.store
  pauses := h.pauses
  heard := by
    intro a b m n ha hb
    obtain ⟨news, hf, hg⟩ := h.heard ha hb
    refine ⟨List.replicate (left.count a) notice ++ news, ?_, ?_⟩
    · rw [heard_tell, hf, List.append_assoc]
    · rw [heard_tell, hg, hsame ha hb, List.append_assoc]

/-- An actor that is shown keeps fleets abreast. -/
theorem Abreast.showActor (h : Abreast start name A B f g) (actor : Actor) :
    Abreast start name A B (f.showActor name actor) (g.showActor name actor) := by
  refine (h.alter fun _ _ => rfl).tell (.actor actor) fun {a b m n} ha hb => ?_
  have hf : (f.contexts name).actor.observers = (A.seats f.pauses).actor :=
    congrArg Seats.actor h.left
  have hg : (g.contexts name).actor.observers = (B.seats g.pauses).actor :=
    congrArg Seats.actor h.right
  rw [hf, hg, (ha _).1, (hb _).1]

/-- A position that is shown keeps fleets abreast. -/
theorem Abreast.showIndex (h : Abreast start name A B f g) (position : Position) :
    Abreast start name A B (f.showIndex name position) (g.showIndex name position) := by
  refine (h.alter fun _ _ => rfl).tell (.activeIndex position) fun {a b m n} ha hb => ?_
  have hf : (f.contexts name).activeIndex.observers = (A.seats f.pauses).activeIndex :=
    congrArg Seats.activeIndex h.left
  have hg : (g.contexts name).activeIndex.observers = (B.seats g.pauses).activeIndex :=
    congrArg Seats.activeIndex h.right
  rw [hf, hg, (ha _).2, (hb _).2]

/-- A change of the actor keeps fleets abreast. -/
theorem Abreast.change (h : Abreast start name A B f g) (c : Actor.Change) :
    Abreast start name A B (f.change name c) (g.change name c) := by
  have hactor : (f.contexts name).actor.value = (g.contexts name).actor.value :=
    h.read (fun c => c.actor.value) fun _ => rfl
  unfold Fleet.change
  rw [hactor]
  exact h.showActor _

/-- A pause keeps fleets abreast, and is answered alike. -/
theorem Abreast.attended (h : Abreast start name A B f g) (interlude : Interlude) (p : Pause) :
    (attended A name interlude p f).1 = (attended B name interlude p g).1 ∧
      Abreast start name A B (attended A name interlude p f).2
        (attended B name interlude p g).2 := by
  have hcontext (audience : Audience) (k : Fleet) :
      ((Fleet.attended audience name interlude p k).2.contexts name) =
        { k.contexts name with
            catalog := interlude.edit k.pauses p (k.contexts name).catalog }.seated
          (audience.seats (p :: k.pauses)) := by
    rw [Fleet.attended, rested, contexts_alter_self, contexts_alter_self]
    rfl
  have hcatalog : (f.contexts name).catalog = (g.contexts name).catalog :=
    h.read Context.catalog fun _ => rfl
  refine ⟨congrArg (fun pauses => interlude.answer pauses p) h.pauses, ?_, ?_, ?_,
    fun other hother => ?_, h.store, congrArg (List.cons p) h.pauses, h.heard⟩
  · rw [hcontext, hcontext, h.pauses, hcatalog]
    exact congrArg (fun c : Context =>
      { c with catalog := interlude.edit g.pauses p (g.contexts name).catalog }) h.context
  · rw [hcontext]
    rfl
  · rw [hcontext]
    rfl
  · simp only [Fleet.attended, rested, contexts_alter_of_ne _ _ _ _ hother]
    exact h.others other hother

/-- Before a run the same fleet is abreast of itself in front of two audiences. -/
theorem abreast_before (f : Fleet) (name : String) (A B : Audience) :
    Abreast f name A B (f.before name A) (f.before name B) where
  context := by
    rw [before, before, contexts_alter_self, contexts_alter_self]
    rfl
  left := by
    rw [before, contexts_alter_self]
    rfl
  right := by
    rw [before, contexts_alter_self]
    rfl
  others other hother := by
    rw [before, before, contexts_alter_of_ne _ _ _ _ hother, contexts_alter_of_ne _ _ _ _ hother]
  store := rfl
  pauses := rfl
  heard _ _ := ⟨[], rfl, rfl⟩

end Steps

section Runs

variable (start : Fleet) (name : String) (A B : Audience) (interlude : Interlude)

/-- A run before one audience beside the run before another one. -/
def beside : Pairing Fleet Fleet where
  left := attended A name interlude
  right := attended B name interlude
  related := Abreast start name A B

/-- The stages of two audiences are parallel. -/
theorem abreast_parallel :
    (stage A.crowd name).Parallel (beside start name A B interlude) (stage B.crowd name) where
  actor h := h.read (fun c => c.actor.value) fun _ => rfl
  settings h := h.read Context.settings fun _ => rfl
  catalog h := h.read Context.catalog fun _ => rfl
  updateActor change f g h := by
    have hactor : (f.contexts name).actor.value = (g.contexts name).actor.value :=
      h.read (fun c => c.actor.value) fun _ => rfl
    apply agreesAt_acts
    · rw [updateActor_eq, updateActor_eq, hactor]
    · rw [updateActor_eq, updateActor_eq]
      exact h.change change
  setIndex position f g h := by
    apply agreesAt_acts
    · rw [setIndex_eq, setIndex_eq]
    · rw [setIndex_eq, setIndex_eq]
      exact h.showIndex position
  record occurrence f g h := agreesAt_acts rfl (h.alter (Context.blind_record occurrence))
  countAction f g h := by
    let count (c : Context) : Context := { c with actionsCompleted := c.actionsCompleted + 1 }
    have hcounted : Abreast start name A B (f.alter name count) (g.alter name count) :=
      h.alter fun _ _ => rfl
    exact agreesAt_acts rfl hcounted
  pause hold f g h := by
    have hsettings : (f.contexts name).settings = (g.contexts name).settings :=
      h.read Context.settings fun _ => rfl
    refine agreesAt_act_left (read_eq A.crowd name f)
      (agreesAt_act_right (read_eq B.crowd name g) ?_)
    rw [hsettings]
    exact agreesAt_rest (h.attended interlude _).1 (h.attended interlude _).2
  custom _ := agrees_done _ ()

variable {start name A B} {f g : Fleet}

/-- Runs begin abreast. -/
theorem Abreast.begun (h : Abreast start name A B f g) (run : RunId) (ids : List Phrase) :
    Abreast start name A B (f.begun name run ids) (g.begun name run ids) :=
  h.alter fun seats _ => Context.blind_record (.runStarted ids) seats _

/-- Runs are cleared abreast. -/
theorem Abreast.cleared (h : Abreast start name A B f g) :
    Abreast start name A B (f.cleared name) (g.cleared name) :=
  ((h.showIndex _).change _).alter fun _ _ => rfl

/-- Runs are concluded abreast. -/
theorem Abreast.concluded (h : Abreast start name A B f g) (outcome : Outcome) :
    Abreast start name A B (f.concluded name outcome) (g.concluded name outcome) := by
  refine h.alter fun seats c => ?_
  have hrecord := Context.blind_record (Stage.closing outcome c.actionsCompleted) seats c
  exact congrArg (fun c : Context => { c with run := none }) hrecord

/-- The result of a run does not show who observed it. -/
theorem Abreast.resultOf (h : Abreast start name A B f g) (run : RunId) (outcome : Outcome) :
    f.resultOf name run outcome = g.resultOf name run outcome := by
  refine h.read (fun c => (⟨run, outcome, c.actionsCompleted, c.actor.value,
    (c.record (Stage.closing outcome c.actionsCompleted)).events⟩ : RunResult)) fun c => ?_
  have hrecord := Context.blind_record (Stage.closing outcome c.actionsCompleted) {} c
  exact congrArg (fun events => RunResult.mk run outcome c.actionsCompleted c.actor.value events)
    (congrArg Context.events hrecord).symm

/-- However a program ended, its run is finished alike before both audiences. -/
theorem Abreast.finished (h : Abreast start name A B f g) (run : RunId)
    (ended : Except Fault Unit) :
    (f.finished name run ended).1 = (g.finished name run ended).1 ∧
      Abreast start name A B (f.finished name run ended).2 (g.finished name run ended).2 := by
  unfold Fleet.finished
  cases Stage.outcomeOf ended with
  | error fault => exact ⟨rfl, h.cleared⟩
  | ok outcome =>
      exact ⟨congrArg Except.ok (h.cleared.resultOf run outcome), h.cleared.concluded outcome⟩

end Runs

/-- Observers do not influence a run.  Before any two audiences, one of which may be empty, a
program has the same result, makes the same pauses, and leaves the same context, apart from who
observes it then.  And two observers, before the same audience or before different ones, that keep
as many subscriptions during the whole run hear the same notices in the same order, whoever else is
there and wherever they sit, and whoever fails. -/
theorem execute_observed (name : String) (interlude : Interlude) (f : Fleet)
    (run : RunId) (ids : List Phrase) (A B : Audience) :
    let played (audience : Audience) := f.runBefore name audience interlude run ids
    (played A).1 = (played B).1 ∧
      (played A).2.pauses = (played B).2.pauses ∧
      ((played A).2.contexts name).seated {} = ((played B).2.contexts name).seated {} ∧
      (∀ other, other ≠ name → (played A).2.contexts other = (played B).2.contexts other) ∧
      (played A).2.store = (played B).2.store ∧
      ∀ a b actor activeIndex, A.Keeps a actor activeIndex → B.Keeps b actor activeIndex →
        ∃ news, heard name a (played A).2.told = news ++ heard name a f.told ∧
          heard name b (played B).2.told = news ++ heard name b f.told := by
  intro played
  have hbefore := abreast_before f name A B
  have hboth : (played A).1 = (played B).1 ∧ Abreast f name A B (played A).2 (played B).2 := by
    have hphase :
        ((f.before name A).contexts name).phase = ((f.before name B).contexts name).phase :=
      hbefore.read Context.phase fun _ => rfl
    cases hleft : ((f.before name A).contexts name).phase with
    | running =>
        have hA : played A = (.error .runInProgress, f.before name A) :=
          execute_play_of_running A.crowd name _ _ run ids hleft
        have hB : played B = (.error .runInProgress, f.before name B) :=
          execute_play_of_running B.crowd name _ _ run ids (hphase.symm.trans hleft)
        rw [hA, hB]
        exact ⟨rfl, hbefore⟩
    | idle =>
        have hA : played A = _ := execute_play_of_idle A.crowd name _ _ run ids hleft
        have hB : played B = _ :=
          execute_play_of_idle B.crowd name _ _ run ids (hphase.symm.trans hleft)
        obtain ⟨hended, habreast⟩ := (abreast_parallel f name A B interlude).program ids _ _
          (hbefore.begun run ids)
        change (((stage A.crowd name).runProgram ids).play (attended A name interlude) _).1 =
          (((stage B.crowd name).runProgram ids).play (attended B name interlude) _).1 at hended
        rw [hA, hB, hended]
        exact habreast.finished run _
  obtain ⟨hresult, h⟩ := hboth
  exact ⟨hresult, h.pauses, h.context, h.others, h.store, fun _ _ _ _ ha hb => h.heard ha hb⟩

/-- An audience in which one observer fails at every call in front of another one, and a third one
comes at the first pause. -/
def rowdy : Audience where
  crowd := {
    react := fun _ telling =>
      if telling.observer = "grump" then .error (.raised .runtime none) else .ok ()
    mild := by
      intro earlier telling fault h
      split at h
      · cases h
        rfl
      · cases h }
  seats
    | [] => { actor := ["grump", "guest"], activeIndex := ["grump", "guest"] }
    | _ => { actor := ["late", "grump", "guest"], activeIndex := ["guest"] }

/-- An audience of one quiet observer. -/
def solitary : Audience where
  crowd := .quiet
  seats _ := { actor := ["watcher"], activeIndex := ["watcher"] }

/-- A fleet of new contexts. -/
def unwatched : Fleet where
  contexts _ := {}

/-- The guest of the rowdy audience hears the eight notices of a turn and a blocked move that a
quiet observer hears who is alone. -/
theorem execute_observed_rowdy :
    let played (audience : Audience) :=
      unwatched.runBefore "a" audience { answer := fun _ _ => .ok () } (.ofNat 0)
        ["turnLeft", "moveForward"]
    rowdy.Keeps "guest" 1 1 ∧ solitary.Keeps "watcher" 1 1 ∧
      heard "a" "guest" (played rowdy).2.told = heard "a" "watcher" (played solitary).2.told ∧
      (heard "a" "watcher" (played solitary).2.told).length = 8 := by
  have hguest : rowdy.Keeps "guest" 1 1 := by
    intro pauses
    cases pauses <;> exact ⟨rfl, rfl⟩
  have hwatcher : solitary.Keeps "watcher" 1 1 := fun _ => ⟨rfl, rfl⟩
  have hnone (observer : String) : heard "a" observer unwatched.told = [] := rfl
  have hsame := execute_observed "a" { answer := fun _ _ => .ok () } unwatched (.ofNat 0)
    ["turnLeft", "moveForward"] rowdy solitary
  obtain ⟨news, hleft, hright⟩ := hsame.2.2.2.2.2 "guest" "watcher" 1 1 hguest hwatcher
  rw [hnone] at hleft hright
  exact ⟨hguest, hwatcher, hleft.trans hright.symm, by decide +kernel⟩

end Fleet

end Gridwalk
