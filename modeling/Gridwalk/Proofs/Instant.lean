import Gridwalk.Proofs.Amendment
import Gridwalk.Proofs.RequestBodies
import Gridwalk.Proofs.Placement

/-!
# Requests that are answered at once

All requests but those for runs are answered without a pause.  What an edit of a loop and a reset
come to is said by `Site.Edits` and `Site.Resets`, one case for each answer; the conditions of the
cases exclude one another and leave nothing out, so that they say which check decides, in which
order.  Every refusal leaves the whole site as it was.
-/

set_option autoImplicit false

namespace Gridwalk

open Routine

/-! ## The stage of a site -/

namespace Site

/-- The stage of the context of a site, in the site itself. -/
abbrev ownStage : Stage Site := stage Place.whole

/-- The site after a change was passed on to the hub for some observers. -/
def announced (s : Site) (notice : Notice) (observers : List String) : Site :=
  { s with hub := { s.hub with
      jobs := s.hub.jobs ++ observers.map fun _ => .broadcast notice } }

/-- The site with another actor, which its observers were told. -/
def showActor (s : Site) (actor : Actor) : Site :=
  { s with context := { s.context with
      actor := { s.context.actor with value := actor } } }.announced (.actor actor)
        s.context.actor.observers

/-- The site with another active position, which its observers were told. -/
def showIndex (s : Site) (position : Position) : Site :=
  { s with context := { s.context with
      activeIndex := { s.context.activeIndex with value := position } } }.announced
        (.activeIndex position) s.context.activeIndex.observers

section Acts

variable (s : Site)

/-- Telling observers passes a notice on to the hub for each of them, and nothing fails. -/
theorem tell_eq {α : Type} (shown : α → Notice) (value : α) (observers : List String) :
    Observable.tell (fun observer a => ownStage.observe observer (shown a)) value observers s =
      (.ok (), s.announced (shown value) observers) := by
  induction observers generalizing s with
  | nil => simp [Observable.tell, announced, pure, Act.pure]
  | cons observer rest ih =>
      have hfirst : Act.tolerate (ownStage.observe observer (shown value)) s =
          (.ok (), s.announced (shown value) [observer]) := rfl
      unfold Observable.tell
      simp only [bind, Act.bind, hfirst, ih]
      simp [announced]

/-- Setting the actor shows it. -/
theorem setActor_eq (actor : Actor) : ownStage.setActor actor s = (.ok (), s.showActor actor) :=
  tell_eq { s with context := { s.context with
    actor := { s.context.actor with value := actor } } } Notice.actor actor
      s.context.actor.observers

/-- Setting the active position shows it. -/
theorem setIndex_eq (position : Position) :
    ownStage.setIndex position s = (.ok (), s.showIndex position) :=
  tell_eq { s with context := { s.context with
    activeIndex := { s.context.activeIndex with value := position } } } Notice.activeIndex position
      s.context.activeIndex.observers

/-- A change of the actor shows the actor it makes, and returns it. -/
theorem updateActor_eq (change : Actor.Change) :
    ownStage.updateActor change s =
      (.ok (s.context.actor.value.apply change),
        s.showActor (s.context.actor.value.apply change)) := by
  have h := setActor_eq s (s.context.actor.value.apply change)
  show Act.bind (ownStage.setActor (s.context.actor.value.apply change)) (fun _ => Act.pure _) s = _
  simp only [Act.bind, h]
  rfl

end Acts

end Site

/-! ## What edits and resets come to -/

namespace Http

/-- A response refuses: nothing of the kind is known, a run is in the way, or something that was
asked for is not as it should be. -/
def Response.IsRefusal (response : Response) : Prop :=
  response.status = 404 ∨ response.status = 409 ∨ response.status = 422

/-- How a value is told: as it is, or as a text if it has an integer of too many digits in it. -/
def Content.telling (value : Json) : Content :=
  if value.isVast then .text value.compact else .json value

/-- A response tells a value, unless there is a torn phrase in it. -/
inductive Response.Tells : Response → Json → Prop
  | sent {value : Json} (hwhole : value.isTorn = false) : Tells ⟨200, .telling value⟩ value
  | unsent {value : Json} (htorn : value.isTorn = true) : Tells .failure value

/-- What is answered with success is no refusal. -/
theorem Response.not_isRefusal_done (content : Content) :
    ¬(⟨200, content⟩ : Response).IsRefusal := by
  simp [IsRefusal]

/-- A failure of the server is no refusal. -/
theorem Response.not_isRefusal_failure : ¬Response.failure.IsRefusal := by
  simp [IsRefusal, failure]

/-- A response that tells a value is no refusal. -/
theorem Response.Tells.not_isRefusal {value : Json} {response : Response}
    (h : response.Tells value) : ¬response.IsRefusal := by
  cases h with
  | sent => exact not_isRefusal_done _
  | unsent => exact not_isRefusal_failure

/-- A value without a torn phrase is answered with success. -/
theorem Response.ok_of_whole {value : Json} (hwhole : value.isTorn = false) :
    Response.ok value = ⟨200, .telling value⟩ := by
  unfold ok Content.telling
  rw [if_neg (Bool.eq_false_iff.mp hwhole), apply_ite (Response.mk 200)]

/-- A value that is answered is told, or it could not be. -/
theorem Response.tells_ok (value : Json) : (Response.ok value).Tells value := by
  cases htorn : value.isTorn with
  | false =>
      rw [ok_of_whole htorn]
      exact .sent htorn
  | true =>
      unfold ok
      rw [if_pos htorn]
      exact .unsent htorn

end Http

namespace Site

open Http

/-- What an edit of a loop is answered with, and the site after it. -/
inductive Edits (s : Site) (id : String) (edit : Loop.Edit) : Response → Site → Prop
  /-- A run is in progress. -/
  | busy (hphase : s.context.phase = .running) :
      Edits s id edit (.detail 409 "A run is already in progress") s
  /-- No command has the id. -/
  | unknown (hphase : s.context.phase = .idle) (hlookup : s.context.catalog.lookup id = none) :
      Edits s id edit (.detail 404 "Command not found") s
  /-- The command is no loop. -/
  | notALoop {command : Basic} (hphase : s.context.phase = .idle)
      (hlookup : s.context.catalog.lookup id = some (.basic command)) :
      Edits s id edit (.detail 422 ("Command '" ++ id ++ "' is not a loop")) s
  /-- The given fields of the loop are replaced, and the loop is told. -/
  | edited {loop edited : Loop} {catalog : Catalog} {response : Response}
      (hphase : s.context.phase = .idle)
      (hlookup : s.context.catalog.lookup id = some (.loop loop))
      (hedited : edited = { loop with
        repeats := edit.repeats.getD loop.repeats
        children := edit.children.getD loop.children })
      (hcommands : catalog.commands = s.context.catalog.commands.map fun command =>
        if command.id = id then .loop edited else command)
      (htells : response.Tells (Command.loop edited).view) :
      Edits s id edit response { s with context := { s.context with catalog } }

/-- What a reset of the actor is answered with, and the site after it. -/
inductive Resets (s : Site) (x y angle : Int) : Response → Site → Prop
  /-- A run is in progress. -/
  | busy (hphase : s.context.phase = .running) :
      Resets s x y angle (.detail 409 "Cannot reset the actor while a run is in progress") s
  /-- The position is no cell. -/
  | noCell {fault : Fault} (hphase : s.context.phase = .idle)
      (hcell : ¬s.context.settings.grid.IsCell x y)
      (hfault : Stage.requireCell s.context.settings.grid (.int x) (.int y) = .error fault) :
      Resets s x y angle (.detail 422 fault.message) s
  /-- The actor is put on the cell. -/
  | reset (hphase : s.context.phase = .idle) (hcell : s.context.settings.grid.IsCell x y) :
      Resets s x y angle ⟨200, .telling (Actor.view { x, y, angle })⟩
        (s.showActor { x, y, angle })

end Site

namespace Http

/-- Showing events changes nothing. -/
theorem showEvents_same (s : Site) (session : String) (count : Int) :
    ∃ result, showEvents Place.whole session count s = (result, s) := by
  have hshow : showEvents Place.whole session count s =
      Act.bind (Act.ofExcept (s.store.newest (Journal.streamKey session) count.toNat))
        (fun newest => Act.bind (Act.ofExcept (newest.reverse.mapM entryView)) fun events =>
          Act.pure (Json.obj [("stream", .text (Journal.streamKey session)),
            ("events", .arr events)])) s := rfl
  rw [hshow]
  cases s.store.newest (Journal.streamKey session) count.toNat with
  | error fault => exact ⟨_, rfl⟩
  | ok newest =>
      simp only [Act.bind, Act.ofExcept]
      cases newest.reverse.mapM entryView with
      | error fault => exact ⟨_, rfl⟩
      | ok events => exact ⟨_, rfl⟩

/-- How the result of an act is told. -/
def Response.telling {α : Type} (refusal : Fault → Response) (view : α → Json) :
    Except Fault α → Response
  | .ok a => .ok (view a)
  | .error fault => refusal fault

/-- What an act comes to is told. -/
theorem told_reaches {σ α : Type} {act : Act σ α} {result : Except Fault α} {s t : σ}
    (hact : act s = (result, t)) (refusal : Fault → Response) (view : α → Json) :
    Reaches (told act refusal view) s (.done (.telling refusal view result)) t := by
  have hattempt : act.attempt s = (.ok result, t) := by
    unfold Act.attempt
    rw [hact]
  refine (reaches_act_bind hattempt).trans ?_
  cases result <;> exact .here _ _

end Http

namespace Site

open Http

variable {s : Site}

/-- An edit comes to one of the four. -/
theorem editLoop_edits (s : Site) (id : String) {edit : Loop.Edit}
    (hedit : ∀ n ∈ edit.repeats, 0 ≤ n) :
    ∃ response t, s.Edits id edit response t ∧
      Reaches (Http.told (ownStage.editLoop id edit) editRefusal
        fun loop => (Command.loop loop).view) s (.done response) t := by
  cases hphase : s.context.phase with
  | running =>
      have hact : ownStage.editLoop id edit s = (.error .runInProgress, s) :=
        Stage.editLoop_of_running hphase id edit
      exact ⟨_, s, .busy hphase, told_reaches hact _ _⟩
  | idle =>
      have hact : ownStage.editLoop id edit s =
          Act.bind (Act.ofExcept (s.context.catalog.updateLoop id edit)) (fun result =>
            Act.bind (Act.modify ownStage.catalogPlace fun _ => result.2) fun _ =>
              Act.pure result.1) s := by
        have hidle : ownStage.requireIdle s = (.ok (), s) := Stage.requireIdle_of_idle hphase
        show Act.bind ownStage.requireIdle (fun _ => ownStage.updateLoop id edit) s = _
        simp only [Act.bind, hidle]
        rfl
      cases hlookup : s.context.catalog.lookup id with
      | none =>
          rw [Catalog.updateLoop_of_none hlookup] at hact
          exact ⟨_, s, .unknown hphase hlookup, told_reaches hact _ _⟩
      | some command =>
          cases command with
          | basic command =>
              rw [Catalog.updateLoop_of_basic hlookup] at hact
              exact ⟨_, s, .notALoop hphase hlookup, told_reaches hact _ _⟩
          | loop loop =>
              -- The body was checked already, so that the loop itself refuses nothing.
              have hfine : loop.edit edit = .ok { loop with
                  repeats := edit.repeats.getD loop.repeats
                  children := edit.children.getD loop.children } := by
                unfold Loop.edit
                rw [if_neg]
                cases hrepeats : edit.repeats with
                | none => exact Bool.false_ne_true
                | some n =>
                    have hn := hedit n hrepeats
                    simp only [Option.any_some, decide_eq_true_eq]
                    omega
              obtain ⟨catalog, hupdate, hcommands⟩ := Catalog.updateLoop_of_loop hlookup hfine
              rw [hupdate] at hact
              exact ⟨_, _, .edited hphase hlookup rfl hcommands (Response.tells_ok _),
                told_reaches hact _ _⟩

/-- A reset comes to one of the three. -/
theorem resetActor_resets (s : Site) (hgrid : s.context.settings.grid.Proper) (x y angle : Int) :
    ∃ response t, s.Resets x y angle response t ∧
      Reaches (Http.told (ownStage.resetActor x y angle) resetRefusal Actor.view) s
        (.done response) t := by
  have hsize : s.context.settings.grid.cellSize ≠ 0 := by
    have := hgrid.cellSize
    omega
  cases hphase : s.context.phase with
  | running =>
      have hact : ownStage.resetActor x y angle s = (.error .resetWhileRunning, s) :=
        Stage.resetActor_of_running hphase x y angle
      exact ⟨_, s, .busy hphase, told_reaches hact _ _⟩
  | idle =>
      have hact := @Stage.resetActor_of_idle _ ownStage s hphase x y angle
      change _ = Act.bind (Act.ofExcept (Stage.requireCell s.context.settings.grid _ _)) _ s at hact
      cases hcell : Stage.requireCell s.context.settings.grid (.int x) (.int y) with
      | error fault =>
          rw [hcell] at hact
          -- Without a proper grid the check may divide by zero, which would be no refusal.
          have hkind := Grid.kind_of_requireCell hsize hcell
          have hno : ¬s.context.settings.grid.IsCell x y := by
            intro h
            rw [h.requireCell hsize] at hcell
            cases hcell
          have hrefusal : resetRefusal fault = .detail 422 fault.message := by
            unfold resetRefusal
            rw [hkind]
          have htold := told_reaches hact resetRefusal Actor.view
          rw [show Response.telling resetRefusal Actor.view (.error fault) = _ from hrefusal]
            at htold
          exact ⟨_, s, .noCell hphase hno hcell, htold⟩
      | ok u =>
          have hreset : ownStage.resetActor x y angle s =
              (.ok { x, y, angle }, s.showActor { x, y, angle }) := by
            rw [hact, hcell]
            simp only [Act.bind, Act.ofExcept, setActor_eq]
            rfl
          have hwhole : Json.isTorn (Actor.view { x, y, angle }) = false := rfl
          have htold := told_reaches hreset resetRefusal Actor.view
          rw [show Response.telling resetRefusal Actor.view (.ok { x, y, angle }) = _ from
            Response.ok_of_whole hwhole] at htold
          exact ⟨_, _, .reset hphase (Fleet.OnLattice.isCell_of_requireCell hcell), htold⟩

/-- An edit that is refused leaves the site as it was. -/
theorem Edits.same {id : String} {edit : Loop.Edit} {response : Response} {t : Site}
    (h : s.Edits id edit response t) (hrefusal : response.IsRefusal) : t = s := by
  cases h with
  | busy => rfl
  | unknown => rfl
  | notALoop => rfl
  | edited _ _ _ _ htells => exact absurd hrefusal htells.not_isRefusal

/-- A reset that is refused leaves the site as it was. -/
theorem Resets.same {x y angle : Int} {response : Response} {t : Site}
    (h : s.Resets x y angle response t) (hrefusal : response.IsRefusal) : t = s := by
  cases h with
  | busy => rfl
  | noCell => rfl
  | reset => exact absurd hrefusal (Response.not_isRefusal_done _)

end Site

/-! ## Requests -/

namespace Http

/-- A request asks for a route, by its method and its path. -/
def Request.Asks (request : Request) (route : Route) : Prop :=
  Target.find request.method (decodePath request.path) = .route route

section Serve

variable {request : Request} {route : Route} {s : Site} (fresh : Fresh)

/-- Only its own method leads to a route. -/
theorem Request.Asks.method_eq (h : request.Asks route) : request.method = route.method := by
  unfold Asks Target.find at h
  cases hpath : Route.ofPath? (decodePath request.path) with
  | none =>
      rw [hpath] at h
      dsimp only at h
      split at h <;> cases h
  | some asked =>
      rw [hpath] at h
      dsimp only at h
      split at h
      next hmethod =>
        cases h
        exact eq_of_beq hmethod
      next => cases h

/-- What a route answers goes out as it is. -/
theorem serve_of_asks (h : request.Asks route) :
    serve Place.whole fresh request = answerRoute Place.whole fresh request route := by
  have hout (response : Response) : response.outgoing request.method = response := by
    unfold Response.outgoing
    rw [h.method_eq]
    cases route <;> rfl
  unfold serve
  rw [show Target.find request.method (decodePath request.path) = .route route from h]
  simp only [hout]
  exact Routine.bind_done _

/-- A route that reads no body is answered at once, and changes nothing. -/
theorem answer_at_once (request : Request) (s : Site) (fresh : Fresh) (session : String)
    (hreads : route.readsBody = false) :
    ∃ response, Reaches (answer Place.whole fresh session request none route) s
      (.done response) s := by
  have hread : ∀ {α : Type} (act : Act Site α) (a : α) (k : α → Routine Site Response)
      (response : Response), act s = (.ok a, s) → k a = .done response →
      Reaches (Routine.ofAct act >>= k) s (.done response) s := by
    intro α act a k response hact hk
    rw [← hk]
    exact reaches_act_bind hact
  cases route with
  | health => exact ⟨_, .here _ _⟩
  | info => exact ⟨_, .here _ _⟩
  | config => exact ⟨_, hread _ s.context _ _ rfl rfl⟩
  | commands => exact ⟨_, hread _ s.context _ _ rfl rfl⟩
  | actor => exact ⟨_, hread _ s.context.actor.value _ _ rfl rfl⟩
  | command id =>
      cases hlookup : s.context.catalog.lookup id with
      | none =>
          refine ⟨_, hread _ none _ .unknownCommand ?_ rfl⟩
          rw [← hlookup]
          rfl
      | some command =>
          refine ⟨_, hread _ (some command) _ (.ok command.view) ?_ rfl⟩
          rw [← hlookup]
          rfl
  | events =>
      unfold answer withChecked
      cases eventCount request.query with
      | error complaints => exact ⟨_, .here _ _⟩
      | ok count =>
          dsimp only
          split
          · exact ⟨_, .here _ _⟩
          · obtain ⟨result, hshown⟩ := showEvents_same s session count
            exact ⟨_, told_reaches hshown _ _⟩
  | loop id => cases hreads
  | reset => cases hreads
  | run => cases hreads

/-- A request that leads to no route which reads a body is answered at once, and changes nothing. -/
theorem serve_at_once {session : Session} (hopen : s.sessions.current = some session)
    (h : ∀ route, request.Asks route → route.readsBody = false) :
    ∃ response, Reaches (serve Place.whole fresh request) s (.done response) s := by
  cases htarget : Target.find request.method (decodePath request.path) with
  | route route =>
      have hreads := h route htarget
      rw [serve_of_asks fresh htarget]
      have hsite : Act.read (Place.whole : Place Site Site) s = (.ok s, s) := rfl
      unfold answerRoute
      simp only [hreads, Bool.false_eq_true, if_false]
      obtain ⟨response, hanswer⟩ :=
        answer_at_once request s fresh session.id hreads
      refine ⟨response, (reaches_act_bind hsite).trans ?_⟩
      simp only [hopen]
      exact hanswer
  | missing =>
      refine ⟨Response.notFound.outgoing request.method, ?_⟩
      unfold serve
      rw [htarget]
      exact .here _ _
  | moved =>
      refine ⟨Response.moved.outgoing request.method, ?_⟩
      unfold serve
      rw [htarget]
      exact .here _ _
  | wrongMethod =>
      refine ⟨Response.wrongMethod.outgoing request.method, ?_⟩
      unfold serve
      rw [htarget]
      exact .here _ _

end Serve

end Http

end Gridwalk
