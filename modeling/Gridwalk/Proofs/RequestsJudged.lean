import Gridwalk.Proofs.RequestTasks
import Mathlib.Algebra.Group.Int.Defs

/-!
# How requests are judged

How a request is judged depends on its body and on the site when it comes in, and on nothing that
happens later (`Desk.Judged`): whoever is refused is refused at once, with the site left as it was.
Only a run goes on, and what it is answered with depends on what the same run ends with by itself,
along the answers that its pauses are given.
-/

set_option autoImplicit false

namespace Gridwalk

open Routine

namespace Desk

open Http

/-! ## How requests are judged -/

/-- A task was just answered, and the site is as it is said to be. -/
def Replies (desk : Desk) (task : String) (response : Response) (s : Site) : Prop :=
  desk.answer? task = some (.ok response) ∧ desk.site = s

/-- A run that a task stands for, begun in a site under the lease of a session, has come to its end
along the answers that some moves gave to its pauses, and this is how it concludes. -/
def Concludes (desk : Desk) (task session : String) (fresh : Fresh) (ids : List Phrase) (s : Site)
    (moves : List Move) (outcome : Except Fault Response) : Prop :=
  ∃ ended t, (Site.ownStage.execute fresh.run ids).EndsAlong (s.leased session fresh.token)
      (desk.answersTo task moves) ended t ∧
    t.Concludes session (lastAnswer none (desk.answersTo task moves)) ended outcome

/-- How a request for a session is judged that comes in at a site; the desk is the one that it makes
at once. -/
structure Judged (session task : String) (fresh : Fresh) (request : Request) (s : Site)
    (desk : Desk) : Prop where
  /-- Whoever is refused is refused at once, and the site stays as it was. -/
  refusal : ∀ later response, (desk.after later).answer? task = some (.ok response) →
    response.IsRefusal → desk.Replies task response s
  /-- An edit of a loop is refused for its body, or comes to what edits come to; none makes the
  number of repetitions negative. -/
  edit : ∀ id, request.Asks (.loop id) →
    ((∀ edit, ¬request.Bears GivesEdit edit) →
      ∃ response, Refused request loopEdit response ∧ desk.Replies task response s) ∧
    ∀ edit, request.Bears GivesEdit edit → (∀ n ∈ edit.repeats, 0 ≤ n) ∧
      ∃ response t, s.Edits id edit response t ∧ desk.Replies task response t
  /-- A reset is refused for its body, or comes to what resets come to. -/
  reset : request.Asks .reset →
    ((∀ start, ¬request.Bears GivesStart start) →
      ∃ response, Refused request startCell response ∧ desk.Replies task response s) ∧
    ∀ x y angle, request.Bears GivesStart (x, y, angle) →
      ∃ response t, s.Resets x y angle response t ∧ desk.Replies task response t
  /-- A run is refused for its body, or because a run is in progress or somebody has the lease;
  otherwise it is answered as it concludes, when its last pause was answered. -/
  run : request.Asks .run →
    ((∀ ids, ¬request.Bears GivesProgram ids) →
      ∃ response, Refused request program response ∧ desk.Replies task response s) ∧
    ∀ ids, request.Bears GivesProgram ids →
      (s.context.phase = .running ∨ s.store.holds (Lease.key session) = true →
        desk.Replies task (.detail 409 "A run is already in progress") s) ∧
      (s.context.phase = .idle → s.store.holds (Lease.key session) = false →
        ∀ later outcome, (desk.after later).answer? task = some outcome →
          ∃ soon, soon <+: later ∧ (desk.after soon).answer? task = some outcome ∧
            desk.Concludes task session fresh ids s soon outcome)
  /-- Every request is answered in the end. -/
  answered : ∀ moves, Resumes task moves →
    ∃ n outcome, (desk.along moves n).answer? task = some outcome

section Judging

variable {desk : Desk} {task : String} {session : Session} {fresh : Fresh} {request : Request}

/-- A request that is refused later on was refused with the site as it was. -/
theorem Replies.refusal {response : Response} {s t : Site} (h : desk.Replies task response t)
    (hsame : response.IsRefusal → t = s) {later : List Move} {other : Response}
    (hlater : (desk.after later).answer? task = some (.ok other)) (hrefusal : other.IsRefusal) :
    desk.Replies task other s := by
  obtain rfl : response = other :=
    Except.ok.inj (Option.some.inj ((answer?_after h.1 later).symm.trans hlater))
  exact ⟨h.1, h.2.trans (hsame hrefusal)⟩

/-- A run that somebody is in the way of is refused. -/
theorem answerRun_busy {s : Site} {session : String} (ids : List Phrase)
    (hbusy : s.context.phase = .running ∨ s.store.holds (Lease.key session) = true) :
    Reaches (answerRun Place.whole fresh session ids) s
      (.done (.detail 409 "A run is already in progress")) s := by
  have hrefused : Reaches (Site.ownStage.dispatch Site.ownStore
      ⟨session, fresh.token, fresh.run⟩ ids) s (.fail .runInProgress) s := by
    cases hphase : s.context.phase with
    | running =>
        exact (reaches_ofAct (Stage.requireIdle_of_running hphase)).bind _
    | idle =>
        have hheld : s.store.holds (Lease.key session) = true :=
          hbusy.resolve_left (by rw [hphase]; nofun)
        have hclaim : (Site.ownStore.get s).claim? (Lease.key session) fresh.token = none := by
          refine Store.claim?_of_find_ne_none fresh.token fun hnone => ?_
          have hfree : s.store.holds (Lease.key session) = false :=
            Store.holds_eq_false_iff.mpr hnone
          rw [hfree] at hheld
          cases hheld
        have hidle : Site.ownStage.requireIdle s = (.ok (), s) := Stage.requireIdle_of_idle hphase
        exact (reaches_act_bind hidle).trans
          ((reaches_ofAct (Lease.take_of_held hclaim)).bind _)
  rw [answerRun_eq]
  exact hrefused.attempt.bind _

/-- If nobody is in the way of a run, no run is in progress and the lease is free. -/
theorem idle_of_not_busy {s : Site} {session : String}
    (h : ¬(s.context.phase = .running ∨ s.store.holds (Lease.key session) = true)) :
    s.context.phase = .idle ∧ s.store.holds (Lease.key session) = false := by
  obtain ⟨hphase, hfree⟩ := not_or.mp h
  refine ⟨?_, Bool.eq_false_iff.mpr hfree⟩
  cases hcase : s.context.phase with
  | idle => rfl
  | running => exact absurd hcase hphase

/-! ### What a request comes to at once -/

section Serve

variable {s : Site} (hopen : s.sessions.current = some session)

include hopen

/-- A request to edit a loop is refused for its body, or comes to what edits come to. -/
theorem serve_edit (fresh : Fresh) {id : String} (hasks : request.Asks (.loop id)) :
    ((∀ edit, ¬request.Bears GivesEdit edit) → ∃ response, Refused request loopEdit response ∧
        Reaches (serve Place.whole fresh request) s (.done response) s) ∧
      ∀ edit, request.Bears GivesEdit edit → (∀ n ∈ edit.repeats, 0 ≤ n) ∧
        ∃ response t, s.Edits id edit response t ∧
          Reaches (serve Place.whole fresh request) s (.done response) t := by
  rw [serve_of_asks fresh hasks]
  refine ⟨fun hnone => answerRoute_refused loopEdit_eq_ok_iff rfl (fun _ => rfl) hopen hnone,
    fun edit hedit => ?_⟩
  have hnatural : ∀ n ∈ edit.repeats, 0 ≤ n := by
    obtain ⟨members, -, hgives⟩ := hedit
    exact hgives.repeats_nonneg
  obtain ⟨response, t, hedits, hreaches⟩ := Site.editLoop_edits s id hnatural
  exact ⟨hnatural, response, t, hedits,
    (answerRoute_of_bears loopEdit_eq_ok_iff rfl (fun _ => rfl) hopen hedit).trans hreaches⟩

/-- A request to reset the actor is refused for its body, or comes to what resets come to. -/
theorem serve_reset (hgrid : s.context.settings.grid.Proper) (fresh : Fresh)
    (hasks : request.Asks .reset) :
    ((∀ start, ¬request.Bears GivesStart start) → ∃ response, Refused request startCell response ∧
        Reaches (serve Place.whole fresh request) s (.done response) s) ∧
      ∀ x y angle, request.Bears GivesStart (x, y, angle) →
        ∃ response t, s.Resets x y angle response t ∧
          Reaches (serve Place.whole fresh request) s (.done response) t := by
  rw [serve_of_asks fresh hasks]
  refine ⟨fun hnone => answerRoute_refused startCell_eq_ok_iff rfl (fun _ => rfl) hopen hnone,
    fun x y angle hstart => ?_⟩
  obtain ⟨response, t, hresets, hreaches⟩ := Site.resetActor_resets s hgrid x y angle
  exact ⟨response, t, hresets,
    (answerRoute_of_bears startCell_eq_ok_iff rfl (fun _ => rfl) hopen hstart).trans hreaches⟩

/-- A request for a run is refused for its body, or comes to the run. -/
theorem serve_run (fresh : Fresh) (hasks : request.Asks .run) :
    ((∀ ids, ¬request.Bears GivesProgram ids) → ∃ response, Refused request program response ∧
        Reaches (serve Place.whole fresh request) s (.done response) s) ∧
      ∀ ids, request.Bears GivesProgram ids → Reaches (serve Place.whole fresh request) s
        (answerRun Place.whole fresh session.id ids) s := by
  rw [serve_of_asks fresh hasks]
  exact ⟨fun hnone => answerRoute_refused program_eq_ok_iff rfl (fun _ => rfl) hopen hnone,
    fun ids hids => answerRoute_of_bears program_eq_ok_iff rfl (fun _ => rfl) hopen hids⟩

/-- A request is answered at once, with the site left as it was if it is refused; or it asks for a
run that nobody is in the way of. -/
theorem serve_cases (hgrid : s.context.settings.grid.Proper) (fresh : Fresh) (request : Request) :
    (∃ response t, (response.IsRefusal → t = s) ∧
        Reaches (serve Place.whole fresh request) s (.done response) t) ∨
      ∃ ids, request.Asks .run ∧ request.Bears GivesProgram ids ∧ s.context.phase = .idle ∧
        s.store.holds (Lease.key session.id) = false := by
  have hsame {response : Response}
      (hreaches : Reaches (serve Place.whole fresh request) s (.done response) s) :
      ∃ response t, (response.IsRefusal → t = s) ∧
        Reaches (serve Place.whole fresh request) s (.done response) t :=
    ⟨response, s, fun _ => rfl, hreaches⟩
  by_cases hroute : ∀ route, request.Asks route → route.readsBody = false
  · obtain ⟨_, hreaches⟩ := serve_at_once fresh hopen hroute
    exact .inl (hsame hreaches)
  · push Not at hroute
    obtain ⟨route, hasks, hreads⟩ := hroute
    cases route with
    | loop id =>
        obtain ⟨hrefused, hedits⟩ := serve_edit hopen fresh hasks
        by_cases hgives : ∃ edit, request.Bears GivesEdit edit
        · obtain ⟨edit, hedit⟩ := hgives
          obtain ⟨-, response, t, hedits, hreaches⟩ := hedits edit hedit
          exact .inl ⟨response, t, hedits.same, hreaches⟩
        · obtain ⟨_, -, hreaches⟩ := hrefused (not_exists.mp hgives)
          exact .inl (hsame hreaches)
    | reset =>
        obtain ⟨hrefused, hresets⟩ := serve_reset hopen hgrid fresh hasks
        by_cases hgives : ∃ start, request.Bears GivesStart start
        · obtain ⟨⟨x, y, angle⟩, hstart⟩ := hgives
          obtain ⟨response, t, hresets, hreaches⟩ := hresets x y angle hstart
          exact .inl ⟨response, t, hresets.same, hreaches⟩
        · obtain ⟨_, -, hreaches⟩ := hrefused (not_exists.mp hgives)
          exact .inl (hsame hreaches)
    | run =>
        obtain ⟨hrefused, hruns⟩ := serve_run hopen fresh hasks
        by_cases hgives : ∃ ids, request.Bears GivesProgram ids
        · obtain ⟨ids, hids⟩ := hgives
          by_cases hbusy : s.context.phase = .running ∨
              s.store.holds (Lease.key session.id) = true
          · exact .inl (hsame ((hruns ids hids).trans (answerRun_busy ids hbusy)))
          · obtain ⟨hidle, hfree⟩ := idle_of_not_busy hbusy
            exact .inr ⟨ids, hasks, hids, hidle, hfree⟩
        · obtain ⟨_, -, hreaches⟩ := hrefused (not_exists.mp hgives)
          exact .inl (hsame hreaches)
    | _ => exact absurd rfl hreads

end Serve

/-- A run that nobody is in the way of is answered as it concludes. -/
theorem concludes_of_free (hopen : desk.site.sessions.current = some session)
    (hnew : desk.halt? task = none) (fresh : Fresh) (hasks : request.Asks .run)
    {ids : List Phrase} (hids : request.Bears GivesProgram ids)
    (hidle : desk.site.context.phase = .idle)
    (hfree : desk.site.store.holds (Lease.key session.id) = false) {later : List Move}
    {outcome : Except Fault Response}
    (hlater : ((desk.step (.request task fresh request)).after later).answer? task =
      some outcome) :
    ∃ soon, soon <+: later ∧
      ((desk.step (.request task fresh request)).after soon).answer? task = some outcome ∧
      (desk.step (.request task fresh request)).Concludes task session.id fresh ids
        desk.site soon outcome := by
  have hreaches := ((serve_run hopen fresh hasks).2 ids hids).trans
    (answerRun_reaches hidle hfree fresh ids)
  have hhalt : (desk.step (.request task fresh request)).halt? task =
      some (((Site.ownStage.execute fresh.run ids).attempt >>=
        concluding session.id fresh.token).settle wait
          (desk.site.leased session.id fresh.token)).1 := by
    rw [step_request hnew, halt?_advance, if_pos rfl, hreaches.settle_eq]
  obtain ⟨soon, hsoon, hsame, ended, t, hends, hconcludes⟩ :=
    ends_along (concluding_concludes session.id fresh.token) hhalt hlater
  have hleased : (desk.site.leased session.id fresh.token).context.phase = .idle := hidle
  exact ⟨soon, hsoon, hsame, ended, t, hends, hconcludes _ (execute_owed hleased hends)⟩

end Judging

/-- Every request is judged in the right order, whatever goes on at the desk when it comes in and
afterwards, in an open session on a grid with cells. -/
theorem request_judged (desk : Desk) {session : Session}
    (hopen : desk.site.sessions.current = some session)
    (hgrid : desk.site.context.settings.grid.Proper) {task : String}
    (hnew : desk.halt? task = none) (fresh : Fresh) (request : Request) :
    (desk.step (.request task fresh request)).Judged session.id task fresh request desk.site := by
  have hreply {response : Response} {t : Site}
      (h : Reaches (serve Place.whole fresh request) desk.site (.done response) t) :
      (desk.step (.request task fresh request)).Replies task response t :=
    step_request_of_reaches hnew h
  have hbody {α : Type} {check : List (Phrase × Json) → Checked α}
      (h : ∃ response, Refused request check response ∧
        Reaches (serve Place.whole fresh request) desk.site (.done response) desk.site) :
      ∃ response, Refused request check response ∧
        (desk.step (.request task fresh request)).Replies task response desk.site := by
    obtain ⟨response, hrefused, hreaches⟩ := h
    exact ⟨response, hrefused, hreply hreaches⟩
  constructor
  case refusal =>
    intro later response hlater hrefusal
    rcases serve_cases hopen hgrid fresh request with
      ⟨first, t, hsame, hreaches⟩ | ⟨ids, hasks, hids, hidle, hfree⟩
    · exact (hreply hreaches).refusal hsame hlater hrefusal
    · obtain ⟨_, _, _, _, _, _, hconcludes⟩ :=
        concludes_of_free hopen hnew fresh hasks hids hidle hfree hlater
      exact absurd hrefusal hconcludes.not_isRefusal
  case edit =>
    intro id hasks
    obtain ⟨hrefused, hedits⟩ := serve_edit hopen fresh hasks
    refine ⟨fun hnone => hbody (hrefused hnone), fun edit hedit => ?_⟩
    obtain ⟨hnatural, response, t, hedits, hreaches⟩ := hedits edit hedit
    exact ⟨hnatural, response, t, hedits, hreply hreaches⟩
  case reset =>
    intro hasks
    obtain ⟨hrefused, hresets⟩ := serve_reset hopen hgrid fresh hasks
    refine ⟨fun hnone => hbody (hrefused hnone), fun x y angle hstart => ?_⟩
    obtain ⟨response, t, hresets, hreaches⟩ := hresets x y angle hstart
    exact ⟨response, t, hresets, hreply hreaches⟩
  case run =>
    intro hasks
    obtain ⟨hrefused, hruns⟩ := serve_run hopen fresh hasks
    refine ⟨fun hnone => hbody (hrefused hnone), fun ids hids => ⟨?_, ?_⟩⟩
    · intro hbusy
      exact hreply ((hruns ids hids).trans (answerRun_busy ids hbusy))
    · intro hidle hfree later outcome hlater
      exact concludes_of_free hopen hnew fresh hasks hids hidle hfree hlater
  case answered =>
    intro moves hresumes
    refine ends_of_resumes hresumes (serve Place.whole fresh request) (n := 0) (s := desk.site) ?_
    show (desk.step (.request task fresh request)).halt? task = _
    rw [step_request hnew, halt?_advance, if_pos rfl]

/-! ## Some desks -/

/-- The desk of a session that was just opened. -/
def opened (settings : Settings) : Desk where
  site := (Site.openSession (Place.whole : Place Site Site) "demo" (some settings)
    (fun _ => none) {}).2

/-- The status of what a request was answered with, or the fault that it ended with. -/
def status? (desk : Desk) (task : String) : Option (Except Fault Nat) :=
  (desk.answer? task).map fun outcome => outcome.map Response.status

/-- A request to post a body. -/
def posting (path body : String) : Request := { method := "POST", path, body := some body }

/-- A request to move the actor ahead once. -/
def ahead : Move :=
  .request "ahead" ⟨.ofNat 1, "token"⟩ (posting "/run" "\x7b\"command_ids\": [\"moveForward\"]\x7d")

/-- A reset that comes in while a run is held is refused, and the run is answered with its result
when it has come to its end. -/
theorem request_judged_rival :
    let desk := (opened {}).step ahead
    let rival := posting "/actor/reset" "\x7b\"x\": 50\x7d"
    desk.site.sessions.current = some ⟨1, "demo", {}⟩ ∧
      desk.site.context.settings.grid.Proper ∧ desk.halt? "rival" = none ∧
      (desk.step (.request "rival" ⟨.ofNat 2, "other"⟩ rival)).Judged "demo" "rival"
        ⟨.ofNat 2, "other"⟩ rival desk.site ∧
      (desk.step (.request "rival" ⟨.ofNat 2, "other"⟩ rival)).status? "rival" =
        some (.ok 409) ∧
      (desk.after [.request "rival" ⟨.ofNat 2, "other"⟩ rival,
        .resume "ahead" (.ok ())]).status? "ahead" = some (.ok 200) := by
  intro desk rival
  have hopen : desk.site.sessions.current = some ⟨1, "demo", {}⟩ := by decide +kernel
  have hgrid : desk.site.context.settings.grid.Proper := by
    constructor <;> decide +kernel
  have hnew : desk.halt? "rival" = none := Option.isNone_iff_eq_none.mp (by decide +kernel)
  exact ⟨hopen, hgrid, hnew, request_judged desk hopen hgrid hnew _ rival, by decide +kernel,
    by decide +kernel⟩

/-- Puts something under a key of the store from outside. -/
def planting (key : String) (stored : Stored) : Move :=
  .outside fun s => { s with store := s.store.put key stored }

/-- Records something with a value from outside, while a run is held. -/
def noting (value : Json) : Move :=
  .outside fun s => { s with context := s.context.record (.noted "NOTE" [("value", value)]) }

/-- The status of the answer to a request that comes in between some moves. -/
def statusAmong (settings : Settings) (before : List Move) (request : Request)
    (later : List Move) : Option (Except Fault Nat) :=
  ((((opened settings).after before).step
    (.request "task" ⟨.ofNat 1, "token"⟩ request)).after later).status? "task"

/-- Not everything is told as it should be.  A complaint about a number that is none cannot be sent,
and a body that is no text is not complained about; half of a surrogate pair cannot be sent with a
loop or a result; integers of too many digits cannot be published, nor what is nested too deep, nor
anything where there is a text; what is nested less deep may be published and yet not be sent; a
lease cannot be given back where there is a stream; and a cancelled run is not answered. -/
theorem judged_otherwise :
    let nan := posting "/actor/reset" "\x7b\"x\": NaN\x7d"
    let cut := posting "/actor/reset" "\x00\x7b\x7d  "
    let half := "[\"\\ud800\"]\x7d"
    let edit := { posting "/commands/loop/loop" ("\x7b\"children\": " ++ half) with
      method := "PUT" }
    let tearing := posting "/run" ("\x7b\"command_ids\": " ++ half)
    let run := posting "/run" "\x7b\"command_ids\": [\"moveForward\"]\x7d"
    let vast : Settings := { grid := { cellSize := 10 ^ 4300, cols := 1, rows := 1 } }
    let rest : Move := .resume "task" (.ok ())
    let blocked := planting (Journal.streamKey "demo") (.text "" false)
    let stuck := planting (Lease.key "demo") (.stream [])
    let deep := noting (Event.nestedLists 1000)
    let shallower := noting (Event.nestedLists 300)
    ((∀ start, ¬nan.Bears GivesStart start) ∧ statusAmong {} [] nan [] = some (.ok 500)) ∧
      ((∀ start, ¬cut.Bears GivesStart start) ∧ statusAmong {} [] cut [] = some (.ok 400)) ∧
      ((∃ change, edit.Bears GivesEdit change) ∧ statusAmong {} [] edit [] = some (.ok 500)) ∧
      ((∃ ids, tearing.Bears GivesProgram ids) ∧ statusAmong {} [] tearing [] = some (.ok 500)) ∧
      (∃ ids, run.Bears GivesProgram ids) ∧
      statusAmong vast [] run [rest, rest] = some (.ok 500) ∧
      statusAmong {} [blocked] run [rest] = some (.ok 500) ∧
      statusAmong {} [] run [stuck, rest] = some (.ok 500) ∧
      statusAmong {} [] run [deep, rest] = some (.ok 500) ∧
      statusAmong {} [] run [shallower, rest] = some (.ok 500) ∧
      statusAmong {} [] run [.resume "task" (.error .cancelled)] = some (.error .cancelled) := by
  intro nan cut half edit tearing run vast rest blocked stuck deep shallower
  have hnan : ¬∃ start, nan.Bears GivesStart start := by
    rw [← Request.isTaken_iff startCell_eq_ok_iff]
    decide +kernel
  have hcut : ¬∃ start, cut.Bears GivesStart start := by
    rw [← Request.isTaken_iff startCell_eq_ok_iff]
    decide +kernel
  have hedit : ∃ change, edit.Bears GivesEdit change :=
    (Request.isTaken_iff loopEdit_eq_ok_iff).mp (by decide +kernel)
  have htearing : ∃ ids, tearing.Bears GivesProgram ids :=
    (Request.isTaken_iff program_eq_ok_iff).mp (by decide +kernel)
  have hrun : ∃ ids, run.Bears GivesProgram ids :=
    (Request.isTaken_iff program_eq_ok_iff).mp (by decide +kernel)
  exact ⟨⟨not_exists.mp hnan, by decide +kernel⟩, ⟨not_exists.mp hcut, by decide +kernel⟩,
    ⟨hedit, by decide +kernel⟩, ⟨htearing, by decide +kernel⟩, hrun, by decide +kernel,
    by decide +kernel, by decide +kernel, by decide +kernel, by decide +kernel,
    by decide +kernel⟩

end Desk

end Gridwalk
