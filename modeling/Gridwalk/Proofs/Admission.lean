import Gridwalk.Proofs.AnsweredPauses
import Gridwalk.Proofs.Instant
import Gridwalk.Proofs.Payload
import Gridwalk.Proofs.Publication

/-!
# Runs that are let in

A request for a run that is not refused when it comes in is never refused later.  The run is done
under the lease of the session (`Site.leased`), and what it ends with decides the answer: its result
is told, whether the run was completed or aborted, if it can be told (`Site.Tells`), that is if the
events can be published, the lease can be given back and the result can be sent.  Only a fault that
is not ordinary passes through, and that is the one which the last pause of the run was answered
with (`Site.Concludes`).

`answerRun_reaches` takes the request to the run and what is done with its outcome;
`concluding_concludes` says what that comes to, with nothing asked of how the run went.
-/

set_option autoImplicit false

namespace Gridwalk

open Routine

/-- A key is free if nothing is found there. -/
theorem Store.holds_eq_false_iff {store : Store} {key : String} :
    store.holds key = false ↔ store.find key = none := by
  unfold holds
  exact Option.isSome_eq_false_iff.trans Option.isNone_iff_eq_none

/-- There is a stream under a key, perhaps without entries, or a text. -/
theorem Store.stream_cases (store : Store) (key : String) :
    (∃ entries, store.stream key = .ok entries) ∨
      ∃ value expires, store.find key = some (.text value expires) := by
  unfold stream newestFirst
  cases store.find key with
  | none => exact .inl ⟨_, rfl⟩
  | some stored =>
      cases stored with
      | stream entries => exact .inl ⟨_, rfl⟩
      | text value expires => exact .inr ⟨value, expires, rfl⟩

/-- Where there is a stream there is no text. -/
theorem Store.not_text_of_stream {store : Store} {key : String} {entries : List Fields}
    (h : store.stream key = .ok entries) (value : String) (expires : Bool) :
    store.find key ≠ some (.text value expires) := by
  intro htext
  unfold stream newestFirst at h
  rw [htext] at h
  cases h

/-! ## What a run is answered with -/

namespace Site

/-- The site with the lease of a session taken under a token. -/
def leased (s : Site) (session token : String) : Site :=
  { s with store := s.store.put (Lease.key session) (.text token true) }

/-- The events of a run can be published: all of them can be written, and no text is under the key
of the stream. -/
structure Publishes (s : Site) (session : String) (events : List Event) : Prop where
  written : ∀ event ∈ events, event.IsWritable Event.deepestPayload
  stream : events ≠ [] → ∀ value expires,
    s.store.find (Journal.streamKey session) ≠ some (.text value expires)

/-- There is a stream under the key of a session's lease, so that the lease cannot be given back. -/
def IsStuck (s : Site) (session : String) : Prop :=
  ∃ entries, s.store.find (Lease.key session) = some (.stream entries)

/-- A result can be told: its events can be published, the lease can be given back, and the result
can be sent, for nothing in it is nested too deep or torn. -/
structure Tells (s : Site) (session : String) (result : RunResult) : Prop where
  publishes : s.Publishes session result.events
  free : ¬s.IsStuck session
  showable : Http.isShowable result = true
  whole : (Http.resultView result).isTorn = false

/-- What a run for a session is answered with that has ended in a site, if `reply` was what its last
pause was answered with. -/
inductive Concludes (s : Site) (session : String) (reply : Option Answer) :
    Except Fault RunResult → Except Fault Http.Response → Prop
  /-- The result can be told, and it is, whatever the outcome of the run. -/
  | told {result : RunResult} (htells : s.Tells session result) :
      Concludes s session reply (.ok result) (.ok ⟨200, .telling (Http.resultView result)⟩)
  /-- The result cannot be told. -/
  | untold {result : RunResult} (hnot : ¬s.Tells session result) :
      Concludes s session reply (.ok result) (.ok .failure)
  /-- A fault that is not ordinary passes through the run: its last pause was answered with it. -/
  | passed {fault : Fault} (hfault : fault.isOrdinary = false)
      (hreply : reply = some (.error fault)) (hfree : ¬s.IsStuck session) :
      Concludes s session reply (.error fault) (.error fault)
  /-- The lease cannot be given back, and that hides a fault that passes through the run. -/
  | stuck {fault : Fault} (hfault : fault.isOrdinary = false)
      (hreply : reply = some (.error fault)) (hstuck : s.IsStuck session) :
      Concludes s session reply (.error fault) (.ok .failure)

/-- No run is refused that was let in. -/
theorem Concludes.not_isRefusal {s : Site} {session : String} {reply : Option Answer}
    {ended : Except Fault RunResult} {response : Http.Response}
    (h : s.Concludes session reply ended (.ok response)) : ¬response.IsRefusal := by
  cases h with
  | told => exact Http.Response.not_isRefusal_done _
  | untold => exact Http.Response.not_isRefusal_failure
  | stuck => exact Http.Response.not_isRefusal_failure

/-- Clearing succeeds. -/
theorem clear_ends (s : Site) : ∃ t, ownStage.clear s = (.ok (), t) := by
  show ∃ t, Act.bind (ownStage.setIndex (.index idleIndex)) _ s = (.ok (), t)
  simp only [Act.bind, setIndex_eq]
  show ∃ t, Act.bind (ownStage.updateActor _) _ _ = (.ok (), t)
  simp only [Act.bind, updateActor_eq]
  exact ⟨_, rfl⟩

/-- Where the store of a site is kept, in the site itself. -/
abbrev ownStore : Place Site Store := Place.whole.inside storePlace

/-- The store of a site is a lawful place. -/
theorem lawful_ownStore : ownStore.Lawful := Place.lawful_whole.inside lawful_storePlace

/-- The events of a run are all written, or one of them cannot be. -/
theorem mapM_fields (events : List Event) :
    (∀ event ∈ events, event.IsWritable Event.deepestPayload) ∧
        (∃ lines, events.mapM Event.fields = .ok lines) ∨
      (¬∀ event ∈ events, event.IsWritable Event.deepestPayload) ∧
        ∃ obstacle : Json.Obstacle, events.mapM Event.fields = .error obstacle.fault := by
  induction events with
  | nil => exact .inl ⟨List.forall_mem_nil _, [], rfl⟩
  | cons event rest ih =>
      rw [List.forall_mem_cons, List.mapM_cons]
      cases hobstacle : (Json.obj event.occurrence.payload).obstacle? Event.deepestPayload with
      | some obstacle =>
          refine .inr ⟨fun hall => ?_, obstacle, ?_⟩
          · rw [Event.IsWritable, ← Json.obstacle?_eq_none_iff, hobstacle] at hall
            cases hall.1
          · simp only [Event.fields, Event.fieldsWithin, hobstacle]
            rfl
      | none =>
          have hwritable : event.IsWritable Event.deepestPayload :=
            (Json.obstacle?_eq_none_iff _ _).mp hobstacle
          have hfields : event.fields = .ok _ := Event.fieldsWithin_eq_ok_iff.mpr ⟨hwritable, rfl⟩
          rw [hfields]
          rcases ih with ⟨hall, lines, hlines⟩ | ⟨hnot, obstacle, herror⟩
          · rw [hlines]
            exact .inl ⟨⟨hwritable, hall⟩, _, rfl⟩
          · rw [herror]
            exact .inr ⟨fun hall => hnot hall.2, obstacle, rfl⟩

/-- A text under the key of a stream keeps events from being published. -/
theorem publishRun_of_text {s : Site} {session : String} {event : Event} {rest : List Event}
    {lines : List Fields} (hlines : (event :: rest).mapM Event.fields = .ok lines) {value : String}
    {expires : Bool}
    (htext : s.store.find (Journal.streamKey session) = some (.text value expires)) :
    Journal.publishRun ownStore session (event :: rest) s = (.error .wrongKind, s) := by
  have hall := (mapM_eq_ok_iff _ _ _).mp hlines
  cases hall with
  | @cons _ fields _ lines hfields _ =>
      have hempty : fields.isEmpty = false := by simpa using Event.fields_ne_nil hfields
      have happend : s.store.append (Journal.streamKey session) fields = .error .wrongKind := by
        unfold Store.append Store.newestFirst
        rw [hempty, htext]
        rfl
      show Act.bind (Act.ofExcept ((event :: rest).mapM Event.fields)) _ s = _
      simp only [Act.bind, Act.ofExcept, hlines]
      show Act.bind (Act.update ownStore fun s => s.append (Journal.streamKey session) fields) _ s =
        _
      have happend' : (ownStore.get s).append (Journal.streamKey session) fields =
        .error .wrongKind := happend
      simp only [Act.bind, Act.update, happend']

/-- The events of a run are published, or something stands in the way; the lease is left alone. -/
theorem publishRun_cases (s : Site) (session : String) (events : List Event) :
    ∃ result t, Journal.publishRun ownStore session events s = (result, t) ∧
      (t.IsStuck session ↔ s.IsStuck session) ∧
      ((∃ count, result = .ok count) ∧ s.Publishes session events ∨
        (∃ fault, result = .error fault ∧ fault.isOrdinary = true ∧
          Http.runRefusal fault = .failure) ∧ ¬s.Publishes session events) := by
  rcases mapM_fields events with ⟨hwritten, lines, hlines⟩ | ⟨hnot, obstacle, herror⟩
  · rcases s.store.stream_cases (Journal.streamKey session) with
      ⟨old, hold⟩ | ⟨value, expires, htext⟩
    · obtain ⟨store, hpublish, -, hothers⟩ := Journal.publishRun_eq lawful_ownStore s hlines hold
      have hlease : store.find (Lease.key session) = s.store.find (Lease.key session) :=
        hothers _ (Lease.key_ne_streamKey session session)
      refine ⟨_, _, hpublish, ?_, .inl ⟨⟨_, rfl⟩, hwritten, fun _ =>
        Store.not_text_of_stream hold⟩⟩
      show (∃ entries, store.find (Lease.key session) = some (.stream entries)) ↔ _
      rw [hlease]
      exact Iff.rfl
    · cases events with
      | nil => exact ⟨_, _, rfl, Iff.rfl, .inl ⟨⟨_, rfl⟩, hwritten, fun h => absurd rfl h⟩⟩
      | cons event rest =>
          refine ⟨_, _, publishRun_of_text hlines htext, Iff.rfl,
            .inr ⟨⟨_, rfl, rfl, rfl⟩, fun h => ?_⟩⟩
          exact h.stream (List.cons_ne_nil _ _) value expires htext
  · refine ⟨_, _, Journal.publishRun_of_error s herror, Iff.rfl,
      .inr ⟨⟨_, rfl, ?_, ?_⟩, fun h => hnot h.written⟩⟩
    · cases obstacle <;> rfl
    · cases obstacle <;> rfl

/-- A lease is given back, unless there is a stream under its key. -/
theorem release_cases (s : Site) (session token : String) :
    ∃ result t, Lease.release ownStore session token s = (result, t) ∧
      (result = .ok () ∧ ¬s.IsStuck session ∨
        result = .error .wrongKind ∧ s.IsStuck session) := by
  by_cases hstuck : s.IsStuck session
  · obtain ⟨entries, hfound⟩ := hstuck
    have htext : (ownStore.get s).text? (Lease.key session) = .error .wrongKind := by
      show s.store.text? _ = _
      unfold Store.text?
      rw [hfound]
    have hrelease : Lease.release ownStore session token s = (.error .wrongKind, s) := by
      unfold Lease.release Act.update
      simp only [htext, bind, Except.bind]
    exact ⟨_, _, hrelease, .inr ⟨rfl, entries, hfound⟩⟩
  · obtain ⟨store, hrelease, -, -⟩ := Lease.release_eq lawful_ownStore s token
      fun entries (hfound : s.store.find (Lease.key session) = _) => hstuck ⟨entries, hfound⟩
    exact ⟨_, _, hrelease, .inl ⟨rfl, hstuck⟩⟩

end Site

/-! ## Admitted runs -/

/-- Where nothing is asked while a routine is held, and every end will do, any routine does. -/
theorem Routine.meets_of_ended {σ α : Type} {c : Contract σ α}
    (hheld : ∀ o p k s, c.held o p k s) (hended : ∀ o result s, c.ended o result s)
    (r : Routine σ α) (o : Origin σ) (s : σ) : r.Meets c o s := by
  induction r generalizing o s with
  | done a => exact hended o _ s
  | fail fault => exact hended o _ s
  | get k ih => exact ih s o s
  | put t r ih => exact ih o t
  | pause p k ih => exact ⟨hheld _ _ _ _, fun answer t _ => ih answer _ t⟩

namespace Http

open Site

/-- What the end of a dispatched run is answered with. -/
def runAnswer : Except Fault RunResult → Except Fault Response
  | .ok result => .ok (.ofResult result)
  | .error fault => if fault.isOrdinary then .ok (runRefusal fault) else .error fault

/-- Publishes the events of a result. -/
def publishing (session : String) (result : RunResult) : Routine Site RunResult := do
  let _ ← (Journal.publishRun ownStore session result.events : Act Site Nat)
  return result

/-- What is done with the outcome of a run: the events of a result are published, the lease is given
back in any case, and the request is answered. -/
def concluding (session token : String) (ended : Except Fault RunResult) :
    Routine Site Response := do
  let outcome ← (Routine.ensure (Routine.ofExcept ended >>= publishing session)
    (Lease.release ownStore session token : Act Site Unit)).attempt
  Routine.ofExcept (runAnswer outcome)

/-- The answer to a run is that to the outcome of its dispatch. -/
theorem answerRun_eq (fresh : Fresh) (session : String) (ids : List Phrase) :
    answerRun Place.whole fresh session ids =
      (ownStage.dispatch ownStore ⟨session, fresh.token, fresh.run⟩ ids).attempt >>=
        fun outcome => ofExcept (runAnswer outcome) := by
  unfold answerRun
  refine congrArg (Bind.bind _) (funext fun outcome => ?_)
  cases outcome with
  | ok result => rfl
  | error fault =>
      dsimp only [runAnswer]
      split <;> rfl

section Admitted

variable {session token : String} {s : Site}

/-- A request for a run that nobody is in the way of comes to the run, under the lease, and to what
is done with its outcome. -/
theorem answerRun_reaches (hphase : s.context.phase = .idle)
    (hfree : s.store.holds (Lease.key session) = false) (fresh : Fresh) (ids : List Phrase) :
    Reaches (answerRun Place.whole fresh session ids) s
      ((ownStage.execute fresh.run ids).attempt >>= concluding session fresh.token)
      (s.leased session fresh.token) := by
  have hidle : ownStage.requireIdle s = (.ok (), s) := Stage.requireIdle_of_idle hphase
  have htake : Lease.take ownStore session fresh.token s =
      (.ok (), s.leased session fresh.token) := by
    have hclaim : (ownStore.get s).claim? (Lease.key session) fresh.token =
        some (s.store.put (Lease.key session) (.text fresh.token true)) :=
      Store.claim?_of_find_eq_none fresh.token (Store.holds_eq_false_iff.mp hfree)
    unfold Lease.take Act.update
    simp only [hclaim]
    rfl
  have hsplit : ((ownStage.execute fresh.run ids).attempt >>= concluding session fresh.token) =
      (Routine.ensure (ownStage.execute fresh.run ids >>= publishing session)
        (Routine.ofAct (Lease.release ownStore session fresh.token))).attempt >>=
          fun outcome => Routine.ofExcept (runAnswer outcome) := by
    rw [ensure_bind, attempt_attempt_bind]
    exact (bind_assoc _ _ _).symm
  rw [answerRun_eq, hsplit]
  exact (((reaches_act_bind hidle).trans (reaches_act_bind htake)).attempt).bind _

/-! ### Faults that pass through -/

/-- What is asked of a run that was let in: it fails with no fault that is ordinary. -/
def aborting : Contract Site RunResult where
  rely _ _ := True
  held _ _ _ _ := True
  ended _ result _ := ∀ fault, result = .error fault → fault.isOrdinary = false

/-- However the program of a run ends, the run does not fail in an ordinary way. -/
theorem finishing_meets (run : RunId) (program : Routine Site Unit) (o : Origin Site) (s : Site) :
    (ownStage.finishing run program).Meets aborting o s := by
  refine meets_bind (meets_attempt ?_)
  -- The program itself may be any routine: whatever it ends with, the rest is done after it.
  refine meets_of_ended (fun _ _ _ _ => trivial) (fun o ended s => ?_) program o s
  obtain ⟨t, hclear⟩ := clear_ends s
  refine meets_act_bind hclear (meets_ofExcept_bind (fun outcome _ => ?_) fun fault hfault => ?_)
  · have hconclude : ∃ result u, ownStage.conclude run outcome t = (.ok result, u) := ⟨_, _, rfl⟩
    obtain ⟨result, u, hconclude⟩ := hconclude
    refine (reaches_ofAct hconclude).meets ?_
    exact fun fault => nofun
  · rintro _ ⟨⟩
    cases ended with
    | ok u => cases hfault
    | error cause =>
        unfold Stage.outcomeOf at hfault
        cases hordinary : cause.isOrdinary with
        | true => simp [hordinary] at hfault
        | false =>
            simp only [hordinary, Bool.false_eq_true, if_false] at hfault
            cases hfault
            exact hordinary

/-- While no run is in progress, a run comes to the start of its program. -/
theorem execute_reaches (hphase : s.context.phase = .idle) (run : RunId) (ids : List Phrase) :
    ∃ t, Reaches (ownStage.execute run ids) s
      (ownStage.finishing run (ownStage.runProgram ids)) t := by
  let started := ownStage.phasePlace.set .running s
  let opened := (Act.modify ownStage.context (fun c => c.opened run) started).2
  have hbegin : ownStage.begin s = (.ok (), started) := Stage.begin_of_idle hphase
  have hopen : Act.modify ownStage.context (fun c => c.opened run) started = (.ok (), opened) := rfl
  have hrecord : ownStage.record (.runStarted ids) opened =
      (.ok (), (ownStage.record (.runStarted ids) opened).2) := rfl
  rw [Stage.execute_eq]
  exact ⟨_, (reaches_act_bind hbegin).trans
    ((reaches_act_bind hopen).trans (reaches_act_bind hrecord))⟩

/-- The stage of a site is mild. -/
theorem ownStage_isMild : ownStage.IsMild where
  observe _ _ := Act.isMild_modify _ _
  custom _ := (isPrompt_done ()).isCandid

/-- A run that was let in fails with no fault but one that is not ordinary, and its last pause was
answered with it. -/
theorem execute_owed (hphase : s.context.phase = .idle) {run : RunId} {ids : List Phrase}
    {answers : List (Answer × Site)} {ended : Except Fault RunResult} {t : Site}
    (h : (ownStage.execute run ids).EndsAlong s answers ended t) (fault : Fault)
    (hfault : ended = .error fault) :
    fault.isOrdinary = false ∧ lastAnswer none answers = some (.error fault) := by
  obtain ⟨u, hreaches⟩ := execute_reaches hphase run ids
  have hmeets : (ownStage.execute run ids).Meets aborting ⟨none, s⟩ s :=
    hreaches.meets (finishing_meets run _ _ u)
  obtain ⟨_, hordinary⟩ := h.ended (fun _ _ => trivial) hmeets
  have howed := h.yields (ownStage_isMild.isCandid_execute run ids none)
  refine ⟨hordinary fault hfault, (howed fault hfault).resolve_left ?_⟩
  rw [hordinary fault hfault]
  nofun

/-! ### What is done with the outcome -/

/-- A result that can be told is answered, and any other one is a failure. -/
theorem ofResult_concludes {reply : Option Answer} {result : RunResult}
    (hpublishes : s.Publishes session result.events) (hfree : ¬s.IsStuck session) :
    s.Concludes session reply (.ok result) (.ok (.ofResult result)) := by
  unfold Response.ofResult
  split
  next hshowable =>
    cases hwhole : (resultView result).isTorn with
    | false =>
        rw [Response.ok_of_whole hwhole]
        exact .told ⟨hpublishes, hfree, hshowable, hwhole⟩
    | true =>
        unfold Response.ok
        rw [if_pos hwhole]
        refine .untold fun htells => ?_
        rw [htells.whole] at hwhole
        cases hwhole
  next hnot => exact .untold fun htells => hnot htells.showable

/-- Whatever the body came to, the lease is given back, and what there is to answer is answered if
that can be done. -/
theorem releasing_reaches {body : Routine Site RunResult} {outcome : Except Fault RunResult}
    {t : Site} (hbody : Reaches body s (ofExcept outcome) t) (session token : String) :
    ∃ answer u, Reaches ((Routine.ensure body (Routine.ofAct
        (Lease.release ownStore session token))).attempt >>= fun outcome =>
          ofExcept (runAnswer outcome)) s (ofExcept answer) u ∧
      (¬t.IsStuck session → answer = runAnswer outcome) ∧
      (t.IsStuck session → answer = .ok .failure) := by
  obtain ⟨result, u, hrelease, hresult⟩ := release_cases t session token
  have hended : Reaches body.attempt s (.done outcome) t := by
    have h := hbody.attempt
    cases outcome <;> exact h
  have hensure :
      Reaches (Routine.ensure body (Routine.ofAct (Lease.release ownStore session token))) s
        (ofExcept result >>= fun _ => ofExcept outcome) u :=
    (hended.bind _).trans ((reaches_ofAct hrelease).bind _)
  rcases hresult with ⟨rfl, hfree⟩ | ⟨rfl, hstuck⟩
  · refine ⟨runAnswer outcome, u, ?_, fun _ => rfl, fun hstuck => absurd hstuck hfree⟩
    refine (hensure.attempt.bind _).trans ?_
    cases outcome <;> exact .here _ _
  -- A lease that cannot be given back hides what the body ended with.
  · exact ⟨.ok .failure, u, hensure.attempt.bind _, fun hfree => absurd hstuck hfree, fun _ => rfl⟩

/-- What is done with the outcome of a run comes to an answer without a pause, and that is how the
run concludes if it failed with nothing but a fault that passes through. -/
theorem concluding_concludes (session token : String) (ended : Except Fault RunResult) (s : Site) :
    ∃ answer t, Reaches (concluding session token ended) s (ofExcept answer) t ∧
      ∀ reply, (∀ fault, ended = .error fault → fault.isOrdinary = false ∧
        reply = some (.error fault)) → s.Concludes session reply ended answer := by
  cases ended with
  | error fault =>
      have hbody : Reaches (Routine.ofExcept (.error fault) >>= publishing session) s
          (ofExcept (.error fault)) s := .here _ _
      obtain ⟨answer, t, hreaches, hfree, hstuck⟩ := releasing_reaches hbody session token
      refine ⟨answer, t, hreaches, fun reply hpasses => ?_⟩
      obtain ⟨hfault, hreply⟩ := hpasses fault rfl
      by_cases h : s.IsStuck session
      · rw [hstuck h]
        exact .stuck hfault hreply h
      · have hpassed : runAnswer (.error fault) = .error fault := by
          simp only [runAnswer, hfault, Bool.false_eq_true, if_false]
        rw [hfree h, hpassed]
        exact .passed hfault hreply h
  | ok result =>
      obtain ⟨published, u, hpublish, hlease, hcases⟩ := publishRun_cases s session result.events
      rcases hcases with ⟨⟨count, rfl⟩, hpublishes⟩ | ⟨⟨fault, rfl, hordinary, hrefusal⟩, hnot⟩
      · have hbody : Reaches (publishing session result) s (ofExcept (.ok result)) u :=
          reaches_act_bind hpublish
        obtain ⟨answer, t, hreaches, hfree, hstuck⟩ := releasing_reaches hbody session token
        refine ⟨answer, t, hreaches, fun _ _ => ?_⟩
        by_cases h : u.IsStuck session
        · rw [hstuck h]
          exact .untold fun htells => htells.free (hlease.mp h)
        · rw [hfree h]
          exact ofResult_concludes hpublishes (fun hs => h (hlease.mpr hs))
      · have hbody : Reaches (publishing session result) s (ofExcept (.error fault)) u :=
          (reaches_ofAct hpublish).bind _
        obtain ⟨answer, t, hreaches, hfree, hstuck⟩ := releasing_reaches hbody session token
        have hfailure : answer = .ok .failure := by
          by_cases h : u.IsStuck session
          · exact hstuck h
          · rw [hfree h]
            simp only [runAnswer, hordinary, if_true, hrefusal]
        refine ⟨answer, t, hreaches, fun _ _ => ?_⟩
        rw [hfailure]
        exact .untold fun htells => hnot htells.publishes

end Admitted

end Http

end Gridwalk
