import Gridwalk.Proofs.Account
import Gridwalk.Proofs.SingleFlight
import Mathlib.Data.List.Forall2

/-!
# What calls publish

The stream of a session grows at one moment only: when a dispatched run of that session has made
up its result, all events of it are added at once, behind what was there, or none at all.
`Call.streamContract` says this of all stretches of a call after it was begun, and that a run
which is held goes on recounting itself as long as the world leaves its context alone
(`Call.Fits`).  `closing_meets_stream` says that calls meet it from the start of their programs on.
-/

set_option autoImplicit false

namespace Gridwalk

/-- Items are all mapped without a fault exactly if each of them is. -/
theorem mapM_eq_ok_iff {α β : Type} (g : α → Except Fault β) (items : List α) (results : List β) :
    items.mapM g = .ok results ↔ List.Forall₂ (fun a b => g a = .ok b) items results := by
  induction items generalizing results with
  | nil =>
      rw [List.mapM_nil, List.forall₂_nil_left_iff]
      exact ⟨fun h => (Except.ok.inj h).symm, fun h => h ▸ rfl⟩
  | cons a rest ih =>
      rw [List.mapM_cons]
      cases ha : g a with
      | error fault =>
          refine ⟨nofun, fun h => ?_⟩
          cases h with
          | cons hb _ => rw [ha] at hb; cases hb
      | ok b =>
          cases hrest : rest.mapM g with
          | error fault =>
              refine ⟨nofun, fun h => ?_⟩
              cases h with
              | cons _ hbs => rw [(ih _).mpr hbs] at hrest; cases hrest
          | ok bs =>
              constructor
              · intro h
                cases h
                exact .cons ha ((ih bs).mp hrest)
              · intro h
                cases h with
                | cons hb hbs =>
                    rw [ha] at hb
                    rw [(ih _).mpr hbs] at hrest
                    cases hb
                    cases hrest
                    rfl

/-- Different sessions have different streams. -/
theorem Journal.streamKey_injective {session other : String}
    (h : streamKey session = streamKey other) : session = other := by
  have hlist := congrArg String.toList h
  simp only [streamKey, String.toList_append, List.append_cancel_left_eq] at hlist
  exact String.toList_injective hlist

namespace Store

variable {store other : Store} {key : String}

/-- The stream of a key depends on what is found there. -/
theorem stream_congr (h : store.find key = other.find key) :
    store.stream key = other.stream key := by
  unfold stream newestFirst
  rw [h]

/-- An entry is added at the end of a stream. -/
theorem append_stream {fields : Fields} (hfields : fields ≠ []) {old : List Fields}
    (hold : store.stream key = .ok old) :
    ∃ store', store.append key fields = .ok store' ∧
      store'.stream key = .ok (old ++ [fields]) := by
  have hempty : fields.isEmpty = false := by simpa using hfields
  unfold stream at hold
  cases hnewest : store.newestFirst key with
  | error fault =>
      rw [hnewest] at hold
      cases hold
  | ok entries =>
      rw [hnewest] at hold
      cases hold
      refine ⟨store.put key (.stream (fields :: entries)), ?_, ?_⟩
      · unfold append
        rw [hempty, hnewest]
        rfl
      · unfold stream newestFirst
        rw [find_put, if_pos rfl]
        simp [Except.map]

end Store

/-- A published event has fields, whatever happened. -/
theorem Event.fields_ne_nil {event : Event} {fields : Fields} (h : event.fields = .ok fields) :
    fields ≠ [] := by
  rintro rfl
  unfold Event.fields Event.fieldsWithin at h
  dsimp only at h
  split at h <;> cases h

section Acts

variable {σ : Type} {place : Place σ Store} (hplace : place.Lawful) (s : σ) {session key : String}

include hplace

/-- Entries for one stream are added at its end, in their order, and no other key is touched. -/
theorem Journal.publish_eq {lines old : List Fields} (hlines : ∀ fields ∈ lines, fields ≠ [])
    (hold : (place.get s).stream key = .ok old) :
    ∃ store, publish place (lines.map fun fields => (key, fields)) s =
        (.ok lines.length, place.set store s) ∧
      store.stream key = .ok (old ++ lines) ∧
      ∀ other, other ≠ key → store.find other = (place.get s).find other := by
  induction lines generalizing s old with
  | nil =>
      refine ⟨place.get s, ?_, by simpa using hold, fun _ _ => rfl⟩
      rw [hplace.set_get]
      rfl
  | cons fields rest ih =>
      obtain ⟨store, happend, hstream⟩ :=
        Store.append_stream (hlines fields List.mem_cons_self) hold
      rw [← hplace.get_set store s] at hstream
      obtain ⟨store', hrest, hstream', hothers⟩ := ih (place.set store s)
        (fun other hother => hlines other (List.mem_cons_of_mem _ hother)) hstream
      refine ⟨store', ?_, by simpa using hstream', fun other hother => ?_⟩
      · rw [hplace.set_set] at hrest
        show Act.bind (Act.update place fun s => s.append key fields) (fun _ =>
          Act.bind (publish place (rest.map fun fields => (key, fields))) fun count =>
            Act.pure (count + 1)) s = _
        simp only [Act.bind, Act.update, happend, hrest]
        rfl
      · rw [hothers other hother, hplace.get_set, Fleet.find_append other happend hother]

/-- The events of a run are added to the stream of its session, if all of them can be written. -/
theorem Journal.publishRun_eq {events : List Event} {lines old : List Fields}
    (hlines : events.mapM Event.fields = .ok lines)
    (hold : (place.get s).stream (streamKey session) = .ok old) :
    ∃ store, publishRun place session events s = (.ok lines.length, place.set store s) ∧
      store.stream (streamKey session) = .ok (old ++ lines) ∧
      ∀ other, other ≠ streamKey session → store.find other = (place.get s).find other := by
  have hne : ∀ fields ∈ lines, fields ≠ [] := by
    have hall := (mapM_eq_ok_iff _ _ _).mp hlines
    clear hlines
    induction hall with
    | nil => exact List.forall_mem_nil _
    | cons hfields _ ih => exact List.forall_mem_cons.mpr ⟨Event.fields_ne_nil hfields, ih⟩
  obtain ⟨store, hpublish, hstream, hothers⟩ := publish_eq hplace s hne hold
  refine ⟨store, ?_, hstream, hothers⟩
  show Act.bind (Act.ofExcept (events.mapM Event.fields)) _ s = _
  simp only [Act.bind, Act.ofExcept, hlines]
  exact hpublish

omit hplace in
/-- If an event cannot be written, then none is published. -/
theorem Journal.publishRun_of_error {events : List Event} {fault : Fault}
    (h : events.mapM Event.fields = .error fault) :
    publishRun place session events s = (.error fault, s) := by
  show Act.bind (Act.ofExcept (events.mapM Event.fields)) _ s = _
  simp only [Act.bind, Act.ofExcept, h]

/-- A lease is given back without a fault unless there is a stream under its key. -/
theorem Lease.release_eq (token : String)
    (hlease : ∀ entries, (place.get s).find (Lease.key session) ≠ some (.stream entries)) :
    ∃ store, release place session token s = (.ok (), place.set store s) ∧
      (∀ entries, store.find (Lease.key session) ≠ some (.stream entries)) ∧
      ∀ other, other ≠ Lease.key session → store.find other = (place.get s).find other := by
  obtain ⟨held, hheld⟩ : ∃ held, (place.get s).text? (Lease.key session) = .ok held := by
    unfold Store.text?
    cases hfound : (place.get s).find (Lease.key session) with
    | none => exact ⟨_, rfl⟩
    | some stored =>
        cases stored with
        | text value expires => exact ⟨_, rfl⟩
        | stream entries => exact absurd hfound (hlease entries)
  let store := if held = some token then (place.get s).erase (Lease.key session) else place.get s
  have hrelease : release place session token s = (.ok (), place.set store s) := by
    unfold release Act.update
    simp only [hheld, bind, Except.bind, pure, Except.pure]
    rfl
  have hfind := Lease.find_release hplace session token s
  rw [hrelease] at hfind
  change ∀ other, (place.get (place.set store s)).find other = _ at hfind
  rw [hplace.get_set] at hfind
  refine ⟨store, hrelease, fun entries hstream => ?_, fun other hother => ?_⟩
  · rw [hfind, if_pos rfl] at hstream
    exact hlease entries (released_eq_stream_iff.mp hstream)
  · rw [hfind, if_neg hother]

end Acts

namespace Call

/-- The result that a call publishes on the stream of a session. -/
def report? (session : String) : Call → Except Fault (Option RunResult) → Option RunResult
  | .dispatch ticket _, .ok result => if ticket.session = session then result else none
  | _, _ => none

/-- A run that was begun recounts itself, and no stream is under the key of its lease. -/
def Fits (name : String) (f : Fleet) : Call → Prop
  | .execute run ids => Fleet.Recounts name run ids f
  | .dispatch ticket ids => Fleet.Recounts name ticket.run ids f ∧
      ∀ entries, f.store.find (Lease.key ticket.session) ≠ some (.stream entries)
  | .invoke _ => True

/-- What becomes of the stream of a session when a call ends: the events of a result are added,
which are a whole account of its run. -/
structure Posts (session : String) (call : Call) (before : Store)
    (result : Except Fault (Option RunResult)) (after : Store) : Prop where
  complete : ∀ r, call.report? session result = some r → ∃ ids, r.IsComplete ids
  stream : ∀ old, before.stream (Journal.streamKey session) = .ok old →
    ∃ lines, ((call.report? session result).toList.flatMap RunResult.events).mapM Event.fields =
        .ok lines ∧
      after.stream (Journal.streamKey session) = .ok (old ++ lines)

/-- What is asked of a call after it was begun: that it leaves the stream of a session alone until
it ends, and then adds what it reports. -/
def streamContract (session name : String) (call : Call) : Contract Fleet (Option RunResult) where
  rely _ f := call.Fits name f
  held o _ _ f := f.store.find (Journal.streamKey session) =
    o.state.store.find (Journal.streamKey session) ∧ call.Fits name f
  ended o result f := call.Posts session o.state.store result f.store

section Posts

variable {session name : String} {call : Call} {f g : Fleet}

/-- What leaves the store alone and recounts what was recounted lets a run go on. -/
theorem Fits.of_recounts (h : call.Fits name f) (hstore : g.store = f.store)
    (hrecounts : ∀ run ids, Fleet.Recounts name run ids f → Fleet.Recounts name run ids g) :
    call.Fits name g := by
  cases call with
  | execute run ids => exact hrecounts run ids h
  | dispatch ticket ids => exact ⟨hrecounts _ ids h.1, by rw [hstore]; exact h.2⟩
  | invoke command => exact trivial

/-- Without a report the stream stays as it is. -/
theorem posts_of_report?_eq_none {result : Except Fault (Option RunResult)} {before after : Store}
    (hreport : call.report? session result = none)
    (hfind : after.find (Journal.streamKey session) =
      before.find (Journal.streamKey session)) :
    call.Posts session before result after where
  complete r hr := by
    rw [hreport] at hr
    cases hr
  stream old hold := by
    refine ⟨[], by rw [hreport]; rfl, ?_⟩
    rw [Store.stream_congr hfind, hold, List.append_nil]

/-- The stream is all that matters of the store in the end. -/
theorem Posts.congr {result : Except Fault (Option RunResult)} {before after after' : Store}
    (h : call.Posts session before result after)
    (hfind : after'.find (Journal.streamKey session) = after.find (Journal.streamKey session)) :
    call.Posts session before result after' where
  complete := h.complete
  stream old hold := by
    rw [Store.stream_congr hfind]
    exact h.stream old hold

end Posts

end Call

namespace Fleet

open Routine

variable {session name : String} {f : Fleet} {o : Origin Fleet} (crowd : Crowd)

/-- The regime of a run that recounts what it does, and leaves the store alone. -/
def fitRegime (name : String) (call : Call) : Regime Fleet where
  rely _ f := call.Fits name f
  held o _ f := f.store = o.state.store ∧ call.Fits name f
  within o f := f.store = o.state.store ∧ call.Fits name f

/-- The program of a run keeps to the regime. -/
theorem fitRegime_spans (name : String) (call : Call) : (fitRegime name call).Spans name where
  calm h hcalm := ⟨hcalm.store_eq.trans h.1,
    h.2.of_recounts hcalm.store_eq fun _ _ hf => hf.calm hcalm⟩
  step h := h
  afterStep _ hg := ⟨rfl, hg⟩
  edge h := ⟨h.1, h.2.of_recounts rfl fun _ _ hf => hf.change (.hold true) rfl⟩
  afterEdge _ hg := ⟨rfl, hg.of_recounts rfl fun _ _ hf => hf.change (.hold false) rfl⟩
  moving h := ⟨h.1, h.2.of_recounts rfl fun _ _ hf => hf.change _ rfl⟩
  indexed h position := ⟨h.1, h.2.of_recounts rfl fun _ _ hf => hf.showIndex position⟩
  started h index id := ⟨h.1, h.2.of_recounts rfl fun _ _ hf => hf.note (.stepStarted index id)⟩
  skipped h index id := ⟨h.1, h.2.of_recounts rfl fun _ _ hf => hf.note (.stepSkipped index id)⟩

/-- Finishing a run leaves the store alone. -/
theorem store_finished (run : RunId) (ended : Except Fault Unit) :
    (f.finished name run ended).2.store = f.store := by
  unfold finished
  cases Stage.outcomeOf ended <;> rfl

/-- After its body a dispatched run gives the lease back, and keeps to a contract that asks for
nothing about the key of the lease. -/
theorem release_meets {c : Contract Fleet (Option RunResult)} {ticket : Ticket}
    (hlease : ∀ entries, f.store.find (Lease.key ticket.session) ≠ some (.stream entries))
    (outcome : Except Fault RunResult)
    (hended : ∀ store : Store, (∀ key, key ≠ Lease.key ticket.session →
        store.find key = f.store.find key) →
      c.ended o (outcome.map some) { f with store }) :
    (Routine.ofAct (Lease.release storePlace ticket.session ticket.token) >>= fun _ =>
      Routine.ofExcept outcome).Meets (c.before fun r => .done (some r)) o f := by
  obtain ⟨store, hrelease, -, hothers⟩ :=
    Lease.release_eq lawful_storePlace f ticket.token hlease
  refine meets_act_bind hrelease (meets_ofExcept ?_)
  have h := hended store hothers
  cases outcome <;> exact h

/-- When the result of a dispatched run is published, its events are added to the stream of its
session or the run fails, and no other stream is touched. -/
theorem publishRun_posts (session : String) (ticket : Ticket) (ids : List Phrase) {r : RunResult}
    (hcomplete : r.IsComplete ids) (f : Fleet) :
    (Call.dispatch ticket ids).Posts session f.store
      ((Journal.publishRun storePlace ticket.session r.events f).1.map fun _ => some r)
      (Journal.publishRun storePlace ticket.session r.events f).2.store := by
  by_cases hsession : ticket.session = session
  · subst hsession
    cases hlines : r.events.mapM Event.fields with
    | error fault =>
        rw [Journal.publishRun_of_error f hlines]
        exact Call.posts_of_report?_eq_none rfl rfl
    | ok lines =>
        constructor
        · intro r' hr'
          cases hresult : (Journal.publishRun storePlace ticket.session r.events f).1 with
          | error fault =>
              rw [hresult] at hr'
              cases hr'
          | ok count =>
              rw [hresult] at hr'
              have hsame : some r = some r' := by simpa [Call.report?, Except.map] using hr'
              cases hsame
              exact ⟨ids, hcomplete⟩
        · intro old hold
          obtain ⟨store, hpublish, hstream, -⟩ :=
            Journal.publishRun_eq lawful_storePlace f hlines hold
          have hreport : (Call.dispatch ticket ids).report? ticket.session (.ok (some r)) =
              some r := if_pos rfl
          rw [hpublish]
          refine ⟨lines, ?_, hstream⟩
          simp only [Except.map, hreport, Option.toList_some, List.flatMap_singleton, hlines]
  -- A run of another session reports nothing here, and its stream is another one.
  · refine Call.posts_of_report?_eq_none ?_ ?_
    · cases (Journal.publishRun storePlace ticket.session r.events f).1 with
      | error fault => rfl
      | ok count => exact if_neg hsession
    · refine find_publishRun f (fun h => hsession ?_) r.events
      exact (Journal.streamKey_injective h).symm

/-- However the program of a dispatched run ended, its result is published, and then the lease is
given back. -/
theorem dispatch_ofExcept_posts (session : String) {ticket : Ticket} {ids : List Phrase}
    (ended : Except Fault Unit) (hstore : f.store = o.state.store)
    (hrecounts : Recounts name ticket.run ids f)
    (hlease : ∀ entries, f.store.find (Lease.key ticket.session) ≠ some (.stream entries)) :
    ((Call.dispatch ticket ids).closing (stage crowd name) storePlace
        (Routine.ofExcept ended)).Meets
      ((Call.dispatch ticket ids).streamContract session name) o f := by
  have hsame : (f.finished name ticket.run ended).2.store = f.store :=
    store_finished ticket.run ended
  have hcomplete (r : RunResult) (hr : (f.finished name ticket.run ended).1 = .ok r) :
      r.IsComplete ids := hrecounts.finished hr
  refine meets_bind (meets_bind (meets_attempt (meets_bind ?_)))
  refine (finishing_reaches crowd name f ticket.run ended).meets (meets_ofExcept ?_)
  cases hfinished : f.finished name ticket.run ended with
  | mk outcome g =>
  rw [hfinished] at hsame hcomplete
  change g.store = f.store at hsame
  -- Nothing that happens from here on puts a stream under the key of the lease.
  have hkeys := Lease.key_ne_streamKey ticket.session session
  rw [← hsame] at hlease
  cases outcome with
  | error fault =>
      refine release_meets hlease (.error fault) fun store hothers => ?_
      refine Call.posts_of_report?_eq_none rfl ?_
      rw [hothers _ (Ne.symm hkeys), hsame, hstore]
  | ok r =>
      have hposts := publishRun_posts session ticket ids (hcomplete r rfl) g
      have hheld := find_publishRun g (Lease.key_ne_streamKey ticket.session ticket.session)
        r.events
      show Meets _ (Routine.ofAct (Journal.publishRun storePlace ticket.session r.events) >>=
        fun _ => .done r) o g
      refine meets_bind (meets_ofAct ?_)
      cases hpublish : Journal.publishRun storePlace ticket.session r.events g with
      | mk published h =>
      rw [hpublish] at hposts hheld
      change h.store.find _ = g.store.find _ at hheld
      rw [← hheld] at hlease
      rw [hsame, hstore] at hposts
      cases published with
      | error fault =>
          exact release_meets hlease (.error fault) fun store hothers =>
            hposts.congr (hothers _ (Ne.symm hkeys))
      | ok count =>
          exact release_meets hlease (.ok r) fun store hothers =>
            hposts.congr (hothers _ (Ne.symm hkeys))

/-- However the program of a call ended, the call adds what it reports to the stream. -/
theorem closing_ofExcept_posts (session : String) (call : Call) (ended : Except Fault Unit)
    (hstore : f.store = o.state.store) (hfits : call.Fits name f) :
    (call.closing (stage crowd name) storePlace (Routine.ofExcept ended)).Meets
      (call.streamContract session name) o f := by
  cases call with
  | invoke command =>
      have hnone (result : Except Fault (Option RunResult)) :
          (Call.invoke command).Posts session o.state.store result f.store :=
        Call.posts_of_report?_eq_none rfl (by rw [hstore])
      cases ended <;> exact hnone _
  | execute run ids =>
      refine meets_bind ((finishing_reaches crowd name f run ended).meets (meets_ofExcept ?_))
      have hnone (result : Except Fault (Option RunResult)) :
          (Call.execute run ids).Posts session o.state.store result
            (f.finished name run ended).2.store :=
        Call.posts_of_report?_eq_none rfl (by rw [store_finished, hstore])
      cases (f.finished name run ended).1 <;> exact hnone _
  | dispatch ticket ids => exact dispatch_ofExcept_posts crowd session ended hstore hfits.1 hfits.2

/-- From the start of its program on, a call leaves the stream of a session alone until it ends,
and then adds what it reports. -/
theorem closing_meets_stream (session : String) (call : Call) {program : Routine Fleet Unit}
    (hprogram : program.Obeys (fitRegime name call)) (hfits : call.Fits name f)
    (p : Option Pause) :
    (call.closing (stage crowd name) storePlace program).Meets (call.streamContract session name)
      ⟨p, f⟩ f := by
  have hmeets := hprogram ⟨p, f⟩ f ⟨rfl, hfits⟩
  refine closing_meets_of crowd call (fun _ _ hrely => hrely) ?_ ?_ hmeets
  · exact fun o p k g hheld => ⟨by rw [hheld.1], hheld.2⟩
  · exact fun o ended g hwithin =>
      closing_ofExcept_posts crowd session call ended hwithin.1 hwithin.2

/-- A call that runs a program is refused, or comes to the start of its program with the stream of
a session as it was. -/
theorem routine_reaches_stream (session : String) {call : Call} (hcall : call.program? ≠ none)
    (hplain : (f.contexts name).actor.value.foreign = []) :
    Reaches (call.routine (stage crowd name) storePlace) f (.fail .runInProgress) f ∨
      ∃ ids g, Reaches (call.routine (stage crowd name) storePlace) f
          (call.closing (stage crowd name) storePlace ((stage crowd name).runProgram ids)) g ∧
        g.store.find (Journal.streamKey session) = f.store.find (Journal.streamKey session) ∧
        call.Fits name g := by
  obtain ⟨ids, hids⟩ := Option.ne_none_iff_exists'.mp hcall
  rcases routine_reaches crowd hids f with ⟨-, run, store, henters, hreaches⟩ | ⟨-, hrefused⟩
  · have hbegun := recounts_begun (f := { f with store }) hplain run ids
    refine .inr ⟨ids, _, hreaches, ?_⟩
    cases henters with
    | execute =>
        cases hids
        exact ⟨rfl, hbegun⟩
    | @dispatch ticket ids' _ hfree =>
        cases hids
        have hfind (key : String) := Store.find_put f.store (Lease.key ticket.session)
          (.text ticket.token true) key
        have hkeys := Ne.symm (Lease.key_ne_streamKey ticket.session session)
        refine ⟨(hfind _).trans (if_neg hkeys), hbegun, fun entries hstream => ?_⟩
        cases ((hfind _).trans (if_pos rfl)).symm.trans hstream
  · exact .inl hrefused

end Fleet

end Gridwalk
