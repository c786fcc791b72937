import Gridwalk.Http.Service
import Gridwalk.Proofs.StreamHistory
import Gridwalk.Proofs.Payload
import Mathlib.Data.List.TakeWhile

/-!
# The feed of a session

A request for the last events of a session reads them from its stream and shows them in the order
in which they were recorded.  What runs record has flat payloads: integers, texts and lists of
texts under different keys (`Occurrence.flat_payload`).  Such a payload is read from the stream
as it was published, but for the order of its members (`Event.exists_entryView`), unless a phrase
in it is torn: then the request is answered with status 500.
-/

set_option autoImplicit false

namespace Gridwalk

namespace Json

/-- A value that holds no objects and at most one list, of texts. -/
inductive IsFlat : Json → Prop
  | int (n : Int) : IsFlat (.int n)
  | text (s : String) : IsFlat (.text s)
  | texts (ss : List String) : IsFlat (.arr (ss.map .text))

/-- Members with different keys and flat values. -/
structure FlatMembers (members : List (Phrase × Json)) : Prop where
  keys : (members.map Prod.fst).Nodup
  whole : ∀ member ∈ members, member.1.isTorn = false
  values : ∀ member ∈ members, member.2.IsFlat

section Flat

variable {v : Json} {members others : List (Phrase × Json)}

/-- Flat values are written exactly. -/
theorem IsFlat.exact (h : v.IsFlat) : v.Exact := by
  cases h with
  | int n => exact .int n
  | text s => exact .text s
  | texts ss =>
      refine .arr fun item hitem => ?_
      obtain ⟨s, -, rfl⟩ := List.mem_map.mp hitem
      exact .text s

/-- There is nothing to put in order in a flat value. -/
theorem IsFlat.arranged_eq (h : v.IsFlat) : v.arranged = v := by
  cases h with
  | int n => rfl
  | text s => rfl
  | texts ss =>
      show Json.arr (arrangedItems _) = _
      rw [arrangedItems_eq_map, List.map_map]
      rfl

/-- A flat value is finite throughout. -/
theorem IsFlat.finitePart_eq (h : v.IsFlat) : v.finitePart = v := by
  cases h with
  | int n => rfl
  | text s => rfl
  | texts ss =>
      have hitems : finiteItems (ss.map .text) = ss.map .text := by
        induction ss with
        | nil => rfl
        | cons s rest ih => exact congrArg (List.cons (Json.text s)) ih
      exact congrArg Json.arr hitems

/-- A flat value is nested twice at most. -/
theorem IsFlat.depth_le (h : v.IsFlat) : v.depth ≤ 2 := by
  cases h with
  | int n => exact Nat.le_succ 1
  | text s => exact Nat.le_succ 1
  | texts ss =>
      have hitems : depthOfItems (ss.map .text) ≤ 1 := by
        induction ss with
        | nil => decide
        | cons s rest ih => exact Nat.max_le.mpr ⟨Nat.le_refl 1, ih⟩
      exact Nat.add_le_add_left hitems 1

/-- What is asked of all parts of an object does not depend on the order of its members. -/
theorem any_perm (hperm : members.Perm others) (test : Json → Bool) :
    (Json.obj members).any test = (Json.obj others).any test := by
  show anyMember test members = anyMember test others
  rw [anyMember_eq, anyMember_eq]
  exact hperm.any_eq

/-- Members stay flat in another order. -/
theorem FlatMembers.perm (h : FlatMembers members) (hperm : others.Perm members) :
    FlatMembers others where
  keys := (hperm.map Prod.fst).nodup_iff.mpr h.keys
  whole m hm := h.whole m (hperm.mem_iff.mp hm)
  values m hm := h.values m (hperm.mem_iff.mp hm)

/-- An object with flat members is finite throughout. -/
theorem FlatMembers.finitePart_eq (h : FlatMembers members) :
    (Json.obj members).finitePart = .obj members := by
  have hmembers : finiteMembers members = members := by
    have hvalues := h.values
    clear h
    induction members with
    | nil => rfl
    | cons member rest ih =>
        have hfirst := (hvalues member List.mem_cons_self).finitePart_eq
        have hrest := ih fun m hm => hvalues m (List.mem_cons_of_mem _ hm)
        simp [finiteMembers, hfirst, hrest]
  exact congrArg Json.obj hmembers

/-- An object with flat members is nested three times at most. -/
theorem FlatMembers.depth_le (h : FlatMembers members) : (Json.obj members).depth ≤ 3 := by
  have hmembers : depthOfMembers members ≤ 2 := by
    have hvalues := h.values
    clear h
    induction members with
    | nil => decide
    | cons member rest ih =>
        exact Nat.max_le.mpr ⟨(hvalues member List.mem_cons_self).depth_le,
          ih fun m hm => hvalues m (List.mem_cons_of_mem _ hm)⟩
  exact Nat.add_le_add_left hmembers 1

/-- An object with flat members is read from its text with its members in order. -/
theorem FlatMembers.read_render (h : FlatMembers members) :
    read (Json.obj members).render = .ok (.obj (inOrder members)) := by
  have hexact : (Json.obj members).Exact :=
    .obj h.keys h.whole fun m hm => (h.values m hm).exact
  have harranged : arrangedMembers members = members := by
    rw [arrangedMembers_eq_map]
    refine (List.map_congr_left fun m hm => ?_).trans (List.map_id members)
    rw [(h.values m hm).arranged_eq]
    rfl
  rw [Json.read_render hexact]
  show Except.ok (Json.obj (inOrder (arrangedMembers members))) = _
  rw [harranged]

/-- An object is torn if one of its keys or values is. -/
theorem isTorn_of_mem (h : (Json.obj members).isTorn = false) {member : Phrase × Json}
    (hmember : member ∈ members) : member.1.isTorn = false ∧ member.2.isTorn = false := by
  change anyMember _ members = false at h
  rw [anyMember_eq, List.any_eq_false] at h
  have hnot := h member hmember
  rw [Bool.not_eq_true, Bool.or_eq_false_iff] at hnot
  exact hnot

/-- A phrase that is not torn is flat. -/
theorem isFlat_str {phrase : Phrase} (h : (Json.str phrase).isTorn = false) :
    (Json.str phrase).IsFlat := by
  cases phrase with
  | whole s => exact .text s
  | torn codes => cases h

/-- A list of phrases that are not torn is flat. -/
theorem isFlat_texts {phrases : List Phrase} (h : (texts phrases).isTorn = false) :
    (texts phrases).IsFlat := by
  have htexts : ∃ ss : List String, phrases.map Json.str = ss.map Json.text := by
    change anyItem _ (phrases.map Json.str) = false at h
    induction phrases with
    | nil => exact ⟨[], rfl⟩
    | cons phrase rest ih =>
        obtain ⟨hfirst, hrest⟩ := Bool.or_eq_false_iff.mp h
        obtain ⟨ss, hss⟩ := ih hrest
        cases phrase with
        | torn codes => cases hfirst
        | whole s => exact ⟨s :: ss, congrArg (List.cons (Json.text s)) hss⟩
  obtain ⟨ss, hss⟩ := htexts
  unfold texts
  rw [hss]
  exact .texts ss

end Flat

end Json

/-- What happens in a run of its own accord: its start, what is on the way, and its end. -/
inductive Occurrence.IsOwn : Occurrence → Prop
  | started (ids : List Phrase) : IsOwn (.runStarted ids)
  | inner {occurrence : Occurrence} (h : occurrence.IsInner) : IsOwn occurrence
  | ended (outcome : Outcome) (steps : Nat) : IsOwn (Stage.closing outcome steps)

/-- The events of a complete result are such as happen in a run. -/
theorem RunResult.IsComplete.isOwn {result : RunResult} {ids : List Phrase}
    (h : result.IsComplete ids) {event : Event} (hevent : event ∈ result.events) :
    event.occurrence.IsOwn := by
  obtain ⟨_, time, ⟨start, inner, rfl, hinner⟩, hevents⟩ := h
  rw [hevents, List.cons_append, List.mem_cons, List.mem_append, List.mem_singleton] at hevent
  rcases hevent with rfl | hevent | rfl
  · exact .started ids
  · exact .inner (hinner event hevent).2
  · exact .ended _ _

/-- What runs record has a flat payload, unless a phrase in it is torn. -/
theorem Occurrence.flat_payload {occurrence : Occurrence} (h : occurrence.IsOwn)
    (htorn : (Json.obj occurrence.payload).isTorn = false) :
    Json.FlatMembers occurrence.payload := by
  have hwhole {member : Phrase × Json} (hmember : member ∈ occurrence.payload) :=
    Json.isTorn_of_mem htorn hmember
  suffices hpayload : (occurrence.payload.map Prod.fst).Nodup ∧
      ∀ member ∈ occurrence.payload, member.2.IsFlat from
    ⟨hpayload.1, fun member hmember => (hwhole hmember).1, hpayload.2⟩
  cases h with
  | started ids =>
      have hids := (hwhole (List.mem_singleton_self _)).2
      exact ⟨List.nodup_singleton _, List.forall_mem_singleton.mpr (Json.isFlat_texts hids)⟩
  | ended outcome steps =>
      cases outcome with
      | completed => exact ⟨List.nodup_singleton _, List.forall_mem_singleton.mpr (.int _)⟩
      | aborted cause =>
          refine ⟨by simp [Stage.closing, payload], ?_⟩
          exact List.forall_mem_cons.mpr ⟨.int _, List.forall_mem_singleton.mpr (.text _)⟩
  | inner h =>
      cases h with
      | stepStarted index id =>
          have hid := (hwhole (List.mem_cons_of_mem _ (List.mem_singleton_self _))).2
          refine ⟨by simp [payload], ?_⟩
          exact List.forall_mem_cons.mpr
            ⟨.int _, List.forall_mem_singleton.mpr (Json.isFlat_str hid)⟩
      | stepSkipped index id =>
          have hid := (hwhole (List.mem_cons_of_mem _ (List.mem_singleton_self _))).2
          refine ⟨by simp [payload], ?_⟩
          exact List.forall_mem_cons.mpr
            ⟨.int _, List.forall_mem_singleton.mpr (Json.isFlat_str hid)⟩
      | childSkipped id parent =>
          have hid := (hwhole List.mem_cons_self).2
          refine ⟨by simp [payload], ?_⟩
          exact List.forall_mem_cons.mpr
            ⟨Json.isFlat_str hid, List.forall_mem_singleton.mpr (.text _)⟩
      | boundsHit hactor x y =>
          obtain ⟨hx, hy, -⟩ := Actor.shown_of_foreign_eq_nil hactor
          refine ⟨by simp [payload], ?_⟩
          simp only [payload, hx, hy]
          exact List.forall_mem_cons.mpr ⟨.int _, List.forall_mem_cons.mpr ⟨.int _,
            List.forall_mem_cons.mpr ⟨.int _, List.forall_mem_singleton.mpr (.int _)⟩⟩⟩

/-- In what is shown of an event, only the payload can hold what no text is. -/
theorem Json.any_shown (test : Json → Bool) (htext : ∀ s, test (.text s) = false)
    {members : List (Phrase × Json)} (h : (Json.obj members).any test = false)
    (type run time : String) :
    (Json.obj [("type", .text type), ("run_id", .text run), ("payload", .obj members),
      ("ts", .text time)]).any test = false := by
  change anyMember test members = false at h
  simp [any, anyMember, htext, h]

/-- An event as it is shown: its members are those of its payload, in whatever order. -/
def Event.IsShownAs (event : Event) (shown : Json) : Prop :=
  ∃ members : List (Phrase × Json), members.Perm event.occurrence.payload ∧
    shown = .obj [("type", .text event.occurrence.type), ("run_id", .text event.run.encode),
      ("payload", .obj members), ("ts", .text event.time.encode)]

/-- An event that was published is shown again, and can be sent. -/
theorem Event.exists_entryView {event : Event} {fields : Fields} (hown : event.occurrence.IsOwn)
    (htorn : (Json.obj event.occurrence.payload).isTorn = false)
    (hfields : event.fields = .ok fields) :
    ∃ shown, Http.entryView fields = .ok shown ∧ event.IsShownAs shown ∧
      shown.isTorn = false ∧ shown.isVast = false := by
  have hflat := event.occurrence.flat_payload hown htorn
  have hperm := Json.perm_inOrder event.occurrence.payload
  have hordered := hflat.perm hperm
  obtain ⟨⟨-, hvast⟩, rfl⟩ := Event.fieldsWithin_eq_ok_iff.mp hfields
  have hread := hflat.read_render
  have hdepth : ¬Http.deepestPayload < (Json.obj (Json.inOrder event.occurrence.payload)).depth :=
    Nat.not_lt.mpr (Nat.le_trans hordered.depth_le (by decide))
  have hfew : (Json.obj (Json.inOrder event.occurrence.payload)).isVast = false :=
    (Json.any_perm hperm _).trans hvast
  have hwhole : (Json.obj (Json.inOrder event.occurrence.payload)).isTorn = false :=
    (Json.any_perm hperm _).trans htorn
  have hempty : (Json.obj event.occurrence.payload).render.isEmpty = false := by
    rw [Json.render, Json.encode_obj, Bool.eq_false_iff, ne_eq, String.isEmpty_iff]
    intro hnone
    have hlist := congrArg String.toList hnone
    rw [String.toList_ofList] at hlist
    cases hlist
  let p := (Json.obj event.occurrence.payload).render
  let entry : Fields := [("type", event.occurrence.type), ("run_id", event.run.encode),
    ("payload", p), ("ts", event.time.encode)]
  have hlookup : (entry.lookup "payload").getD "" = p := rfl
  have hshown : (entry.foldl (fun members field =>
      Json.insert members field.1 (.text field.2)) []) =
    ([("type", .text event.occurrence.type), ("run_id", .text event.run.encode),
      ("payload", .text p), ("ts", .text event.time.encode)] : List (Phrase × Json)) := rfl
  refine ⟨_, ?_, ⟨Json.inOrder event.occurrence.payload, hperm, rfl⟩, ?_, ?_⟩
  · show Http.entryView entry = _
    unfold Http.entryView
    rw [hlookup, hshown]
    simp only [p, hempty, hread, hdepth, hfew, hordered.finitePart_eq]
    rfl
  · exact Json.any_shown _ (fun _ => rfl) hwhole _ _ _
  · exact Json.any_shown _ (fun _ => rfl) hfew _ _ _

/-- Events that were published are shown again one by one. -/
theorem Event.exists_entryViews {events : List Event} {lines : List Fields}
    (hlines : List.Forall₂ (fun event fields => event.fields = .ok fields) events lines)
    (hown : ∀ event ∈ events, event.occurrence.IsOwn)
    (htorn : ∀ event ∈ events, (Json.obj event.occurrence.payload).isTorn = false) :
    ∃ shown, lines.mapM Http.entryView = .ok shown ∧ List.Forall₂ Event.IsShownAs events shown ∧
      ∀ value ∈ shown, value.isTorn = false ∧ value.isVast = false := by
  induction hlines with
  | nil => exact ⟨[], rfl, .nil, List.forall_mem_nil _⟩
  | @cons event fields rest others hfields _ ih =>
      obtain ⟨value, hentry, hvalue, hsent⟩ := Event.exists_entryView
        (hown event List.mem_cons_self) (htorn event List.mem_cons_self) hfields
      obtain ⟨shown, hentries, hshown, hall⟩ := ih
        (fun e he => hown e (List.mem_cons_of_mem _ he))
        fun e he => htorn e (List.mem_cons_of_mem _ he)
      refine ⟨value :: shown, ?_, .cons hvalue hshown, List.forall_mem_cons.mpr ⟨hsent, hall⟩⟩
      exact (mapM_eq_ok_iff _ _ _).mpr (.cons hentry ((mapM_eq_ok_iff _ _ _).mp hentries))

namespace Http

open Routine

/-- The answer to a request for events, if nothing in them stands in its way. -/
theorem ok_feed (key : String) {shown : List Json}
    (h : ∀ value ∈ shown, value.isTorn = false ∧ value.isVast = false) :
    Response.ok (.obj [("stream", .text key), ("events", .arr shown)]) =
      ⟨200, .json (.obj [("stream", .text key), ("events", .arr shown)])⟩ := by
  have hany (test : Json → Bool) (htext : ∀ s, test (.text s) = false)
      (hshown : ∀ value ∈ shown, value.any test = false) :
      (Json.obj [("stream", .text key), ("events", .arr shown)]).any test = false := by
    have hitems : Json.anyItem test shown = false := by
      induction shown with
      | nil => rfl
      | cons value rest ih =>
          refine Bool.or_eq_false_iff.mpr ⟨hshown value List.mem_cons_self, ?_⟩
          exact ih (fun v hv => h v (List.mem_cons_of_mem _ hv))
            fun v hv => hshown v (List.mem_cons_of_mem _ hv)
    simp [Json.any, Json.anyMember, htext, hitems]
  have hwhole : (Json.obj [("stream", .text key), ("events", .arr shown)]).isTorn = false :=
    hany _ (fun _ => rfl) fun value hvalue => (h value hvalue).1
  have hfew : (Json.obj [("stream", .text key), ("events", .arr shown)]).isVast = false :=
    hany _ (fun _ => rfl) fun value hvalue => (h value hvalue).2
  unfold Response.ok
  rw [if_neg (Bool.eq_false_iff.mp hwhole), if_neg (Bool.eq_false_iff.mp hfew)]

/-- The last entries of a stream are shown, the oldest of them first. -/
theorem showEvents_eq {site : Site} {session : String} {lines : List Fields}
    (hstream : site.store.stream (Journal.streamKey session) = .ok lines) (count : Nat)
    {shown : List Json} (hshown : (lines.drop (lines.length - count)).mapM entryView = .ok shown) :
    showEvents Place.whole session count site =
      (.ok (.obj [("stream", .text (Journal.streamKey session)), ("events", .arr shown)]),
        site) := by
  have hnewest : site.store.newest (Journal.streamKey session) (count : Int).toNat =
      .ok (lines.reverse.take count) := by
    unfold Store.stream at hstream
    unfold Store.newest
    cases h : site.store.newestFirst (Journal.streamKey session) with
    | error fault =>
        rw [h] at hstream
        cases hstream
    | ok entries =>
        rw [h] at hstream
        cases hstream
        simp [Except.map]
  have hlast : (lines.reverse.take count).reverse = lines.drop (lines.length - count) := by
    rw [List.take_reverse, List.reverse_reverse]
  show Act.bind (Act.read (Place.whole.inside Site.storePlace)) (fun store =>
    Act.bind (Act.ofExcept (store.newest (Journal.streamKey session) (count : Int).toNat))
      fun newest => Act.bind (Act.ofExcept (newest.reverse.mapM entryView)) fun events =>
        Act.pure (Json.obj [("stream", .text (Journal.streamKey session)),
          ("events", .arr events)])) site = _
  have hread : Act.read (Place.whole.inside Site.storePlace) site = (.ok site.store, site) := rfl
  simp only [Act.bind, hread, Act.ofExcept, hnewest, hlast, hshown]
  rfl

/-- The request for the last events of the session. -/
def eventsRequest (count : Nat) : Request where
  method := "GET"
  path := "/runs/events"
  query := [("count", String.ofList (Text.decimalDigits count))]

/-- The digits of a number are a plain numeral, if there are not too many of them. -/
theorem plain_decimalDigits {n : Nat} (hn : n ≠ 0)
    (hfew : (Text.decimalDigits n).length ≤ Text.Numeral.mostDigits) :
    Text.Lenient.plain (Text.decimalDigits n) = .ok (n : Int) := by
  obtain ⟨c, cs, hcs, hzero⟩ := Text.exists_decimalDigits_cons hn
  have hdigits : ∀ d ∈ Text.decimalDigits n, d.isDigit = true :=
    fun d hd => Text.isDigit_of_mem_decimalDigits hd
  have hall : (Text.decimalDigits n).takeWhile Char.isDigit = Text.decimalDigits n :=
    List.takeWhile_eq_self_iff.mpr hdigits
  have hnatural : Text.Lenient.natural (Text.decimalDigits n) = .ok n := by
    have hhead : ((Text.decimalDigits n).head? == some '0') = false := by
      rw [hcs]
      simpa using hzero
    have hempty : (Text.decimalDigits n).isEmpty = false := by
      rw [hcs]
      rfl
    unfold Text.Lenient.natural
    simp only [hall, hhead, hempty, Text.Numeral.ofDigits_decimalDigits]
    simp [Nat.not_lt.mpr hfew]
  have hminus : c ≠ '-' := by
    rintro rfl
    cases hdigits '-' (by rw [hcs]; exact List.mem_cons_self)
  rw [hcs] at hnatural ⊢
  unfold Text.Lenient.plain
  split
  · next heq => exact absurd (List.cons.inj heq).1 hminus
  · rw [hnatural]
    rfl

/-- The number of events that is asked for is read. -/
theorem eventCount_eventsRequest {count : Nat} (hfirst : 1 ≤ count) (hlast : count ≤ 500) :
    eventCount (eventsRequest count).query = .ok (count : Int) := by
  have hfew : (Text.decimalDigits count).length ≤ Text.Numeral.mostDigits := by
    have hall : ∀ n ≤ 500, (Text.decimalDigits n).length ≤ Text.Numeral.mostDigits := by
      decide +kernel
    exact hall count hlast
  have hplain := plain_decimalDigits (Nat.one_le_iff_ne_zero.mp hfirst) hfew
  have hread : Text.Lenient.integer (String.ofList (Text.decimalDigits count)) =
      .ok (count : Int) :=
    Text.Lenient.integer_of_plain (by rw [String.toList_ofList]; exact hplain)
  show located [.name "query", .name "count"] integer
    (.text (String.ofList (Text.decimalDigits count))) = _
  simp only [located, integer, hread]
  rfl

/-- A request for the last events of an open session is answered from its stream. -/
theorem serve_events {site : Site} {session : Session}
    (hopen : site.sessions.current = some session) {lines : List Fields}
    (hstream : site.store.stream (Journal.streamKey session.id) = .ok lines)
    {count : Nat} (hfirst : 1 ≤ count) (hlast : count ≤ 500) {shown : List Json}
    (hshown : (lines.drop (lines.length - count)).mapM entryView = .ok shown) (fresh : Fresh)
    (sleep : Pause → Site → Answer × Site) :
    (serve Place.whole fresh (eventsRequest count)).play sleep site =
      (.ok (Response.ok (.obj [("stream", .text (Journal.streamKey session.id)),
        ("events", .arr shown)])), site) := by
  have hcount := eventCount_eventsRequest hfirst hlast
  have hevents := showEvents_eq hstream count hshown
  have hroute : Target.find "GET" (decodePath "/runs/events") = .route .events := by
    decide +kernel
  let feed : Json := .obj [("stream", .text (Journal.streamKey session.id)),
    ("events", .arr shown)]
  have htold : Reaches (told (showEvents Place.whole session.id (count : Int))
      (fun _ => Response.failure) id) site (.done (Response.ok feed)) site := by
    have hattempt : (showEvents Place.whole session.id (count : Int)).attempt site =
        (.ok (.ok feed), site) := by
      unfold Act.attempt
      rw [hevents]
    exact reaches_act_bind hattempt
  have hanswer : Reaches (answer Place.whole fresh session.id (eventsRequest count) none .events)
      site (.done (Response.ok feed)) site := by
    have hrange : ((count : Int) < 1 || largestCount < (count : Int)) = false := by
      have hlargest : ¬(500 : Int) < (count : Int) := by omega
      exact Bool.or_eq_false_iff.mpr ⟨decide_eq_false (by omega), decide_eq_false hlargest⟩
    unfold answer withChecked
    simp only [hcount, hrange]
    exact htold
  have hroutine : Reaches (answerRoute Place.whole fresh (eventsRequest count) .events) site
      (.done (Response.ok feed)) site := by
    have hread : Act.read (Place.whole : Place Site Site) site = (.ok site, site) := rfl
    refine (reaches_act_bind hread).trans ?_
    simp only [hopen]
    exact hanswer
  have hserve : serve Place.whole fresh (eventsRequest count) =
      answerRoute Place.whole fresh (eventsRequest count) .events >>= fun response =>
        .done (response.outgoing "GET") := by
    unfold serve
    simp only [eventsRequest, hroute]
    rfl
  rw [hserve]
  exact (hroutine.bind _).play_eq

end Http

namespace Scene

/-- The stream of a session is the history of its finished runs.  After every history in which only
runs are started and nobody else writes to the stream, which was empty at first: the stream
consists of the events of the results of the session's dispatched runs, result by result in the
order in which these ended; each result has the events of one run, from its start to its one end;
and every operation adds at most the result of one task that ended with it.  A request for the
last events of the session shows as many of them as were asked for, the oldest first and with
their payloads, if no phrase in them is torn. -/
theorem feed_after (crowd : Crowd) (setups : String → Setup) (store : Store)
    (history : List Operation) (session : String)
    (hempty : store.stream (Journal.streamKey session) = .ok [])
    (hlaunch : ∀ task role, .launch task role ∈ history → role.call.program? ≠ none)
    (hothers : ∀ op ∈ history, op.key? ≠ some (Journal.streamKey session)) :
    let scene := (Scene.fresh setups store).after crowd history
    let events := (scene.returned session).flatMap RunResult.events
    (∃ lines, events.mapM Event.fields = .ok lines ∧
        scene.fleet.store.stream (Journal.streamKey session) = .ok lines) ∧
      (∀ result ∈ scene.returned session, ∃ ids, result.IsComplete ids) ∧
      (∀ op, Grows session scene (scene.step crowd op)) ∧
      ∀ (site : Site) (opened : Session) (count : Nat) (fresh : Http.Fresh)
        (sleep : Pause → Site → Answer × Site), site.store = scene.fleet.store →
        site.sessions.current = some opened → opened.id = session → 1 ≤ count → count ≤ 500 →
        (∀ event ∈ events.drop (events.length - count),
          (Json.obj event.occurrence.payload).isTorn = false) →
        ∃ shown, List.Forall₂ Event.IsShownAs (events.drop (events.length - count)) shown ∧
          (Http.serve Place.whole fresh (Http.eventsRequest count)).play sleep site =
            (.ok ⟨200, .json (.obj [("stream", .text (Journal.streamKey session)),
              ("events", .arr shown)])⟩, site) := by
  intro scene events
  have hscene : scene.Chronicled session :=
    chronicled_after crowd setups hempty history hlaunch hothers
  have hcast : scene.IsCast := (sound_after crowd setups store history).1
  obtain ⟨lines, hlines, hstream⟩ := hscene.stream
  refine ⟨⟨lines, hlines, hstream⟩, hscene.complete,
    fun op => .takes hcast session (step_takes crowd scene op), ?_⟩
  rintro site opened count fresh sleep hstore hopen rfl hfirst hlast htorn
  -- There is one entry for each event, so the last of the ones are the last of the others.
  have hfields := (mapM_eq_ok_iff _ _ _).mp hlines
  have hlength : events.length = lines.length := hfields.length_eq
  have hlatest := List.forall₂_drop (events.length - count) hfields
  have hown : ∀ event ∈ events.drop (events.length - count), event.occurrence.IsOwn := by
    intro event hevent
    obtain ⟨result, hresult, hmem⟩ := List.mem_flatMap.mp (List.mem_of_mem_drop hevent)
    obtain ⟨ids, hcomplete⟩ := hscene.complete result hresult
    exact hcomplete.isOwn hmem
  obtain ⟨shown, hentries, hshown, hsent⟩ := Event.exists_entryViews hlatest hown htorn
  refine ⟨shown, hshown, ?_⟩
  rw [← hstore] at hstream
  rw [hlength] at hentries
  rw [Http.serve_events hopen hstream hfirst hlast hentries fresh sleep, Http.ok_feed _ hsent]

/-- A run that was held while another context asked in vain for the lease is shown in the feed. -/
theorem feed_after_turned :
    let history : List Operation := [
      .launch "t" ⟨"a", .dispatch ⟨"s", "x", .ofNat 1⟩ ["turnRight"]⟩,
      .launch "u" ⟨"b", .dispatch ⟨"s", "y", .ofNat 2⟩ []⟩,
      .answer "t" (.ok ())]
    let scene := (Scene.fresh (fun _ => {}) {}).after .quiet history
    let events := (scene.returned "s").flatMap RunResult.events
    let site : Site := { sessions := { current := some ⟨1, "s", {}⟩ }, store := scene.fleet.store }
    events.length = 3 ∧ ∃ shown, List.Forall₂ Event.IsShownAs (events.drop 1) shown ∧
      (Http.serve Place.whole ⟨.ofNat 3, "z"⟩ (Http.eventsRequest 2)).play
          (fun _ site => (.ok (), site)) site =
        (.ok ⟨200, .json (.obj [("stream", .text (Journal.streamKey "s")),
          ("events", .arr shown)])⟩, site) := by
  intro history scene events site
  have hlaunch : ∀ task role, .launch task role ∈ history → role.call.program? ≠ none := by
    intro task role hmem
    simp only [history, List.mem_cons, Operation.launch.injEq, List.not_mem_nil, or_false,
      reduceCtorEq] at hmem
    rcases hmem with ⟨-, rfl⟩ | ⟨-, rfl⟩ <;> exact Option.some_ne_none _
  have hothers : ∀ op ∈ history, op.key? ≠ some (Journal.streamKey "s") := by
    simp [history, Operation.key?]
  have hlength : events.length = 3 := by decide +kernel
  have htorn : ∀ event ∈ events.drop (events.length - 2),
      (Json.obj event.occurrence.payload).isTorn = false := by decide +kernel
  have hfeed := feed_after .quiet (fun _ => {}) {} history "s" rfl hlaunch hothers
  have hshown := hfeed.2.2.2 site ⟨1, "s", {}⟩ 2 ⟨.ofNat 3, "z"⟩ (fun _ site => (.ok (), site))
    rfl rfl rfl (by decide) (by decide) htorn
  refine ⟨hlength, ?_⟩
  have hdrop : events.length - 2 = 1 := by rw [hlength]
  rw [← hdrop]
  exact hshown

/-- A run that skipped a torn phrase was published whole, but its events are not shown. -/
theorem feed_after_torn :
    let history : List Operation := [
      .launch "t" ⟨"a", .dispatch ⟨"s", "x", .ofNat 1⟩ [.torn [0xD800]]⟩]
    let scene := (Scene.fresh (fun _ => {}) {}).after .quiet history
    let site : Site := { sessions := { current := some ⟨1, "s", {}⟩ }, store := scene.fleet.store }
    ((scene.returned "s").flatMap RunResult.events).length = 3 ∧
      (site.store.stream (Journal.streamKey "s")).toOption.map List.length = some 3 ∧
      ((Http.serve Place.whole ⟨.ofNat 3, "z"⟩ (Http.eventsRequest 3)).play
          (fun _ site => (.ok (), site)) site).1.toOption.map Http.Response.status = some 500 := by
  decide +kernel

end Scene

end Gridwalk
