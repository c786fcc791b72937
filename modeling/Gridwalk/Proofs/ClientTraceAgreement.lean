import Gridwalk.Proofs.ClientHistories

/-!
# Where clients stand in a hall

What the trace of a hall says about a client: what was published for it, what it received, and
whether something went wrong.  Every move makes one of six kinds of changes or two of them
(`Hall.Effect`), and `Hall.Placed` says for one client how its place at the hub and the trace agree,
after any of them.
-/

set_option autoImplicit false

namespace Gridwalk

/-! ## Traces -/

namespace Incident

/-- The change that an incident passes on to the hub. -/
def published? : Incident → Option Notice
  | .published notice => some notice
  | _ => none

/-- The client whom an incident is about. -/
def client? : Incident → Option String
  | .published _ => none
  | .asked client => some client
  | .registered client => some client
  | .sent client _ _ => some client
  | .greeted client _ _ => some client
  | .left client => some client

/-- The change that an incident brings to a client from the hub. -/
def received? (client : String) : Incident → Option Notice
  | .sent other notice true => if other = client then some notice else none
  | _ => none

/-- What an incident tells a client. -/
def told? (client : String) : Incident → Option Notice
  | .sent other notice true => if other = client then some notice else none
  | .greeted other notice true => if other = client then some notice else none
  | _ => none

end Incident

/-- Everything that was published, in order. -/
def published (trace : List Incident) : List Notice :=
  trace.reverse.filterMap Incident.published?

/-- What a client received from the hub, in order. -/
def received (client : String) (trace : List Incident) : List Notice :=
  trace.reverse.filterMap (Incident.received? client)

/-- What a client was told, in order: what it received from the hub and what it was greeted with. -/
def told (client : String) (trace : List Incident) : List Notice :=
  trace.reverse.filterMap (Incident.told? client)

/-- What was published after some incident and before a client asked to leave, in order. -/
def publishedSince (start : Incident) (client : String) : List Incident → List Notice
  | [] => []
  | .published notice :: past =>
      if start ∈ past ∧ .left client ∉ past then publishedSince start client past ++ [notice]
      else publishedSince start client past
  | _ :: past => publishedSince start client past

/-- What was published after a client asked to join and before it asked to leave. -/
abbrev requested (client : String) : List Incident → List Notice :=
  publishedSince (.asked client) client

/-- What was published after a client became a member and before it asked to leave. -/
abbrev owed (client : String) : List Incident → List Notice :=
  publishedSince (.registered client) client

/-- A send of the hub to a client failed. -/
def Failed (client : String) (trace : List Incident) : Prop :=
  ∃ notice, .sent client notice false ∈ trace

/-- Something that was sent to a client did not reach it. -/
def Troubled (client : String) (trace : List Incident) : Prop :=
  Failed client trace ∨ ∃ notice, .greeted client notice false ∈ trace

/-- A client was told about a facet when it came. -/
def Greeted (client : String) (facet : Facet) (trace : List Incident) : Prop :=
  ∃ notice, notice.facet = facet ∧ .greeted client notice true ∈ trace

/-- Something was published after a client asked to leave. -/
def Missed (client : String) : List Incident → Prop
  | [] => False
  | .published _ :: past => .left client ∈ past ∨ Missed client past
  | _ :: past => Missed client past

/-- Something that happened was about a client. -/
def IsKnown (client : String) (trace : List Incident) : Prop :=
  ∃ incident ∈ trace, incident.client? = some client

/-- The last word about a facet. -/
def latest (facet : Facet) (notices : List Notice) : Option Notice :=
  (notices.filter fun notice => notice.facet = facet).getLast?

section Trace

variable {client : String} {trace : List Incident} {start : Incident}

/-- A trace has its latest incident first, so that what is read off it comes last. -/
theorem filterMap_reverse_cons {α β : Type} (f : α → Option β) (a : α) (l : List α) :
    (a :: l).reverse.filterMap f = l.reverse.filterMap f ++ (f a).toList := by
  rw [List.reverse_cons, List.filterMap_append]
  cases h : f a <;> simp [h]

/-- A later incident adds what the client receives by it. -/
theorem received_cons (incident : Incident) : received client (incident :: trace) =
    received client trace ++ (incident.received? client).toList :=
  filterMap_reverse_cons _ _ _

/-- A later incident adds what the client is told by it. -/
theorem told_cons (incident : Incident) : told client (incident :: trace) =
    told client trace ++ (incident.told? client).toList :=
  filterMap_reverse_cons _ _ _

/-- An incident that brings a client nothing from the hub leaves what it received. -/
theorem received_cons_none {incident : Incident} (h : incident.received? client = none) :
    received client (incident :: trace) = received client trace := by
  rw [received_cons, h, Option.toList_none, List.append_nil]

/-- An incident that tells a client nothing leaves what it was told. -/
theorem told_cons_none {incident : Incident} (h : incident.told? client = none) :
    told client (incident :: trace) = told client trace := by
  rw [told_cons, h, Option.toList_none, List.append_nil]

/-- What went wrong for a client stays so. -/
theorem Troubled.cons (h : Troubled client trace) (incident : Incident) :
    Troubled client (incident :: trace) :=
  h.imp (Exists.imp fun _ => List.mem_cons_of_mem _) (Exists.imp fun _ => List.mem_cons_of_mem _)

/-- The last word about a facet is in the later part, if that part has a word about it. -/
theorem latest_append (facet : Facet) (notices more : List Notice) :
    latest facet (notices ++ more) = (latest facet more).or (latest facet notices) := by
  rw [latest, List.filter_append, List.getLast?_append]
  rfl

/-- One notice is the last word about its own facet only. -/
theorem latest_singleton (facet : Facet) (notice : Notice) :
    latest facet [notice] = if notice.facet = facet then some notice else none := by
  by_cases h : notice.facet = facet <;> simp [latest, h]

/-- Nothing was published since something that has not happened. -/
theorem publishedSince_of_not_mem (h : start ∉ trace) : publishedSince start client trace = [] := by
  induction trace with
  | nil => rfl
  | cons incident past ih =>
      have hpast : start ∉ past := fun hmem => h (List.mem_cons_of_mem _ hmem)
      cases incident <;> simp [publishedSince, ih hpast, hpast]

/-- Only what is published is added to what was published. -/
theorem publishedSince_cons {incident : Incident} (h : incident.published? = none) :
    publishedSince start client (incident :: trace) = publishedSince start client trace := by
  cases incident with
  | published => cases h
  | asked | registered | sent | greeted | left => rfl

/-- Only what is published can be missed. -/
theorem missed_cons {incident : Incident} (h : incident.published? = none) :
    Missed client (incident :: trace) ↔ Missed client trace := by
  cases incident with
  | published => cases h
  | asked | registered | sent | greeted | left => exact Iff.rfl

/-- Only who has asked to leave misses anything. -/
theorem left_mem_of_missed (h : Missed client trace) : .left client ∈ trace := by
  induction trace with
  | nil => cases h
  | cons incident past ih =>
      refine List.mem_cons_of_mem _ ?_
      cases incident with
      | published => exact h.elim id ih
      | asked | registered | sent | greeted | left => exact ih h

end Trace

/-- The observers of a facet of a site. -/
def Site.observersOf (site : Site) : Facet → List String
  | .actor => site.context.actor.observers
  | .activeIndex => site.context.activeIndex.observers

namespace Hall

/-! ## Moves in equations -/

section Equations

variable {hall hall' : Hall} {notice : Notice}

/-- A change was passed on to the hub. -/
structure Publishes (notice : Notice) (hall hall' : Hall) : Prop where
  hub : hall'.site.hub = hall.site.hub.post (.broadcast notice)
  trace : hall'.trace = .published notice :: hall.trace
  shown : ∀ facet, hall'.site.shown facet =
    if notice.facet = facet then notice else hall.site.shown facet
  actorObservers : hall'.site.context.actor.observers = hall.site.context.actor.observers
  indexObservers :
    hall'.site.context.activeIndex.observers = hall.site.context.activeIndex.observers

/-- The hall after a facet of its site was replaced and its observers were told. -/
def shows (hall : Hall) : Notice → Hall
  | .actor actor => (stage.setActor actor hall).2
  | .activeIndex position => (stage.setIndex position hall).2

/-- A facet that only the hub is told of is passed on to the hub when it is replaced. -/
theorem publishes_shows (notice : Notice)
    (h : hall.site.observersOf notice.facet = [Site.forwarder]) :
    Publishes notice hall (hall.shows notice) := by
  obtain ⟨⟨sessions, context, store, hub⟩, trace⟩ := hall
  obtain ⟨catalog, settings, ⟨actor, watching⟩, ⟨position, following⟩, phase, run, log, count,
    clock⟩ := context
  cases notice with
  | actor actor =>
      obtain rfl : watching = [Site.forwarder] := h
      exact ⟨rfl, rfl, fun facet => by cases facet <;> rfl, rfl, rfl⟩
  | activeIndex position =>
      obtain rfl : following = [Site.forwarder] := h
      exact ⟨rfl, rfl, fun facet => by cases facet <;> rfl, rfl, rfl⟩

/-- A change of the actor replaces it by the changed one. -/
theorem updateActor_eq (change : Actor.Change) (hall : Hall) :
    (stage.updateActor change hall).2 =
      hall.shows (.actor (hall.site.context.actor.value.apply change)) := by
  show (Act.bind (stage.setActor (hall.site.context.actor.value.apply change)) _ hall).2 =
    (stage.setActor (hall.site.context.actor.value.apply change) hall).2
  unfold Act.bind
  rcases stage.setActor (hall.site.context.actor.value.apply change) hall with ⟨fault | ⟨⟩, s⟩ <;>
    rfl

/-- A step without a send. -/
theorem hubStep_turn (h : hall.site.hub.due? = none) (reached : Bool) :
    (hall.hubStep reached).site = { hall.site with hub := hall.site.hub.turn } ∧
      (hall.hubStep reached).trace = match hall.site.hub.jobs with
        | .join client :: _ => .registered client :: hall.trace
        | _ => hall.trace := by
  have hstep : Hub.step (place.inside Site.hubPlace) (send reached) hall =
      { hall with site := { hall.site with hub := hall.site.hub.turn } } := by
    unfold Hub.step
    have hdue : ((place.inside Site.hubPlace).get hall).due? = none := h
    rw [hdue]
    rfl
  unfold hubStep
  rw [hstep]
  cases hjobs : hall.site.hub.jobs with
  | nil => exact ⟨rfl, rfl⟩
  | cons job rest => cases job <;> exact ⟨rfl, rfl⟩

/-- A send. -/
theorem hubStep_sent {client : String} (h : hall.site.hub.due? = some (client, notice))
    (reached : Bool) :
    ∃ ok, hall.hubStep reached =
      ⟨{ hall.site with hub := hall.site.hub.sent ok }, .sent client notice ok :: hall.trace⟩ := by
  obtain ⟨ok, hsend⟩ : ∃ ok, send reached client notice hall =
      (ok, ⟨hall.site, .sent client notice ok :: hall.trace⟩) := by
    obtain ⟨ok, hsend⟩ : ∃ ok, Live.send (deliver reached) client notice hall = (ok, hall) := by
      unfold Live.send Live.tell
      cases notice.view.isVast <;> cases reached <;> exact ⟨_, rfl⟩
    unfold send
    rw [hsend]
    exact ⟨ok, rfl⟩
  refine ⟨ok, ?_⟩
  have hstep : Hub.step (place.inside Site.hubPlace) (send reached) hall =
      ⟨{ hall.site with hub := hall.site.hub.sent ok }, .sent client notice ok :: hall.trace⟩ := by
    unfold Hub.step
    have hdue : ((place.inside Site.hubPlace).get hall).due? = some (client, notice) := h
    rw [hdue]
    simp only [hsend]
    rfl
  obtain ⟨waiting, unreached, rest, hjobs, -⟩ := Hub.jobs_of_due h
  unfold hubStep
  rw [hstep, hjobs]

/-- A client that leaves does so unless it has left before. -/
theorem leave_eq (client : String) (hall : Hall) :
    hall.leave client = hall ∨
      hall.leave client = (hall.post (.leave client)).note (.left client) := by
  unfold leave
  split
  · exact .inl rfl
  · exact .inr rfl

/-- A client is greeted, or the greeting does not reach it and it leaves. -/
theorem greet_eq (client : String) (facet : Facet) (reached : Bool) (hall : Hall) :
    hall.greet client facet reached =
        hall.note (.greeted client (hall.site.shown facet) true) ∨
      hall.greet client facet reached =
        (hall.note (.greeted client (hall.site.shown facet) false)).leave client := by
  unfold greet Live.tell
  cases (hall.site.shown facet).view.isVast <;> cases reached
  · exact .inr rfl
  · exact .inl rfl
  · exact .inr rfl
  · exact .inr rfl

end Equations

/-! ## What a move does -/

/-- The ways in which a hall changes. -/
inductive Effect (hall hall' : Hall) : Prop
  | publish {notice : Notice} (h : Publishes notice hall hall')
  | ask {client : String} (hnew : .asked client ∉ hall.trace)
      (heq : hall' = (hall.post (.join client)).note (.asked client))
  | leave {client : String} (hknown : IsKnown client hall.trace)
      (heq : hall' = (hall.post (.leave client)).note (.left client))
  | turn (hsite : hall'.site = { hall.site with hub := hall.site.hub.turn })
      (htrace : hall'.trace = hall.trace ∨ ∃ client rest,
        hall.site.hub.jobs = .join client :: rest ∧
          hall'.trace = .registered client :: hall.trace)
  | send {client : String} {notice : Notice} {ok : Bool}
      (hdue : hall.site.hub.due? = some (client, notice))
      (heq : hall' = ⟨{ hall.site with hub := hall.site.hub.sent ok },
        .sent client notice ok :: hall.trace⟩)
  | greet {client : String} {facet : Facet} {ok : Bool} (hknown : IsKnown client hall.trace)
      (heq : hall' = hall.note (.greeted client (hall.site.shown facet) ok))

/-- Changes of a site are passed on to its hub, and to nobody else. -/
structure Wired (hall : Hall) : Prop where
  actor : hall.site.context.actor.observers = [Site.forwarder]
  activeIndex : hall.site.context.activeIndex.observers = [Site.forwarder]

/-- However a hall changes, its changes are passed on to the hub and to nobody else. -/
theorem Wired.effect {hall hall' : Hall} (h : Wired hall) (heffect : Effect hall hall') :
    Wired hall' := by
  cases heffect with
  | publish hpublish =>
      exact ⟨hpublish.actorObservers.trans h.actor, hpublish.indexObservers.trans h.activeIndex⟩
  | turn hsite => exact ⟨by rw [hsite]; exact h.actor, by rw [hsite]; exact h.activeIndex⟩
  | ask _ heq => exact heq ▸ ⟨h.actor, h.activeIndex⟩
  | leave _ heq => exact heq ▸ ⟨h.actor, h.activeIndex⟩
  | send _ heq => exact heq ▸ ⟨h.actor, h.activeIndex⟩
  | greet _ heq => exact heq ▸ ⟨h.actor, h.activeIndex⟩

/-- A move makes no more than two changes. -/
theorem effects_step {hall : Hall} (h : Wired hall) (move : Move) :
    hall.step move = hall ∨ Effect hall (hall.step move) ∨
      ∃ between, Effect hall between ∧ Effect between (hall.step move) := by
  cases move with
  | setActor actor => exact .inr (.inl (.publish (publishes_shows (.actor actor) h.actor)))
  | updateActor change =>
      have hpublish := publishes_shows (.actor (hall.site.context.actor.value.apply change)) h.actor
      rw [← updateActor_eq] at hpublish
      exact .inr (.inl (.publish hpublish))
  | setIndex position =>
      exact .inr (.inl (.publish (publishes_shows (.activeIndex position) h.activeIndex)))
  | connect client =>
      simp only [step]
      split
      · exact .inl rfl
      · next hnew => exact .inr (.inl (.ask hnew rfl))
  | hub reached =>
      refine .inr (.inl ?_)
      show Effect hall (hall.hubStep reached)
      cases hdue : hall.site.hub.due? with
      | none =>
          obtain ⟨hsite, htrace⟩ := hubStep_turn hdue reached
          refine .turn hsite ?_
          rw [htrace]
          split
          · next client rest heq => exact .inr ⟨client, rest, heq, rfl⟩
          · exact .inl rfl
      | some entry =>
          obtain ⟨client, notice⟩ := entry
          obtain ⟨ok, heq⟩ := hubStep_sent hdue reached
          exact .send hdue heq
  | greet client facet reached =>
      simp only [step]
      split
      · next hregistered =>
        have hknown : IsKnown client hall.trace := ⟨_, hregistered, rfl⟩
        rcases greet_eq client facet reached hall with heq | heq
        · exact .inr (.inl (.greet hknown heq))
        · have hgreet : Effect hall (hall.note (.greeted client (hall.site.shown facet) false)) :=
            .greet hknown rfl
          rcases leave_eq client (hall.note (.greeted client (hall.site.shown facet) false)) with
            hsame | hleave
          · exact .inr (.inl ((heq.trans hsame) ▸ hgreet))
          · exact .inr (.inr ⟨_, hgreet, .leave ⟨_, List.mem_cons_self, rfl⟩ (heq.trans hleave)⟩)
      · exact .inl rfl
  | disconnect client =>
      simp only [step]
      split
      · next hasked =>
        exact (leave_eq client hall).imp_right fun heq => .inl (.leave ⟨_, hasked, rfl⟩ heq)
      · exact .inl rfl

/-! ## Where a client stands -/

/-- Where a client stands at the hub, as far as the trace tells. -/
structure Placed (client : String) (hall : Hall) : Prop where
  orderly : hall.site.hub.Orderly client
  unasked : .asked client ∉ hall.trace → hall.site.hub.IsOut client ∧
    (∀ job ∈ hall.site.hub.jobs, job.isLeave client = false) ∧ ¬IsKnown client hall.trace
  left : .left client ∈ hall.trace → hall.site.hub.IsOut client ∨
    hall.site.hub.jobs.any (Hub.Job.isLeave client) = true
  missed : Missed client hall.trace → hall.site.hub.IsOut client ∨
    Hub.barred client hall.site.hub.jobs = true

section Placed

variable {client other : String} {hall hall' : Hall}

/-- Whoever something has happened to had asked to join. -/
theorem Placed.asked_of_mem (h : Placed client hall) {incident : Incident}
    (hmem : incident ∈ hall.trace) (hclient : incident.client? = some client) :
    .asked client ∈ hall.trace := by
  by_contra hnot
  exact (h.unasked hnot).2.2 ⟨incident, hmem, hclient⟩

/-- What is not the latest incident has happened before it. -/
theorem mem_past {incident latest : Incident} {past : List Incident}
    (h : incident ∈ latest :: past) (hne : incident ≠ latest) : incident ∈ past :=
  List.mem_of_ne_of_mem hne h

/-- What is about someone else makes nobody known. -/
theorem not_isKnown_cons {incident : Incident} {trace : List Incident}
    (h : ¬IsKnown client trace) (hne : incident.client? ≠ some client) :
    ¬IsKnown client (incident :: trace) := by
  rintro ⟨about, hmem, hclient⟩
  rcases List.mem_cons.mp hmem with rfl | hmem
  · exact hne hclient
  · exact h ⟨about, hmem, hclient⟩

/-- Of two clients, if one is known and the other is not, they differ. -/
theorem ne_of_isKnown {trace : List Incident} (hother : IsKnown other trace)
    (hclient : ¬IsKnown client trace) : other ≠ client := by
  rintro rfl
  exact hclient hother

/-- A client is still placed when a change is passed on to the hub. -/
theorem Placed.publish (h : Placed client hall) {notice : Notice}
    (hpublish : Publishes notice hall hall') : Placed client hall' := by
  obtain ⟨hhub, htrace, -, -, -⟩ := hpublish
  have hmem (incident : Incident) (hne : incident ≠ .published notice) :
      incident ∈ hall'.trace ↔ incident ∈ hall.trace := by simp [htrace, hne]
  refine ⟨?_, fun hnot => ?_, fun hgone => ?_, fun hmiss => ?_⟩
  · rw [hhub]
    exact h.orderly.post rfl (by simp [Hub.Job.isJoin])
  · obtain ⟨hout, hstay, hunknown⟩ := h.unasked (by rwa [hmem (.asked client) (by simp)] at hnot)
    rw [htrace, hhub]
    exact ⟨hout.post rfl, List.forall_mem_append.mpr ⟨hstay, List.forall_mem_singleton.mpr rfl⟩,
      not_isKnown_cons hunknown (by simp [Incident.client?])⟩
  · rw [hmem (.left client) (by simp)] at hgone
    rw [hhub]
    refine (h.left hgone).imp (fun hout => hout.post rfl) fun hany => ?_
    simp [Hub.post, List.any_append, hany]
  · rw [htrace, Missed] at hmiss
    rw [hhub]
    rcases hmiss with hgone | hmiss
    · exact (h.left hgone).imp (fun hout => hout.post rfl)
        fun hany => Hub.barred_append_broadcast hany notice
    · exact (h.missed hmiss).imp (fun hout => hout.post rfl)
        fun hbarred => Hub.barred_append_of_barred hbarred _

/-- A client is still placed when one asks to join, be it the client itself. -/
theorem Placed.ask (h : Placed client hall) (hnew : .asked other ∉ hall.trace) :
    Placed client ((hall.post (.join other)).note (.asked other)) := by
  -- A client that left has asked before, so another one asks now.
  have hjoin (hgone : IsKnown client hall.trace) :
      (Hub.Job.join other : Hub.Job Notice).isJoin client = false := by
    obtain ⟨incident, hmem, hclient⟩ := hgone
    have hne : other ≠ client := by
      rintro rfl
      exact hnew (h.asked_of_mem hmem hclient)
    simpa [Hub.Job.isJoin] using hne
  refine ⟨?_, fun hnot => ?_, fun hgone => ?_, fun hmiss => ?_⟩
  · refine h.orderly.post rfl fun hjoin => ?_
    obtain rfl : other = client := by simpa [Hub.Job.isJoin] using hjoin
    exact ⟨(h.unasked hnew).1, (h.unasked hnew).2.1⟩
  · have hother : other ≠ client := by
      rintro rfl
      exact hnot List.mem_cons_self
    obtain ⟨hout, hstay, hunknown⟩ := h.unasked fun hin => hnot (List.mem_cons_of_mem _ hin)
    exact ⟨hout.post (by simpa [Hub.Job.isJoin] using hother),
      List.forall_mem_append.mpr ⟨hstay, List.forall_mem_singleton.mpr rfl⟩,
      not_isKnown_cons hunknown (by simpa [Incident.client?] using hother)⟩
  · have hold : .left client ∈ hall.trace := mem_past hgone (by simp)
    refine (h.left hold).imp (fun hout => hout.post (hjoin ⟨_, hold, rfl⟩)) fun hany => ?_
    show (hall.site.hub.jobs ++ [_]).any _ = true
    rw [List.any_append, hany, Bool.true_or]
  · have hold : .left client ∈ hall.trace := left_mem_of_missed ((missed_cons rfl).mp hmiss)
    exact (h.missed hmiss).imp (fun hout => hout.post (hjoin ⟨_, hold, rfl⟩))
      fun hbarred => Hub.barred_append_of_barred hbarred _

/-- A client is still placed when one asks to leave. -/
theorem Placed.leave (h : Placed client hall) (hknown : IsKnown other hall.trace) :
    Placed client ((hall.post (.leave other)).note (.left other)) := by
  refine ⟨h.orderly.post rfl ?_, fun hnot => ?_, fun hgone => ?_, fun hmiss => ?_⟩
  · simp [Hub.Job.isJoin]
  · obtain ⟨hout, hstay, hunknown⟩ := h.unasked fun hin => hnot (List.mem_cons_of_mem _ hin)
    have hne : other ≠ client := ne_of_isKnown hknown hunknown
    refine ⟨hout.post rfl, List.forall_mem_append.mpr ⟨hstay, List.forall_mem_singleton.mpr ?_⟩,
      not_isKnown_cons hunknown (by simpa [Incident.client?] using hne)⟩
    simpa [Hub.Job.isLeave] using hne
  · show _ ∨ (hall.site.hub.jobs ++ [_]).any _ = true
    rcases List.mem_cons.mp hgone with heq | hgone
    · cases heq
      exact .inr (by simp [Hub.Job.isLeave])
    · refine (h.left hgone).imp (fun hout => hout.post rfl) fun hany => ?_
      rw [List.any_append, hany, Bool.true_or]
  · exact (h.missed hmiss).imp (fun hout => hout.post rfl)
      fun hbarred => Hub.barred_append_of_barred hbarred _

/-- A client is still placed when the hub takes a step without a send. -/
theorem Placed.turn (h : Placed client hall)
    (hsite : hall'.site = { hall.site with hub := hall.site.hub.turn })
    (htrace : hall'.trace = hall.trace ∨ ∃ other rest,
      hall.site.hub.jobs = .join other :: rest ∧
        hall'.trace = .registered other :: hall.trace) : Placed client hall' := by
  have hhub : hall'.site.hub = hall.site.hub.turn := by rw [hsite]
  have hmem (incident : Incident) (hne : ∀ other, incident ≠ .registered other) :
      incident ∈ hall'.trace ↔ incident ∈ hall.trace := by
    rcases htrace with htrace | ⟨other, rest, -, htrace⟩
    · rw [htrace]
    · simp [htrace, hne other]
  have hmissed : Missed client hall'.trace ↔ Missed client hall.trace := by
    rcases htrace with htrace | ⟨other, rest, -, htrace⟩
    · rw [htrace]
    · rw [htrace]
      exact missed_cons rfl
  refine ⟨hhub ▸ h.orderly.turn, fun hnot => ?_, fun hgone => ?_, fun hmiss => ?_⟩
  · obtain ⟨hout, hstay, hunknown⟩ := h.unasked (by rwa [hmem (.asked client) (by simp)] at hnot)
    rw [hhub]
    refine ⟨hout.turn h.orderly, fun job hjob => ?_, ?_⟩
    · exact (Hub.mem_turn_jobs hjob).elim (hstay job) Hub.Job.isLeave_of_isSending
    · rcases htrace with htrace | ⟨other, rest, hjobs, htrace⟩
      · rwa [htrace]
      · have hjoin := hout.job (.join other) (hjobs ▸ List.mem_cons_self)
        rw [htrace]
        exact not_isKnown_cons hunknown (by simpa [Hub.Job.isJoin, Incident.client?] using hjoin)
  · rw [hhub]
    exact Hub.departing_turn h.orderly Hub.any_leave_next Hub.any_leave_put
      (h.left ((hmem (.left client) (by simp)).mp hgone))
  · rw [hhub]
    exact Hub.departing_turn h.orderly Hub.barred_next Hub.barred_put
      (h.missed (hmissed.mp hmiss))

/-- A client is still placed when the hub sends something, whether it arrives or not. -/
theorem Placed.send (h : Placed client hall) {notice : Notice} {ok : Bool}
    (hdue : hall.site.hub.due? = some (other, notice)) :
    Placed client ⟨{ hall.site with hub := hall.site.hub.sent ok },
      .sent other notice ok :: hall.trace⟩ := by
  obtain ⟨waiting, unreached, rest, hjobs, hsent⟩ := Hub.jobs_of_due hdue
  have hmember : other ∈ hall.site.hub.members :=
    (h.orderly.waiting _ _ _ _ hjobs).2 List.mem_cons_self
  refine ⟨h.orderly.sent hdue ok, fun hnot => ?_, fun hgone => ?_, fun hmiss => ?_⟩
  · obtain ⟨hout, hstay, hunknown⟩ := h.unasked fun hin => hnot (List.mem_cons_of_mem _ hin)
    have hne : other ≠ client := fun heq => hout.member (heq ▸ hmember)
    refine ⟨hout.sent hdue ok, fun job hjob => ?_,
      not_isKnown_cons hunknown (by simpa [Incident.client?] using hne)⟩
    exact (Hub.mem_sent_jobs hdue hjob).elim (hstay job) Hub.Job.isLeave_of_isSending
  · exact Hub.departing_sent Hub.any_leave_next Hub.any_leave_put hdue ok
      (h.left (mem_past hgone (by simp)))
  · exact Hub.departing_sent Hub.barred_next Hub.barred_put hdue ok (h.missed hmiss)

/-- A client is still placed when one is greeted. -/
theorem Placed.greet (h : Placed client hall) {notice : Notice} {ok : Bool}
    (hknown : IsKnown other hall.trace) :
    Placed client (hall.note (.greeted other notice ok)) where
  orderly := h.orderly
  unasked hnot := by
    obtain ⟨hout, hstay, hunknown⟩ := h.unasked fun hin => hnot (List.mem_cons_of_mem _ hin)
    have hne : other ≠ client := ne_of_isKnown hknown hunknown
    exact ⟨hout, hstay, not_isKnown_cons hunknown (by simpa [Incident.client?] using hne)⟩
  left hgone := h.left (mem_past hgone (by simp))
  missed hmiss := h.missed hmiss

/-- So a client is placed whatever happens. -/
theorem Placed.effect (h : Placed client hall) (heffect : Effect hall hall') :
    Placed client hall' := by
  cases heffect with
  | publish hpublish => exact h.publish hpublish
  | ask hnew heq => exact heq ▸ h.ask hnew
  | leave hknown heq => exact heq ▸ h.leave hknown
  | turn hsite htrace => exact h.turn hsite htrace
  | send hdue heq => exact heq ▸ h.send hdue
  | greet hknown heq => exact heq ▸ h.greet hknown

end Placed

end Hall

end Gridwalk
