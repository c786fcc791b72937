import Gridwalk.Proofs.ClientTraceAgreement

/-!
# What clients are told

Whatever the order in which things happen in a hall, a client is sent what was published between
its request to join and its request to leave, in this order and each payload once, up to the first
payload that does not reach it; and when no payload waits any more, a member that was greeted and
that every send has reached was told the actor and the active position last as they are.

`Hall.Served` and `Hall.Informed` say what is true of one client at any time.  What the client has
received and what the hub has ahead for it are together what was requested; and of everything that
it was told and that it has ahead, the last words about the actor and the active position are true.
-/

set_option autoImplicit false

namespace Gridwalk.Hall

/-! ## What a client gets -/

/-- What a client gets from the hub. -/
structure Served (client : String) (hall : Hall) : Prop where
  owed : owed client hall.trace <:+ requested client hall.trace
  /-- Until a send fails, the client has received what it asked for, but for what is ahead. -/
  whole : ¬Failed client hall.trace →
    (hall.site.hub.keeps client = true ↔
      .asked client ∈ hall.trace ∧ .left client ∉ hall.trace) ∧
    received client hall.trace ++ hall.site.hub.ahead client = requested client hall.trace
  /-- Once a send has failed, the client gets nothing more. -/
  broken : Failed client hall.trace →
    hall.site.hub.keeps client = false ∧ hall.site.hub.ahead client = [] ∧
    ∃ notice rest, .sent client notice false ∈ hall.trace ∧
      requested client hall.trace = received client hall.trace ++ notice :: rest
  /-- The last words that are ahead are true. -/
  fresh : ¬Failed client hall.trace → ¬Missed client hall.trace → ∀ facet notice,
    latest facet (hall.site.hub.ahead client) = some notice → notice = hall.site.shown facet

/-- The last words of all that a client was told and that is ahead are true. -/
def Informed (client : String) (hall : Hall) : Prop :=
  ¬Troubled client hall.trace → ¬Missed client hall.trace → ∀ facet,
    Greeted client facet hall.trace →
      latest facet (told client hall.trace ++ hall.site.hub.ahead client) =
        some (hall.site.shown facet)

section Served

variable {client other : String} {hall hall' : Hall} {incident : Incident} {notice : Notice}

/-- An incident in which the hub passes nothing on, neither to it nor to a client. -/
structure Idle (client : String) (incident : Incident) : Prop where
  published : incident.published? = none
  sent : ∀ notice reached, incident ≠ .sent client notice reached

/-- What passes a client by is no failure of a send to it. -/
theorem Idle.failed (h : Idle client incident) (trace : List Incident) :
    Failed client (incident :: trace) ↔ Failed client trace :=
  exists_congr fun notice => ⟨fun hin => mem_past hin (h.sent notice false).symm,
    List.mem_cons_of_mem _⟩

/-- What passes a client by brings it nothing. -/
theorem Idle.received (h : Idle client incident) (trace : List Incident) :
    received client (incident :: trace) = received client trace := by
  have hnone : incident.received? client = none := by
    cases incident with
    | sent other notice reached =>
        have hne : other ≠ client := by
          rintro rfl
          exact h.sent notice reached rfl
        cases reached <;> simp [Incident.received?, hne]
    | published | asked | registered | greeted | left => rfl
  exact received_cons_none hnone

/-- A client gets what it gets, as long as nothing happens but who comes and goes. -/
theorem Served.idle (h : Served client hall) (hidle : Idle client incident)
    (htrace : hall'.trace = incident :: hall.trace)
    (hahead : hall'.site.hub.ahead client = hall.site.hub.ahead client)
    (hshown : hall'.site.shown = hall.site.shown)
    (hkeeps : hall'.site.hub.keeps client = true → hall.site.hub.keeps client = true ∨
      ¬Failed client hall.trace)
    (hstands : (hall.site.hub.keeps client = true ↔
        .asked client ∈ hall.trace ∧ .left client ∉ hall.trace) →
      (hall'.site.hub.keeps client = true ↔
        .asked client ∈ hall'.trace ∧ .left client ∉ hall'.trace)) : Served client hall' := by
  have hsince (start : Incident) : publishedSince start client hall'.trace =
      publishedSince start client hall.trace := by
    rw [htrace, publishedSince_cons hidle.published]
  have hrequested : requested client hall'.trace = requested client hall.trace := hsince _
  have howed : Gridwalk.owed client hall'.trace = Gridwalk.owed client hall.trace := hsince _
  have hreceived : received client hall'.trace = received client hall.trace := by
    rw [htrace, hidle.received]
  have hfailed : Failed client hall'.trace ↔ Failed client hall.trace := by
    rw [htrace, hidle.failed]
  have hmissed : Missed client hall'.trace ↔ Missed client hall.trace := by
    rw [htrace, missed_cons hidle.published]
  refine ⟨?_, fun hfine => ?_, fun hfail => ?_, ?_⟩
  · rw [hrequested, howed]
    exact h.owed
  · obtain ⟨hstood, hgot⟩ := h.whole (mt hfailed.mpr hfine)
    rw [hreceived, hahead, hrequested]
    exact ⟨hstands hstood, hgot⟩
  · obtain ⟨hout, hnone, first, rest, hmem, heq⟩ := h.broken (hfailed.mp hfail)
    rw [hahead, hreceived, hrequested]
    refine ⟨Bool.eq_false_iff.mpr fun hin => ?_, hnone, first, rest,
      htrace ▸ List.mem_cons_of_mem _ hmem, heq⟩
    rcases hkeeps hin with hin | hfine
    · simp [hout] at hin
    · exact hfine (hfailed.mp hfail)
  · rw [hfailed, hmissed, hahead, hshown]
    exact h.fresh

/-- What is nothing to a client at the hub, and makes it neither come nor go. -/
theorem Served.aside (h : Served client hall) (hidle : Idle client incident)
    (htrace : hall'.trace = incident :: hall.trace)
    (hahead : hall'.site.hub.ahead client = hall.site.hub.ahead client)
    (hshown : hall'.site.shown = hall.site.shown)
    (hkeeps : hall'.site.hub.keeps client = hall.site.hub.keeps client)
    (hasked : incident ≠ .asked client) (hleft : incident ≠ .left client) :
    Served client hall' := by
  refine h.idle hidle htrace hahead hshown (fun hin => .inl (hkeeps ▸ hin)) fun hstood => ?_
  rw [hkeeps, hstood, htrace, List.mem_cons, List.mem_cons, or_iff_right hasked.symm,
    or_iff_right hleft.symm]

/-! ### Publishing -/

section Publish

variable (hpublish : Publishes notice hall hall')

include hpublish

/-- What is published adds nothing to the trace but itself. -/
theorem Publishes.mem_iff (hne : incident.published? = none) :
    incident ∈ hall'.trace ↔ incident ∈ hall.trace := by
  rw [hpublish.trace, List.mem_cons, or_iff_right]
  rintro rfl
  cases hne

/-- No send fails when something is published. -/
theorem Publishes.failed : Failed client hall'.trace ↔ Failed client hall.trace :=
  exists_congr fun _ => hpublish.mem_iff rfl

/-- A client misses what is published when it has asked to leave. -/
theorem Publishes.missed :
    Missed client hall'.trace ↔ .left client ∈ hall.trace ∨ Missed client hall.trace := by
  rw [hpublish.trace, Missed]

/-- What is published makes nobody a member, nor the reverse. -/
theorem Publishes.keeps : hall'.site.hub.keeps client = hall.site.hub.keeps client := by
  rw [hpublish.hub, Hub.keeps_post]
  rfl

/-- What is published is ahead of those who will be members when its turn comes. -/
theorem Publishes.ahead : hall'.site.hub.ahead client = hall.site.hub.ahead client ++
    if hall.site.hub.keeps client then [notice] else [] := by
  rw [hpublish.hub, Hub.ahead_post]
  rfl

/-- Of what comes last, a change gives the last word about its own facet. -/
theorem Publishes.latest {notices : List Notice} {facet : Facet}
    (h : Gridwalk.latest facet notices = some (hall.site.shown facet)) :
    Gridwalk.latest facet (notices ++ [notice]) = some (hall'.site.shown facet) := by
  rw [latest_append, latest_singleton, hpublish.shown, h]
  by_cases hfacet : notice.facet = facet
  · rw [if_pos hfacet, if_pos hfacet]
    rfl
  · rw [if_neg hfacet, if_neg hfacet]
    rfl

/-- A change that is passed on comes to every client that has asked to join and not to leave. -/
theorem Served.publish (h : Served client hall) (hplaced : Placed client hall) :
    Served client hall' := by
  have htrace := hpublish.trace
  have hasked : .asked client ∈ hall'.trace ↔ .asked client ∈ hall.trace :=
    hpublish.mem_iff rfl
  have hleft : .left client ∈ hall'.trace ↔ .left client ∈ hall.trace := hpublish.mem_iff rfl
  have hreceived : received client hall'.trace = received client hall.trace := by
    rw [htrace, received_cons_none rfl]
  have hsince (start : Incident) : publishedSince start client hall'.trace =
      if start ∈ hall.trace ∧ .left client ∉ hall.trace then
        publishedSince start client hall.trace ++ [notice]
      else publishedSince start client hall.trace := by rw [htrace, publishedSince]
  have hrequested : requested client hall'.trace =
      if .asked client ∈ hall.trace ∧ .left client ∉ hall.trace then
        requested client hall.trace ++ [notice] else requested client hall.trace := hsince _
  have howed : Gridwalk.owed client hall'.trace =
      if .registered client ∈ hall.trace ∧ .left client ∉ hall.trace then
        Gridwalk.owed client hall.trace ++ [notice] else Gridwalk.owed client hall.trace :=
    hsince _
  refine ⟨?_, fun hfine => ?_, fun hfail => ?_, fun hfine hnone facet last hlast => ?_⟩
  · rw [howed, hrequested]
    by_cases hin : .registered client ∈ hall.trace ∧ .left client ∉ hall.trace
    · obtain ⟨early, hearly⟩ := h.owed
      rw [if_pos hin, if_pos ⟨hplaced.asked_of_mem hin.1 rfl, hin.2⟩, ← hearly]
      exact ⟨early, (List.append_assoc _ _ _).symm⟩
    · rw [if_neg hin]
      by_cases hout : .left client ∈ hall.trace
      · rw [if_neg fun hin => hin.2 hout]
        exact h.owed
      · have hempty : Gridwalk.owed client hall.trace = [] :=
          publishedSince_of_not_mem fun hmem => hin ⟨hmem, hout⟩
        rw [hempty]
        exact List.nil_suffix
  · obtain ⟨hstands, hgot⟩ := h.whole (mt hpublish.failed.mpr hfine)
    rw [hpublish.keeps, hasked, hleft, hreceived, hpublish.ahead, hrequested,
      ← List.append_assoc, hgot]
    refine ⟨hstands, ?_⟩
    by_cases hin : hall.site.hub.keeps client = true
    · rw [if_pos hin, if_pos (hstands.mp hin)]
    · rw [if_neg hin, if_neg (mt hstands.mpr hin), List.append_nil]
  · obtain ⟨hout, hnone, first, rest, hmem, heq⟩ := h.broken (hpublish.failed.mp hfail)
    have hmem' : .sent client first false ∈ hall'.trace := (hpublish.mem_iff rfl).mpr hmem
    rw [hpublish.keeps, hpublish.ahead, hreceived, hrequested, hout, hnone, heq]
    refine ⟨rfl, rfl, ?_⟩
    split
    · exact ⟨first, rest ++ [notice], hmem', by simp⟩
    · exact ⟨first, rest, hmem', rfl⟩
  · rw [hpublish.missed, not_or] at hnone
    have hfine := mt hpublish.failed.mpr hfine
    obtain ⟨hstands, hgot⟩ := h.whole hfine
    rw [hpublish.ahead] at hlast
    by_cases hin : hall.site.hub.keeps client = true
    · rw [if_pos hin, latest_append, latest_singleton] at hlast
      rw [hpublish.shown]
      by_cases hfacet : notice.facet = facet
      · rw [if_pos hfacet] at hlast ⊢
        exact (Option.some.inj hlast).symm
      · rw [if_neg hfacet] at hlast ⊢
        exact h.fresh hfine hnone.2 facet last hlast
    · have hempty : requested client hall.trace = [] :=
        publishedSince_of_not_mem fun hmem => hin (hstands.mpr ⟨hmem, hnone.1⟩)
      rw [hempty, List.append_eq_nil_iff] at hgot
      rw [if_neg hin, hgot.2] at hlast
      cases hlast

end Publish

/-! ### Coming and going -/

/-- A client is still served when one asks to join. -/
theorem Served.ask (h : Served client hall) (hplaced : Placed client hall)
    (hnew : .asked other ∉ hall.trace) :
    Served client ((hall.post (.join other)).note (.asked other)) := by
  have hpost := Hub.ahead_post client hall.site.hub (.join other)
  have hkeeps := Hub.keeps_post client hall.site.hub (.join other)
  have hidle : Idle client (.asked other) := ⟨rfl, by simp⟩
  by_cases heq : other = client
  · subst heq
    obtain ⟨-, -, hunknown⟩ := hplaced.unasked hnew
    have hnotleft : .left other ∉ hall.trace := fun hleft => hunknown ⟨_, hleft, rfl⟩
    have hsteady : ¬Failed other hall.trace := by
      rintro ⟨notice, hmem⟩
      exact hunknown ⟨_, hmem, rfl⟩
    refine h.idle hidle rfl (hpost.trans (List.append_nil _)) rfl (fun _ => .inr hsteady)
      fun _ => ?_
    refine iff_of_true (hkeeps.trans ?_) ⟨List.mem_cons_self, fun hleft => ?_⟩
    · simp [Hub.Job.keeps]
    · exact hnotleft (mem_past hleft (by simp))
  · refine h.aside hidle rfl (hpost.trans (List.append_nil _)) rfl
      (hkeeps.trans ?_) (by simpa using heq) (by simp)
    simp [Hub.Job.keeps, heq]

/-- A client is still served when one asks to leave. -/
theorem Served.leave (h : Served client hall) :
    Served client ((hall.post (.leave other)).note (.left other)) := by
  have hpost := Hub.ahead_post client hall.site.hub (.leave other)
  have hkeeps := Hub.keeps_post client hall.site.hub (.leave other)
  have hidle : Idle client (.left other) := ⟨rfl, by simp⟩
  by_cases heq : other = client
  · subst heq
    have hout : (hall.site.hub.post (.leave other)).keeps other = false := by
      simp [hkeeps, Hub.Job.keeps]
    refine h.idle hidle rfl (hpost.trans (List.append_nil _)) rfl
      (fun hin => ?_) fun _ => ?_
    · exact absurd (hout.symm.trans hin) Bool.false_ne_true
    · exact iff_of_false (fun hin => Bool.false_ne_true (hout.symm.trans hin))
        fun hin => hin.2 List.mem_cons_self
  · refine h.aside hidle rfl (hpost.trans (List.append_nil _)) rfl
      (hkeeps.trans ?_) (by simp) (by simpa using heq)
    simp [Hub.Job.keeps, heq]

/-! ### Steps of the hub -/

/-- A client is still served when the hub takes a step without a send. -/
theorem Served.turn (h : Served client hall)
    (hsite : hall'.site = { hall.site with hub := hall.site.hub.turn })
    (htrace : hall'.trace = hall.trace ∨ ∃ other rest,
      hall.site.hub.jobs = .join other :: rest ∧
        hall'.trace = .registered other :: hall.trace) : Served client hall' := by
  obtain ⟨hahead, hkeeps⟩ := Hub.prospect_turn client hall.site.hub
  have hahead' : hall'.site.hub.ahead client = hall.site.hub.ahead client := by rwa [hsite]
  have hkeeps' : hall'.site.hub.keeps client = hall.site.hub.keeps client := by rwa [hsite]
  have hshown : hall'.site.shown = hall.site.shown := by
    rw [hsite]
    rfl
  rcases htrace with htrace | ⟨other, rest, -, htrace⟩
  · refine ⟨htrace ▸ h.owed, ?_, ?_, ?_⟩
    · rw [htrace, hkeeps', hahead']
      exact h.whole
    · rw [htrace, hkeeps', hahead']
      exact h.broken
    · rw [htrace, hahead', hshown]
      exact h.fresh
  · have hidle : Idle client (.registered other) := ⟨rfl, by simp⟩
    exact h.aside hidle htrace hahead' hshown hkeeps' (by simp) (by simp)

/-- A client is still served when something is sent to another one. -/
theorem Served.send_other (h : Served client hall) {reached : Bool}
    (hdue : hall.site.hub.due? = some (other, notice)) (hne : other ≠ client) :
    Served client ⟨{ hall.site with hub := hall.site.hub.sent reached },
      .sent other notice reached :: hall.trace⟩ := by
  obtain ⟨hahead, hkeeps⟩ := Hub.prospect_sent_other hdue hne reached
  have hidle : Idle client (.sent other notice reached) := ⟨rfl, fun _ _ => by simp [hne]⟩
  exact h.aside hidle rfl hahead rfl hkeeps (by simp) (by simp)

/-- Something is ahead only of a client that every send has reached. -/
theorem Served.not_failed_of_ahead (h : Served client hall) {rest : List Notice}
    (hahead : hall.site.hub.ahead client = notice :: rest) : ¬Failed client hall.trace := by
  intro hfail
  exact List.cons_ne_nil _ _ (hahead.symm.trans (h.broken hfail).2.1)

/-- A send that reaches the client brings it the first of what is ahead. -/
theorem Served.send_reached (h : Served client hall) (hplaced : Placed client hall)
    (hdue : hall.site.hub.due? = some (client, notice)) :
    Served client ⟨{ hall.site with hub := hall.site.hub.sent true },
      .sent client notice true :: hall.trace⟩ := by
  obtain ⟨hahead, hkeeps⟩ := Hub.prospect_sent hdue hplaced.orderly
  have hfine := h.not_failed_of_ahead hahead
  have hfailed : ¬Failed client (.sent client notice true :: hall.trace) := by
    rintro ⟨first, hmem⟩
    exact hfine ⟨first, mem_past hmem (by simp)⟩
  obtain ⟨hstands, hgot⟩ := h.whole hfine
  refine ⟨h.owed, fun _ => ⟨?_, ?_⟩, fun hfail => absurd hfail hfailed,
    fun _ hnone facet last hlast => ?_⟩
  · refine (Bool.eq_iff_iff.mp hkeeps).trans (hstands.trans ?_)
    simp
  · rw [received_cons, List.append_assoc]
    have hword : (Incident.sent client notice true).received? client = some notice := by
      simp [Incident.received?]
    rw [hword]
    rwa [hahead] at hgot
  · refine h.fresh hfine (mt (missed_cons rfl).mpr hnone) facet last ?_
    rw [hahead, ← List.singleton_append, latest_append]
    exact Option.or_eq_some_iff.mpr (.inl hlast)

/-- A send that does not reach the client was the last. -/
theorem Served.send_unreached (h : Served client hall) (hplaced : Placed client hall)
    (hdue : hall.site.hub.due? = some (client, notice)) :
    Served client ⟨{ hall.site with hub := hall.site.hub.sent false },
      .sent client notice false :: hall.trace⟩ := by
  obtain ⟨hahead, -⟩ := Hub.prospect_sent hdue hplaced.orderly
  obtain ⟨hnone, hout⟩ := Hub.prospect_sent_unreached hdue hplaced.orderly
  have hfine := h.not_failed_of_ahead hahead
  have hfailed : Failed client (.sent client notice false :: hall.trace) :=
    ⟨notice, List.mem_cons_self⟩
  obtain ⟨-, hgot⟩ := h.whole hfine
  refine ⟨h.owed, fun hfine => absurd hfailed hfine,
    fun _ => ⟨hout, hnone, notice, (hall.site.hub.sent true).ahead client, List.mem_cons_self, ?_⟩,
    fun hfine => absurd hfailed hfine⟩
  have hsame : received client (.sent client notice false :: hall.trace) =
      received client hall.trace := received_cons_none rfl
  rw [hsame, ← hahead, hgot]
  rfl

/-- A client is still served when the hub sends something, to it or to another one. -/
theorem Served.send (h : Served client hall) (hplaced : Placed client hall) {reached : Bool}
    (hdue : hall.site.hub.due? = some (other, notice)) :
    Served client ⟨{ hall.site with hub := hall.site.hub.sent reached },
      .sent other notice reached :: hall.trace⟩ := by
  by_cases heq : other = client
  · subst heq
    cases reached with
    | true => exact h.send_reached hplaced hdue
    | false => exact h.send_unreached hplaced hdue
  · exact h.send_other hdue heq

/-- So a client is served whatever happens. -/
theorem Served.effect (h : Served client hall) (hplaced : Placed client hall)
    (heffect : Effect hall hall') : Served client hall' := by
  cases heffect with
  | publish hpublish => exact h.publish hpublish hplaced
  | ask hnew heq => exact heq ▸ h.ask hplaced hnew
  | leave _ heq => exact heq ▸ h.leave
  | turn hsite htrace => exact h.turn hsite htrace
  | send hdue heq => exact heq ▸ h.send hplaced hdue
  | @greet other facet reached _ heq =>
      have hidle : Idle client (.greeted other (hall.site.shown facet) reached) := ⟨rfl, by simp⟩
      exact heq ▸ h.aside hidle rfl rfl rfl rfl (by simp) (by simp)

end Served

/-! ## What a client knows -/

section Informed

variable {client other : String} {hall hall' : Hall} {incident : Incident} {notice : Notice}

/-- A client is still informed when a change is passed on to the hub. -/
theorem Informed.publish (h : Informed client hall) (hserved : Served client hall)
    (hplaced : Placed client hall) (hpublish : Publishes notice hall hall') :
    Informed client hall' := by
  rintro hfine hnone facet ⟨word, hword, hgreeted⟩
  rw [hpublish.mem_iff rfl] at hgreeted
  rw [hpublish.missed, not_or] at hnone
  have htroubled : Troubled client hall'.trace ↔ Troubled client hall.trace :=
    or_congr hpublish.failed (exists_congr fun _ => hpublish.mem_iff rfl)
  have htold : told client hall'.trace = told client hall.trace := by
    rw [hpublish.trace, told_cons_none rfl]
  rw [htroubled] at hfine
  have hasked : .asked client ∈ hall.trace := hplaced.asked_of_mem hgreeted rfl
  have hin : hall.site.hub.keeps client = true :=
    (hserved.whole fun hfail => hfine (.inl hfail)).1.mpr ⟨hasked, hnone.1⟩
  rw [htold, hpublish.ahead, if_pos hin, ← List.append_assoc]
  exact hpublish.latest (h hfine hnone.2 facet ⟨word, hword, hgreeted⟩)

/-- What adds nothing to what a client is told or has ahead. -/
theorem Informed.aside (h : Informed client hall) (incident : Incident)
    (hpublished : incident.published? = none)
    (hgreeted : ∀ notice, incident ≠ .greeted client notice true)
    (htrace : hall'.trace = incident :: hall.trace) (hshown : hall'.site.shown = hall.site.shown)
    (htold : told client (incident :: hall.trace) ++ hall'.site.hub.ahead client =
      told client hall.trace ++ hall.site.hub.ahead client) : Informed client hall' := by
  rintro hfine hnone facet ⟨word, hword, hmem⟩
  rw [htrace] at hfine hnone hmem ⊢
  rw [missed_cons hpublished] at hnone
  rw [htold, hshown]
  exact h (fun htroubled => hfine (htroubled.cons _)) hnone facet
    ⟨word, hword, mem_past hmem (hgreeted word).symm⟩

/-- A client is still informed when the hub takes a step without a send. -/
theorem Informed.turn (h : Informed client hall)
    (hsite : hall'.site = { hall.site with hub := hall.site.hub.turn })
    (htrace : hall'.trace = hall.trace ∨ ∃ other rest,
      hall.site.hub.jobs = .join other :: rest ∧
        hall'.trace = .registered other :: hall.trace) : Informed client hall' := by
  have hahead : hall'.site.hub.ahead client = hall.site.hub.ahead client := by
    rw [hsite]
    exact (Hub.prospect_turn client _).1
  have hshown : hall'.site.shown = hall.site.shown := by
    rw [hsite]
    rfl
  rcases htrace with htrace | ⟨other, rest, -, htrace⟩
  · unfold Informed
    rw [htrace, hahead, hshown]
    exact h
  · exact h.aside (.registered other) rfl (by simp) htrace hshown
      (by rw [told_cons_none rfl, hahead])

/-- A client is still informed when the hub sends something, to it or to another one. -/
theorem Informed.send (h : Informed client hall) (hplaced : Placed client hall) {reached : Bool}
    (hdue : hall.site.hub.due? = some (other, notice)) :
    Informed client ⟨{ hall.site with hub := hall.site.hub.sent reached },
      .sent other notice reached :: hall.trace⟩ := by
  by_cases heq : other = client
  · subst heq
    cases reached with
    | true =>
        obtain ⟨hahead, -⟩ := Hub.prospect_sent hdue hplaced.orderly
        have hword : (Incident.sent other notice true).told? other = some notice := by
          simp [Incident.told?]
        have htold : told other (.sent other notice true :: hall.trace) ++
            (hall.site.hub.sent true).ahead other =
              told other hall.trace ++ hall.site.hub.ahead other := by
          rw [told_cons, hword, List.append_assoc, hahead]
          rfl
        exact h.aside (.sent other notice true) rfl (by simp) rfl rfl htold
    | false => exact fun hfine => absurd (.inl ⟨notice, List.mem_cons_self⟩) hfine
  · obtain ⟨hahead, -⟩ := Hub.prospect_sent_other hdue heq reached
    have hword : (Incident.sent other notice reached).told? client = none := by
      cases reached <;> simp [Incident.told?, heq]
    exact h.aside (.sent other notice reached) rfl (by simp) rfl rfl
      (by rw [told_cons_none hword, ← hahead])

/-- What a site shows of a facet is about that facet. -/
theorem Site.facet_shown (site : Site) (facet : Facet) : (site.shown facet).facet = facet := by
  cases facet <;> rfl

/-- Who is greeted is told what is true, and what is ahead does not belie it. -/
theorem Informed.greet (h : Informed client hall) (hserved : Served client hall) {facet : Facet}
    {reached : Bool} :
    Informed client (hall.note (.greeted other (hall.site.shown facet) reached)) := by
  by_cases heq : other = client
  · subst heq
    cases reached with
    | false => exact fun hfine => absurd (.inr ⟨_, List.mem_cons_self⟩) hfine
    | true =>
        intro hfine hnone facet' hgreeted
        have hfine' : ¬Troubled other hall.trace := fun htroubled => hfine (htroubled.cons _)
        have hnone' : ¬Missed other hall.trace := mt (missed_cons rfl).mpr hnone
        have hfresh := hserved.fresh (fun hfail => hfine' (.inl hfail)) hnone' facet'
        have hword : (Incident.greeted other (hall.site.shown facet) true).told? other =
            some (hall.site.shown facet) := by simp [Incident.told?]
        show latest facet'
          (told other (.greeted other (hall.site.shown facet) true :: hall.trace) ++
            hall.site.hub.ahead other) = some (hall.site.shown facet')
        rw [told_cons, hword, Option.toList_some, latest_append]
        cases hlast : latest facet' (hall.site.hub.ahead other) with
        | some last => rw [hfresh last hlast, Option.some_or]
        | none =>
            rw [Option.none_or, latest_append, latest_singleton, Site.facet_shown]
            by_cases hfacet : facet = facet'
            · rw [if_pos hfacet, hfacet, Option.some_or]
            · rw [if_neg hfacet, Option.none_or]
              obtain ⟨word, hword, hmem⟩ := hgreeted
              have hmem' : .greeted other word true ∈ hall.trace := by
                refine mem_past hmem fun heq => hfacet ?_
                obtain rfl : word = hall.site.shown facet := by simpa using heq
                rw [← hword, Site.facet_shown]
              have htold := h hfine' hnone' facet' ⟨word, hword, hmem'⟩
              rwa [latest_append, hlast, Option.none_or] at htold
  · have hword : (Incident.greeted other (hall.site.shown facet) reached).told? client = none := by
      cases reached <;> simp [Incident.told?, heq]
    exact h.aside (.greeted other (hall.site.shown facet) reached) rfl (by simp [heq]) rfl rfl
      (by rw [told_cons_none hword]; rfl)

/-- So a client is informed whatever happens. -/
theorem Informed.effect (h : Informed client hall) (hserved : Served client hall)
    (hplaced : Placed client hall) (heffect : Effect hall hall') : Informed client hall' := by
  cases heffect with
  | publish hpublish => exact h.publish hserved hplaced hpublish
  | @ask other _ heq =>
      have hahead : (hall.site.hub.post (.join other)).ahead client =
          hall.site.hub.ahead client := (Hub.ahead_post client _ _).trans (List.append_nil _)
      exact heq ▸ h.aside (.asked other) rfl (by simp) rfl rfl
        (congrArg₂ (· ++ ·) (told_cons_none rfl) hahead)
  | @leave other _ heq =>
      have hahead : (hall.site.hub.post (.leave other)).ahead client =
          hall.site.hub.ahead client := (Hub.ahead_post client _ _).trans (List.append_nil _)
      exact heq ▸ h.aside (.left other) rfl (by simp) rfl rfl
        (congrArg₂ (· ++ ·) (told_cons_none rfl) hahead)
  | turn hsite htrace => exact h.turn hsite htrace
  | send hdue heq => exact heq ▸ h.send hplaced hdue
  | greet _ heq => exact heq ▸ h.greet hserved

end Informed

/-! ## Histories -/

/-- What is true of a hall and one client at any time. -/
structure Kept (client : String) (hall : Hall) : Prop where
  wired : Wired hall
  placed : Placed client hall
  served : Served client hall
  informed : Informed client hall

section Kept

variable {client : String} {hall hall' : Hall}

/-- Before anybody asks to join, a hub that only has to broadcast passes nothing on to anyone. -/
theorem kept_of_new (hwired : Wired hall) (client : String) {first second : Notice}
    (htrace : hall.trace = [])
    (hhub : hall.site.hub = ⟨[], [.broadcast first, .broadcast second]⟩) : Kept client hall := by
  obtain ⟨⟨sessions, context, store, hub⟩, trace⟩ := hall
  obtain rfl : trace = [] := htrace
  obtain rfl : hub = _ := hhub
  have hout : Hub.IsOut client (⟨[], [.broadcast first, .broadcast second]⟩ : Hub Notice) :=
    ⟨List.not_mem_nil, by simp [Hub.Job.isJoin]⟩
  have hnone (incident : Incident) : incident ∉ ([] : List Incident) := List.not_mem_nil
  constructor
  case wired => exact hwired
  case placed =>
    refine ⟨⟨List.nodup_nil, ?_, ?_, fun hmember => absurd hmember List.not_mem_nil, ?_⟩,
      fun _ => ⟨hout, ?_, ?_⟩, fun hgone => absurd hgone (hnone _), False.elim⟩
    · simp [Hub.Job.isSending]
    · simp
    · simp [Hub.Job.isJoin]
    · simp [Hub.Job.isLeave]
    · simp [IsKnown]
  case served =>
    refine ⟨List.suffix_refl _, fun _ => ⟨?_, rfl⟩, ?_,
      fun _ _ _ _ hlast => absurd hlast (Option.some_ne_none _).symm⟩
    · exact iff_of_false Bool.false_ne_true fun hin => hnone _ hin.1
    · rintro ⟨_, hmem⟩
      exact absurd hmem (hnone _)
  case informed =>
    rintro _ _ _ ⟨_, _, hmem⟩
    exact absurd hmem (hnone _)

/-- At first everything is kept, for nothing has happened. -/
theorem kept_start (settings : Settings) (client : String) : Kept client (start settings) :=
  kept_of_new ⟨rfl, rfl⟩ client rfl rfl

/-- Whatever happens, everything is kept. -/
theorem Kept.effect (h : Kept client hall) (heffect : Effect hall hall') : Kept client hall' where
  wired := h.wired.effect heffect
  placed := h.placed.effect heffect
  served := h.served.effect h.placed heffect
  informed := h.informed.effect h.served h.placed heffect

/-- Everything is kept by a move, which makes one change or two of them. -/
theorem Kept.step (h : Kept client hall) (move : Move) : Kept client (hall.step move) := by
  rcases effects_step h.wired move with heq | heffect | ⟨between, hfirst, hsecond⟩
  · exact heq.symm ▸ h
  · exact h.effect heffect
  · exact (h.effect hfirst).effect hsecond

/-- Everything is kept by a history. -/
theorem Kept.steps (h : Kept client hall) (moves : List Move) :
    Kept client (moves.foldl Hall.step hall) := by
  induction moves generalizing hall with
  | nil => exact h
  | cons move rest ih => exact ih (h.step move)

end Kept

/-! ## Quiet -/

section Fanout

variable {client : String} {hall : Hall}

end Fanout

end Gridwalk.Hall
