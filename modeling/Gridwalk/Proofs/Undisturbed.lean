import Gridwalk.Proofs.Refusals

/-!
# Runs that are not disturbed

A run in company is compared with the same run without the attempts: whatever else happens at its
pauses happens in both.  During the run the two stages are parallel, since all attempts are refused
and leave the fleet alone (`Watched.parallel_during`).  Before and after that nothing is told and
nothing pauses, so nothing is tried.  `Watched.call_undisturbed` puts this together for runs with
and without a lease.
-/

set_option autoImplicit false

namespace Gridwalk

open Routine

/-- Routines agree if what they reach agrees. -/
theorem Routine.AgreesAt.of_reaches {σ τ α : Type} {m : Pairing σ τ} {r r' : Routine σ α}
    {q q' : Routine τ α} {s s' : σ} {t t' : τ} (hr : Reaches r s r' s') (hq : Reaches q t q' t')
    (h : AgreesAt m r' s' q' t') : AgreesAt m r s q t := by
  unfold AgreesAt
  rw [hr.play_eq, hq.play_eq]
  exact h

namespace Watched

section Runs

variable (company : Company) (levels : Nat) (name : String) (session? : Option String)
  (start : List (Option Fault))

/-- The run with attempts beside the run without: the same fleet, and all attempts since some notes
were refused. -/
def beside : Pairing Watched Fleet where
  left := pester company levels name
  right := company.spare
  related w f := w.fleet = f ∧ RefusesSince start w

/-- The same while the run is in progress. -/
def during : Pairing Watched Fleet :=
  { beside company levels name start with
    related := fun w f => (w.fleet = f ∧ RefusesSince start w) ∧ f.Guarded name session? }

variable {name session? start} {w : Watched}

/-- Attempts that fit are refused, and other visits leave the guards of the run. -/
theorem visited_of_fits (hguarded : w.fleet.Guarded name session?) (hnotes : RefusesSince start w)
    {visit : Visit} (hfits : visit.Fits name session?) :
    (visited company levels name w visit).fleet = visit.spared w.fleet ∧
      RefusesSince start (visited company levels name w visit) ∧
        (visit.spared w.fleet).Guarded name session? := by
  cases visit with
  | other g =>
      obtain ⟨hrunning, hkey⟩ := hfits w.fleet hguarded.running
      refine ⟨rfl, hnotes, hrunning, fun session hsession => ?_⟩
      show (g w.fleet).store.find _ ≠ none
      rw [hkey session hsession]
      exact hguarded.leased session hsession
  | attempt a =>
      cases a with
      | meddle m =>
          obtain ⟨w', hmeddle, hfleet, hnotes⟩ :=
            meddle_of_running company levels hguarded.running hnotes m
          show (meddle (stage company levels name) m w).2.fleet = w.fleet ∧
            RefusesSince start (meddle (stage company levels name) m w).2 ∧ _
          rw [hmeddle]
          exact ⟨hfleet, hnotes, hguarded⟩
      | call context call =>
          -- The phase of its own context refuses it, or the lease that the run was made under.
          have hrefused : Reaches (call.routine (stage company levels context) storePlace) w
              (.fail .runInProgress) w := by
            rcases hfits with ⟨rfl, hcall⟩ | ⟨session, hsession, hcall⟩
            · refine Stage.call_of_running ?_ hcall
              rw [phase_stage]
              exact hguarded.running
            · cases call with
              | dispatch ticket ids =>
                  obtain rfl : ticket.session = session := Option.some.inj hcall
                  have hleased := hguarded.leased _ hsession
                  exact Stage.dispatch_of_held (Store.claim?_of_find_ne_none _ hleased) ids
              | execute run ids => cases hcall
              | invoke command => cases hcall
          have hvisited : visited company levels name w (.attempt (.call context call)) =
              w.noted (some .runInProgress) := by
            simp only [visited, tried, hrefused.settle_eq]
            rfl
          rw [hvisited]
          exact ⟨rfl, hnotes.noted rfl, hguarded⟩

/-- The visits at a pause leave both runs in the same fleet. -/
theorem foldl_visited (hguarded : w.fleet.Guarded name session?) (hnotes : RefusesSince start w)
    {visits : List Visit} (hfits : ∀ visit ∈ visits, visit.Fits name session?) :
    (visits.foldl (visited company levels name) w).fleet = visits.foldl Visit.spared w.fleet ∧
      RefusesSince start (visits.foldl (visited company levels name) w) ∧
        (visits.foldl Visit.spared w.fleet).Guarded name session? := by
  induction visits generalizing w with
  | nil => exact ⟨rfl, hnotes, hguarded⟩
  | cons visit rest ih =>
      obtain ⟨hfleet, hrefused, hstill⟩ := visited_of_fits company levels hguarded hnotes
        (hfits visit List.mem_cons_self)
      rw [← hfleet] at hstill
      obtain ⟨hend, hrest⟩ := ih hstill hrefused fun v hv => hfits v (List.mem_cons_of_mem _ hv)
      rw [List.foldl_cons, List.foldl_cons, ← hfleet]
      exact ⟨hend, hrest⟩

/-- Acts that end alike and lead to a fleet that is still guarded agree during the run. -/
theorem agreesAt_during {α : Type} {act : Act Watched α} {act' : Act Fleet α} {w' : Watched}
    {f' : Fleet} {result : Except Fault α} (hact : act w = (result, w'))
    (hact' : act' w.fleet = (result, f')) (hfleet : w'.fleet = f')
    (hnotes : RefusesSince start w') (hguarded : f'.Guarded name session?) :
    AgreesAt (during company levels name session? start) (ofAct act) w (ofAct act') w.fleet := by
  apply agreesAt_acts
  · rw [hact, hact']
  · rw [hact, hact']
    exact ⟨⟨hfleet, hnotes⟩, hguarded⟩

/-- A modification of a context is one of the fleet that is watched. -/
theorem modify_stage (g : Context → Context) (w : Watched) :
    Act.modify (stage company levels name).context g w =
      (.ok (), { w with fleet := w.fleet.alter name g }) := by
  rw [context_stage]
  rfl

/-- A change of the context that leaves its phase alone is made alike during the run. -/
theorem modify_agrees_during (crowd : Crowd) (g : Context → Context)
    (hphase : ∀ c, (g c).phase = c.phase) :
    Agrees (during company levels name session? start)
      (ofAct (Act.modify (stage company levels name).context g))
      (ofAct (Act.modify (Fleet.stage crowd name).context g)) := by
  rintro w _ ⟨⟨rfl, hnotes⟩, hguarded⟩
  refine agreesAt_during company levels (modify_stage company levels g w) rfl rfl hnotes
    ⟨?_, hguarded.leased⟩
  show ((w.fleet.alter name g).contexts name).phase = .running
  rw [Fleet.contexts_alter_self, hphase]
  exact hguarded.running

variable (hfits : ∀ p f, ∀ visit ∈ company.visits p f, visit.Fits name session?)

include hfits

/-- At a pause of the run both runs go on alike. -/
theorem pester_during (p : Pause) (hguarded : w.fleet.Guarded name session?)
    (hnotes : RefusesSince start w) :
    (pester company levels name p w).1 = (company.spare p w.fleet).1 ∧
      (during company levels name session? start).related (pester company levels name p w).2
        (company.spare p w.fleet).2 := by
  let paused : Watched := { w with fleet := w.fleet.noted p }
  have hpaused : paused.fleet.Guarded name session? := ⟨hguarded.running, hguarded.leased⟩
  obtain ⟨hfleet, hrefused, hstill⟩ := foldl_visited company levels (w := paused) hpaused hnotes
    (hfits p w.fleet)
  exact ⟨congrArg (company.answer p) hfleet, ⟨hfleet, hrefused⟩, hstill⟩

/-- During a run the stage in company is parallel to the stage without attempts. -/
theorem parallel_during :
    (stage company levels name).Parallel (during company levels name session? start)
      (Fleet.stage company.crowd name) where
  actor := by
    rintro w _ ⟨⟨rfl, -⟩, -⟩
    rw [context_stage]
    rfl
  settings := by
    rintro w _ ⟨⟨rfl, -⟩, -⟩
    rw [context_stage]
    rfl
  catalog := by
    rintro w _ ⟨⟨rfl, -⟩, -⟩
    rw [context_stage]
    rfl
  updateActor change := by
    rintro w _ ⟨⟨rfl, hnotes⟩, hguarded⟩
    obtain ⟨w', hact, hfleet, hnotes⟩ :=
      updateActor_of_running company levels hguarded.running hnotes change
    refine agreesAt_during company levels hact (Fleet.updateActor_eq _ name _ change) hfleet
      hnotes ⟨?_, hguarded.leased⟩
    rw [Fleet.change, Fleet.contexts_showActor_self]
    exact hguarded.running
  setIndex position := by
    rintro w _ ⟨⟨rfl, hnotes⟩, hguarded⟩
    obtain ⟨w', hact, hfleet, hnotes⟩ :=
      setIndex_of_running company levels hguarded.running hnotes position
    refine agreesAt_during company levels hact (Fleet.setIndex_eq _ name _ position) hfleet
      hnotes ⟨?_, hguarded.leased⟩
    rw [Fleet.contexts_showIndex_self]
    exact hguarded.running
  record occurrence := by
    refine modify_agrees_during company levels company.crowd _ fun c => ?_
    unfold Context.record
    split <;> rfl
  countAction := modify_agrees_during company levels company.crowd _ fun _ => rfl
  pause hold := by
    rintro w _ ⟨⟨rfl, hnotes⟩, hguarded⟩
    have howner : (stage company levels name).owner = name := by cases levels <;> rfl
    refine agreesAt_act_left (Stage.read_eq _ w)
      (agreesAt_act_right (Fleet.read_eq company.crowd name w.fleet) ?_)
    rw [context_stage, howner]
    obtain ⟨hanswer, hrelated⟩ := pester_during company levels hfits
      (w.fleet.pauseOf name hold) hguarded hnotes
    exact agreesAt_rest hanswer hrelated
  custom other := by
    have hdone : (stage company levels name).custom other = .done () := by cases levels <;> rfl
    rw [hdone]
    exact agrees_done _ ()

omit hfits

/-- After the program of a run its signs are cleared as in the fleet. -/
theorem clear_of_running (hrunning : (w.fleet.contexts name).phase = .running)
    (hnotes : RefusesSince start w) :
    ∃ w', (stage company levels name).clear w = (.ok (), w') ∧ w'.fleet = w.fleet.cleared name ∧
      RefusesSince start w' := by
  obtain ⟨w₁, hindex, hfleet₁, hnotes₁⟩ :=
    setIndex_of_running company levels hrunning hnotes (.index idleIndex)
  have hstill : (w₁.fleet.contexts name).phase = .running := by
    rw [hfleet₁, Fleet.contexts_showIndex_self]
    exact hrunning
  obtain ⟨w₂, hactor, hfleet₂, hnotes₂⟩ := updateActor_of_running company levels hstill hnotes₁
    { isMoving := some false, isHittingBounds := some false }
  have hfinish : (stage company levels name).finish w₂ =
      (.ok (), { w₂ with fleet := w₂.fleet.alter name fun c => { c with phase := .idle } }) := by
    unfold Stage.finish Stage.phasePlace
    rw [context_stage]
    rfl
  refine ⟨{ w₂ with fleet := w₂.fleet.alter name fun c => { c with phase := .idle } }, ?_, ?_,
    hnotes₂⟩
  · show Act.bind ((stage company levels name).setIndex _) _ w = _
    simp only [Act.bind, hindex]
    show Act.bind ((stage company levels name).updateActor _) _ w₁ = _
    simp only [Act.bind, hactor]
    exact hfinish
  · show w₂.fleet.alter name (fun c => { c with phase := .idle }) = _
    rw [hfleet₂, hfleet₁]
    rfl

/-- The end of a run is recorded as in the fleet. -/
theorem conclude_stage (run : RunId) (outcome : Outcome) (w : Watched) :
    (stage company levels name).conclude run outcome w =
      onFleet ((Fleet.stage company.crowd name).conclude run outcome) w := by
  unfold Stage.conclude Stage.read Stage.record
  rw [context_stage]
  rfl

/-- Acts on the fleet agree, whatever they do. -/
theorem agrees_onFleet {α : Type} {act : Act Watched α} {act' : Act Fleet α}
    (h : ∀ w, act w = onFleet act' w) :
    Agrees (beside company levels name start) (ofAct act) (ofAct act') := by
  rintro w _ ⟨rfl, hnotes⟩
  apply agreesAt_acts
  · rw [h]
    rfl
  · rw [h]
    exact ⟨rfl, hnotes⟩

/-- On an idle context a run is begun as in the fleet. -/
theorem execute_reaches (hidle : (w.fleet.contexts name).phase = .idle) (run : RunId)
    (ids : List Phrase) :
    Reaches ((stage company levels name).execute run ids) w
      ((stage company levels name).finishing run ((stage company levels name).runProgram ids))
      { w with fleet := w.fleet.begun name run ids } := by
  have hwatched : ((stage company levels name).context.get w).phase = .idle := by
    rw [phase_stage]
    exact hidle
  have hrunning : (stage company levels name).phasePlace.set .running w =
      { w with fleet := w.fleet.alter name fun c => { c with phase := .running } } := by
    unfold Stage.phasePlace
    rw [context_stage]
    rfl
  have hbegin := Stage.begin_of_idle hwatched
  rw [hrunning] at hbegin
  have hrecorded : (stage company levels name).record (.runStarted ids) { w with
      fleet := (w.fleet.alter name fun c => { c with phase := .running }).alter name
        fun c => c.opened run } = (.ok (), { w with fleet := w.fleet.begun name run ids }) := by
    refine (modify_stage company levels _ _).trans ?_
    rw [Fleet.alter_alter, Fleet.alter_alter]
    rfl
  rw [Stage.execute_eq]
  refine (reaches_act_bind hbegin).trans ?_
  refine (reaches_act_bind (modify_stage company levels _ _)).trans ?_
  exact reaches_act_bind hrecorded

include hfits

/-- From the start of its program on a run is made alike. -/
theorem finishing_beside (hnotes : RefusesSince start w)
    (hguarded : w.fleet.Guarded name session?) (run : RunId) (ids : List Phrase) :
    AgreesAt (beside company levels name start)
      ((stage company levels name).finishing run ((stage company levels name).runProgram ids)) w
      ((Fleet.stage company.crowd name).finishing run
        ((Fleet.stage company.crowd name).runProgram ids)) w.fleet := by
  have hprogram : Agrees (during company levels name session? start)
      ((stage company levels name).runProgram ids)
      ((Fleet.stage company.crowd name).runProgram ids) :=
    (parallel_during company levels hfits).program ids
  refine agreesAt_bind_of (hprogram w _ ⟨⟨rfl, hnotes⟩, hguarded⟩).attempt ?_ fun _ _ h => h.1
  rintro ended left _ ⟨⟨rfl, hnotes⟩, hguarded⟩
  -- Observers are told of the cleared signs while the context still is running: what they try then
  -- is refused as well.
  obtain ⟨cleared, hclear, hfleet, hnotes⟩ :=
    clear_of_running company levels hguarded.running hnotes
  refine agreesAt_act_left hclear
    (agreesAt_act_right (Fleet.clear_eq company.crowd name left.fleet) ?_)
  refine ((agrees_ofExcept _ _).bind fun outcome => ?_) _ _ ⟨hfleet, hnotes⟩
  exact agrees_onFleet company levels (conclude_stage company levels run outcome)

/-- A run is made alike, if it is made under the lease of a session only while somebody has it. -/
theorem execute_beside (hnotes : RefusesSince start w)
    (hleased : ∀ session, session? = some session →
      w.fleet.store.find (Lease.key session) ≠ none) (run : RunId) (ids : List Phrase) :
    AgreesAt (beside company levels name start) ((stage company levels name).execute run ids) w
      ((Fleet.stage company.crowd name).execute run ids) w.fleet := by
  cases hphase : (w.fleet.contexts name).phase with
  | running =>
      have hwatched : ((stage company levels name).context.get w).phase = .running := by
        rw [phase_stage]
        exact hphase
      refine AgreesAt.of_reaches ((reaches_ofAct (Stage.begin_of_running hwatched)).bind _)
        ((reaches_ofAct (Stage.begin_of_running hphase)).bind _) ?_
      exact ⟨rfl, rfl, hnotes⟩
  | idle =>
      refine AgreesAt.of_reaches (execute_reaches company levels hphase run ids)
        (Fleet.execute_reaches company.crowd hphase run ids) ?_
      have hguarded : (w.fleet.begun name run ids).Guarded name session? := by
        refine ⟨?_, hleased⟩
        simp [Fleet.begun, Context.opened, Context.record]
      exact finishing_beside company levels (w := { w with fleet := w.fleet.begun name run ids })
        hfits hnotes hguarded run ids

omit hfits

/-- Acts on the fleet are in sequence what their sequence is on the fleet. -/
theorem onFleet_bind {α β : Type} (act : Act Fleet α) (next : α → Act Fleet β) (w : Watched) :
    Act.bind (onFleet act) (fun a => onFleet (next a)) w = onFleet (Act.bind act next) w := by
  cases hact : act w.fleet with
  | mk result f => cases result <;> simp only [Act.bind, onFleet, hact]

/-- An update of the store is one of the store of the fleet that is watched. -/
theorem update_store (g : Store → Except Fault Store) (w : Watched) :
    Act.update storePlace g w = onFleet (Act.update Fleet.storePlace g) w := by
  have hget : storePlace.get w = Fleet.storePlace.get w.fleet := rfl
  cases hg : g (Fleet.storePlace.get w.fleet) <;> simp only [Act.update, onFleet, hget, hg]
  rfl

/-- Entries are published in the fleet. -/
theorem publish_store (entries : List (String × Fields)) (w : Watched) :
    Journal.publish storePlace entries w =
      onFleet (Journal.publish Fleet.storePlace entries) w := by
  induction entries generalizing w with
  | nil => rfl
  | cons entry rest ih =>
      show Act.bind (Act.update storePlace fun s => s.append entry.1 entry.2)
        (fun _ => Act.bind (Journal.publish storePlace rest) fun count => Act.pure (count + 1)) w =
          onFleet (Act.bind (Act.update Fleet.storePlace fun s => s.append entry.1 entry.2)
            fun _ => Act.bind (Journal.publish Fleet.storePlace rest) fun count =>
              Act.pure (count + 1)) w
      rw [← onFleet_bind]
      rw [show Act.update storePlace (fun s => s.append entry.1 entry.2) = onFleet _ from
        funext (update_store _), show Journal.publish storePlace rest = onFleet _ from funext ih]
      congr 1
      funext _
      funext v
      exact onFleet_bind _ (fun count => Act.pure (count + 1)) v

/-- The events of a run are published in the fleet. -/
theorem publishRun_store (session : String) (events : List Event) (w : Watched) :
    Journal.publishRun storePlace session events w =
      onFleet (Journal.publishRun Fleet.storePlace session events) w := by
  show Act.bind (Act.ofExcept (events.mapM Event.fields)) _ w =
    onFleet (Act.bind (Act.ofExcept (events.mapM Event.fields)) _) w
  unfold Act.bind Act.ofExcept
  cases events.mapM Event.fields with
  | ok entries => exact publish_store _ w
  | error fault => rfl

include hfits

/-- A dispatched run is made alike. -/
theorem dispatch_beside (hnotes : RefusesSince start w) {ticket : Ticket}
    (hticket : session? = some ticket.session) (ids : List Phrase) :
    AgreesAt (beside company levels name start)
      ((stage company levels name).dispatch storePlace ticket ids) w
      ((Fleet.stage company.crowd name).dispatch Fleet.storePlace ticket ids) w.fleet := by
  cases hphase : (w.fleet.contexts name).phase with
  | running =>
      have hwatched : ((stage company levels name).context.get w).phase = .running := by
        rw [phase_stage]
        exact hphase
      refine AgreesAt.of_reaches ((reaches_ofAct (Stage.requireIdle_of_running hwatched)).bind _)
        ((reaches_ofAct (Stage.requireIdle_of_running hphase)).bind _) ?_
      exact ⟨rfl, rfl, hnotes⟩
  | idle =>
      have hwatched : ((stage company levels name).context.get w).phase = .idle := by
        rw [phase_stage]
        exact hphase
      refine agreesAt_act_left (Stage.requireIdle_of_idle hwatched)
        (agreesAt_act_right (Stage.requireIdle_of_idle hphase) ?_)
      have htaken : Lease.take storePlace ticket.session ticket.token w =
          onFleet (Lease.take Fleet.storePlace ticket.session ticket.token) w := update_store _ w
      unfold onFleet at htaken
      cases hclaim : w.fleet.store.claim? (Lease.key ticket.session) ticket.token with
      | none =>
          have hheld : Lease.take Fleet.storePlace ticket.session ticket.token w.fleet =
              (.error .runInProgress, w.fleet) := Lease.take_of_held hclaim
          rw [hheld] at htaken
          refine AgreesAt.of_reaches ((reaches_ofAct htaken).bind _)
            ((reaches_ofAct hheld).bind _) ?_
          exact ⟨rfl, rfl, hnotes⟩
      | some store =>
          have hfree := Fleet.take_of_free hclaim
          rw [hfree] at htaken
          refine agreesAt_act_left htaken (agreesAt_act_right hfree ?_)
          -- From here to its end the run guards the other contexts of its session as well.
          have hleased : ∀ session, session? = some session →
              store.find (Lease.key session) ≠ none := by
            intro session hsession
            obtain rfl : ticket.session = session := Option.some.inj (hticket.symm.trans hsession)
            rw [Store.find_of_claim? hclaim]
            exact Option.some_ne_none _
          have hexecute := execute_beside company levels (w := { w with fleet.store := store })
            hfits hnotes hleased ticket.run ids
          have hbody := agreesAt_bind hexecute fun result =>
            (agrees_onFleet company levels (publishRun_store ticket.session result.events)).bind
              fun _ => agrees_done _ result
          have hrelease : Agrees (beside company levels name start)
              (ofAct (Lease.release storePlace ticket.session ticket.token))
              (ofAct (Lease.release Fleet.storePlace ticket.session ticket.token)) :=
            agrees_onFleet company levels (update_store _)
          exact agreesAt_bind hbody.attempt fun outcome =>
            hrelease.bind fun _ => agrees_ofExcept _ outcome

omit hfits

/-- Others try what they like while a run is made, and all they try is refused because of it: the
run ends with the same result and in the same fleet as without these attempts. -/
theorem call_undisturbed (company : Company) (levels : Nat) (name : String) (call : Call)
    (hrun : call.program? ≠ none)
    (hfits : ∀ p f, ∀ visit ∈ company.visits p f, visit.Fits name call.session?) (w : Watched) :
    let disturbed := (call.routine (stage company levels name) storePlace).play
      (pester company levels name) w
    let alone := (call.routine (Fleet.stage company.crowd name) Fleet.storePlace).play
      company.spare w.fleet
    disturbed.1 = alone.1 ∧ disturbed.2.fleet = alone.2 ∧ RefusesSince w.notes disturbed.2 := by
  have hbeside : AgreesAt (beside company levels name w.notes)
      (call.routine (stage company levels name) storePlace) w
      (call.routine (Fleet.stage company.crowd name) Fleet.storePlace) w.fleet := by
    cases call with
    | execute run ids =>
        refine agreesAt_bind ?_ fun result => agrees_done _ (some result)
        exact execute_beside company levels hfits (refusesSince_self w)
          (fun session h => (nomatch h)) run ids
    | dispatch ticket ids =>
        refine agreesAt_bind ?_ fun result => agrees_done _ (some result)
        exact dispatch_beside company levels hfits (refusesSince_self w) rfl ids
    | invoke command => exact absurd rfl hrun
  exact ⟨hbeside.1, hbeside.2.1, hbeside.2.2⟩

end Runs

/-- Observers that always meddle, and tasks that try to run programs at every pause. -/
def pesky : Company where
  crowd := .quiet
  meddlings _ _ := [.reset 0 0 0, .edit "loop" { repeats := some 5 }]
  visits _ _ := [
    .attempt (.call "a" (.execute (.ofNat 7) ["turnLeft"])),
    .attempt (.call "b" (.dispatch ⟨"s", "u", .ofNat 8⟩ ["turnLeft"])),
    .attempt (.meddle (.reset 40 0 0))]
  answer _ _ := .ok ()

/-- A fleet of contexts whose actors are observed. -/
def observed : Watched where
  fleet := { contexts := fun _ => { actor := ⟨{}, ["ui"]⟩ } }

/-- The dispatch of a single turn. -/
def turning : Call := .dispatch ⟨"s", "t", .ofNat 0⟩ ["turnRight"]

/-- While a single turn is dispatched, nine attempts are made, six of them by the observer. -/
theorem call_undisturbed_pesky :
    (let disturbed := (turning.routine (stage pesky 1 "a") storePlace).play (pester pesky 1 "a")
        observed
      let alone := (turning.routine (Fleet.stage pesky.crowd "a") Fleet.storePlace).play pesky.spare
        observed.fleet
      disturbed.1 = alone.1 ∧ disturbed.2.fleet = alone.2 ∧
        RefusesSince observed.notes disturbed.2) ∧
      ((turning.routine (stage pesky 1 "a") storePlace).play (pester pesky 1 "a")
        observed).2.notes.length = 9 := by
  have hrun : turning.program? ≠ none := by simp [turning, Call.program?]
  have hfits : ∀ p f, ∀ visit ∈ pesky.visits p f, visit.Fits "a" turning.session? := by
    intro p f visit hvisit
    simp only [pesky, List.mem_cons, List.not_mem_nil, or_false] at hvisit
    rcases hvisit with rfl | rfl | rfl
    · exact .inl ⟨rfl, by simp [Call.program?]⟩
    · exact .inr ⟨"s", rfl, rfl⟩
    · trivial
  exact ⟨call_undisturbed pesky 1 "a" turning hrun hfits observed, by decide +kernel⟩

end Watched

end Gridwalk
