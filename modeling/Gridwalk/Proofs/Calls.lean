import Gridwalk.Proofs.RunProgressShown

/-!
# What is asked of calls

A call that runs a program either comes to it, on an idle context, or is refused with nothing
changed (`routine_reaches`).  From the start of its program on, what it does is `Call.closing`:
whenever it is held it is at a pause of one step of the program, and when it has ended, in
whichever way, it has cleared all signs.  `Call.contract` says this, and of a command that is
invoked by itself that it changes no signs; all calls meet it (`routine_meets`).
-/

set_option autoImplicit false

namespace Gridwalk

namespace Call

/-- The id under which a call runs a program, if it runs one. -/
def run? : Call → Option RunId
  | .execute run _ => some run
  | .dispatch ticket _ => some ticket.run
  | .invoke _ => none

/-- A call that runs a program has an id for the run. -/
theorem exists_run?_of_program? {call : Call} {ids : List Phrase}
    (h : call.program? = some ids) : ∃ run, call.run? = some run := by
  cases call with
  | execute run ids' => exact ⟨run, rfl⟩
  | dispatch ticket ids' => exact ⟨ticket.run, rfl⟩
  | invoke command => cases h

/-- A call with an id for a run runs a program. -/
theorem exists_program?_of_run? {call : Call} {run : RunId} (h : call.run? = some run) :
    ∃ ids, call.program? = some ids := by
  cases call with
  | execute run ids => exact ⟨ids, rfl⟩
  | dispatch ticket ids => exact ⟨ids, rfl⟩
  | invoke command => cases h

/-- What a call can end with when its run ended: with the fault of the run, if that raised one, or
with that of a store which holds no text where the lease was. -/
def EndsAs (outcome : Except Fault RunResult) (result : Except Fault (Option RunResult)) : Prop :=
  ∀ fault, outcome = .error fault → result = .error fault ∨ result = .error .wrongKind

/-- What a call does from the start of its program on. -/
def closing {σ : Type} (stage : Stage σ) (store : Place σ Store) :
    Call → Routine σ Unit → Routine σ (Option RunResult)
  | .execute run _, program => do
      let result ← stage.finishing run program
      return some result
  | .dispatch ticket _, program => do
      let result ← Routine.ensure (do
        let result ← stage.finishing ticket.run program
        let _ ← (Journal.publishRun store ticket.session result.events : Act σ Nat)
        return result) (Lease.release store ticket.session ticket.token)
      return some result
  | .invoke _, program => do
      program
      return none

/-- A run of a program is held at a pause of one of its steps. -/
def IsUnderway (crowd : Crowd) (name : String) (call : Call) (ids : List Phrase) (p : Pause)
    (next : Answer → Routine Fleet (Option RunResult)) (f : Fleet) : Prop :=
  ∃ k, Fleet.AtStep crowd name ids p k f ∧
    next = fun answer => call.closing (Fleet.stage crowd name) Fleet.storePlace (k answer)

/-- What is done to the store before the program of a run: under a lease, which nobody may have, it
is taken. -/
inductive Enters : Call → RunId → Store → Store → Prop
  | execute {run : RunId} {ids : List Phrase} {store : Store} :
      (Call.execute run ids).Enters run store store
  | dispatch {ticket : Ticket} {ids : List Phrase} {store : Store}
      (hfree : store.find (Lease.key ticket.session) = none) :
      (Call.dispatch ticket ids).Enters ticket.run store
        (store.put (Lease.key ticket.session) (.text ticket.token true))

/-- The context of a run that is underway is running. -/
theorem IsUnderway.running {crowd : Crowd} {name : String} {call : Call} {ids : List Phrase}
    {p : Pause} {next : Answer → Routine Fleet (Option RunResult)} {f : Fleet}
    (h : call.IsUnderway crowd name ids p next f) : (f.contexts name).phase = .running := by
  obtain ⟨k, ⟨before, id, rest, k', -, hsigns, -⟩, -⟩ := h
  exact congrArg Signs.phase hsigns

end Call

/-- A key that holds nothing is claimed by keeping a token there. -/
theorem Store.claim?_of_find_eq_none {store : Store} {key : String} (token : String)
    (h : store.find key = none) :
    store.claim? key token = some (store.put key (.text token true)) := by
  unfold Store.claim?
  rw [h]

/-- A key that holds something is not claimed. -/
theorem Store.claim?_of_find_ne_none {store : Store} {key : String} (token : String)
    (h : store.find key ≠ none) : store.claim? key token = none := by
  unfold Store.claim?
  cases hfind : store.find key with
  | none => exact absurd hfind h
  | some stored => rfl

/-- A lease that is held is not taken, and nothing changes. -/
theorem Lease.take_of_held {σ : Type} {store : Place σ Store} {session token : String} {s : σ}
    (hheld : (store.get s).claim? (Lease.key session) token = none) :
    Lease.take store session token s = (.error .runInProgress, s) := by
  simp only [Lease.take, Act.update, hheld]

namespace Stage

open Routine

variable {σ : Type} {stage : Stage σ} {store : Place σ Store} {s : σ}

/-- While a run is in progress on its context no call runs a program. -/
theorem call_of_running (h : (stage.context.get s).phase = .running) {call : Call}
    (hcall : call.program? ≠ none) :
    Reaches (call.routine stage store) s (.fail .runInProgress) s := by
  cases call with
  | execute run ids => exact ((reaches_ofAct (begin_of_running h)).bind _).bind _
  | dispatch ticket ids => exact ((reaches_ofAct (requireIdle_of_running h)).bind _).bind _
  | invoke command => exact absurd rfl hcall

/-- While somebody has the lease no program is run under it. -/
theorem dispatch_of_held {ticket : Ticket}
    (hheld : (store.get s).claim? (Lease.key ticket.session) ticket.token = none)
    (ids : List Phrase) :
    Reaches ((Call.dispatch ticket ids).routine stage store) s (.fail .runInProgress) s := by
  cases hphase : (stage.context.get s).phase with
  | running => exact call_of_running hphase (Option.some_ne_none ids)
  | idle =>
      have htake := reaches_ofAct (Lease.take_of_held hheld)
      have hrequire : Reaches (stage.dispatch store ticket ids) s (.fail .runInProgress) s :=
        (reaches_act_bind (requireIdle_of_idle hphase)).trans (htake.bind _)
      exact hrequire.bind fun result => .done (some result)

end Stage

namespace Fleet

open Routine

/-- All signs of a run are cleared, and other contexts are as before. -/
structure Cleared (name : String) (o : Origin Fleet) (f : Fleet) : Prop where
  signs : f.signs name = Signs.idle
  flag : f.isFlagged name = false
  others : ∀ other, other ≠ name → f.contexts other = o.state.contexts other

end Fleet

namespace Call

/-- A call is refused, with nothing changed: a run was in progress on the context, or else somebody
had the lease. -/
structure IsRefused (name : String) (call : Call) (o : Origin Fleet)
    (result : Except Fault (Option RunResult)) (f : Fleet) : Prop where
  first : o.pause = none
  same : f = o.state
  result : result = .error .runInProgress
  cause : (o.state.contexts name).phase = .running ∨ ∃ ticket ids, call = .dispatch ticket ids

/-- What is asked of a call that runs a program. -/
def runContract (crowd : Crowd) (name : String) (call : Call) (ids : List Phrase) :
    Contract Fleet (Option RunResult) where
  rely f g := g.signs name = f.signs name
  held o p next f := Fleet.KeptAt name o p f ∧ Fleet.Began name o ∧
    call.IsUnderway crowd name ids p next f
  ended o result f := Fleet.Cleared name o f ∧ Fleet.Began name o ∨ call.IsRefused name o result f

/-- What is asked of a command that is invoked by itself: no sign is changed. -/
def invokeContract (name : String) : Contract Fleet (Option RunResult) :=
  (Fleet.signRegime name (fun _ _ => True) fun o signs => signs = o.state.signs name).contract _

/-- What is asked of a call. -/
def contract (crowd : Crowd) (name : String) (call : Call) : Contract Fleet (Option RunResult) :=
  match call.program? with
  | none => invokeContract name
  | some ids => call.runContract crowd name ids

end Call

namespace Fleet

open Routine

variable {name : String} {f : Fleet} {o : Origin Fleet} (crowd : Crowd)

/-- Clearing clears all signs. -/
theorem cleared_of_kept (hkept : Kept name o f) : Cleared name o (f.cleared name) where
  signs := by simp [signs, Signs.idle, cleared, Fleet.change, Actor.apply]
  flag := by simp [isFlagged, cleared, Fleet.change, Actor.apply]
  others other hother := by
    rw [cleared, contexts_alter_of_ne _ _ _ _ hother, contexts_change_of_ne _ _ _ _ hother,
      contexts_showIndex_of_ne _ _ _ _ hother]
    exact hkept.others other hother

/-- Concluding leaves all signs cleared. -/
theorem Cleared.concluded (h : Cleared name o f) (outcome : Outcome) :
    Cleared name o (f.concluded name outcome) := by
  have hcontext : (f.concluded name outcome).signs name = f.signs name ∧
      (f.concluded name outcome).isFlagged name = f.isFlagged name := by
    rw [concluded_eq]
    generalize Stage.closing outcome (f.contexts name).actionsCompleted = occurrence
    rw [← signs_note f name occurrence, ← isFlagged_note f name occurrence]
    simp [Fleet.signs, isFlagged]
  refine ⟨hcontext.1.trans h.signs, hcontext.2.trans h.flag, fun other hother => ?_⟩
  rw [Fleet.concluded, contexts_alter_of_ne _ _ _ _ hother]
  exact h.others other hother

/-- What becomes of the store has nothing to do with the signs of a run. -/
theorem Cleared.stored (h : Cleared name o f) (store : Store) : Cleared name o { f with store } :=
  ⟨h.signs, h.flag, h.others⟩

/-- However the program of a run ended, its end clears all signs. -/
theorem cleared_finished (hkept : Kept name o f) (run : RunId) (ended : Except Fault Unit) :
    Cleared name o (f.finished name run ended).2 := by
  have hcleared := cleared_of_kept hkept
  unfold finished
  cases Stage.outcomeOf ended with
  | error fault => exact hcleared
  | ok outcome => exact hcleared.concluded outcome

/-- A lease is given back, or there is a stream under its key. -/
theorem release_cases (session token : String) (f : Fleet) :
    (∃ store, Lease.release storePlace session token f = (.ok (), { f with store })) ∨
      Lease.release storePlace session token f = (.error .wrongKind, f) := by
  unfold Lease.release Store.text?
  rw [update_store_eq]
  cases f.store.find (Lease.key session) with
  | none => exact .inl ⟨_, rfl⟩
  | some stored =>
      cases stored with
      | text value expires => exact .inl ⟨_, rfl⟩
      | stream entries => exact .inr rfl

/-- However the program of a call ended, the call ends with what finishing its run leaves, apart
from the store, and if that raises a fault, then with this one or with that of a lease which is not
given back. -/
theorem closing_ofExcept_meets_of {c : Contract Fleet (Option RunResult)} {P : Fleet → Prop}
    (hstore : ∀ g store, P g → P { g with store }) {call : Call} {run : RunId}
    (hcall : call.run? = some run) (ended : Except Fault Unit)
    (hfinished : P (f.finished name run ended).2)
    (hended : ∀ result g, P g → Call.EndsAs (f.finished name run ended).1 result →
      c.ended o result g) :
    (call.closing (stage crowd name) storePlace (Routine.ofExcept ended)).Meets c o f := by
  cases call with
  | invoke command => cases hcall
  | execute run ids =>
      cases hcall
      refine meets_bind ((finishing_reaches crowd name f run ended).meets (meets_ofExcept ?_))
      cases hresult : (f.finished name run ended).1 with
      | ok r => exact hended _ _ hfinished fun fault hfault => by cases hresult.symm.trans hfault
      | error fault =>
          refine hended _ _ hfinished fun fault' hfault => ?_
          cases hresult.symm.trans hfault
          exact .inl rfl
  | dispatch ticket ids =>
      cases hcall
      have hrelease (outcome : Except Fault RunResult) {g : Fleet} (hg : P g)
          (hends : ∀ result, result = outcome.map some ∨ result = .error .wrongKind →
            Call.EndsAs (f.finished name ticket.run ended).1 result) :
          (Routine.ofAct (Lease.release storePlace ticket.session ticket.token) >>= fun _ =>
            Routine.ofExcept outcome).Meets (c.before fun r => .done (some r)) o g := by
        rcases release_cases ticket.session ticket.token g with ⟨store, hback⟩ | hkept
        · refine meets_act_bind hback (meets_ofExcept ?_)
          have hout := hended _ _ (hstore g store hg) (hends _ (.inl rfl))
          cases outcome <;> exact hout
        · exact meets_act_bind_of_error hkept (hended _ _ hg (hends _ (.inr rfl)))
      refine meets_bind (meets_bind (meets_attempt (meets_bind ?_)))
      refine (finishing_reaches crowd name f ticket.run ended).meets (meets_ofExcept ?_)
      cases hresult : (f.finished name ticket.run ended).1 with
      | error fault =>
          refine hrelease (.error fault) hfinished fun result hres fault' hfault => ?_
          cases hresult.symm.trans hfault
          exact hres
      | ok r =>
          have hends (result : Except Fault (Option RunResult)) :
              Call.EndsAs (f.finished name ticket.run ended).1 result := by
            intro fault hfault
            cases hresult.symm.trans hfault
          obtain ⟨store, hpublish⟩ := publishRun_store ticket.session r.events
            (f.finished name ticket.run ended).2
          have hpublished := hstore _ store hfinished
          rw [← hpublish] at hpublished
          show Meets _ (Routine.ofAct (Journal.publishRun storePlace ticket.session r.events) >>=
            fun _ => .done r) o _
          refine meets_bind (meets_ofAct ?_)
          generalize Journal.publishRun storePlace ticket.session r.events
            (f.finished name ticket.run ended).2 = published at hpublished ⊢
          obtain ⟨outcome, g⟩ := published
          cases outcome with
          | error fault => exact hrelease (.error fault) hpublished fun result _ => hends result
          | ok count => exact hrelease (.ok r) hpublished fun result _ => hends result

/-- From the start of its program on a call meets a contract if its program leads to where that
can be seen: at its pauses, and at its end, from which the call ends without a pause. -/
theorem closing_meets_of {cp : Contract Fleet Unit} {c : Contract Fleet (Option RunResult)}
    (call : Call) (hrely : ∀ f g, c.rely f g → cp.rely f g)
    (hheld : ∀ o p k f, cp.held o p k f →
      c.held o p (fun answer => call.closing (stage crowd name) storePlace (k answer)) f)
    (hended : ∀ o ended f, cp.ended o ended f →
      (call.closing (stage crowd name) storePlace (Routine.ofExcept ended)).Meets c o f)
    {program : Routine Fleet Unit} (h : program.Meets cp o f) :
    (call.closing (stage crowd name) storePlace program).Meets c o f := by
  induction program generalizing o f with
  | done u => exact hended o (.ok u) f h
  | fail fault => exact hended o (.error fault) f h
  | get k ih =>
      have hget : call.closing (stage crowd name) storePlace (.get k) =
          .get fun s => call.closing (stage crowd name) storePlace (k s) := by
        cases call <;> rfl
      rw [hget]
      exact ih f h
  | put g r ih =>
      have hput : call.closing (stage crowd name) storePlace (.put g r) =
          .put g (call.closing (stage crowd name) storePlace r) := by
        cases call <;> rfl
      rw [hput]
      exact ih h
  | pause p k ih =>
      have hpause : call.closing (stage crowd name) storePlace (.pause p k) =
          .pause p fun answer => call.closing (stage crowd name) storePlace (k answer) := by
        cases call <;> rfl
      rw [hpause]
      refine ⟨hheld o p k f h.1, ?_⟩
      intro answer g hg
      exact ih answer (h.2 answer g (hrely f g hg))

/-- From the start of its program on, a run keeps to its contract. -/
theorem closing_meets {call : Call} {ids : List Phrase} (hcall : call.program? = some ids)
    {program : Routine Fleet Unit} (h : program.Meets (programContract crowd name ids) o f) :
    (call.closing (stage crowd name) storePlace program).Meets (call.runContract crowd name ids)
      o f := by
  -- At its pauses the program is underway; at its end all that follows is without a pause.
  refine closing_meets_of crowd call (fun _ _ hrely => hrely) ?_ ?_ h
  · exact fun o p k f hheld => ⟨hheld.1, hheld.2.1, k, hheld.2.2, rfl⟩
  · intro o ended f hkept
    obtain ⟨run, hrun⟩ := Call.exists_run?_of_program? hcall
    exact closing_ofExcept_meets_of crowd (P := Cleared name o) (fun g store hg => hg.stored store)
      hrun ended (cleared_finished hkept.1 run ended) fun result g hg _ => Or.inl ⟨hg, hkept.2⟩

/-- The beginning of a run keeps what every stretch keeps. -/
theorem kept_begun (hf : Kept name o f) (run : RunId) (ids : List Phrase) :
    Kept name o (f.begun name run ids) := by
  refine hf.trans (fun h => ?_) fun other hother => contexts_alter_of_ne f name other _ hother
  simpa [isFlagged, begun, Context.opened, Context.record] using h

/-- On an idle context a run comes to its program. -/
theorem execute_reaches (hidle : (f.contexts name).phase = .idle) (run : RunId)
    (ids : List Phrase) :
    Reaches ((stage crowd name).execute run ids) f
      ((stage crowd name).finishing run ((stage crowd name).runProgram ids))
      (f.begun name run ids) := by
  rw [Stage.execute_eq]
  refine (reaches_act_bind (begin_of_idle crowd name f hidle)).trans ?_
  refine (reaches_act_bind (opened_eq crowd name _ run)).trans ?_
  exact reaches_act_bind (record_opened_eq crowd name f run ids)

/-- A lease that is free is taken, which changes the store only. -/
theorem take_of_free {session token : String} {store : Store}
    (hfree : f.store.claim? (Lease.key session) token = some store) :
    Lease.take storePlace session token f = (.ok (), { f with store }) := by
  unfold Lease.take
  rw [update_store_eq, hfree]

/-- On an idle context, and if nobody has the lease, a dispatched run takes the lease and comes to
its program. -/
theorem dispatch_reaches (hidle : (f.contexts name).phase = .idle) {ticket : Ticket}
    {store : Store} (hfree : f.store.claim? (Lease.key ticket.session) ticket.token = some store)
    (ids : List Phrase) :
    Reaches ((Call.dispatch ticket ids).routine (stage crowd name) storePlace) f
      ((Call.dispatch ticket ids).closing (stage crowd name) storePlace
        ((stage crowd name).runProgram ids))
      (({ f with store } : Fleet).begun name ticket.run ids) := by
  let next : RunResult → Routine Fleet RunResult := fun result =>
    Routine.ofAct (Journal.publishRun storePlace ticket.session result.events) >>= fun _ =>
      .done result
  let release : Except Fault RunResult → Routine Fleet RunResult := fun outcome =>
    Routine.ofAct (Lease.release storePlace ticket.session ticket.token) >>= fun _ =>
      Routine.ofExcept outcome
  have hexecute := execute_reaches crowd (f := { f with store }) hidle ticket.run ids
  have hbody := ((hexecute.bind next).attempt.bind release)
  have htake := reaches_act_bind (take_of_free hfree) (f := fun _ =>
    ((stage crowd name).execute ticket.run ids >>= next).attempt >>= release)
  have hguard : (stage crowd name).requireIdle f = (.ok (), f) := Stage.requireIdle_of_idle hidle
  have hrequire := reaches_act_bind hguard (f := fun _ =>
    Lease.hold storePlace ticket.session ticket.token
      ((stage crowd name).execute ticket.run ids >>= next))
  exact (hrequire.trans (htake.trans hbody)).bind fun result => .done (some result)

/-- A call that runs a program either comes to the program, on an idle context, or to its
refusal. -/
theorem routine_reaches {call : Call} {ids : List Phrase} (hcall : call.program? = some ids)
    (f : Fleet) :
    (f.contexts name).phase = .idle ∧ (∃ run store, call.Enters run f.store store ∧
        Reaches (call.routine (stage crowd name) storePlace) f
          (call.closing (stage crowd name) storePlace ((stage crowd name).runProgram ids))
          (({ f with store } : Fleet).begun name run ids)) ∨
      ((f.contexts name).phase = .running ∨ ∃ ticket ids, call = .dispatch ticket ids) ∧
        Reaches (call.routine (stage crowd name) storePlace) f (.fail .runInProgress) f := by
  cases hphase : (f.contexts name).phase with
  | running =>
      have hrun : call.program? ≠ none := hcall ▸ Option.some_ne_none ids
      exact .inr ⟨.inl rfl, Stage.call_of_running hphase hrun⟩
  | idle =>
      cases call with
      | invoke command => cases hcall
      | execute run ids' =>
          cases hcall
          exact .inl ⟨rfl, run, f.store, .execute, (execute_reaches crowd hphase run ids).bind _⟩
      | dispatch ticket ids' =>
          cases hcall
          by_cases hfree : f.store.find (Lease.key ticket.session) = none
          · have hclaim := Store.claim?_of_find_eq_none ticket.token hfree
            exact .inl ⟨rfl, ticket.run, _, .dispatch hfree,
              dispatch_reaches crowd hphase hclaim ids⟩
          · have hclaim : f.store.claim? (Lease.key ticket.session) ticket.token = none :=
              Store.claim?_of_find_ne_none ticket.token hfree
            exact .inr ⟨.inr ⟨ticket, ids, rfl⟩, Stage.dispatch_of_held hclaim ids⟩

/-- Every call meets its contract. -/
theorem routine_meets (call : Call) (f : Fleet) :
    (call.routine (stage crowd name) storePlace).Meets (call.contract crowd name) ⟨none, f⟩ f := by
  cases hcall : call.program? with
  | none =>
      cases call with
      | execute run ids => cases hcall
      | dispatch ticket ids => cases hcall
      | invoke command =>
          have htends : (signRegime name (fun _ _ => True) fun o signs =>
              signs = o.state.signs name).Tends name :=
            signRegime_tends name fun _ _ _ _ _ _ => rfl
          refine Obeys.bind (invoke_obeys htends crowd command) (fun _ => obeys_done _ none) _ _ ?_
          exact ⟨rfl, kept_start name none f fun _ h => nomatch h⟩
  | some ids =>
      have hcontract : call.contract crowd name = call.runContract crowd name ids := by
        unfold Call.contract
        rw [hcall]
      rw [hcontract]
      rcases routine_reaches crowd hcall f with
        ⟨hidle, run, store, -, hreaches⟩ | ⟨hcause, hreaches⟩
      · refine hreaches.meets (closing_meets crowd hcall (runProgram_meets crowd ?_ ?_ ?_ ids))
        · simp [begun, Context.opened, Context.record]
        · refine kept_begun (Kept.trans (kept_start name none f fun _ h => nomatch h) ?_ ?_) run ids
          · exact fun h => h
          · exact fun _ _ => rfl
        · exact fun _ => hidle
      · exact hreaches.meets (Or.inr ⟨rfl, rfl, rfl, hcause⟩)

end Fleet

end Gridwalk
