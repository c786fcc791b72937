import Gridwalk.Proofs.Calls

/-!
# What calls do to the key of a lease

The key of a session's lease is no stream key, and no two sessions share one.  Whatever a call
does, the key of a lease changes at two moments only: a dispatched run of that session puts its
token under it before its program, and releases it after its program (`Lease.released`), at
whatever end.  `Call.keyContract` says this of all stretches after the first pause;
`closing_meets_key` says that calls meet it from the start of their programs on.
-/

set_option autoImplicit false

namespace Gridwalk

namespace Lease

/-- No lease is kept under the key of a stream. -/
theorem key_ne_streamKey (session other : String) : key session ≠ Journal.streamKey other := by
  intro h
  have hlist := congrArg String.toList h
  simp [key, Journal.streamKey, String.toList_append] at hlist

/-- Different sessions have different lease keys. -/
theorem key_injective {session other : String} (h : key session = key other) : session = other := by
  have hlist := congrArg String.toList h
  simp only [key, String.toList_append, List.append_cancel_left_eq] at hlist
  exact String.toList_injective hlist

/-- What is left under a key when the holder of a token gives the lease back: nothing if it was
the token, and otherwise what was there. -/
def released (token : String) : Option Stored → Option Stored
  | some (.text value expires) => if value = token then none else some (.text value expires)
  | other => other

/-- The holder of a lease gives it back. -/
theorem released_self (token : String) : released token (some (.text token true)) = none :=
  if_pos rfl

/-- A stream under a key is left there, and nothing else becomes one. -/
theorem released_eq_stream_iff {token : String} {found : Option Stored} {entries : List Fields} :
    released token found = some (.stream entries) ↔ found = some (.stream entries) := by
  unfold released
  split
  next value expires =>
    split <;> simp
  next => exact Iff.rfl

/-- Giving a lease back releases its key and no other. -/
theorem find_release {σ : Type} {place : Place σ Store} (hplace : place.Lawful)
    (session token : String) (s : σ) (other : String) :
    (place.get (release place session token s).2).find other =
      if other = key session then released token ((place.get s).find other)
      else (place.get s).find other := by
  have hcases : place.get (release place session token s).2 = place.get s ∧
      released token ((place.get s).find (key session)) = (place.get s).find (key session) ∨
      place.get (release place session token s).2 = (place.get s).erase (key session) ∧
        released token ((place.get s).find (key session)) = none := by
    unfold release Act.update Store.text?
    simp only [bind, Except.bind, pure, Except.pure]
    cases (place.get s).find (key session) with
    | none => exact .inl ⟨hplace.get_set _ _, rfl⟩
    | some stored =>
        cases stored with
        | stream entries => exact .inl ⟨rfl, rfl⟩
        | text value expires =>
            by_cases hvalue : value = token
            · exact .inr ⟨by simp [hvalue, hplace.get_set], by simp [released, hvalue]⟩
            · exact .inl ⟨by simp [hvalue, hplace.get_set], by simp [released, hvalue]⟩
  by_cases hother : other = key session
  · subst hother
    rw [if_pos rfl]
    rcases hcases with ⟨hstore, hreleased⟩ | ⟨hstore, hreleased⟩
    · rw [hstore, hreleased]
    · rw [hstore, hreleased, Store.find_erase, if_pos rfl]
  · rw [if_neg hother]
    rcases hcases with ⟨hstore, -⟩ | ⟨hstore, -⟩
    · rw [hstore]
    · rw [hstore, Store.find_erase, if_neg hother]

end Lease

namespace Fleet

open Routine

/-- The place of the store of a fleet is lawful. -/
theorem lawful_storePlace : storePlace.Lawful where
  get_set _ _ := rfl
  set_get _ := rfl
  set_set _ _ _ := rfl

section Acts

variable (f : Fleet) (key : String)

/-- Adding an entry to a stream changes no other key. -/
theorem find_append {store : Store} {stream : String} {fields : Fields} {store' : Store}
    (h : store.append stream fields = .ok store') (hkey : key ≠ stream) :
    store'.find key = store.find key := by
  unfold Store.append at h
  split at h
  · cases h
  · cases hentries : store.newestFirst stream with
    | error fault =>
        rw [hentries] at h
        cases h
    | ok entries =>
        rw [hentries] at h
        cases h
        rw [Store.find_put, if_neg hkey]

variable {key} {session : String}

/-- Publishing for a session changes no key but that of its stream. -/
theorem find_publishRun (hkey : key ≠ Journal.streamKey session) (events : List Event) :
    (Journal.publishRun storePlace session events f).2.store.find key = f.store.find key := by
  refine publishRun_keeps (fun f => f.store.find key) session (fun fields f => ?_) events f
  rw [update_store_eq]
  cases happend : f.store.append (Journal.streamKey session) fields with
  | error fault => rfl
  | ok store => exact find_append _ happend hkey

end Acts

/-- The regime of what leaves the key of a session's lease alone. -/
def keyRegime (session : String) : Regime Fleet where
  rely _ _ := True
  held o _ f := f.store.find (Lease.key session) = o.state.store.find (Lease.key session)
  within o f := f.store.find (Lease.key session) = o.state.store.find (Lease.key session)

/-- What changes a context calmly leaves the store alone. -/
theorem Calm.store_eq {name : String} {f g : Fleet} (h : Calm name f g) : g.store = f.store := by
  cases h <;> rfl

/-- What opens and closes runs leaves the store alone. -/
theorem Formal.store_eq {name : String} {f g : Fleet} (h : Formal name f g) :
    g.store = f.store := by
  cases h <;> rfl

/-- Runs leave the keys of leases alone. -/
theorem keyRegime_bears (session name : String) : (keyRegime session).Bears name where
  calm := by
    intro o f g h hcalm
    show g.store.find _ = _
    rw [hcalm.store_eq]
    exact h
  step h := h
  afterStep _ _ := rfl
  edge h := h
  afterEdge _ _ := rfl
  formal := by
    intro o f g h hformal
    show g.store.find _ = _
    rw [hformal.store_eq]
    exact h

end Fleet

/-! ## Calls -/

namespace Call

/-- The token under which a call holds the lease of a session. -/
def token? (session : String) : Call → Option String
  | .dispatch ticket _ => if ticket.session = session then some ticket.token else none
  | _ => none

/-- What becomes of the key of a session's lease when a call ends. -/
def keyAtEnd (session : String) (call : Call) (before : Option Stored) : Option Stored :=
  match call.token? session with
  | some token => Lease.released token before
  | none => before

/-- A dispatched run releases the lease of its session and no other. -/
theorem keyAtEnd_dispatch (session : String) (ticket : Ticket) (ids : List Phrase)
    (before : Option Stored) :
    (Call.dispatch ticket ids).keyAtEnd session before =
      if ticket.session = session then Lease.released ticket.token before else before := by
  unfold keyAtEnd token?
  by_cases h : ticket.session = session <;> simp [h]

/-- What is asked of a call after it was begun: that it leaves the key of a session's lease alone
until it ends, and then releases it if it holds the lease. -/
def keyContract (session : String) (call : Call) : Contract Fleet (Option RunResult) where
  rely _ _ := True
  held o _ _ f := f.store.find (Lease.key session) = o.state.store.find (Lease.key session)
  ended o _ f := f.store.find (Lease.key session) =
    call.keyAtEnd session (o.state.store.find (Lease.key session))

end Call

namespace Fleet

open Routine

variable {session name : String}

/-- What leaves the key alone is as it is asked of calls that do not hold the lease. -/
theorem meets_key_of_obeys {call : Call} (hcall : call.token? session = none)
    {r : Routine Fleet (Option RunResult)} (hr : r.Obeys (keyRegime session)) (f : Fleet)
    (p : Option Pause) : r.Meets (call.keyContract session) ⟨p, f⟩ f := by
  refine Meets.mono ?_ ?_ ?_ (hr ⟨p, f⟩ f rfl)
  · exact fun _ _ h => h
  · exact fun _ _ _ _ h => h
  · intro o result g hg
    show _ = call.keyAtEnd session _
    unfold Call.keyAtEnd
    rw [hcall]
    exact hg

/-- From the start of its program on, a call releases the lease at its end and does nothing else
to its key. -/
theorem closing_meets_key (crowd : Crowd) {program : Routine Fleet Unit}
    (hprogram : program.Obeys (keyRegime session)) (call : Call) (f : Fleet) :
    (call.closing (stage crowd name) storePlace program).Meets (call.keyContract session)
      ⟨none, f⟩ f := by
  have hbears := keyRegime_bears session name
  cases call with
  | execute run ids =>
      refine meets_key_of_obeys rfl ?_ f none
      exact (finishing_obeys hbears crowd run hprogram).bind fun r => obeys_done _ (some r)
  | invoke command =>
      exact meets_key_of_obeys rfl (hprogram.bind fun _ => obeys_done _ none) f none
  | dispatch ticket ids =>
      have hpublish (events : List Event) :
          (Routine.ofAct (Journal.publishRun storePlace ticket.session events)).Obeys
            (keyRegime session) := by
        refine obeys_ofAct fun o g hg => ?_
        exact (find_publishRun g (Lease.key_ne_streamKey session ticket.session) events).trans hg
      have hbody : ((stage crowd name).finishing ticket.run program >>= fun result =>
          Routine.ofAct (Journal.publishRun storePlace ticket.session result.events) >>= fun _ =>
            .done result).Obeys (keyRegime session) :=
        (finishing_obeys hbears crowd ticket.run hprogram).bind fun result =>
          (hpublish result.events).bind fun _ => obeys_done _ result
      refine meets_bind (meets_bind (meets_attempt ?_))
      refine Meets.mono ?_ ?_ ?_ (hbody ⟨none, f⟩ f rfl)
      · exact fun _ _ h => h
      · exact fun _ _ _ _ h => h
      intro o outcome g hg
      change g.store.find (Lease.key session) = o.state.store.find (Lease.key session) at hg
      have hreleased : (Lease.release storePlace ticket.session ticket.token g).2.store.find
          (Lease.key session) = (Call.dispatch ticket ids).keyAtEnd session
            (o.state.store.find (Lease.key session)) := by
        have hfind := Lease.find_release lawful_storePlace ticket.session ticket.token g
          (Lease.key session)
        refine hfind.trans ?_
        show (if _ then Lease.released _ (g.store.find _) else g.store.find _) = _
        rw [hg, Call.keyAtEnd_dispatch]
        by_cases hsession : ticket.session = session
        · rw [if_pos (by rw [hsession]), if_pos hsession]
        · rw [if_neg (fun h => hsession (Lease.key_injective h).symm), if_neg hsession]
      show Meets _ (Routine.ofAct (Lease.release storePlace ticket.session ticket.token) >>=
        fun _ => Routine.ofExcept outcome) o g
      refine meets_bind (meets_ofAct ?_)
      cases hact : Lease.release storePlace ticket.session ticket.token g with
      | mk result h =>
          rw [hact] at hreleased
          cases result with
          | error fault => exact hreleased
          | ok u => cases outcome <;> exact hreleased

end Fleet

end Gridwalk
