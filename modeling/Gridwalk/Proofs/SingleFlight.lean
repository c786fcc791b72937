import Gridwalk.Proofs.LeaseKey

/-!
# One dispatched run at a time

Contexts of one session share the key of its lease.  A dispatched run proceeds only if its
context is idle and the key holds nothing, and puts its token there; otherwise it changes
nothing.  At its end it deletes the key exactly if its token is still there.  Whatever else
happens to the key is done by others (`Scene.KeyStep`); if nobody else writes to it, then it
holds the token of the only dispatched run in progress, or nothing if there is none
(`Scene.IsSingle`).
-/

set_option autoImplicit false

namespace Gridwalk

namespace Scene

open Routine

/-- A task is in progress as a dispatched run of a session, under a token. -/
def IsDispatching (scene : Scene) (session task token : String) : Prop :=
  ∃ role p next, scene.Holds task role p next ∧ role.call.token? session = some token

/-- What is kept under the key of a session's lease. -/
def lease (scene : Scene) (session : String) : Option Stored :=
  scene.fleet.store.find (Lease.key session)

/-- What an operation can do to the key of a session's lease, if it is nobody else's write: let it
be, take it for a dispatched run that found nothing there, or give it back at the end of a
dispatched run. -/
inductive KeyStep (session : String) (scene scene' : Scene) : Prop
  | kept (hkey : scene'.lease session = scene.lease session)
      (htasks : ∀ task token,
        scene'.IsDispatching session task token ↔ scene.IsDispatching session task token)
  | taken (task token : String) (hfree : scene.lease session = none)
      (hkey : scene'.lease session = some (.text token true))
      (htask : scene'.IsDispatching session task token)
      (hothers : ∀ other, other ≠ task → ∀ token,
        (scene'.IsDispatching session other token ↔ scene.IsDispatching session other token))
  | released (task token : String) (htask : scene.IsDispatching session task token)
      (hkey : scene'.lease session = Lease.released token (scene.lease session))
      (hended : ∀ token, ¬scene'.IsDispatching session task token)
      (hothers : ∀ other, other ≠ task → ∀ token,
        (scene'.IsDispatching session other token ↔ scene.IsDispatching session other token))

/-- There is no dispatched run of a session and its key is as at first; or there was nothing under
the key at first, there is exactly one dispatched run, and its token is there. -/
def IsSingle (session : String) (first : Option Stored) (scene : Scene) : Prop :=
  (scene.lease session = first ∧ ∀ task token, ¬scene.IsDispatching session task token) ∨
    first = none ∧ ∃ task token, scene.lease session = some (.text token true) ∧
      scene.IsDispatching session task token ∧
      ∀ other token', scene.IsDispatching session other token' → other = task

/-- Tasks that are held leave the key of a session's lease alone until they end. -/
def KeepsKey (session : String) (scene : Scene) : Prop :=
  ∀ task role p next, scene.Holds task role p next → ∀ answer f,
    (next answer).Meets (role.call.keyContract session) ⟨some p, f⟩ f

section Steps

variable {crowd : Crowd} {session : String} {scene scene' : Scene}

/-- A task dispatches under one token. -/
theorem token_unique {task token token' : String} (h : scene.IsDispatching session task token)
    (h' : scene.IsDispatching session task token') : token = token' := by
  obtain ⟨role, p, next, hheld, htoken⟩ := h
  obtain ⟨role', p', next', hheld', htoken'⟩ := h'
  obtain rfl : role = role' := hheld.role_eq hheld'.1
  exact Option.some.inj (htoken.symm.trans htoken')

/-- One step of the key keeps a single flight single. -/
theorem IsSingle.keyStep {first : Option Stored} (h : scene.IsSingle session first)
    (hstep : KeyStep session scene scene') : scene'.IsSingle session first := by
  cases hstep with
  | kept hkey htasks =>
      rcases h with ⟨hfirst, hno⟩ | ⟨hfirst, task, token, hheld, htask, honly⟩
      · exact .inl ⟨hkey.trans hfirst, fun task token h => hno task token ((htasks _ _).mp h)⟩
      · exact .inr ⟨hfirst, task, token, hkey.trans hheld, (htasks _ _).mpr htask,
          fun other token' h => honly other token' ((htasks _ _).mp h)⟩
  | taken task token hfree hkey htask hothers =>
      -- The key held nothing, so no other run can have been in progress.
      rcases h with ⟨hfirst, hno⟩ | ⟨-, task', token', hheld, -, -⟩
      · refine .inr ⟨hfirst.symm.trans hfree, task, token, hkey, htask, fun other token' h => ?_⟩
        by_contra hne
        exact hno other token' ((hothers other hne token').mp h)
      · rw [hfree] at hheld
        cases hheld
  | released task token htask hkey hended hothers =>
      -- The run that ended was the only one, and what the key held was its token.
      rcases h with ⟨-, hno⟩ | ⟨hfirst, task', token', hheld, htask', honly⟩
      · exact absurd htask (hno task token)
      · obtain rfl := honly task token htask
        obtain rfl := token_unique htask htask'
        refine .inl ⟨?_, fun other token' h => ?_⟩
        · rw [hkey, hheld, hfirst]
          exact Lease.released_self token
        · by_cases hother : other = task
          · rw [hother] at h
            exact hended token' h
          · exact hother (honly other token' ((hothers other hother token').mp h))

/-- Where a call stands still after it was begun, the key is as its contract asks. -/
theorem settle_key {call : Call} {r : Routine Fleet (Option RunResult)} {o : Origin Fleet}
    {f : Fleet} (hr : r.Meets (call.keyContract session) o f) :
    (∃ p next, (r.settle Fleet.suspend f).1 = .held p next ∧
        (r.settle Fleet.suspend f).2.store.find (Lease.key session) =
          o.state.store.find (Lease.key session) ∧
        ∀ answer g, (next answer).Meets (call.keyContract session) ⟨some p, g⟩ g) ∨
      ∃ result, (r.settle Fleet.suspend f).1 = .ended result ∧
        (r.settle Fleet.suspend f).2.store.find (Lease.key session) =
          call.keyAtEnd session (o.state.store.find (Lease.key session)) := by
  have hsettle := settle_of_meets Fleet.suspend_open hr
  cases hs : r.settle Fleet.suspend f with
  | mk halt g =>
      rw [hs] at hsettle
      cases halt with
      | ended result => exact .inr ⟨result, rfl, hsettle⟩
      | held p next =>
          obtain ⟨u, rfl, hkey, hnext⟩ := hsettle
          exact .inl ⟨p, next, rfl, hkey, fun answer g => hnext answer g trivial⟩

/-- A call is refused, or comes to the start of its program after the key was left alone or, by a
dispatched run of that session, taken when it held nothing. -/
theorem routine_reaches_key (crowd : Crowd) (session name : String) (call : Call) (f : Fleet) :
    Reaches (call.routine (Fleet.stage crowd name) Fleet.storePlace) f (.fail .runInProgress) f ∨
      ∃ program g, Reaches (call.routine (Fleet.stage crowd name) Fleet.storePlace) f
          (call.closing (Fleet.stage crowd name) Fleet.storePlace program) g ∧
        program.Obeys (Fleet.keyRegime session) ∧
        (call.token? session = none ∧
            g.store.find (Lease.key session) = f.store.find (Lease.key session) ∨
          ∃ token, call.token? session = some token ∧
            f.store.find (Lease.key session) = none ∧
            g.store.find (Lease.key session) = some (.text token true)) := by
  have hbears := Fleet.keyRegime_bears session name
  cases hcall : call.program? with
  | none =>
      cases call with
      | invoke command =>
          exact .inr ⟨_, f, .here _ _, Fleet.invoke_obeys hbears.toTends crowd command,
            .inl ⟨rfl, rfl⟩⟩
      | execute run ids => cases hcall
      | dispatch ticket ids => cases hcall
  | some ids =>
      rcases Fleet.routine_reaches crowd hcall f with
        ⟨-, run, store, henters, hreaches⟩ | ⟨-, hrefused⟩
      · refine .inr ⟨_, _, hreaches, Fleet.runProgram_obeys hbears.spans crowd ids, ?_⟩
        cases henters with
        | execute => exact .inl ⟨rfl, rfl⟩
        | @dispatch ticket ids' _ hfree =>
            have hfind := Store.find_put f.store (Lease.key ticket.session)
              (.text ticket.token true) (Lease.key session)
            by_cases hsession : ticket.session = session
            · subst hsession
              exact .inr ⟨ticket.token, if_pos rfl, hfree, hfind.trans (if_pos rfl)⟩
            · have hother : Lease.key session ≠ Lease.key ticket.session :=
                fun h => hsession (Lease.key_injective h).symm
              exact .inl ⟨if_neg hsession, hfind.trans (if_neg hother)⟩
      · exact .inl hrefused

/-- Other tasks dispatch as they did when a task went on. -/
theorem isDispatching_iff_of_ne {task : String}
    (hothers : ∀ other, other ≠ task → ∀ role p next,
      (scene'.Holds other role p next ↔ scene.Holds other role p next)) :
    ∀ other, other ≠ task → ∀ token,
      (scene'.IsDispatching session other token ↔ scene.IsDispatching session other token) := by
  intro other hother token
  constructor
  · rintro ⟨role, p, next, hheld, htoken⟩
    exact ⟨role, p, next, (hothers other hother role p next).mp hheld, htoken⟩
  · rintro ⟨role, p, next, hheld, htoken⟩
    exact ⟨role, p, next, (hothers other hother role p next).mpr hheld, htoken⟩

/-- The key was left alone if one task went on that did and does not dispatch. -/
theorem KeyStep.of_kept {task : String}
    (hothers : ∀ other, other ≠ task → ∀ role p next,
      (scene'.Holds other role p next ↔ scene.Holds other role p next))
    (hkey : scene'.lease session = scene.lease session)
    (htask : ∀ token,
      (scene'.IsDispatching session task token ↔ scene.IsDispatching session task token)) :
    KeyStep session scene scene' := by
  refine .kept hkey fun other token => ?_
  by_cases hother : other = task
  · rw [hother]
    exact htask token
  · exact isDispatching_iff_of_ne hothers other hother token

/-- A task that ended dispatches no more. -/
theorem not_isDispatching_of_ended {task token : String}
    {result : Except Fault (Option RunResult)} (hended : scene.halt? task = some (.ended result)) :
    ¬scene.IsDispatching session task token := by
  rintro ⟨role, p, next, hheld, -⟩
  have hhalt := hheld.2
  rw [hended] at hhalt
  cases hhalt

/-- A task of a call without the lease does not dispatch. -/
theorem not_isDispatching_of_call {task token : String} {role : Role}
    (hrole : scene.roles task = some role) (hcall : role.call.token? session = none) :
    ¬scene.IsDispatching session task token := by
  rintro ⟨role', p, next, hheld, htoken⟩
  obtain rfl : role' = role := hheld.role_eq hrole
  rw [hcall] at htoken
  cases htoken

/-- Other tasks are held as they were when a task was started. -/
theorem holds_start_of_ne (crowd : Crowd) (hcast : scene.IsCast) {task : String} (role : Role)
    (hnew : scene.roles task = none) (other : String) (hother : other ≠ task) (role' : Role)
    (p : Pause) (next : Answer → Routine Fleet (Option RunResult)) :
    (scene.start crowd task role).Holds other role' p next ↔ scene.Holds other role' p next :=
  (holds_advance_of_ne _ _ hother role' p next).trans
    (holds_recast (hcast task hnew) role other role' p next)

/-- A task that was started stands still where its routine does. -/
theorem halt?_start (crowd : Crowd) (scene : Scene) (task : String) (role : Role) :
    (scene.start crowd task role).roles task = some role ∧
      (scene.start crowd task role).halt? task =
        some ((role.call.routine (Fleet.stage crowd role.context) Fleet.storePlace).settle
          Fleet.suspend scene.fleet).1 := by
  refine ⟨Function.update_self _ _ _, ?_⟩
  unfold start
  rw [halt?_advance, if_pos rfl]
  rfl

/-- A task that is refused at its start changes nothing. -/
theorem start_of_refused (task : String) (role : Role)
    (hrefused : Reaches (role.call.routine (Fleet.stage crowd role.context) Fleet.storePlace)
      scene.fleet (.fail .runInProgress) scene.fleet) :
    (scene.start crowd task role).fleet = scene.fleet ∧
      (scene.start crowd task role).Ended task role (.error .runInProgress) := by
  obtain ⟨hrole, hhalt⟩ := halt?_start crowd scene task role
  rw [hrefused.settle_eq] at hhalt
  exact ⟨congrArg Prod.snd hrefused.settle_eq, hrole, hhalt⟩

/-- Where a task stands still after its start, the key is as it was when the task came to its
program, or as it becomes when the task ends. -/
theorem start_key (task : String) (role : Role) {program : Routine Fleet Unit} {f : Fleet}
    (hreaches : Reaches (role.call.routine (Fleet.stage crowd role.context) Fleet.storePlace)
      scene.fleet
      (role.call.closing (Fleet.stage crowd role.context) Fleet.storePlace program) f)
    (hprogram : program.Obeys (Fleet.keyRegime session)) :
    (∃ p next, (scene.start crowd task role).Holds task role p next ∧
        (scene.start crowd task role).lease session = f.store.find (Lease.key session)) ∨
      ∃ result, (scene.start crowd task role).Ended task role result ∧
        (scene.start crowd task role).lease session =
          role.call.keyAtEnd session (f.store.find (Lease.key session)) := by
  obtain ⟨hrole, hhalt⟩ := halt?_start crowd scene task role
  have hlease : (scene.start crowd task role).lease session =
      ((role.call.routine (Fleet.stage crowd role.context) Fleet.storePlace).settle Fleet.suspend
        scene.fleet).2.store.find (Lease.key session) := rfl
  rw [hreaches.settle_eq] at hhalt hlease
  rcases settle_key (Fleet.closing_meets_key crowd hprogram role.call f) with
    ⟨p, next, hpause, hkey, -⟩ | ⟨result, hdone, hkey⟩
  · rw [hpause] at hhalt
    exact .inl ⟨p, next, ⟨hrole, hhalt⟩, hlease.trans hkey⟩
  · rw [hdone] at hhalt
    exact .inr ⟨result, ⟨hrole, hhalt⟩, hlease.trans hkey⟩

/-- Starting a task is one step of the key. -/
theorem KeyStep.start (crowd : Crowd) (session : String) (hcast : scene.IsCast) {task : String}
    (role : Role) (hnew : scene.roles task = none) :
    KeyStep session scene (scene.start crowd task role) := by
  have hothers := holds_start_of_ne crowd hcast role hnew
  have hbefore (token : String) : ¬scene.IsDispatching session task token := by
    rintro ⟨role', p, next, hheld, -⟩
    have hstarted := hheld.1
    rw [hnew] at hstarted
    cases hstarted
  have hkept (hsame : (scene.start crowd task role).lease session = scene.lease session)
      (hafter : ∀ token, ¬(scene.start crowd task role).IsDispatching session task token) :
      KeyStep session scene (scene.start crowd task role) :=
    .of_kept hothers hsame fun token =>
      ⟨fun h => absurd h (hafter token), fun h => absurd h (hbefore token)⟩
  rcases routine_reaches_key crowd session role.context role.call scene.fleet with
    hrefused | ⟨program, g, hreaches, hprogram, hkey⟩
  · obtain ⟨hsame, hended⟩ := start_of_refused task role hrefused
    refine hkept ?_ fun token => not_isDispatching_of_ended hended.2
    unfold lease
    rw [hsame]
  · rcases hkey with ⟨hcall, hsame⟩ | ⟨token, hcall, hfree, htaken⟩
    · have hrole := (halt?_start crowd scene task role).1
      refine hkept ?_ fun token => not_isDispatching_of_call hrole hcall
      rcases start_key task role hreaches hprogram with ⟨p, next, -, hheld⟩ | ⟨result, -, hended⟩
      · exact hheld.trans hsame
      · rw [Call.keyAtEnd, hcall] at hended
        exact hended.trans hsame
    · rcases start_key task role hreaches hprogram with
        ⟨p, next, hholds, hheld⟩ | ⟨result, hdone, hended⟩
      · exact .taken task token hfree (hheld.trans htaken) ⟨role, p, next, hholds, hcall⟩
          (isDispatching_iff_of_ne hothers)
      · -- The run ended at once, and released the key that it had just taken.
        refine hkept ?_ fun token => not_isDispatching_of_ended hdone.2
        rw [Call.keyAtEnd, hcall, htaken] at hended
        exact (hended.trans (Lease.released_self token)).trans hfree.symm

/-- A held task that goes on makes one step of the key. -/
theorem KeyStep.resume (hkeeps : scene.KeepsKey session) {task : String} {role : Role} {p : Pause}
    {next : Answer → Routine Fleet (Option RunResult)} (hheld : scene.Holds task role p next)
    (reply : Answer) : KeyStep session scene (scene.advance task (next reply)) := by
  have hothers : ∀ other, other ≠ task → ∀ role p next',
      ((scene.advance task (next reply)).Holds other role p next' ↔
        scene.Holds other role p next') :=
    fun other hother => holds_advance_of_ne scene (next reply) hother
  have hrole : (scene.advance task (next reply)).roles task = some role := hheld.1
  have hhalt := halt?_advance scene task (next reply) task
  rw [if_pos rfl] at hhalt
  have hlease : (scene.advance task (next reply)).lease session =
      ((next reply).settle Fleet.suspend scene.fleet).2.store.find (Lease.key session) := rfl
  rcases settle_key (hkeeps task role p next hheld reply scene.fleet) with
    ⟨p', next', hpause, hkey, -⟩ | ⟨result, hdone, hkey⟩
  · rw [hpause] at hhalt
    refine .of_kept hothers (hlease.trans hkey) fun token => ?_
    constructor
    · rintro ⟨role', p'', next'', hheld', htoken⟩
      obtain rfl : role' = role := hheld'.role_eq hrole
      exact ⟨role', p, next, hheld, htoken⟩
    · rintro ⟨role', p'', next'', hheld', htoken⟩
      obtain rfl : role' = role := hheld'.role_eq hheld.1
      exact ⟨role', p', next', ⟨hrole, hhalt⟩, htoken⟩
  · rw [hdone] at hhalt
    have hafter (token : String) :
        ¬(scene.advance task (next reply)).IsDispatching session task token :=
      not_isDispatching_of_ended hhalt
    cases hcall : role.call.token? session with
    | none =>
        rw [Call.keyAtEnd, hcall] at hkey
        exact .of_kept hothers (hlease.trans hkey) fun token =>
          ⟨fun h => absurd h (hafter token),
            fun h => absurd h (not_isDispatching_of_call hheld.1 hcall)⟩
    | some token =>
        rw [Call.keyAtEnd, hcall] at hkey
        exact .released task token ⟨role, p, next, hheld, hcall⟩ (hlease.trans hkey) hafter
          (isDispatching_iff_of_ne hothers)

/-- A task that goes on leaves all tasks to their contracts, if it is left to its own. -/
theorem KeepsKey.advance (hkeeps : scene.KeepsKey session) {task : String} {role : Role}
    (hrole : scene.roles task = some role) {r : Routine Fleet (Option RunResult)}
    (hr : ∀ p next, (r.settle Fleet.suspend scene.fleet).1 = .held p next → ∀ answer f,
      (next answer).Meets (role.call.keyContract session) ⟨some p, f⟩ f) :
    (scene.advance task r).KeepsKey session := by
  intro other role' p next hheld
  by_cases hother : other = task
  · subst hother
    obtain ⟨hrole', hhalt⟩ := (holds_advance_self scene other r role' p next).mp hheld
    obtain rfl : role' = role := Option.some.inj (hrole'.symm.trans hrole)
    exact hr p next hhalt
  · exact hkeeps other role' p next ((holds_advance_of_ne scene r hother role' p next).mp hheld)

/-- At the pause at which a call stands still it is left to its contract. -/
theorem held_meets_key {call : Call} {r : Routine Fleet (Option RunResult)} {o : Origin Fleet}
    {f : Fleet} (hr : r.Meets (call.keyContract session) o f) {p : Pause}
    {next : Answer → Routine Fleet (Option RunResult)}
    (hheld : (r.settle Fleet.suspend f).1 = .held p next) (answer : Answer) (g : Fleet) :
    (next answer).Meets (call.keyContract session) ⟨some p, g⟩ g := by
  rcases settle_key hr with ⟨p', next', hpause, -, hnext⟩ | ⟨result, hdone, -⟩
  · rw [hpause] at hheld
    cases hheld
    exact hnext answer g
  · rw [hdone] at hheld
    cases hheld

/-- A task that is started is left to its contract. -/
theorem KeepsKey.start (crowd : Crowd) (hkeeps : scene.KeepsKey session) (hcast : scene.IsCast)
    {task : String} (role : Role) (hnew : scene.roles task = none) :
    (scene.start crowd task role).KeepsKey session := by
  have hrecast : (scene.recast task role).KeepsKey session := fun other role' p next hheld =>
    hkeeps other role' p next ((holds_recast (hcast task hnew) role other role' p next).mp hheld)
  refine hrecast.advance (Function.update_self _ _ _) fun p next hheld answer f => ?_
  rcases routine_reaches_key crowd session role.context role.call scene.fleet with
    hrefused | ⟨program, g, hreaches, hprogram, -⟩
  · change (Routine.settle Fleet.suspend _ scene.fleet).1 = _ at hheld
    rw [hrefused.settle_eq] at hheld
    cases hheld
  · change (Routine.settle Fleet.suspend _ scene.fleet).1 = _ at hheld
    rw [hreaches.settle_eq] at hheld
    exact held_meets_key (Fleet.closing_meets_key crowd hprogram role.call g) hheld answer f

/-- Whatever an operation does, tasks that are held leave the key alone until they end. -/
theorem KeepsKey.takes (hkeeps : scene.KeepsKey session) (hcast : scene.IsCast) {op : Operation}
    (htakes : scene.Takes crowd op scene') : scene'.KeepsKey session := by
  cases htakes with
  | nothing => exact hkeeps
  | started role hnew => exact hkeeps.start crowd hcast role hnew
  | resumed hheld reply =>
      obtain ⟨role, hholds⟩ := hcast.holds hheld
      have hmeets := hkeeps _ role _ _ hholds reply scene.fleet
      exact hkeeps.advance hholds.1 fun p next hheld => held_meets_key hmeets hheld
  | placed hidle hcell => exact hkeeps
  | edited catalog => exact hkeeps
  | stored hkey store hothers => exact hkeeps

/-- An operation that is not somebody else's write to the key is one step of the key. -/
theorem KeyStep.of_takes (hkeeps : scene.KeepsKey session) (hcast : scene.IsCast) {op : Operation}
    (hop : op.key? ≠ some (Lease.key session)) (htakes : scene.Takes crowd op scene') :
    KeyStep session scene scene' := by
  cases htakes with
  | nothing => exact .kept rfl fun _ _ => Iff.rfl
  | started role hnew => exact .start crowd session hcast role hnew
  | resumed hheld reply =>
      obtain ⟨role, hholds⟩ := hcast.holds hheld
      exact .resume hkeeps hholds reply
  | placed hidle hcell => exact .kept rfl fun _ _ => Iff.rfl
  | edited catalog => exact .kept rfl fun _ _ => Iff.rfl
  | stored hkey store hothers =>
      refine .kept (hothers _ fun heq => hop ?_) fun _ _ => Iff.rfl
      rw [hkey, heq]

end Steps

/-! ## Histories -/

section Histories

variable (crowd : Crowd) (setups : String → Setup) (store : Store)

/-- In the beginning no task is held, so all of them leave the key alone. -/
theorem keepsKey_fresh (session : String) : (Scene.fresh setups store).KeepsKey session := by
  intro task role p next hheld
  cases hheld.1

/-- In the beginning nobody holds a run. -/
theorem isSingle_fresh (session : String) :
    (Scene.fresh setups store).IsSingle session (store.find (Lease.key session)) := by
  refine .inl ⟨rfl, ?_⟩
  rintro task token ⟨role, p, next, hheld, -⟩
  cases hheld.1

/-- After every history all tasks that are held leave the key alone until they end. -/
theorem keepsKey_after (session : String) (history : List Operation) :
    ((Scene.fresh setups store).after crowd history).IsCast ∧
      ((Scene.fresh setups store).after crowd history).KeepsKey session := by
  refine always_of_takes (P := fun scene => scene.IsCast ∧ scene.KeepsKey session) ?_ ?_ history
  · exact ⟨isCast_fresh setups store, keepsKey_fresh setups store session⟩
  · rintro scene op scene' ⟨hcast, hkeeps⟩ htakes
    exact ⟨hcast.takes htakes, hkeeps.takes hcast htakes⟩

/-- If nobody else writes to the key, then there is never more than one dispatched run. -/
theorem isSingle_of_undisturbed {session : String} {first : Option Stored} {scene : Scene}
    (hcast : scene.IsCast) (hkeeps : scene.KeepsKey session)
    (hsingle : scene.IsSingle session first) (history : List Operation)
    (hhistory : ∀ op ∈ history, op.key? ≠ some (Lease.key session)) :
    (scene.after crowd history).IsSingle session first := by
  -- Every step needs that held tasks leave the key alone, so this is carried along.
  induction history generalizing scene with
  | nil => exact hsingle
  | cons op rest ih =>
      have htakes := step_takes crowd scene op
      have hstep : KeyStep session scene (scene.step crowd op) :=
        .of_takes hkeeps hcast (hhistory op List.mem_cons_self) htakes
      exact ih (hcast.takes htakes) (hkeeps.takes hcast htakes) (hsingle.keyStep hstep)
        fun other hother => hhistory other (List.mem_cons_of_mem op hother)

end Histories

/-! ## What becomes of a dispatched run -/

/-- A dispatched run that is started is let in: its context is idle and nothing is under the key
of its session.  It puts its token there and comes to its program, with nothing else of the store
changed.  Where it is held first its token is under the key, and if it has ended already, then the
key is free again. -/
structure LetsIn (crowd : Crowd) (scene : Scene) (task name : String) (ticket : Ticket)
    (ids : List Phrase) (scene' : Scene) : Prop where
  idle : (scene.fleet.contexts name).phase = .idle
  free : scene.lease ticket.session = none
  comes : ∃ store, (∀ key, store.find key = if key = Lease.key ticket.session then
      some (.text ticket.token true) else scene.fleet.store.find key) ∧
    Reaches ((Call.dispatch ticket ids).routine (Fleet.stage crowd name) Fleet.storePlace)
      scene.fleet
      ((Call.dispatch ticket ids).closing (Fleet.stage crowd name) Fleet.storePlace
        ((Fleet.stage crowd name).runProgram ids))
      (({ scene.fleet with store } : Fleet).begun name ticket.run ids)
  stands : scene'.lease ticket.session = some (.text ticket.token true) ∧
      scene'.IsDispatching ticket.session task ticket.token ∨
    scene'.lease ticket.session = none ∧
      ∃ result, scene'.Ended task ⟨name, .dispatch ticket ids⟩ result

/-- A dispatched run that is started is turned away: its context is running or something is under
the key of its session.  It fails at once, and nothing is changed. -/
structure TurnsAway (scene : Scene) (task name : String) (ticket : Ticket) (ids : List Phrase)
    (scene' : Scene) : Prop where
  cause : (scene.fleet.contexts name).phase = .running ∨ scene.lease ticket.session ≠ none
  same : scene'.fleet = scene.fleet
  ended : scene'.Ended task ⟨name, .dispatch ticket ids⟩ (.error .runInProgress)

section Runs

variable {crowd : Crowd} {scene : Scene} {session task : String}

/-- A dispatched run is let in if its context is idle and the key of its session is free. -/
theorem letsIn_start {name : String} {ticket : Ticket} (ids : List Phrase)
    (hidle : (scene.fleet.contexts name).phase = .idle)
    (hfree : scene.lease ticket.session = none) :
    LetsIn crowd scene task name ticket ids
      (scene.start crowd task ⟨name, .dispatch ticket ids⟩) := by
  have hclaim := Store.claim?_of_find_eq_none ticket.token hfree
  have hfind (key : String) := Store.find_put scene.fleet.store (Lease.key ticket.session)
    (.text ticket.token true) key
  have hreaches := Fleet.dispatch_reaches crowd hidle hclaim ids
  have hbears := Fleet.keyRegime_bears ticket.session name
  have hprogram := Fleet.runProgram_obeys hbears.spans crowd ids
  have htaken := (hfind (Lease.key ticket.session)).trans (if_pos rfl)
  refine ⟨hidle, hfree, ⟨_, hfind, hreaches⟩, ?_⟩
  rcases start_key task ⟨name, .dispatch ticket ids⟩ hreaches hprogram with
    ⟨p, next, hholds, hheld⟩ | ⟨result, hdone, hended⟩
  · exact .inl ⟨hheld.trans htaken, _, p, next, hholds, if_pos rfl⟩
  · refine .inr ⟨hended.trans ?_, result, hdone⟩
    rw [Call.keyAtEnd_dispatch, if_pos rfl]
    exact (congrArg _ htaken).trans (Lease.released_self ticket.token)

/-- A dispatched run is turned away if its context is running or the key of its session is not
free. -/
theorem turnsAway_start {name : String} {ticket : Ticket} (ids : List Phrase)
    (hcause : (scene.fleet.contexts name).phase = .running ∨
      scene.lease ticket.session ≠ none) :
    TurnsAway scene task name ticket ids
      (scene.start crowd task ⟨name, .dispatch ticket ids⟩) := by
  have hrefused : Reaches ((Call.dispatch ticket ids).routine (Fleet.stage crowd name)
      Fleet.storePlace) scene.fleet (.fail .runInProgress) scene.fleet := by
    rcases hcause with hrunning | hheld
    · exact Stage.call_of_running hrunning (Option.some_ne_none ids)
    · have hclaim : scene.fleet.store.claim? (Lease.key ticket.session) ticket.token = none :=
        Store.claim?_of_find_ne_none ticket.token hheld
      exact Stage.dispatch_of_held hclaim ids
  obtain ⟨hsame, hended⟩ := start_of_refused task ⟨name, .dispatch ticket ids⟩ hrefused
  exact ⟨hcause, hsame, hended⟩

/-- A dispatched run that goes on either is held again and has left the key of its session alone,
or has ended and has deleted what is under the key if it is its token. -/
theorem lease_resume (hkeeps : scene.KeepsKey session) {role : Role} {p : Pause}
    {next : Answer → Routine Fleet (Option RunResult)} (hheld : scene.Holds task role p next)
    {token : String} (htoken : role.call.token? session = some token) (reply : Answer) :
    (scene.advance task (next reply)).lease session = scene.lease session ∧
        (scene.advance task (next reply)).IsDispatching session task token ∨
      (scene.advance task (next reply)).lease session =
          Lease.released token (scene.lease session) ∧
        ∃ result, (scene.advance task (next reply)).Ended task role result := by
  have hhalt := halt?_advance scene task (next reply) task
  rw [if_pos rfl] at hhalt
  rcases settle_key (hkeeps task role p next hheld reply scene.fleet) with
    ⟨p', next', hpause, hkey, -⟩ | ⟨result, hdone, hkey⟩
  · rw [hpause] at hhalt
    exact .inl ⟨hkey, role, p', next', ⟨hheld.1, hhalt⟩, htoken⟩
  · rw [hdone] at hhalt
    rw [Call.keyAtEnd, htoken] at hkey
    exact .inr ⟨hkey, result, hheld.1, hhalt⟩

end Runs

/-- Dispatched runs of a session exclude each other.  After every history, whatever others wrote
to the key of its lease: a dispatched run that is started is let in, with its token under the key
that was free, or is turned away with nothing changed; one that goes on leaves the key alone until
it ends, in whichever way, and then deletes what is there if it is its token; and nothing else
that is done, but for what others write, changes the key.  If nobody else wrote to the key, then
there is at most one dispatched run, and the key holds its token, or what it held at first if
there is none. -/
theorem singleFlight_after (crowd : Crowd) (setups : String → Setup) (store : Store)
    (history : List Operation) (session : String) :
    let scene := (Scene.fresh setups store).after crowd history
    (∀ task name ticket ids, scene.roles task = none → ticket.session = session →
        let scene' := scene.step crowd (.launch task ⟨name, .dispatch ticket ids⟩)
        LetsIn crowd scene task name ticket ids scene' ∨
          TurnsAway scene task name ticket ids scene') ∧
      (∀ task role p next token reply, scene.Holds task role p next →
        role.call.token? session = some token →
        let scene' := scene.step crowd (.answer task reply)
        scene'.lease session = scene.lease session ∧ scene'.IsDispatching session task token ∨
          scene'.lease session = Lease.released token (scene.lease session) ∧
            ∃ result, scene'.Ended task role result) ∧
      (∀ op, op.key? ≠ some (Lease.key session) →
        KeyStep session scene (scene.step crowd op)) ∧
      ((∀ op ∈ history, op.key? ≠ some (Lease.key session)) →
        scene.IsSingle session (store.find (Lease.key session))) := by
  intro scene
  obtain ⟨hcast, hkeeps⟩ : scene.IsCast ∧ scene.KeepsKey session :=
    keepsKey_after crowd setups store session history
  refine ⟨?_, ?_, ?_, ?_⟩
  · intro task name ticket ids hnew hsession
    subst hsession
    have hstep : scene.step crowd (.launch task ⟨name, .dispatch ticket ids⟩) =
        scene.start crowd task ⟨name, .dispatch ticket ids⟩ := by
      simp only [step, hnew]
    rw [hstep]
    cases hphase : (scene.fleet.contexts name).phase with
    | running => exact .inr (turnsAway_start ids (.inl hphase))
    | idle =>
        by_cases hfree : scene.lease ticket.session = none
        · exact .inl (letsIn_start ids hphase hfree)
        · exact .inr (turnsAway_start ids (.inr hfree))
  · intro task role p next token reply hheld htoken
    rw [step_answer_of_held hheld.2]
    exact lease_resume hkeeps hheld htoken reply
  · exact fun op hop => .of_takes hkeeps hcast hop (step_takes crowd scene op)
  · exact isSingle_of_undisturbed crowd (isCast_fresh setups store)
      (keepsKey_fresh setups store session) (isSingle_fresh setups store session) history

/-- The second of two dispatched runs of a session is turned away, on whichever context, and the
first one stays the only one. -/
theorem singleFlight_after_refused :
    let history : List Operation := [
      .launch "t" ⟨"a", .dispatch ⟨"s", "x", .ofNat 0⟩ ["moveForward"]⟩]
    let scene := (Scene.fresh (fun _ => {}) {}).after .quiet history
    scene.lease "s" = some (.text "x" true) ∧ scene.IsSingle "s" none ∧
      TurnsAway scene "u" "b" ⟨"s", "y", .ofNat 1⟩ []
        (scene.step .quiet (.launch "u" ⟨"b", .dispatch ⟨"s", "y", .ofNat 1⟩ []⟩)) := by
  intro history scene
  have hheld : scene.lease "s" = some (.text "x" true) := by decide
  have hflight := singleFlight_after .quiet (fun _ => {}) {} history "s"
  have hundisturbed : ∀ op ∈ history, op.key? ≠ some (Lease.key "s") := by
    simp [history, Operation.key?]
  refine ⟨hheld, hflight.2.2.2 hundisturbed, ?_⟩
  rcases hflight.1 "u" "b" ⟨"s", "y", .ofNat 1⟩ [] rfl rfl with hin | haway
  · have hfree := hin.free
    change scene.lease "s" = none at hfree
    rw [hheld] at hfree
    cases hfree
  · exact haway

end Scene

end Gridwalk
