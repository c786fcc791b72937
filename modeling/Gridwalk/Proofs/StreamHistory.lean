import Gridwalk.Proofs.Presence
import Gridwalk.Proofs.Publication
import Mathlib.Data.List.Induction

/-!
# A stream is the history of finished runs

The dispatched runs of a session that have ended with a result are `Scene.returned`, in the order
in which they ended; one operation adds at most one of them, at the end (`Scene.Grows`).  If
nobody else writes to the stream of the session, and nothing but runs is started, then the stream
consists of the events of these results after every history, one entry for each event
(`Scene.chronicled_after`).

A run that is held recounts itself in its context, which nobody else changes meanwhile
(`Scene.recounts_takes`), and no stream ever comes under the key of its lease.
-/

set_option autoImplicit false

namespace Gridwalk

/-- Where a call stands still that went on, compared with the store from which it went on. -/
def Call.Lands (session name : String) (call : Call) (before : Store) :
    Halt Fleet (Option RunResult) × Fleet → Prop
  | (.held p next, f) =>
      f.store.find (Journal.streamKey session) = before.find (Journal.streamKey session) ∧
        call.Fits name f ∧ ∀ answer g, call.Fits name g →
          (next answer).Meets (call.streamContract session name) ⟨some p, g⟩ g
  | (.ended result, f) => call.Posts session before result f.store

/-- Only the stream matters of the store from which a call went on. -/
theorem Call.Lands.congr {session name : String} {call : Call} {before other : Store}
    {halt : Halt Fleet (Option RunResult) × Fleet} (h : call.Lands session name before halt)
    (hfind : before.find (Journal.streamKey session) = other.find (Journal.streamKey session)) :
    call.Lands session name other halt := by
  obtain ⟨_ | ⟨p, next⟩, f⟩ := halt
  · exact ⟨h.complete, fun old hold => h.stream old ((Store.stream_congr hfind).trans hold)⟩
  · exact ⟨h.1.trans hfind, h.2⟩

namespace Scene

open Routine

/-- The result that a task has published on the stream of a session. -/
def report? (session : String) (scene : Scene) (task : String) : Option RunResult :=
  match scene.roles task, scene.halt? task with
  | some role, some (.ended result) => role.call.report? session result
  | _, _ => none

/-- The results of the dispatched runs of a session, in the order in which these ended. -/
def returned (session : String) (scene : Scene) : List RunResult :=
  scene.schedule.tasks.filterMap fun task => scene.report? session task.name

/-- At most one result is added, at the end: that of a task which had none before. -/
structure Grows (session : String) (scene scene' : Scene) : Prop where
  kept : ∀ task r, scene.report? session task = some r → scene'.report? session task = some r
  added : ∃ new : Option RunResult,
    scene'.returned session = scene.returned session ++ new.toList ∧
      ∀ r, new = some r ↔ ∃ task, scene.report? session task = none ∧
        scene'.report? session task = some r

/-- What is always true of a scene about the stream of a session: only runs were started, those
that are held are as is asked of them, and the stream consists of the events of what was
returned. -/
structure Chronicled (session : String) (scene : Scene) : Prop where
  runs : ∀ task role, scene.roles task = some role → role.call.program? ≠ none
  tasks : ∀ task role p next, scene.Holds task role p next →
    role.call.Fits role.context scene.fleet ∧ ∀ answer f, role.call.Fits role.context f →
      (next answer).Meets (role.call.streamContract session role.context) ⟨some p, f⟩ f
  complete : ∀ r ∈ scene.returned session, ∃ ids, r.IsComplete ids
  stream : ∃ lines, ((scene.returned session).flatMap RunResult.events).mapM Event.fields =
      .ok lines ∧
    scene.fleet.store.stream (Journal.streamKey session) = .ok lines

section Returned

variable {session task : String} {scene scene' : Scene} {role : Role}
  (r : Routine Fleet (Option RunResult))

/-- A task that goes on leaves the reports of the others alone. -/
theorem report?_advance_of_ne {other : String} (hother : other ≠ task) :
    (scene.advance task r).report? session other = scene.report? session other := by
  unfold report?
  rw [halt?_advance, if_neg hother]
  rfl

/-- A task that goes on reports what it published, once it ended. -/
theorem report?_advance_self (hrole : scene.roles task = some role) :
    (scene.advance task r).report? session task =
      match (r.settle Fleet.suspend scene.fleet).1 with
      | .ended result => role.call.report? session result
      | .held _ _ => none := by
  have hroles : (scene.advance task r).roles task = some role := hrole
  unfold report?
  rw [halt?_advance, if_pos rfl, hroles]
  cases (r.settle Fleet.suspend scene.fleet).1 <;> rfl

/-- A task that goes on comes last, with what it now reports. -/
theorem returned_advance (hnone : scene.report? session task = none) :
    (scene.advance task r).returned session =
      scene.returned session ++ ((scene.advance task r).report? session task).toList := by
  have htasks : (scene.advance task r).schedule.tasks =
      (scene.schedule.tasks.filter fun other => other.name != task) ++
        [⟨task, (r.settle Fleet.suspend scene.fleet).1⟩] := rfl
  have hothers (tasks : List (Task Fleet (Option RunResult))) :
      ((tasks.filter fun other => other.name != task).filterMap fun other =>
          (scene.advance task r).report? session other.name) =
        tasks.filterMap fun other => scene.report? session other.name := by
    induction tasks with
    | nil => rfl
    | cons other rest ih =>
        by_cases hother : other.name = task
        · rw [List.filter_cons_of_neg (by simpa using hother), ih, List.filterMap_cons_none]
          rw [hother]
          exact hnone
        · rw [List.filter_cons_of_pos (by simpa using hother), List.filterMap_cons,
            List.filterMap_cons, ih, report?_advance_of_ne r hother]
  unfold returned
  rw [htasks, List.filterMap_append, hothers]
  cases h : (scene.advance task r).report? session task with
  | none => simp [h]
  | some result => simp [h]

/-- A task that did not start has no report. -/
theorem report?_of_not_started (hnew : scene.roles task = none) :
    scene.report? session task = none := by
  unfold report?
  rw [hnew]

/-- A task that is held has no report. -/
theorem report?_of_held {p : Pause} {next : Answer → Routine Fleet (Option RunResult)}
    (hheld : scene.halt? task = some (.held p next)) : scene.report? session task = none := by
  unfold report?
  rw [hheld]
  cases scene.roles task <;> rfl

/-- A role that is given to a task that was not started is no report. -/
theorem report?_recast (hnew : scene.halt? task = none) (role : Role) (other : String) :
    (scene.recast task role).report? session other = scene.report? session other := by
  have hhalt : (scene.recast task role).halt? other = scene.halt? other := rfl
  by_cases hother : other = task
  · subst hother
    unfold report?
    rw [hhalt, hnew]
    cases (scene.recast other role).roles other <;> cases scene.roles other <;> rfl
  · have hroles : (scene.recast task role).roles other = scene.roles other :=
      Function.update_of_ne hother _ _
    unfold report?
    rw [hhalt, hroles]

/-- A role that is given to a task that was not started returns no result. -/
theorem returned_recast (hnew : scene.halt? task = none) (role : Role) :
    (scene.recast task role).returned session = scene.returned session := by
  unfold returned
  simp only [report?_recast hnew]
  rfl

/-- Nothing is added if nothing else is reported. -/
theorem Grows.of_same (hreport : ∀ task, scene'.report? session task = scene.report? session task)
    (hreturned : scene'.returned session = scene.returned session) :
    Grows session scene scene' where
  kept task r h := (hreport task).trans h
  added := by
    refine ⟨none, by simpa using hreturned, fun r => ⟨nofun, ?_⟩⟩
    rintro ⟨task, hnone, hsome⟩
    rw [hreport, hnone] at hsome
    cases hsome

/-- What a task reports when it goes on is added. -/
theorem Grows.advance (hnone : scene.report? session task = none) :
    Grows session scene (scene.advance task r) where
  kept other result h := by
    have hother : other ≠ task := by
      rintro rfl
      rw [hnone] at h
      cases h
    rw [report?_advance_of_ne r hother]
    exact h
  added := by
    refine ⟨_, returned_advance r hnone, fun result => ⟨fun h => ⟨task, hnone, h⟩, ?_⟩⟩
    rintro ⟨other, hbefore, hafter⟩
    by_cases hother : other = task
    · rw [hother] at hafter
      exact hafter
    · rw [report?_advance_of_ne r hother, hbefore] at hafter
      cases hafter

/-- Whatever an operation does adds at most one result. -/
theorem Grows.takes {crowd : Crowd} (hcast : scene.IsCast) (session : String) {op : Operation}
    (htakes : scene.Takes crowd op scene') : Grows session scene scene' := by
  cases htakes with
  | nothing => exact .of_same (fun _ => rfl) rfl
  | @started task role hnew =>
      have hhalt := hcast _ hnew
      have hnone : (scene.recast task role).report? session task = none :=
        (report?_recast hhalt role _).trans (report?_of_not_started hnew)
      have hgrows := Grows.advance
        (role.call.routine (Fleet.stage crowd role.context) Fleet.storePlace) hnone
      refine ⟨fun task r h => hgrows.kept task r ((report?_recast hhalt role task).trans h), ?_⟩
      have hadded := hgrows.added
      simp only [returned_recast hhalt, report?_recast hhalt] at hadded
      exact hadded
  | resumed hheld reply => exact .advance _ (report?_of_held hheld)
  | placed hidle hcell => exact .of_same (fun _ => rfl) rfl
  | edited catalog => exact .of_same (fun _ => rfl) rfl
  | stored hkey store hothers => exact .of_same (fun _ => rfl) rfl

end Returned

/-! ## What is left alone -/

section Others

variable {crowd : Crowd} {session task : String} {scene scene' : Scene} {role : Role} {p : Pause}
  {next : Answer → Routine Fleet (Option RunResult)}

/-- While a run is held another run that is started leaves its context alone. -/
theorem contexts_start_of_running (hrunning : (scene.fleet.contexts role.context).phase = .running)
    (other : String) {role' : Role} (hrun : role'.call.program? ≠ none) :
    (scene.start crowd other role').fleet.contexts role.context =
      scene.fleet.contexts role.context := by
  by_cases hname : role.context = role'.context
  · obtain ⟨ids, hids⟩ := Option.ne_none_iff_exists'.mp hrun
    rw [hname] at hrunning
    rcases @Fleet.routine_reaches role'.context crowd _ ids hids scene.fleet with
      ⟨hidle, -⟩ | ⟨-, hrefused⟩
    · rw [hrunning] at hidle
      cases hidle
    · rw [(start_of_refused other role' hrefused).1]
  · show ((scene.recast other role').advance other _).fleet.contexts _ =
      (scene.recast other role').fleet.contexts _
    exact contexts_advance_of_ne other (Fleet.routine_meets crowd role'.call scene.fleet) hname

/-- A run that is held is recounted until it goes on itself. -/
theorem recounts_takes (hsound : scene.Sound crowd)
    (hruns : ∀ task role, scene.roles task = some role → role.call.program? ≠ none)
    (hheld : scene.Holds task role p next) {op : Operation}
    (hlaunch : ∀ other role', op = .launch other role' → role'.call.program? ≠ none)
    (hstays : ∀ reply, op ≠ .answer task reply) (htakes : scene.Takes crowd op scene')
    {run : RunId} {ids : List Phrase}
    (h : Fleet.Recounts role.context run ids scene.fleet) :
    Fleet.Recounts role.context run ids scene'.fleet := by
  have hrun := hruns task role hheld.1
  have hrunning := (hsound.2 role.context).running_of_runs ⟨role, p, next, hheld, rfl, hrun⟩
  cases htakes with
  | nothing => exact h
  | started role' hnew =>
      exact h.of_context (contexts_start_of_running hrunning _ (hlaunch _ role' rfl))
  | @resumed other p' next' hheld' reply =>
      obtain ⟨role', hholds⟩ := hsound.1.holds hheld'
      -- Only one task holds a run on the context, and it is another one that goes on.
      have hname : role.context ≠ role'.context := by
        intro hname
        have hsame := (hsound.2 role.context).alone task other ⟨role, p, next, hheld, rfl, hrun⟩
          ⟨role', p', next', hholds, hname.symm, hruns other role' hholds.1⟩
        exact hstays reply (by rw [hsame])
      obtain ⟨-, -, hmeets⟩ := (hsound.2 role'.context).tasks other role' p' next' hholds rfl
      exact h.of_context (contexts_advance_of_ne other
        (hmeets reply scene.fleet (rely_refl _ _ _)) hname)
  | placed hidle hcell =>
      refine h.of_context (Fleet.contexts_showActor_of_ne _ _ _ _ fun hname => ?_)
      rw [hname, hidle] at hrunning
      cases hrunning
  | @edited context _ _ _ catalog =>
      by_cases hname : role.context = context
      · rw [hname] at h ⊢
        exact h.of_same (by simp) (by simpa using h.plain) (by simp)
      · have hsame := Fleet.contexts_alter_of_ne scene.fleet context role.context
          (fun c => { c with catalog }) hname
        exact h.of_context hsame
  | stored hkey store hothers => exact h.of_context rfl

/-- No stream comes under the key of a lease: what runs put there is a text, and so is what others
write. -/
theorem lease_step_ne_stream (hcast : scene.IsCast) (hkeeps : scene.KeepsKey session)
    (h : ∀ entries, scene.lease session ≠ some (.stream entries)) (op : Operation)
    (entries : List Fields) : (scene.step crowd op).lease session ≠ some (.stream entries) := by
  by_cases hop : op.key? = some (Lease.key session)
  · cases op with
    | write key value =>
        obtain rfl : key = Lease.key session := Option.some.inj hop
        have hlease : (scene.step crowd (.write (Lease.key session) value)).lease session =
            some (.text value false) := (Store.find_put _ _ _ _).trans (if_pos rfl)
        rw [hlease]
        exact nofun
    | erase key =>
        obtain rfl : key = Lease.key session := Option.some.inj hop
        have hlease : (scene.step crowd (.erase (Lease.key session))).lease session = none :=
          (Store.find_erase _ _ _).trans (if_pos rfl)
        rw [hlease]
        exact nofun
    | launch task role => cases hop
    | answer task reply => cases hop
    | reset context x y angle => cases hop
    | edit context id edit guarded => cases hop
  · cases KeyStep.of_takes hkeeps hcast hop (step_takes crowd scene op) with
    | kept hkey htasks =>
        rw [hkey]
        exact h entries
    | taken task token hfree hkey htask hothers =>
        rw [hkey]
        exact nofun
    | released task token htask hkey hended hothers =>
        rw [hkey]
        cases hlease : scene.lease session with
        | none => exact nofun
        | some stored =>
            cases stored with
            | stream entries' => exact absurd hlease (h entries')
            | text value expires =>
                show (if value = token then none else some _) ≠ _
                split <;> exact nofun

end Others

/-! ## Histories -/

section Histories

variable {crowd : Crowd} {session task : String} {scene : Scene} {role : Role}
  {r : Routine Fleet (Option RunResult)}

/-- Where a call stands still it is as its contract asks. -/
theorem settle_lands {name : String} {call : Call} {o : Origin Fleet} {f : Fleet}
    (hr : r.Meets (call.streamContract session name) o f) :
    call.Lands session name o.state.store (r.settle Fleet.suspend f) := by
  have hsettle := settle_of_meets Fleet.suspend_open hr
  cases hs : r.settle Fleet.suspend f with
  | mk halt g =>
      rw [hs] at hsettle
      cases halt with
      | ended result => exact hsettle
      | held p next =>
          obtain ⟨u, rfl, ⟨hfind, hfits⟩, hnext⟩ := hsettle
          exact ⟨hfind, hfits.of_recounts rfl fun _ _ h => h.of_context rfl, hnext⟩

/-- A call that is started lands as its contract asks. -/
theorem routine_lands (crowd : Crowd) (session name : String) {call : Call}
    (hcall : call.program? ≠ none) {f : Fleet}
    (hplain : (f.contexts name).actor.value.foreign = []) :
    call.Lands session name f.store
      ((call.routine (Fleet.stage crowd name) Fleet.storePlace).settle Fleet.suspend f) := by
  rcases Fleet.routine_reaches_stream crowd session hcall hplain with
    hrefused | ⟨ids, g, hreaches, hfind, hfits⟩
  · rw [hrefused.settle_eq]
    refine Call.posts_of_report?_eq_none ?_ rfl
    cases call <;> rfl
  · rw [hreaches.settle_eq]
    have hprogram := Fleet.runProgram_obeys (Fleet.fitRegime_spans name call) crowd ids
    exact (settle_lands (Fleet.closing_meets_stream crowd session call hprogram hfits none)).congr
      hfind

/-- A task that goes on adds what it reports to the stream. -/
theorem Chronicled.advance (h : scene.Chronicled session) (hrole : scene.roles task = some role)
    (hnone : scene.report? session task = none)
    (hlands : role.call.Lands session role.context scene.fleet.store
      (r.settle Fleet.suspend scene.fleet))
    (hothers : ∀ other role' p next, other ≠ task → scene.Holds other role' p next →
      role'.call.Fits role'.context (scene.advance task r).fleet) :
    (scene.advance task r).Chronicled session := by
  have hreturned := returned_advance r hnone
  have hreport : (scene.advance task r).report? session task = _ := report?_advance_self r hrole
  have hfleet := fleet_advance scene task r
  have hself := holds_advance_self scene task r
  obtain ⟨lines, hlines, hstream⟩ := h.stream
  cases hs : r.settle Fleet.suspend scene.fleet with
  | mk halt g =>
  rw [hs] at hlands hreport hfleet hself
  change (scene.advance task r).fleet = g at hfleet
  refine ⟨h.runs, fun other role' p next hheld => ?_, ?_, ?_⟩
  -- The task that goes on is as its contract asks, and the others are as before.
  · by_cases hother : other = task
    · subst hother
      obtain ⟨hrole', rfl⟩ := (hself role' p next).mp hheld
      obtain rfl : role' = role := Option.some.inj (hrole'.symm.trans hrole)
      rw [hfleet]
      exact hlands.2
    · have hbefore := (holds_advance_of_ne scene r hother role' p next).mp hheld
      exact ⟨hothers other role' p next hother hbefore, (h.tasks other role' p next hbefore).2⟩
  · intro result hresult
    rw [hreturned, List.mem_append, Option.mem_toList] at hresult
    rcases hresult with hold | hnew
    · exact h.complete result hold
    · rw [hreport] at hnew
      cases halt with
      | held p next => cases hnew
      | ended outcome => exact hlands.complete result hnew
  · rw [hreturned, hreport, hfleet, List.flatMap_append]
    cases halt with
    | held p next =>
        refine ⟨lines, by simpa using hlines, ?_⟩
        rw [Store.stream_congr hlands.1, hstream]
    | ended outcome =>
        obtain ⟨more, hmore, hstream'⟩ := hlands.stream lines hstream
        refine ⟨lines ++ more, (mapM_eq_ok_iff _ _ _).mpr ?_, hstream'⟩
        exact List.rel_append ((mapM_eq_ok_iff _ _ _).mp hlines) ((mapM_eq_ok_iff _ _ _).mp hmore)

/-- Whatever an operation does, a run that is held and does not go on itself is as is asked of
it. -/
theorem Chronicled.fits_step (h : scene.Chronicled session) (hsound : scene.Sound crowd)
    (hkeeps : ∀ session, scene.KeepsKey session) {op : Operation}
    (hlaunch : ∀ other role', op = .launch other role' → role'.call.program? ≠ none)
    {p : Pause} {next : Answer → Routine Fleet (Option RunResult)}
    (hheld : scene.Holds task role p next) (hstays : ∀ reply, op ≠ .answer task reply) :
    role.call.Fits role.context (scene.step crowd op).fleet := by
  have hfits := (h.tasks task role p next hheld).1
  have hrecounts (run : RunId) (ids : List Phrase) :
      Fleet.Recounts role.context run ids scene.fleet →
        Fleet.Recounts role.context run ids (scene.step crowd op).fleet :=
    recounts_takes hsound h.runs hheld hlaunch hstays (step_takes crowd scene op)
  unfold Call.Fits at hfits ⊢
  cases hcall : role.call with
  | execute run ids =>
      rw [hcall] at hfits
      exact hrecounts run ids hfits
  | dispatch ticket ids =>
      rw [hcall] at hfits
      exact ⟨hrecounts _ ids hfits.1,
        lease_step_ne_stream hsound.1 (hkeeps ticket.session) hfits.2 op⟩
  | invoke command => exact trivial

/-- Changes of the fleet that leave the stream alone and the runs that are held. -/
theorem Chronicled.steer (h : scene.Chronicled session) {f : Fleet}
    (hfind : f.store.find (Journal.streamKey session) =
      scene.fleet.store.find (Journal.streamKey session))
    (hfits : ∀ task role p next, scene.Holds task role p next →
      role.call.Fits role.context f) :
    ({ scene with fleet := f } : Scene).Chronicled session where
  runs := h.runs
  tasks task role p next hheld :=
    ⟨hfits task role p next hheld, (h.tasks task role p next hheld).2⟩
  complete := h.complete
  stream := by
    obtain ⟨lines, hlines, hstream⟩ := h.stream
    exact ⟨lines, hlines, (Store.stream_congr hfind).trans hstream⟩

/-- A role that is given to a task that was not started changes nothing else. -/
theorem Chronicled.recast (h : scene.Chronicled session) (hnew : scene.halt? task = none)
    (hrun : role.call.program? ≠ none) : (scene.recast task role).Chronicled session where
  runs other role' hrole := by
    by_cases hother : other = task
    · rw [hother, show (scene.recast task role).roles task = some role from
        Function.update_self _ _ _] at hrole
      cases hrole
      exact hrun
    · rw [show (scene.recast task role).roles other = scene.roles other from
        Function.update_of_ne hother _ _] at hrole
      exact h.runs other role' hrole
  tasks other role' p next hheld :=
    h.tasks other role' p next ((holds_recast hnew role other role' p next).mp hheld)
  complete := by
    rw [returned_recast hnew]
    exact h.complete
  stream := by
    rw [returned_recast hnew]
    exact h.stream

/-- Whatever an operation does, the stream consists of what was returned. -/
theorem Chronicled.step (h : scene.Chronicled session) (hsound : scene.Sound crowd)
    (hkeeps : ∀ session, scene.KeepsKey session) (hplain : scene.fleet.IsPlain) {op : Operation}
    (hlaunch : ∀ other role', op = .launch other role' → role'.call.program? ≠ none)
    (hop : op.key? ≠ some (Journal.streamKey session)) :
    (scene.step crowd op).Chronicled session := by
  have hfits {task : String} {role : Role} {p : Pause}
      {next : Answer → Routine Fleet (Option RunResult)} (hheld : scene.Holds task role p next)
      (hstays : ∀ reply, op ≠ .answer task reply) :=
    h.fits_step hsound hkeeps hlaunch hheld hstays
  have htakes := step_takes crowd scene op
  generalize scene.step crowd op = scene' at htakes hfits ⊢
  cases htakes with
  | nothing => exact h
  | started role hnew =>
      have hhalt := hsound.1 _ hnew
      have hrun := hlaunch _ role rfl
      refine (h.recast hhalt hrun).advance (Function.update_self _ _ _)
        ((report?_recast hhalt role _).trans (report?_of_not_started hnew))
        (routine_lands crowd session role.context hrun (hplain role.context)) ?_
      intro other role' p next _ hheld
      exact hfits ((holds_recast hhalt role other role' p next).mp hheld) nofun
  | @resumed task p next hheld reply =>
      obtain ⟨role, hholds⟩ := hsound.1.holds hheld
      obtain ⟨hfitting, hmeets⟩ := h.tasks task role p next hholds
      refine h.advance hholds.1 (report?_of_held hheld)
        (settle_lands (hmeets reply scene.fleet hfitting)) ?_
      intro other role' p' next' hother hheld'
      refine hfits hheld' fun reply' heq => hother ?_
      cases heq
      rfl
  | placed hidle hcell => exact h.steer rfl fun _ _ _ _ hheld => hfits hheld nofun
  | edited catalog => exact h.steer rfl fun _ _ _ _ hheld => hfits hheld nofun
  | @stored op key hkey store hothers =>
      refine h.steer (hothers _ fun heq => hop (heq ▸ hkey)) fun _ _ _ _ hheld => ?_
      refine hfits hheld fun reply heq => ?_
      rw [heq] at hkey
      cases hkey

/-- New contexts over an empty stream have returned nothing. -/
theorem chronicled_fresh (setups : String → Setup) {store : Store}
    (hempty : store.stream (Journal.streamKey session) = .ok []) :
    (Scene.fresh setups store).Chronicled session where
  runs _ _ hrole := nomatch hrole
  tasks _ _ _ _ hheld := nomatch hheld.1
  complete _ hr := nomatch hr
  stream := ⟨[], rfl, hempty⟩

/-- After every history of runs in which nobody else writes to it, the stream of a session consists
of the events of what was returned. -/
theorem chronicled_after (crowd : Crowd) (setups : String → Setup) {store : Store}
    (hempty : store.stream (Journal.streamKey session) = .ok []) (history : List Operation)
    (hlaunch : ∀ task role, .launch task role ∈ history → role.call.program? ≠ none)
    (hothers : ∀ op ∈ history, op.key? ≠ some (Journal.streamKey session)) :
    ((Scene.fresh setups store).after crowd history).Chronicled session := by
  -- From the end, so that all that is known of the scene before the last operation can be used.
  induction history using List.reverseRecOn with
  | nil => exact chronicled_fresh setups hempty
  | append_singleton history op ih =>
      have hlast : op ∈ history ++ [op] := List.mem_append_right _ (List.mem_singleton_self op)
      have hbefore := ih (fun task role h => hlaunch task role (List.mem_append_left _ h))
        fun other h => hothers other (List.mem_append_left _ h)
      have hafter : (Scene.fresh setups store).after crowd (history ++ [op]) =
          ((Scene.fresh setups store).after crowd history).step crowd op := by
        unfold after
        rw [List.foldl_append]
        rfl
      rw [hafter]
      exact hbefore.step (sound_after crowd setups store history)
        (fun other => (keepsKey_after crowd setups store other history).2)
        (isPlain_after crowd setups store history)
        (fun task role h => hlaunch task role (h ▸ hlast)) (hothers op hlast)

end Histories

end Scene

end Gridwalk
