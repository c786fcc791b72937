import Gridwalk.Proofs.RespectedRelations
import Gridwalk.Proofs.Publication
import Gridwalk.Proofs.SharedStore

/-!
# Sessions are isolated

Contexts with different sessions do not notice each other: whatever the others do, and however it
interleaves with what a context does itself, the context sees what it would see without them.

Two worlds are the same to a context if its side is the same and the two keys of its session hold
the same.  What the context does respects this relation.  What another one does leaves the world the
same to it, which is respect for the relations of equal worlds that are the same to it as some world
before.  Both come of one set of lemmas, since stages are steady for all these relations.
-/

set_option autoImplicit false

namespace Gridwalk

section Through

variable {σ τ α : Type} {ι : Type} {R : ι → σ → σ → Prop} {place : Place σ τ} (h : place.Steady R)

include h

/-- An act at a steady place respects the relation. -/
theorem Act.respects_through (act : Act τ α) : (act.through place).Respects R := by
  intro i s t hst
  unfold through
  rw [h.get hst]
  exact ⟨rfl, h.set hst _⟩

/-- A routine at a steady place respects the relation. -/
theorem Routine.respects_through (r : Routine τ α) : (r.through place).Respects R := by
  induction r with
  | done a => exact respects_done a
  | fail fault => exact respects_fail fault
  | get k ih =>
      intro i s t hst
      refine .get ?_
      rw [h.get hst]
      exact ih _ i s t hst
  | put value r ih => exact fun i s t hst => .get (.put (ih i _ _ (h.set hst value)))
  | pause p k ih => exact fun i s t hst => .pause hst ih

end Through

/-- What a key holds after an edit there. -/
def Store.Edit.result (before : Option Stored) : Edit → Option Stored
  | .keep => before
  | .put stored => some stored
  | .erase => none

/-- An edit of a key of the store is seen at this key only. -/
theorem Store.Edit.find_apply (key : String) (store : Store) (edit : Edit) (other : String) :
    (edit.apply key store).find other =
      if other = key then edit.result (store.find key) else store.find other := by
  cases edit with
  | keep =>
      by_cases h : other = key
      · rw [h, if_pos rfl]
        rfl
      · rw [if_neg h]
        rfl
  | put stored => exact store.find_put key stored other
  | erase => exact store.find_erase key other

namespace World

/-- Two worlds are the same to a context and its session. -/
structure Same (name session : String) (w v : World) : Prop where
  side : w.sides name = v.sides name
  lease : w.store.find (Lease.key session) = v.store.find (Lease.key session)
  stream : w.store.find (Journal.streamKey session) = v.store.find (Journal.streamKey session)

/-- Equal worlds that are the same to a context and its session as a world before. -/
def Spared (name session : String) (before w v : World) : Prop :=
  w = v ∧ Same name session before w

section Steady

variable {name other session : String}

/-! ## A context by itself -/

/-- The side of a context is steady for worlds that are the same to it. -/
theorem steady_place_same : (place name).Steady (fun _ : Unit => Same name session) where
  get h := h.side
  set h side := ⟨by simp [place], h.lease, h.stream⟩

/-- A key that holds the same to a context may be edited alike. -/
theorem steady_key_same {key : String}
    (hkey : ∀ w v, Same name session w v → w.store.find key = v.store.find key) :
    Store.Steady (fun _ : Unit => Same name session) storePlace key where
  find h := hkey _ _ h
  edit {_ w v} h edit := by
    have hedit (other : String) (hother : w.store.find other = v.store.find other) :
        (edit.apply key w.store).find other = (edit.apply key v.store).find other := by
      rw [Store.Edit.find_apply, Store.Edit.find_apply, hother, hkey _ _ h]
    exact ⟨h.side, hedit _ h.lease, hedit _ h.stream⟩

/-! ## Another context -/

/-- The side of another context is spared. -/
theorem steady_place_spared (hne : other ≠ name) :
    (place other).Steady (Spared name session) where
  get h := congrArg _ h.1
  set h side := by
    obtain ⟨rfl, hsame⟩ := h
    refine ⟨rfl, ?_, hsame.lease, hsame.stream⟩
    simpa [place, Function.update_of_ne hne.symm] using hsame.side

/-- A key that is neither that of the lease nor that of the stream of a session is spared. -/
theorem steady_key_spared {key : String} (hlease : key ≠ Lease.key session)
    (hstream : key ≠ Journal.streamKey session) :
    Store.Steady (Spared name session) storePlace key where
  find h := congrArg (fun w => w.store.find key) h.1
  edit {_ w v} h edit := by
    obtain ⟨rfl, hsame⟩ := h
    refine ⟨rfl, hsame.side, hsame.lease.trans ?_, hsame.stream.trans ?_⟩
    · show _ = (edit.apply _ w.store).find _
      rw [Store.Edit.find_apply, if_neg hlease.symm]
    · show _ = (edit.apply _ w.store).find _
      rw [Store.Edit.find_apply, if_neg hstream.symm]

end Steady

/-! ## What is done from a context -/

section Stage

variable {ι : Type} {R : ι → World → World → Prop} {name : String} (manners : Manners)
  (hplace : (place name).Steady R)

include hplace

/-- A stage is steady if the side of its context is. -/
theorem steady_stage : (stage manners name).Steady R where
  context := hplace.inside _
  observe _ _ := Act.respects_through hplace _
  custom _ := Routine.respects_through hplace _

/-- While a run rests, worlds that are related stay related. -/
theorem isOpen_suspend : Routine.IsOpen R (suspend name) where
  unanswered _ _ := rfl
  alike p i w v h := by
    show R i ((place name).set _ w) ((place name).set _ v)
    rw [show w.sides name = v.sides name from hplace.get h]
    exact hplace.set h _

/-- A call for a session respects what the side and the two keys of the session are steady for. -/
theorem respects_call {session : String}
    (hlease : Store.Steady R storePlace (Lease.key session))
    (hstream : Store.Steady R storePlace (Journal.streamKey session)) (call : Call) :
    ((call.under session).routine (stage manners name) storePlace).Respects R := by
  have hstage := steady_stage manners hplace
  cases call with
  | execute run ids =>
      exact (hstage.execute run ids).bind fun result => Routine.respects_done (some result)
  | dispatch ticket ids =>
      exact (hstage.dispatch hlease hstream ids).bind fun result =>
        Routine.respects_done (some result)
  | invoke command =>
      exact (hstage.invoke command).bind fun _ => Routine.respects_done none

end Stage

end World

/-! ## Errands -/

namespace Realm

/-- Two realms are alike to a context. -/
structure Alike {ι : Type} (R : ι → World → World → Prop) (i : ι) (name : String) (a b : Realm) :
    Prop where
  world : R i a.world b.world
  tasks : (a.tasks name).Alike R (b.tasks name)
  replies : a.replies name = b.replies name

section Step

variable {ι : Type} {R : ι → World → World → Prop} {i : ι} {name : String} {a b : Realm}

/-- Realms that are alike are informed alike. -/
theorem Alike.inform (h : a.Alike R i name b) (feedback : Feedback) :
    (a.inform name feedback).Alike R i name (b.inform name feedback) where
  world := h.world
  tasks := h.tasks
  replies := by simp [Realm.inform, h.replies]

/-- An act that respects the relation is done alike, and shown alike. -/
theorem Alike.act (h : a.Alike R i name b) {α : Type} (shown : Except Fault α → Feedback)
    {act : Act World α} (hact : act.Respects R) :
    (a.act name shown act).Alike R i name (b.act name shown act) := by
  obtain ⟨result, w, v, ha, hb, hworld⟩ := hact.outcome h.world
  have hrealms : Alike R i name { a with world := w } { b with world := v } :=
    ⟨hworld, h.tasks, h.replies⟩
  unfold Realm.act
  rw [ha, hb]
  exact hrealms.inform _

/-- Tasks that stand still alike are shown alike. -/
theorem standing_eq {schedule other : Schedule World (Option RunResult)}
    (h : schedule.Alike R other) (task : String) :
    schedule.standing task = other.standing task := by
  have hfind := h.find? task
  unfold Schedule.standing
  generalize schedule.find? task = found at hfind
  generalize other.find? task = found' at hfind
  cases hfind with
  | none => rfl
  | @some found found' hfound =>
      obtain ⟨_, halt⟩ := found
      obtain ⟨_, halt'⟩ := found'
      obtain ⟨-, hhalt⟩ := hfound
      cases hhalt <;> rfl

/-- A task that goes on alike leaves realms alike, and so does one that does not exist. -/
theorem Alike.progress (h : a.Alike R i name b) (task : String)
    {left right : Option (Schedule World (Option RunResult) × World)}
    (hboth : Option.Rel (fun x y => x.1.Alike R y.1 ∧ R i x.2 y.2) left right) :
    (a.progress name task left).Alike R i name (b.progress name task right) := by
  cases hboth with
  | none => exact h.inform _
  | @some x y hxy =>
      obtain ⟨schedule, w⟩ := x
      obtain ⟨schedule', v⟩ := y
      obtain ⟨hschedule, hworld⟩ := hxy
      have hstanding : schedule.standing task = schedule'.standing task :=
        standing_eq hschedule task
      have hrealms : Alike R i name
          { a with world := w, tasks := Function.update a.tasks name schedule }
          { b with world := v, tasks := Function.update b.tasks name schedule' } :=
        ⟨hworld, by simpa using hschedule, h.replies⟩
      simp only [Realm.progress, hstanding]
      exact hrealms.inform _

variable (manners : String → Manners) (sessions : String → String)

/-- An errand of a context does alike in realms that are alike to it. -/
theorem Alike.step (h : a.Alike R i name b) (hplace : (World.place name).Steady R)
    (hlease : Store.Steady R World.storePlace (Lease.key (sessions name)))
    (hstream : Store.Steady R World.storePlace (Journal.streamKey (sessions name)))
    (errand : Errand) :
    (a.step manners sessions (name, errand)).Alike R i name
      (b.step manners sessions (name, errand)) := by
  have hstage := World.steady_stage (manners name) hplace
  have hopen := World.isOpen_suspend hplace
  cases errand with
  | start task call =>
      have hcall := World.respects_call (manners name) hplace hlease hstream call
      exact h.progress task (.some (h.tasks.advance hopen task (hcall i _ _ h.world)))
  | answer task reply => exact h.progress task (h.tasks.answer hopen task reply h.world)
  | resetActor x y angle => exact h.act _ (hstage.resetActorTo x y angle)
  | editLoop id edit => exact h.act _ (hstage.editLoop id edit)
  | updateLoop id edit => exact h.act _ (hstage.updateLoop id edit)
  | touch act => exact h.act _ (Act.respects_through hplace act)

end Step

/-! ## Histories -/

variable (manners : String → Manners) {sessions : String → String} {name other : String}
  {a b : Realm}

/-- An errand of a context concerns the tasks of no other one, and nobody else is told. -/
theorem step_frame (sessions : String → String) (hne : name ≠ other) (errand : Errand) :
    (a.step manners sessions (other, errand)).tasks name = a.tasks name ∧
      (a.step manners sessions (other, errand)).replies name = a.replies name := by
  have hinform (realm : Realm) (feedback : Feedback) :
      (realm.inform other feedback).tasks name = realm.tasks name ∧
        (realm.inform other feedback).replies name = realm.replies name :=
    ⟨rfl, Function.update_of_ne hne _ _⟩
  have hprogress (task : String) (result : Option (Schedule World (Option RunResult) × World)) :
      (a.progress other task result).tasks name = a.tasks name ∧
        (a.progress other task result).replies name = a.replies name := by
    cases result with
    | none => exact hinform a _
    | some result =>
        obtain ⟨htasks, hreplies⟩ := hinform
          { a with world := result.2, tasks := Function.update a.tasks other result.1 }
          (result.1.standing task)
        exact ⟨htasks.trans (Function.update_of_ne hne _ _), hreplies⟩
  cases errand with
  | start task call =>
      unfold step
      exact hprogress task _
  | answer task reply => exact hprogress task _
  | resetActor | editLoop | updateLoop | touch => exact hinform _ _

/-- A realm in which others are busy too is alike to a context to one in which it is by itself, and
the tasks of the others spare it. -/
structure Matches (name session : String) (a b : Realm) : Prop where
  alike : a.Alike (fun _ : Unit => World.Same name session) () name b
  others : ∀ other, other ≠ name →
    (a.tasks other).Alike (World.Spared name session) (a.tasks other)

/-- At the start nobody is busy, and a realm matches itself. -/
theorem matches_start (name session : String) (world : World) :
    Matches name session { world } { world } where
  alike := ⟨⟨rfl, rfl, rfl⟩, .nil, rfl⟩
  others _ _ := .nil

/-- What a context does it does in both realms. -/
theorem Matches.own (h : Matches name (sessions name) a b) (errand : Errand) :
    Matches name (sessions name) (a.step manners sessions (name, errand))
      (b.step manners sessions (name, errand)) where
  alike := h.alike.step manners sessions World.steady_place_same
    (World.steady_key_same fun _ _ hsame => hsame.lease)
    (World.steady_key_same fun _ _ hsame => hsame.stream) errand
  others other hne := by
    rw [(step_frame manners sessions hne errand).1]
    exact h.others other hne

/-- What another context does for another session the context does not notice. -/
theorem Matches.beside (h : Matches name (sessions name) a b) (hne : other ≠ name)
    (hsession : sessions other ≠ sessions name) (errand : Errand) :
    Matches name (sessions name) (a.step manners sessions (other, errand)) b := by
  have hself : a.Alike (World.Spared name (sessions name)) a.world other a :=
    ⟨⟨rfl, rfl, rfl, rfl⟩, h.others other hne, rfl⟩
  have hstep := hself.step manners sessions (World.steady_place_spared hne)
    (World.steady_key_spared (fun heq => hsession (Lease.key_injective heq))
      (Lease.key_ne_streamKey _ _))
    (World.steady_key_spared (Lease.key_ne_streamKey _ _).symm
      fun heq => hsession (Journal.streamKey_injective heq)) errand
  obtain ⟨-, hside, hlease, hstream⟩ := hstep.world
  obtain ⟨⟨hside', hlease', hstream'⟩, htasks, hreplies⟩ := h.alike
  have hframe : (a.step manners sessions (other, errand)).tasks name = a.tasks name :=
    (step_frame manners sessions hne.symm errand).1
  have hframe' : (a.step manners sessions (other, errand)).replies name = a.replies name :=
    (step_frame manners sessions hne.symm errand).2
  refine ⟨⟨⟨hside.symm.trans hside', hlease.symm.trans hlease', hstream.symm.trans hstream'⟩,
    hframe ▸ htasks, hframe'.trans hreplies⟩, fun third hthird => ?_⟩
  by_cases heq : third = other
  · exact heq ▸ hstep.tasks
  · rw [(step_frame manners sessions heq errand).1]
    exact h.others third hthird

/-- A history matches the same history with the errands of all others deleted. -/
theorem Matches.steps (h : Matches name (sessions name) a b)
    (hsessions : ∀ other, other ≠ name → sessions other ≠ sessions name)
    (history : List (String × Errand)) :
    Matches name (sessions name) (history.foldl (step manners sessions) a)
      ((history.filter fun entry => entry.1 = name).foldl (step manners sessions) b) := by
  induction history generalizing a b with
  | nil => exact h
  | cons entry rest ih =>
      obtain ⟨other, errand⟩ := entry
      by_cases heq : other = name
      · subst heq
        rw [List.filter_cons_of_pos (by simp)]
        exact ih (h.own manners errand)
      · rw [List.filter_cons_of_neg (by simpa using heq)]
        exact ih (h.beside manners heq (hsessions other heq) errand)

/-- A context whose session no other context has is told, shows and keeps the same, whatever the
others do meanwhile, as in the history without their errands: what comes of its errands, its side
with all that its observers were told and all pauses, how its tasks stand, and the lease and the
stream of its session. -/
theorem isolation (manners : String → Manners) (sessions : String → String) (name : String)
    (hsessions : ∀ other, other ≠ name → sessions other ≠ sessions name) (world : World)
    (history : List (String × Errand)) :
    let together := after manners sessions world history
    let alone := after manners sessions world (history.filter fun entry => entry.1 = name)
    together.replies name = alone.replies name ∧
    together.world.sides name = alone.world.sides name ∧
    (∀ task, (together.tasks name).standing task = (alone.tasks name).standing task) ∧
    together.world.store.find (Lease.key (sessions name)) =
      alone.world.store.find (Lease.key (sessions name)) ∧
    together.world.store.find (Journal.streamKey (sessions name)) =
      alone.world.store.find (Journal.streamKey (sessions name)) := by
  have hmatches := (matches_start name (sessions name) world).steps manners hsessions history
  obtain ⟨⟨hside, hlease, hstream⟩, htasks, hreplies⟩ := hmatches.alike
  exact ⟨hreplies, hside, standing_eq htasks, hlease, hstream⟩

/-- Two sessions run at a time, one of them under an id that looks like the stream of the other: its
run is cancelled while the other one goes on. -/
def rivals : List (String × Errand) :=
  [("s", .start "t" (.dispatch ⟨"", "x", .ofNat 1⟩ ["turnRight"])),
    ("runs:s", .start "t" (.dispatch ⟨"", "y", .ofNat 2⟩ ["moveForward"])),
    ("runs:s", .answer "t" (.error .cancelled)),
    ("s", .answer "t" (.ok ()))]

/-- A realm of well-behaved contexts, whose names are the ids of their sessions. -/
def rivalry (history : List (String × Errand)) : Realm :=
  after (fun _ => {}) id { sides := fun _ => {} } history

/-- The run of the one session is not disturbed: its events are published and its lease is given
back, as they are without the other. -/
theorem isolation_rivals :
    let solo := rivals.filter fun entry => entry.1 = "s"
    (∀ other, other ≠ "s" → id other ≠ id "s") ∧
    (rivalry rivals).replies "s" = (rivalry solo).replies "s" ∧
    (rivalry rivals).world.sides "s" = (rivalry solo).world.sides "s" ∧
    (rivalry rivals).world.store.find (Lease.key "s") = none ∧
    (rivalry rivals).world.store.holds (Journal.streamKey "s") = true ∧
    ((rivalry rivals).world.sides "runs:s").context.run = some (.ofNat 2) ∧
    ((rivalry solo).world.sides "runs:s").context.run = none := by
  have hsessions : ∀ other, other ≠ "s" → id other ≠ id "s" := fun _ hne => hne
  obtain ⟨hreplies, hside, -, hlease, hstream⟩ :=
    isolation (fun _ => {}) id "s" hsessions { sides := fun _ => {} } rivals
  simp only [id_eq] at hlease hstream
  unfold rivalry
  refine ⟨hsessions, hreplies, hside, ?_, ?_, by decide +kernel, by decide +kernel⟩
  · rw [hlease]
    decide +kernel
  · unfold Store.holds
    rw [hstream]
    decide +kernel

end Realm

end Gridwalk
