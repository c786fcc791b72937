import Gridwalk.Dispatch
import Gridwalk.Schedule
import Mathlib.Data.List.Forall2
import Mathlib.Data.Option.Basic

/-!
# Acts and routines that respect relations

A relation between states says what somebody can tell them apart by.  An act respects a family of
relations if from states that one of them relates it gives the same result and leads to states that
are related in the same way; a routine respects them if it does so up to its next pause, makes the
same pause, and goes on like this from any states that it may find there, related in whichever way.
What the world does during a pause need not be the same, then, as long as it is not to be told
apart.

Respect is closed under everything that acts and routines are made of.  A place is steady if what is
kept there is to be seen, and a stage is steady if its context is at a steady place and its
observers and custom deeds respect the relations; all that is done on it then does, runs included
(`Stage.Steady.execute`).
-/

set_option autoImplicit false

namespace Gridwalk

variable {ι σ τ υ α β : Type} {R : ι → σ → σ → Prop}

/-! ## Acts -/

/-- From related states an act gives one result and leads to related states. -/
def Act.Respects (R : ι → σ → σ → Prop) (act : Act σ α) : Prop :=
  ∀ i s t, R i s t → (act s).1 = (act t).1 ∧ R i (act s).2 (act t).2

/-- What is kept at a place is the same in related states, and may be changed alike. -/
structure Place.Steady (R : ι → σ → σ → Prop) (place : Place σ τ) : Prop where
  get : ∀ {i s t}, R i s t → place.get s = place.get t
  set : ∀ {i s t}, R i s t → ∀ value, R i (place.set value s) (place.set value t)

/-- What is kept within a steady place is kept at a steady place. -/
theorem Place.Steady.inside {outer : Place σ τ} (h : outer.Steady R) (inner : Place τ υ) :
    (outer.inside inner).Steady R where
  get hst := congrArg inner.get (h.get hst)
  set {i s t} hst value := by
    show R i (outer.set (inner.set value (outer.get s)) s)
      (outer.set (inner.set value (outer.get t)) t)
    rw [h.get hst]
    exact h.set hst _

namespace Act

/-- A result that is there already is the same from everywhere. -/
theorem respects_ofExcept (result : Except Fault α) : Respects R (ofExcept result) :=
  fun _ _ _ h => ⟨rfl, h⟩

/-- So is a value. -/
theorem respects_pure (a : α) : Respects R (pure a : Act σ α) := respects_ofExcept (.ok a)

/-- So is a fault. -/
theorem respects_fail (fault : Fault) : Respects R (fail fault : Act σ α) :=
  respects_ofExcept (.error fault)

/-- What both come to, with their one result. -/
theorem Respects.outcome {act : Act σ α} (h : Respects R act) {i : ι} {s t : σ} (hst : R i s t) :
    ∃ result s' t', act s = (result, s') ∧ act t = (result, t') ∧ R i s' t' := by
  obtain ⟨hresult, hstate⟩ := h i s t hst
  exact ⟨(act s).1, (act s).2, (act t).2, rfl, Prod.ext hresult.symm rfl, hstate⟩

/-- One act after the other respects what both respect, for the second one is begun with the one
value of the first. -/
theorem Respects.bind {act : Act σ α} {next : α → Act σ β} (h : Respects R act)
    (hnext : ∀ a, Respects R (next a)) : Respects R (act >>= next) := by
  intro i s t hst
  obtain ⟨result, s', t', hs, ht, hstate⟩ := h.outcome hst
  show (Act.bind act next s).1 = (Act.bind act next t).1 ∧
    R i (Act.bind act next s).2 (Act.bind act next t).2
  unfold Act.bind
  rw [hs, ht]
  cases result with
  | ok a => exact hnext a i s' t' hstate
  | error fault => exact ⟨rfl, hstate⟩

/-- The relations do not tell faults apart that are forgotten. -/
theorem Respects.tolerate {act : Act σ Unit} (h : Respects R act) : Respects R act.tolerate := by
  intro i s t hst
  obtain ⟨result, s', t', hs, ht, hstate⟩ := h.outcome hst
  unfold Act.tolerate
  rw [hs, ht]
  cases result with
  | ok u => exact ⟨rfl, hstate⟩
  | error fault =>
      dsimp only
      cases fault.isOrdinary <;> exact ⟨rfl, hstate⟩

section Places

variable {place : Place σ τ} (h : place.Steady R)

include h

/-- What is read at a steady place is the same in related states. -/
theorem respects_read : Respects R (read place) := fun _ _ _ hst =>
  ⟨congrArg Except.ok (h.get hst), hst⟩

/-- A change at a steady place succeeds or fails alike in related states. -/
theorem respects_update (f : τ → Except Fault τ) : Respects R (update place f) := by
  intro i s t hst
  unfold update
  rw [h.get hst]
  cases f (place.get t) with
  | ok value => exact ⟨rfl, h.set hst value⟩
  | error fault => exact ⟨rfl, hst⟩

/-- A change at a steady place that cannot fail respects the relations. -/
theorem respects_modify (f : τ → τ) : Respects R (modify place f) := by
  intro i s t hst
  unfold modify
  rw [h.get hst]
  exact ⟨rfl, h.set hst _⟩

end Places

end Act

/-! ## Routines -/

namespace Routine

/-- Two routines do alike from two states on, whatever they find after a pause that is related. -/
inductive Alike (R : ι → σ → σ → Prop) : ι → Routine σ α → σ → Routine σ α → σ → Prop
  | done {i : ι} {a : α} {s t : σ} (h : R i s t) : Alike R i (.done a) s (.done a) t
  | fail {i : ι} {fault : Fault} {s t : σ} (h : R i s t) : Alike R i (.fail fault) s (.fail fault) t
  | get {i : ι} {k l : σ → Routine σ α} {s t : σ} (h : Alike R i (k s) s (l t) t) :
      Alike R i (.get k) s (.get l) t
  | put {i : ι} {r q : Routine σ α} {s t s' t' : σ} (h : Alike R i r s' q t') :
      Alike R i (.put s' r) s (.put t' q) t
  | pause {i : ι} {p : Pause} {k l : Answer → Routine σ α} {s t : σ} (h : R i s t)
      (hnext : ∀ answer i s t, R i s t → Alike R i (k answer) s (l answer) t) :
      Alike R i (.pause p k) s (.pause p l) t

/-- From related states a routine does alike. -/
def Respects (R : ι → σ → σ → Prop) (r : Routine σ α) : Prop :=
  ∀ i s t, R i s t → Alike R i r s r t

/-- Routines that are alike stay alike when routines follow that are alike from all related states.
-/
theorem Alike.bind {r q : Routine σ α} {f g : α → Routine σ β} {i : ι} {s t : σ}
    (h : Alike R i r s q t) (hnext : ∀ a i s t, R i s t → Alike R i (f a) s (g a) t) :
    Alike R i (r.bind f) s (q.bind g) t := by
  induction h with
  | done h => exact hnext _ _ _ _ h
  | fail h => exact .fail h
  | get _ ih => exact .get ih
  | put _ ih => exact .put ih
  | pause h _ ih => exact .pause h fun answer i s t hst => ih answer i s t hst

/-- Routines that are alike have outcomes that are alike. -/
theorem Alike.attempt {r q : Routine σ α} {i : ι} {s t : σ} (h : Alike R i r s q t) :
    Alike R i r.attempt s q.attempt t := by
  induction h with
  | done h => exact .done h
  | fail h => exact .done h
  | get _ ih => exact .get ih
  | put _ ih => exact .put ih
  | pause h _ ih => exact .pause h fun answer i s t hst => ih answer i s t hst

/-- A value is alike from everywhere. -/
theorem respects_done (a : α) : Respects R (.done a : Routine σ α) := fun _ _ _ h => .done h

/-- A fault is alike from everywhere. -/
theorem respects_fail (fault : Fault) : Respects R (.fail fault : Routine σ α) :=
  fun _ _ _ h => .fail h

/-- So is a computation without a state. -/
theorem respects_ofExcept (result : Except Fault α) : Respects R (ofExcept result) := by
  cases result with
  | ok a => exact respects_done a
  | error fault => exact respects_fail fault

/-- An act that respects the relations does so as a routine. -/
theorem respects_ofAct {act : Act σ α} (h : act.Respects R) : Respects R (ofAct act) := by
  intro i s t hst
  obtain ⟨result, s', t', hs, ht, hstate⟩ := h.outcome hst
  refine .get ?_
  rw [hs, ht]
  exact .put (respects_ofExcept result i s' t' hstate)

/-- One routine after the other respects what both respect. -/
theorem Respects.bind {r : Routine σ α} {f : α → Routine σ β} (h : Respects R r)
    (hnext : ∀ a, Respects R (f a)) : Respects R (r >>= f) :=
  fun i s t hst => (h i s t hst).bind hnext

/-- Taking the outcome of a routine respects what the routine respects. -/
theorem Respects.attempt {r : Routine σ α} (h : Respects R r) : Respects R r.attempt :=
  fun i s t hst => (h i s t hst).attempt

/-- What is done after a routine in any case respects what both respect. -/
theorem Respects.ensure {body : Routine σ α} {after : Routine σ Unit} (h : Respects R body)
    (hafter : Respects R after) : Respects R (ensure body after) :=
  h.attempt.bind fun outcome => hafter.bind fun _ => respects_ofExcept outcome

/-- A pause respects every relation: both routines are held, and are answered alike. -/
theorem respects_rest (p : Pause) : Respects R (rest p) :=
  fun _ _ _ h => .pause h respects_ofExcept

/-- So does a routine that is repeated. -/
theorem Respects.repeated {body : Routine σ Unit} (h : Respects R body) (n : Nat) :
    Respects R (Routine.repeated n body) := by
  induction n with
  | zero => exact respects_done ()
  | succ n ih => exact h.bind fun _ => ih

/-- So do routines for the items of a list, one after the other. -/
theorem Respects.forM {f : τ → Routine σ Unit} (h : ∀ item, Respects R (f item))
    (items : List τ) : Respects R (items.forM f) := by
  induction items with
  | nil => exact respects_done ()
  | cons item rest ih => exact (h item).bind fun _ => ih

end Routine

/-! ## Stages -/

namespace Observable

variable {place : Place σ (Observable α)} {call : String → α → Act σ Unit}
  (hcall : ∀ observer value, (call observer value).Respects R)

include hcall

/-- Telling a value respects what every observer respects. -/
theorem respects_tell (value : α) (observers : List String) :
    (tell call value observers).Respects R := by
  induction observers with
  | nil => exact Act.respects_pure ()
  | cons observer rest ih => exact (hcall observer value).tolerate.bind fun _ => ih

variable (hplace : place.Steady R)

include hplace

/-- Setting a value at a steady place respects what every observer respects. -/
theorem respects_set (value : α) : (set place call value).Respects R :=
  (Act.respects_modify hplace _).bind fun _ =>
    (Act.respects_read hplace).bind fun _ => respects_tell hcall value _

/-- So does replacing a value by one that is computed from it. -/
theorem respects_revise (f : α → Except Fault α) : (revise place call f).Respects R :=
  (Act.respects_read hplace).bind fun _ => (Act.respects_ofExcept _).bind fun value =>
    (respects_set hcall hplace value).bind fun _ => Act.respects_pure value

end Observable

/-- What is done with a context respects the relations. -/
structure Stage.Steady (R : ι → σ → σ → Prop) (stage : Stage σ) : Prop where
  context : stage.context.Steady R
  observe : ∀ observer notice, (stage.observe observer notice).Respects R
  custom : ∀ deed, (stage.custom deed).Respects R

namespace Stage.Steady

open Routine

variable {stage : Stage σ} (h : stage.Steady R)

include h

/-! ### Acts on a context -/

/-- The context is read alike. -/
theorem read : stage.read.Respects R := Act.respects_read h.context

/-- So is the actor. -/
theorem actor : stage.actor.Respects R := h.read.bind fun _ => Act.respects_pure _

/-- A command is looked up alike. -/
theorem lookup (id : String) : (stage.lookup id).Respects R :=
  h.read.bind fun _ => Act.respects_pure _

/-- The actor is changed alike. -/
theorem updateActor (change : Actor.Change) : (stage.updateActor change).Respects R :=
  Observable.respects_revise (fun _ _ => h.observe _ _) (h.context.inside _) _

/-- The actor is replaced alike. -/
theorem setActor (actor : Actor) : (stage.setActor actor).Respects R :=
  Observable.respects_set (fun _ _ => h.observe _ _) (h.context.inside _) actor

/-- The active position is shown alike. -/
theorem setIndex (position : Position) : (stage.setIndex position).Respects R :=
  Observable.respects_set (fun _ _ => h.observe _ _) (h.context.inside _) position

/-- Events are recorded alike. -/
theorem record (occurrence : Occurrence) : (stage.record occurrence).Respects R :=
  Act.respects_modify h.context _

/-- A command is looked up by a phrase alike. -/
theorem named (id : Phrase) : (stage.named id).Respects R :=
  h.read.bind fun _ => Act.respects_pure _

/-- Whether no run is in progress is asked alike. -/
theorem requireIdle : stage.requireIdle.Respects R := by
  refine h.read.bind fun c => ?_
  split
  · exact Act.respects_fail _
  · exact Act.respects_pure _

/-- Loops are edited alike in the catalog. -/
theorem updateLoop (id : String) (edit : Loop.Edit) : (stage.updateLoop id edit).Respects R :=
  (Act.respects_read (h.context.inside _)).bind fun _ =>
    (Act.respects_ofExcept _).bind fun edited =>
      (Act.respects_modify (h.context.inside _) _).bind fun _ => Act.respects_pure edited.1

/-- Loops are edited alike, or a run is in the way of both edits. -/
theorem editLoop (id : String) (edit : Loop.Edit) : (stage.editLoop id edit).Respects R :=
  h.requireIdle.bind fun _ => h.updateLoop id edit

/-- The actor is reset alike. -/
theorem resetActorTo (x y angle : Json) : (stage.resetActorTo x y angle).Respects R := by
  refine h.read.bind fun c => ?_
  have hreset : (do
      Act.ofExcept (Stage.requireCell c.settings.grid x y)
      let actor ← Act.ofExcept (Actor.at? x y angle)
      stage.setActor actor
      return actor : Act σ Actor).Respects R :=
    (Act.respects_ofExcept _).bind fun _ => (Act.respects_ofExcept _).bind fun actor =>
      (h.setActor actor).bind fun _ => Act.respects_pure actor
  split
  · exact (Act.respects_fail _).bind fun _ => hreset
  · exact hreset

/-- The signs of a run are cleared alike. -/
theorem clear : stage.clear.Respects R :=
  (h.setIndex _).bind fun _ => (h.updateActor _).bind fun _ =>
    Act.respects_modify (h.context.inside _) _

/-- Runs are concluded alike, with one result. -/
theorem conclude (run : RunId) (outcome : Outcome) : (stage.conclude run outcome).Respects R :=
  h.read.bind fun _ => (h.record _).bind fun _ => h.read.bind fun _ =>
    (Act.respects_modify h.context _).bind fun _ => Act.respects_pure _

/-! ### Commands and runs -/

/-- A pause is made alike. -/
theorem pause (hold : Hold) : (stage.pause hold).Respects R :=
  (respects_ofAct h.read).bind fun _ => respects_rest _

/-- A hold at the edge is made alike: the flag is set, the pause made and the flag cleared. -/
theorem holdAtEdge : stage.holdAtEdge.Respects R :=
  (respects_ofAct (h.updateActor _)).bind fun _ =>
    (h.pause .bounds).ensure ((respects_ofAct (h.updateActor _)).bind fun _ => respects_done ())

/-- A move is made alike, to the same target or against the same edge. -/
theorem move (sign : Int) : (stage.move sign).Respects R := by
  refine (respects_ofAct h.read).bind fun c => ?_
  refine (respects_ofExcept _).bind fun target => ?_
  refine (respects_ofExcept _).bind fun out => ?_
  cases out with
  | true =>
      exact (respects_ofAct (h.record _)).bind fun _ =>
        h.holdAtEdge.bind fun _ => h.pause .step
  | false => exact (respects_ofAct (h.updateActor _)).bind fun _ => h.pause .step

/-- A turn is made alike. -/
theorem turn (degrees : Int) : (stage.turn degrees).Respects R :=
  (respects_ofAct h.actor).bind fun _ => (respects_ofExcept _).bind fun _ =>
    (respects_ofAct (h.updateActor _)).bind fun _ => h.pause .step

/-- Every deed is done alike. -/
theorem perform (deed : Deed) : (stage.perform deed).Respects R := by
  cases deed with
  | moveForward => exact h.move 1
  | moveBack => exact h.move (-1)
  | turnRight => exact h.turn 90
  | turnLeft => exact h.turn (-90)
  | custom name => exact h.custom name

/-- A basic command is done and counted alike. -/
theorem basic (levels : Nat) (b : Basic) : (stage.runCommand levels (.basic b)).Respects R := by
  have hboth := (h.perform b.deed).bind fun _ =>
    respects_ofAct (R := R) (Act.respects_modify h.context _ : stage.countAction.Respects R)
  cases levels <;> exact hboth

/-- Every command respects the relations: a loop by its children, which are fewer levels deep. -/
theorem command (levels : Nat) (command : Command) :
    (stage.runCommand levels command).Respects R := by
  induction levels generalizing command with
  | zero =>
      cases command with
      | basic b => exact h.basic 0 b
      | loop l => exact respects_fail _
  | succ levels ih =>
      cases command with
      | basic b => exact h.basic (levels + 1) b
      | loop l =>
          refine Respects.repeated (Respects.bind (respects_ofAct ?_) fun children => ?_) _
          · refine h.read.bind fun c => ?_
            split <;> exact Act.respects_pure _
          · refine Respects.forM (fun id => (respects_ofAct (h.named id)).bind fun found => ?_) _
            cases found with
            | none => exact respects_ofAct (h.record _)
            | some child => exact ih child

/-- A step of a program is done alike. -/
theorem step (index : Nat) (id : Phrase) : (stage.runStep index id).Respects R := by
  refine (respects_ofAct (h.setIndex _)).bind fun _ =>
    (respects_ofAct (h.named id)).bind fun found => ?_
  cases found with
  | none => exact respects_ofAct (h.record _)
  | some command => exact (respects_ofAct (h.record _)).bind fun _ => h.command _ command

/-- So are all steps, with the actor shown to be moving before them. -/
theorem program (ids : List Phrase) : (stage.runProgram ids).Respects R := by
  refine (respects_ofAct (h.updateActor _)).bind fun _ => ?_
  generalize (0 : Nat) = index
  induction ids generalizing index with
  | nil => exact respects_done ()
  | cons id rest ih => exact (h.step index id).bind fun _ => ih (index + 1)

/-- A run respects the relations. -/
theorem execute (run : RunId) (ids : List Phrase) : (stage.execute run ids).Respects R :=
  (respects_ofAct (Act.respects_update (h.context.inside _) _)).bind fun _ =>
    (respects_ofAct (Act.respects_modify h.context _)).bind fun _ =>
      (respects_ofAct (h.record _)).bind fun _ => (h.program ids).attempt.bind fun _ =>
        (respects_ofAct h.clear).bind fun _ => (respects_ofExcept _).bind fun outcome =>
          respects_ofAct (h.conclude run outcome)

/-- A command that is invoked by itself is done alike. -/
theorem invoke (command : Command) : (stage.invoke command).Respects R := by
  cases command with
  | basic b => exact h.perform b.deed
  | loop l =>
      refine (respects_ofAct (h.lookup l.id)).bind fun found => ?_
      cases found with
      | none => exact respects_done ()
      | some current => exact h.command _ current

end Stage.Steady

/-! ## The store -/

/-- What may be done under a key. -/
inductive Store.Edit where
  | keep
  | put (stored : Stored)
  | erase

/-- The store after what was done to one of its keys. -/
def Store.Edit.apply (key : String) (store : Store) : Edit → Store
  | .keep => store
  | .put stored => store.put key stored
  | .erase => store.erase key

/-- What is kept under a key is the same in related states, and may be changed alike. -/
structure Store.Steady (R : ι → σ → σ → Prop) (store : Place σ Store) (key : String) : Prop where
  find : ∀ {i s t}, R i s t → (store.get s).find key = (store.get t).find key
  edit : ∀ {i s t}, R i s t → ∀ edit : Edit,
    R i (store.set (edit.apply key (store.get s)) s) (store.set (edit.apply key (store.get t)) t)

section Store

variable {store : Place σ Store} {session key : String}

/-- A change that is planned by what is kept under a key, and made there, respects the relations. -/
theorem Store.Steady.update (h : Store.Steady R store key) {f : Store → Except Fault Store}
    (plan : Option Stored → Except Fault Edit)
    (hplan : ∀ s, f s = (plan (s.find key)).map (Edit.apply key s)) :
    (Act.update store f).Respects R := by
  intro i s t hst
  unfold Act.update
  rw [hplan, hplan, h.find hst]
  cases plan ((store.get t).find key) with
  | ok edit => exact ⟨rfl, h.edit hst edit⟩
  | error fault => exact ⟨rfl, hst⟩

/-- What taking a lease does under its key. -/
def Lease.taking (token : String) : Option Stored → Except Fault Store.Edit
  | none => .ok (.put (.text token true))
  | some _ => .error .runInProgress

/-- What releasing a lease does under its key. -/
def Lease.releasing (token : String) : Option Stored → Except Fault Store.Edit
  | none => .ok .keep
  | some (.text value _) => .ok (if value = token then .erase else .keep)
  | some (.stream _) => .error .wrongKind

/-- What appending an entry does under the key of its stream. -/
def Store.appending (fields : Fields) (found : Option Stored) : Except Fault Edit :=
  if fields.isEmpty then .error .emptyEntry
  else match found with
    | none => .ok (.put (.stream [fields]))
    | some (.stream entries) => .ok (.put (.stream (fields :: entries)))
    | some (.text _ _) => .error .wrongKind

/-- A lease is taken alike where its key is steady. -/
theorem Lease.respects_take (h : Store.Steady R store (Lease.key session)) (token : String) :
    (Lease.take store session token).Respects R := by
  refine h.update (taking token) fun s => ?_
  unfold Store.claim?
  cases s.find (key session) <;> rfl

/-- A lease is given back alike where its key is steady. -/
theorem Lease.respects_release (h : Store.Steady R store (Lease.key session)) (token : String) :
    (Lease.release store session token).Respects R := by
  refine h.update (releasing token) fun s => ?_
  unfold Store.text?
  cases s.find (key session) with
  | none => rfl
  | some stored =>
      cases stored with
      | stream entries => rfl
      | text value expires =>
          by_cases hvalue : value = token
          · simp [releasing, hvalue, Except.map, Store.Edit.apply, bind, Except.bind, pure,
              Except.pure]
          · simp [releasing, hvalue, Except.map, Store.Edit.apply, bind, Except.bind, pure,
              Except.pure]

/-- An entry is added alike to a stream whose key is steady. -/
theorem Store.Steady.append (h : Store.Steady R store key) (fields : Fields) :
    (Act.update store fun s => s.append key fields).Respects R := by
  refine h.update (Store.appending fields) fun s => ?_
  unfold Store.append Store.newestFirst Store.appending
  cases fields.isEmpty with
  | true => rfl
  | false =>
      cases s.find key with
      | none => rfl
      | some stored => cases stored <;> rfl

/-- The events of a run are published alike where the key of their stream is steady. -/
theorem Journal.respects_publishRun (h : Store.Steady R store (Journal.streamKey session))
    (events : List Event) : (Journal.publishRun store session events).Respects R := by
  refine (Act.respects_ofExcept _).bind fun entries => ?_
  induction entries with
  | nil => exact Act.respects_pure 0
  | cons fields rest ih =>
      exact (h.append fields).bind fun _ => ih.bind fun _ => Act.respects_pure _

/-- A dispatched run respects what its context and the two keys of its session are steady for. -/
theorem Stage.Steady.dispatch {stage : Stage σ} (h : stage.Steady R)
    {ticket : Ticket} (hlease : Store.Steady R store (Lease.key ticket.session))
    (hstream : Store.Steady R store (Journal.streamKey ticket.session)) (ids : List Phrase) :
    (stage.dispatch store ticket ids).Respects R :=
  (Routine.respects_ofAct h.requireIdle).bind fun _ =>
    (Routine.respects_ofAct (Lease.respects_take hlease _)).bind fun _ =>
      Routine.Respects.ensure
        ((h.execute ticket.run ids).bind fun result =>
          (Routine.respects_ofAct (Journal.respects_publishRun hstream result.events)).bind fun _ =>
            Routine.respects_done result)
        (Routine.respects_ofAct (Lease.respects_release hlease _))

end Store

/-! ## In the background -/

/-- Two routines stand still in the same way, and go on alike. -/
inductive Halt.Alike (R : ι → σ → σ → Prop) : Halt σ α → Halt σ α → Prop
  | ended (result : Except Fault α) : Alike R (.ended result) (.ended result)
  | held (p : Pause) {k l : Answer → Routine σ α}
      (hnext : ∀ answer i s t, R i s t → Routine.Alike R i (k answer) s (l answer) t) :
      Alike R (.held p k) (.held p l)

/-- A sleeper that leaves all pauses open, and does alike in related states. -/
structure Routine.IsOpen (R : ι → σ → σ → Prop) (sleep : Pause → σ → Option Answer × σ) :
    Prop where
  unanswered : ∀ p s, (sleep p s).1 = none
  alike : ∀ p i s t, R i s t → R i (sleep p s).2 (sleep p t).2

/-- Tasks are alike if they have the same name and stand still alike. -/
def Task.Alike (R : ι → σ → σ → Prop) (task other : Task σ α) : Prop :=
  task.name = other.name ∧ task.halt.Alike R other.halt

/-- Schedules are alike if their tasks are, one by one. -/
def Schedule.Alike (R : ι → σ → σ → Prop) (schedule other : Schedule σ α) : Prop :=
  List.Forall₂ (Task.Alike R) schedule.tasks other.tasks

section Background

variable {sleep : Pause → σ → Option Answer × σ} {schedule other : Schedule σ α}

/-- Routines that do alike stand still alike, in related states. -/
theorem Routine.Alike.settle (hsleep : Routine.IsOpen R sleep) {r q : Routine σ α} {i : ι}
    {s t : σ} (h : Alike R i r s q t) :
    (r.settle sleep s).1.Alike R (q.settle sleep t).1 ∧
      R i (r.settle sleep s).2 (q.settle sleep t).2 := by
  induction h with
  | done h => exact ⟨.ended _, h⟩
  | fail h => exact ⟨.ended _, h⟩
  | get _ ih => exact ih
  | put _ ih => exact ih
  | @pause i p k l s t h hnext _ =>
      have hs := hsleep.unanswered p s
      have ht := hsleep.unanswered p t
      have hstate := hsleep.alike p i s t h
      unfold Routine.settle
      cases hleft : sleep p s with
      | mk answer s' =>
          cases hright : sleep p t with
          | mk answer' t' =>
              rw [hleft] at hs hstate
              rw [hright] at ht hstate
              obtain rfl : answer = none := hs
              obtain rfl : answer' = none := ht
              exact ⟨.held p hnext, hstate⟩

/-- Tasks that stand still alike are put alike into schedules that are alike. -/
theorem Schedule.Alike.insert (h : schedule.Alike R other) (name : String) {halt halt' : Halt σ α}
    (hhalt : halt.Alike R halt') :
    (schedule.insert name halt).Alike R (other.insert name halt') := by
  refine List.rel_append ?_ (.cons ⟨rfl, hhalt⟩ .nil)
  refine List.rel_filter (fun task task' htask => ?_) h
  show (task.name != name) = true ↔ (task'.name != name) = true
  rw [htask.1]

/-- Under one name stand tasks that are alike, or none in either schedule. -/
theorem Schedule.Alike.find? (h : schedule.Alike R other) (name : String) :
    Option.Rel (Task.Alike R) (schedule.find? name) (other.find? name) := by
  obtain ⟨tasks⟩ := schedule
  obtain ⟨others⟩ := other
  change List.Forall₂ (Task.Alike R) tasks others at h
  show Option.Rel _ (tasks.find? _) (others.find? _)
  induction h with
  | nil => exact .none
  | @cons task task' rest rest' htask hrest ih =>
      rw [List.find?_cons, List.find?_cons, htask.1]
      cases task'.name == name with
      | true => exact .some htask
      | false => exact ih

variable (hsleep : Routine.IsOpen R sleep)

include hsleep

/-- A routine that is let go on leaves both schedules alike. -/
theorem Schedule.Alike.advance (h : schedule.Alike R other) (name : String) {r q : Routine σ α}
    {i : ι} {s t : σ} (hr : Routine.Alike R i r s q t) :
    (schedule.advance sleep name r s).1.Alike R (other.advance sleep name q t).1 ∧
      R i (schedule.advance sleep name r s).2 (other.advance sleep name q t).2 := by
  obtain ⟨hhalt, hstate⟩ := hr.settle hsleep
  exact ⟨h.insert name hhalt, hstate⟩

/-- A pause that is answered leaves both schedules alike. -/
theorem Schedule.Alike.answer (h : schedule.Alike R other) (name : String) (reply : Answer)
    {i : ι} {s t : σ} (hst : R i s t) :
    Option.Rel (fun result result' => result.1.Alike R result'.1 ∧ R i result.2 result'.2)
      (schedule.answer sleep name reply s) (other.answer sleep name reply t) := by
  have hfind := h.find? name
  unfold Schedule.answer
  generalize schedule.find? name = found at hfind
  generalize other.find? name = found' at hfind
  cases hfind with
  | none => exact .none
  | @some found found' hfound =>
      obtain ⟨_, halt⟩ := found
      obtain ⟨_, halt'⟩ := found'
      obtain ⟨-, hhalt⟩ := hfound
      cases hhalt with
      | ended result => exact .none
      | held p hnext => exact .some (h.advance hsleep name (hnext reply i s t hst))

end Background

end Gridwalk
